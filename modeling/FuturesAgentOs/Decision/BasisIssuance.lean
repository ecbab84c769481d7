import FuturesAgentOs.Decision.AuthorizationBasis
import FuturesAgentOs.PyModel.Machine
import FuturesAgentOs.SharedKernel.JsonObject

namespace FuturesAgentOs

open PyModel

/-!
# Bases are issued once

The two registries of bases, run together over any sequence of commands.

* `issued_once` — after a command answered with a basis, a later one for the same approval (the
  same mandate and plan) is answered with that basis or refused;
-/

/-- A command to one of the registries. -/
inductive BasisOp where
  | issue (request : GateRequest) (mandate : SimulationAutonomyMandate) (now : RecordedAt)
  | consume (approval : PlanApproval) (now : RecordedAt) (basisId : EntityId)
      (command : ConsumeCommand)

/-- What a command is answered. -/
inductive BasisAnswer where
  | issued (basis : Option AuthorizationBasis)
  | consumed (approval : PlanApproval) (basis : Option AuthorizationBasis)
  deriving DecidableEq

/-- The basis in an answer. -/
def BasisAnswer.basis? : Py BasisAnswer → Option AuthorizationBasis
  | .ok (.issued basis) => basis
  | .ok (.consumed _ basis) => basis
  | .error _ => none

/-- Both registries. -/
structure BasisRegistries where
  mandates : BasisIssuanceRegistry
  approvals : PlanApprovalRegistry
  deriving DecidableEq

namespace BasisRegistries

/-- Both registries as they are built. -/
def new : BasisRegistries := ⟨.new, .new⟩

section

variable [Hashlib]

/-- One command. -/
def step (s : BasisRegistries) : BasisOp → Py BasisAnswer × BasisRegistries
  | .issue request mandate now =>
    let answer := s.mandates.issue request mandate now
    (answer.1.map .issued, { s with mandates := answer.2 })
  | .consume approval now basisId command =>
    let answer := s.approvals.consume approval now basisId command
    (answer.1.map (fun a => .consumed a.1 a.2), { s with approvals := answer.2 })

/-- The machine of the commands. -/
def machine : Machine BasisRegistries BasisOp (Py BasisAnswer) := ⟨step⟩

end

end BasisRegistries

/-! ### One command -/

namespace BasisIssuanceRegistry

variable [Hashlib] {s : BasisIssuanceRegistry} {request : GateRequest}
  {mandate : SimulationAutonomyMandate} {now : RecordedAt}

/-- An entry is never changed. -/
theorem issue_persists {key : EntityId × ℤ × EntityId × ℤ} {entry : Text × AuthorizationBasis}
    (h : s.issued.get? key = some entry) :
    (s.issue request mandate now).2.issued.get? key = some entry := by
  unfold issue
  split
  · exact h
  · split
    · exact h
    · rename_i hnone
      split
      · exact h
      · have hne : key ≠ BasisIssuanceRegistry.key request mandate := by
          rintro rfl
          rw [hnone] at h
          cases h
        show (Dict.set _ _ _).get? key = some entry
        rw [Dict.get?_set, if_neg hne, h]

/-- **An answer with a basis** leaves that basis under the key, with the fingerprint. -/
theorem issue_eq_some {basis : AuthorizationBasis}
    (h : (s.issue request mandate now).1 = .ok (some basis)) :
    ∃ digest, fingerprint request mandate = .ok digest
      ∧ (s.issue request mandate now).2.issued.get? (key request mandate)
        = some (digest, basis) := by
  unfold issue at h ⊢
  split at h
  · cases h
  · rename_i digest hdigest
    refine ⟨digest, hdigest, ?_⟩
    split at h
    · rename_i entry hentry
      have hif : (if entry.1 = digest then some entry.2 else none) = some basis :=
        Except.ok.inj h
      split at hif
      · rename_i hfingerprint
        have hbasis := Option.some.inj hif
        show s.issued.get? _ = _
        rw [hentry, ← hfingerprint, ← hbasis]
      · cases hif
    · split at h
      · cases h
      · rename_i new hnew
        have hbasis := Option.some.inj (Except.ok.inj h)
        show (Dict.set _ _ _).get? _ = _
        rw [Dict.get?_set, if_pos rfl, hbasis]

/-- **A command under a known key** is answered with the known basis exactly when its
fingerprint is the known one, and refused otherwise. -/
theorem issue_of_known {entry : Text × AuthorizationBasis}
    (h : s.issued.get? (key request mandate) = some entry) (now : RecordedAt) :
    BasisAnswer.basis? ((s.issue request mandate now).1.map .issued)
      = if fingerprint request mandate = .ok entry.1 then some entry.2 else none := by
  unfold issue
  split
  · rename_i e he
    rw [he, if_neg (by rintro ⟨⟩)]
    rfl
  · rename_i digest hdigest
    rw [hdigest]
    simp only [h]
    by_cases hfingerprint : entry.1 = digest
    · rw [if_pos hfingerprint, if_pos (congrArg Except.ok hfingerprint.symm)]
      rfl
    · rw [if_neg hfingerprint, if_neg (fun heq => hfingerprint (Except.ok.inj heq).symm)]
      rfl

end BasisIssuanceRegistry

namespace PlanApprovalRegistry

variable [Hashlib] {s : PlanApprovalRegistry} {approval : PlanApproval} {now : RecordedAt}
  {basisId : EntityId} {command : ConsumeCommand}

/-- What is remembered of an approval is never changed. -/
theorem consume_persists {approvalId : EntityId} {entry : ConsumedApproval}
    (h : s.consumed.get? approvalId = some entry) :
    (s.consume approval now basisId command).2.consumed.get? approvalId = some entry := by
  unfold consume
  split
  · split
    · exact h
    · split
      · exact h
      · exact h
  · rename_i hnone
    split
    · exact h
    · split
      · exact h
      · split
        · exact h
        · have hne : approvalId ≠ approval.fields.approvalId := by
            rintro rfl
            rw [hnone] at h
            cases h
          show (Dict.set _ _ _).get? approvalId = some entry
          rw [Dict.get?_set, if_neg hne, h]

/-- What the registry remembers when it answers a command with a basis. -/
structure Remembers (entry : ConsumedApproval) (approval : PlanApproval)
    (command : ConsumeCommand) (basis : AuthorizationBasis) : Prop where
  grantedHash : approval.grantedAuthorizationHash = .ok entry.grantedHash
  command : command.SameAs entry.command
  basis : entry.basis = basis

omit [Hashlib] in
theorem notGranted_basis {answer : PlanApproval × Option AuthorizationBasis}
    (h : notGranted approval now = .ok answer) : answer.2 = none := by
  unfold notGranted at h
  split at h
  · obtain ⟨expired, -, h⟩ := Py.of_bind h
    rw [← Except.ok.inj h]
  · rw [← Except.ok.inj h]

omit [Hashlib] in
theorem status_of_granted (h : approval.statusAt now = .GRANTED) :
    approval.fields.status = .GRANTED := by
  unfold PlanApproval.statusAt at h
  split at h
  · cases h
  · exact h

/-- **An answer with a basis** leaves the grant, the command and the basis remembered. -/
theorem consume_eq_some {consumed : PlanApproval} {basis : AuthorizationBasis}
    (h : (s.consume approval now basisId command).1 = .ok (consumed, some basis)) :
    ∃ entry, Remembers entry approval command basis
      ∧ (s.consume approval now basisId command).2.consumed.get? approval.fields.approvalId
        = some entry := by
  unfold consume at h ⊢
  split at h
  · rename_i previous hprevious
    split at h
    · cases h
    · rename_i grantedHash hgranted
      split at h
      · rename_i hsame
        have hbasis := Option.some.inj (congrArg Prod.snd (Except.ok.inj h))
        refine ⟨previous, ⟨hgranted.trans (congrArg Except.ok hsame.1), hsame.2.1, hbasis⟩, ?_⟩
        rw [if_pos hsame]
        exact hprevious
      · cases congrArg Prod.snd (Except.ok.inj h)
  · split at h
    · cases (notGranted_basis h : some basis = none)
    · rename_i hstatus
      split at h
      · cases congrArg Prod.snd (Except.ok.inj h)
      · rename_i hcovers
        split at h
        · cases h
        · rename_i entry hfirst
          have hbasis := Option.some.inj (congrArg Prod.snd (Except.ok.inj h))
          have hgranted := status_of_granted (not_not.mp hstatus)
          unfold firstConsumption at hfirst
          obtain ⟨newBasis, -, hfirst⟩ := Py.of_bind hfirst
          obtain ⟨newConsumed, -, hfirst⟩ := Py.of_bind hfirst
          obtain ⟨hash, hhash, hfirst⟩ := Py.of_bind hfirst
          have hentry := (Except.ok.inj hfirst).symm
          refine ⟨entry, ⟨?_, ?_, hbasis⟩, ?_⟩
          · rw [PlanApproval.grantedAuthorizationHash, hgranted, hentry]
            exact hhash
          · rw [hentry]
            exact ⟨rfl, rfl⟩
          · rw [if_neg hstatus, if_neg hcovers]
            show (Dict.set _ _ _).get? _ = _
            rw [Dict.get?_set, if_pos rfl]

/-- **A command for a known approval** is answered with the known basis exactly when it repeats
the grant and the command within the scope's window, and refused otherwise. -/
theorem consume_of_known {entry : ConsumedApproval}
    (h : s.consumed.get? approval.fields.approvalId = some entry) (now : RecordedAt)
    (basisId : EntityId) (command : ConsumeCommand) :
    BasisAnswer.basis? ((s.consume approval now basisId command).1.map
        (fun a => .consumed a.1 a.2))
      = if approval.grantedAuthorizationHash = .ok entry.grantedHash
          ∧ command.SameAs entry.command ∧ approval.fields.scope.PermitsCommand command now
        then some entry.basis else none := by
  unfold consume
  simp only [h]
  split
  · rename_i e he
    rw [if_neg (fun hall => by rw [he] at hall; cases hall.1)]
    rfl
  · rename_i grantedHash hgranted
    by_cases hall : grantedHash = entry.grantedHash ∧ command.SameAs entry.command
        ∧ approval.fields.scope.PermitsCommand command now
    · rw [if_pos hall, if_pos ⟨hgranted.trans (congrArg Except.ok hall.1), hall.2⟩]
      rfl
    · rw [if_neg hall, if_neg]
      · rfl
      · intro hall'
        have heq := hgranted.symm.trans hall'.1
        exact hall ⟨Except.ok.inj heq, hall'.2⟩

end PlanApprovalRegistry

/-! ### What a fingerprint binds -/

/-- The texts of the request survive JSON. -/
def GateRequest.IsJsonSafe (r : GateRequest) : Prop :=
  r.fields.instrument.IsJsonSafe ∧ r.fields.strategy.IsJsonSafe ∧ r.fields.session.IsJsonSafe

namespace BasisIssuanceRegistry

variable [Hashlib]

/-- The two requests, each under its mandate, agree in every field that a basis is bound to. -/
structure SameBoundFields (request request' : GateRequest)
    (mandate mandate' : SimulationAutonomyMandate) : Prop where
  sourceHash : mandate.authorizationHash = mandate'.authorizationHash
  planHash : request.fields.planHash = request'.fields.planHash
  accountId : request.fields.accountId = request'.fields.accountId
  instrument : request.fields.instrument = request'.fields.instrument
  strategy : request.fields.strategy = request'.fields.strategy
  session : request.fields.session = request'.fields.session
  action : request.fields.action = request'.fields.action
  quantity : request.fields.quantity = request'.fields.quantity
  expiresAt : mandate.fields.expiresAt = mandate'.fields.expiresAt
  scope : mandate.fields.scope.digest = mandate'.fields.scope.digest

variable {request request' : GateRequest} {mandate mandate' : SimulationAutonomyMandate}

omit [Hashlib] in
theorem nodup_boundItems (request : GateRequest) (mandate : SimulationAutonomyMandate)
    (sourceHash scope : Text) :
    ((boundItems request mandate sourceHash scope).map Prod.fst).Nodup := by
  show (["source_hash", "plan_hash", "account", "instrument", "strategy", "session", "action",
    "quantity", "expiry", "scope"] : List Text).Nodup
  decide +kernel

omit [Hashlib] in
theorem isSafe_boundItems (h : request.IsJsonSafe) (mandate : SimulationAutonomyMandate)
    {sourceHash scope : Text} (hsource : sourceHash.IsHexDigest)
    (hscope : scope.IsHexDigest) :
    (Json.obj (boundItems request mandate sourceHash scope)).IsSafe := by
  have hplan : request.fields.planHash.IsHexDigest := by
    have hvalid : GateRequestFields.postInit request.fields = .ok () := request.valid
    rw [GateRequestFields.postInit, check_bind_eq_ok, check_bind_eq_ok] at hvalid
    exact require_eq_ok.mp hvalid.2.1
  have haction : request.fields.action.value.IsAscii := by
    rcases request.fields.action <;> decide
  have hhex : ∀ {t : Text}, t.IsHexDigest → t.IsJsonSafe :=
    fun ht => (Text.IsHexDigest.isAscii ht).isJsonSafe
  have hkeys : ∀ k ∈ (boundItems request mandate sourceHash scope).map Prod.fst,
      Text.IsAscii k := by
    show ∀ k ∈ (["source_hash", "plan_hash", "account", "instrument", "strategy", "session",
      "action", "quantity", "expiry", "scope"] : List Text), Text.IsAscii k
    decide +kernel
  apply Json.isSafe_obj rfl (nodup_boundItems _ _ _ _) (fun k hk => (hkeys k hk).isJsonSafe)
  simp only [boundItems, List.forall_mem_cons, Json.IsSafe]
  exact ⟨hhex hsource, hhex hplan, request.fields.accountId.isAscii_str.isJsonSafe, h.1, h.2.1,
    h.2.2, haction.isJsonSafe, request.fields.quantity.isAscii_str.isJsonSafe,
    mandate.fields.expiresAt.isAscii_text.isJsonSafe, hhex hscope, by simp⟩

theorem SameBoundFields.fingerprint_eq (h : SameBoundFields request request' mandate mandate') :
    fingerprint request mandate = fingerprint request' mandate' := by
  simp only [fingerprint, boundItems, h.sourceHash, h.scope, h.planHash, h.accountId,
    h.instrument, h.strategy, h.session, h.action, h.quantity, h.expiresAt]

/-- The canonical JSON of two requests collides under the digest. -/
def Collides (request request' : GateRequest) (mandate mandate' : SimulationAutonomyMandate) :
    Prop :=
  ∃ sourceHash scope sourceHash' scope',
    mandate.authorizationHash = .ok sourceHash ∧ mandate.fields.scope.digest = .ok scope
      ∧ mandate'.authorizationHash = .ok sourceHash' ∧ mandate'.fields.scope.digest = .ok scope'
      ∧ Collide (.obj (boundItems request mandate sourceHash scope))
        (.obj (boundItems request' mandate' sourceHash' scope'))

/-- **What a fingerprint binds.**  Requests of one fingerprint agree in every bound field, or
their canonical texts collide. -/
theorem sameBoundFields_or_collides (h : request.IsJsonSafe) (h' : request'.IsJsonSafe)
    {digest : Text} (hdigest : fingerprint request mandate = .ok digest)
    (heq : fingerprint request mandate = fingerprint request' mandate') :
    SameBoundFields request request' mandate mandate'
      ∨ Collides request request' mandate mandate' := by
  rw [heq] at hdigest
  have hdigest' := heq.trans hdigest
  obtain ⟨sourceHash, hsource, hrest⟩ := Py.of_bind hdigest'
  obtain ⟨scope, hscope, hdigest'⟩ := Py.of_bind hrest
  obtain ⟨sourceHash', hsource', hrest'⟩ := Py.of_bind hdigest
  obtain ⟨scope', hscope', hdigest⟩ := Py.of_bind hrest'
  have hsafe := isSafe_boundItems h mandate
    (SimulationAutonomyMandate.isHexDigest_of_authorizationHash hsource)
    (isHexDigest_of_canonicalSha256 hscope)
  have hsafe' := isSafe_boundItems h' mandate'
    (SimulationAutonomyMandate.isHexDigest_of_authorizationHash hsource')
    (isHexDigest_of_canonicalSha256 hscope')
  rcases sortKeys_eq_or_collide hsafe hsafe' (hdigest'.trans hdigest.symm) with hkeys | hcollide
  · left
    have hstr : ∀ (key : Text) {t t' : Text},
        Json.lookup key (boundItems request mandate sourceHash scope) = some (.str t) →
        Json.lookup key (boundItems request' mandate' sourceHash' scope') = some (.str t') →
        t = t' := fun key => Json.str_of_sortKeys_eq (nodup_boundItems _ _ _ _)
          (nodup_boundItems _ _ _ _) hkeys
    exact {
      sourceHash := by rw [hsource, hsource', hstr "source_hash" rfl rfl]
      planHash := hstr "plan_hash" rfl rfl
      accountId := EntityId.str_inj (hstr "account" rfl rfl)
      instrument := hstr "instrument" rfl rfl
      strategy := hstr "strategy" rfl rfl
      session := hstr "session" rfl rfl
      action := ApprovalAction.value_inj (hstr "action" rfl rfl)
      quantity := Decimal.str_inj (hstr "quantity" rfl rfl)
      expiresAt := RecordedAt.text_inj (hstr "expiry" rfl rfl)
      scope := by rw [hscope, hscope', hstr "scope" rfl rfl] }
  · exact Or.inr ⟨sourceHash, scope, sourceHash', scope', hsource, hscope, hsource', hscope',
      hcollide⟩

end BasisIssuanceRegistry

/-! ### Every run -/

namespace BasisRegistries

variable [Hashlib]

/-- What is remembered under a mandate stays, whatever the command. -/
theorem entry_persists {key : EntityId × ℤ × EntityId × ℤ} {entry : Text × AuthorizationBasis}
    (s : BasisRegistries) (ops : List BasisOp) (h : s.mandates.issued.get? key = some entry) :
    (machine.exec s ops).mandates.issued.get? key = some entry := by
  let Kept (s : BasisRegistries) : Prop := s.mandates.issued.get? key = some entry
  have hstep : ∀ s op, Kept s → Kept (machine.next s op) := by
    intro s op hs
    cases op with
    | issue request mandate now => exact BasisIssuanceRegistry.issue_persists hs
    | consume approval now basisId command => exact hs
  exact machine.exec_invariant hstep h ops

/-- What is remembered of an approval stays, whatever the command. -/
theorem grant_persists {approvalId : EntityId} {entry : ConsumedApproval}
    (s : BasisRegistries) (ops : List BasisOp)
    (h : s.approvals.consumed.get? approvalId = some entry) :
    (machine.exec s ops).approvals.consumed.get? approvalId = some entry := by
  let Kept (s : BasisRegistries) : Prop := s.approvals.consumed.get? approvalId = some entry
  have hstep : ∀ s op, Kept s → Kept (machine.next s op) := by
    intro s op hs
    cases op with
    | issue request mandate now => exact hs
    | consume approval now basisId command =>
      exact PlanApprovalRegistry.consume_persists hs
  exact machine.exec_invariant hstep h ops

/-- The basis that a command is answered with after a run. -/
def basisAfter (s : BasisRegistries) (ops : List BasisOp) (op : BasisOp) :
    Option AuthorizationBasis :=
  BasisAnswer.basis? (machine.out (machine.exec s ops) op)

variable {basis : AuthorizationBasis} {mandate : SimulationAutonomyMandate} {now : RecordedAt}
  {ops : List BasisOp} {request : GateRequest} {s : BasisRegistries}

theorem issue_of_basisAfter (h : basisAfter s ops (.issue request mandate now) = some basis) :
    ((machine.exec s ops).mandates.issue request mandate now).1 = .ok (some basis) := by
  have hmap : BasisAnswer.basis?
      (((machine.exec s ops).mandates.issue request mandate now).1.map .issued) = some basis := h
  rcases hissue : ((machine.exec s ops).mandates.issue request mandate now).1 with e | answer
  · rw [hissue] at hmap
    cases hmap
  · rw [hissue] at hmap
    exact congrArg Except.ok hmap

theorem consume_of_basisAfter {approval : PlanApproval} {basisId : EntityId} {command : ConsumeCommand}
    (h : basisAfter s ops (.consume approval now basisId command) = some basis) :
    ∃ consumed, ((machine.exec s ops).approvals.consume approval now basisId command).1
      = .ok (consumed, some basis) := by
  have hmap : BasisAnswer.basis? (((machine.exec s ops).approvals.consume approval now basisId
      command).1.map (fun a => .consumed a.1 a.2)) = some basis := h
  rcases hconsume : ((machine.exec s ops).approvals.consume approval now basisId command).1
    with e | ⟨consumed, answer⟩
  · rw [hconsume] at hmap
    cases hmap
  · rw [hconsume] at hmap
    exact ⟨consumed, congrArg (fun b => Except.ok (consumed, b)) hmap⟩

theorem exists_fingerprint (h : basisAfter s ops (.issue request mandate now) = some basis) :
    ∃ digest, BasisIssuanceRegistry.fingerprint request mandate = .ok digest := by
  obtain ⟨digest, hdigest, -⟩ := BasisIssuanceRegistry.issue_eq_some (issue_of_basisAfter h)
  exact ⟨digest, hdigest⟩

/-- **One basis under a mandate.** -/
theorem issue_once {before : List BasisOp}
    {request' : GateRequest} {mandate' : SimulationAutonomyMandate}
    (hkey : BasisIssuanceRegistry.key request' mandate' = BasisIssuanceRegistry.key request mandate)
    (h : basisAfter s before (.issue request mandate now) = some basis) (between : List BasisOp)
    (now' : RecordedAt) : basisAfter s (before ++ .issue request mandate now :: between)
        (.issue request' mandate' now')
      = if BasisIssuanceRegistry.fingerprint request' mandate'
          = BasisIssuanceRegistry.fingerprint request mandate then some basis else none := by
  obtain ⟨digest, hdigest, hentry⟩ := BasisIssuanceRegistry.issue_eq_some (issue_of_basisAfter h)
  have hlater :
      (machine.exec s (before ++ .issue request mandate now :: between)).mandates.issued.get?
      (BasisIssuanceRegistry.key request' mandate') = some (digest, basis) := by
    rw [Machine.exec_append, Machine.exec_cons, hkey]
    exact entry_persists _ between hentry
  have hknown := BasisIssuanceRegistry.issue_of_known hlater now'
  rw [hdigest]
  exact hknown

/-- **One basis under an approval.** -/
theorem consume_once {before : List BasisOp}
    {approval approval' : PlanApproval} {basisId : EntityId} {command : ConsumeCommand}
    (happroval : approval'.fields.approvalId = approval.fields.approvalId)
    (h : basisAfter s before (.consume approval now basisId command) = some basis)
    (between : List BasisOp) (now' : RecordedAt) (basisId' : EntityId) (command' : ConsumeCommand) :
    basisAfter s (before ++ .consume approval now basisId command :: between)
        (.consume approval' now' basisId' command')
      = if approval'.grantedAuthorizationHash = approval.grantedAuthorizationHash
          ∧ command'.SameAs command ∧ approval'.fields.scope.PermitsCommand command' now'
        then some basis else none := by
  obtain ⟨consumed, hanswer⟩ := consume_of_basisAfter h
  obtain ⟨entry, hremembers, hentry⟩ := PlanApprovalRegistry.consume_eq_some hanswer
  have hlater : (machine.exec s
      (before ++ .consume approval now basisId command :: between)).approvals.consumed.get?
        approval'.fields.approvalId = some entry := by
    rw [Machine.exec_append, Machine.exec_cons, happroval]
    exact grant_persists _ between hentry
  have hknown := PlanApprovalRegistry.consume_of_known hlater now' basisId' command'
  have hsame : command'.SameAs entry.command ↔ command'.SameAs command :=
    ⟨fun hc => hc.trans hremembers.command.symm, fun hc => hc.trans hremembers.command⟩
  rw [hremembers.grantedHash]
  simp only [hremembers.basis, hsame] at hknown
  exact hknown

/-- **Bases are issued once.**  Take any registries, any run of commands, and two commands of
the run, the first of which was answered with a basis.

Under one approval the second is answered with the same basis exactly when it repeats the grant
and the command while the scope permits it, and refused otherwise.  Under one version of a
mandate and of a plan it is answered with the same basis or refused: with the same basis when it
agrees in every bound field, and refused when it differs in one, unless the two canonical texts
collide under the digest. -/
theorem issued_once (s : BasisRegistries) (before between : List BasisOp) :
    (∀ (approval approval' : PlanApproval) (now now' : RecordedAt) (basisId basisId' : EntityId)
        (command command' : ConsumeCommand) (basis : AuthorizationBasis),
      approval'.fields.approvalId = approval.fields.approvalId →
      basisAfter s before (.consume approval now basisId command) = some basis →
      basisAfter s (before ++ .consume approval now basisId command :: between)
          (.consume approval' now' basisId' command')
        = if approval'.grantedAuthorizationHash = approval.grantedAuthorizationHash
            ∧ command'.SameAs command ∧ approval'.fields.scope.PermitsCommand command' now'
          then some basis else none)
    ∧ (∀ (request request' : GateRequest) (mandate mandate' : SimulationAutonomyMandate)
        (now now' : RecordedAt) (basis : AuthorizationBasis),
      BasisIssuanceRegistry.key request' mandate' = BasisIssuanceRegistry.key request mandate →
      basisAfter s before (.issue request mandate now) = some basis →
      let answer := basisAfter s (before ++ .issue request mandate now :: between)
        (.issue request' mandate' now')
      (answer = some basis ∨ answer = none)
      ∧ (BasisIssuanceRegistry.SameBoundFields request' request mandate' mandate →
        answer = some basis)
      ∧ (request.IsJsonSafe → request'.IsJsonSafe →
        ¬ BasisIssuanceRegistry.SameBoundFields request' request mandate' mandate →
        answer = none ∨ BasisIssuanceRegistry.Collides request' request mandate' mandate)) := by
  constructor
  · intro approval approval' now now' basisId basisId' command command' basis happroval h
    exact consume_once happroval h between now' basisId' command'
  · intro request request' mandate mandate' now now' basis hkey h
    have hanswer := issue_once hkey h between now'
    refine ⟨?_, ?_, ?_⟩
    · rw [hanswer]
      split
      · exact Or.inl rfl
      · exact Or.inr rfl
    · intro hsame
      rw [hanswer, if_pos hsame.fingerprint_eq]
    · intro hsafe hsafe' hdiffer
      rw [hanswer]
      by_cases hfingerprint : BasisIssuanceRegistry.fingerprint request' mandate'
          = BasisIssuanceRegistry.fingerprint request mandate
      · right
        obtain ⟨digest, hdigest⟩ := exists_fingerprint h
        have hbound := BasisIssuanceRegistry.sameBoundFields_or_collides hsafe' hsafe
          (hfingerprint.trans hdigest) hfingerprint
        exact hbound.resolve_left hdiffer
      · exact Or.inl (if_neg hfingerprint)

end BasisRegistries

/-! ### A replay that comes too late -/

section

/-- A day of July 2026. -/
private def july (day : ℕ) (h : Date.isDate 2026 7 day = true) : RecordedAt :=
  ⟨.of 2026 7 day h, 0, 0, 0, 0⟩

/-- An approval of one plan, granted, with a scope of two days. -/
def sampleApproval : PlanApproval where
  fields :=
    { approvalId := .epoch "plan_approval" 0 0 (Eq.refl true)
      version := 2
      status := .GRANTED
      planId := .epoch "trade_plan" 0 0 (Eq.refl true)
      planVersion := 1
      planHash := List.replicate 64 (Text.ofChar 'a')
      accountId := .epoch "simulation_account" 0 0 (Eq.refl true)
      scope :=
        { fields :=
            { simulationAccountId := .epoch "simulation_account" 0 0 (Eq.refl true)
              instruments := ["SHFE:AG"]
              strategies := ["trend"]
              sessions := ["day"]
              actions := {.OPEN}
              quantityCeiling := Decimal.ofNat 1
              validFromAt := july 13 (Eq.refl true)
              validUntilAt := july 15 (Eq.refl true) }
          valid := by decide +kernel }
      approvalToken := .epoch "approval_token" 0 0 (Eq.refl true)
      requestedBy := "user:trader"
      expiresAt := july 20 (Eq.refl true)
      requestedAt := july 13 (Eq.refl true)
      decidedAt := some (july 13 (Eq.refl true))
      decidedBy := some "user:trader" }
  valid := by decide +kernel

/-- A command within the scope of the sample approval. -/
def sampleCommand : ConsumeCommand where
  planId := sampleApproval.fields.planId
  planVersion := sampleApproval.fields.planVersion
  planHash := sampleApproval.fields.planHash
  accountId := sampleApproval.fields.accountId
  instrument := "SHFE:AG"
  strategy := "trend"
  session := "day"
  action := .OPEN
  quantity := Decimal.ofNat 1

/-- The sample approval is consumed by the sample command. -/
def sampleConsumption (now : RecordedAt) : BasisOp :=
  .consume sampleApproval now (.epoch "authorization_basis" 0 0 (Eq.refl true)) sampleCommand

/-- The command that was answered with a basis is refused when it is issued again after the
window of the scope. -/
theorem replay_refused_after_window :
    (∃ basis, BasisRegistries.basisAfter .new [] (sampleConsumption (july 13 (Eq.refl true)))
        = some basis)
      ∧ BasisRegistries.basisAfter .new [sampleConsumption (july 13 (Eq.refl true))]
        (sampleConsumption (july 15 (Eq.refl true))) = none := by
  have hfirst : (BasisRegistries.basisAfter .new []
      (sampleConsumption (july 13 (Eq.refl true)))).isSome = true := by
    decide +kernel
  obtain ⟨basis, hbasis⟩ := Option.isSome_iff_exists.mp hfirst
  refine ⟨⟨basis, hbasis⟩, ?_⟩
  have happroval : sampleApproval.fields.approvalId = sampleApproval.fields.approvalId := rfl
  have hlater := BasisRegistries.consume_once happroval hbasis [] (july 15 (Eq.refl true))
    (.epoch "authorization_basis" 0 0 (Eq.refl true)) sampleCommand
  exact hlater.trans (if_neg (by decide +kernel))

end

end FuturesAgentOs
