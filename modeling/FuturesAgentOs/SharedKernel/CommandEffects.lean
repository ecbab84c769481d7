import FuturesAgentOs.PyModel.JsonSurrogates
import FuturesAgentOs.SharedKernel.AuditChain

namespace FuturesAgentOs

open PyModel

/-!
# Commands and their effects

`shared_kernel/observability.py`: the canonical text that identifies a request, and the registry
that remembers the effect of a command under its idempotency key.

* `exactly_once` — what a run of the registry does for each idempotency key.
-/

/-! ### Canonical texts -/

def canonicalJsonText (value : Json) : Py Text :=
  match value.dumps with
  | none => .error (valueError "value must be finite JSON-compatible data")
  | some encoded => .ok encoded

/-- A value none of whose texts has a high surrogate before a low one. -/
def HasNoSurrogatePair (v : Json) : Prop := ∀ t ∈ v.texts, Text.IsJsonSafe t

instance (v : Json) : Decidable (HasNoSurrogatePair v) := List.decidableBAll _ _

/-- Two values that are equal up to the order of keys and up to joining surrogate pairs, and up to
the order of keys alone when they have no such pairs. -/
def WrittenAlike (v w : Json) : Prop :=
  v.written = w.written
    ∧ (HasNoSurrogatePair v → HasNoSurrogatePair w → v.sortKeys = w.sortKeys)

theorem writtenAlike_of_dumps_eq {v w : Json} {text : Text} (hv : v.dumps = some text)
    (hw : w.dumps = some text) : WrittenAlike v w := by
  have hwritten := Json.written_eq_of_dumps_eq hv hw
  refine ⟨hwritten, fun hnone hnone' => ?_⟩
  rw [← Json.written_eq_sortKeys hnone, ← Json.written_eq_sortKeys hnone', hwritten]

theorem dumps_of_canonicalJsonText {v : Json} {text : Text}
    (h : canonicalJsonText v = .ok text) : v.dumps = some text := by
  unfold canonicalJsonText at h
  split at h
  · cases h
  · rename_i encoded hdumps
    rw [hdumps, Except.ok.inj h]

section

variable [Hashlib]

theorem canonicalSha256_eq (value : Json) : canonicalSha256 value
    = canonicalJsonText value >>= fun encoded =>
        match encoded.encodeUtf8 with
        | none => .error ⟨.unicodeEncodeError, "surrogates not allowed"⟩
        | some bytes => .ok (sha256 bytes).hexdigest := by
  rw [canonicalSha256, canonicalJsonText]
  rcases value.dumps with _ | encoded <;> rfl

/-- **Identity.**  Values with one canonical text are written alike, and values with one digest are
written alike or collide. -/
theorem canonical_identity (v w : Json) :
    (∀ text, canonicalJsonText v = .ok text → canonicalJsonText w = .ok text → WrittenAlike v w)
      ∧ ∀ digest, canonicalSha256 v = .ok digest → canonicalSha256 w = .ok digest →
          WrittenAlike v w ∨ Collide v w := by
  refine ⟨fun text hv hw => writtenAlike_of_dumps_eq (dumps_of_canonicalJsonText hv)
    (dumps_of_canonicalJsonText hw), fun digest hv hw => ?_⟩
  by_cases hdumps : v.dumps = w.dumps
  · have hwrite : v.dumps = some v.render := if_pos (isWritable_of_canonicalSha256 hv)
    exact .inl (writtenAlike_of_dumps_eq hwrite (hdumps ▸ hwrite))
  · exact .inr ⟨hdumps, by rw [hv, hw]⟩

end

/-- Two mappings that differ in the order of their keys. -/
theorem canonical_identity_reordered :
    WrittenAlike (.obj [("b", .arr [.int 2]), ("a", .bool true)])
      (.obj [("a", .bool true), ("b", .arr [.int 2])]) :=
  (canonical_identity _ _).1 "\x7b\"a\":true,\"b\":[2]\x7d" (by decide) (by decide)

/-- A character beyond the basic plane and the text of its two surrogates are different values
with one canonical text. -/
theorem canonicalJsonText_surrogates :
    ∃ v w text, canonicalJsonText v = .ok text ∧ canonicalJsonText w = .ok text
      ∧ v.sortKeys ≠ w.sortKeys :=
  ⟨.str [⟨0x1f600, by decide⟩], .str [⟨0xd83d, by decide⟩, ⟨0xde00, by decide⟩],
    "\"\\ud83d\\ude00\"", by decide, by decide, by simp [Json.sortKeys]⟩

/-! ### Commands -/

section

variable [Hashlib]

/-- What an `IdempotentCommand` is made of. -/
structure IdempotentCommandFields where
  commandId : EntityId
  idempotencyKey : Text
  request : Json
  trace : TraceContext

/-- `IdempotentCommand.__post_init__`, with the digest that it sets. -/
def IdempotentCommandFields.postInit (f : IdempotentCommandFields) : Py Text := do
  require (f.idempotencyKey.strip ≠ [] ∧ f.idempotencyKey.length ≤ 255)
    (valueError "idempotency key must be non-empty and at most 255 characters")
  let request ← immutableJsonSnapshot f.request
  canonicalSha256 request

structure IdempotentCommand where
  fields : IdempotentCommandFields
  requestSha256 : Text
  /-- `__post_init__` set the digest -/
  valid : fields.postInit = .ok requestSha256

theorem IdempotentCommand.canonicalSha256_request (c : IdempotentCommand) :
    canonicalSha256 c.fields.request = .ok c.requestSha256 := by
  obtain ⟨-, h⟩ := of_require c.valid
  obtain ⟨request, hsnapshot, h⟩ := Py.of_bind h
  obtain ⟨-, hrequest⟩ := of_require hsnapshot
  rw [Except.ok.inj hrequest, h]

structure BusinessEffectFields where
  effectId : EntityId
  effectType : Text
  effectSha256 : Text
  deriving DecidableEq

def BusinessEffectFields.postInit (f : BusinessEffectFields) : Py Unit := do
  require (f.effectType ≠ []) (valueError "business effects require an effect type")
  require f.effectSha256.IsHexDigest
    (valueError "business effect hash must be a lowercase SHA-256 digest")

instance : Dataclass BusinessEffectFields := ⟨BusinessEffectFields.postInit⟩

abbrev BusinessEffect := Frozen BusinessEffectFields

inductive IdempotencyOutcome where
  | executed | replayed | conflict
  deriving DecidableEq

structure CommandEffectDecision where
  outcome : IdempotencyOutcome
  effect : Option BusinessEffect
  /-- a conflict has no effect, and every other decision has one -/
  consistent : outcome = .conflict ↔ effect = none

namespace CommandEffectDecision

def executed (effect : BusinessEffect) : CommandEffectDecision := ⟨.executed, some effect, by simp⟩

def replayed (effect : BusinessEffect) : CommandEffectDecision := ⟨.replayed, some effect, by simp⟩

def conflict : CommandEffectDecision := ⟨.conflict, none, by simp⟩

end CommandEffectDecision

structure EffectRegistryEntry where
  requestSha256 : Text
  effect : BusinessEffect
  deriving DecidableEq

/-- `CommandEffectRegistry`, and the commands whose callbacks run.  The lock is reentrant: it keeps
other threads out while a callback runs, but not the callback itself. -/
structure CommandEffectRegistry where
  entries : Dict Text EffectRegistryEntry := .empty
  /-- the innermost command first -/
  running : List IdempotentCommand := []

/-- What happens to the registry. -/
inductive RegistryEvent where
  /-- `execute` is called -/
  | execute (command : IdempotentCommand)
  /-- the innermost callback returns an effect -/
  | returned (effect : BusinessEffect)
  /-- the innermost callback returns something else -/
  | returnedOther
  /-- the innermost callback raises -/
  | raised (e : PyException)

/-- The innermost callback ends without an effect. -/
def RegistryEvent.Fails : RegistryEvent → Prop
  | .returnedOther => True
  | .raised _ => True
  | _ => False

/-- What becomes of a call of `execute`. -/
inductive RegistryAnswer where
  | decided (command : IdempotentCommand) (decision : CommandEffectDecision)
  | callback (command : IdempotentCommand)
  | raised (command : IdempotentCommand) (e : PyException)
  /-- there is no callback that could end -/
  | idle

namespace CommandEffectRegistry

/-- `execute` up to the callback. -/
def execute (r : CommandEffectRegistry) (command : IdempotentCommand) :
    RegistryAnswer × CommandEffectRegistry :=
  match r.entries.get? command.fields.idempotencyKey with
  | some existing =>
    if existing.requestSha256 ≠ command.requestSha256 then (.decided command .conflict, r)
    else (.decided command (.replayed existing.effect), r)
  | none => (.callback command, { r with running := command :: r.running })

/-- The innermost callback ends. -/
def finish (r : CommandEffectRegistry)
    (answer : IdempotentCommand → CommandEffectRegistry → RegistryAnswer × CommandEffectRegistry) :
    RegistryAnswer × CommandEffectRegistry :=
  match r.running with
  | [] => (.idle, r)
  | command :: outer => answer command { r with running := outer }

/-- `execute`, up to the callback and after it. -/
def machine : Machine CommandEffectRegistry RegistryEvent RegistryAnswer where
  step r
    | .execute command => r.execute command
    | .returned effect => r.finish fun command r =>
        (.decided command (.executed effect),
          { r with entries :=
              r.entries.set command.fields.idempotencyKey ⟨command.requestSha256, effect⟩ })
    | .returnedOther => r.finish fun command r =>
        (.raised command
          (typeError "idempotent command callbacks must return a BusinessEffect"), r)
    | .raised e => r.finish fun command r => (.raised command e, r)

/-! ### Runs -/

variable {r : CommandEffectRegistry} {command : IdempotentCommand} {key : Text}

/-- A command of the key that was executed, with its effect. -/
def executionOf (key : Text) : RegistryAnswer → Option (IdempotentCommand × BusinessEffect)
  | .decided command decision =>
    if command.fields.idempotencyKey = key ∧ decision.outcome = .executed then
      decision.effect.map (command, ·)
    else none
  | _ => none

/-- The executed commands of a key. -/
def executions (history : List (CommandEffectRegistry × RegistryEvent × RegistryAnswer))
    (key : Text) : List (IdempotentCommand × BusinessEffect) :=
  history.filterMap fun e => executionOf key e.2.2

/-- The entry that an executed command leaves. -/
def entryOf (execution : IdempotentCommand × BusinessEffect) : EffectRegistryEntry :=
  ⟨execution.1.requestSha256, execution.2⟩

/-- The callback of a command in progress does not execute a command under the same key. -/
def IsFresh (r : CommandEffectRegistry) : RegistryEvent → Prop
  | .execute command =>
    command.fields.idempotencyKey ∉ r.running.map fun c => c.fields.idempotencyKey
  | _ => True

/-- What the registry knows of its history. -/
structure Recorded (history : List (CommandEffectRegistry × RegistryEvent × RegistryAnswer))
    (r : CommandEffectRegistry) : Prop where
  entries : ∀ key, (executions history key).map entryOf = (r.entries.get? key).toList
  /-- a command in progress has no entry -/
  running : ∀ c ∈ r.running, r.entries.get? c.fields.idempotencyKey = none
  nodup : (r.running.map fun c => c.fields.idempotencyKey).Nodup

theorem execute_of_some {existing : EffectRegistryEntry}
    (h : r.entries.get? command.fields.idempotencyKey = some existing) :
    machine.step r (.execute command) = (.decided command
      (if existing.requestSha256 = command.requestSha256 then .replayed existing.effect
        else .conflict), r) := by
  show r.execute command = _
  rw [execute, h]
  by_cases hsha : existing.requestSha256 = command.requestSha256
  · simp [hsha]
  · simp [hsha]

theorem execute_of_none (h : r.entries.get? command.fields.idempotencyKey = none) :
    machine.step r (.execute command)
      = (.callback command, { r with running := command :: r.running }) := by
  show r.execute command = _
  rw [execute, h]

theorem executions_concat_of_none {answer : RegistryAnswer}
    (h : ∀ key, executionOf key answer = none) (history : List _) (r : CommandEffectRegistry)
    (event : RegistryEvent) (key : Text) :
    executions (history ++ [(r, event, answer)]) key = executions history key := by
  simp [executions, h]

section

variable {history : List (CommandEffectRegistry × RegistryEvent × RegistryAnswer)}

/-- The end of a callback leaves the commands around it. -/
theorem Recorded.pop (h : Recorded history r) {outer : List IdempotentCommand}
    (hrunning : r.running = command :: outer) : Recorded history { r with running := outer } where
  entries := h.entries
  running := fun c hc => h.running c (hrunning ▸ List.mem_cons_of_mem command hc)
  nodup := by
    have hnodup := h.nodup
    rw [hrunning, List.map_cons] at hnodup
    exact hnodup.of_cons

/-- A callback that ends without an effect. -/
theorem Recorded.finish_of_none (h : Recorded history r) {event : RegistryEvent}
    {answer : IdempotentCommand → RegistryAnswer}
    (hanswer : ∀ c key, executionOf key (answer c) = none)
    (hstep : machine.step r event = r.finish fun command r => (answer command, r)) :
    Recorded (history ++ [(r, event, machine.out r event)]) (machine.next r event) := by
  rw [Machine.out, Machine.next, hstep, finish]
  split
  · refine ⟨fun key => ?_, h.running, h.nodup⟩
    rw [executions_concat_of_none fun _ => rfl]
    exact h.entries key
  · rename_i command outer hrunning
    obtain ⟨hentries, hrest, hnodup⟩ := h.pop hrunning
    refine ⟨fun key => ?_, hrest, hnodup⟩
    rw [executions_concat_of_none (hanswer command)]
    exact hentries key

/-- **One step** keeps what the registry knows. -/
theorem Recorded.step (event : RegistryEvent) (hfresh : IsFresh r event) (h : Recorded history r) :
    Recorded (history ++ [(r, event, machine.out r event)]) (machine.next r event) := by
  cases event with
  | execute command =>
    rcases hget : r.entries.get? command.fields.idempotencyKey with _ | existing
    · rw [Machine.out, Machine.next, execute_of_none hget]
      refine ⟨fun key => ?_, fun c hc => ?_, ?_⟩
      · rw [executions_concat_of_none fun _ => rfl]
        exact h.entries key
      · rcases List.mem_cons.mp hc with rfl | hc
        · exact hget
        · exact h.running c hc
      · exact List.nodup_cons.mpr ⟨hfresh, h.nodup⟩
    · rw [Machine.out, Machine.next, execute_of_some hget]
      refine ⟨fun key => ?_, h.running, h.nodup⟩
      rw [executions_concat_of_none fun key => by
        split <;> simp [executionOf, CommandEffectDecision.replayed, CommandEffectDecision.conflict]]
      exact h.entries key
  | returned effect =>
    rcases hrunning : r.running with _ | ⟨command, outer⟩
    · have hstep : machine.step r (.returned effect) = (.idle, r) := by
        unfold machine
        dsimp only
        rw [finish, hrunning]
      rw [Machine.out, Machine.next, hstep]
      refine ⟨fun key => ?_, h.running, h.nodup⟩
      rw [executions_concat_of_none fun _ => rfl]
      exact h.entries key
    · have hstep : machine.step r (.returned effect)
          = (.decided command (.executed effect),
            ⟨r.entries.set command.fields.idempotencyKey ⟨command.requestSha256, effect⟩, outer⟩) := by
        unfold machine
        dsimp only
        rw [finish, hrunning]
      obtain ⟨hentries, hrest, hnodup⟩ := h.pop hrunning
      have hnone := h.running command (hrunning ▸ List.mem_cons_self)
      rw [Machine.out, Machine.next, hstep]
      refine ⟨fun key => ?_, fun c hc => ?_, hnodup⟩
      · have hconcat : executions (history ++ [(r, .returned effect,
              .decided command (.executed effect))]) key
            = executions history key
              ++ if command.fields.idempotencyKey = key then [(command, effect)] else [] := by
          by_cases hkey : command.fields.idempotencyKey = key <;>
            simp [executions, executionOf, CommandEffectDecision.executed, hkey]
        rw [hconcat, List.map_append, hentries, Dict.get?_set]
        by_cases hkey : command.fields.idempotencyKey = key
        · subst hkey
          simp [hnone, entryOf]
        · simp [hkey, Ne.symm hkey]
      · -- the commands around it have other keys
        have hnodup' := h.nodup
        rw [hrunning, List.map_cons, List.nodup_cons] at hnodup'
        have hne : c.fields.idempotencyKey ≠ command.fields.idempotencyKey := fun heq =>
          hnodup'.1 (heq ▸ List.mem_map_of_mem hc)
        show (r.entries.set _ _).get? c.fields.idempotencyKey = none
        rw [Dict.get?_set_of_ne _ _ hne]
        exact hrest c hc
  | returnedOther => exact h.finish_of_none (fun _ _ => rfl) rfl
  | raised e => exact h.finish_of_none (fun _ _ => rfl) rfl

end

/-- **Every run** of the registry. -/
theorem recorded_exec {events : List RegistryEvent} (h : machine.Meets IsFresh {} events) :
    Recorded (machine.trace {} events) (machine.exec {} events) :=
  machine.trace_invariant_of_meets (fun _ _ event hfresh h => h.step event hfresh)
    ⟨fun _ => rfl, fun _ hc => absurd hc List.not_mem_nil, List.nodup_nil⟩ h

theorem execute_of_mem {events : List RegistryEvent} (h : machine.Meets IsFresh {} events)
    {original : IdempotentCommand} {effect : BusinessEffect}
    (hmem : (original, effect) ∈ executions (machine.trace {} events)
      command.fields.idempotencyKey) :
    machine.step (machine.exec {} events) (.execute command) = (.decided command
      (if original.requestSha256 = command.requestSha256 then .replayed effect else .conflict),
      machine.exec {} events) := by
  have hentry : entryOf (original, effect)
      ∈ ((machine.exec {} events).entries.get? command.fields.idempotencyKey).toList := by
    rw [← (recorded_exec h).entries]
    exact List.mem_map_of_mem hmem
  exact execute_of_some (Option.mem_toList.mp hentry)

theorem requestSha256_eq {c c' : IdempotentCommand}
    (h : canonicalJsonText c.fields.request = canonicalJsonText c'.fields.request) :
    c.requestSha256 = c'.requestSha256 := by
  have hsha := c.canonicalSha256_request
  rw [canonicalSha256_eq, h, ← canonicalSha256_eq, c'.canonicalSha256_request] at hsha
  exact (Except.ok.inj hsha).symm

theorem writtenAlike_of_requestSha256_eq {c c' : IdempotentCommand}
    (h : c.requestSha256 = c'.requestSha256) :
    WrittenAlike c.fields.request c'.fields.request ∨ Collide c.fields.request c'.fields.request :=
  (canonical_identity _ _).2 _ c.canonicalSha256_request (h ▸ c'.canonicalSha256_request)

theorem next_of_fails {event : RegistryEvent} (h : event.Fails) {outer : List IdempotentCommand}
    (hrunning : r.running = command :: outer) : machine.next r event = ⟨r.entries, outer⟩ := by
  unfold Machine.next machine
  cases event with
  | execute command => exact h.elim
  | returned effect => exact h.elim
  | returnedOther => simp only [finish, hrunning]
  | raised e => simp only [finish, hrunning]

/-- **Exactly once.**  In every run whose callbacks execute no command under a key in progress, each
key has at most one executed command, whose effect is the recorded one; a later command under
the key runs no callback, changes nothing and gets the original effect when its request has the same
canonical text, and a conflict when its request is another one; and a callback that fails leaves
the entries as they are, so that the same command runs its callback again. -/
theorem exactly_once (events : List RegistryEvent) (h : machine.Meets IsFresh {} events) :
    (∀ key, (executions (machine.trace {} events) key).length ≤ 1
      ∧ (executions (machine.trace {} events) key).map entryOf
          = ((machine.exec {} events).entries.get? key).toList)
      ∧ (∀ pre command post, events = pre ++ .execute command :: post → ∀ original effect,
          (original, effect) ∈ executions (machine.trace {} pre) command.fields.idempotencyKey →
          machine.next (machine.exec {} pre) (.execute command) = machine.exec {} pre
            ∧ (canonicalJsonText command.fields.request
                = canonicalJsonText original.fields.request →
              machine.out (machine.exec {} pre) (.execute command)
                = .decided command (.replayed effect))
            ∧ (¬ WrittenAlike original.fields.request command.fields.request →
              ¬ Collide original.fields.request command.fields.request →
              machine.out (machine.exec {} pre) (.execute command) = .decided command .conflict))
      ∧ ∀ pre event post, events = pre ++ event :: post → event.Fails → ∀ command outer,
          (machine.exec {} pre).running = command :: outer →
          (machine.next (machine.exec {} pre) event).entries = (machine.exec {} pre).entries
            ∧ machine.out (machine.next (machine.exec {} pre) event) (.execute command)
              = .callback command := by
  have hbefore : ∀ {pre post}, events = pre ++ post → machine.Meets IsFresh {} pre := by
    rintro pre post rfl
    exact (machine.meets_append.mp h).1
  refine ⟨fun key => ⟨?_, (recorded_exec h).entries key⟩, fun pre command post heq original effect
    hmem => ?_, fun pre event post heq hfails command outer hrunning => ?_⟩
  · have hlength := congrArg List.length ((recorded_exec h).entries key)
    rw [List.length_map] at hlength
    rw [hlength]
    rcases (machine.exec {} events).entries.get? key with _ | entry
    · exact Nat.zero_le 1
    · exact Nat.le_refl 1
  · have hstep := execute_of_mem (hbefore heq) hmem
    rw [Machine.next, Machine.out, hstep]
    refine ⟨rfl, fun hrequest => ?_, fun hdifferent hcollide => ?_⟩
    · rw [if_pos (requestSha256_eq hrequest).symm]
    · rw [if_neg fun hsha => (writtenAlike_of_requestSha256_eq hsha).elim hdifferent hcollide]
  · have hnone := (recorded_exec (hbefore heq)).running command (hrunning ▸ List.mem_cons_self)
    rw [next_of_fails hfails hrunning]
    exact ⟨rfl, congrArg Prod.fst (execute_of_none (r := ⟨_, outer⟩) hnone)⟩

end CommandEffectRegistry

end

/-! ### Three runs -/

section

variable [Hashlib]

/-- A command under one key. -/
def keyedCommand (request : Json) (hvalue : request.isValue = true)
    (hwritable : request.isWritable = true) : IdempotentCommand where
  fields := ⟨EntityId.epoch "command" 0 0 (Eq.refl true), "close-position", request,
    ⟨EntityId.epoch "trace" 0 0 (Eq.refl true), EntityId.epoch "trace" 0 1 (Eq.refl true), none⟩⟩
  requestSha256 := (canonicalSha256 request).value
  valid := by
    obtain ⟨digest, hdigest, -⟩ := exists_canonicalSha256_of_isWritable hwritable
    have hkey : ("close-position" : Text).strip ≠ [] ∧ ("close-position" : Text).length ≤ 255 := by
      decide
    rw [IdempotentCommandFields.postInit, require_of_pos hkey, Py.ok_bind,
      immutableJsonSnapshot, require_of_pos hvalue, Py.ok_bind, Py.ok_bind]
    exact Py.eq_ok_value ⟨digest, hdigest⟩

def closingEffect : BusinessEffect :=
  ⟨⟨EntityId.epoch "effect" 0 0 (Eq.refl true), "PositionClosed", List.replicate 64 (Text.ofChar 'a')⟩,
    by decide⟩

end

namespace CommandEffectRegistry

/-- A command whose callback fails is executed when it comes again, and then replayed. -/
theorem exactly_once_retried : ∃ command : IdempotentCommand,
    let events : List RegistryEvent := [.execute command, .raised (valueError "timeout"),
      .execute command, .returned closingEffect, .execute command]
    ∀ key, (executions (machine.trace {} events) key).length ≤ 1 := by
  refine ⟨keyedCommand (.int 1) rfl (by decide), fun key => ?_⟩
  refine ((exactly_once _ ?_).1 key).1
  refine ⟨List.not_mem_nil, trivial, List.not_mem_nil, trivial, List.not_mem_nil, trivial⟩

/-- A request that has a character beyond the basic plane where the first one has its surrogates
is another request, but it is taken for the first one. -/
theorem replayed_for_another_request : ∃ first second : IdempotentCommand,
    second.fields.request.sortKeys ≠ first.fields.request.sortKeys
      ∧ machine.outputs {} [.execute first, .returned closingEffect, .execute second]
        = [.callback first, .decided first (.executed closingEffect),
          .decided second (.replayed closingEffect)] := by
  let first := keyedCommand (.str [⟨0x1f600, by decide⟩]) rfl (by decide)
  let second := keyedCommand (.str [⟨0xd83d, by decide⟩, ⟨0xde00, by decide⟩]) rfl (by decide)
  have htext : canonicalJsonText first.fields.request = canonicalJsonText second.fields.request := by
    decide
  refine ⟨first, second, by simp [first, second, keyedCommand, Json.sortKeys], ?_⟩
  have hreplay : machine.out
      ⟨Dict.empty.set first.fields.idempotencyKey ⟨first.requestSha256, closingEffect⟩, []⟩
      (.execute second) = .decided second (.replayed closingEffect) := by
    rw [Machine.out, execute_of_some (Dict.get?_set_self _ _ _), if_pos (requestSha256_eq htext)]
  exact congrArg (fun answer => [_, _, answer]) hreplay

end CommandEffectRegistry

end FuturesAgentOs
