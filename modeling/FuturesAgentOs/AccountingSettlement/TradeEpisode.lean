import FuturesAgentOs.AccountingSettlement.AuditLog
import FuturesAgentOs.AccountingSettlement.MarkToMarket
import FuturesAgentOs.PyModel.JsonReread

namespace FuturesAgentOs

open PyModel

/-!
# Trade episodes in the audit log

`append_trade_episode`: the facts of an episode, from its authorization to its settlement, appended
at once under one correlation.

* `appendTradeEpisode_iff` — when a call that raises leaves the log, and a second one appends nothing.
-/

/-- The arguments of `append_trade_episode`. -/
structure TradeEpisodeArgs where
  correlationId : EntityId
  recordedAt : RecordedAt
  authorization : List (Text × Json)
  risk : List (Text × Json)
  execution : List (Text × Json)
  protection : List (Text × Json)
  fills : List Fill
  settlement : Settlement
  sourceRef : Text := "source:v2:episode"
  closeFill : Bool := false

namespace TradeEpisodeArgs

variable (args : TradeEpisodeArgs)

/-- `{"correlation_id": str(correlation_id), **dict(stage)}` -/
def stage (items : List (Text × Json)) : AuditPayload :=
  .mapping (Json.dictItems ((("correlation_id" : Text), .str args.correlationId.str) :: items))

/-- The type of a fill. -/
def fillType (index : ℕ) : Text :=
  if index = 0 ∨ args.closeFill = false then "FILL" else "CLOSE_FILL"

/-- `f":{correlation_id}"` -/
def suffix : Text := Text.ofChar ':' :: args.correlationId.str

/-- A call of `_append_unlocked`. -/
def call (kind : Text) (aggregate : EntityId) (payload : AuditPayload) :
    DurableAuditLog.AppendArgs where
  eventType := kind
  aggregateId := aggregate
  payload := payload
  recordedAt := args.recordedAt
  sourceRef := args.sourceRef ++ args.suffix

/-- `facts`, with what each is appended with. -/
def facts : List DurableAuditLog.AppendArgs :=
  [args.call "AUTHORIZATION" args.correlationId (args.stage args.authorization),
    args.call "RISK_DECISION" args.correlationId (args.stage args.risk),
    args.call "EXECUTION_PLAN" args.correlationId (args.stage args.execution),
    args.call "PROTECTION" args.correlationId (args.stage args.protection)]
  ++ args.fills.mapIdx (fun index fill =>
    args.call (args.fillType index) args.settlement.fields.accountId (.fill fill))
  ++ [args.call "SETTLEMENT" args.settlement.fields.accountId (.settlement args.settlement)]

/-- The event belongs to the episode. -/
def owns (event : DurableAuditEvent) : Bool := args.suffix.isSuffixOf event.fields.sourceRef

/-- The types that a complete episode has. -/
def requiredTypes : List Text :=
  ["AUTHORIZATION", "RISK_DECISION", "EXECUTION_PLAN", "PROTECTION", "FILL", "SETTLEMENT"]

/-- The events of an episode of all required types are there. -/
def isComplete (events : List DurableAuditEvent) : Bool :=
  requiredTypes.all (fun type => events.any (fun event => args.owns event
    && event.fields.eventType = type))

end TradeEpisodeArgs

/-- What goes wrong with the writes of the file: the one at the end of an episode, and the one that
restores the log. -/
structure WriteFaults where
  atEnd : Option PyException := none
  atRestore : Option PyException := none

namespace DurableAuditLog

variable [Hashlib] (log : DurableAuditLog) (interpreter : Interpreter)

/-- `if self.path.exists(): self._load()` -/
def reload : Py Unit × DurableAuditLog :=
  match log.file with
  | none => (.ok (), log)
  | some _ => log.load interpreter

/-- The loop over the facts, while nothing is written. -/
def appendAll (log : DurableAuditLog) :
    List AppendArgs → Py (List DurableAuditEvent)
  | [] => .ok []
  | args :: rest => do
    let event ← log.newEvent args
    let events ← appendAll { log with events := log.events ++ [event] } rest
    .ok (event :: events)

omit [Hashlib] in
/-- `_persist`, where the write may fail. -/
def write (fault : Option PyException) : Py Text := do
  let data ← log.persist
  match fault with
  | some e => .error e
  | none => .ok data

omit [Hashlib] in
/-- The handler of an exception: the original events are written again. -/
def restore (fault : Option PyException) (e : PyException) :
    Py (List DurableAuditEvent) × DurableAuditLog :=
  match log.write fault with
  | .error e' => (.error e', log)
  | .ok data => (.error e, { log with file := some data })

def appendTradeEpisode (faults : WriteFaults) (args : TradeEpisodeArgs) :
    Py (List DurableAuditEvent) × DurableAuditLog :=
  match log.reload interpreter with
  | (.error e, loaded) => (.error e, loaded)
  | (.ok (), loaded) =>
    if args.isComplete loaded.events then (.ok (loaded.events.filter args.owns), loaded)
    else
      match loaded.appendAll args.facts with
      | .error e => loaded.restore faults.atRestore e
      | .ok created =>
        let appended := { loaded with events := loaded.events ++ created }
        match appended.write faults.atEnd with
        | .error e => loaded.restore faults.atRestore e
        | .ok data => (.ok created, { appended with file := some data })

/-! ### All that the call does -/

section

variable {log loaded log' : DurableAuditLog} {interpreter : Interpreter} {faults : WriteFaults}
  {args : TradeEpisodeArgs} {result : Py (List DurableAuditEvent)}

/-- Reading the file again leaves it. -/
theorem reload_file (log : DurableAuditLog) (interpreter : Interpreter) :
    (log.reload interpreter).2.file = log.file := by
  unfold reload
  rcases log with ⟨events, _ | text⟩
  · rfl
  · dsimp only [load]
    split
    · split
      · rfl
      · split <;> rfl
    · rfl

/-- **All that the call does.**  It stops at a file that it cannot read, finds the episode, appends
it, or restores the events that it read. -/
theorem appendTradeEpisode_cases
    (h : log.appendTradeEpisode interpreter faults args = (result, log')) :
    (∃ e, log.reload interpreter = (.error e, log') ∧ result = .error e)
      ∨ ∃ loaded, log.reload interpreter = (.ok (), loaded)
        ∧ (args.isComplete loaded.events = true ∧ log' = loaded ∧ (∃ created, result = .ok created)
          ∨ args.isComplete loaded.events = false
            ∧ ((∃ created data, result = .ok created ∧ loaded.appendAll args.facts = .ok created
                ∧ ({ loaded with events := loaded.events ++ created } : DurableAuditLog).persist
                  = .ok data
                ∧ log' = ⟨loaded.events ++ created, some data⟩)
              ∨ ∃ e, loaded.restore faults.atRestore e = (result, log'))) := by
  unfold appendTradeEpisode at h
  rcases hreload : log.reload interpreter with ⟨e | ⟨⟨⟩⟩, loaded⟩
  · rw [hreload] at h
    obtain ⟨rfl, rfl⟩ := Prod.mk.inj h
    exact Or.inl ⟨e, rfl, rfl⟩
  refine Or.inr ⟨loaded, rfl, ?_⟩
  rw [hreload] at h
  dsimp only at h
  rcases hcomplete : args.isComplete loaded.events with _ | _
  · rw [hcomplete, if_neg (by decide)] at h
    refine Or.inr ⟨rfl, ?_⟩
    rcases happend : loaded.appendAll args.facts with e | created
    · rw [happend] at h
      exact Or.inr ⟨e, h⟩
    · rw [happend] at h
      dsimp only at h
      rcases hwrite : ({ loaded with events := loaded.events ++ created } : DurableAuditLog).write
          faults.atEnd with e | data
      · rw [hwrite] at h
        exact Or.inr ⟨e, h⟩
      · rw [hwrite] at h
        obtain ⟨rfl, rfl⟩ := Prod.mk.inj h
        obtain ⟨data', hdata, hfault⟩ := Py.of_bind hwrite
        rcases hatEnd : faults.atEnd with _ | e <;> rw [hatEnd] at hfault
        · obtain rfl := Except.ok.inj hfault
          exact Or.inl ⟨created, data', rfl, rfl, hdata, rfl⟩
        · cases hfault
  · rw [hcomplete, if_pos rfl] at h
    obtain ⟨rfl, rfl⟩ := Prod.mk.inj h
    exact Or.inl ⟨rfl, rfl, _, rfl⟩

omit [Hashlib] in
/-- What the handler leaves: the log as it was read, and its events in the file if it can write. -/
theorem restore_cases {fault : Option PyException} {e : PyException}
    (h : log.restore fault e = (result, log')) :
    (∃ e', result = .error e')
      ∧ (log' = log ∧ (fault = none → ∀ data, log.persist ≠ .ok data)
        ∨ ∃ data, fault = none ∧ log.persist = .ok data ∧ log' = ⟨log.events, some data⟩) := by
  unfold restore at h
  rcases hwrite : log.write fault with e' | data
  · rw [hwrite] at h
    obtain ⟨rfl, rfl⟩ := Prod.mk.inj h
    refine ⟨⟨e', rfl⟩, Or.inl ⟨rfl, ?_⟩⟩
    rintro rfl data hdata
    rw [write, hdata] at hwrite
    cases hwrite
  · rw [hwrite] at h
    obtain ⟨rfl, rfl⟩ := Prod.mk.inj h
    obtain ⟨data', hdata, hfault⟩ := Py.of_bind hwrite
    rcases fault with _ | fault
    · obtain rfl := Except.ok.inj hfault
      exact ⟨⟨e, rfl⟩, Or.inr ⟨data', rfl, hdata, rfl⟩⟩
    · cases hfault

/-! ### A call that raises -/

omit [Hashlib] in
/-- The events, as the dicts that they are written as. -/
def contents (log : DurableAuditLog) : List Json :=
  log.events.map fun event => event.fields.toDict.sortKeys

omit [Hashlib] in
/-- The file is the same, and so are the events. -/
def SameAs (log log' : DurableAuditLog) : Prop :=
  log'.file = log.file ∧ log'.contents = log.contents

/-- What a call that raises leaves is the log as it was: reading the file does not change the events,
and if they can be read and written, then the file is what would be written. -/
def Restorable (log : DurableAuditLog) (interpreter : Interpreter) (faults : WriteFaults) : Prop :=
  (log.reload interpreter).2.contents = log.contents
    ∧ ((log.reload interpreter).1 = .ok () → faults.atRestore = none →
      ∀ data, (log.reload interpreter).2.persist = .ok data → log.file = some data)

/-- **A call that raises** leaves the log as it was if and only if the log is restorable. -/
theorem sameAs_iff_restorable {e : PyException}
    (h : log.appendTradeEpisode interpreter faults args = (.error e, log')) :
    log.SameAs log' ↔ log.Restorable interpreter faults := by
  have hfile := reload_file log interpreter
  rcases appendTradeEpisode_cases h with ⟨e', hreload, -⟩ | ⟨loaded, hreload, hcases⟩
  · rw [hreload] at hfile
    simp only [SameAs, Restorable, hreload, reduceCtorEq, false_implies, and_true]
    exact and_iff_right hfile
  rw [hreload] at hfile
  rcases hcases with ⟨-, -, created, hresult⟩ | ⟨-, ⟨created, data, hresult, -⟩ | ⟨e', hrestore⟩⟩
  · cases hresult
  · cases hresult
  simp only [SameAs, Restorable, hreload, true_implies]
  rcases (restore_cases hrestore).2 with ⟨rfl, hnot⟩ | ⟨data, hfault, hdata, rfl⟩
  · refine ⟨fun hsame => ⟨hsame.2, fun hfault data hdata => ?_⟩, fun h => ⟨hfile, h.1⟩⟩
    exact absurd hdata (hnot hfault data)
  · have hcontents : (⟨loaded.events, some data⟩ : DurableAuditLog).contents = loaded.contents := rfl
    rw [hcontents]
    constructor
    · rintro ⟨hsame, hevents⟩
      refine ⟨hevents, fun _ data' hdata' => ?_⟩
      rw [hdata] at hdata'
      rw [← Except.ok.inj hdata']
      exact hsame.symm
    · rintro ⟨hevents, hall⟩
      exact ⟨(hall hfault data hdata).symm, hevents⟩

/-! ### What is read from a file that was written -/

omit [Hashlib] in
/-- What of an event is read again. -/
structure Kept (event event' : DurableAuditEvent) : Prop where
  eventType : event'.fields.eventType = event.fields.eventType.joined
  sourceRef : event'.fields.sourceRef = event.fields.sourceRef.joined

/-- The keys of an event of the file. -/
def eventKeys : List Text :=
  ["sequence", "event_id", "event_type", "aggregate_id", "payload", "recorded_at", "source_ref",
    "previous_hash", "correction_of", "event_hash"]

omit [Hashlib] in
/-- An event that was written is read with its type and its source. -/
theorem kept_of_eventFromJson {event event' : DurableAuditEvent}
    (h : eventFromJson interpreter event.fields.toDict.reread = .ok event') : Kept event event' := by
  have hkeys : (event.fields.hashItems ++ [(("event_hash" : Text), Json.str event.fields.eventHash)]).map
      Prod.fst = eventKeys := rfl
  have hnodup : eventKeys.Nodup := by decide
  have hascii : ∀ key ∈ eventKeys, Text.IsAscii key := by decide
  obtain ⟨members, hreread, hlookup⟩ := Json.lookup_reread (hkeys ▸ hnodup)
    (fun p hp => (hascii p.1 (hkeys ▸ List.mem_map_of_mem hp)).isJsonSafe)
  have htype := hlookup "event_type" (.str event.fields.eventType) rfl
  have hsource := hlookup "source_ref" (.str event.fields.sourceRef) rfl
  rw [DurableAuditEventFields.toDict, hreread] at h
  obtain ⟨sequence, -, h⟩ := Py.of_bind h
  obtain ⟨eventId, -, h⟩ := Py.of_bind h
  obtain ⟨eventType, heventType, h⟩ := Py.of_bind h
  obtain ⟨aggregateId, -, h⟩ := Py.of_bind h
  obtain ⟨payload, -, h⟩ := Py.of_bind h
  obtain ⟨recordedAt, -, h⟩ := Py.of_bind h
  obtain ⟨sourceRef, hsourceRef, h⟩ := Py.of_bind h
  obtain ⟨previousHash, -, h⟩ := Py.of_bind h
  obtain ⟨eventHash, -, h⟩ := Py.of_bind h
  obtain ⟨correctionOf, -, h⟩ := Py.of_bind h
  have hfields := Frozen.make_eq_ok.mp h
  rw [strItem, Json.item, htype] at heventType
  rw [strItem, Json.item, hsource] at hsourceRef
  refine ⟨?_, ?_⟩
  · rw [hfields]
    exact (Except.ok.inj heventType).symm
  · rw [hfields]
    exact (Except.ok.inj hsourceRef).symm

omit [Hashlib] in
/-- **The events of a file that was written** are read one by one. -/
theorem kept_of_mapM {events events' : List DurableAuditEvent} {data : Text} {values : List Json}
    (hpersist : (⟨events, some data⟩ : DurableAuditLog).persist = .ok data)
    (hvalues : Json.loads data = some (.arr values))
    (h : values.mapM (eventFromJson interpreter) = .ok events') : List.Forall₂ Kept events events' := by
  unfold persist Json.dumps at hpersist
  split at hpersist
  · cases hpersist
  rename_i text htext
  obtain rfl := Except.ok.inj hpersist
  split at htext
  · rename_i hwritable
    rw [← Option.some.inj htext, Json.loads_of_readsTo (Json.readsTo_render hwritable),
      Json.reread, Json.rereadItems_eq] at hvalues
    obtain rfl := Json.arr.inj (Option.some.inj hvalues)
    have hall := Py.forall₂_of_mapM h
    rw [List.forall₂_map_left_iff, List.forall₂_map_left_iff] at hall
    exact hall.imp fun event event' => kept_of_eventFromJson
  · cases htext


/-- The events that are in memory after the file was read. -/
theorem kept_of_reload {events : List DurableAuditEvent} {data : Text} {loaded : DurableAuditLog}
    {answer : Py Unit} (hpersist : (⟨events, some data⟩ : DurableAuditLog).persist = .ok data)
    (h : (⟨events, some data⟩ : DurableAuditLog).reload interpreter = (answer, loaded)) :
    loaded.events = events ∧ answer.Raises ∨ List.Forall₂ Kept events loaded.events := by
  dsimp only [reload, load] at h
  split at h
  · rename_i values hvalues
    split at h
    · obtain ⟨rfl, rfl⟩ := Prod.mk.inj h
      exact Or.inl ⟨rfl, ⟨_, rfl⟩⟩
    · rename_i events' hevents
      have hkept := kept_of_mapM hpersist hvalues hevents
      refine Or.inr ?_
      split at h <;> obtain ⟨-, rfl⟩ := Prod.mk.inj h <;> exact hkept
  · obtain ⟨rfl, rfl⟩ := Prod.mk.inj h
    exact Or.inl ⟨rfl, ⟨_, rfl⟩⟩

/-! ### What an episode appends -/

omit [Hashlib] in
/-- The event has the type and the source that it is appended with. -/
structure Records (args : AppendArgs) (event : DurableAuditEvent) : Prop where
  eventType : event.fields.eventType = args.eventType
  sourceRef : event.fields.sourceRef = args.sourceRef

theorem records_newEvent {args : AppendArgs} {event : DurableAuditEvent}
    (hkind : args.eventType ≠ []) (h : log.newEvent args = .ok event) : Records args event := by
  unfold newEvent at h
  obtain ⟨⟨kind, fact⟩, -, h⟩ := Py.of_bind h
  obtain ⟨frozen, -, h⟩ := Py.of_bind h
  obtain ⟨eventId, -, h⟩ := Py.of_bind h
  obtain ⟨-, h⟩ := of_require h
  obtain ⟨-, h⟩ := of_require h
  obtain ⟨provisional, -, h⟩ := Py.of_bind h
  obtain ⟨digest, -, h⟩ := Py.of_bind h
  have hfields := Frozen.make_eq_ok.mp h
  refine ⟨?_, ?_⟩
  · rw [hfields]
    exact if_neg hkind
  · rw [hfields]

theorem records_appendAll {facts : List AppendArgs} {created : List DurableAuditEvent}
    (hkinds : ∀ fact ∈ facts, fact.eventType ≠ []) (h : log.appendAll facts = .ok created) :
    List.Forall₂ Records facts created := by
  induction facts generalizing log created with
  | nil =>
    obtain rfl : [] = created := Except.ok.inj h
    exact List.Forall₂.nil
  | cons fact facts ih =>
    rw [List.forall_mem_cons] at hkinds
    obtain ⟨event, hevent, h⟩ := Py.of_bind h
    obtain ⟨rest, hrest, h⟩ := Py.of_bind h
    obtain rfl : event :: rest = created := Except.ok.inj h
    exact List.Forall₂.cons (records_newEvent hkinds.1 hevent) (ih hkinds.2 hrest)

end

end DurableAuditLog

namespace TradeEpisodeArgs

variable {args : TradeEpisodeArgs}

/-- An event of the type belongs to the episode. -/
def HasType (args : TradeEpisodeArgs) (type : Text) (events : List DurableAuditEvent) : Prop :=
  ∃ event ∈ events, args.owns event = true ∧ event.fields.eventType = type

variable {events events' : List DurableAuditEvent} {type : Text}

theorem isComplete_iff :
    args.isComplete events = true ↔ ∀ type ∈ requiredTypes, args.HasType type events := by
  simp only [isComplete, List.all_eq_true, List.any_eq_true, Bool.and_eq_true, decide_eq_true_eq]
  rfl

theorem hasType_cons {event : DurableAuditEvent} : args.HasType type (event :: events)
      ↔ (args.owns event = true ∧ event.fields.eventType = type) ∨ args.HasType type events := by
  simp only [HasType, List.exists_mem_cons_iff]

theorem hasType_append :
    args.HasType type (events ++ events') ↔ args.HasType type events ∨ args.HasType type events' := by
  simp only [HasType, List.mem_append, or_and_right, exists_or]

theorem isAscii_suffix : args.suffix.IsAscii :=
  Text.isAscii_cons.mpr ⟨by decide, args.correlationId.isAscii_str⟩

theorem hasType_of_kept (htype : type.IsAscii)
    (h : List.Forall₂ DurableAuditLog.Kept events events') :
    args.HasType type events' ↔ args.HasType type events := by
  induction h with
  | nil => rfl
  | @cons event event' events events' hkept _ ih =>
    have howns : args.owns event' = true ↔ args.owns event = true := by
      rw [owns, owns, List.isSuffixOf_iff_suffix, List.isSuffixOf_iff_suffix, hkept.sourceRef]
      exact Text.isSuffix_joined_iff isAscii_suffix
    have heq : event'.fields.eventType = type ↔ event.fields.eventType = type := by
      rw [hkept.eventType]
      constructor
      · rintro rfl
        exact (Text.joined_eq_self_of_isAscii htype).symm
      · rintro rfl
        exact Text.joined_eq_self htype.isJsonSafe
    rw [hasType_cons, hasType_cons, howns, heq, ih]

/-- **What is read again** is complete when what was written is. -/
theorem isComplete_of_kept (h : List.Forall₂ DurableAuditLog.Kept events events') :
    args.isComplete events' = args.isComplete events := by
  have hascii : ∀ type ∈ requiredTypes, Text.IsAscii type := by decide
  rw [Bool.eq_iff_iff, isComplete_iff, isComplete_iff]
  exact forall₂_congr fun type htype => hasType_of_kept (hascii type htype) h

/-- The types of the facts. -/
def factTypes : List Text :=
  ["AUTHORIZATION", "RISK_DECISION", "EXECUTION_PLAN", "PROTECTION", "FILL", "CLOSE_FILL",
    "SETTLEMENT"]

/-- The types of the facts that are no fills. -/
def stageTypes : List Text := ["AUTHORIZATION", "RISK_DECISION", "EXECUTION_PLAN", "PROTECTION"]

theorem map_eventType_facts : args.facts.map (·.eventType)
    = stageTypes ++ args.fills.mapIdx (fun index _ => args.fillType index)
      ++ [("SETTLEMENT" : Text)] := by
  simp only [facts, List.map_append, List.map_cons, List.map_nil, List.mapIdx_eq_zipIdx_map,
    List.map_map]
  rfl

theorem eventType_mem {fact : DurableAuditLog.AppendArgs} (h : fact ∈ args.facts) :
    fact.eventType ∈ factTypes := by
  have hmem : fact.eventType ∈ args.facts.map (·.eventType) := List.mem_map_of_mem h
  rw [map_eventType_facts, List.mem_append, List.mem_append, List.mem_mapIdx] at hmem
  rcases hmem with (hstage | ⟨index, hindex, htype⟩) | hsettlement
  · exact (by decide : ∀ type ∈ stageTypes, type ∈ factTypes) _ hstage
  · rw [← htype, fillType]
    split
    · decide
    · decide
  · rw [List.mem_singleton.mp hsettlement]
    decide

theorem suffix_sourceRef {fact : DurableAuditLog.AppendArgs} (h : fact ∈ args.facts) :
    args.suffix <:+ fact.sourceRef := by
  simp only [facts, List.mem_append, List.mem_cons, List.not_mem_nil, or_false,
    List.mem_mapIdx] at h
  rcases h with ((rfl | rfl | rfl | rfl) | ⟨index, hindex, rfl⟩) | rfl
  all_goals exact List.suffix_append _ _

theorem fill_mem_iff :
    ("FILL" : Text) ∈ args.facts.map (·.eventType) ↔ args.fills ≠ [] := by
  rw [map_eventType_facts, List.mem_append, List.mem_append]
  have hstage : ("FILL" : Text) ∉ stageTypes := by decide
  have hsettlement : ("FILL" : Text) ∉ (["SETTLEMENT"] : List Text) := by decide
  rw [or_iff_left hsettlement, or_iff_right hstage]
  constructor
  · rintro hfill hnil
    rw [hnil, List.mapIdx_nil] at hfill
    cases hfill
  · intro hfills
    obtain ⟨fill, rest, hcons⟩ := List.exists_cons_of_ne_nil hfills
    rw [hcons, List.mapIdx_cons]
    exact List.mem_cons_self

theorem hasType_created {created : List DurableAuditEvent}
    (h : List.Forall₂ DurableAuditLog.Records args.facts created) :
    args.HasType type created ↔ type ∈ args.facts.map (·.eventType) := by
  have hsource : ∀ fact ∈ args.facts, args.suffix <:+ fact.sourceRef := fun _ => suffix_sourceRef
  generalize args.facts = facts at h hsource ⊢
  induction h with
  | nil => simp [HasType]
  | @cons fact event facts created hfact _ ih =>
    rw [List.forall_mem_cons] at hsource
    have howns : args.owns event = true := by
      rw [owns, List.isSuffixOf_iff_suffix, hfact.sourceRef]
      exact hsource.1
    have hrest : args.HasType type created ↔ type ∈ facts.map (·.eventType) := ih hsource.2
    rw [hasType_cons, hrest, and_iff_right howns, hfact.eventType, List.map_cons, List.mem_cons,
      eq_comm]

/-- There is a fill, or one is recorded of the episode. -/
def HasFill (args : TradeEpisodeArgs) (events : List DurableAuditEvent) : Prop :=
  args.fills ≠ [] ∨ args.HasType "FILL" events

/-- **An episode that was appended** is complete if and only if it has a fill. -/
theorem isComplete_append_iff {created : List DurableAuditEvent}
    (h : List.Forall₂ DurableAuditLog.Records args.facts created) :
    args.isComplete (events ++ created) = true ↔ args.HasFill events := by
  have hothers : ∀ type ∈ requiredTypes, type ≠ "FILL" →
      args.HasType type (events ++ created) := fun type htype hne => by
    rw [hasType_append, hasType_created h, map_eventType_facts]
    have hmem : type ∈ stageTypes ∨ type ∈ ([("SETTLEMENT" : Text)]) := by
      revert type
      decide
    rcases hmem with hstage | hsettlement
    · exact Or.inr (List.mem_append_left _ (List.mem_append_left _ hstage))
    · exact Or.inr (List.mem_append_right _ hsettlement)
  rw [isComplete_iff, HasFill, ← fill_mem_iff, ← hasType_created h, or_comm, ← hasType_append]
  constructor
  · intro hall
    exact hall "FILL" (by decide)
  · intro hfill type htype
    by_cases hne : type = "FILL"
    · rw [hne]
      exact hfill
    · exact hothers type htype hne

end TradeEpisodeArgs

namespace DurableAuditLog

variable [Hashlib] {log loaded log₁ log₂ : DurableAuditLog} {interpreter : Interpreter}
  {faults : WriteFaults} {args : TradeEpisodeArgs} {result : Py (List DurableAuditEvent)}

/-! ### The second call -/

variable {created : List DurableAuditEvent}

theorem records_facts
    (h : log.appendAll args.facts = .ok created) : List.Forall₂ Records args.facts created := by
  refine records_appendAll (fun fact hfact => ?_) h
  have hne : ∀ type ∈ TradeEpisodeArgs.factTypes, type ≠ [] := by decide
  exact hne _ (TradeEpisodeArgs.eventType_mem hfact)

/-- A log that was read is read again as it is. -/
theorem reload_reload (h : log.reload interpreter = (.ok (), loaded)) :
    loaded.reload interpreter = (.ok (), loaded) := by
  rcases log with ⟨events, _ | text⟩
  · obtain ⟨-, rfl⟩ := Prod.mk.inj h
    exact h
  dsimp only [reload, load] at h
  split at h
  · rename_i values hvalues
    split at h
    · cases (Prod.mk.inj h).1
    · rename_i events' hevents
      split at h
      · cases (Prod.mk.inj h).1
      · cases (Prod.mk.inj h).1
      · rename_i hverify
        obtain ⟨-, rfl⟩ := Prod.mk.inj h
        dsimp only [reload, load]
        rw [hvalues]
        dsimp only
        rw [hevents]
        dsimp only
        rw [hverify]
  · cases (Prod.mk.inj h).1

/-- What is read after a call that returned: as many events, and a complete episode if and only if
it has a fill. -/
theorem reload_of_ok {answer : Py Unit}
    (h : log.appendTradeEpisode interpreter faults args = (.ok created, log₁))
    (hreload : log₁.reload interpreter = (answer, loaded)) :
    loaded.events.length = log₁.events.length
      ∧ (answer = .ok () →
        (args.isComplete loaded.events = true ↔ args.HasFill (log.reload interpreter).2.events)) := by
  rcases appendTradeEpisode_cases h with ⟨e, -, hresult⟩ | ⟨read, hread, hcases⟩
  · cases hresult
  rw [hread]
  rcases hcases with ⟨hcomplete, rfl, -⟩ | ⟨-, ⟨created', data, hresult, hfacts, hpersist, rfl⟩ | hrestore⟩
  · rw [reload_reload hread] at hreload
    obtain ⟨-, rfl⟩ := Prod.mk.inj hreload
    refine ⟨rfl, fun _ => iff_of_true hcomplete (Or.inr ?_)⟩
    exact TradeEpisodeArgs.isComplete_iff.mp hcomplete "FILL" (by decide)
  · rcases kept_of_reload hpersist hreload with ⟨hevents, e, rfl⟩ | hkept
    · exact ⟨congrArg List.length hevents, fun hok => by cases hok⟩
    · refine ⟨hkept.length_eq.symm, fun _ => ?_⟩
      rw [TradeEpisodeArgs.isComplete_of_kept hkept]
      exact TradeEpisodeArgs.isComplete_append_iff (records_facts hfacts)
  · obtain ⟨e, hrestore⟩ := hrestore
    obtain ⟨e', he'⟩ := (restore_cases hrestore).1
    cases he'

/-- **The second call** appends nothing when it raises; when it returns, it appends nothing if and
only if the episode has a fill. -/
theorem appendTradeEpisode_again {faults' : WriteFaults}
    (h₁ : log.appendTradeEpisode interpreter faults args = (.ok created, log₁))
    (h₂ : log₁.appendTradeEpisode interpreter faults' args = (result, log₂)) :
    (result.Raises → log₂.events.length = log₁.events.length)
      ∧ ∀ again, result = .ok again →
        (log₂.events.length = log₁.events.length
          ↔ args.HasFill (log.reload interpreter).2.events) := by
  rcases appendTradeEpisode_cases h₂ with ⟨e, hreload, rfl⟩ | ⟨loaded, hreload, hcases⟩
  · refine ⟨fun _ => (reload_of_ok h₁ hreload).1, fun again hagain => ?_⟩
    cases hagain
  obtain ⟨hlength, hcomplete⟩ := reload_of_ok h₁ hreload
  have hcomplete := hcomplete rfl
  rcases hcases with ⟨hfound, rfl, -⟩ | ⟨hnot, ⟨created', data, rfl, hfacts, -, rfl⟩ | ⟨e, hrestore⟩⟩
  · exact ⟨fun _ => hlength, fun _ _ => iff_of_true hlength (hcomplete.mp hfound)⟩
  · refine ⟨fun hraises => absurd hraises (Py.not_raises_ok _), fun _ _ => ?_⟩
    refine iff_of_false (fun heq => ?_) fun hfill => ?_
    · have hcreated := (records_facts hfacts).length_eq
      have hfacts : 5 ≤ args.facts.length := by
        simp only [TradeEpisodeArgs.facts, List.length_append, List.length_cons, List.length_nil]
        omega
      rw [List.length_append] at heq
      omega
    · rw [hcomplete.mpr hfill] at hnot
      cases hnot
  · obtain ⟨⟨e', rfl⟩, hstate⟩ := restore_cases hrestore
    refine ⟨fun _ => ?_, fun again hagain => by cases hagain⟩
    rcases hstate with ⟨rfl, -⟩ | ⟨data, -, -, rfl⟩
    · exact hlength
    · exact hlength

/-- **Episodes are appended at once, and once.**  A call that raises leaves the log as it was if and
only if the log is restorable; a second call appends nothing when it raises, and when it returns, it
appends nothing if and only if the episode has a fill. -/
theorem appendTradeEpisode_iff (log : DurableAuditLog) (interpreter : Interpreter)
    (faults : WriteFaults) (args : TradeEpisodeArgs) :
    (∀ e log', log.appendTradeEpisode interpreter faults args = (.error e, log') →
      (log.SameAs log' ↔ log.Restorable interpreter faults))
    ∧ ∀ created log₁, log.appendTradeEpisode interpreter faults args = (.ok created, log₁) →
      ∀ faults' result log₂, log₁.appendTradeEpisode interpreter faults' args = (result, log₂) →
        (result.Raises → log₂.events.length = log₁.events.length)
          ∧ ∀ again, result = .ok again →
            (log₂.events.length = log₁.events.length
              ↔ args.HasFill (log.reload interpreter).2.events) :=
  ⟨fun _ _ h => sameAs_iff_restorable h, fun _ _ h₁ _ _ _ h₂ => appendTradeEpisode_again h₁ h₂⟩

end DurableAuditLog

/-! ### Samples -/

/-- An interpreter, where no text beyond ASCII is printable and no float is converted. -/
def asciiInterpreter : Interpreter where
  isPrintable _ := false
  intOfFloat _ := .error (valueError "cannot convert float to integer")
  isZeroFloat _ := false

namespace TradeEpisodeArgs

/-- An episode without fills. -/
def sample (authorization : List (Text × Json)) : TradeEpisodeArgs where
  correlationId := .epoch "correlation" 0 0 (Eq.refl true)
  recordedAt := SimulationAccount.sampleNow
  authorization := authorization
  risk := []
  execution := []
  protection := []
  fills := []
  settlement := SimulationAccount.sampleSettlement

/-- An authorization that the log refuses. -/
def refused : TradeEpisodeArgs := sample [("score", .float "0.5")]

/-- An event of the episode, by its type. -/
def eventFields (eventType : Text) : DurableAuditEventFields where
  sequence := 1
  eventId := .epoch "audit_event" 0 0 (Eq.refl true)
  eventType := eventType
  aggregateId := .epoch "correlation" 0 0 (Eq.refl true)
  payload := .obj []
  recordedAt := SimulationAccount.sampleNow
  sourceRef := "source:v2:episode" ++ (sample []).suffix
  previousHash := genesisHash
  eventHash := genesisHash
  correctionOf := none

/-- The events of an episode, in memory. -/
def recorded : List DurableAuditEvent :=
  [⟨eventFields "AUTHORIZATION", by decide +kernel⟩, ⟨eventFields "RISK_DECISION", by decide +kernel⟩,
    ⟨eventFields "EXECUTION_PLAN", by decide +kernel⟩, ⟨eventFields "PROTECTION", by decide +kernel⟩,
    ⟨eventFields "FILL", by decide +kernel⟩, ⟨eventFields "SETTLEMENT", by decide +kernel⟩]

end TradeEpisodeArgs

namespace DurableAuditLog

open TradeEpisodeArgs

/-- A refused episode leaves an empty log in its file, and a complete one is not appended again. -/
theorem appendTradeEpisode_iff_of_samples :
    (∃ e log', (⟨[], some "[]"⟩ : DurableAuditLog).appendTradeEpisode asciiInterpreter {} refused
        = (.error e, log') ∧ (⟨[], some "[]"⟩ : DurableAuditLog).SameAs log')
      ∧ ∃ created log₁ log₂,
        (⟨recorded, none⟩ : DurableAuditLog).appendTradeEpisode asciiInterpreter {} (sample [])
          = (.ok created, log₁)
        ∧ log₁.appendTradeEpisode asciiInterpreter {} (sample []) = (.ok created, log₂)
        ∧ log₂.events.length = log₁.events.length := by
  constructor
  · have hrun : (⟨[], some "[]"⟩ : DurableAuditLog).appendTradeEpisode asciiInterpreter {} refused
        = (.error (typeError "unsupported audit payload value: float"), ⟨[], some "[]"⟩) := by rfl
    refine ⟨_, _, hrun, ((appendTradeEpisode_iff _ _ _ _).1 _ _ hrun).mpr ⟨rfl, fun _ _ data hdata => ?_⟩⟩
    exact congrArg some (Except.ok.inj hdata)
  · have hcomplete : (sample []).isComplete recorded = true := by decide +kernel
    have hrun : (⟨recorded, none⟩ : DurableAuditLog).appendTradeEpisode asciiInterpreter {} (sample [])
        = (.ok (recorded.filter (sample []).owns), ⟨recorded, none⟩) := by
      rw [appendTradeEpisode, reload]
      exact if_pos hcomplete
    refine ⟨_, _, _, hrun, hrun, ?_⟩
    exact (((appendTradeEpisode_iff _ _ _ _).2 _ _ hrun {} _ _ hrun).2 _ rfl).mpr
      (Or.inr (isComplete_iff.mp hcomplete "FILL" (by decide)))

/-- **A refused episode** of a log without a file leaves a file: a call that raises can change the
log. -/
theorem exists_file_of_refused :
    ¬ ∀ (log : DurableAuditLog) (interpreter : Interpreter) (args : TradeEpisodeArgs) e log',
      log.appendTradeEpisode interpreter {} args = (.error e, log') → log.SameAs log' := by
  intro h
  have hrun : new.appendTradeEpisode asciiInterpreter {} refused
      = (.error (typeError "unsupported audit payload value: float"), ⟨[], some "[]"⟩) := by rfl
  have hfile : (some "[]" : Option Text) = none := (h new asciiInterpreter refused _ _ hrun).1
  cases hfile

end DurableAuditLog

end FuturesAgentOs
