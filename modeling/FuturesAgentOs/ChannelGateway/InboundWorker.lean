import FuturesAgentOs.ChannelGateway.Outbox
import FuturesAgentOs.PyModel.JsonTexts
import FuturesAgentOs.SharedKernel.IsoTime
import FuturesAgentOs.SharedKernel.JsonObject

namespace FuturesAgentOs

open PyModel

/-!
# The worker on the gateway inbox

`channel_gateway/operator_commands.py`: `GatewayInboundWorker.run_once`, with any handler.  The
store answers every call; what the worker asks of it after its claim is a list of calls.

* `GatewayInboundWorker.runOnce_settles_iff` — the runs that complete what they claimed.
-/

/-! ### Inbound events -/

structure InboundEventFields where
  channel : Text
  eventId : Text
  actorId : Text
  conversationId : Text
  kind : Text
  payload : List (Text × Json)
  occurredAt : DateTime

namespace InboundEventFields

variable (f : InboundEventFields)

/-- The texts that may not be empty, with their names. -/
def texts : List (Text × Text) :=
  [("channel", f.channel), ("event_id", f.eventId), ("actor_id", f.actorId),
    ("conversation_id", f.conversationId), ("kind", f.kind)]

def postInit : Py Unit := do
  f.texts.forM (fun p =>
    require (p.2.strip ≠ []) (valueError (p.1 ++ (" must be a non-empty string" : Text))))
  require (f.occurredAt.offset ≠ none) (valueError "occurred_at must be timezone-aware")

end InboundEventFields

instance instDataclassInboundEvent : Dataclass InboundEventFields := ⟨InboundEventFields.postInit⟩

abbrev InboundEvent := Frozen InboundEventFields

/-- `datetime.fromisoformat` of any text, which may end with a `Z`. -/
def datetimeOfText (t : Text) : Option DateTime :=
  datetimeFromIsoFormat
    (if t.getLast? = some (Text.ofChar 'Z') then t.dropLast ++ ("+00:00" : Text) else t)

/-- `required` of `_hydrate_event` -/
def requiredNames : List Text :=
  ["channel", "event_id", "actor_id", "conversation_id", "kind", "payload", "occurred_at"]

/-- `_hydrate_event` -/
def hydrateEvent (isPrintable : CodePoint → Bool) (envelope : List (Text × Json)) :
    Py InboundEvent := do
  let invalid := valueError "invalid gateway inbound envelope"
  let str (name : Text) := (Json.item envelope name).map (Json.toStr isPrintable)
  require (∀ name ∈ requiredNames, Json.lookup name envelope ≠ none) invalid
  match Json.lookup "payload" envelope with
  | some (.obj payload) => do
    let channel ← str "channel"
    let eventId ← str "event_id"
    let actorId ← str "actor_id"
    let conversationId ← str "conversation_id"
    let kind ← str "kind"
    match datetimeOfText (← str "occurred_at") with
    | none => .error (valueError "Invalid isoformat string")
    | some occurredAt =>
      Frozen.make { channel, eventId, actorId, conversationId, kind, payload, occurredAt }
  | _ => .error invalid

/-- What the worker answers to an event that it could not handle. -/
def InboundEvent.failureNotice {π : Type} (event : InboundEvent) (typeName taskId : Text) :
    OutboundNotification π where
  channel := event.fields.channel
  conversationId := event.fields.conversationId
  severity := .ACTION_REQUIRED
  text := ("操作者命令处理失败，系统已安全停止：" : Text) ++ typeName
  idempotencyKey := ("operator-command-failed:" : Text) ++ taskId
  required := by
    have hvalid : InboundEventFields.postInit event.fields = .ok () := event.valid
    rw [InboundEventFields.postInit, check_bind_eq_ok, Py.forM_eq_ok] at hvalid
    have htext := fun p hp => require_eq_ok.mp (hvalid.1 p hp)
    refine ⟨htext ("channel", _) (by simp [InboundEventFields.texts]),
      htext ("conversation_id", _) (by simp [InboundEventFields.texts]), ?_⟩
    exact List.ne_nil_of_mem (Decimal.mem_strip (List.mem_append_left _ List.mem_cons_self) (by decide))

/-! ### The worker -/

/-- A call of the store, after the claim. -/
inductive StoreCall (π : Type) where
  | enqueueNotification (n : OutboundNotification π)
  | completeTask (taskId workerId : Text) (fencingToken : ℕ) (success : Bool)
  deriving DecidableEq

/-- The call completes the task with an id. -/
def StoreCall.Completes {π : Type} (taskId : Text) : StoreCall π → Bool
  | .enqueueNotification _ => false
  | .completeTask id _ _ _ => id = taskId

abbrev InboundTask := GatewayTask (List (Text × Json))

/-- `GatewayInboundWorker`; its handler keeps what it likes from call to call. -/
structure GatewayInboundWorker (π η : Type) where
  handle : η → List (Text × Json) → Py (OutboundNotification π) × η
  workerId : Text := "gateway-inbound"
  /-- `type(error).__name__` -/
  typeName : ExceptionKind → Text
  isPrintable : CodePoint → Bool
  required : workerId.strip ≠ []

namespace GatewayInboundWorker

variable {π η : Type} (w : GatewayInboundWorker π η)

/-- `_handle_task`: whether it raises, its calls of the store and the handler after it. -/
def handleTask (s : η) (task : InboundTask) : Py Unit × List (StoreCall π) × η :=
  let complete := StoreCall.completeTask task.taskId task.workerId task.fencingToken
  match w.handle s task.envelope with
  | (.ok notification, s') => (.ok (), [.enqueueNotification notification, complete true], s')
  | (.error error, s') =>
    -- the second reading is outside of the `try`
    match hydrateEvent w.isPrintable task.envelope with
    | .error e => (.error e, [], s')
    | .ok event =>
      (.ok (), [.enqueueNotification (event.failureNotice (w.typeName error.kind) task.taskId),
        complete false], s')

/-- `_handle_task` on the tasks of a batch, until one raises. -/
def handleTasks (s : η) : List InboundTask → Py Unit × List (StoreCall π) × η
  | [] => (.ok (), [], s)
  | task :: tasks =>
    match w.handleTask s task with
    | (.error e, calls, s') => (.error e, calls, s')
    | (.ok (), calls, s') =>
      let (answer, rest, last) := handleTasks s' tasks
      (answer, calls ++ rest, last)

/-- `run_once`, on the queue at a time: its answer and the calls after its claim. -/
def runOnce (q : TaskQueue (List (Text × Json))) (limit now : ℤ) (s : η) :
    Py ℕ × List (StoreCall π) :=
  match q.claimTasks w.workerId limit 30 (some "gateway.inbound") now with
  | .error e => (.error e, [])
  | .ok (tasks, _) =>
    let (answer, calls, _) := w.handleTasks s tasks
    (answer.map (fun _ => tasks.length), calls)

/-- What the handler answers to the tasks of a batch, in turn. -/
def answers (s : η) : List InboundTask → List (Py (OutboundNotification π))
  | [] => []
  | task :: tasks => (w.handle s task.envelope).1 :: answers (w.handle s task.envelope).2 tasks

/-- A task is completed once by these calls, with success only after an answer that they enqueue. -/
def SettledBy (calls : List (StoreCall π)) (task : InboundTask)
    (answer : Py (OutboundNotification π)) : Prop :=
  ∃ success, calls.filter (StoreCall.Completes task.taskId)
      = [.completeTask task.taskId task.workerId task.fencingToken success]
    ∧ (success = true → ∃ n, answer = .ok n ∧ .enqueueNotification n ∈ calls)

variable {w} {s s' : η} {task : InboundTask} {tasks : List InboundTask}
  {calls : List (StoreCall π)} {answer : Py Unit}

/-- **A task.** It raises when its handler and the second reading do; otherwise it enqueues one
notification and completes the task. -/
theorem handleTask_cases (h : w.handleTask s task = (answer, calls, s')) :
    s' = (w.handle s task.envelope).2
      ∧ (answer.Raises ↔
        (w.handle s task.envelope).1.Raises ∧ (hydrateEvent w.isPrintable task.envelope).Raises)
      ∧ (answer = .ok () → ∃ n success, calls = [.enqueueNotification n,
          .completeTask task.taskId task.workerId task.fencingToken success]
        ∧ (success = true → (w.handle s task.envelope).1 = .ok n)) := by
  rw [handleTask] at h
  rcases hhandle : w.handle s task.envelope with ⟨e | n, after⟩
  · rw [hhandle] at h
    rcases hevent : hydrateEvent w.isPrintable task.envelope with e' | event
    · simp only [hevent, Prod.mk.injEq] at h
      obtain ⟨rfl, rfl, rfl⟩ := h
      exact ⟨rfl, by simp, nofun⟩
    · simp only [hevent, Prod.mk.injEq] at h
      obtain ⟨rfl, rfl, rfl⟩ := h
      exact ⟨rfl, by simp, fun _ => ⟨_, _, rfl, nofun⟩⟩
  · simp only [hhandle, Prod.mk.injEq] at h
    obtain ⟨rfl, rfl, rfl⟩ := h
    exact ⟨rfl, by simp, fun _ => ⟨n, true, rfl, fun _ => rfl⟩⟩

/-- A batch raises when the handler and the second reading raise on one of its tasks. -/
theorem not_raises_handleTasks_iff : ¬ (w.handleTasks s tasks).1.Raises ↔
    ∀ p ∈ tasks.zip (w.answers s tasks), p.2.Raises →
      ¬ (hydrateEvent w.isPrintable p.1.envelope).Raises := by
  induction tasks generalizing s with
  | nil => simp [handleTasks]
  | cons task tasks ih =>
    rcases hone : w.handleTask s task with ⟨_ | _, calls, after⟩
    all_goals obtain ⟨rfl, hraises, -⟩ := handleTask_cases hone
    all_goals rw [answers, List.zip_cons_cons, List.forall_mem_cons]
    · simp only [handleTasks, hone, Py.raises_error, not_true_eq_false, false_iff, not_and]
      exact fun hno => absurd (hraises.mp (Py.raises_error _)).2
        (hno (hraises.mp (Py.raises_error _)).1)
    · simp only [handleTasks, hone, ← ih]
      exact (and_iff_right fun hbad hagain => Py.not_raises_ok () (hraises.mpr ⟨hbad, hagain⟩)).symm

/-- **A batch** that does not raise completes its tasks, and no others. -/
theorem settledBy_of_not_raises (hnodup : (tasks.map GatewayTask.taskId).Nodup)
    (h : ¬ (w.handleTasks s tasks).1.Raises) :
    (∀ p ∈ tasks.zip (w.answers s tasks), SettledBy (w.handleTasks s tasks).2.1 p.1 p.2)
      ∧ ∀ k ∉ tasks.map GatewayTask.taskId,
        (w.handleTasks s tasks).2.1.filter (StoreCall.Completes k) = [] := by
  induction tasks generalizing s with
  | nil => exact ⟨nofun, fun _ _ => rfl⟩
  | cons task tasks ih =>
    rw [List.map_cons, List.nodup_cons] at hnodup
    rcases hone : w.handleTask s task with ⟨e | _, first, after⟩
    · simp [handleTasks, hone] at h
    obtain ⟨rfl, -, hcalls⟩ := handleTask_cases hone
    obtain ⟨n, success, rfl, hsuccess⟩ := hcalls rfl
    simp only [handleTasks, hone] at h ⊢
    obtain ⟨hsettled, hothers⟩ := ih hnodup.2 h
    have hfilter : ∀ k, StoreCall.Completes k (.enqueueNotification n) = false := fun _ => rfl
    constructor
    · rw [answers, List.zip_cons_cons, List.forall_mem_cons]
      constructor
      · refine ⟨success, ?_, fun hs => ⟨n, hsuccess hs, List.mem_cons_self⟩⟩
        simp [StoreCall.Completes, hothers _ hnodup.1]
      · intro p hp
        obtain ⟨success', hfiltered, henqueued⟩ := hsettled p hp
        have hne : task.taskId ≠ p.1.taskId := fun heq =>
          hnodup.1 (heq ▸ List.mem_map_of_mem (List.of_mem_zip hp).1)
        refine ⟨success', ?_, fun hs => ?_⟩
        · simpa [hfilter, StoreCall.Completes, hne] using hfiltered
        · obtain ⟨m, hm, hmem⟩ := henqueued hs
          exact ⟨m, hm, List.mem_append_right _ hmem⟩
    · intro k hk
      rw [List.map_cons, List.mem_cons, not_or] at hk
      simpa [hfilter, StoreCall.Completes, Ne.symm hk.1] using hothers k hk.2

/-- **The inbox.** A run does not raise and completes each task that it claimed once, with success
only after a reply of the handler that it enqueued, exactly when every task on which the handler
raises has an envelope that can be read. -/
theorem runOnce_settles_iff {q after : TaskQueue (List (Text × Json))} {limit now : ℤ}
    (hclaim : q.claimTasks w.workerId limit 30 (some "gateway.inbound") now = .ok (tasks, after)) :
    (¬ (w.runOnce q limit now s).1.Raises
      ∧ ∀ p ∈ tasks.zip (w.answers s tasks), SettledBy (w.runOnce q limit now s).2 p.1 p.2)
    ↔ ∀ p ∈ tasks.zip (w.answers s tasks), p.2.Raises →
      ¬ (hydrateEvent w.isPrintable p.1.envelope).Raises := by
  have hnodup : (tasks.map GatewayTask.taskId).Nodup := by
    obtain ⟨-, -, rfl, -⟩ := TaskQueue.claimTasks_eq_ok.mp hclaim
    rw [List.map_map]
    exact TaskQueue.nodup_candidates _ _ _ _
  have hraises : (w.runOnce q limit now s).1.Raises ↔ (w.handleTasks s tasks).1.Raises := by
    simp only [runOnce, hclaim]
    cases (w.handleTasks s tasks).1 <;> simp [Except.map]
  have hcalls : (w.runOnce q limit now s).2 = (w.handleTasks s tasks).2.1 := by
    simp only [runOnce, hclaim]
  rw [hraises, hcalls, ← not_raises_handleTasks_iff]
  exact and_iff_left_of_imp fun hok => (settledBy_of_not_raises hnodup hok).1

end GatewayInboundWorker

/-! ### A message that cannot be read -/

/-- A handler that fails on every envelope. -/
def sampleInboundWorker : GatewayInboundWorker Unit Unit where
  handle := fun _ _ => (.error (valueError "invalid gateway inbound envelope"), ())
  typeName := fun _ => "ValueError"
  isPrintable := fun _ => true
  required := by decide

/-- A task of the inbox, with an envelope. -/
def sampleInboundTask (envelope : List (Text × Json)) : AgentTask (List (Text × Json)) where
  assignedRoleId := "gateway.inbound"
  state := .QUEUED
  envelope := envelope
  requestedAt := 0

/-- Two messages, both of them empty. -/
def sampleInbox : TaskQueue (List (Text × Json)) :=
  let one : TaskQueue (List (Text × Json)) := Dict.empty.set ("task-1" : Text) (sampleInboundTask [])
  one.set ("task-2" : Text) (sampleInboundTask [])

/-- Both messages are claimed; the run raises on the first, and none is completed. -/
theorem runOnce_sampleInbox :
    (∃ claims after, claims.length = 2
      ∧ sampleInbox.claimTasks sampleInboundWorker.workerId 10 30 (some "gateway.inbound") 0
        = .ok (claims, after))
    ∧ (sampleInboundWorker.runOnce sampleInbox 10 0 ()).1.Raises
    ∧ (sampleInboundWorker.runOnce sampleInbox 10 0 ()).2 = [] := by
  refine ⟨⟨_, _, ?_, rfl⟩, ⟨_, rfl⟩, rfl⟩
  rfl

theorem runOnce_settles_sampleInbox : ∃ claims after,
    sampleInbox.claimTasks sampleInboundWorker.workerId 10 30 (some "gateway.inbound") 0
        = .ok (claims, after)
      ∧ ((¬ (sampleInboundWorker.runOnce sampleInbox 10 0 ()).1.Raises
        ∧ ∀ p ∈ claims.zip (sampleInboundWorker.answers () claims),
          GatewayInboundWorker.SettledBy (sampleInboundWorker.runOnce sampleInbox 10 0 ()).2 p.1 p.2)
      ↔ ∀ p ∈ claims.zip (sampleInboundWorker.answers () claims), p.2.Raises →
        ¬ (hydrateEvent sampleInboundWorker.isPrintable p.1.envelope).Raises) :=
  ⟨_, _, rfl, GatewayInboundWorker.runOnce_settles_iff rfl⟩

end FuturesAgentOs
