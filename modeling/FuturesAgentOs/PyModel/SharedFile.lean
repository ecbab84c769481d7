import FuturesAgentOs.PyModel.Exception
import FuturesAgentOs.PyModel.Machine

namespace PyModel

/-!
# Objects that share one file

A store keeps its whole state in one file.  Each of its handles has a memory of its own, and each
call through a handle, made while it holds the lock of the file, reads the file when there is one,
does its work in memory and writes the file before it returns.  A call that raises leaves the file
as it was, but not the memory of its handle.

* `SharedFile.Faithful` — what the work, the reading and the writing must satisfy;
* `SharedFile.Faithful.agrees` — then the calls that returned are a run of the work on one
  object, and the file holds the state that it ends in.
-/

/-- A store in a file: its new state, how the file is read and written, and the work of a call. -/
structure SharedFile (σ ι ο τ : Type) where
  fresh : σ
  load : τ → Py σ
  persist : σ → Py τ
  work : σ → ι → Py ο × σ

namespace SharedFile

variable {σ ι ο τ : Type}

/-- The file, and what the handles hold in memory. -/
structure World (σ τ : Type) where
  file : Option τ
  handles : List σ

/-- A handle is opened, or is called. -/
inductive Event (ι : Type) where
  | opened
  | call (handle : ℕ) (input : ι)

variable (S : SharedFile σ ι ο τ)

/-- No file yet. -/
def start : World σ τ := ⟨none, []⟩

/-- What a handle has in memory once it has read the file, if there is one. -/
def reloaded (w : World σ τ) (memory : σ) : Py σ :=
  match w.file with
  | none => .ok memory
  | some text => S.load text

/-- A call through a handle that has read the file. -/
def callOn (w : World σ τ) (handle : ℕ) (memory : σ) (input : ι) : Py (Option ο) × World σ τ :=
  match S.work memory input with
  | (.error e, after) => (.error e, { w with handles := w.handles.set handle after })
  | (.ok answer, after) =>
    let handles := w.handles.set handle after
    match S.persist after with
    | .error e => (.error e, { w with handles := handles })
    | .ok text => (.ok (some answer), ⟨some text, handles⟩)

/-- A call through a handle. -/
def call (w : World σ τ) (handle : ℕ) (input : ι) : Py (Option ο) × World σ τ :=
  match w.handles[handle]? with
  | none => (.error ⟨.attributeError, "handle"⟩, w)
  | some held =>
    match S.reloaded w held with
    | .error e => (.error e, w)
    | .ok memory => S.callOn w handle memory input

/-- One event; the answer of `opened` is `none`. -/
def step (w : World σ τ) : Event ι → Py (Option ο) × World σ τ
  | .opened =>
    match S.reloaded w S.fresh with
    | .error e => (.error e, w)
    | .ok memory => (.ok none, { w with handles := w.handles ++ [memory] })
  | .call handle input => S.call w handle input

/-- Handles that are opened and called in any order. -/
def machine : Machine (World σ τ) (Event ι) (Py (Option ο)) := ⟨S.step⟩

/-- One object that is called and keeps its state in memory only. -/
def single : Machine σ ι (Py ο) := ⟨S.work⟩

/-- The call of an event that returned, with its answer. -/
def returnedCall : World σ τ × Event ι × Py (Option ο) → Option (ι × ο)
  | (_, .call _ input, .ok (some answer)) => some (input, answer)
  | _ => none

/-- The calls that returned, in order, with their answers. -/
def returned (history : List (World σ τ × Event ι × Py (Option ο))) : List (ι × ο) :=
  history.filterMap returnedCall

/-- The calls that returned have the answers of one object, and the file, or a new handle when
there is none, holds the state that this object is left in. -/
def Agrees (history : List (World σ τ × Event ι × Py (Option ο))) (w : World σ τ) : Prop :=
  let calls := returned history
  S.single.outputs S.fresh (calls.map Prod.fst) = calls.map (fun call => .ok call.2)
    ∧ S.reloaded w S.fresh = .ok (S.single.exec S.fresh (calls.map Prod.fst))

/-! ### When the file is faithful -/

/-- For calls with inputs in `P`: `Good` states are read back from the file, and `Idle` is what
the memory of a handle may be as long as no call returned. -/
structure Faithful (P : ι → Prop) (Good Idle : σ → Prop) : Prop where
  good_fresh : Good S.fresh
  load : ∀ {s text}, Good s → S.persist s = .ok text → S.load text = .ok s
  good_work : ∀ {s input answer after text}, P input → Good s →
    S.work s input = (.ok answer, after) → S.persist after = .ok text → Good after
  idle_fresh : Idle S.fresh
  /-- a call that cannot return leaves the memory idle -/
  idle_work : ∀ {s input answer after}, P input → Idle s → S.work s input = (answer, after) →
    (answer.Raises ∨ (S.persist after).Raises) → Idle after
  /-- only the memory of a new handle makes the first file -/
  first : ∀ {s input answer after text}, P input → Idle s →
    S.work s input = (.ok answer, after) → S.persist after = .ok text → s = S.fresh

/-- What is known in the middle of a run: the calls that returned are a run of one object, and the
file holds its state; as long as there is no file no call has returned. -/
structure Follows (Good Idle : σ → Prop) (history : List (World σ τ × Event ι × Py (Option ο)))
    (w : World σ τ) : Prop where
  answers : S.single.outputs S.fresh ((returned history).map Prod.fst)
    = (returned history).map (fun call => .ok call.2)
  good : Good (S.single.exec S.fresh ((returned history).map Prod.fst))
  file : ∀ text, w.file = some text →
    S.load text = .ok (S.single.exec S.fresh ((returned history).map Prod.fst))
  noFile : w.file = none → returned history = [] ∧ ∀ memory ∈ w.handles, Idle memory

section

variable {S : SharedFile σ ι ο τ} {P : ι → Prop} {Good Idle : σ → Prop}
  {history : List (World σ τ × Event ι × Py (Option ο))} {w : World σ τ}

theorem returned_concat (event : World σ τ × Event ι × Py (Option ο)) :
    returned (history ++ [event]) = returned history ++ (returnedCall event).toList := by
  rw [returned, List.filterMap_append]
  rcases hcall : returnedCall event with _ | call
  · rw [List.filterMap_cons_none hcall]
    rfl
  · rw [List.filterMap_cons_some hcall]
    rfl

theorem Follows.concat_of_none (h : S.Follows Good Idle history w)
    {event : World σ τ × Event ι × Py (Option ο)} (hevent : returnedCall event = none)
    {after : World σ τ} (hfile : after.file = w.file)
    (hidle : w.file = none → ∀ memory ∈ after.handles, Idle memory) :
    S.Follows Good Idle (history ++ [event]) after := by
  have hreturned : returned (history ++ [event]) = returned history := by
    rw [returned_concat, hevent, Option.toList_none, List.append_nil]
  refine ⟨?_, ?_, ?_, ?_⟩
  · rw [hreturned]
    exact h.answers
  · rw [hreturned]
    exact h.good
  · rw [hreturned, hfile]
    exact h.file
  · rw [hreturned, hfile]
    exact fun hnone => ⟨(h.noFile hnone).1, hidle hnone⟩

theorem Follows.concat_of_error (h : S.Follows Good Idle history w) {handle : ℕ} {input : ι}
    {e : PyException} {after : σ} (hidle : w.file = none → Idle after) :
    S.Follows Good Idle (history ++ [(w, .call handle input, .error e)])
      { w with handles := w.handles.set handle after } := by
  refine h.concat_of_none rfl rfl fun hnone memory hmemory => ?_
  rcases List.mem_or_eq_of_mem_set hmemory with hheld | rfl
  · exact (h.noFile hnone).2 memory hheld
  · exact hidle hnone

theorem Follows.concat_of_call (hS : S.Faithful P Good Idle) (h : S.Follows Good Idle history w)
    {input : ι} (hinput : P input) {answer : ο} {s after : σ} {text : τ}
    (hs : S.single.exec S.fresh ((returned history).map Prod.fst) = s)
    (hwork : S.work s input = (.ok answer, after)) (hpersist : S.persist after = .ok text)
    (handle : ℕ) (handles : List σ) :
    S.Follows Good Idle (history ++ [(w, .call handle input, .ok (some answer))])
      ⟨some text, handles⟩ := by
  have hreturned : returned (history ++ [(w, .call handle input, .ok (some answer))])
      = returned history ++ [(input, answer)] := returned_concat _
  have hexec : S.single.exec S.fresh ((returned history ++ [(input, answer)]).map Prod.fst)
      = after := by
    rw [List.map_append, List.map_singleton, Machine.exec_concat, hs]
    exact congrArg Prod.snd hwork
  have hgood : Good after := hS.good_work hinput (hs ▸ h.good) hwork hpersist
  refine ⟨?_, ?_, ?_, ?_⟩
  · have hout : S.single.out s input = .ok answer := congrArg Prod.fst hwork
    rw [hreturned, List.map_append, List.map_singleton, Machine.outputs_concat, h.answers, hs, hout,
      List.map_append, List.map_singleton]
  · rw [hreturned, hexec]
    exact hgood
  · intro text' htext
    obtain rfl : text = text' := Option.some.inj htext
    rw [hreturned, hexec]
    exact hS.load hgood hpersist
  · intro hnone
    cases hnone

/-- The memory of a handle that has read the file is the state of the one object, or idle. -/
theorem Follows.reloaded (h : S.Follows Good Idle history w) {held memory : σ}
    (hheld : w.file = none → Idle held) (hmemory : S.reloaded w held = .ok memory) :
    (w.file = none ∧ memory = held ∧ Idle memory) ∨
      S.single.exec S.fresh ((returned history).map Prod.fst) = memory
        ∧ ∃ text, w.file = some text := by
  rcases hfile : w.file with _ | text
  · simp only [SharedFile.reloaded, hfile] at hmemory
    obtain rfl := Except.ok.inj hmemory
    exact Or.inl ⟨rfl, rfl, hheld hfile⟩
  · simp only [SharedFile.reloaded, hfile] at hmemory
    rw [h.file text hfile] at hmemory
    exact Or.inr ⟨Except.ok.inj hmemory, text, rfl⟩

theorem Follows.step (hS : S.Faithful P Good Idle) (event : Event ι)
    (hevent : ∀ handle input, event = .call handle input → P input)
    (h : S.Follows Good Idle history w) :
    S.Follows Good Idle (history ++ [(w, event, S.machine.out w event)])
      (S.machine.next w event) := by
  rcases event with _ | ⟨handle, input⟩
  · show S.Follows Good Idle (history ++ [(w, .opened, (S.step w .opened).1)]) (S.step w .opened).2
    rcases hmemory : S.reloaded w S.fresh with e | memory
    · have hstep : S.step w .opened = (.error e, w) := by
        simp only [SharedFile.step, hmemory]
      rw [hstep]
      exact h.concat_of_none rfl rfl (fun hnone => (h.noFile hnone).2)
    · have hstep : S.step w .opened = (.ok none, { w with handles := w.handles ++ [memory] }) := by
        simp only [SharedFile.step, hmemory]
      rw [hstep]
      refine h.concat_of_none rfl rfl fun hnone => ?_
      simp only [SharedFile.reloaded, hnone] at hmemory
      rw [List.forall_mem_append, List.forall_mem_singleton, ← Except.ok.inj hmemory]
      exact ⟨(h.noFile hnone).2, hS.idle_fresh⟩
  · have hinput : P input := hevent handle input rfl
    show S.Follows Good Idle (history ++ [(w, .call handle input, (S.call w handle input).1)])
      (S.call w handle input).2
    rcases hhandle : w.handles[handle]? with _ | held
    · have hcall : S.call w handle input = (.error ⟨.attributeError, "handle"⟩, w) := by
        simp only [SharedFile.call, hhandle]
      rw [hcall]
      exact h.concat_of_none rfl rfl (fun hnone => (h.noFile hnone).2)
    rcases hmemory : S.reloaded w held with e | memory
    · have hcall : S.call w handle input = (.error e, w) := by
        simp only [SharedFile.call, hhandle, hmemory]
      rw [hcall]
      exact h.concat_of_none rfl rfl (fun hnone => (h.noFile hnone).2)
    have hcall : S.call w handle input = S.callOn w handle memory input := by
      simp only [SharedFile.call, hhandle, hmemory]
    have hheld : w.file = none → Idle held :=
      fun hnone => (h.noFile hnone).2 held (List.mem_of_getElem? hhandle)
    rw [hcall]
    have hat := h.reloaded hheld hmemory
    have hidle : w.file = none → Idle memory := by
      intro hnone
      refine (hat.resolve_right ?_).2.2
      rintro ⟨-, text, htext⟩
      rw [hnone] at htext
      cases htext
    rcases hwork : S.work memory input with ⟨e | answer, after⟩
    · have hcallOn : S.callOn w handle memory input
          = (.error e, { w with handles := w.handles.set handle after }) := by
        simp only [callOn, hwork]
      rw [hcallOn]
      exact h.concat_of_error fun hnone =>
        hS.idle_work hinput (hidle hnone) hwork (Or.inl (Py.raises_error e))
    rcases hpersist : S.persist after with e | text
    · have hcallOn : S.callOn w handle memory input
          = (.error e, { w with handles := w.handles.set handle after }) := by
        simp only [callOn, hwork, hpersist]
      rw [hcallOn]
      exact h.concat_of_error fun hnone =>
        hS.idle_work hinput (hidle hnone) hwork (Or.inr (by rw [hpersist]; exact Py.raises_error e))
    · have hcallOn : S.callOn w handle memory input
          = (.ok (some answer), ⟨some text, w.handles.set handle after⟩) := by
        simp only [callOn, hwork, hpersist]
      rw [hcallOn]
      -- the memory is the state of the one object, also when this call makes the file
      have hs : S.single.exec S.fresh ((returned history).map Prod.fst) = memory := by
        rcases hat with ⟨hnone, -, -⟩ | ⟨hs, -⟩
        · rw [(h.noFile hnone).1, hS.first hinput (hidle hnone) hwork hpersist]
          rfl
        · exact hs
      exact h.concat_of_call hS hinput hs hwork hpersist handle _

theorem Follows.agrees (h : S.Follows Good Idle history w) : S.Agrees history w := by
  refine ⟨h.answers, ?_⟩
  rcases hfile : w.file with _ | text
  · simp only [SharedFile.reloaded, hfile, (h.noFile hfile).1]
    rfl
  · simp only [SharedFile.reloaded, hfile]
    exact h.file text hfile

/-- **One object.** The calls that returned have the answers of one object that is called in the
same order, and the file holds the state that it ends in. -/
theorem Faithful.agrees (hS : S.Faithful P Good Idle) (events : List (Event ι))
    (hevents : ∀ handle input, .call handle input ∈ events → P input) :
    S.Agrees (S.machine.trace start events) (S.machine.exec start events) := by
  have hstart : S.Follows Good Idle [] start :=
    ⟨rfl, hS.good_fresh, (fun text htext => by cases htext),
      fun _ => ⟨rfl, fun memory hmemory => by cases hmemory⟩⟩
  have hmeets : S.machine.Meets
      (fun _ event => ∀ handle input, event = .call handle input → P input) start events :=
    S.machine.meets_of_forall_mem (fun event hevent _ handle input heq =>
      hevents handle input (heq ▸ hevent))
  exact (S.machine.trace_invariant_of_meets
    (fun h w event hcond hfollows => Follows.step hS event hcond hfollows) hstart hmeets).agrees

end

end SharedFile

end PyModel
