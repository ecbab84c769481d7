import FuturesAgentOs.PyModel.Exception

namespace PyModel

/-!
# Journals

A journal is a list of facts, and replaying it applies them in order until one raises.

* `Py.Idempotent` — facts that are skipped once they were applied;
* `Py.replay_again` — a journal whose beginning was replayed before.
-/

namespace Py

variable {σ φ ψ : Type} (apply : φ → σ → Py Unit × σ)

/-- Applies facts in order; an exception ends the replay. -/
def replay : List φ → σ → Py Unit × σ
  | [], s => (.ok (), s)
  | fact :: facts, s =>
    match apply fact s with
    | (.error e, s) => (.error e, s)
    | (.ok (), s) => replay facts s

variable {apply}

variable {fact : φ} {s s' : σ} {facts : List φ}

theorem replay_cons_of_ok (h : apply fact s = (.ok (), s'))
    (facts : List φ) : replay apply (fact :: facts) s = replay apply facts s' := by
  simp only [replay, h]

theorem replay_cons_of_error {e : PyException}
    (h : apply fact s = (.error e, s')) (facts : List φ) :
    replay apply (fact :: facts) s = (.error e, s') := by
  simp only [replay, h]

/-- A replay that returned is continued by the facts that follow. -/
theorem replay_append_of_ok (h : replay apply facts s = (.ok (), s'))
    (later : List φ) : replay apply (facts ++ later) s = replay apply later s' := by
  induction facts generalizing s with
  | nil =>
    obtain rfl : s = s' := congrArg Prod.snd h
    rfl
  | cons fact facts ih =>
    rcases happly : apply fact s with ⟨e | ⟨⟩, t⟩
    · rw [replay_cons_of_error happly] at h
      cases congrArg Prod.fst h
    · rw [replay_cons_of_ok happly] at h
      rw [List.cons_append, replay_cons_of_ok happly, ih h]

theorem replay_map (f : ψ → φ) (records : List ψ) (s : σ) :
    replay apply (records.map f) s = replay (fun record => apply (f record)) records s := by
  induction records generalizing s with
  | nil => rfl
  | cons record records ih =>
    rw [List.map_cons]
    rcases happly : apply (f record) s with ⟨e | ⟨⟩, t⟩
    · simp only [replay, happly]
    · simp only [replay, happly, ih]

/-! ### Replaying again -/

/-- Facts that are skipped once they were applied. -/
structure Idempotent (apply : φ → σ → Py Unit × σ) (done : φ → σ → Prop) : Prop where
  /-- a fact that was applied is done -/
  done_of_ok : ∀ {fact s s'}, apply fact s = (.ok (), s') → done fact s'
  /-- what is done stays done -/
  done_apply : ∀ {fact s}, done fact s → ∀ other, done fact (apply other s).2
  /-- what is done is skipped -/
  skip : ∀ {fact s}, done fact s → apply fact s = (.ok (), s)

/-- The fact that ends the replay, if any, leaves the state as it was. -/
def RaisesCleanly (apply : φ → σ → Py Unit × σ) : List φ → σ → Prop
  | [], _ => True
  | fact :: facts, s =>
    match apply fact s with
    | (.error _, s') => s' = s
    | (.ok (), s') => RaisesCleanly apply facts s'

/-- Along the replay every fact that is applied has the same effect under `apply'`; the fact that
ends the replay, if any, leaves the state as it was. -/
def Agrees (apply apply' : φ → σ → Py Unit × σ) : List φ → σ → Prop
  | [], _ => True
  | fact :: facts, s =>
    match apply fact s with
    | (.error _, s') => s' = s
    | (.ok (), s') => apply' fact s = (.ok (), s') ∧ Agrees apply apply' facts s'

theorem RaisesCleanly.agrees {apply apply' : φ → σ → Py Unit × σ}
    (h : RaisesCleanly apply facts s) (heq : ∀ fact ∈ facts, apply' fact = apply fact) :
    Agrees apply apply' facts s := by
  induction facts generalizing s with
  | nil => trivial
  | cons fact facts ih =>
    rw [List.forall_mem_cons] at heq
    rcases happly : apply fact s with ⟨e | ⟨⟩, t⟩
    · simp only [RaisesCleanly, happly] at h
      simp only [Agrees, happly, h]
    · simp only [RaisesCleanly, happly] at h
      simp only [Agrees, happly, heq.1, true_and]
      exact ih h heq.2

variable {done : φ → σ → Prop}

theorem done_replay (hstays : ∀ {fact s}, done fact s → ∀ other, done fact (apply other s).2) (hdone : done fact s) (facts : List φ) :
    done fact (replay apply facts s).2 := by
  induction facts generalizing s with
  | nil => exact hdone
  | cons other facts ih =>
    have hnext := hstays hdone other
    rcases happly : apply other s with ⟨e | ⟨⟩, t⟩
    · rw [happly] at hnext
      rw [replay_cons_of_error happly]
      exact hnext
    · rw [happly] at hnext
      rw [replay_cons_of_ok happly]
      exact ih hnext

/-- **Replaying again.**  After the beginning of a journal was replayed, replaying all of it ends
as if it had been replayed at once, when the facts of the beginning are applied alike. -/
theorem Idempotent.replay_again {apply' : φ → σ → Py Unit × σ} (h : Idempotent apply' done)
    (hstays : ∀ {fact s}, done fact s → ∀ other, done fact (apply other s).2) (hagrees : Agrees apply apply' facts s) (later : List φ) :
    replay apply' (facts ++ later) (replay apply facts s).2 = replay apply' (facts ++ later) s := by
  induction facts generalizing s with
  | nil => rfl
  | cons fact facts ih =>
    rcases happly : apply fact s with ⟨e | ⟨⟩, t⟩
    · -- the first replay stops here, and nothing happened so far
      simp only [Agrees, happly] at hagrees
      rw [replay_cons_of_error happly, hagrees]
    · simp only [Agrees, happly] at hagrees
      -- the fact is done when the first replay ends, so that the second one skips it
      have hdone : done fact (replay apply facts t).2 :=
        done_replay hstays (h.done_of_ok hagrees.1) facts
      rw [replay_cons_of_ok happly, List.cons_append, replay_cons_of_ok (h.skip hdone),
        replay_cons_of_ok hagrees.1]
      exact ih hagrees.2

/-- A fact that comes again is skipped. -/
theorem Idempotent.replay_repeated (h : Idempotent apply done)
    (hfact : fact ∈ facts ∨ done fact s) (later : List φ) :
    replay apply (facts ++ fact :: later) s = replay apply (facts ++ later) s := by
  induction facts generalizing s with
  | nil => exact replay_cons_of_ok (h.skip (hfact.resolve_left List.not_mem_nil)) later
  | cons other facts ih =>
    rcases happly : apply other s with ⟨e | ⟨⟩, t⟩
    · simp only [List.cons_append, replay_cons_of_error happly]
    · simp only [List.cons_append, replay_cons_of_ok happly]
      rw [List.mem_cons, or_assoc] at hfact
      rcases hfact with rfl | hmem | hdone
      · exact ih (.inr (h.done_of_ok happly))
      · exact ih (.inl hmem)
      · have := h.done_apply hdone other
        rw [happly] at this
        exact ih (.inr this)

end Py

end PyModel
