import Mathlib.Algebra.BigOperators.Group.List.Basic
import Mathlib.Algebra.GroupWithZero.Nat
import WsGateway.Foundation.Transition

/-! What a run records of its steps, and runs that come to an end.

A note is what one step adds to the record of a run. A rank that pays for the
events of a run bounds their number, and a rank that can be lowered short of a goal
leads to it.
-/

set_option autoImplicit false

namespace WsGateway.Foundation

variable {S E H : Type} {step : S → E → Option S}

section Records

/-- The notes of the steps of a run, in order. -/
def record (step : S → E → Option S) (note : S → E → List H) : S → List E → List H
  | _, [] => []
  | state, event :: rest =>
    note state event ++ (step state event).elim [] fun next => record step note next rest

variable {note : S → E → List H} {start state next final : S}

theorem record_cons {event : E} {rest : List E} (taken : step state event = some next) :
    record step note state (event :: rest) = note state event ++ record step note next rest := by
  rw [record, taken]
  rfl

theorem record_append {front back : List E} (ran : run step start front = some state) :
    record step note start (front ++ back) =
      record step note start front ++ record step note state back := by
  induction front generalizing start with
  | nil =>
    cases ran
    rfl
  | cons event rest ih =>
    obtain ⟨next, taken, ran⟩ := run_cons.mp ran
    rw [List.cons_append, record_cons taken, record_cons taken, ih ran, List.append_assoc]

theorem Invariant.everyState {I : S → Prop} (keeps : Invariant step I) (initial : I start)
    (events : List E) : EveryState step I start events := by
  induction events generalizing start with
  | nil => exact initial
  | cons event rest ih =>
    exact ⟨initial, fun next taken => ih (keeps start event next initial taken)⟩

theorem EveryState.last {P : S → Prop} {events : List E} (always : EveryState step P start events)
    (ran : run step start events = some final) : P final := by
  induction events generalizing start with
  | nil =>
    cases ran
    exact always
  | cons event rest ih =>
    obtain ⟨next, taken, ran⟩ := run_cons.mp ran
    exact ih (always.2 next taken) ran

theorem exists_exit {P : S → Prop} {events : List E} (ran : run step start events = some final)
    (first : P start) (last : ¬ P final) :
    ∃ front event back state next, events = front ++ event :: back ∧
      EveryState step P start front ∧ run step start front = some state ∧
      step state event = some next ∧ ¬ P next ∧ run step next back = some final := by
  induction events generalizing start with
  | nil =>
    cases ran
    exact absurd first last
  | cons event rest ih =>
    obtain ⟨next, taken, ran⟩ := run_cons.mp ran
    by_cases inside : P next
    · obtain ⟨front, out, back, state, next', rfl, kind, reached, left, outside, onward⟩ := ih ran inside
      refine ⟨event :: front, out, back, state, next', rfl, ⟨first, fun other taken' => ?_⟩,
        run_cons.mpr ⟨next, taken, reached⟩, left, outside, onward⟩
      rw [taken] at taken'
      cases taken'
      exact kind
    · exact ⟨[], event, rest, start, next, rfl, first, rfl, taken, inside, ran⟩

theorem EveryState.everyStep {P : S → Prop} {events : List E}
    (always : EveryState step P start events) :
    EveryStep step (fun state _ _ => P state) start events := by
  induction events generalizing start with
  | nil => trivial
  | cons event rest ih => exact fun next taken => ⟨always.1, ih (always.2 next taken)⟩

/-- A fact of the record so far and the state, kept by steps of a kind that the run
consists of. -/
theorem record_steps {I : List H → S → Prop} {C : S → E → S → Prop}
    (kept : ∀ notes state event next, I notes state → step state event = some next →
      C state event next → I (notes ++ note state event) next)
    {events : List E} (always : EveryStep step C start events) (initial : I [] start)
    (ran : run step start events = some final) : I (record step note start events) final := by
  -- The record in front of the state is part of the statement, so it is generalised.
  have general : ∀ events notes state, EveryStep step C state events → I notes state →
      run step state events = some final → I (notes ++ record step note state events) final := by
    intro events
    induction events with
    | nil =>
      intro notes state _ holds ran
      cases ran
      rw [record, List.append_nil]
      exact holds
    | cons event rest ih =>
      intro notes state always holds ran
      obtain ⟨next, taken, ran⟩ := run_cons.mp ran
      obtain ⟨allowed, onward⟩ := always next taken
      rw [record_cons taken, ← List.append_assoc]
      exact ih _ next onward (kept notes state event next holds taken allowed) ran
  exact general events [] start always initial ran

theorem record_induction {I : List H → S → Prop} {Q : S → Prop}
    (kept : ∀ notes state event next, I notes state → Q state → step state event = some next →
      I (notes ++ note state event) next)
    {events : List E} (always : EveryState step Q start events) (initial : I [] start)
    (ran : run step start events = some final) : I (record step note start events) final :=
  record_steps (fun notes state event next holds taken kind =>
    kept notes state event next holds kind taken) always.everyStep initial ran

theorem record_run {I : List H → S → Prop}
    (kept : ∀ notes state event next, I notes state → step state event = some next →
      I (notes ++ note state event) next)
    {events : List E} (initial : I [] start) (ran : run step start events = some final) :
    I (record step note start events) final :=
  record_induction (Q := fun _ => True)
    (fun notes state event next holds _ taken => kept notes state event next holds taken)
    (Invariant.everyState (fun _ _ _ _ _ => trivial) trivial events) initial ran

end Records

section Simulations

variable {A L : Type} {step' : A → L → Option A} {R : List H → S → A → Prop}
  {note : S → E → List H} {label : S → E → List L} {start final : S} {abstract : A}

/-- Steps that are matched by runs of their labels carry a run over to the run of
its labels. The relation may speak about the record so far. -/
theorem simulate
    (matched : ∀ notes state event next abstract, R notes state abstract →
      step state event = some next →
        ∃ abstract', run step' abstract (label state event) = some abstract' ∧
          R (notes ++ note state event) next abstract')
    {events : List E} (related : R [] start abstract) (ran : run step start events = some final) :
    ∃ abstract', run step' abstract (record step label start events) = some abstract' ∧
      R (record step note start events) final abstract' := by
  have general : ∀ events notes state abstract, R notes state abstract →
      run step state events = some final →
        ∃ abstract', run step' abstract (record step label state events) = some abstract' ∧
          R (notes ++ record step note state events) final abstract' := by
    intro events
    induction events with
    | nil =>
      intro notes state abstract related ran
      cases ran
      exact ⟨abstract, rfl, by rwa [record, List.append_nil]⟩
    | cons event rest ih =>
      intro notes state abstract related ran
      obtain ⟨next, taken, ran⟩ := run_cons.mp ran
      obtain ⟨middle, entered, related⟩ := matched notes state event next abstract related taken
      obtain ⟨last, onward, related⟩ := ih _ next middle related ran
      refine ⟨last, ?_, ?_⟩
      · rw [record_cons taken, run_append, entered]
        exact onward
      · rwa [record_cons taken, ← List.append_assoc]
  exact general events [] start abstract related ran

theorem simulate_run {R : S → A → Prop}
    (matched : ∀ state event next abstract, R state abstract → step state event = some next →
      ∃ abstract', run step' abstract (label state event) = some abstract' ∧ R next abstract')
    {events : List E} (related : R start abstract) (ran : run step start events = some final) :
    ∃ abstract', run step' abstract (record step label start events) = some abstract' ∧
      R final abstract' :=
  @simulate S E Unit step A L step' (fun _ => R) (fun _ _ => []) label start final abstract
    (fun _ => matched) events related ran

end Simulations

section Ranks

variable {I : S → Prop} {rank : S → Nat} {allowed : E → Prop} {start final : S}

/-- Steps that pay for their events from a rank bound what a run of them costs. -/
theorem run_rank {cost : E → Nat} (keeps : Invariant step I)
    (pays : ∀ state event next, I state → allowed event → step state event = some next →
      rank next + cost event ≤ rank state)
    {events : List E} (initial : I start) (within : ∀ event ∈ events, allowed event)
    (ran : run step start events = some final) :
    rank final + (events.map cost).sum ≤ rank start := by
  induction events generalizing start with
  | nil =>
    cases ran
    exact Nat.le_refl _
  | cons event rest ih =>
    obtain ⟨next, taken, ran⟩ := run_cons.mp ran
    have first := pays start event next initial (within event List.mem_cons_self) taken
    have later := ih (keeps start event next initial taken)
      (fun event member => within event (List.mem_cons_of_mem _ member)) ran
    rw [List.map_cons, List.sum_cons]
    omega

/-- Where a rank can be lowered short of a goal, a run reaches the goal. -/
theorem exists_run_of_rank {Goal : S → Prop} (keeps : Invariant step I)
    (lowers : ∀ state, I state → ¬ Goal state → ∃ events next,
      (∀ event ∈ events, allowed event) ∧ run step state events = some next ∧
        rank next < rank state) (initial : I start) :
    ∃ events final, (∀ event ∈ events, allowed event) ∧ run step start events = some final ∧
      Goal final := by
  -- The induction is on the rank: each round of work leaves a state of a lower one.
  induction bound : rank start using Nat.strongRecOn generalizing start with
  | ind left ih =>
    by_cases done : Goal start
    · exact ⟨[], start, by simp, rfl, done⟩
    · obtain ⟨front, next, own, ran, lower⟩ := lowers start initial done
      obtain ⟨back, final, own', ran', reached⟩ :=
        ih (rank next) (bound ▸ lower) (keeps.run initial ran) rfl
      refine ⟨front ++ back, final, fun event member => ?_, ?_, reached⟩
      · exact (List.mem_append.mp member).elim (own event) (own' event)
      · rw [run_append, ran]
        exact ran'

end Ranks

end WsGateway.Foundation
