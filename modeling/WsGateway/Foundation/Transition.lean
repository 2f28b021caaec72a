import Mathlib.Logic.Basic

/-! Deterministic transition systems with partial steps.

A run is a list of events; it stops at the first event that is not enabled.
`EveryState` and `EveryStep` speak about all that happens along a run, so a
condition on the steps can be compared with a property of the states.
-/

set_option autoImplicit false

namespace WsGateway.Foundation

variable {S E : Type} (step : S → E → Option S)

theorem guarded_eq_some {A : Type} {guard : Prop} [Decidable guard] {value result : A} :
    (if guard then some value else none) = some result ↔ guard ∧ value = result := by
  rw [Option.ite_none_right_eq_some, Option.some.injEq]

def run : S → List E → Option S
  | state, [] => some state
  | state, event :: rest => (step state event).bind fun next => run next rest

def EveryState (P : S → Prop) : S → List E → Prop
  | state, [] => P state
  | state, event :: rest => P state ∧ ∀ next, step state event = some next → EveryState P next rest

def EveryStep (C : S → E → S → Prop) : S → List E → Prop
  | _, [] => True
  | state, event :: rest =>
    ∀ next, step state event = some next → C state event next ∧ EveryStep C next rest

/-- What every step keeps, whatever the event. -/
def Invariant (I : S → Prop) : Prop :=
  ∀ state event next, I state → step state event = some next → I next

section Runs

variable {step}

theorem run_cons {state final : S} {event : E} {rest : List E} :
    run step state (event :: rest) = some final ↔
      ∃ next, step state event = some next ∧ run step next rest = some final := by
  rw [run, Option.bind_eq_some_iff]

theorem run_singleton {state next : S} {event : E} :
    run step state [event] = some next ↔ step state event = some next := by
  rw [run_cons]
  simp only [run, Option.some.injEq, exists_eq_right]

theorem run_append {state : S} {front back : List E} :
    run step state (front ++ back) = (run step state front).bind fun middle => run step middle back := by
  induction front generalizing state with
  | nil => rfl
  | cons event rest ih =>
    rw [List.cons_append, run, run, Option.bind_assoc]
    exact Option.bind_congr fun next _ => ih

theorem run_induction {P : List E → S → Prop} {start : S} (initial : P [] start)
    (kept : ∀ front state event next, P front state → step state event = some next →
      P (front ++ [event]) next) :
    ∀ {events final}, run step start events = some final → P events final := by
  -- The events behind the state are part of the statement, so they are generalised.
  have general : ∀ events front state, P front state → ∀ final,
      run step state events = some final → P (front ++ events) final := by
    intro events
    induction events with
    | nil =>
      intro front state holds final ran
      cases ran
      simpa using holds
    | cons event rest ih =>
      intro front state holds final ran
      obtain ⟨next, taken, ran⟩ := run_cons.mp ran
      simpa using ih (front ++ [event]) next (kept front state event next holds taken) final ran
  intro events final ran
  simpa using general events [] start initial final ran

theorem Invariant.run {I : S → Prop} (keeps : Invariant step I) {start final : S}
    {events : List E} (initial : I start) (ran : run step start events = some final) : I final :=
  run_induction (P := fun _ state => I state) initial
    (fun _ state event next holds taken => keeps state event next holds taken) ran

/-- A relation that hidden events keep on the left and visible ones on both sides
carries a run over to the run of its visible events. -/
theorem run_filter {R : S → S → Prop} {visible : E → Bool} {events : List E}
    (hidden : ∀ event ∈ events, visible event = false → ∀ left right next, R left right →
      step left event = some next → R next right)
    (seen : ∀ event ∈ events, visible event = true → ∀ left right next, R left right →
      step left event = some next → ∃ next', step right event = some next' ∧ R next next')
    {left right final : S} (related : R left right) (ran : run step left events = some final) :
    ∃ final', run step right (events.filter visible) = some final' ∧ R final final' := by
  induction events generalizing left right with
  | nil =>
    cases ran
    exact ⟨right, rfl, related⟩
  | cons event rest ih =>
    obtain ⟨next, taken, ran⟩ := run_cons.mp ran
    have later {next' : S} (related : R next next') :
        ∃ final', run step next' (rest.filter visible) = some final' ∧ R final final' :=
      ih (fun event member => hidden event (List.mem_cons_of_mem _ member))
        (fun event member => seen event (List.mem_cons_of_mem _ member)) related ran
    cases sight : visible event with
    | false =>
      rw [List.filter_cons_of_neg (by simp [sight])]
      exact later (hidden event List.mem_cons_self sight left right next related taken)
    | true =>
      obtain ⟨next', taken', related'⟩ :=
        seen event List.mem_cons_self sight left right next related taken
      obtain ⟨final', ran', agrees⟩ := later related'
      refine ⟨final', ?_, agrees⟩
      rw [List.filter_cons_of_pos sight]
      exact run_cons.mpr ⟨next', taken', ran'⟩

end Runs

section Along

variable {step}

theorem everyStep_cons {C : S → E → S → Prop} {start next : S} {event : E} {rest : List E}
    (taken : step start event = some next) :
    EveryStep step C start (event :: rest) ↔ C start event next ∧ EveryStep step C next rest := by
  simp only [EveryStep, taken, Option.some.injEq, forall_eq']

theorem EveryStep.append {C : S → E → S → Prop} {start : S} {front back : List E}
    (first : EveryStep step C start front)
    (second : ∀ middle, run step start front = some middle → EveryStep step C middle back) :
    EveryStep step C start (front ++ back) := by
  induction front generalizing start with
  | nil => exact second start rfl
  | cons event rest ih =>
    intro next taken
    have later := first next taken
    exact ⟨later.1, ih later.2 fun middle ran => second middle (run_cons.mpr ⟨next, taken, ran⟩)⟩

theorem EveryStep.and {C D : S → E → S → Prop} {start : S} {events : List E}
    (left : EveryStep step C start events) (right : EveryStep step D start events) :
    EveryStep step (fun state event next => C state event next ∧ D state event next) start events := by
  induction events generalizing start with
  | nil => trivial
  | cons event rest ih =>
    exact fun next taken => ⟨⟨(left next taken).1, (right next taken).1⟩,
      ih (left next taken).2 (right next taken).2⟩

theorem EveryStep.of_forall {C : S → E → S → Prop} {K : E → Prop}
    (meets : ∀ state event next, K event → C state event next) {events : List E}
    (within : ∀ event ∈ events, K event) (start : S) : EveryStep step C start events := by
  induction events generalizing start with
  | nil => trivial
  | cons event rest ih =>
    exact fun next _ => ⟨meets start event next (within event List.mem_cons_self),
      ih (fun event member => within event (List.mem_cons_of_mem _ member)) next⟩

instance EveryStep.decidable {C : S → E → S → Prop} [∀ state event next, Decidable (C state event next)] :
    ∀ start events, Decidable (EveryStep step C start events)
  | _, [] => isTrue trivial
  | start, event :: rest =>
    match taken : step start event with
    | none => isTrue fun _ other => nomatch taken.symm.trans other
    | some next =>
      have : Decidable (EveryStep step C next rest) := EveryStep.decidable next rest
      decidable_of_iff (C start event next ∧ EveryStep step C next rest) (everyStep_cons taken).symm

/-- `EveryStep` is the property of the step behind every prefix that runs. -/
theorem everyStep_iff {C : S → E → S → Prop} {start : S} {events : List E} :
    EveryStep step C start events ↔
      ∀ front event back state next, events = front ++ event :: back →
        run step start front = some state → step state event = some next → C state event next := by
  induction events generalizing start with
  | nil =>
    constructor
    · rintro _ front event back state next split
      cases front <;> cases split
    · intro _
      trivial
  | cons first rest ih =>
    constructor
    · intro holds front event back state next split ran taken
      cases front with
      | nil =>
        obtain ⟨rfl, rfl⟩ := List.cons.inj split
        cases ran
        exact (holds next taken).1
      | cons head front =>
        obtain ⟨rfl, parted⟩ := List.cons.inj split
        obtain ⟨middle, entered, ran⟩ := run_cons.mp ran
        exact ih.mp (holds middle entered).2 front event back state next parted ran taken
    · intro holds next taken
      refine ⟨holds [] first rest start next rfl rfl taken, ih.mpr ?_⟩
      intro front event back state after split ran stepped
      exact holds (first :: front) event back state after (by rw [split]; rfl)
        (run_cons.mpr ⟨next, taken, ran⟩) stepped

theorem EveryState.of_everyStep {I P : S → Prop} {C : S → E → S → Prop}
    (kept : ∀ state event next, I state → step state event = some next → C state event next → I next)
    (implies : ∀ state, I state → P state) {start : S} {events : List E} (initial : I start)
    (meets : EveryStep step C start events) : EveryState step P start events := by
  induction events generalizing start with
  | nil => exact implies start initial
  | cons event rest ih =>
    refine ⟨implies start initial, fun next taken => ?_⟩
    have ⟨condition, later⟩ := meets next taken
    exact ih (kept start event next initial taken condition) later

theorem EveryStep.congr {I : S → Prop} {C D : S → E → S → Prop} (keeps : Invariant step I)
    (same : ∀ state event next, I state → step state event = some next →
      (C state event next ↔ D state event next)) {start : S} (initial : I start) (events : List E) :
    EveryStep step C start events ↔ EveryStep step D start events := by
  simp only [everyStep_iff]
  constructor
  · intro holds front event back state next split ran taken
    exact (same state event next (keeps.run initial ran) taken).mp
      (holds front event back state next split ran taken)
  · intro holds front event back state next split ran taken
    exact (same state event next (keeps.run initial ran) taken).mpr
      (holds front event back state next split ran taken)

/-- Under an invariant, a property that a step keeps exactly when the step meets a
condition holds in every state of a run exactly when all steps of the run meet it. -/
theorem everyState_iff_everyStep {I P : S → Prop} {C : S → E → S → Prop} (keeps : Invariant step I)
    {start : S} {events : List E} (exact_step : ∀ state event next, event ∈ events → I state →
      P state → step state event = some next → (P next ↔ C state event next))
    (initial : I start) (first : P start) :
    EveryState step P start events ↔ EveryStep step C start events := by
  induction events generalizing start with
  | nil => simp only [EveryState, EveryStep, first]
  | cons event rest ih =>
    -- A condition speaks about a step and the property about states, so one step is
    -- compared together with the state it leads to.
    have next_iff (next : S) (taken : step start event = some next) :
        EveryState step P next rest ↔ C start event next ∧ EveryStep step C next rest := by
      have here := exact_step start event next List.mem_cons_self initial first taken
      have rest_iff (now : P next) : EveryState step P next rest ↔ EveryStep step C next rest :=
        ih (fun state event next member =>
          exact_step state event next (List.mem_cons_of_mem _ member))
          (keeps start event next initial taken) now
      constructor
      · intro later
        have now : P next := by
          cases rest with
          | nil => exact later
          | cons => exact later.1
        exact ⟨here.mp now, (rest_iff now).mp later⟩
      · rintro ⟨meets, later⟩
        exact (rest_iff (here.mpr meets)).mpr later
    simp only [EveryState, EveryStep, first, true_and]
    exact forall₂_congr next_iff

end Along

end WsGateway.Foundation
