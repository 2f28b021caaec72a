import Mathlib.Algebra.BigOperators.Group.List.Basic
import WsGateway.Foundation.NestedMap
import WsGateway.Foundation.Transition

/-! The room registry and its two operations under concurrency.

`register` holds the exclusive lock of the room's shard for its whole body and
is one step. `unregister` is three: the removal and the emptiness test under
the shared lock, and the conditional removal of the room. An unregister that
still has the shared lock keeps out whoever needs the exclusive one.
-/

set_option autoImplicit false

namespace WsGateway.Routing
open Foundation

abbrev RoomID := String
abbrev UserID := String

inductive UnregisterPhase where
  /-- The user is removed; the shared lock is held for the emptiness test. -/
  | testing
  /-- The room was empty; `remove_if` is to run. -/
  | cleanup
  | done
  deriving DecidableEq, Repr

structure Unregister where
  room : RoomID
  phase : UnregisterPhase
  deriving DecidableEq, Repr

structure Registry (S : Type) where
  rooms : NestedMap RoomID UserID S
  unregisters : List Unregister

namespace Registry

variable {S : Type}

inductive Event (S : Type) where
  | register (room : RoomID) (user : UserID) (tx : S)
  | unregister (room : RoomID) (user : UserID)
  | testEmpty (call : Nat)
  | removeIf (call : Nat)

def empty (S : Type) : Registry S := ⟨∅, []⟩

def Unlocked (registry : Registry S) (room : RoomID) : Prop :=
  ∀ call ∈ registry.unregisters, call.room = room → call.phase ≠ .testing

instance (registry : Registry S) (room : RoomID) : Decidable (registry.Unlocked room) :=
  inferInstanceAs (Decidable (∀ call ∈ registry.unregisters, _ → _))

def register (registry : Registry S) (room : RoomID) (user : UserID) (tx : S) : Registry S :=
  { registry with rooms := registry.rooms.put room user tx }

/-- `get` and the removal of the user. A missing room ends the call at once. -/
def unregister (registry : Registry S) (room : RoomID) (user : UserID) : Registry S :=
  if room ∈ registry.rooms then
    { rooms := registry.rooms.remove room user
      unregisters := registry.unregisters ++ [⟨room, .testing⟩] }
  else registry

def testEmpty (registry : Registry S) (call : Nat) : Option (Registry S) :=
  registry.unregisters[call]?.bind fun unregister =>
    if unregister.phase = .testing then
      let phase := if registry.rooms.isVacant unregister.room then .cleanup else .done
      some { registry with
        unregisters := registry.unregisters.set call { unregister with phase } }
    else none

def removeIf (registry : Registry S) (call : Nat) : Option (Registry S) :=
  registry.unregisters[call]?.bind fun unregister =>
    if unregister.phase = .cleanup ∧ registry.Unlocked unregister.room then
      some {
        rooms := registry.rooms.prune unregister.room
        unregisters := registry.unregisters.set call { unregister with phase := .done } }
    else none

def step (registry : Registry S) : Event S → Option (Registry S)
  | .register room user tx =>
    if registry.Unlocked room then some (registry.register room user tx) else none
  | .unregister room user => some (registry.unregister room user)
  | .testEmpty call => registry.testEmpty call
  | .removeIf call => registry.removeIf call

section Steps

variable {registry next : Registry S} {call : Nat}

theorem testEmpty_eq_some :
    registry.testEmpty call = some next ↔
      ∃ room, registry.unregisters[call]? = some ⟨room, .testing⟩ ∧
        next = { registry with
          unregisters := registry.unregisters.set call
            ⟨room, if registry.rooms.isVacant room then .cleanup else .done⟩ } := by
  simp only [testEmpty, Option.bind_eq_some_iff, guarded_eq_some]
  constructor
  · rintro ⟨⟨room, phase⟩, found, rfl, rfl⟩
    exact ⟨room, found, rfl⟩
  · rintro ⟨room, found, rfl⟩
    exact ⟨_, found, rfl, rfl⟩

theorem removeIf_eq_some :
    registry.removeIf call = some next ↔
      ∃ room, registry.unregisters[call]? = some ⟨room, .cleanup⟩ ∧ registry.Unlocked room ∧
        next = {
          rooms := registry.rooms.prune room
          unregisters := registry.unregisters.set call ⟨room, .done⟩ } := by
  simp only [removeIf, Option.bind_eq_some_iff, guarded_eq_some]
  constructor
  · rintro ⟨⟨room, phase⟩, found, ⟨rfl, unlocked⟩, rfl⟩
    exact ⟨room, found, unlocked, rfl⟩
  · rintro ⟨room, found, unlocked, rfl⟩
    exact ⟨_, found, ⟨rfl, unlocked⟩, rfl⟩

theorem unregister_eq (registry : Registry S) (room : RoomID) (user : UserID) :
    (registry.unregister room user).rooms = registry.rooms.remove room user := by
  unfold unregister
  split
  next => rfl
  next absent =>
    rw [NestedMap.remove, AList.lookup_eq_none.mpr absent]
    rfl

end Steps

section Refinement

def flatStep (flat : RoomID × UserID → Option S) : Event S → RoomID × UserID → Option S
  | .register room user tx => Function.update flat (room, user) (some tx)
  | .unregister room user => Function.update flat (room, user) none
  | .testEmpty _ => flat
  | .removeIf _ => flat

theorem flat_step {registry next : Registry S} {event : Event S}
    (taken : registry.step event = some next) :
    next.rooms.flat = flatStep registry.rooms.flat event := by
  cases event with
  | register room user tx =>
    obtain ⟨_, rfl⟩ := guarded_eq_some.mp taken
    exact NestedMap.flat_put _ _ _ _
  | unregister room user =>
    cases taken
    rw [unregister_eq, NestedMap.flat_remove]
    rfl
  | testEmpty call =>
    obtain ⟨room, _, rfl⟩ := testEmpty_eq_some.mp taken
    rfl
  | removeIf call =>
    obtain ⟨room, _, _, rfl⟩ := removeIf_eq_some.mp taken
    exact NestedMap.flat_prune _ _

theorem flat_run {events : List (Event S)} {final : Registry S}
    (ran : run step (empty S) events = some final) :
    final.rooms.flat = events.foldl flatStep fun _ => none := by
  refine run_induction (P := fun events registry =>
    registry.rooms.flat = events.foldl flatStep fun _ => none) ?_ ?_ ran
  · exact NestedMap.flat_empty
  · intro front registry event next same taken
    rw [flat_step taken, same, List.foldl_append]
    rfl

end Refinement

section Cleanup

/-- A call that is bound to run its `remove_if`: it found the room empty, or
it holds the shared lock of an empty room and has its test ahead. -/
def CleanupPending (registry : Registry S) (room : RoomID) (call : Nat) : Prop :=
  registry.unregisters[call]? = some ⟨room, .cleanup⟩ ∨
    registry.unregisters[call]? = some ⟨room, .testing⟩ ∧ registry.rooms.isVacant room = true

theorem locked_of_testing {registry : Registry S} {room : RoomID} {call : Nat}
    (found : registry.unregisters[call]? = some ⟨room, .testing⟩) : ¬ registry.Unlocked room :=
  fun unlocked => unlocked _ (List.mem_of_getElem? found) rfl rfl

/-- Only its own `remove_if` ends a pending cleanup: while the test is ahead the
shared lock keeps the room empty and in place. -/
theorem cleanupPending_step {registry next : Registry S} {room : RoomID} {call : Nat}
    {event : Event S} (pending : registry.CleanupPending room call)
    (taken : registry.step event = some next) (other : event ≠ .removeIf call) :
    next.CleanupPending room call := by
  cases event with
  | register room' user tx =>
    obtain ⟨unlocked, rfl⟩ := guarded_eq_some.mp taken
    rcases pending with found | ⟨found, vacant⟩
    · exact Or.inl found
    · refine Or.inr ⟨found, NestedMap.isVacant_put.mpr ⟨?_, vacant⟩⟩
      rintro rfl
      exact locked_of_testing found unlocked
  | unregister room' user =>
    cases taken
    have kept : (registry.unregister room' user).unregisters[call]? = registry.unregisters[call]? := by
      have bound : call < registry.unregisters.length := by
        rcases pending with found | ⟨found, _⟩ <;> exact (List.getElem?_eq_some_iff.mp found).1
      unfold unregister
      split
      · exact List.getElem?_append_left bound
      · rfl
    rw [CleanupPending, kept, unregister_eq]
    exact pending.imp_right fun ⟨found, vacant⟩ => ⟨found, NestedMap.isVacant_remove vacant⟩
  | testEmpty call' =>
    obtain ⟨room', found', rfl⟩ := testEmpty_eq_some.mp taken
    by_cases same : call' = call
    · subst same
      rcases pending with found | ⟨found, vacant⟩
      · rw [found'] at found
        cases found
      · obtain ⟨bound, _⟩ := List.getElem?_eq_some_iff.mp found
        rw [found'] at found
        cases found
        exact Or.inl (by simp [bound, vacant])
    · rw [CleanupPending, List.getElem?_set_ne same]
      exact pending
  | removeIf call' =>
    have same : call' ≠ call := fun equal => other (equal ▸ rfl)
    obtain ⟨room', found', unlocked, rfl⟩ := removeIf_eq_some.mp taken
    rw [CleanupPending, List.getElem?_set_ne same]
    refine pending.imp_right fun ⟨found, vacant⟩ => ⟨found, NestedMap.isVacant_prune.mpr ⟨?_, vacant⟩⟩
    rintro rfl
    exact locked_of_testing found unlocked

def EmptyRoomsPending (registry : Registry S) : Prop :=
  ∀ room, registry.rooms.isVacant room = true → ∃ call, registry.CleanupPending room call

/-- With no call under way there is no empty room. -/
theorem EmptyRoomsPending.occupied {registry : Registry S} (pending : EmptyRoomsPending registry)
    (settled : ∀ call ∈ registry.unregisters, call.phase = .done) {room : RoomID}
    (present : room ∈ registry.rooms) : ∃ user tx, registry.rooms.find room user = some tx := by
  by_contra absent
  have vacant : registry.rooms.isVacant room = true := by
    refine NestedMap.isVacant_iff.mpr ⟨present, fun user => ?_⟩
    rw [Option.eq_none_iff_forall_ne_some]
    intro tx found
    exact absent ⟨user, tx, found⟩
  obtain ⟨call, found | ⟨found, _⟩⟩ := pending room vacant
  · cases settled _ (List.mem_of_getElem? found)
  · cases settled _ (List.mem_of_getElem? found)

/-- A room becomes empty only at the removal step of an unregister, whose test
is then ahead. -/
theorem isVacant_step {registry next : Registry S} {event : Event S} {room : RoomID}
    (taken : registry.step event = some next) (vacant : next.rooms.isVacant room = true) :
    registry.rooms.isVacant room = true ∨ ∃ call, next.CleanupPending room call := by
  cases event with
  | register room' user tx =>
    obtain ⟨_, rfl⟩ := guarded_eq_some.mp taken
    exact Or.inl (NestedMap.isVacant_put.mp vacant).2
  | unregister room' user =>
    cases taken
    by_cases same : room = room'
    · subst same
      right
      have present : room ∈ registry.rooms := by
        rw [unregister_eq] at vacant
        exact NestedMap.mem_remove.mp (NestedMap.isVacant_iff.mp vacant).1
      refine ⟨registry.unregisters.length, Or.inr ⟨?_, vacant⟩⟩
      rw [unregister, if_pos present]
      simp
    · left
      rwa [unregister_eq, NestedMap.isVacant_remove_of_ne same] at vacant
  | testEmpty call =>
    obtain ⟨_, _, rfl⟩ := testEmpty_eq_some.mp taken
    exact Or.inl vacant
  | removeIf call =>
    obtain ⟨_, _, _, rfl⟩ := removeIf_eq_some.mp taken
    exact Or.inl (NestedMap.isVacant_prune.mp vacant).2

theorem emptyRoomsPending_step : Invariant (step (S := S)) EmptyRoomsPending := by
  intro registry event next pending taken room vacant
  rcases isVacant_step taken vacant with before | fresh
  · obtain ⟨call, here⟩ := pending room before
    by_cases own : event = .removeIf call
    -- The call that cleans the room up leaves no empty room behind.
    · subst own
      obtain ⟨room', found, _, rfl⟩ := removeIf_eq_some.mp taken
      rcases here with here | ⟨here, _⟩
      · rw [found] at here
        cases here
        exact absurd rfl (NestedMap.isVacant_prune.mp vacant).1
      · rw [found] at here
        cases here
    · exact ⟨call, cleanupPending_step here taken own⟩
  · exact fresh

/-- The `remove_if` of a call ends it and leaves no empty room under its name. -/
theorem settled_of_removeIf {registry next : Registry S} {call : Nat}
    (taken : registry.step (.removeIf call) = some next) :
    ∃ room, registry.unregisters[call]? = some ⟨room, .cleanup⟩ ∧
      next.unregisters[call]? = some ⟨room, .done⟩ ∧ next.rooms.isVacant room = false := by
  obtain ⟨room, found, _, rfl⟩ := removeIf_eq_some.mp taken
  obtain ⟨bound, _⟩ := List.getElem?_eq_some_iff.mp found
  refine ⟨room, found, List.getElem?_set_self bound, ?_⟩
  rw [Bool.eq_false_iff]
  exact fun vacant => (NestedMap.isVacant_prune.mp vacant).1 rfl

theorem settled_of_testEmpty {registry next : Registry S} {call : Nat}
    (taken : registry.step (.testEmpty call) = some next) :
    ∃ room, registry.unregisters[call]? = some ⟨room, .testing⟩ ∧
      next.unregisters[call]? =
        some ⟨room, if next.rooms.isVacant room then .cleanup else .done⟩ := by
  obtain ⟨room, found, rfl⟩ := testEmpty_eq_some.mp taken
  obtain ⟨bound, _⟩ := List.getElem?_eq_some_iff.mp found
  exact ⟨room, found, List.getElem?_set_self bound⟩

theorem testEmpty_enabled {registry : Registry S} {room : RoomID} {call : Nat}
    (found : registry.unregisters[call]? = some ⟨room, .testing⟩) :
    ∃ next, registry.step (.testEmpty call) = some next :=
  ⟨_, testEmpty_eq_some.mpr ⟨room, found, rfl⟩⟩

theorem removeIf_enabled {registry : Registry S} {room : RoomID} {call : Nat}
    (found : registry.unregisters[call]? = some ⟨room, .cleanup⟩) (unlocked : registry.Unlocked room) :
    ∃ next, registry.step (.removeIf call) = some next :=
  ⟨_, removeIf_eq_some.mpr ⟨room, found, unlocked, rfl⟩⟩

/-- The nested registry refines the flat map, and its empty rooms are those of
unregister calls on their way to `remove_if`, which ends the call and takes the empty
room away. -/
theorem refines_flat_map (S : Type) (events : List (Event S)) (final : Registry S)
    (ran : run step (empty S) events = some final) :
    final.rooms.flat = events.foldl flatStep (fun _ => none) ∧
    (∀ room, room ∈ final.rooms → (∀ user, final.rooms.find room user = none) →
      ∃ call, final.CleanupPending room call) ∧
    (∀ room call event next, final.CleanupPending room call → final.step event = some next →
      event ≠ .removeIf call → next.CleanupPending room call) ∧
    (∀ room call, final.unregisters[call]? = some ⟨room, .testing⟩ →
      ∃ next, final.step (.testEmpty call) = some next) ∧
    (∀ call next, final.step (.testEmpty call) = some next →
      ∃ room, final.unregisters[call]? = some ⟨room, .testing⟩ ∧
        next.unregisters[call]? =
          some ⟨room, if next.rooms.isVacant room then .cleanup else .done⟩) ∧
    (∀ room call, final.unregisters[call]? = some ⟨room, .cleanup⟩ → final.Unlocked room →
      ∃ next, final.step (.removeIf call) = some next) ∧
    (∀ call next, final.step (.removeIf call) = some next →
      ∃ room, final.unregisters[call]? = some ⟨room, .cleanup⟩ ∧
        next.unregisters[call]? = some ⟨room, .done⟩ ∧ next.rooms.isVacant room = false) ∧
    ((∀ call ∈ final.unregisters, call.phase = .done) →
      ∀ room ∈ final.rooms, ∃ user tx, final.rooms.find room user = some tx) := by
  have pending : EmptyRoomsPending final := by
    refine emptyRoomsPending_step.run ?_ ran
    intro room vacant
    cases vacant
  refine ⟨flat_run ran, ?_, ?_, ?_, ?_, ?_, ?_, ?_⟩
  · intro room present absent
    exact pending room (NestedMap.isVacant_iff.mpr ⟨present, absent⟩)
  · intro room call event next here taken other
    exact cleanupPending_step here taken other
  · intro room call found
    exact testEmpty_enabled found
  · intro call next taken
    exact settled_of_testEmpty taken
  · intro room call found unlocked
    exact removeIf_enabled found unlocked
  · intro call next taken
    exact settled_of_removeIf taken
  · intro settled room present
    exact pending.occupied settled present

def overlapping : List (Event Nat) :=
  [.register "r" "a" 0, .register "r" "b" 1, .register "s" "c" 2, .unregister "r" "a",
    .unregister "r" "b", .testEmpty 0, .testEmpty 1]

theorem refines_flat_map_overlapping :
    ∃ middle final, run step (empty Nat) overlapping = some middle ∧
      middle.rooms.flat = overlapping.foldl flatStep (fun _ => none) ∧
      middle.rooms.isVacant "r" = true ∧
      middle.unregisters = [⟨"r", .cleanup⟩, ⟨"r", .cleanup⟩] ∧
      middle.step (.removeIf 1) = some final ∧ final.rooms.entries.map Sigma.fst = ["s"] ∧
      final.unregisters = [⟨"r", .cleanup⟩, ⟨"r", .done⟩] ∧ final.rooms.isVacant "r" = false := by
  have holds := refines_flat_map Nat overlapping _ rfl
  obtain ⟨room, found, _, occupied⟩ := holds.2.2.2.2.2.2.1 1 _ rfl
  cases found
  exact ⟨_, _, rfl, holds.1, rfl, rfl, rfl, rfl, rfl, occupied⟩

end Cleanup

section Counts

variable {registry : Registry S}

/-- The number of rooms, the empty ones on their way out included. -/
def roomCount (registry : Registry S) : Nat := registry.rooms.entries.length

def userCount (registry : Registry S) : Nat :=
  (registry.rooms.entries.map fun room => room.2.keys.length).sum

theorem userCount_eq (registry : Registry S) : registry.userCount = registry.rooms.pairs.length :=
  (NestedMap.length_pairs _).symm

theorem roomCount_le_userCount (pending : EmptyRoomsPending registry)
    (settled : ∀ call ∈ registry.unregisters, call.phase = .done) :
    registry.roomCount ≤ registry.userCount := by
  rw [roomCount, ← List.length_map fun room : Sigma _ => room.2.keys.length]
  refine List.length_le_sum_of_one_le _ fun count member => ?_
  obtain ⟨⟨room, users⟩, inside, rfl⟩ := List.mem_map.mp member
  have here : AList.lookup room registry.rooms = some users := AList.mem_lookup_iff.mpr inside
  obtain ⟨user, tx, found⟩ := pending.occupied settled (AList.lookup_isSome.mp (by rw [here]; rfl))
  rw [NestedMap.find, here] at found
  have present : user ∈ users := AList.lookup_isSome.mp (Option.isSome_iff_exists.mpr ⟨tx, found⟩)
  exact List.length_pos_of_mem (AList.mem_keys.mp present)

end Counts

end Registry

end WsGateway.Routing
