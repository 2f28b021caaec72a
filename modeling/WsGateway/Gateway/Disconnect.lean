import WsGateway.Gateway.Delivery

/-! The forced disconnect after a failed retry.

The retry task holds the sender it failed on, but unregisters by name. What it
takes out is the entry of the latest connection under that name.
-/

set_option autoImplicit false

namespace WsGateway.Gateway
open Foundation Protocol Routing

def EntriesCurrent (g : Gateway) : Prop :=
  ∀ key id, g.entries key = some id → g.Current id key

/-- A forced disconnect leaves the entries of all other senders in place. -/
def SparesOthers (g : Gateway) (event : Event) (next : Gateway) : Prop :=
  ∀ id task, event = .disconnect id → g.retries[id]? = some task →
    ∀ key holder, g.entries key = some holder → holder ≠ task.tx → next.entries key = some holder

/-- A forced disconnect comes while the connection it is about is still the latest
under its names, or while nothing is registered under them. -/
def NotSuperseded (g : Gateway) (event : Event) (_ : Gateway) : Prop :=
  ∀ id task, event = .disconnect id → g.retries[id]? = some task →
    g.entries (task.room, task.user) = none ∨ g.Current task.tx (task.room, task.user)

section Steps

variable {g next : Gateway}

theorem Current.eq {first second : ConnectionId} {key : Key} (current : g.Current first key)
    (other : g.Current second key) : first = second := by
  rcases Nat.lt_trichotomy first second with before | same | after
  · exact absurd other.1 (current.2 second before)
  · exact same
  · exact absurd current.1 (other.2 first after)

theorem entriesCurrent_step : Invariant step EntriesCurrent := by
  intro g event next current taken key id entry
  cases lifecycle taken with
  | connect _ entries profile =>
    rw [current_connect (keys_of_connect profile)]
    rw [entries, Function.update_apply] at entry
    split at entry
    next same =>
      cases entry
      exact Or.inr ⟨rfl, same⟩
    next different => exact Or.inl ⟨current key id entry, different⟩
  | exit found entries profile =>
    rw [entries] at entry
    exact (current_congr (keys_set found profile)).mpr (current key id entry)
  | cleanup found entries profile =>
    rw [entries, Function.update_apply] at entry
    split at entry
    next => cases entry
    next => exact (current_congr (keys_set found profile)).mpr (current key id entry)
  | disconnect _ _ entries profile =>
    rw [entries, Function.update_apply] at entry
    split at entry
    next => cases entry
    next => exact (current_congr (keys_of_profile profile)).mpr (current key id entry)
  | quiet _ _ entries profile =>
    rw [entries] at entry
    exact (current_congr (keys_of_profile profile)).mpr (current key id entry)

theorem sparesOthers_iff (current : EntriesCurrent g) {event : Event}
    (taken : g.step event = some next) :
    SparesOthers g event next ↔ NotSuperseded g event next := by
  cases lifecycle taken with
  | @disconnect id task found _ entries _ =>
    have own {id' : Nat} {task' : RetryTask} (same : Event.disconnect id = .disconnect id')
        (found' : g.retries[id']? = some task') : task' = task := by
      cases same
      exact Option.some.inj (found'.symm.trans found)
    constructor
    · intro spares id' task' same found'
      obtain rfl := own same found'
      cases entry : g.entries (task'.room, task'.user) with
      | none => exact Or.inl rfl
      | some holder =>
        right
        -- The entry belongs to the latest connection; spared it would have to stay.
        have here := current _ _ entry
        by_cases tx : holder = task'.tx
        · rwa [tx] at here
        · have left := spares id' task' same found' _ holder entry tx
          rw [entries, Function.update_self] at left
          cases left
    · intro safe id' task' same found' key holder entry other
      rw [entries, Function.update_apply]
      obtain rfl := own same found'
      split
      next under =>
        subst under
        rcases safe id' task' same found' with gone | latest
        · rw [gone] at entry
          cases entry
        · exact absurd ((current _ _ entry).eq latest) other
      next => exact entry
  | quiet _ none _ _ =>
    constructor
    · rintro _ id task rfl
      exact absurd rfl (none id)
    · rintro _ id task rfl
      exact absurd rfl (none id)
  | connect => simp [SparesOthers, NotSuperseded]
  | exit => simp [SparesOthers, NotSuperseded]
  | cleanup => simp [SparesOthers, NotSuperseded]

end Steps

section Runs

/-- Over every run, forced disconnects spare all other connections exactly when none
comes for a connection that another one has replaced. -/
theorem disconnect_spares_iff (events : List Event) :
    EveryStep step SparesOthers new events ↔ EveryStep step NotSuperseded new events := by
  refine EveryStep.congr entriesCurrent_step ?_ ?_ events
  · intro g event next current taken
    exact sparesOthers_iff current taken
  · rintro key id ⟨⟩

def unicastTo (data : Bytes) (packet : PacketId) : List Event :=
  [.frame 0 data, .route packet, .route packet, .route packet, .route packet]

def aiEvent : Bytes :=
  [2, 2, 2, 0, 114, 49, 0, 0, 0, 0, 97, 110, 110, 0, 0, 0, 0, 0, 0, 0, 0, 0, 0, 0]

def systemCmd : Bytes :=
  [2, 3, 2, 0, 114, 49, 0, 0, 0, 0, 97, 110, 110, 0, 0, 0, 0, 0, 0, 0, 0, 0, 0, 0]

def reconnectWhileRetrying : List Event :=
  .connect ⟨"r1", "ann"⟩ :: (List.range 64).flatMap (unicastTo aiEvent) ++
    unicastTo systemCmd 64 ++
    [.retry 0, .retry 0, .connect ⟨"r1", "ann"⟩, .tick (millis 50), .retry 0]

theorem reconnected_user_disconnected :
    ∃ g next, run step new reconnectWhileRetrying = some g ∧ g.step (.disconnect 0) = some next ∧
      ¬ SparesOthers g (.disconnect 0) next := by
  have ends : (run step new reconnectWhileRetrying).any (fun g => g.retries[0]?.any fun task =>
      (g.step (.disconnect 0)).any fun next => task.tx = 0 ∧ g.entries ("r1", "ann") = some 1 ∧
        next.entries ("r1", "ann") = none) = true := by decide +kernel
  obtain ⟨g, ran, ends⟩ := (Option.any_eq_true _ _).mp ends
  obtain ⟨task, found, ends⟩ := (Option.any_eq_true _ _).mp ends
  obtain ⟨next, taken, ends⟩ := (Option.any_eq_true _ _).mp ends
  obtain ⟨tx, before, after⟩ := of_decide_eq_true ends
  refine ⟨g, next, ran, taken, fun spares => ?_⟩
  have left := spares 0 task rfl found _ 1 before (by rw [tx]; decide)
  rw [after] at left
  cases left

end Runs

end WsGateway.Gateway
