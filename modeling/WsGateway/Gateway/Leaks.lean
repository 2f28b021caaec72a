import WsGateway.Gateway.Lifecycle

/-! What is left in the registry when connections end.

An entry belongs to a connection that has its cleanup ahead: the cleanup takes
out whatever is stored under the names, so its own entry does not outlive it.
Together with the registry's own invariant nothing remains in the end.
-/

set_option autoImplicit false

namespace WsGateway.Gateway
open Foundation Protocol Routing

/-- The sender of an entry belongs to a connection of these names with its
cleanup ahead. -/
def EntriesLive (g : Gateway) : Prop :=
  ∀ key id, g.entries key = some id → ∃ phase, g.profile[id]? = some (key, phase) ∧ phase ≠ .closed

section Steps

variable {g next : Gateway}

theorem entriesLive_set {id : ConnectionId} {key : Key} {phase phase' : ConnectionPhase}
    (live : EntriesLive g) (found : g.profile[id]? = some (key, phase))
    (entries : ∀ key' id', next.entries key' = some id' → g.entries key' = some id')
    (profile : next.profile = g.profile.set id (key, phase'))
    (ahead : next.entries key = some id → phase' ≠ .closed) : EntriesLive next := by
  intro key' id' entry
  obtain ⟨old, here, unclosed⟩ := live key' id' (entries key' id' entry)
  rw [profile]
  by_cases same : id = id'
  · subst same
    rw [found] at here
    cases here
    exact ⟨phase', (getElem?_set_eq_some found).mpr (Or.inl ⟨rfl, rfl⟩), ahead entry⟩
  · exact ⟨old, (getElem?_set_eq_some found).mpr (Or.inr ⟨same, here⟩), unclosed⟩

theorem entriesLive_step : Invariant step EntriesLive := by
  intro g event next live taken
  cases lifecycle taken with
  | connect _ entries profile =>
    intro key id entry
    rw [entries, Function.update_apply] at entry
    rw [profile]
    split at entry
    next same =>
      cases entry
      refine ⟨.running, getElem?_concat_eq_some.mpr (Or.inr ⟨?_, ?_⟩), by decide⟩
      · exact (length_profile g).symm
      · rw [same]
    next =>
      obtain ⟨phase, here, ahead⟩ := live key id entry
      exact ⟨phase, getElem?_concat_eq_some.mpr (Or.inl here), ahead⟩
  | exit found entries profile =>
    exact entriesLive_set live found (fun key id entry => by rwa [entries] at entry) profile
      fun _ => by decide
  | cleanup found entries profile =>
    refine entriesLive_set live found ?_ profile ?_
    · intro key id entry
      rw [entries, Function.update_apply] at entry
      split at entry
      next => cases entry
      next => exact entry
    -- The cleanup's own entry is gone with the step.
    · intro entry
      rw [entries, Function.update_self] at entry
      cases entry
  | disconnect _ _ entries profile =>
    intro key id entry
    rw [profile]
    rw [entries, Function.update_apply] at entry
    split at entry
    next => cases entry
    next => exact live key id entry
  | quiet _ _ entries profile =>
    intro key id entry
    rw [entries] at entry
    rw [profile]
    exact live key id entry

theorem registry_step {event : Event} (taken : g.step event = some next) :
    next.registry = g.registry ∨ ∃ event', g.registry.step event' = some next.registry := by
  cases event with
  | connect params =>
    obtain ⟨room, user, _, ⟨unlocked, _⟩, rfl⟩ := connect_eq_some.mp taken
    exact Or.inr ⟨.register room user g.connections.length, guarded_eq_some.mpr ⟨unlocked, rfl⟩⟩
  | exit id =>
    obtain ⟨_, _, _, rfl⟩ := exit_eq_some.mp taken
    exact Or.inl rfl
  | cleanup id =>
    obtain ⟨connection, _, _, rfl⟩ := cleanup_eq_some.mp taken
    exact Or.inr ⟨.unregister connection.room connection.user, rfl⟩
  | datagram data =>
    cases taken
    exact Or.inl (receive_registry _ _)
  | frame id data =>
    obtain ⟨_, _, _, rfl⟩ := frame_eq_some.mp taken
    exact Or.inl (receive_registry _ _)
  | recv id =>
    obtain ⟨_, _, _, _, _, _, rfl⟩ := recv_eq_some.mp taken
    exact Or.inl rfl
  | route packet =>
    obtain ⟨_, _, routed⟩ := routed taken
    exact Or.inl (routed_quiet routed).1
  | visit packet user =>
    obtain ⟨_, _, _, _, _, _, rfl⟩ := visit_eq_some taken
    exact Or.inl rfl
  | retry id =>
    obtain ⟨_, _, retried⟩ := retried taken
    exact Or.inl (retried_quiet retried).1
  | disconnect id =>
    obtain ⟨task, _, _, rfl⟩ := disconnect_eq_some.mp taken
    exact Or.inr ⟨.unregister task.room task.user, rfl⟩
  | testEmpty call =>
    obtain ⟨registry, tested, rfl⟩ := testEmpty_eq_some.mp taken
    exact Or.inr ⟨.testEmpty call, tested⟩
  | removeIf call =>
    obtain ⟨_, registry, removed, rfl⟩ := removeIf_eq_some.mp taken
    exact Or.inr ⟨.removeIf call, removed⟩
  | tick elapsed =>
    cases taken
    exact Or.inl rfl

theorem registry_invariant {I : Registry ConnectionId → Prop}
    (keeps : Invariant Registry.step I) : Invariant step fun g => I g.registry := by
  intro g event next holds taken
  rcases registry_step taken with same | ⟨event', stepped⟩
  · rw [same]
    exact holds
  · exact keeps g.registry event' next.registry holds stepped

end Steps

section Runs

/-- Over every run, entries belong to connections whose cleanup is ahead. When all
connections are done and no unregister call is under way, no room is left. -/
theorem no_registry_leak (events : List Event) (g : Gateway)
    (ran : run step new events = some g) :
    (∀ key id, g.entries key = some id →
      ∃ connection : Connection, g.connections[id]? = some connection ∧ connection.key = key ∧
        connection.phase ≠ .closed) ∧
    ((∀ connection ∈ g.connections, connection.phase = .closed) →
      (∀ call ∈ g.registry.unregisters, call.phase = .done) → g.registry.rooms = ∅) := by
  have live : EntriesLive g := by
    refine entriesLive_step.run ?_ ran
    rintro key id ⟨⟩
  have owned : ∀ key id, g.entries key = some id →
      ∃ connection : Connection, g.connections[id]? = some connection ∧ connection.key = key ∧
        connection.phase ≠ .closed := by
    intro key id entry
    obtain ⟨phase, here, ahead⟩ := live key id entry
    rw [profile, List.getElem?_map] at here
    obtain ⟨connection, found, same⟩ := Option.map_eq_some_iff.mp here
    cases same
    exact ⟨connection, found, rfl, ahead⟩
  refine ⟨owned, fun closed settled => NestedMap.eq_empty_of_notMem fun room present => ?_⟩
  have pending : g.registry.EmptyRoomsPending := by
    refine (registry_invariant Registry.emptyRoomsPending_step).run ?_ ran
    intro room vacant
    cases vacant
  -- Without empty rooms a room that is left holds an entry, and its owner is not done.
  obtain ⟨user, id, entry⟩ := pending.occupied settled present
  obtain ⟨connection, found, _, ahead⟩ := owned (room, user) id entry
  exact ahead (closed connection (List.mem_of_getElem? found))

def kickedAndClosed : List Event :=
  [.connect ⟨"r1", "ann"⟩, .connect ⟨"r1", "ann"⟩, .exit 0, .exit 1, .cleanup 0, .cleanup 1,
    .testEmpty 0, .testEmpty 1, .removeIf 1, .removeIf 0]

theorem no_registry_leak_kicked :
    ∃ g, run step new kickedAndClosed = some g ∧ g.registry.rooms = ∅ :=
  ⟨_, rfl, (no_registry_leak kickedAndClosed _ rfl).2 (by decide) (by decide)⟩

end Runs

end WsGateway.Gateway
