import WsGateway.Gateway.Leaks
import WsGateway.Gateway.Progress

/-! The gateway winds down when nobody connects and no packet comes any more.

Besides the tasks, the connections have work left then: to empty their queues and,
once they have left their loops, to clean up. When a handler leaves is up to its client,
which may stay for ever; everything else comes to an end in whatever order it is done.
-/

set_option autoImplicit false

namespace WsGateway
open Foundation Protocol Routing

/-- What a connection still has to do; its cleanup starts an unregister call. -/
def Connection.work (connection : Connection) : Nat :=
  match connection.phase with
  | .running => connection.channel.queue.length + 6
  | .exited => connection.channel.queue.length + 5
  | .closed => 0

namespace Gateway

/-- Everything but new connections and packets; a handler may leave its loop any time. -/
def Event.Closing : Event → Prop
  | .connect _ | .datagram _ | .frame _ _ => False
  | .exit _ | .cleanup _ | .recv _ | .route _ | .visit _ _ | .retry _ | .disconnect _
  | .testEmpty _ | .removeIf _ | .tick _ => True

theorem Event.Internal.closing {event : Event} (internal : event.Internal) : event.Closing := by
  cases event <;> trivial

def connectionWork (g : Gateway) : Nat := (g.connections.map Connection.work).sum

def leftover (g : Gateway) : Nat := 2 * g.pending + g.connectionWork

/-- Nothing is left to do for anybody but the clients that are still there. -/
structure Rested (g : Gateway) : Prop where
  quiet : g.Quiet
  connections : ∀ connection ∈ g.connections, connection.phase = .closed ∨
    connection.phase = .running ∧ connection.channel.queue = []
  rooms : ∀ room ∈ g.registry.rooms, ∃ user id connection, g.entries (room, user) = some id ∧
    g.connections[id]? = some connection ∧ connection.phase = .running

section Costs

variable {g next : Gateway} {id : ConnectionId} {connection connection' : Connection}

theorem connectionWork_set (found : g.connections[id]? = some connection) (connection' : Connection) :
    (g.setConnection id connection').connectionWork + connection.work =
      g.connectionWork + connection'.work :=
  sum_set Connection.work connection' found

theorem work_accepts {item : Outbound} (accepts : connection.Accepts connection' item) :
    connection'.work ≤ connection.work + 1 := by
  have longer : connection'.channel.queue.length ≤ connection.channel.queue.length + 1 := by
    simpa using accepts.queue.length_le
  unfold Connection.work
  rw [accepts.phase]
  cases connection.phase with
  | running => dsimp only; omega
  | exited => dsimp only; omega
  | closed => exact Nat.le_succ 0

theorem connectionWork_accepts {item : Outbound} (found : g.connections[id]? = some connection)
    (accepts : connection.Accepts connection' item) :
    (g.setConnection id connection').connectionWork ≤ g.connectionWork + 1 := by
  have sum := connectionWork_set found connection'
  have more := work_accepts accepts
  omega

theorem connectionWork_internal {event : Event} (internal : event.Internal)
    (taken : g.step event = some next) : next.connectionWork ≤ g.connectionWork + event.effort := by
  cases event with
  | route packet =>
    obtain ⟨task, found, routed⟩ := routed taken
    cases routed with
    | dispatched _ dispatched =>
      cases dispatched with
      | sent here _ sent =>
        exact connectionWork_accepts here (Connection.accepts_of_trySend sent)
      | forced here =>
        exact connectionWork_accepts here (Connection.accepts_sendDropOldest _ _)
      | refused => exact Nat.le_succ _
      | dropped => exact Nat.le_succ _
    | resolved => exact Nat.le_succ _
    | collected => exact Nat.le_succ _
    | found => exact Nat.le_succ _
    | missing => exact Nat.le_succ _
    | returned => exact Nat.le_succ _
  | visit packet user =>
    obtain ⟨_, _, _, _, _, _, rfl⟩ := visit_eq_some taken
    exact Nat.le_succ _
  | retry task =>
    obtain ⟨_, _, retried⟩ := retried taken
    cases retried with
    | delivered _ here sent =>
      exact connectionWork_accepts here (Connection.accepts_of_trySend sent)
    | started => exact Nat.le_succ _
    | refused => exact Nat.le_succ _
    | expired => exact Nat.le_succ _
    | paused => exact Nat.le_succ _
    | woken => exact Nat.le_succ _
  | disconnect task =>
    obtain ⟨_, _, _, rfl⟩ := disconnect_eq_some.mp taken
    exact Nat.le_succ _
  | testEmpty call =>
    obtain ⟨_, _, rfl⟩ := testEmpty_eq_some.mp taken
    exact Nat.le_succ _
  | removeIf call =>
    obtain ⟨_, _, _, rfl⟩ := removeIf_eq_some.mp taken
    exact Nat.le_succ _
  | tick elapsed =>
    cases taken
    exact Nat.le_refl _
  | connect => exact internal.elim
  | exit => exact internal.elim
  | cleanup => exact internal.elim
  | datagram => exact internal.elim
  | frame => exact internal.elim
  | recv => exact internal.elim

/-- The unregister call of a cleanup or a disconnect. -/
theorem pending_unregister (g : Gateway) (room : RoomID) (user : UserID) :
    pending { g with registry := g.registry.unregister room user } ≤ g.pending + 2 := by
  have unregisters : unregisterWork { g with registry := g.registry.unregister room user } ≤
      g.unregisterWork + 2 := unregisterWork_le g room user
  have routes : routeWork { g with registry := g.registry.unregister room user } ≤ g.routeWork := by
    refine routeWork_le rfl fun other => ?_
    rw [users, Registry.unregister_eq]
    exact users_remove g room user other
  change _ + g.retryWork + _ ≤ g.routeWork + g.retryWork + g.unregisterWork + 2
  omega

theorem leftover_step {event : Event} (timed : Timed g) (closing : event.Closing)
    (taken : g.step event = some next) : next.leftover + event.effort ≤ g.leftover := by
  have internal (own : event.Internal) : next.leftover + event.effort ≤ g.leftover := by
    have tasks := pending_step timed own taken
    have connections := connectionWork_internal own taken
    simp only [leftover]
    omega
  cases event with
  | exit id =>
    obtain ⟨connection, found, running, rfl⟩ := exit_eq_some.mp taken
    have sum := connectionWork_set found { connection with phase := .exited }
    have before : connection.work = connection.channel.queue.length + 6 := by
      rw [Connection.work, running]
    have after : Connection.work { connection with phase := .exited } =
      connection.channel.queue.length + 5 := rfl
    change 2 * g.pending + _ + 1 ≤ 2 * g.pending + _
    omega
  | cleanup id =>
    obtain ⟨connection, found, exited, rfl⟩ := cleanup_eq_some.mp taken
    have sum := connectionWork_set found { connection with phase := .closed }
    have before : connection.work = connection.channel.queue.length + 5 := by
      rw [Connection.work, exited]
    have after : Connection.work { connection with phase := .closed } = 0 := rfl
    have call := pending_unregister g connection.room connection.user
    change 2 * pending { g with registry := g.registry.unregister connection.room connection.user } +
      (g.setConnection id { connection with phase := .closed }).connectionWork + 1 ≤
        2 * g.pending + g.connectionWork
    omega
  | recv id =>
    obtain ⟨connection, item, queue, found, running, front, rfl⟩ := recv_eq_some.mp taken
    have sum := connectionWork_set found
      { connection with channel := { connection.channel with queue } }
    have before : connection.work = queue.length + 1 + 6 := by
      simp only [Connection.work, running, front, List.length_cons]
    have after : Connection.work { connection with channel := { connection.channel with queue } } =
        queue.length + 6 := by
      simp only [Connection.work, running]
    change 2 * g.pending + _ + 1 ≤ 2 * g.pending + _
    omega
  | route => exact internal trivial
  | visit => exact internal trivial
  | retry => exact internal trivial
  | disconnect => exact internal trivial
  | testEmpty => exact internal trivial
  | removeIf => exact internal trivial
  | tick => exact internal trivial
  | connect => exact closing.elim
  | datagram => exact closing.elim
  | frame => exact closing.elim

end Costs

section Rest

variable {g next : Gateway}

/-- A step that waits for no client. -/
def Event.Unprompted (event : Event) : Prop := event.Closing ∧ ∀ id, event ≠ .exit id

def Winds (g : Gateway) : Prop :=
  ∃ elapsed event next, event.Unprompted ∧ event.effort = 1 ∧
    run step g [.tick elapsed, event] = some next

structure Orderly (g : Gateway) : Prop where
  sound : Sound g
  timed : Timed g
  live : EntriesLive g
  rooms : g.registry.EmptyRoomsPending

theorem orderly_new : Orderly new where
  sound := sound_new
  timed := timed_new
  live := by rintro key id ⟨⟩
  rooms := by rintro room ⟨⟩

theorem orderly_step : Invariant step Orderly := fun g event next orderly taken => {
  sound := sound_step g event next orderly.sound taken
  timed := timed_step g event next orderly.timed taken
  live := entriesLive_step g event next orderly.live taken
  rooms := registry_invariant Registry.emptyRoomsPending_step g event next orderly.rooms taken }

/-- A room that is left has a user, whose connection is not done. -/
theorem rooms_of_settled (orderly : Orderly g)
    (settled : ∀ call ∈ g.registry.unregisters, call.phase = .done)
    (stayed : ∀ connection ∈ g.connections, connection.phase ≠ .exited) :
    ∀ room ∈ g.registry.rooms, ∃ user id connection, g.entries (room, user) = some id ∧
      g.connections[id]? = some connection ∧ connection.phase = .running := by
  intro room present
  obtain ⟨user, id, entry⟩ := orderly.rooms.occupied settled present
  obtain ⟨phase, here, ahead⟩ := orderly.live (room, user) id entry
  rw [profile, List.getElem?_map] at here
  obtain ⟨connection, found, same⟩ := Option.map_eq_some_iff.mp here
  refine ⟨user, id, connection, entry, found, ?_⟩
  have same_phase : connection.phase = phase := congrArg Prod.snd same
  cases atPhase : connection.phase with
  | running => rfl
  | exited => exact absurd atPhase (stayed connection (List.mem_of_getElem? found))
  | closed => exact absurd (same_phase.symm.trans atPhase) ahead

theorem Rested.rooms_of_left (rested : Rested g)
    (left : ∀ connection ∈ g.connections, connection.phase ≠ .running) : g.registry.rooms = ∅ := by
  refine NestedMap.eq_empty_of_notMem fun room present => ?_
  obtain ⟨_, _, connection, _, here, running⟩ := rested.rooms room present
  exact left connection (List.mem_of_getElem? here) running

theorem winds_at_once {event : Event} (unprompted : event.Unprompted) (effort : event.effort = 1)
    (taken : g.step event = some next) : g.Winds :=
  ⟨0, event, next, unprompted, effort, run_cons.mpr ⟨g, rfl, run_singleton.mpr taken⟩⟩

theorem winds_of_works (works : g.Works) : g.Winds := by
  obtain ⟨elapsed, event, next, internal, effort, ran⟩ := works
  exact ⟨elapsed, event, next, ⟨internal.closing, fun id same => by rw [same] at internal; exact internal⟩,
    effort, ran⟩

theorem rested_or_winds (orderly : Orderly g) : g.Rested ∨ g.Winds := by
  by_cases exited : ∃ connection ∈ g.connections, connection.phase = .exited
  · obtain ⟨connection, member, phase⟩ := exited
    obtain ⟨id, here⟩ := List.mem_iff_getElem?.mp member
    have taken := cleanup_eq_some.mpr ⟨connection, here, phase, rfl⟩
    have unprompted : Event.Unprompted (.cleanup id) := ⟨trivial, nofun⟩
    exact Or.inr (winds_at_once unprompted rfl taken)
  by_cases waiting : ∃ connection ∈ g.connections, connection.phase = .running ∧
      connection.channel.queue ≠ []
  · obtain ⟨connection, member, phase, filled⟩ := waiting
    obtain ⟨id, here⟩ := List.mem_iff_getElem?.mp member
    obtain ⟨item, queue, front⟩ := List.exists_cons_of_ne_nil filled
    have taken := recv_eq_some.mpr ⟨connection, item, queue, here, phase, front, rfl⟩
    have unprompted : Event.Unprompted (.recv id) := ⟨trivial, nofun⟩
    exact Or.inr (winds_at_once unprompted rfl taken)
  by_cases quiet : g.Quiet
  · push Not at exited waiting
    refine Or.inl ⟨quiet, fun connection member => ?_, rooms_of_settled orderly quiet.2.2 exited⟩
    cases phase : connection.phase with
    | running => exact Or.inr ⟨rfl, waiting connection member phase⟩
    | exited => exact absurd phase (exited connection member)
    | closed => exact Or.inl rfl
  · exact Or.inr (winds_of_works (works_of_not_quiet orderly.sound quiet))

/-- With nobody and nothing new coming, the gateway winds down: whatever the order of
the steps there is a bounded number of them, and they come to a stop that only clients
that leave can end when no task runs, every queue is empty or its connection closed, and
every room has a user in it whose client is still there. -/
theorem winds_down (events : List Event) (g : Gateway) (ran : run step new events = some g) :
    (∀ work final, (∀ event ∈ work, event.Closing) → run step g work = some final →
      final.leftover + (work.map Event.effort).sum ≤ g.leftover ∧ (final.Rested ∨ final.Winds) ∧
        (final.Rested → (∀ connection ∈ final.connections, connection.phase ≠ .running) →
          final.registry.rooms = ∅)) ∧
    ∃ work final, (∀ event ∈ work, event.Unprompted) ∧ run step g work = some final ∧
      final.Rested := by
  have now := orderly_step.run orderly_new ran
  have pays (g : Gateway) (event : Event) (next : Gateway) (orderly : Orderly g)
      (closing : event.Closing) (taken : g.step event = some next) :
      next.leftover + event.effort ≤ g.leftover := leftover_step orderly.timed closing taken
  constructor
  · intro work final closing onward
    exact ⟨run_rank orderly_step pays now closing onward,
      rested_or_winds (orderly_step.run now onward), Rested.rooms_of_left⟩
  · have lowers (g : Gateway) (orderly : Orderly g) (busy : ¬ g.Rested) :
        ∃ work next, (∀ event ∈ work, event.Unprompted) ∧ run step g work = some next ∧
          next.leftover < g.leftover := by
      obtain ⟨elapsed, event, next, unprompted, effort, taken⟩ :=
        (rested_or_winds orderly).resolve_left busy
      have both : ∀ event' ∈ [.tick elapsed, event], event'.Unprompted := by
        intro event' member
        rcases List.mem_pair.mp member with rfl | rfl
        · exact ⟨trivial, nofun⟩
        · exact unprompted
      have less := run_rank orderly_step pays orderly (fun event' member => (both event' member).1) taken
      refine ⟨_, next, both, taken, ?_⟩
      simp only [List.map_cons, List.map_nil, List.sum_cons, List.sum_nil, effort] at less
      omega
    exact exists_run_of_rank orderly_step lowers now

theorem winds_down_kicked :
    ∃ g final, run step new [.connect ⟨"r1", "ann"⟩, .connect ⟨"r1", "bob"⟩, .connect ⟨"r1", "ann"⟩] =
        some g ∧
      run step g [.exit 1, .cleanup 1, .testEmpty 0] = some final ∧
        final.leftover + 3 ≤ g.leftover ∧ final.entries ("r1", "ann") = some 2 := by
  have runs : (run step new [.connect ⟨"r1", "ann"⟩, .connect ⟨"r1", "bob"⟩, .connect ⟨"r1", "ann"⟩]).any
      (fun g => (run step g [.exit 1, .cleanup 1, .testEmpty 0]).any fun final =>
        final.entries ("r1", "ann") = some 2) = true := by decide +kernel
  obtain ⟨g, ran, runs⟩ := (Option.any_eq_true _ _).mp runs
  obtain ⟨final, onward, entry⟩ := (Option.any_eq_true _ _).mp runs
  exact ⟨g, final, ran, onward, ((winds_down _ g ran).1 _ final (by simp [Event.Closing]) onward).1,
    of_decide_eq_true entry⟩

end Rest

end Gateway

end WsGateway
