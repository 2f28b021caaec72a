import WsGateway.Gateway.Atomic
import WsGateway.Gateway.Commands
import WsGateway.Gateway.Effects

/-! What still reaches a connection that is out of the registry.

A sender is taken out of the registry when its user registers again, is
disconnected or ends. From then on only packets that hold it already, in a route
task or in a retry, can enter its queue, and nobody gets hold of it again.
-/

set_option autoImplicit false

namespace WsGateway
open Foundation Protocol Routing

def RoutePhase.targets : RoutePhase → List Target
  | .snapshot _ targets | .dispatching targets => targets
  | .start | .lookup | .done => []

namespace Gateway

section Holders

variable {g next : Gateway} {packet : PacketId} {id : ConnectionId}

/-- A task for the packet has the sender of the connection. -/
def Holds (g : Gateway) (packet : PacketId) (id : ConnectionId) : Prop :=
  (∃ task user, g.routes[packet]? = some task ∧ (user, id) ∈ task.phase.targets) ∨
    ∃ task ∈ g.retries, task.offers packet id = true

theorem targets_resolve (g : Gateway) (header : PacketHeader) : (g.resolve header).targets = [] := by
  unfold resolve
  split
  next => rfl
  next => split <;> rfl

theorem held_routed {task : RouteTask} {user : UserID} (absent : ∀ key, g.entries key ≠ some id)
    (found : g.routes[packet]? = some task) (routed : Routed g packet task next) {task' : RouteTask}
    (after : next.routes[packet]? = some task') (held : (user, id) ∈ task'.phase.targets) :
    (user, id) ∈ task.phase.targets := by
  have phase_of {middle : Gateway} {phase : RoutePhase} (kept : middle.routes[packet]? = some task)
      (same : next = middle.setRoute packet phase) : task'.phase = phase := by
    rw [same, found_setRoute kept] at after
    cases after
    rfl
  cases routed with
  | resolved =>
    rw [phase_of found rfl, targets_resolve] at held
    cases held
  | collected phase =>
    rw [phase_of found rfl] at held
    rw [phase]
    exact held
  | @found tx _ here =>
    rw [phase_of found rfl] at held
    cases List.mem_singleton.mp held
    exact absurd here (absent (_, _))
  | missing =>
    rw [phase_of found rfl] at held
    cases held
  | dispatched phase dispatched =>
    rw [phase_of ((congrArg (·[packet]?) (routes_dispatched dispatched)).trans found) rfl] at held
    rw [phase]
    exact List.mem_cons_of_mem _ held
  | returned =>
    rw [phase_of found rfl] at held
    cases held

theorem spawned_step {task : RouteTask} {event : Event} (absent : g.routes[packet]? = none)
    (here : next.routes[packet]? = some task) (taken : g.step event = some next) :
    task.phase = .start := by
  have received (raw : Bytes) (same : next = g.receive raw) : task.phase = .start := by
    rw [same, receive_eq, List.getElem?_append_right (List.getElem?_eq_none_iff.mp absent)] at here
    obtain ⟨arrival, _, rfl⟩ := List.mem_map.mp (List.mem_of_getElem? here)
    rfl
  have known (none : event.arrivals = []) : task.phase = .start := by
    have arrived := arrival_of_found here
    rw [arrivals_step taken, none, List.append_nil, arrivals, List.getElem?_map, absent] at arrived
    cases arrived
  cases event with
  | datagram data =>
    cases taken
    exact received data.val (datagram_eq g data)
  | frame _ data =>
    obtain ⟨_, _, _, rfl⟩ := frame_eq_some.mp taken
    exact received data rfl
  | _ => exact known rfl

theorem active_of_moves {phase phase' : RetryPhase} (moves : Moves g phase phase')
    (active : phase'.active = true) : phase.active = true := by
  cases moves with
  | started => rfl
  | refused => rfl
  | paused => rfl
  | woken => rfl
  | delivered => cases active
  | expired => cases active
  | disconnected => cases active

theorem offers_moved {task : RetryTask} {phase : RetryPhase} (moves : Moves g task.phase phase)
    (offers : RetryTask.offers packet id { task with phase } = true) :
    task.offers packet id = true := by
  simp only [RetryTask.offers, Bool.and_eq_true] at *
  exact ⟨⟨active_of_moves moves offers.1.1, offers.1.2⟩, offers.2⟩

theorem held_step {event : Event} (absent : ∀ key, g.entries key ≠ some id)
    (taken : g.step event = some next) {task : RouteTask} {user : UserID}
    (here : next.routes[packet]? = some task) (held : (user, id) ∈ task.phase.targets) :
    ∃ task user, g.routes[packet]? = some task ∧ (user, id) ∈ task.phase.targets := by
  cases before : g.routes[packet]? with
  | none =>
    rw [spawned_step before here taken] at held
    cases held
  | some old =>
    refine ⟨old, user, rfl, ?_⟩
    cases routeStep before taken with
    | kept _ same =>
      rw [here] at same
      cases same
      exact held
    | routed routed => exact held_routed absent before routed here held
    | visited phase _ same =>
      rw [same, found_setRoute before] at here
      cases here
      rw [phase]
      rcases List.mem_append.mp held with found | visited
      · exact found
      · obtain ⟨tx, here, same⟩ := List.mem_map.mp visited
        cases same
        exact absurd (Option.mem_toList.mp here) (absent (_, user))

theorem holds_step {event : Event} (absent : ∀ key, g.entries key ≠ some id)
    (taken : g.step event = some next) (holds : next.Holds packet id) : g.Holds packet id := by
  rcases holds with ⟨task, user, here, held⟩ | ⟨task, member, offers⟩
  · exact Or.inl (held_step absent taken here held)
  · cases retriesStep taken with
    | kept _ retries => exact Or.inr ⟨task, retries ▸ member, offers⟩
    | @spawned packet' route target targets _ found phase _ _ _ retries =>
      rw [retries] at member
      rcases List.mem_append.mp member with before | new
      · exact Or.inr ⟨task, before, offers⟩
      -- The new retry is for a target of the route task.
      · rw [List.mem_singleton.mp new] at offers
        simp only [RetryTask.offers, RetryPhase.active, outbound, Bool.true_and, Bool.and_eq_true,
          beq_iff_eq] at offers
        obtain ⟨rfl, rfl⟩ := offers
        exact Or.inl ⟨route, target.1, found, by rw [phase]; exact List.mem_cons_self⟩
    | moved _ found moves retries =>
      rw [retries] at member
      rcases mem_modify member with before | ⟨old, before, rfl⟩
      · exact Or.inr ⟨task, before, offers⟩
      · rw [found] at before
        cases before
        exact Or.inr ⟨_, List.mem_of_getElem? found, offers_moved moves offers⟩

end Holders

section Runs

variable {g next : Gateway} {id : ConnectionId}

theorem accepted_held {event : Event} {connection connection' : Connection}
    (stepped : ChannelStep g id connection event connection') :
    ∃ late, connection'.accepted = connection.accepted ++ late ∧
      ∀ item ∈ late, g.Holds item.packet id := by
  have one {item : Outbound} (accepts : connection.Accepts connection' item)
      (holds : g.Holds item.packet id) : ∃ late, connection'.accepted = connection.accepted ++ late ∧
        ∀ item ∈ late, g.Holds item.packet id :=
    ⟨[item], accepts.accepted, fun _ member => (List.mem_singleton.mp member) ▸ holds⟩
  have none (same : connection'.accepted = connection.accepted) :
      ∃ late, connection'.accepted = connection.accepted ++ late ∧
        ∀ item ∈ late, g.Holds item.packet id :=
    ⟨[], by rw [same, List.append_nil], by simp⟩
  cases stepped with
  | kept _ _ _ accepted => exact none accepted
  | refused => exact none rfl
  | popped => exact none rfl
  | @sent packet task user _ _ found phase _ sent =>
    exact one (Connection.accepts_of_trySend sent)
      (Or.inl ⟨task, user, found, by rw [phase]; exact List.mem_cons_self⟩)
  | @forced packet task user _ found phase _ =>
    exact one (Connection.accepts_sendDropOldest _ _)
      (Or.inl ⟨task, user, found, by rw [phase]; exact List.mem_cons_self⟩)
  | @retried n _ task _ found same phase sent =>
    refine one (Connection.accepts_of_trySend sent) (Or.inr ⟨task, List.mem_of_getElem? found, ?_⟩)
    simp [RetryTask.offers, phase, RetryPhase.active, same]

/-- A connection out of the registry, against the state in which it was found so. -/
structure Revoked (start : Gateway) (id : ConnectionId) (before : List Outbound) (g : Gateway) : Prop where
  absent : ∀ key, g.entries key ≠ some id
  holds : ∀ packet, g.Holds packet id → start.Holds packet id
  accepted : ∃ connection late, g.connections[id]? = some connection ∧
    connection.accepted = before ++ late ∧ ∀ item ∈ late, start.Holds item.packet id

theorem revoked_step (start : Gateway) (id : ConnectionId) (before : List Outbound) :
    Invariant step (Revoked start id before) := by
  intro g event next revoked taken
  obtain ⟨connection, late, here, accepted, held⟩ := revoked.accepted
  refine ⟨unregistered_step (lt_length_of_found here) revoked.absent taken,
    fun packet holds => revoked.holds packet (holds_step revoked.absent taken holds), ?_⟩
  obtain ⟨connection', there, stepped⟩ := channelStep here taken
  obtain ⟨more, added, held'⟩ := accepted_held stepped
  refine ⟨connection', late ++ more, there, by rw [added, accepted, List.append_assoc], ?_⟩
  intro item member
  rcases List.mem_append.mp member with old | new
  · exact held item old
  · exact revoked.holds item.packet (held' item new)

theorem arrived_of_holds (sound : Sound g) {packet : PacketId} (holds : g.Holds packet id) :
    packet < g.arrivals.length := by
  rcases holds with ⟨task, _, found, _⟩ | ⟨task, member, offers⟩
  · exact lt_length_of_found (arrival_of_found found)
  · obtain ⟨_, arrival, _, arrived, _⟩ := sound.retries task member
    simp only [RetryTask.offers, Bool.and_eq_true, beq_iff_eq] at offers
    rw [offers.1.2] at arrived
    exact lt_length_of_found arrived

/-- Once a connection is out of the registry it stays out, and what still enters its
queue are packets that arrived before and whose tasks already hold its sender. -/
theorem revoked_confined (front back : List Event) (g final : Gateway)
    (ran : run step new front = some g) (id : ConnectionId) (connection : Connection)
    (here : g.connections[id]? = some connection) (absent : ∀ key, g.entries key ≠ some id)
    (onward : run step g back = some final) :
    (∀ key, final.entries key ≠ some id) ∧
    ∃ connection' late, final.connections[id]? = some connection' ∧
      connection'.accepted = connection.accepted ++ late ∧
      ∀ item ∈ late, g.Holds item.packet id ∧ item.packet < g.arrivals.length := by
  have revoked : Revoked g id connection.accepted final := by
    refine (revoked_step g id connection.accepted).run ⟨absent, fun _ holds => holds, ?_⟩ onward
    exact ⟨connection, [], here, (List.append_nil _).symm, by simp⟩
  obtain ⟨connection', late, there, accepted, held⟩ := revoked.accepted
  refine ⟨revoked.absent, connection', late, there, accepted, fun item member => ?_⟩
  exact ⟨held item member, arrived_of_holds (reached ran).2.1 (held item member)⟩

def endedWhileRouted : List Event :=
  [.connect ⟨"r1", "ann"⟩, .frame 0 rawMotion, .route 0, .route 0, .exit 0, .cleanup 0]

theorem revoked_confined_ended :
    ∃ g final connection late, run step new endedWhileRouted = some g ∧
      run step g [.route 0] = some final ∧ final.connections[0]? = some connection ∧
      connection.accepted = late ∧ ∀ item ∈ late, g.Holds item.packet 0 := by
  have runs : (run step new endedWhileRouted).any (fun g => (run step g [.route 0]).any fun _ =>
      g.connections[0]?.any fun connection => g.registry.rooms.flat ("r1", "ann") = none ∧
        connection.accepted = [] ∧ connection.key = ("r1", "ann")) = true := by decide +kernel
  obtain ⟨g, ran, runs⟩ := (Option.any_eq_true _ _).mp runs
  obtain ⟨final, onward, runs⟩ := (Option.any_eq_true _ _).mp runs
  obtain ⟨connection, here, runs⟩ := (Option.any_eq_true _ _).mp runs
  obtain ⟨gone, none, names⟩ := of_decide_eq_true runs
  have absent (key : Key) : g.entries key ≠ some 0 := by
    intro entry
    have under := (reached ran).2.1.entries key 0 entry
    rw [keys_of_found here, names] at under
    cases under
    rw [entries, gone] at entry
    cases entry
  obtain ⟨_, connection', late, there, accepted, held⟩ :=
    revoked_confined endedWhileRouted [.route 0] g final ran 0 connection here absent onward
  rw [none, List.nil_append] at accepted
  exact ⟨g, final, connection', late, ran, onward, there, accepted, fun item member =>
    (held item member).1⟩

end Runs

end Gateway

end WsGateway
