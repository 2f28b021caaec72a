import WsGateway.Foundation.Transition
import WsGateway.Gateway.State

/-! What each step of the gateway can do: one statement for each operation, with
its guards and the state it leads to. The invariants use these and do not unfold
the operations. -/

set_option autoImplicit false

namespace WsGateway
open Foundation Protocol Routing

namespace Connection

variable {connection next : Connection} {item : Outbound}

theorem trySend_eq_ok :
    connection.trySend item = .ok next ↔
      connection.channel.queue.length < connection.channel.capacity ∧
        next = { connection with
          channel := { connection.channel with
            queue := connection.channel.queue ++ [item]
            notify := connection.channel.notify.notifyOne }
          accepted := connection.accepted ++ [item] } := by
  unfold trySend
  cases sent : connection.channel.trySend item with
  | ok channel =>
    obtain ⟨fits, rfl⟩ := ChannelInner.trySend_eq_ok.mp sent
    simp only [Except.map, Except.ok.injEq, fits, true_and, eq_comm]
  | error returned =>
    obtain ⟨full, _⟩ := ChannelInner.trySend_eq_error.mp sent
    simp only [Except.map, reduceCtorEq, Nat.not_lt.mpr full, false_and]

theorem trySend_eq_error {returned : Outbound} :
    connection.trySend item = .error returned ↔
      connection.channel.capacity ≤ connection.channel.queue.length ∧ returned = item := by
  rw [← ChannelInner.trySend_eq_error, trySend]
  cases connection.channel.trySend item with
  | ok channel => simp [Except.map]
  | error refused => simp [Except.map]

theorem queue_sendDropOldest (connection : Connection) (item : Outbound) :
    (connection.sendDropOldest item).channel.queue =
      (if connection.channel.capacity ≤ connection.channel.queue.length then
        connection.channel.queue.tail
      else connection.channel.queue) ++ [item] := rfl

theorem mem_queue_sendDropOldest (nodup : connection.channel.queue.Nodup) {queued : Outbound}
    (member : queued ∈ connection.channel.queue) :
    queued ∈ (connection.sendDropOldest item).channel.queue ↔
      queued = item ∨ ¬ (connection.channel.capacity ≤ connection.channel.queue.length ∧
        connection.channel.queue.head? = some queued) := by
  rw [queue_sendDropOldest, List.mem_append, List.mem_singleton, or_comm]
  refine or_congr_right ?_
  split
  next full =>
    cases front : connection.channel.queue with
    | nil => rw [front] at member; cases member
    | cons first rest =>
      rw [front] at full nodup member
      rw [List.nodup_cons] at nodup
      simp only [List.tail_cons, full, List.head?_cons, Option.some.injEq, true_and]
      constructor
      · rintro behind rfl
        exact nodup.1 behind
      · intro other
        exact (List.mem_cons.mp member).resolve_left (Ne.symm other)
  next room => simp only [member, room, false_and, not_false_eq_true]

structure Accepts (connection next : Connection) (item : Outbound) : Prop where
  key : next.key = connection.key
  phase : next.phase = connection.phase
  accepted : next.accepted = connection.accepted ++ [item]
  queue : next.channel.queue <:+ connection.channel.queue ++ [item]

theorem accepts_of_trySend (sent : connection.trySend item = .ok next) :
    connection.Accepts next item := by
  obtain ⟨_, rfl⟩ := trySend_eq_ok.mp sent
  exact ⟨rfl, rfl, rfl, List.suffix_rfl⟩

theorem accepts_sendDropOldest (connection : Connection) (item : Outbound) :
    connection.Accepts (connection.sendDropOldest item) item := by
  refine ⟨rfl, rfl, rfl, ?_⟩
  rw [queue_sendDropOldest]
  have kept : ∀ queue, queue <:+ connection.channel.queue →
      queue ++ [item] <:+ connection.channel.queue ++ [item] := by
    rintro queue ⟨front, same⟩
    exact ⟨front, by rw [← List.append_assoc, same]⟩
  apply kept
  split
  · exact List.tail_suffix _
  · exact List.suffix_rfl

end Connection

namespace Gateway

variable {g next : Gateway}

theorem connect_eq_some {params : WsParams} :
    g.connect params = some next ↔
      ∃ room user, wsHandler params = .ok (room, user) ∧
        (g.registry.Unlocked room ∧ g.RoutesRelease room) ∧
        { g with
          registry := g.registry.register room user g.connections.length
          connections := g.connections ++ [.opened room user] } = next := by
  unfold connect
  split
  next refused => simp [refused]
  next room user admitted =>
    rw [guarded_eq_some]
    constructor
    · rintro ⟨free, rfl⟩
      exact ⟨room, user, admitted, free, rfl⟩
    · rintro ⟨room', user', admitted', free, rfl⟩
      rw [admitted] at admitted'
      cases admitted'
      exact ⟨free, rfl⟩

theorem exit_eq_some {id : ConnectionId} :
    g.exit id = some next ↔
      ∃ connection, g.connections[id]? = some connection ∧ connection.phase = .running ∧
        g.setConnection id { connection with phase := .exited } = next := by
  simp only [exit, Option.bind_eq_some_iff, guarded_eq_some]

theorem cleanup_eq_some {id : ConnectionId} :
    g.cleanup id = some next ↔
      ∃ connection, g.connections[id]? = some connection ∧ connection.phase = .exited ∧
        { g.setConnection id { connection with phase := .closed } with
          registry := g.registry.unregister connection.room connection.user } = next := by
  simp only [cleanup, Option.bind_eq_some_iff, guarded_eq_some]

theorem testEmpty_eq_some {call : Nat} :
    g.testEmpty call = some next ↔
      ∃ registry, g.registry.testEmpty call = some registry ∧ { g with registry } = next := by
  simp only [testEmpty, Option.map_eq_some_iff]

theorem removeIf_eq_some {call : Nat} :
    g.removeIf call = some next ↔
      (∀ unregister ∈ g.registry.unregisters[call]?, g.RoutesRelease unregister.room) ∧
        ∃ registry, g.registry.removeIf call = some registry ∧ { g with registry } = next := by
  simp only [removeIf, Option.ite_none_right_eq_some, Option.map_eq_some_iff]

theorem frame_eq_some {id : ConnectionId} {data : Bytes} :
    g.frame id data = some next ↔
      ∃ connection, g.connections[id]? = some connection ∧ connection.phase = .running ∧
        g.receive data = next := by
  simp only [frame, Option.bind_eq_some_iff, guarded_eq_some]

theorem recv_eq_some {id : ConnectionId} :
    g.recv id = some next ↔
      ∃ connection item queue, g.connections[id]? = some connection ∧ connection.phase = .running ∧
        connection.channel.queue = item :: queue ∧
        g.setConnection id { connection with channel := { connection.channel with queue } } =
          next := by
  simp only [recv, Option.bind_eq_some_iff, Option.ite_none_right_eq_some, Option.map_eq_some_iff,
    Prod.exists, ChannelInner.popFront_eq_some]
  constructor
  · rintro ⟨connection, found, running, item, _, ⟨queue, front, rfl⟩, rfl⟩
    exact ⟨connection, item, queue, found, running, front, rfl⟩
  · rintro ⟨connection, item, queue, found, running, front, rfl⟩
    exact ⟨connection, found, running, item, _, ⟨queue, front, rfl⟩, rfl⟩

theorem disconnect_eq_some {id : Nat} :
    g.disconnect id = some next ↔
      ∃ task, g.retries[id]? = some task ∧ task.phase = .failed ∧
        { g.setRetry id .disconnected with
          registry := g.registry.unregister task.room task.user } = next := by
  simp only [disconnect, Option.bind_eq_some_iff, guarded_eq_some]

inductive Dispatched (g : Gateway) (packet : PacketId) (task : RouteTask) (target : Target) :
    Gateway → Prop where
  | sent {connection connection' : Connection} :
      g.connections[target.2]? = some connection → task.header.packetType ≠ .rawMotion →
      connection.trySend (outbound packet task) = .ok connection' →
      Dispatched g packet task target (g.setConnection target.2 connection')
  | forced {connection : Connection} :
      g.connections[target.2]? = some connection → task.header.packetType = .rawMotion →
      Dispatched g packet task target
        (g.setConnection target.2 (connection.sendDropOldest (outbound packet task)))
  | refused {connection : Connection} :
      g.connections[target.2]? = some connection → task.header.packetType = .systemCmd →
      connection.channel.capacity ≤ connection.channel.queue.length →
      Dispatched g packet task target { g with retries := g.retries ++
        [⟨target.2, task.header.roomIdStr, target.1, outbound packet task, .spawned⟩] }
  | dropped {connection : Connection} :
      g.connections[target.2]? = some connection → task.header.packetType ≠ .rawMotion →
      task.header.packetType ≠ .systemCmd →
      connection.channel.capacity ≤ connection.channel.queue.length →
      Dispatched g packet task target g

theorem dispatched {packet : PacketId} {task : RouteTask} {target : Target}
    (taken : g.dispatch packet task target = some next) : Dispatched g packet task target next := by
  obtain ⟨connection, found, rfl⟩ := Option.map_eq_some_iff.mp taken
  dsimp only
  split
  next rawMotion => exact .forced found rawMotion
  next systemCmd =>
    split
    next sent => exact .sent found (by rw [systemCmd]; decide) sent
    next refused =>
      obtain ⟨full, rfl⟩ := Connection.trySend_eq_error.mp refused
      exact .refused found systemCmd full
  -- `AiEvent` and `Heartbeat` share one policy.
  all_goals
    rename_i type
    split
    next sent => exact .sent found (by rw [type]; decide) sent
    next refused =>
      exact .dropped found (by rw [type]; decide) (by rw [type]; decide)
        (Connection.trySend_eq_error.mp refused).1

inductive Routed (g : Gateway) (packet : PacketId) (task : RouteTask) : Gateway → Prop where
  | resolved : task.phase = .start →
      Routed g packet task (g.setRoute packet (g.resolve task.header))
  | collected {targets : List Target} : task.phase = .snapshot [] targets →
      Routed g packet task (g.setRoute packet (.dispatching targets))
  | found {tx : ConnectionId} : task.phase = .lookup →
      g.registry.rooms.find task.header.roomIdStr task.header.userIdStr = some tx →
      Routed g packet task (g.setRoute packet (.dispatching [(task.header.userIdStr, tx)]))
  | missing : task.phase = .lookup →
      g.registry.rooms.find task.header.roomIdStr task.header.userIdStr = none →
      Routed g packet task (g.setRoute packet .done)
  | dispatched {target : Target} {targets : List Target} {middle : Gateway} :
      task.phase = .dispatching (target :: targets) → Dispatched g packet task target middle →
      Routed g packet task (middle.setRoute packet (.dispatching targets))
  | returned : task.phase = .dispatching [] → Routed g packet task (g.setRoute packet .done)

theorem routed {packet : PacketId} (taken : g.route packet = some next) :
    ∃ task, g.routes[packet]? = some task ∧ Routed g packet task next := by
  obtain ⟨task, found, taken⟩ := Option.bind_eq_some_iff.mp taken
  refine ⟨task, found, ?_⟩
  split at taken
  next phase => cases taken; exact .resolved phase
  next phase => cases taken; exact .collected phase
  next => cases taken
  next phase =>
    split at taken
    next here => cases taken; exact .found phase here
    next gone => cases taken; exact .missing phase gone
  next phase =>
    obtain ⟨middle, delivered, rfl⟩ := Option.map_eq_some_iff.mp taken
    exact .dispatched phase (Gateway.dispatched delivered)
  next phase => cases taken; exact .returned phase
  next => cases taken

theorem visit_eq_some {packet : PacketId} {user : UserID} (taken : g.visit packet user = some next) :
    ∃ task unvisited targets, g.routes[packet]? = some task ∧
      task.phase = .snapshot unvisited targets ∧ user ∈ unvisited ∧
      g.setRoute packet (.snapshot (unvisited.filter (· ≠ user)) (targets ++
        (g.registry.rooms.find task.header.roomIdStr user).toList.map fun tx => (user, tx))) =
          next := by
  obtain ⟨task, found, taken⟩ := Option.bind_eq_some_iff.mp taken
  split at taken
  next unvisited targets phase =>
    obtain ⟨waiting, rfl⟩ := guarded_eq_some.mp taken
    exact ⟨task, unvisited, targets, found, phase, waiting, rfl⟩
  next => cases taken

inductive Retried (g : Gateway) (id : Nat) (task : RetryTask) : Gateway → Prop where
  | started : task.phase = .spawned → Retried g id task (g.setRetry id (.trying g.now))
  | delivered {start : Nat} {connection connection' : Connection} : task.phase = .trying start →
      g.connections[task.tx]? = some connection → connection.trySend task.item = .ok connection' →
      Retried g id task ((g.setConnection task.tx connection').setRetry id .delivered)
  | refused {start : Nat} {connection : Connection} : task.phase = .trying start →
      g.connections[task.tx]? = some connection →
      connection.channel.capacity ≤ connection.channel.queue.length →
      Retried g id task (g.setRetry id (.full start))
  | expired {start : Nat} : task.phase = .full start → millis 50 ≤ g.now - start →
      Retried g id task (g.setRetry id .failed)
  | paused {start : Nat} : task.phase = .full start → g.now - start < millis 50 →
      Retried g id task (g.setRetry id (.sleeping start (g.now + millis 5)))
  | woken {start wake : Nat} : task.phase = .sleeping start wake → wake ≤ g.now →
      Retried g id task (g.setRetry id (.trying start))

theorem retried {id : Nat} (taken : g.retry id = some next) :
    ∃ task, g.retries[id]? = some task ∧ Retried g id task next := by
  obtain ⟨task, found, taken⟩ := Option.bind_eq_some_iff.mp taken
  refine ⟨task, found, ?_⟩
  split at taken
  next phase => cases taken; exact .started phase
  next phase =>
    obtain ⟨connection, here, rfl⟩ := Option.map_eq_some_iff.mp taken
    split
    next sent => exact .delivered phase here sent
    next refused => exact .refused phase here (Connection.trySend_eq_error.mp refused).1
  next phase =>
    split at taken
    next late => cases taken; exact .expired phase late
    next early => cases taken; exact .paused phase (Nat.lt_of_not_le early)
  next phase =>
    obtain ⟨due, rfl⟩ := guarded_eq_some.mp taken
    exact .woken phase due
  all_goals cases taken

end Gateway

end WsGateway
