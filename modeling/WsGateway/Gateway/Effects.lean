import WsGateway.Foundation.Records
import WsGateway.Gateway.Priority
import WsGateway.Routing.Receiver

/-! What a step does to one connection's channel and to one route task.

A channel changes at the receiver's own step, where an item is dispatched to it
and where a retry succeeds. A route task changes at its own steps only.
-/

set_option autoImplicit false

namespace WsGateway.Gateway
open Foundation Protocol Routing

section Channels

variable {g next : Gateway} {id : ConnectionId} {connection : Connection}

def offer (packet : PacketId) (task : RouteTask) : Receiver.Event Outbound :=
  match task.header.packetType with
  | .rawMotion => .sendDropOldest (outbound packet task)
  | .systemCmd | .aiEvent | .heartbeat => .trySend (outbound packet task)

/-- What a step does at the channel of a connection, in the events of the channel. -/
def channelEvents (id : ConnectionId) (g : Gateway) : Event → List (Receiver.Event Outbound)
  | .recv other => if other = id then [.recv, .check] else []
  | .route packet =>
    g.routes[packet]?.elim [] fun task =>
      match task.phase with
      | .dispatching (target :: _) => if target.2 = id then [offer packet task] else []
      | _ => []
  | .retry n =>
    g.retries[n]?.elim [] fun task =>
      match task.phase with
      | .trying _ => if task.tx = id then [.trySend task.item] else []
      | _ => []
  | _ => []

theorem channelEvents_dispatch (id : ConnectionId) {packet : PacketId} {task : RouteTask}
    {target : Target} {targets : List Target} (stored : g.routes[packet]? = some task)
    (phase : task.phase = .dispatching (target :: targets)) :
    channelEvents id g (.route packet) = if target.2 = id then [offer packet task] else [] := by
  simp only [channelEvents, stored, Option.elim_some, phase]

theorem channelEvents_trying (id : ConnectionId) {n start : Nat} {task : RetryTask}
    (stored : g.retries[n]? = some task) (phase : task.phase = .trying start) :
    channelEvents id g (.retry n) = if task.tx = id then [.trySend task.item] else [] := by
  simp only [channelEvents, stored, Option.elim_some, phase]

theorem offer_rawMotion {packet : PacketId} {task : RouteTask}
    (type : task.header.packetType = .rawMotion) :
    offer packet task = .sendDropOldest (outbound packet task) := by
  rw [offer, type]

theorem offer_of_ne {packet : PacketId} {task : RouteTask}
    (other : task.header.packetType ≠ .rawMotion) :
    offer packet task = .trySend (outbound packet task) := by
  unfold offer
  split
  next type => exact absurd type other
  all_goals rfl

inductive ChannelStep (g : Gateway) (id : ConnectionId) (connection : Connection) :
    Event → Connection → Prop where
  | kept {event : Event} {connection' : Connection} : channelEvents id g event = [] →
      connection'.key = connection.key → connection'.channel = connection.channel →
      connection'.accepted = connection.accepted → ChannelStep g id connection event connection'
  | refused {event : Event} {item : Outbound} : channelEvents id g event = [.trySend item] →
      connection.channel.capacity ≤ connection.channel.queue.length →
      ChannelStep g id connection event connection
  | popped {item : Outbound} {queue : List Outbound} :
      connection.channel.queue = item :: queue → ChannelStep g id connection (.recv id)
        { connection with channel := { connection.channel with queue } }
  | sent {packet : PacketId} {task : RouteTask} {user : UserID} {targets : List Target}
      {connection' : Connection} : g.routes[packet]? = some task →
      task.phase = .dispatching ((user, id) :: targets) → task.header.packetType ≠ .rawMotion →
      connection.trySend (outbound packet task) = .ok connection' →
      ChannelStep g id connection (.route packet) connection'
  | forced {packet : PacketId} {task : RouteTask} {user : UserID} {targets : List Target} :
      g.routes[packet]? = some task → task.phase = .dispatching ((user, id) :: targets) →
      task.header.packetType = .rawMotion →
      ChannelStep g id connection (.route packet) (connection.sendDropOldest (outbound packet task))
  | retried {n start : Nat} {task : RetryTask} {connection' : Connection} :
      g.retries[n]? = some task → task.tx = id → task.phase = .trying start →
      connection.trySend task.item = .ok connection' →
      ChannelStep g id connection (.retry n) connection'

def Steps (g next : Gateway) (id : ConnectionId) (connection : Connection) (event : Event) : Prop :=
  ∃ connection', next.connections[id]? = some connection' ∧
    ChannelStep g id connection event connection'

theorem found_set_of_ne {other : ConnectionId} {connection' : Connection}
    (found : g.connections[id]? = some connection) (different : other ≠ id) :
    (g.setConnection other connection').connections[id]? = some connection :=
  (List.getElem?_set_ne different).trans found

theorem found_set_same {connection' : Connection} (found : g.connections[id]? = some connection) :
    (g.setConnection id connection').connections[id]? = some connection' :=
  (getElem?_set_eq_some found).mpr (Or.inl ⟨rfl, rfl⟩)

theorem steps_kept {event : Event} (here : next.connections[id]? = some connection)
    (none : channelEvents id g event = []) : Steps g next id connection event :=
  ⟨connection, here, .kept none rfl rfl rfl⟩

theorem steps_phase {event : Event} {other : ConnectionId} {current : Connection}
    {phase : ConnectionPhase} (found : g.connections[id]? = some connection)
    (there : g.connections[other]? = some current)
    (connections : next.connections = g.connections.set other { current with phase })
    (none : channelEvents id g event = []) : Steps g next id connection event := by
  by_cases same : other = id
  · subst same
    rw [found] at there
    cases there
    have here : next.connections[other]? = some { connection with phase } := by
      rw [connections]
      exact found_set_same found
    exact ⟨_, here, .kept none rfl rfl rfl⟩
  · exact steps_kept (by rw [connections, List.getElem?_set_ne same, found]) none

theorem steps_routed {packet : PacketId} {task : RouteTask} (found : g.connections[id]? = some connection)
    (stored : g.routes[packet]? = some task) (routed : Routed g packet task next) :
    Steps g next id connection (.route packet) := by
  have calm (phase : ∀ target targets, task.phase ≠ .dispatching (target :: targets))
      (connections : next.connections = g.connections) : Steps g next id connection (.route packet) := by
    refine steps_kept (connections ▸ found) ?_
    simp only [channelEvents, stored, Option.elim_some]
  cases routed with
  | resolved phase => exact calm (by rw [phase]; simp) rfl
  | collected phase => exact calm (by rw [phase]; simp) rfl
  | found phase => exact calm (by rw [phase]; simp) rfl
  | missing phase => exact calm (by rw [phase]; simp) rfl
  | returned phase => exact calm (by rw [phase]; simp) rfl
  | @dispatched target targets middle phase dispatched =>
    obtain ⟨user, tx⟩ := target
    have events := channelEvents_dispatch id stored phase
    by_cases same : tx = id
    · subst same
      rw [if_pos rfl] at events
      cases dispatched with
      | sent there other sent =>
        rw [found] at there
        cases there
        exact ⟨_, found_set_same found, .sent stored phase other sent⟩
      | forced there type =>
        rw [found] at there
        cases there
        exact ⟨_, found_set_same found, .forced stored phase type⟩
      | refused there type full =>
        rw [found] at there
        cases there
        rw [offer_of_ne (by rw [type]; decide)] at events
        exact ⟨_, found, .refused events full⟩
      | dropped there other _ full =>
        rw [found] at there
        cases there
        rw [offer_of_ne other] at events
        exact ⟨_, found, .refused events full⟩
    · rw [if_neg same] at events
      cases dispatched with
      | sent => exact steps_kept (found_set_of_ne found same) events
      | forced => exact steps_kept (found_set_of_ne found same) events
      | refused => exact steps_kept found events
      | dropped => exact steps_kept found events

theorem steps_retried {n : Nat} {task : RetryTask} (found : g.connections[id]? = some connection)
    (stored : g.retries[n]? = some task) (retried : Retried g n task next) :
    Steps g next id connection (.retry n) := by
  have calm (phase : ∀ start, task.phase ≠ .trying start)
      (connections : next.connections = g.connections) : Steps g next id connection (.retry n) := by
    refine steps_kept (connections ▸ found) ?_
    simp only [channelEvents, stored, Option.elim_some]
  cases retried with
  | delivered phase there sent =>
    have events := channelEvents_trying id stored phase
    by_cases same : task.tx = id
    · rw [same, found] at there
      cases there
      exact ⟨_, by rw [same]; exact found_set_same found, .retried stored same phase sent⟩
    · rw [if_neg same] at events
      exact steps_kept (found_set_of_ne found same) events
  | refused phase there full =>
    have events := channelEvents_trying id stored phase
    by_cases same : task.tx = id
    · rw [same, found] at there
      cases there
      rw [if_pos same] at events
      exact ⟨_, found, .refused events full⟩
    · rw [if_neg same] at events
      exact steps_kept found events
  | started phase => exact calm (by rw [phase]; simp) rfl
  | expired phase => exact calm (by rw [phase]; simp) rfl
  | paused phase => exact calm (by rw [phase]; simp) rfl
  | woken phase => exact calm (by rw [phase]; simp) rfl

theorem channelStep {event : Event} (found : g.connections[id]? = some connection)
    (taken : g.step event = some next) : Steps g next id connection event := by
  cases event with
  | connect params =>
    obtain ⟨room, user, _, _, rfl⟩ := connect_eq_some.mp taken
    exact steps_kept (getElem?_concat_eq_some.mpr (Or.inl found)) rfl
  | exit other =>
    obtain ⟨current, there, _, rfl⟩ := exit_eq_some.mp taken
    exact steps_phase found there rfl rfl
  | cleanup other =>
    obtain ⟨current, there, _, rfl⟩ := cleanup_eq_some.mp taken
    exact steps_phase found there rfl rfl
  | datagram data =>
    cases taken
    exact steps_kept (by rw [datagram, receive_connections]; exact found) rfl
  | frame other data =>
    obtain ⟨_, _, _, rfl⟩ := frame_eq_some.mp taken
    exact steps_kept (by rw [receive_connections]; exact found) rfl
  | recv other =>
    obtain ⟨current, item, queue, there, _, front, rfl⟩ := recv_eq_some.mp taken
    by_cases same : other = id
    · subst same
      rw [found] at there
      cases there
      exact ⟨_, found_set_same found, .popped front⟩
    · exact steps_kept (found_set_of_ne found same) (if_neg same)
  | route packet =>
    obtain ⟨task, stored, routed⟩ := routed taken
    exact steps_routed found stored routed
  | visit packet user =>
    obtain ⟨_, _, _, _, _, _, rfl⟩ := visit_eq_some taken
    exact steps_kept found rfl
  | retry n =>
    obtain ⟨task, stored, retried⟩ := retried taken
    exact steps_retried found stored retried
  | disconnect n =>
    obtain ⟨_, _, _, rfl⟩ := disconnect_eq_some.mp taken
    exact steps_kept found rfl
  | testEmpty call =>
    obtain ⟨_, _, rfl⟩ := testEmpty_eq_some.mp taken
    exact steps_kept found rfl
  | removeIf call =>
    obtain ⟨_, _, _, rfl⟩ := removeIf_eq_some.mp taken
    exact steps_kept found rfl
  | tick elapsed =>
    cases taken
    exact steps_kept found rfl

/-- A connection that was not there before is opened by the step. -/
theorem opened_step {event : Event} (absent : g.connections[id]? = none)
    (here : next.connections[id]? = some connection) (taken : g.step event = some next) :
    id = g.connections.length ∧ ∃ params room user, event = .connect params ∧
      wsHandler params = .ok (room, user) ∧ connection = .opened room user := by
  have beyond := List.getElem?_eq_none_iff.mp absent
  have bound := lt_length_of_found here
  have grown (length : next.profile.length = g.profile.length) : False := by
    rw [length_profile, length_profile] at length
    omega
  cases lifecycle taken with
  | connect =>
    obtain ⟨room, user, admitted, _, rfl⟩ := connect_eq_some.mp taken
    rcases getElem?_concat_eq_some.mp here with old | ⟨last, opened⟩
    · rw [absent] at old
      cases old
    · exact ⟨last, _, room, user, rfl, admitted, opened⟩
  | exit _ _ profile => exact (grown (by rw [profile, List.length_set])).elim
  | cleanup _ _ profile => exact (grown (by rw [profile, List.length_set])).elim
  | disconnect _ _ _ profile => exact (grown (by rw [profile])).elim
  | quiet _ _ _ profile => exact (grown (by rw [profile])).elim

end Channels

section Tasks

variable {g next : Gateway} {packet : PacketId} {task : RouteTask}

inductive RouteStep (g next : Gateway) (packet : PacketId) (task : RouteTask) : Event → Prop where
  | kept {event : Event} : event ≠ .route packet → next.routes[packet]? = some task →
      RouteStep g next packet task event
  | routed : Routed g packet task next → RouteStep g next packet task (.route packet)
  | visited {user : UserID} {unvisited : List UserID} {targets : List Target} :
      task.phase = .snapshot unvisited targets → user ∈ unvisited →
      next = g.setRoute packet (.snapshot (unvisited.filter (· ≠ user)) (targets ++
        (g.registry.rooms.find task.header.roomIdStr user).toList.map fun tx => (user, tx))) →
      RouteStep g next packet task (.visit packet user)

theorem found_setRoute_of_ne {other : PacketId} (found : g.routes[packet]? = some task)
    (different : other ≠ packet) (phase : RoutePhase) :
    (g.setRoute other phase).routes[packet]? = some task :=
  (List.getElem?_modify_ne _ _ different).trans found

theorem routeStep {event : Event} (found : g.routes[packet]? = some task)
    (taken : g.step event = some next) : RouteStep g next packet task event := by
  cases event with
  | connect params =>
    obtain ⟨_, _, _, _, rfl⟩ := connect_eq_some.mp taken
    exact .kept (by simp) found
  | exit _ =>
    obtain ⟨_, _, _, rfl⟩ := exit_eq_some.mp taken
    exact .kept (by simp) found
  | cleanup _ =>
    obtain ⟨_, _, _, rfl⟩ := cleanup_eq_some.mp taken
    exact .kept (by simp) found
  | datagram data =>
    cases taken
    rw [datagram_eq, receive_eq]
    refine .kept (by simp) ?_
    exact (List.getElem?_append_left (lt_length_of_found found)).trans found
  | frame _ data =>
    obtain ⟨_, _, _, rfl⟩ := frame_eq_some.mp taken
    rw [receive_eq]
    refine .kept (by simp) ?_
    exact (List.getElem?_append_left (lt_length_of_found found)).trans found
  | recv _ =>
    obtain ⟨_, _, _, _, _, _, rfl⟩ := recv_eq_some.mp taken
    exact .kept (by simp) found
  | route other =>
    obtain ⟨task', found', routed⟩ := Gateway.routed taken
    by_cases same : other = packet
    · subst same
      rw [found] at found'
      cases found'
      exact .routed routed
    · refine .kept (by simpa using same) ?_
      cases routed with
      | dispatched _ dispatched =>
        refine found_setRoute_of_ne ?_ same _
        rw [routes_dispatched dispatched, found]
      | resolved => exact found_setRoute_of_ne found same _
      | collected => exact found_setRoute_of_ne found same _
      | found => exact found_setRoute_of_ne found same _
      | missing => exact found_setRoute_of_ne found same _
      | returned => exact found_setRoute_of_ne found same _
  | visit other user =>
    obtain ⟨task', unvisited, targets, found', phase, waiting, rfl⟩ := visit_eq_some taken
    by_cases same : other = packet
    · subst same
      rw [found] at found'
      cases found'
      exact .visited phase waiting rfl
    · exact .kept (by simp) (found_setRoute_of_ne found same _)
  | retry _ =>
    obtain ⟨_, _, retried⟩ := retried taken
    cases retried <;> exact .kept (by simp) found
  | disconnect _ =>
    obtain ⟨_, _, _, rfl⟩ := disconnect_eq_some.mp taken
    exact .kept (by simp) found
  | testEmpty _ =>
    obtain ⟨_, _, rfl⟩ := testEmpty_eq_some.mp taken
    exact .kept (by simp) found
  | removeIf _ =>
    obtain ⟨_, _, _, rfl⟩ := removeIf_eq_some.mp taken
    exact .kept (by simp) found
  | tick _ =>
    cases taken
    exact .kept (by simp) found

end Tasks

section Retries

variable {g next : Gateway}

inductive Moves (g : Gateway) : RetryPhase → RetryPhase → Prop where
  | started : Moves g .spawned (.trying g.now)
  | delivered {start : Nat} : Moves g (.trying start) .delivered
  | refused {start : Nat} : Moves g (.trying start) (.full start)
  | expired {start : Nat} : millis 50 ≤ g.now - start → Moves g (.full start) .failed
  | paused {start : Nat} : g.now - start < millis 50 →
      Moves g (.full start) (.sleeping start (g.now + millis 5))
  | woken {start wake : Nat} : wake ≤ g.now → Moves g (.sleeping start wake) (.trying start)
  | disconnected : Moves g .failed .disconnected

def Event.elapsed : Event → Nat
  | .tick elapsed => elapsed
  | _ => 0

inductive RetriesStep (g next : Gateway) : Event → Prop where
  | kept {event : Event} : (∀ id, event ≠ .retry id) → next.retries = g.retries →
      next.now = g.now + event.elapsed → RetriesStep g next event
  | spawned {packet : PacketId} {route : RouteTask} {target : Target} {targets : List Target}
      {connection : Connection} : g.routes[packet]? = some route →
      route.phase = .dispatching (target :: targets) → route.header.packetType = .systemCmd →
      g.connections[target.2]? = some connection →
      connection.channel.capacity ≤ connection.channel.queue.length →
      next.retries = g.retries ++
        [⟨target.2, route.header.roomIdStr, target.1, outbound packet route, .spawned⟩] →
      next.now = g.now → RetriesStep g next (.route packet)
  | moved {id : Nat} {task : RetryTask} {phase : RetryPhase} {event : Event} :
      event = .retry id ∨ event = .disconnect id → g.retries[id]? = some task →
      Moves g task.phase phase →
      next.retries = g.retries.modify id (fun retry => { retry with phase }) →
      next.now = g.now → RetriesStep g next event

theorem moves_retried {id : Nat} {task : RetryTask} (retried : Retried g id task next) :
    ∃ phase, Moves g task.phase phase ∧
      next.retries = g.retries.modify id (fun retry => { retry with phase }) ∧ next.now = g.now := by
  cases retried with
  | started phase => rw [phase]; exact ⟨_, .started, rfl, rfl⟩
  | delivered phase => rw [phase]; exact ⟨_, .delivered, rfl, rfl⟩
  | refused phase => rw [phase]; exact ⟨_, .refused, rfl, rfl⟩
  | expired phase late => rw [phase]; exact ⟨_, .expired late, rfl, rfl⟩
  | paused phase early => rw [phase]; exact ⟨_, .paused early, rfl, rfl⟩
  | woken phase due => rw [phase]; exact ⟨_, .woken due, rfl, rfl⟩

theorem retriesStep {event : Event} (taken : g.step event = some next) :
    RetriesStep g next event := by
  cases event with
  | connect params =>
    obtain ⟨_, _, _, _, rfl⟩ := connect_eq_some.mp taken
    exact .kept (by simp) rfl rfl
  | exit _ =>
    obtain ⟨_, _, _, rfl⟩ := exit_eq_some.mp taken
    exact .kept (by simp) rfl rfl
  | cleanup _ =>
    obtain ⟨_, _, _, rfl⟩ := cleanup_eq_some.mp taken
    exact .kept (by simp) rfl rfl
  | datagram data =>
    cases taken
    rw [datagram, receive_eq]
    exact .kept (by simp) rfl rfl
  | frame _ data =>
    obtain ⟨_, _, _, rfl⟩ := frame_eq_some.mp taken
    rw [receive_eq]
    exact .kept (by simp) rfl rfl
  | recv _ =>
    obtain ⟨_, _, _, _, _, _, rfl⟩ := recv_eq_some.mp taken
    exact .kept (by simp) rfl rfl
  | route packet =>
    obtain ⟨route, found, routed⟩ := routed taken
    cases routed with
    | dispatched phase dispatched =>
      cases dispatched with
      | refused here type full => exact .spawned found phase type here full rfl rfl
      | sent => exact .kept (by simp) rfl rfl
      | forced => exact .kept (by simp) rfl rfl
      | dropped => exact .kept (by simp) rfl rfl
    | resolved => exact .kept (by simp) rfl rfl
    | collected => exact .kept (by simp) rfl rfl
    | found => exact .kept (by simp) rfl rfl
    | missing => exact .kept (by simp) rfl rfl
    | returned => exact .kept (by simp) rfl rfl
  | visit packet user =>
    obtain ⟨_, _, _, _, _, _, rfl⟩ := visit_eq_some taken
    exact .kept (by simp) rfl rfl
  | retry id =>
    obtain ⟨task, found, retried⟩ := retried taken
    obtain ⟨phase, moves, retries, now⟩ := moves_retried retried
    exact .moved (Or.inl rfl) found moves retries now
  | disconnect id =>
    obtain ⟨task, found, failed, rfl⟩ := disconnect_eq_some.mp taken
    exact .moved (Or.inr rfl) found (by rw [failed]; exact .disconnected) rfl rfl
  | testEmpty call =>
    obtain ⟨_, _, rfl⟩ := testEmpty_eq_some.mp taken
    exact .kept (by simp) rfl rfl
  | removeIf call =>
    obtain ⟨_, _, _, rfl⟩ := removeIf_eq_some.mp taken
    exact .kept (by simp) rfl rfl
  | tick elapsed =>
    cases taken
    exact .kept (by simp) rfl rfl

theorem now_step {event : Event} (taken : g.step event = some next) :
    next.now = g.now + event.elapsed := by
  cases retriesStep taken with
  | kept _ _ now => exact now
  | spawned _ _ _ _ _ _ now => exact now
  | moved own _ _ _ now => rcases own with rfl | rfl <;> exact now

def RetriesCommands (g : Gateway) : Prop :=
  ∀ task ∈ g.retries, ∃ arrival, g.arrivals[task.item.packet]? = some arrival ∧
    arrival.header.packetType = .systemCmd

theorem retriesCommands_new : RetriesCommands new := by
  rintro task ⟨⟩

theorem retriesCommands_step : Invariant step RetriesCommands := by
  intro g event next commands taken task member
  have arrivals : g.arrivals <+: next.arrivals := ⟨event.arrivals, (arrivals_step taken).symm⟩
  have kept {old : RetryTask} (before : old ∈ g.retries) :
      ∃ arrival, next.arrivals[old.item.packet]? = some arrival ∧
        arrival.header.packetType = .systemCmd := by
    obtain ⟨arrival, arrived, type⟩ := commands old before
    exact ⟨arrival, IsPrefix.getElem?_eq_some arrivals arrived, type⟩
  cases retriesStep taken with
  | kept _ retries => exact kept (retries ▸ member)
  | spawned found _ type _ _ retries =>
    rw [retries] at member
    rcases List.mem_append.mp member with before | new
    · exact kept before
    · rw [List.mem_singleton.mp new]
      exact ⟨_, IsPrefix.getElem?_eq_some arrivals (arrival_of_found found), type⟩
  | moved _ found _ retries =>
    rw [retries] at member
    rcases mem_modify member with before | ⟨old, before, rfl⟩
    · exact kept before
    · have stems := kept (List.mem_of_getElem? before)
      exact stems

end Retries

end WsGateway.Gateway
