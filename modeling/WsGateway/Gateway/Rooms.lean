import WsGateway.Foundation.Records
import WsGateway.Gateway.Admission
import WsGateway.Gateway.Delivery

/-! Each room as a gateway of its own.

What a gateway holds of one room is a gateway with no other room in it, in which
connections and packets have numbers of their own, and what a run does there is
a run. Packets come in from anybody; otherwise the rooms have only the clock in
common. Rooms of one shard of the map may also wait for each other, which leaves
each of them with fewer runs than it has here.
-/

set_option autoImplicit false

namespace WsGateway
open Foundation Protocol Routing

section Numbering

structure Numbering where
  connection : ConnectionId → ConnectionId
  packet : PacketId → PacketId

def Outbound.renumber (item : Outbound) (names : Numbering) : Outbound :=
  { item with packet := names.packet item.packet }

def Connection.renumber (connection : Connection) (names : Numbering) : Connection :=
  { connection with
    channel := { connection.channel with
      queue := connection.channel.queue.map fun item => item.renumber names }
    accepted := connection.accepted.map fun item => item.renumber names }

def Numbering.target (names : Numbering) (target : Target) : Target :=
  (target.1, names.connection target.2)

def RoutePhase.renumber (names : Numbering) : RoutePhase → RoutePhase
  | .start => .start
  | .snapshot unvisited targets => .snapshot unvisited (targets.map names.target)
  | .lookup => .lookup
  | .dispatching targets => .dispatching (targets.map names.target)
  | .done => .done

def RouteTask.renumber (task : RouteTask) (names : Numbering) : RouteTask :=
  { task with phase := task.phase.renumber names }

def RetryTask.renumber (task : RetryTask) (names : Numbering) : RetryTask :=
  { task with tx := names.connection task.tx, item := task.item.renumber names }

variable {connection next : Connection} {item : Outbound} {names : Numbering}

theorem Connection.renumber_trySend (sent : connection.trySend item = .ok next) :
    (connection.renumber names).trySend (item.renumber names) = .ok (next.renumber names) := by
  obtain ⟨fits, rfl⟩ := trySend_eq_ok.mp sent
  refine trySend_eq_ok.mpr ⟨by simpa [renumber] using fits, ?_⟩
  simp only [renumber, List.map_append, List.map_cons, List.map_nil]

theorem Connection.renumber_full (full : connection.channel.capacity ≤ connection.channel.queue.length)
    (item : Outbound) : (connection.renumber names).trySend item = .error item :=
  trySend_eq_error.mpr ⟨by simpa [renumber] using full, rfl⟩

theorem Connection.renumber_sendDropOldest (connection : Connection) (item : Outbound) :
    (connection.renumber names).sendDropOldest (item.renumber names) =
      (connection.sendDropOldest item).renumber names := by
  simp only [renumber, sendDropOldest, ChannelInner.sendDropOldest, List.length_map, List.map_append,
    List.map_cons, List.map_nil]
  split <;> simp only [List.map_tail]

@[simp] theorem RoutePhase.holdsRoom_renumber (phase : RoutePhase) :
    (phase.renumber names).holdsRoom = phase.holdsRoom := by
  cases phase <;> rfl

end Numbering

namespace Gateway

def restrictRegistry (registry : Registry ConnectionId) (room : RoomID) (names : Numbering) :
    Registry ConnectionId where
  rooms := registry.rooms.only room names.connection
  unregisters := registry.unregisters.filter fun call => call.room = room

/-- What the gateway holds of a room. -/
def restrict (g : Gateway) (room : RoomID) (names : Numbering) : Gateway where
  registry := restrictRegistry g.registry room names
  connections := (g.connections.filter fun connection => connection.room = room).map
    fun connection => connection.renumber names
  routes := (g.routes.filter fun task => task.header.roomIdStr = room).map
    fun task => task.renumber names
  retries := (g.retries.filter fun task => task.room = room).map fun task => task.renumber names
  now := g.now

/-- The numbers of connections and packets among those of their room. -/
def numbering (g : Gateway) (room : RoomID) : Numbering where
  connection := ordinal (fun key => key.1 = room) g.keys
  packet := ordinal (fun arrival => arrival.header.roomIdStr = room) g.arrivals

def only (g : Gateway) (room : RoomID) : Gateway := g.restrict room (g.numbering room)

section Events

inductive RoomEvent where
  | own (event : Event)
  /-- A packet comes in, from whomever. -/
  | arrive (raw : Bytes)

def roomStep (g : Gateway) : RoomEvent → Option Gateway
  | .own event => g.step event
  | .arrive raw => some (g.receive raw)

def ownEvent (room : RoomID) (concerned : Option RoomID) (event : Event) : List RoomEvent :=
  if concerned = some room then [.own event] else []

def arriveEvents (room : RoomID) (raw : Bytes) : List RoomEvent :=
  ((accept raw).filter fun arrival => arrival.header.roomIdStr = room).map
    fun arrival => .arrive arrival.raw

def roomEvents (room : RoomID) (g : Gateway) : Event → List RoomEvent
  | .connect params => ownEvent room params.room (.connect params)
  | .exit id =>
    ownEvent room (g.connections[id]?.map (·.room)) (.exit ((g.numbering room).connection id))
  | .cleanup id =>
    ownEvent room (g.connections[id]?.map (·.room)) (.cleanup ((g.numbering room).connection id))
  | .recv id =>
    ownEvent room (g.connections[id]?.map (·.room)) (.recv ((g.numbering room).connection id))
  | .datagram data => arriveEvents room data.val
  | .frame _ data => arriveEvents room data
  | .route packet =>
    ownEvent room (g.routes[packet]?.map (·.header.roomIdStr))
      (.route ((g.numbering room).packet packet))
  | .visit packet user =>
    ownEvent room (g.routes[packet]?.map (·.header.roomIdStr))
      (.visit ((g.numbering room).packet packet) user)
  | .retry n =>
    ownEvent room (g.retries[n]?.map (·.room))
      (.retry (ordinal (fun task => task.room = room) g.retries n))
  | .disconnect n =>
    ownEvent room (g.retries[n]?.map (·.room))
      (.disconnect (ordinal (fun task => task.room = room) g.retries n))
  | .testEmpty call =>
    ownEvent room (g.registry.unregisters[call]?.map (·.room))
      (.testEmpty (ordinal (fun call => call.room = room) g.registry.unregisters call))
  | .removeIf call =>
    ownEvent room (g.registry.unregisters[call]?.map (·.room))
      (.removeIf (ordinal (fun call => call.room = room) g.registry.unregisters call))
  | .tick elapsed => [.own (.tick elapsed)]

end Events

section Registries

variable {registry next : Registry ConnectionId} {room other : RoomID} {names : Numbering}
  {user : UserID} {tx : ConnectionId} {call : Nat}

theorem unlocked_restrict (unlocked : registry.Unlocked room) :
    (restrictRegistry registry room names).Unlocked room :=
  fun call member => unlocked call (List.mem_of_mem_filter member)

theorem restrict_register :
    restrictRegistry (registry.register room user tx) room names =
      (restrictRegistry registry room names).register room user (names.connection tx) := by
  simp only [restrictRegistry, Registry.register, NestedMap.only_put]

theorem restrict_register_of_ne (different : room ≠ other) :
    restrictRegistry (registry.register other user tx) room names =
      restrictRegistry registry room names := by
  simp only [restrictRegistry, Registry.register, NestedMap.only_put_of_ne different]

theorem restrict_unregister :
    restrictRegistry (registry.unregister room user) room names =
      (restrictRegistry registry room names).unregister room user := by
  have present : room ∈ (restrictRegistry registry room names).rooms ↔ room ∈ registry.rooms :=
    NestedMap.mem_only
  by_cases here : room ∈ registry.rooms
  · rw [Registry.unregister, if_pos here, Registry.unregister, if_pos (present.mpr here)]
    simp only [restrictRegistry, NestedMap.only_remove, List.filter_append]
    simp
  · rw [Registry.unregister, if_neg here, Registry.unregister, if_neg (present.not.mpr here)]

theorem restrict_unregister_of_ne (different : room ≠ other) :
    restrictRegistry (registry.unregister other user) room names =
      restrictRegistry registry room names := by
  unfold Registry.unregister
  split
  next =>
    simp only [restrictRegistry, NestedMap.only_remove_of_ne different, List.filter_append]
    simp [Ne.symm different]
  next => rfl

theorem restrict_testEmpty (found : registry.unregisters[call]? = some ⟨room, .testing⟩)
    (taken : registry.testEmpty call = some next) :
    (restrictRegistry registry room names).testEmpty
      (ordinal (fun call => call.room = room) registry.unregisters call) =
        some (restrictRegistry next room names) := by
  obtain ⟨room', found', rfl⟩ := Registry.testEmpty_eq_some.mp taken
  rw [found] at found'
  cases found'
  refine Registry.testEmpty_eq_some.mpr ⟨room, ?_, ?_⟩
  · exact getElem?_filter_ordinal found (decide_eq_true rfl)
  · simp only [restrictRegistry, NestedMap.isVacant_only]
    rw [filter_set_of_kind found (decide_eq_true rfl) (decide_eq_true rfl)]

theorem restrict_removeIf (found : registry.unregisters[call]? = some ⟨room, .cleanup⟩)
    (taken : registry.removeIf call = some next) :
    (restrictRegistry registry room names).removeIf
      (ordinal (fun call => call.room = room) registry.unregisters call) =
        some (restrictRegistry next room names) := by
  obtain ⟨room', found', unlocked, rfl⟩ := Registry.removeIf_eq_some.mp taken
  rw [found] at found'
  cases found'
  refine Registry.removeIf_eq_some.mpr ⟨room, ?_, unlocked_restrict unlocked, ?_⟩
  · exact getElem?_filter_ordinal found (decide_eq_true rfl)
  · simp only [restrictRegistry, NestedMap.only_prune]
    rw [filter_set_of_kind found (decide_eq_true rfl) (decide_eq_true rfl)]

theorem restrict_testEmpty_of_ne (different : other ≠ room)
    (found : registry.unregisters[call]? = some ⟨other, .testing⟩)
    (taken : registry.testEmpty call = some next) :
    restrictRegistry next room names = restrictRegistry registry room names := by
  obtain ⟨room', found', rfl⟩ := Registry.testEmpty_eq_some.mp taken
  rw [found] at found'
  cases found'
  simp only [restrictRegistry]
  rw [filter_set_of_other found (decide_eq_false different) (decide_eq_false different)]

theorem restrict_removeIf_of_ne (different : other ≠ room)
    (found : registry.unregisters[call]? = some ⟨other, .cleanup⟩)
    (taken : registry.removeIf call = some next) :
    restrictRegistry next room names = restrictRegistry registry room names := by
  obtain ⟨room', found', _, rfl⟩ := Registry.removeIf_eq_some.mp taken
  rw [found] at found'
  cases found'
  simp only [restrictRegistry, NestedMap.only_prune_of_ne (Ne.symm different)]
  rw [filter_set_of_other found (decide_eq_false different) (decide_eq_false different)]

end Registries

section Parts

variable {g next : Gateway} {room : RoomID} {names : Numbering} {id : ConnectionId}
  {connection connection' : Connection}

theorem restrict_setRegistry {h : Gateway} {registry registry' : Registry ConnectionId}
    (rest : g.restrict room names = h) (own : restrictRegistry registry room names = registry') :
    { g with registry }.restrict room names = { h with registry := registry' } := by
  rw [← rest, ← own]
  rfl

structure Numbers (g : Gateway) (room : RoomID) (names : Numbering) : Prop where
  connection : ∀ id < g.connections.length, names.connection id = (g.numbering room).connection id
  packet : ∀ packet < g.routes.length, names.packet packet = (g.numbering room).packet packet

theorem numbering_connection (g : Gateway) (room : RoomID) :
    (g.numbering room).connection =
      ordinal (fun connection => connection.room = room) g.connections :=
  funext fun id => ordinal_map (fun key : Key => decide (key.1 = room)) Connection.key g.connections id

theorem numbering_packet (g : Gateway) (room : RoomID) :
    (g.numbering room).packet = ordinal (fun task => task.header.roomIdStr = room) g.routes :=
  funext fun packet =>
    ordinal_map (fun arrival : Arrival => decide (arrival.header.roomIdStr = room)) _ g.routes packet

theorem Numbers.before {event : Event} (numbers : Numbers next room names)
    (taken : g.step event = some next) : Numbers g room names := by
  have keys : g.keys <+: next.keys := keys_step taken
  have arrivals : g.arrivals <+: next.arrivals := ⟨event.arrivals, (arrivals_step taken).symm⟩
  constructor
  · intro id bound
    rw [numbers.connection id (by simpa using Nat.lt_of_lt_of_le bound (by simpa using keys.length_le))]
    exact ordinal_of_prefix keys (by simpa using Nat.le_of_lt bound)
  · intro packet bound
    have grown := arrivals.length_le
    simp only [Gateway.arrivals, List.length_map] at grown
    rw [numbers.packet packet (Nat.lt_of_lt_of_le bound grown)]
    exact ordinal_of_prefix arrivals (by simpa [Gateway.arrivals] using Nat.le_of_lt bound)

theorem Numbers.found (numbers : Numbers g room names)
    (here : g.connections[id]? = some connection) (own : connection.room = room) :
    (g.restrict room names).connections[names.connection id]? = some (connection.renumber names) := by
  rw [numbers.connection id (lt_length_of_found here), numbering_connection, restrict,
    List.getElem?_map, getElem?_filter_ordinal here (decide_eq_true own)]
  rfl

theorem Numbers.setConnection (numbers : Numbers g room names)
    (here : g.connections[id]? = some connection) (own : connection.room = room)
    (own' : connection'.room = room) :
    (g.setConnection id connection').restrict room names =
      (g.restrict room names).setConnection (names.connection id) (connection'.renumber names) := by
  rw [numbers.connection id (lt_length_of_found here), numbering_connection]
  simp only [restrict, Gateway.setConnection]
  rw [filter_set_of_kind here (decide_eq_true own) (decide_eq_true own'), List.map_set]

theorem restrict_setConnection_of_ne (here : g.connections[id]? = some connection)
    (other : connection.room ≠ room) (other' : connection'.room ≠ room) :
    (g.setConnection id connection').restrict room names = g.restrict room names := by
  simp only [restrict, Gateway.setConnection]
  rw [filter_set_of_other here (decide_eq_false other) (decide_eq_false other')]

variable {packet : PacketId} {task : RouteTask}

theorem Numbers.packet_eq (numbers : Numbers g room names) (here : g.routes[packet]? = some task) :
    names.packet packet = ordinal (fun task => task.header.roomIdStr = room) g.routes packet := by
  rw [numbers.packet packet (lt_length_of_found here), numbering_packet]

theorem found_restrict_route (here : g.routes[packet]? = some task)
    (own : task.header.roomIdStr = room) :
    (g.restrict room names).routes[ordinal (fun task => task.header.roomIdStr = room) g.routes packet]? =
      some (task.renumber names) := by
  rw [restrict, List.getElem?_map, getElem?_filter_ordinal here (decide_eq_true own)]
  rfl

theorem restrict_setRoute (here : g.routes[packet]? = some task) (own : task.header.roomIdStr = room)
    (phase : RoutePhase) :
    (g.setRoute packet phase).restrict room names =
      (g.restrict room names).setRoute
        (ordinal (fun task => task.header.roomIdStr = room) g.routes packet) (phase.renumber names) := by
  simp only [restrict, Gateway.setRoute]
  rw [filter_modify_of_kind _ here (decide_eq_true own) (decide_eq_true own)]
  congr 1
  exact map_modify fun _ => rfl

theorem restrict_setRoute_of_ne (here : g.routes[packet]? = some task)
    (other : task.header.roomIdStr ≠ room) (phase : RoutePhase) :
    (g.setRoute packet phase).restrict room names = g.restrict room names := by
  simp only [restrict, Gateway.setRoute]
  rw [filter_modify_of_other _ here (decide_eq_false other) (decide_eq_false other)]

variable {n : Nat} {retry : RetryTask}

theorem found_restrict_retry (here : g.retries[n]? = some retry) (own : retry.room = room) :
    (g.restrict room names).retries[ordinal (fun task => task.room = room) g.retries n]? =
      some (retry.renumber names) := by
  rw [restrict, List.getElem?_map, getElem?_filter_ordinal here (decide_eq_true own)]
  rfl

theorem restrict_setRetry (here : g.retries[n]? = some retry) (own : retry.room = room)
    (phase : RetryPhase) :
    (g.setRetry n phase).restrict room names =
      (g.restrict room names).setRetry (ordinal (fun task => task.room = room) g.retries n) phase := by
  simp only [restrict, Gateway.setRetry]
  rw [filter_modify_of_kind _ here (decide_eq_true own) (decide_eq_true own)]
  congr 1
  exact map_modify fun _ => rfl

theorem restrict_setRetry_of_ne (here : g.retries[n]? = some retry) (other : retry.room ≠ room)
    (phase : RetryPhase) :
    (g.setRetry n phase).restrict room names = g.restrict room names := by
  simp only [restrict, Gateway.setRetry]
  rw [filter_modify_of_other _ here (decide_eq_false other) (decide_eq_false other)]

theorem restrict_routesRelease {other : RoomID} (free : g.RoutesRelease other) :
    (g.restrict room names).RoutesRelease other := by
  intro task member there
  obtain ⟨old, before, rfl⟩ := List.mem_map.mp member
  exact (RoutePhase.holdsRoom_renumber old.phase).trans (free old (List.mem_of_mem_filter before) there)

end Parts

section Routes

variable {g next middle : Gateway} {room : RoomID} {names : Numbering} {packet : PacketId}
  {task : RouteTask} {target : Target}

theorem room_of_keys {id : ConnectionId} {connection : Connection} {key : Key}
    (here : g.connections[id]? = some connection) (named : g.keys[id]? = some key) :
    connection.room = key.1 := by
  rw [keys_of_found here] at named
  cases named
  rfl

theorem restrict_resolve (header : PacketHeader) (own : header.roomIdStr = room) :
    (g.restrict room names).resolve header = (g.resolve header).renumber names := by
  subst own
  unfold resolve
  simp only [restrict, restrictRegistry, NestedMap.lookup_only]
  cases AList.lookup header.roomIdStr g.registry.rooms with
  | none => rfl
  | some users =>
    simp only [Option.map_some, InnerMap.keys_mapValues]
    cases header.targetType <;> rfl

theorem restrict_find (names : Numbering) (user : UserID) :
    (g.restrict room names).registry.rooms.find room user =
      (g.registry.rooms.find room user).map names.connection :=
  NestedMap.find_only user

theorem restrict_routes_append (task : RouteTask) :
    { g with routes := g.routes ++ [task] }.restrict room names =
      if task.header.roomIdStr = room then { g.restrict room names with
        routes := (g.restrict room names).routes ++ [task.renumber names] }
      else g.restrict room names := by
  simp only [restrict, List.filter_append, List.map_append]
  split
  next own => simp [own]
  next other => simp [other]

theorem restrict_retries_append (retry : RetryTask) :
    { g with retries := g.retries ++ [retry] }.restrict room names =
      if retry.room = room then { g.restrict room names with
        retries := (g.restrict room names).retries ++ [retry.renumber names] }
      else g.restrict room names := by
  simp only [restrict, List.filter_append, List.map_append]
  split
  next own => simp [own]
  next other => simp [other]

theorem restrict_dispatch (numbers : Numbers g room names) (own : task.header.roomIdStr = room)
    (targets : g.Targets task.header target) (taken : g.dispatch packet task target = some middle) :
    (g.restrict room names).dispatch (names.packet packet) (task.renumber names)
      (names.target target) = some (middle.restrict room names) := by
  obtain ⟨connection, here, rfl⟩ := Option.map_eq_some_iff.mp taken
  have inside : connection.room = room := (room_of_keys here targets.1).trans own
  refine Option.map_eq_some_iff.mpr ⟨_, numbers.found here inside, ?_⟩
  have item : outbound (names.packet packet) (task.renumber names) =
      (outbound packet task).renumber names := rfl
  have replaced {connection' : Connection} (key : connection'.key = connection.key) :
      (g.restrict room names).setConnection (names.target target).2 (connection'.renumber names) =
        (g.setConnection target.2 connection').restrict room names :=
    (numbers.setConnection here inside ((congrArg Prod.fst key).trans inside)).symm
  have offered (connection' : Connection) (sent : connection.trySend (outbound packet task) = .ok connection') :
      connection'.key = connection.key := (Connection.accepts_of_trySend sent).key
  dsimp only
  rw [item]
  simp only [RouteTask.renumber]
  cases task.header.packetType with
  | rawMotion =>
    dsimp only
    rw [Connection.renumber_sendDropOldest]
    exact replaced rfl
  | systemCmd =>
    dsimp only
    cases sent : connection.trySend (outbound packet task) with
    | ok connection' =>
      rw [Connection.renumber_trySend sent]
      exact replaced (offered connection' sent)
    | error returned =>
      obtain ⟨full, rfl⟩ := Connection.trySend_eq_error.mp sent
      rw [Connection.renumber_full full]
      exact ((restrict_retries_append _).trans (if_pos own)).symm
  | aiEvent | heartbeat =>
    dsimp only
    cases sent : connection.trySend (outbound packet task) with
    | ok connection' =>
      rw [Connection.renumber_trySend sent]
      exact replaced (offered connection' sent)
    | error returned => rw [Connection.renumber_full (Connection.trySend_eq_error.mp sent).1]

theorem restrict_dispatched_of_ne (other : task.header.roomIdStr ≠ room)
    (targets : g.Targets task.header target) (dispatched : Dispatched g packet task target middle) :
    middle.restrict room names = g.restrict room names := by
  have outside {connection : Connection} (here : g.connections[target.2]? = some connection) :
      connection.room ≠ room := by
    rw [room_of_keys here targets.1]
    exact other
  cases dispatched with
  | sent here _ sent =>
    have key := congrArg Prod.fst (Connection.accepts_of_trySend sent).key
    exact restrict_setConnection_of_ne here (outside here) fun inside => outside here (key.symm.trans inside)
  | forced here =>
    exact restrict_setConnection_of_ne here (outside here) fun inside => outside here inside
  | refused => exact (restrict_retries_append _).trans (if_neg other)
  | dropped => rfl

theorem restrict_route (numbers : Numbers g room names) (here : g.routes[packet]? = some task)
    (own : task.header.roomIdStr = room) (fits : g.Fits task.header task.phase)
    (taken : g.route packet = some next) :
    (g.restrict room names).route (names.packet packet) = some (next.restrict room names) := by
  obtain ⟨task', here', routed⟩ := routed taken
  rw [here] at here'
  cases here'
  subst own
  have number := numbers.packet_eq here
  rw [route, number, found_restrict_route here rfl, Option.bind_some]
  cases routed with
  | resolved phase =>
    rw [restrict_setRoute here rfl, ← restrict_resolve task.header rfl]
    simp only [RouteTask.renumber, phase, RoutePhase.renumber]
  | collected phase =>
    rw [restrict_setRoute here rfl]
    simp only [RouteTask.renumber, phase, RoutePhase.renumber]
  | found phase found =>
    have found := (restrict_find names task.header.userIdStr).trans (congrArg _ found)
    rw [restrict_setRoute here rfl]
    simp only [RouteTask.renumber, phase, RoutePhase.renumber]
    rw [found]
    rfl
  | missing phase missing =>
    have missing := (restrict_find names task.header.userIdStr).trans (congrArg _ missing)
    rw [restrict_setRoute here rfl]
    simp only [RouteTask.renumber, phase, RoutePhase.renumber]
    rw [missing]
    rfl
  | @dispatched target targets _ phase _ =>
    rw [phase] at fits
    simp only [route, here, Option.bind_some, phase] at taken
    obtain ⟨middle, sent, same⟩ := Option.map_eq_some_iff.mp taken
    have routes := routes_dispatched (dispatched sent)
    have kept : middle.routes[packet]? = some task := by rw [routes, here]
    have moved : (middle.setRoute packet (.dispatching targets)).restrict _ names = _ :=
      restrict_setRoute kept rfl (.dispatching targets)
    rw [routes, ← number] at moved
    rw [← same, moved, ← number]
    simp only [RouteTask.renumber, phase, RoutePhase.renumber, List.map_cons]
    have sent := restrict_dispatch numbers rfl (fits target List.mem_cons_self) sent
    simp only [RouteTask.renumber, phase, RoutePhase.renumber, List.map_cons] at sent
    rw [sent]
    rfl
  | returned phase =>
    rw [restrict_setRoute here rfl]
    simp only [RouteTask.renumber, phase, RoutePhase.renumber, List.map_nil]

theorem restrict_route_of_ne (here : g.routes[packet]? = some task)
    (other : task.header.roomIdStr ≠ room) (fits : g.Fits task.header task.phase)
    (routed : Routed g packet task next) : next.restrict room names = g.restrict room names := by
  cases routed with
  | dispatched phase dispatched =>
    rw [phase] at fits
    have kept : _ = some task := (congrArg (fun routes => routes[packet]?) (routes_dispatched dispatched)).trans here
    rw [restrict_setRoute_of_ne kept other]
    exact restrict_dispatched_of_ne other (fits _ List.mem_cons_self) dispatched
  | resolved => exact restrict_setRoute_of_ne here other _
  | collected => exact restrict_setRoute_of_ne here other _
  | found => exact restrict_setRoute_of_ne here other _
  | missing => exact restrict_setRoute_of_ne here other _
  | returned => exact restrict_setRoute_of_ne here other _

theorem restrict_visit {user : UserID} (numbers : Numbers g room names)
    (here : g.routes[packet]? = some task) (own : task.header.roomIdStr = room)
    (taken : g.visit packet user = some next) :
    (g.restrict room names).visit (names.packet packet) user = some (next.restrict room names) := by
  obtain ⟨task', unvisited, targets, here', phase, waiting, rfl⟩ := visit_eq_some taken
  rw [here] at here'
  cases here'
  subst own
  rw [visit, numbers.packet_eq here, found_restrict_route here rfl, Option.bind_some,
    restrict_setRoute here rfl]
  simp only [RouteTask.renumber, phase, RoutePhase.renumber, if_pos waiting, restrict_find,
    List.map_append]
  cases g.registry.rooms.find task.header.roomIdStr user <;> rfl

end Routes

section Retries

variable {g next : Gateway} {room : RoomID} {names : Numbering} {n : Nat} {task : RetryTask}

theorem restrict_retry (numbers : Numbers g room names) (here : g.retries[n]? = some task)
    (own : task.room = room) (named : g.keys[task.tx]? = some (task.room, task.user))
    (taken : g.retry n = some next) :
    (g.restrict room names).retry (ordinal (fun task => task.room = room) g.retries n) =
      some (next.restrict room names) := by
  obtain ⟨task', here', retried⟩ := retried taken
  rw [here] at here'
  cases here'
  rw [retry, found_restrict_retry here own, Option.bind_some]
  cases retried with
  | started phase =>
    rw [restrict_setRetry here own]
    simp only [RetryTask.renumber, phase]
    rfl
  | @delivered start connection connection' phase there sent =>
    have inside := (room_of_keys there named).trans own
    have inside' := (congrArg Prod.fst (Connection.accepts_of_trySend sent).key).trans inside
    have stored : (g.setConnection task.tx connection').retries[n]? = some task := here
    rw [restrict_setRetry stored own, numbers.setConnection there inside inside']
    simp only [RetryTask.renumber, phase, numbers.found there inside, Option.map_some,
      Connection.renumber_trySend sent]
    rfl
  | refused phase there full =>
    have inside := (room_of_keys there named).trans own
    rw [restrict_setRetry here own]
    simp only [RetryTask.renumber, phase, numbers.found there inside, Option.map_some,
      Connection.renumber_full full]
  | expired phase late =>
    rw [restrict_setRetry here own]
    simp only [RetryTask.renumber, phase]
    exact if_pos late
  | paused phase early =>
    rw [restrict_setRetry here own]
    simp only [RetryTask.renumber, phase]
    exact if_neg (Nat.not_le_of_lt early)
  | woken phase due =>
    rw [restrict_setRetry here own]
    simp only [RetryTask.renumber, phase]
    exact if_pos due

theorem restrict_retry_of_ne (here : g.retries[n]? = some task) (other : task.room ≠ room)
    (named : g.keys[task.tx]? = some (task.room, task.user)) (retried : Retried g n task next) :
    next.restrict room names = g.restrict room names := by
  cases retried with
  | @delivered _ _ connection' _ there sent =>
    have outside : _ ≠ room := fun inside => other ((room_of_keys there named).symm.trans inside)
    have key := congrArg Prod.fst (Connection.accepts_of_trySend sent).key
    have stored : (g.setConnection task.tx connection').retries[n]? = some task := here
    rw [restrict_setRetry_of_ne stored other]
    exact restrict_setConnection_of_ne there outside fun inside => outside (key.symm.trans inside)
  | started => exact restrict_setRetry_of_ne here other _
  | refused => exact restrict_setRetry_of_ne here other _
  | expired => exact restrict_setRetry_of_ne here other _
  | paused => exact restrict_setRetry_of_ne here other _
  | woken => exact restrict_setRetry_of_ne here other _

end Retries

section Steps

variable {g next : Gateway} {room : RoomID} {names : Numbering}

theorem run_ownEvent {h h' : Gateway} {found : Option RoomID} {concerned : RoomID} {event : Event}
    (known : found = some concerned) (own : concerned = room → h.step event = some h')
    (other : concerned ≠ room → h' = h) : run roomStep h (ownEvent room found event) = some h' := by
  unfold ownEvent
  rw [known]
  split
  next same => exact run_cons.mpr ⟨h', own (Option.some.inj same), rfl⟩
  next different =>
    rw [other fun same => different (congrArg some same)]
    rfl

theorem restrict_receive (raw : Bytes) :
    run roomStep (g.restrict room names) (arriveEvents room raw) =
      some ((g.receive raw).restrict room names) := by
  unfold arriveEvents accept receive
  cases decoded : PacketHeader.decode raw with
  | error reason => rfl
  | abort => rfl
  | ok packet =>
    obtain ⟨header, payload⟩ := packet
    dsimp only
    by_cases own : header.roomIdStr = room
    · rw [restrict_routes_append, if_pos own, List.filter_cons, if_pos (decide_eq_true own)]
      refine run_cons.mpr ⟨_, rfl, congrArg some ?_⟩
      rw [receive, decoded]
      rfl
    · rw [restrict_routes_append, if_neg own, List.filter_cons, if_neg (by simpa using own)]
      rfl

theorem restrict_connect {params : WsParams} (numbers : Numbers next room names)
    (taken : g.connect params = some next) (own : params.room = room) :
    (g.restrict room names).connect params = some (next.restrict room names) := by
  subst own
  obtain ⟨_, user, admitted, ⟨unlocked, released⟩, rfl⟩ := connect_eq_some.mp taken
  obtain ⟨_, _, rfl, rfl⟩ := wsHandler_eq_ok.mp admitted
  have number : names.connection g.connections.length =
      (g.restrict params.room names).connections.length := by
    rw [numbers.connection g.connections.length (by simp), numbering_connection,
      ordinal_of_prefix (List.prefix_append _ _) (Nat.le_refl _), ordinal_length, restrict,
      List.length_map]
  have connections : (g.connections ++ [Connection.opened params.room params.user]).filter
      (fun connection => connection.room = params.room) =
        (g.connections.filter fun connection => connection.room = params.room) ++
          [.opened params.room params.user] := by
    rw [List.filter_append]
    simp [Connection.opened]
  refine connect_eq_some.mpr ⟨_, _, admitted,
    ⟨unlocked_restrict unlocked, restrict_routesRelease released⟩, ?_⟩
  rw [← number]
  simp only [restrict, connections, restrict_register, List.map_append]
  rfl

theorem restrict_connect_of_ne {params : WsParams} (taken : g.connect params = some next)
    (other : params.room ≠ room) : next.restrict room names = g.restrict room names := by
  obtain ⟨_, user, admitted, _, rfl⟩ := connect_eq_some.mp taken
  obtain ⟨_, _, rfl, rfl⟩ := wsHandler_eq_ok.mp admitted
  have connections : (g.connections ++ [Connection.opened params.room params.user]).filter
      (fun connection => connection.room = room) =
        g.connections.filter fun connection => connection.room = room := by
    rw [List.filter_append]
    simp [Connection.opened, other]
  simp only [restrict, connections, restrict_register_of_ne (Ne.symm other)]

/-- A step is to a room what its events are to the gateway that has only the room. -/
theorem restrict_step {event : Event} (sound : Sound g) (taken : g.step event = some next)
    (numbers : Numbers next room names) :
    run roomStep (g.restrict room names) (roomEvents room g event) =
      some (next.restrict room names) := by
  have numbers' := numbers.before taken
  cases event with
  | connect params =>
    exact run_ownEvent rfl (restrict_connect numbers taken) (restrict_connect_of_ne taken)
  | exit id =>
    obtain ⟨connection, here, running, rfl⟩ := exit_eq_some.mp taken
    refine run_ownEvent (congrArg (Option.map _) here) (fun inside => ?_) fun outside => ?_
    · have moved : (g.setConnection id { connection with phase := .exited }).restrict room names = _ :=
        numbers'.setConnection here inside inside
      rw [← numbers'.connection id (lt_length_of_found here)]
      exact exit_eq_some.mpr ⟨_, numbers'.found here inside, running, moved.symm⟩
    · exact restrict_setConnection_of_ne here outside outside
  | cleanup id =>
    obtain ⟨connection, here, exited, rfl⟩ := cleanup_eq_some.mp taken
    refine run_ownEvent (congrArg (Option.map _) here) (fun inside => ?_) fun outside => ?_
    · have moved : (g.setConnection id { connection with phase := .closed }).restrict room names = _ :=
        numbers'.setConnection here inside inside
      rw [← numbers'.connection id (lt_length_of_found here)]
      refine cleanup_eq_some.mpr ⟨_, numbers'.found here inside, exited, ?_⟩
      subst inside
      exact (restrict_setRegistry moved restrict_unregister).symm
    · have moved : (g.setConnection id { connection with phase := .closed }).restrict room names = _ :=
        restrict_setConnection_of_ne here outside outside
      exact restrict_setRegistry moved (restrict_unregister_of_ne (Ne.symm outside))
  | datagram data =>
    cases taken
    rw [datagram_eq]
    exact restrict_receive data.val
  | frame other data =>
    obtain ⟨_, _, _, rfl⟩ := frame_eq_some.mp taken
    exact restrict_receive data
  | recv id =>
    obtain ⟨connection, item, queue, here, running, front, rfl⟩ := recv_eq_some.mp taken
    refine run_ownEvent (congrArg (Option.map _) here) (fun inside => ?_) fun outside => ?_
    · have moved : (g.setConnection id { connection with
          channel := { connection.channel with queue } }).restrict room names = _ :=
        numbers'.setConnection here inside inside
      rw [← numbers'.connection id (lt_length_of_found here)]
      refine recv_eq_some.mpr ⟨_, item.renumber names, queue.map fun item => item.renumber names,
        numbers'.found here inside, running, ?_, ?_⟩
      · exact (congrArg (List.map _) front).trans List.map_cons
      · exact moved.symm
    · exact restrict_setConnection_of_ne here outside outside
  | route packet =>
    obtain ⟨task, here, routed⟩ := routed taken
    have fits := sound.tasks task (List.mem_of_getElem? here)
    refine run_ownEvent (congrArg (Option.map _) here) (fun own => ?_) fun other => ?_
    · rw [← numbers'.packet packet (lt_length_of_found here)]
      exact restrict_route numbers' here own fits taken
    · exact restrict_route_of_ne here other fits routed
  | visit packet user =>
    have visited := taken
    obtain ⟨task, _, _, here, _, _, rfl⟩ := visit_eq_some taken
    refine run_ownEvent (congrArg (Option.map _) here) (fun own => ?_) fun other => ?_
    · rw [← numbers'.packet packet (lt_length_of_found here)]
      exact restrict_visit numbers' here own visited
    · exact restrict_setRoute_of_ne here other _
  | retry n =>
    obtain ⟨task, here, retried⟩ := retried taken
    have named := (sound.retries task (List.mem_of_getElem? here)).1
    exact run_ownEvent (congrArg (Option.map _) here)
      (fun own => restrict_retry numbers' here own named taken)
      fun other => restrict_retry_of_ne here other named retried
  | disconnect n =>
    obtain ⟨task, here, failed, rfl⟩ := disconnect_eq_some.mp taken
    refine run_ownEvent (congrArg (Option.map _) here) (fun own => ?_) fun other => ?_
    · refine disconnect_eq_some.mpr ⟨_, found_restrict_retry here own, failed, ?_⟩
      subst own
      exact (restrict_setRegistry (restrict_setRetry here rfl _) restrict_unregister).symm
    · exact restrict_setRegistry (restrict_setRetry_of_ne here other _)
        (restrict_unregister_of_ne (Ne.symm other))
  | testEmpty call =>
    obtain ⟨registry, tested, rfl⟩ := testEmpty_eq_some.mp taken
    obtain ⟨concerned, found, _⟩ := Registry.testEmpty_eq_some.mp tested
    refine run_ownEvent (congrArg (Option.map _) found) (fun own => ?_) fun other => ?_
    · cases own
      exact testEmpty_eq_some.mpr ⟨_, restrict_testEmpty found tested, rfl⟩
    · exact restrict_setRegistry rfl (restrict_testEmpty_of_ne other found tested)
  | removeIf call =>
    obtain ⟨released, registry, removed, rfl⟩ := removeIf_eq_some.mp taken
    obtain ⟨concerned, found, _, _⟩ := Registry.removeIf_eq_some.mp removed
    refine run_ownEvent (congrArg (Option.map _) found) (fun own => ?_) fun other => ?_
    · cases own
      refine removeIf_eq_some.mpr ⟨?_, _, restrict_removeIf found removed, rfl⟩
      intro unregister member
      have same := (getElem?_filter_ordinal found (decide_eq_true rfl)).symm.trans member
      cases same
      exact restrict_routesRelease (released _ found)
    · exact restrict_setRegistry rfl (restrict_removeIf_of_ne other found removed)
  | tick elapsed =>
    cases taken
    exact run_cons.mpr ⟨_, rfl, rfl⟩

end Steps

section Runs

variable {g final : Gateway}

theorem restrict_run {room : RoomID} {names : Numbering} {events : List Event} (sound : Sound g)
    (ran : run step g events = some final) (numbers : Numbers final room names) :
    run roomStep (g.restrict room names) (record step (roomEvents room) g events) =
      some (final.restrict room names) ∧ Numbers g room names := by
  induction events generalizing g with
  | nil =>
    cases ran
    exact ⟨rfl, numbers⟩
  | cons event rest ih =>
    obtain ⟨next, taken, ran⟩ := run_cons.mp ran
    obtain ⟨onward, between⟩ := ih (sound_step g event next sound taken) ran
    refine ⟨?_, between.before taken⟩
    rw [record_cons taken, run_append, restrict_step sound taken between]
    exact onward

/-- What a run does to a room is a run of a gateway that has only this room. -/
theorem room_projected (room : RoomID) (events : List Event) (g : Gateway)
    (ran : run step new events = some g) :
    run roomStep new (record step (roomEvents room) new events) = some (g.only room) :=
  (restrict_run sound_new ran ⟨fun _ _ => rfl, fun _ _ => rfl⟩).1

def toAnn : Bytes :=
  [2, 2, 2, 0, 114, 49, 0, 0, 0, 0, 97, 110, 110, 0, 0, 0, 0, 0, 0, 0, 0, 0, 0, 0]

def acrossRooms : List Event :=
  [.connect ⟨"r2", "bob"⟩, .connect ⟨"r1", "ann"⟩, .frame 0 toAnn, .route 0, .route 0, .route 0,
    .recv 1, .exit 0]

theorem room_projected_across :
    ∃ g, run step new acrossRooms = some g ∧
      run roomStep new [.own (.connect ⟨"r1", "ann"⟩), .arrive toAnn, .own (.route 0), .own (.route 0),
        .own (.route 0), .own (.recv 0)] = some (g.only "r1") := by
  have runs : (run step new acrossRooms).isSome = true := by decide +kernel
  obtain ⟨g, ran⟩ := Option.isSome_iff_exists.mp runs
  have recorded : record step (roomEvents "r1") new acrossRooms = [.own (.connect ⟨"r1", "ann"⟩),
      .arrive toAnn, .own (.route 0), .own (.route 0), .own (.route 0), .own (.recv 0)] := rfl
  have projected := room_projected "r1" acrossRooms g ran
  rw [recorded] at projected
  exact ⟨g, ran, projected⟩

end Runs

end Gateway

end WsGateway
