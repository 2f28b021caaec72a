import WsGateway.Protocol.RoundTrip
import WsGateway.Gateway.Lifecycle

/-! Where the items in outbound queues come from.

Every accepted inbound packet is an arrival. Targets, retries and histories are
tied to the arrival they stem from and to the names of the connection they are
for; both survive every step, because connections keep their names and
arrivals are only added.
-/

set_option autoImplicit false

namespace WsGateway.Gateway
open Foundation Protocol Routing

section Arrivals

/-- An inbound byte string that the decoder accepted, with what it decoded to. -/
structure Arrival where
  raw : Bytes
  header : PacketHeader
  payload : Bytes

def arrivals (g : Gateway) : List Arrival :=
  g.routes.map fun task => ⟨task.raw, task.header, task.payload⟩

def accept (raw : Bytes) : List Arrival :=
  match PacketHeader.decode raw with
  | .ok (header, payload) => [⟨raw, header, payload⟩]
  | .error _ | .abort => []

def Event.arrivals : Event → List Arrival
  | .datagram data => accept data.val
  | .frame _ data => accept data
  | _ => []

def Arrival.Addresses (arrival : Arrival) (key : Key) : Prop :=
  arrival.header.roomIdStr = key.1 ∧
    (arrival.header.targetType = .broadcast ∨
      arrival.header.targetType = .unicast ∧ arrival.header.userIdStr = key.2)

variable {g next : Gateway}

theorem arrival_of_found {packet : PacketId} {task : RouteTask}
    (found : g.routes[packet]? = some task) :
    g.arrivals[packet]? = some ⟨task.raw, task.header, task.payload⟩ := by
  rw [arrivals, List.getElem?_map, found]
  rfl

theorem mem_accept {raw : Bytes} {arrival : Arrival} :
    arrival ∈ accept raw ↔ arrival.raw = raw ∧
      PacketHeader.decode arrival.raw = .ok (arrival.header, arrival.payload) := by
  unfold accept
  split
  next header payload decoded =>
    rw [List.mem_singleton]
    constructor
    · rintro rfl
      exact ⟨rfl, decoded⟩
    · rintro ⟨rfl, decoded'⟩
      rw [decoded] at decoded'
      cases decoded'
      rfl
  all_goals
    rename_i refused
    simp only [List.not_mem_nil, false_iff, not_and]
    rintro rfl decoded
    rw [refused] at decoded
    cases decoded

theorem receive_eq (g : Gateway) (raw : Bytes) :
    g.receive raw = { g with
      routes := g.routes ++ (accept raw).map fun arrival =>
        ⟨arrival.raw, arrival.header, arrival.payload, .start⟩ } := by
  unfold receive accept
  cases PacketHeader.decode raw with
  | ok packet => rfl
  | error reason => simp
  | abort => simp

theorem datagram_eq (g : Gateway) (data : Datagram) : g.datagram data = g.receive data.val := by
  rw [datagram, List.take_of_length_le]
  have bound := data.property
  rw [udpBufferLen]
  omega

theorem arrivals_receive (g : Gateway) (raw : Bytes) :
    (g.receive raw).arrivals = g.arrivals ++ accept raw := by
  rw [receive_eq, arrivals, arrivals, List.map_append, List.map_map]
  congr 1
  exact List.map_id' _

@[simp] theorem arrivals_setRoute (g : Gateway) (packet : PacketId) (phase : RoutePhase) :
    (g.setRoute packet phase).arrivals = g.arrivals := by
  apply List.ext_getElem?
  intro other
  simp only [arrivals, setRoute, List.getElem?_map, List.getElem?_modify]
  cases g.routes[other]? with
  | none => rfl
  | some task => by_cases same : packet = other <;> simp [same]

theorem arrivals_dispatched {packet : PacketId} {task : RouteTask} {target : Target}
    (dispatched : Dispatched g packet task target next) : next.arrivals = g.arrivals := by
  cases dispatched <;> rfl

theorem arrivals_routed {packet : PacketId} {task : RouteTask} (routed : Routed g packet task next) :
    next.arrivals = g.arrivals := by
  cases routed with
  | dispatched _ dispatched => rw [arrivals_setRoute, arrivals_dispatched dispatched]
  | _ => exact arrivals_setRoute _ _ _

theorem arrivals_retried {id : Nat} {task : RetryTask} (retried : Retried g id task next) :
    next.arrivals = g.arrivals := by
  cases retried <;> rfl

theorem arrivals_step {event : Event} (taken : g.step event = some next) :
    next.arrivals = g.arrivals ++ event.arrivals := by
  cases event with
  | connect params =>
    obtain ⟨_, _, _, _, rfl⟩ := connect_eq_some.mp taken
    exact (List.append_nil _).symm
  | exit id =>
    obtain ⟨_, _, _, rfl⟩ := exit_eq_some.mp taken
    exact (List.append_nil _).symm
  | cleanup id =>
    obtain ⟨_, _, _, rfl⟩ := cleanup_eq_some.mp taken
    exact (List.append_nil _).symm
  | datagram data =>
    cases taken
    rw [datagram_eq, arrivals_receive]
    rfl
  | frame id data =>
    obtain ⟨_, _, _, rfl⟩ := frame_eq_some.mp taken
    exact arrivals_receive g data
  | recv id =>
    obtain ⟨_, _, _, _, _, _, rfl⟩ := recv_eq_some.mp taken
    exact (List.append_nil _).symm
  | route packet =>
    obtain ⟨_, _, routed⟩ := routed taken
    rw [arrivals_routed routed]
    exact (List.append_nil _).symm
  | visit packet user =>
    obtain ⟨_, _, _, _, _, _, rfl⟩ := visit_eq_some taken
    rw [arrivals_setRoute]
    exact (List.append_nil _).symm
  | retry id =>
    obtain ⟨_, _, retried⟩ := retried taken
    rw [arrivals_retried retried]
    exact (List.append_nil _).symm
  | disconnect id =>
    obtain ⟨_, _, _, rfl⟩ := disconnect_eq_some.mp taken
    exact (List.append_nil _).symm
  | testEmpty call =>
    obtain ⟨_, _, rfl⟩ := testEmpty_eq_some.mp taken
    exact (List.append_nil _).symm
  | removeIf call =>
    obtain ⟨_, _, _, rfl⟩ := removeIf_eq_some.mp taken
    exact (List.append_nil _).symm
  | tick elapsed =>
    cases taken
    exact (List.append_nil _).symm

end Arrivals

section Provenance

def Targets (g : Gateway) (header : PacketHeader) (target : Target) : Prop :=
  g.keys[target.2]? = some (header.roomIdStr, target.1) ∧
    (header.targetType = .unicast → target.1 = header.userIdStr)

/-- A task iterates over a room only for a broadcast, and holds only such targets. -/
def Fits (g : Gateway) (header : PacketHeader) : RoutePhase → Prop
  | .snapshot _ targets =>
    header.targetType = .broadcast ∧ ∀ target ∈ targets, g.Targets header target
  | .dispatching targets => ∀ target ∈ targets, g.Targets header target
  | .start | .lookup | .done => True

/-- The item is an arrival, byte for byte, that is addressed to the connection. -/
def Deliverable (g : Gateway) (item : Outbound) (id : ConnectionId) : Prop :=
  ∃ arrival key, g.arrivals[item.packet]? = some arrival ∧ item.bytes = arrival.raw ∧
    g.keys[id]? = some key ∧ arrival.Addresses key

-- The senders in the registry, in targets and in retries belong to connections of
-- the names they are kept under, and what is queued was accepted in that order.
structure Sound (g : Gateway) : Prop where
  entries : ∀ key id, g.entries key = some id → g.keys[id]? = some key
  decoded : ∀ arrival ∈ g.arrivals,
    PacketHeader.decode arrival.raw = .ok (arrival.header, arrival.payload)
  tasks : ∀ task ∈ g.routes, g.Fits task.header task.phase
  retries : ∀ task ∈ g.retries, g.keys[task.tx]? = some (task.room, task.user) ∧
    g.Deliverable task.item task.tx
  accepted : ∀ id connection, g.connections[id]? = some connection →
    ∀ item ∈ connection.accepted, g.Deliverable item id
  queued : ∀ connection ∈ g.connections, connection.channel.queue <:+ connection.accepted

variable {g next : Gateway}

theorem Targets.mono {header : PacketHeader} {target : Target} (targets : g.Targets header target)
    (keys : g.keys <+: next.keys) : next.Targets header target :=
  ⟨IsPrefix.getElem?_eq_some keys targets.1, targets.2⟩

theorem Fits.mono {header : PacketHeader} {phase : RoutePhase} (fits : g.Fits header phase)
    (keys : g.keys <+: next.keys) : next.Fits header phase := by
  cases phase with
  | snapshot unvisited targets =>
    exact ⟨fits.1, fun target inside => (fits.2 target inside).mono keys⟩
  | dispatching targets => exact fun target inside => (fits target inside).mono keys
  | start => trivial
  | lookup => trivial
  | done => trivial

theorem Deliverable.mono {item : Outbound} {id : ConnectionId} (deliverable : g.Deliverable item id)
    (keys : g.keys <+: next.keys) (arrivals : g.arrivals <+: next.arrivals) :
    next.Deliverable item id := by
  obtain ⟨arrival, key, arrived, bytes, under, addresses⟩ := deliverable
  exact ⟨arrival, key, IsPrefix.getElem?_eq_some arrivals arrived, bytes,
    IsPrefix.getElem?_eq_some keys under, addresses⟩

theorem sound_new : Sound new where
  entries := by rintro key id ⟨⟩
  decoded := by rintro arrival ⟨⟩
  tasks := by rintro task ⟨⟩
  retries := by rintro task ⟨⟩
  accepted := by rintro id connection ⟨⟩
  queued := by rintro connection ⟨⟩

/-- A step that adds no entry, no arrival, no target and no accepted item. -/
theorem Sound.frame (sound : Sound g) (entries : ∀ key id, next.entries key = some id →
      g.entries key = some id)
    (keys : next.keys = g.keys) (routes : next.routes = g.routes)
    (retries : ∀ task ∈ next.retries, ∃ old ∈ g.retries, ∃ phase, task = { old with phase })
    (connections : ∀ (id : ConnectionId) (connection : Connection),
      next.connections[id]? = some connection →
      ∃ old : Connection, g.connections[id]? = some old ∧ connection.accepted = old.accepted ∧
        connection.channel.queue <:+ old.channel.queue) : Sound next := by
  have arrivals : next.arrivals = g.arrivals := by rw [Gateway.arrivals, routes, Gateway.arrivals]
  have deliverable {item : Outbound} {id : ConnectionId} (before : g.Deliverable item id) :
      next.Deliverable item id :=
    before.mono (keys ▸ List.prefix_rfl) (arrivals ▸ List.prefix_rfl)
  constructor
  · intro key id entry
    rw [keys]
    exact sound.entries key id (entries key id entry)
  · rw [arrivals]
    exact sound.decoded
  · rw [routes]
    exact fun task member => (sound.tasks task member).mono (keys ▸ List.prefix_rfl)
  · intro task member
    obtain ⟨old, before, phase, rfl⟩ := retries task member
    have ⟨under, item⟩ := sound.retries old before
    exact ⟨by rw [keys]; exact under, deliverable item⟩
  · intro id connection found item member
    obtain ⟨old, before, accepted, _⟩ := connections id connection found
    rw [accepted] at member
    exact deliverable (sound.accepted id old before item member)
  · intro connection member
    obtain ⟨id, found⟩ := List.mem_iff_getElem?.mp member
    obtain ⟨old, before, accepted, queue⟩ := connections id connection found
    rw [accepted]
    exact queue.trans (sound.queued old (List.mem_of_getElem? before))

theorem keys_setConnection {id : ConnectionId} {connection connection' : Connection}
    (found : g.connections[id]? = some connection) (key : connection'.key = connection.key) :
    (g.setConnection id connection').keys = g.keys := by
  rw [keys, setConnection, List.map_set, key]
  exact set_found (keys_of_found found)

theorem Sound.setConnection (sound : Sound g) {id : ConnectionId}
    {connection connection' : Connection} (found : g.connections[id]? = some connection)
    (key : connection'.key = connection.key) (accepted : connection'.accepted = connection.accepted)
    (queue : connection'.channel.queue <:+ connection.channel.queue) :
    Sound (g.setConnection id connection') := by
  refine sound.frame (fun _ _ entry => entry) (keys_setConnection found key) rfl
    (fun task member => ⟨task, member, task.phase, rfl⟩) ?_
  intro other current here
  rcases (getElem?_set_eq_some found).mp here with ⟨rfl, rfl⟩ | ⟨_, kept⟩
  · exact ⟨connection, found, accepted, queue⟩
  · exact ⟨current, kept, rfl, List.suffix_rfl⟩

theorem Sound.setRetry (sound : Sound g) (id : Nat) (phase : RetryPhase) :
    Sound (g.setRetry id phase) := by
  refine sound.frame (fun _ _ entry => entry) rfl rfl ?_
    (fun _ connection found => ⟨connection, found, rfl, List.suffix_rfl⟩)
  intro task member
  rcases mem_modify member with kept | ⟨old, found, rfl⟩
  · exact ⟨task, kept, task.phase, rfl⟩
  · exact ⟨old, List.mem_of_getElem? found, phase, rfl⟩

theorem Sound.setRegistry (sound : Sound g) (registry : Registry ConnectionId)
    (entries : ∀ key id, registry.rooms.flat key = some id → g.entries key = some id) :
    Sound { g with registry } :=
  sound.frame entries rfl rfl (fun task member => ⟨task, member, task.phase, rfl⟩)
    (fun _ connection found => ⟨connection, found, rfl, List.suffix_rfl⟩)

theorem entries_of_unregister (key : Key) {key' : Key} {id : ConnectionId}
    (entry : (g.registry.unregister key.1 key.2).rooms.flat key' = some id) :
    g.entries key' = some id := by
  rw [entries_unregister, Function.update_apply] at entry
  split at entry
  · cases entry
  · exact entry

theorem Sound.setRoute (sound : Sound g) {packet : PacketId} {task : RouteTask}
    (found : g.routes[packet]? = some task) {phase : RoutePhase}
    (fits : g.Fits task.header phase) : Sound (g.setRoute packet phase) where
  entries := sound.entries
  decoded := by
    rw [arrivals_setRoute]
    exact sound.decoded
  tasks := by
    intro changed member
    rcases mem_modify member with kept | ⟨old, before, rfl⟩
    · exact (sound.tasks changed kept).mono List.prefix_rfl
    · rw [found] at before
      cases before
      exact fits.mono List.prefix_rfl
  retries := fun retry member =>
    have ⟨under, item⟩ := sound.retries retry member
    ⟨under, item.mono List.prefix_rfl (arrivals_setRoute g packet phase ▸ List.prefix_rfl)⟩
  accepted := fun id connection here item member =>
    (sound.accepted id connection here item member).mono List.prefix_rfl
      (arrivals_setRoute g packet phase ▸ List.prefix_rfl)
  queued := sound.queued

/-- A deliverable item enters a queue. -/
theorem Sound.accepts (sound : Sound g) {id : ConnectionId} {connection connection' : Connection}
    {item : Outbound} (found : g.connections[id]? = some connection)
    (accepts : connection.Accepts connection' item) (deliverable : g.Deliverable item id) :
    Sound (g.setConnection id connection') := by
  have keys : (g.setConnection id connection').keys = g.keys := keys_setConnection found accepts.key
  have kept {item : Outbound} {id' : ConnectionId} (before : g.Deliverable item id') :
      Deliverable (g.setConnection id connection') item id' :=
    before.mono (keys ▸ List.prefix_rfl) List.prefix_rfl
  constructor
  · rw [keys]
    exact sound.entries
  · exact sound.decoded
  · exact fun task member => (sound.tasks task member).mono (keys ▸ List.prefix_rfl)
  · rw [keys]
    exact fun task member => (sound.retries task member).imp_right kept
  · intro other current here entered member
    rcases (getElem?_set_eq_some found).mp here with ⟨rfl, rfl⟩ | ⟨_, before⟩
    · rw [accepts.accepted, List.mem_append, List.mem_singleton] at member
      rcases member with before | rfl
      · exact kept (sound.accepted id connection found entered before)
      · exact kept deliverable
    · exact kept (sound.accepted other current before entered member)
  · intro current member
    rcases mem_set found member with rfl | before
    · rw [accepts.accepted]
      obtain ⟨front, same⟩ := sound.queued connection (List.mem_of_getElem? found)
      exact accepts.queue.trans ⟨front, by rw [← List.append_assoc, same]⟩
    · exact sound.queued current before

theorem Sound.spawn (sound : Sound g) {task : RetryTask}
    (under : g.keys[task.tx]? = some (task.room, task.user))
    (deliverable : g.Deliverable task.item task.tx) :
    Sound { g with retries := g.retries ++ [task] } where
  entries := sound.entries
  decoded := sound.decoded
  tasks := fun task member => (sound.tasks task member).mono List.prefix_rfl
  retries := by
    intro other member
    rcases List.mem_append.mp member with before | new
    · exact sound.retries other before
    · rw [List.mem_singleton] at new
      subst new
      exact ⟨under, deliverable⟩
  accepted := sound.accepted
  queued := sound.queued

theorem Sound.receive (sound : Sound g) (raw : Bytes) : Sound (g.receive raw) := by
  have arrivals := arrivals_receive g raw
  have keys : (g.receive raw).keys = g.keys := by rw [keys, receive_connections, keys]
  have kept {item : Outbound} {id : ConnectionId} (before : g.Deliverable item id) :
      Deliverable (g.receive raw) item id :=
    before.mono (keys ▸ List.prefix_rfl) (arrivals ▸ List.prefix_append _ _)
  have retries : (g.receive raw).retries = g.retries := by rw [receive_eq]
  constructor
  · rw [Gateway.entries, receive_registry, keys]
    exact sound.entries
  · intro arrival member
    rw [arrivals, List.mem_append] at member
    rcases member with before | new
    · exact sound.decoded arrival before
    · exact (mem_accept.mp new).2
  · intro task member
    rw [receive_eq] at member
    rcases List.mem_append.mp member with before | new
    · exact (sound.tasks task before).mono (keys ▸ List.prefix_rfl)
    · obtain ⟨arrival, _, rfl⟩ := List.mem_map.mp new
      trivial
  · rw [retries, keys]
    exact fun task member => (sound.retries task member).imp_right kept
  · rw [receive_connections]
    exact fun id connection found item member => kept (sound.accepted id connection found item member)
  · rw [receive_connections]
    exact sound.queued

theorem Sound.connect (sound : Sound g) {room : RoomID} {user : UserID}
    (registry : next.registry = g.registry.register room user g.connections.length)
    (connections : next.connections = g.connections ++ [.opened room user])
    (routes : next.routes = g.routes) (retries : next.retries = g.retries) : Sound next := by
  have keys : next.keys = g.keys ++ [(room, user)] := by
    rw [Gateway.keys, connections, List.map_append]
    rfl
  have before : g.keys <+: next.keys := ⟨_, keys.symm⟩
  have arrivals : next.arrivals = g.arrivals := by rw [Gateway.arrivals, routes, Gateway.arrivals]
  have kept {item : Outbound} {id : ConnectionId} (deliverable : g.Deliverable item id) :
      next.Deliverable item id :=
    deliverable.mono before (arrivals ▸ List.prefix_rfl)
  constructor
  -- The registered number is the next free one, which `keys` now holds as well.
  · intro key id entry
    rw [Gateway.entries, registry, Registry.register, NestedMap.flat_put, Function.update_apply] at entry
    split at entry
    next same =>
      cases entry
      rw [keys, same]
      simp
    next => exact IsPrefix.getElem?_eq_some before (sound.entries key id entry)
  · rw [arrivals]
    exact sound.decoded
  · rw [routes]
    exact fun task member => (sound.tasks task member).mono before
  · rw [retries]
    exact fun task member =>
      (sound.retries task member).imp (IsPrefix.getElem?_eq_some before) kept
  · rw [connections]
    intro id connection found item member
    rcases getElem?_concat_eq_some.mp found with old | ⟨_, rfl⟩
    · exact kept (sound.accepted id connection old item member)
    · cases member
  · rw [connections]
    intro connection member
    rcases List.mem_append.mp member with old | new
    · exact sound.queued connection old
    · rw [List.mem_singleton] at new
      subst new
      exact List.suffix_rfl

theorem fits_resolve (g : Gateway) (header : PacketHeader) : g.Fits header (g.resolve header) := by
  unfold resolve
  split
  next => trivial
  next =>
    split
    next broadcast => exact ⟨broadcast, by simp⟩
    next => trivial

/-- The item a task puts into queues is its arrival: encoding undoes decoding. -/
theorem deliverable_outbound (sound : Sound g) {packet : PacketId} {task : RouteTask}
    {target : Target} (found : g.routes[packet]? = some task)
    (targets : g.Targets task.header target) : g.Deliverable (outbound packet task) target.2 := by
  have arrived := arrival_of_found found
  -- The task encodes the header again; on accepted bytes this is the identity.
  have decoded := sound.decoded _ (List.mem_of_getElem? arrived)
  refine ⟨_, _, arrived, PacketHeader.encode_decode decoded, targets.1, rfl, ?_⟩
  cases type : task.header.targetType with
  | broadcast => exact Or.inl rfl
  | unicast => exact Or.inr ⟨rfl, (targets.2 type).symm⟩

theorem routes_dispatched {packet : PacketId} {task : RouteTask} {target : Target}
    (dispatched : Dispatched g packet task target next) : next.routes = g.routes := by
  cases dispatched <;> rfl

theorem Sound.dispatched (sound : Sound g) {packet : PacketId} {task : RouteTask} {target : Target}
    (found : g.routes[packet]? = some task) (targets : g.Targets task.header target)
    (dispatched : Dispatched g packet task target next) : Sound next := by
  have deliverable := deliverable_outbound sound found targets
  cases dispatched with
  | sent here _ sent => exact sound.accepts here (Connection.accepts_of_trySend sent) deliverable
  | forced here _ => exact sound.accepts here (Connection.accepts_sendDropOldest _ _) deliverable
  | refused => exact sound.spawn targets.1 deliverable
  | dropped => exact sound

theorem Sound.routed (sound : Sound g) {packet : PacketId} {task : RouteTask}
    (found : g.routes[packet]? = some task) (routed : Routed g packet task next) : Sound next := by
  have fits := sound.tasks task (List.mem_of_getElem? found)
  cases routed with
  | resolved => exact sound.setRoute found (fits_resolve g task.header)
  | collected phase =>
    rw [phase] at fits
    exact sound.setRoute found fits.2
  | found _ here =>
    refine sound.setRoute found fun target inside => ?_
    rw [List.mem_singleton] at inside
    subst inside
    exact ⟨sound.entries (task.header.roomIdStr, task.header.userIdStr) _ here, fun _ => rfl⟩
  | missing => exact sound.setRoute found trivial
  | dispatched phase dispatched =>
    rw [phase] at fits
    have middle := sound.dispatched found (fits _ List.mem_cons_self) dispatched
    have keys := keys_of_profile (dispatched_quiet dispatched).2
    refine middle.setRoute (by rw [routes_dispatched dispatched]; exact found) fun target inside => ?_
    exact (fits target (List.mem_cons_of_mem _ inside)).mono (keys ▸ List.prefix_rfl)
  | returned => exact sound.setRoute found trivial

theorem Sound.visited (sound : Sound g) {packet : PacketId} {user : UserID}
    (taken : g.visit packet user = some next) : Sound next := by
  obtain ⟨task, unvisited, collected, found, phase, _, rfl⟩ := visit_eq_some taken
  have fits := sound.tasks task (List.mem_of_getElem? found)
  rw [phase] at fits
  refine sound.setRoute found ⟨fits.1, fun target inside => ?_⟩
  rcases List.mem_append.mp inside with before | new
  · exact fits.2 target before
  · obtain ⟨tx, here, rfl⟩ := List.mem_map.mp new
    refine ⟨sound.entries (task.header.roomIdStr, user) tx (Option.mem_toList.mp here), ?_⟩
    intro unicast
    rw [fits.1] at unicast
    cases unicast

theorem Sound.retried (sound : Sound g) {id : Nat} {task : RetryTask}
    (found : g.retries[id]? = some task) (retried : Retried g id task next) : Sound next := by
  have ⟨_, deliverable⟩ := sound.retries task (List.mem_of_getElem? found)
  cases retried with
  | delivered _ here sent =>
    exact (sound.accepts here (Connection.accepts_of_trySend sent) deliverable).setRetry id _
  | started => exact sound.setRetry id _
  | refused => exact sound.setRetry id _
  | expired => exact sound.setRetry id _
  | paused => exact sound.setRetry id _
  | woken => exact sound.setRetry id _

theorem sound_step : Invariant step Sound := by
  intro g event next sound taken
  cases event with
  | connect params =>
    obtain ⟨room, user, _, _, rfl⟩ := connect_eq_some.mp taken
    exact sound.connect rfl rfl rfl rfl
  | exit id =>
    obtain ⟨connection, found, _, rfl⟩ := exit_eq_some.mp taken
    exact sound.setConnection found rfl rfl List.suffix_rfl
  | cleanup id =>
    obtain ⟨connection, found, _, rfl⟩ := cleanup_eq_some.mp taken
    have closed : Sound (g.setConnection id { connection with phase := .closed }) :=
      sound.setConnection found rfl rfl List.suffix_rfl
    exact closed.setRegistry _ fun _ _ entry => entries_of_unregister connection.key entry
  | datagram data =>
    cases taken
    rw [datagram_eq]
    exact sound.receive data.val
  | frame id data =>
    obtain ⟨_, _, _, rfl⟩ := frame_eq_some.mp taken
    exact sound.receive data
  | recv id =>
    obtain ⟨connection, item, queue, found, _, front, rfl⟩ := recv_eq_some.mp taken
    exact sound.setConnection found rfl rfl (front ▸ List.suffix_cons item queue)
  | route packet =>
    obtain ⟨task, found, routed⟩ := Gateway.routed taken
    exact sound.routed found routed
  | visit packet user => exact sound.visited taken
  | retry id =>
    obtain ⟨task, found, retried⟩ := Gateway.retried taken
    exact sound.retried found retried
  | disconnect id =>
    obtain ⟨task, found, _, rfl⟩ := disconnect_eq_some.mp taken
    exact (sound.setRetry id _).setRegistry _ fun _ _ entry =>
      entries_of_unregister (task.room, task.user) entry
  | testEmpty call =>
    obtain ⟨registry, tested, rfl⟩ := testEmpty_eq_some.mp taken
    obtain ⟨_, _, rfl⟩ := Registry.testEmpty_eq_some.mp tested
    exact sound.setRegistry _ fun _ _ entry => entry
  | removeIf call =>
    obtain ⟨_, registry, removed, rfl⟩ := removeIf_eq_some.mp taken
    obtain ⟨_, _, _, rfl⟩ := Registry.removeIf_eq_some.mp removed
    refine sound.setRegistry _ fun key id entry => ?_
    rwa [NestedMap.flat_prune] at entry
  | tick elapsed =>
    cases taken
    exact sound.frame (fun _ _ entry => entry) rfl rfl
      (fun task member => ⟨task, member, task.phase, rfl⟩)
      (fun _ connection found => ⟨connection, found, rfl, List.suffix_rfl⟩)

end Provenance

end WsGateway.Gateway
