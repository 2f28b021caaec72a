import WsGateway.Protocol.Header
import WsGateway.Routing.Channel
import WsGateway.Routing.Registry

/-! The running gateway: connections, the registry, route tasks and retries.

A sender is the number of the connection whose channel it belongs to, since
`handle_ws_connection` makes one channel and registers it under one pair of
names. A route task keeps the shared lock of its room from the lookup to the
end of `route`. What no step reads is marked as history.
-/

set_option autoImplicit false

namespace WsGateway
open Foundation Protocol Routing

section Admission

structure WsParams where
  room : String
  user : String
  deriving DecidableEq, Repr

/-- The checks before the upgrade: the accepted names, or the text of the
`400 Bad Request` response. -/
def wsHandler (params : WsParams) : Except String (RoomID × UserID) :=
  if isAscii params.room = false then .error "room must be ASCII"
  else if isAscii params.user = false then .error "user must be ASCII"
  else if roomIdLen < (utf8 params.room).length then .error "room too long"
  else if userIdLen < (utf8 params.user).length then .error "user too long"
  else .ok (params.room, params.user)

/-- The length field of a UDP header counts its own eight bytes. -/
abbrev Datagram := { data : Bytes // data.length ≤ 65527 }

end Admission

section Connections

abbrev ConnectionId := Nat

abbrev PacketId := Nat

/-- The bytes in an outbound queue; the packet they stem from is history. -/
structure Outbound where
  bytes : Bytes
  packet : PacketId
  deriving DecidableEq, Repr

inductive ConnectionPhase where
  /-- In the select loop. -/
  | running
  /-- Out of the loop, before the cleanup. -/
  | exited
  | closed
  deriving DecidableEq, Repr

/-- The task of `handle_ws_connection`. What entered the queue is history. -/
structure Connection where
  room : RoomID
  user : UserID
  channel : ChannelInner Outbound
  accepted : List Outbound
  phase : ConnectionPhase

def wsChannelCapacity : Nat := 64

namespace Connection

def key (connection : Connection) : RoomID × UserID := (connection.room, connection.user)

def opened (room : RoomID) (user : UserID) : Connection where
  room := room
  user := user
  channel := bounded Outbound wsChannelCapacity
  accepted := []
  phase := .running

def trySend (connection : Connection) (item : Outbound) : Except Outbound Connection :=
  (connection.channel.trySend item).map fun channel =>
    { connection with channel, accepted := connection.accepted ++ [item] }

def sendDropOldest (connection : Connection) (item : Outbound) : Connection :=
  { connection with
    channel := connection.channel.sendDropOldest item
    accepted := connection.accepted ++ [item] }

end Connection

end Connections

section Tasks

abbrev Target := UserID × ConnectionId

inductive RoutePhase where
  /-- Spawned. -/
  | start
  /-- Broadcast: users still to visit, and the targets collected. -/
  | snapshot (unvisited : List UserID) (targets : List Target)
  /-- Unicast: before the lookup of the user. -/
  | lookup
  | dispatching (targets : List Target)
  | done
  deriving DecidableEq, Repr

/-- A call of `route`. The decoded bytes are history. -/
structure RouteTask where
  raw : Bytes
  header : PacketHeader
  payload : Bytes
  phase : RoutePhase

def RoutePhase.holdsRoom : RoutePhase → Bool
  | .start | .done => false
  | .snapshot _ _ | .lookup | .dispatching _ => true

inductive RetryPhase where
  | spawned
  /-- Before `try_send`. -/
  | trying (start : Nat)
  /-- `try_send` refused the item. -/
  | full (start : Nat)
  | sleeping (start wake : Nat)
  /-- The budget is used up; the unregister call is to run. -/
  | failed
  | delivered
  | disconnected
  deriving DecidableEq, Repr

structure RetryTask where
  tx : ConnectionId
  room : RoomID
  user : UserID
  item : Outbound
  phase : RetryPhase

/-- Times are in nanoseconds. -/
def millis (count : Nat) : Nat := count * 1000000

end Tasks

structure Gateway where
  registry : Registry ConnectionId
  connections : List Connection
  routes : List RouteTask
  retries : List RetryTask
  now : Nat

namespace Gateway

inductive Event where
  | connect (params : WsParams)
  | exit (connection : ConnectionId)
  | cleanup (connection : ConnectionId)
  | datagram (data : Datagram)
  | frame (connection : ConnectionId) (data : Bytes)
  | recv (connection : ConnectionId)
  | route (packet : PacketId)
  | visit (packet : PacketId) (user : UserID)
  | retry (task : Nat)
  | disconnect (task : Nat)
  | testEmpty (call : Nat)
  | removeIf (call : Nat)
  | tick (elapsed : Nat)

def new : Gateway := ⟨.empty ConnectionId, [], [], [], 0⟩

def setConnection (g : Gateway) (id : ConnectionId) (connection : Connection) : Gateway :=
  { g with connections := g.connections.set id connection }

def setRoute (g : Gateway) (packet : PacketId) (phase : RoutePhase) : Gateway :=
  { g with routes := g.routes.modify packet fun task => { task with phase } }

def setRetry (g : Gateway) (task : Nat) (phase : RetryPhase) : Gateway :=
  { g with retries := g.retries.modify task fun retry => { retry with phase } }

section Lifecycle

def RoutesRelease (g : Gateway) (room : RoomID) : Prop :=
  ∀ task ∈ g.routes, task.header.roomIdStr = room → task.phase.holdsRoom = false

instance (g : Gateway) (room : RoomID) : Decidable (g.RoutesRelease room) :=
  inferInstanceAs (Decidable (∀ task ∈ g.routes, _ → _))

def connect (g : Gateway) (params : WsParams) : Option Gateway :=
  match wsHandler params with
  | .error _ => none
  | .ok (room, user) =>
    if g.registry.Unlocked room ∧ g.RoutesRelease room then
      some { g with
        registry := g.registry.register room user g.connections.length
        connections := g.connections ++ [.opened room user] }
    else none

def exit (g : Gateway) (id : ConnectionId) : Option Gateway :=
  g.connections[id]?.bind fun connection =>
    if connection.phase = .running then
      some (g.setConnection id { connection with phase := .exited })
    else none

/-- The unregister call behind the loop, up to its removal step. -/
def cleanup (g : Gateway) (id : ConnectionId) : Option Gateway :=
  g.connections[id]?.bind fun connection =>
    if connection.phase = .exited then
      some { g.setConnection id { connection with phase := .closed } with
        registry := g.registry.unregister connection.room connection.user }
    else none

def testEmpty (g : Gateway) (call : Nat) : Option Gateway :=
  (g.registry.testEmpty call).map fun registry => { g with registry }

/-- `remove_if` also waits for the route tasks in the room. -/
def removeIf (g : Gateway) (call : Nat) : Option Gateway :=
  if ∀ unregister ∈ g.registry.unregisters[call]?, g.RoutesRelease unregister.room then
    (g.registry.removeIf call).map fun registry => { g with registry }
  else none

end Lifecycle

section Inbound

/-- What both receive loops do with the bytes they read: a route task for a
packet, and only a metric for anything else. -/
def receive (g : Gateway) (raw : Bytes) : Gateway :=
  match PacketHeader.decode raw with
  | .ok (header, payload) => { g with routes := g.routes ++ [⟨raw, header, payload, .start⟩] }
  | .error _ | .abort => g

def udpBufferLen : Nat := 65535

def datagram (g : Gateway) (data : Datagram) : Gateway := g.receive (data.val.take udpBufferLen)

def frame (g : Gateway) (id : ConnectionId) (data : Bytes) : Option Gateway :=
  g.connections[id]?.bind fun connection =>
    if connection.phase = .running then some (g.receive data) else none

def recv (g : Gateway) (id : ConnectionId) : Option Gateway :=
  g.connections[id]?.bind fun connection =>
    if connection.phase = .running then
      connection.channel.popFront.map fun (_, channel) =>
        g.setConnection id { connection with channel }
    else none

end Inbound

section Routing

def outbound (packet : PacketId) (task : RouteTask) : Outbound :=
  ⟨task.header.encode task.payload, packet⟩

def dispatch (g : Gateway) (packet : PacketId) (task : RouteTask) (target : Target) :
    Option Gateway :=
  g.connections[target.2]?.map fun connection =>
    let item := outbound packet task
    match task.header.packetType with
    -- Real-time priority: the oldest item gives way, whatever packet it is.
    | .rawMotion => g.setConnection target.2 (connection.sendDropOldest item)
    -- Reliability priority: a refused item goes to a task of its own.
    | .systemCmd =>
      match connection.trySend item with
      | .ok connection => g.setConnection target.2 connection
      | .error returned =>
        { g with retries := g.retries ++
            [⟨target.2, task.header.roomIdStr, target.1, returned, .spawned⟩] }
    -- Best effort.
    | .aiEvent | .heartbeat =>
      match connection.trySend item with
      | .ok connection => g.setConnection target.2 connection
      | .error _ => g

def resolve (g : Gateway) (header : PacketHeader) : RoutePhase :=
  match AList.lookup header.roomIdStr g.registry.rooms with
  | none => .done
  | some room =>
    match header.targetType with
    | .broadcast => .snapshot room.keys []
    | .unicast => .lookup

/-- The next step of a route task that does not depend on the iteration order. -/
def route (g : Gateway) (packet : PacketId) : Option Gateway :=
  g.routes[packet]?.bind fun task =>
    match task.phase with
    | .start => some (g.setRoute packet (g.resolve task.header))
    | .snapshot [] targets => some (g.setRoute packet (.dispatching targets))
    -- Which user is next is up to the iterator: see `visit`.
    | .snapshot (_ :: _) _ => none
    | .lookup =>
      match g.registry.rooms.find task.header.roomIdStr task.header.userIdStr with
      | some tx => some (g.setRoute packet (.dispatching [(task.header.userIdStr, tx)]))
      | none => some (g.setRoute packet .done)
    | .dispatching (target :: targets) =>
      (g.dispatch packet task target).map (·.setRoute packet (.dispatching targets))
    | .dispatching [] => some (g.setRoute packet .done)
    | .done => none

/-- A broadcast's iterator comes to a user, who may have been removed since the
iteration began. -/
def visit (g : Gateway) (packet : PacketId) (user : UserID) : Option Gateway :=
  g.routes[packet]?.bind fun task =>
    match task.phase with
    | .snapshot unvisited targets =>
      if user ∈ unvisited then
        let found := (g.registry.rooms.find task.header.roomIdStr user).toList.map fun tx => (user, tx)
        some (g.setRoute packet (.snapshot (unvisited.filter (· ≠ user)) (targets ++ found)))
      else none
    | _ => none

end Routing

section Retrying

/-- One step of `send_timeout` with its budget of 50 ms and pauses of 5 ms. -/
def retry (g : Gateway) (id : Nat) : Option Gateway :=
  g.retries[id]?.bind fun task =>
    match task.phase with
    | .spawned => some (g.setRetry id (.trying g.now))
    | .trying start =>
      g.connections[task.tx]?.map fun connection =>
        match connection.trySend task.item with
        | .ok connection => (g.setConnection task.tx connection).setRetry id .delivered
        | .error _ => g.setRetry id (.full start)
    -- The clock is read after the refusal, so a pause may overrun the budget.
    | .full start =>
      if millis 50 ≤ g.now - start then some (g.setRetry id .failed)
      else some (g.setRetry id (.sleeping start (g.now + millis 5)))
    | .sleeping start wake => if wake ≤ g.now then some (g.setRetry id (.trying start)) else none
    | .failed | .delivered | .disconnected => none

/-- The unregister call of a failed retry, up to its removal step. -/
def disconnect (g : Gateway) (id : Nat) : Option Gateway :=
  g.retries[id]?.bind fun task =>
    if task.phase = .failed then
      some { g.setRetry id .disconnected with
        registry := g.registry.unregister task.room task.user }
    else none

end Retrying

def step (g : Gateway) : Event → Option Gateway
  | .connect params => g.connect params
  | .exit id => g.exit id
  | .cleanup id => g.cleanup id
  | .datagram data => some (g.datagram data)
  | .frame id data => g.frame id data
  | .recv id => g.recv id
  | .route packet => g.route packet
  | .visit packet user => g.visit packet user
  | .retry id => g.retry id
  | .disconnect id => g.disconnect id
  | .testEmpty call => g.testEmpty call
  | .removeIf call => g.removeIf call
  | .tick elapsed => some { g with now := g.now + elapsed }

end Gateway

end WsGateway
