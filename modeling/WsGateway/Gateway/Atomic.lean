import WsGateway.Gateway.Once
import WsGateway.Routing.Router

/-! The gateway's route tasks against the router's `route`.

A route task takes many steps, and others may come between them. Where none do,
the task has done to rooms, channels and retries what the router does at once.
-/

set_option autoImplicit false

namespace WsGateway
open Foundation Protocol Routing

def Connection.inner (connection : Connection) : ChannelInner Bytes where
  queue := connection.channel.queue.map Outbound.bytes
  capacity := connection.channel.capacity
  notify := connection.channel.notify

def RetryPhase.state : RetryPhase → RetryState
  | .spawned | .trying _ => .spawned
  | .full _ | .sleeping _ _ | .failed => .refused
  | .delivered => .delivered
  | .disconnected => .disconnected

def RetryTask.retry (task : RetryTask) : Retry :=
  ⟨task.room, task.user, task.item.bytes, task.phase.state⟩

namespace Connection

variable {connection next : Connection} {item : Outbound}

theorem inner_sendDropOldest (connection : Connection) (item : Outbound) :
    (connection.sendDropOldest item).inner = connection.inner.sendDropOldest item.bytes := by
  simp only [inner, sendDropOldest, ChannelInner.sendDropOldest, List.length_map]
  split
  · simp [List.map_tail]
  · simp

theorem inner_trySend (connection : Connection) (item : Outbound) :
    connection.inner.trySend item.bytes =
      match connection.trySend item with
      | .ok next => .ok next.inner
      | .error returned => .error returned.bytes := by
  split
  next sent =>
    obtain ⟨fits, rfl⟩ := trySend_eq_ok.mp sent
    refine ChannelInner.trySend_eq_ok.mpr ⟨?_, ?_⟩
    · simpa [inner] using fits
    · simp [inner]
  next refused =>
    obtain ⟨full, rfl⟩ := trySend_eq_error.mp refused
    refine ChannelInner.trySend_eq_error.mpr ⟨?_, rfl⟩
    simpa [inner] using full

end Connection

namespace Gateway

/-- The router's share of the state. A sender without a connection has the channel
it would be opened with. -/
def router (g : Gateway) : Router ConnectionId where
  rooms := g.registry.rooms
  channels id := (g.connections[id]?.map Connection.inner).getD (bounded Bytes wsChannelCapacity)
  retries id := (g.retries.filter (·.tx = id)).map RetryTask.retry

section Dispatch

variable {g next : Gateway}

theorem channels_router {id : ConnectionId} {connection : Connection}
    (found : g.connections[id]? = some connection) : g.router.channels id = connection.inner := by
  change (g.connections[id]?.map Connection.inner).getD _ = connection.inner
  rw [found]
  rfl

theorem router_setConnection {id : ConnectionId} {connection connection' : Connection}
    (found : g.connections[id]? = some connection) :
    (g.setConnection id connection').router = g.router.setChannel id connection'.inner := by
  have channels : (g.setConnection id connection').router.channels =
      Function.update g.router.channels id connection'.inner := by
    funext other
    rw [Function.update_apply]
    by_cases same : id = other
    · subst same
      rw [if_pos rfl]
      exact channels_router ((getElem?_set_eq_some found).mpr (Or.inl ⟨rfl, rfl⟩))
    · rw [if_neg (Ne.symm same)]
      simp only [router, setConnection, List.getElem?_set_ne same]
  rw [Router.setChannel, ← channels]
  rfl

theorem router_spawn (g : Gateway) (task : RetryTask) :
    router { g with retries := g.retries ++ [task] } =
      g.router.setRetries task.tx (g.router.retries task.tx ++ [task.retry]) := by
  have retries : (router { g with retries := g.retries ++ [task] }).retries =
      Function.update g.router.retries task.tx (g.router.retries task.tx ++ [task.retry]) := by
    funext other
    rw [Function.update_apply]
    by_cases same : other = task.tx
    · subst same
      simp [router]
    · simp [router, same, Ne.symm same]
  rw [Router.setRetries, ← retries]
  rfl

theorem router_setRoute (g : Gateway) (packet : PacketId) (phase : RoutePhase) :
    (g.setRoute packet phase).router = g.router := rfl

theorem trySend_router {id : ConnectionId} {connection : Connection}
    (found : g.connections[id]? = some connection) (packet : PacketId) (task : RouteTask) :
    (g.router.channels id).trySend (task.header.encode task.payload) =
      match connection.trySend (outbound packet task) with
      | .ok connection' => .ok connection'.inner
      | .error _ => .error (task.header.encode task.payload) := by
  rw [channels_router found]
  have sends := connection.inner_trySend (outbound packet task)
  cases sent : connection.trySend (outbound packet task) with
  | ok connection' =>
    rw [sent] at sends
    exact sends
  | error returned =>
    obtain ⟨_, rfl⟩ := Connection.trySend_eq_error.mp sent
    rw [sent] at sends
    exact sends

theorem router_dispatched {packet : PacketId} {task : RouteTask} {target : Target}
    (dispatched : Dispatched g packet task target next) :
    next.router = g.router.dispatch task.header task.payload target.1 target.2 := by
  unfold Router.dispatch
  dsimp only
  cases dispatched with
  | sent found other sent =>
    rw [router_setConnection found, trySend_router found packet, sent]
    cases type : task.header.packetType with
    | rawMotion => exact absurd type other
    | systemCmd => rfl
    | aiEvent => rfl
    | heartbeat => rfl
  | forced found type =>
    rw [router_setConnection found, type, Connection.inner_sendDropOldest, channels_router found]
    rfl
  | refused found type full =>
    rw [router_spawn, type, trySend_router found packet,
      Connection.trySend_eq_error.mpr ⟨full, rfl⟩]
    rfl
  | dropped found notForced notRetried full =>
    rw [trySend_router found packet, Connection.trySend_eq_error.mpr ⟨full, rfl⟩]
    cases type : task.header.packetType with
    | rawMotion => exact absurd type notForced
    | systemCmd => exact absurd type notRetried
    | aiEvent => rfl
    | heartbeat => rfl

end Dispatch

section Uninterrupted

def Event.OfRoute (packet : PacketId) (event : Event) : Prop :=
  event = .route packet ∨ ∃ user, event = .visit packet user

structure Snapshot (r : Router ConnectionId) (header : PacketHeader) (targets : List Target) : Prop where
  nodup : (targets.map Prod.snd).Nodup
  mem : ∀ user tx, (user, tx) ∈ targets ↔ r.rooms.flat (header.roomIdStr, user) = some tx ∧
    Router.Addresses header (header.roomIdStr, user)

structure Collecting (r : Router ConnectionId) (room : RoomID) (unvisited : List UserID)
    (targets : List Target) : Prop where
  nodup : (targets.map Prod.fst).Nodup
  visited : ∀ target ∈ targets, target.1 ∉ unvisited
  entries : ∀ target ∈ targets, r.rooms.flat (room, target.1) = some target.2
  covers : ∀ user tx, r.rooms.flat (room, user) = some tx → user ∈ unvisited ∨ (user, tx) ∈ targets

def Advanced (r : Router ConnectionId) (header : PacketHeader) (payload : Bytes) (g : Gateway) :
    RoutePhase → Prop
  | .start => g.router = r
  | .snapshot unvisited targets => g.router = r ∧ header.targetType = .broadcast ∧
    Collecting r header.roomIdStr unvisited targets
  | .lookup => g.router = r ∧ header.targetType = .unicast
  | .dispatching targets => ∃ sent, g.router = r.dispatchAll header payload sent ∧
    Snapshot r header (sent ++ targets)
  | .done => ∃ sent, g.router = r.dispatchAll header payload sent ∧ Snapshot r header sent

variable {g next : Gateway} {r : Router ConnectionId} {header : PacketHeader} {payload : Bytes}
  {room : RoomID} {unvisited : List UserID} {targets : List Target}

theorem Collecting.snapshot (collecting : Collecting r header.roomIdStr [] targets)
    (distinct : r.Distinct) (broadcast : header.targetType = .broadcast) :
    Snapshot r header targets where
  nodup := by
    refine List.Nodup.map_on ?_ collecting.nodup.of_map
    rintro ⟨user, tx⟩ member ⟨user', tx'⟩ member' same
    cases same
    have key := distinct _ _ tx (collecting.entries _ member) (collecting.entries _ member')
    cases key
    rfl
  mem user tx := by
    constructor
    · intro member
      exact ⟨collecting.entries _ member, rfl, Or.inl broadcast⟩
    · rintro ⟨entry, _⟩
      exact (collecting.covers user tx entry).resolve_left List.not_mem_nil

theorem Collecting.visit (collecting : Collecting r room unvisited targets) {user : UserID}
    (waiting : user ∈ unvisited) :
    Collecting r room (unvisited.filter (· ≠ user))
      (targets ++ (r.rooms.find room user).toList.map fun tx => (user, tx)) := by
  -- Other users are as before; the visited one is no longer waiting, and is a target if
  -- the lookup found a sender.
  have kept {other : UserID} {tx : ConnectionId} (entry : r.rooms.flat (room, other) = some tx)
      (different : other ≠ user) :
      other ∈ unvisited.filter (· ≠ user) ∨ (other, tx) ∈ targets := by
    rcases collecting.covers other tx entry with before | before
    · exact Or.inl (List.mem_filter.mpr ⟨before, decide_eq_true different⟩)
    · exact Or.inr before
  have left {other : UserID} (gone : other ∉ unvisited) : other ∉ unvisited.filter (· ≠ user) :=
    fun member => gone (List.mem_of_mem_filter member)
  cases entry : r.rooms.find room user with
  | none =>
    rw [Option.toList_none, List.map_nil, List.append_nil]
    refine ⟨collecting.nodup, fun target member => left (collecting.visited target member),
      collecting.entries, fun other tx found => kept found ?_⟩
    rintro rfl
    rw [NestedMap.flat, entry] at found
    cases found
  | some tx =>
    rw [Option.toList_some, List.map_singleton]
    refine ⟨?_, ?_, ?_, ?_⟩
    · rw [List.map_append, List.map_singleton, ← List.concat_eq_append]
      refine List.Nodup.concat ?_ collecting.nodup
      intro member
      obtain ⟨target, inside, same⟩ := List.mem_map.mp member
      exact collecting.visited target inside (same ▸ waiting)
    · intro target member
      rcases List.mem_append.mp member with before | new
      · exact left (collecting.visited target before)
      · rw [List.mem_singleton.mp new]
        simp
    · intro target member
      rcases List.mem_append.mp member with before | new
      · exact collecting.entries target before
      · rw [List.mem_singleton.mp new]
        exact entry
    · intro other tx' found
      by_cases same : other = user
      · subst same
        rw [NestedMap.flat, entry] at found
        cases found
        exact Or.inr (List.mem_append_right _ (List.mem_singleton_self _))
      · exact (kept found same).imp_right (List.mem_append_left _)

/-- The snapshot of a broadcast begins with all users of the room to be visited. -/
theorem collecting_start {users : InnerMap UserID ConnectionId}
    (found : AList.lookup room r.rooms = some users) : Collecting r room users.keys [] where
  nodup := List.nodup_nil
  visited target member := by cases member
  entries target member := by cases member
  covers user tx entry := by
    rw [Router.find_of_lookup found] at entry
    exact Or.inl (AList.mem_keys.mp (AList.lookup_isSome.mp (by rw [entry]; rfl)))

theorem snapshot_none (absent : ∀ user tx, r.rooms.flat (header.roomIdStr, user) = some tx →
    ¬ Router.Addresses header (header.roomIdStr, user)) : Snapshot r header [] where
  nodup := List.nodup_nil
  mem user tx := by
    constructor
    · intro member
      cases member
    · rintro ⟨entry, addressed⟩
      exact absurd addressed (absent user tx entry)

theorem snapshot_unicast {tx : ConnectionId} (unicast : header.targetType = .unicast)
    (found : r.rooms.find header.roomIdStr header.userIdStr = some tx) :
    Snapshot r header [(header.userIdStr, tx)] where
  nodup := List.nodup_singleton tx
  mem user tx' := by
    rw [List.mem_singleton, Prod.mk.injEq, Router.Addresses, unicast]
    constructor
    · rintro ⟨rfl, rfl⟩
      exact ⟨found, rfl, Or.inr ⟨rfl, rfl⟩⟩
    · rintro ⟨entry, _, broadcast | ⟨_, same⟩⟩
      · cases broadcast
      · obtain rfl : header.userIdStr = user := same
        rw [NestedMap.flat, found] at entry
        cases entry
        exact ⟨rfl, rfl⟩

theorem advanced_resolve (header : PacketHeader) (same : g.router = r) :
    Advanced r header payload g (g.resolve header) := by
  have rooms : g.registry.rooms = r.rooms := by rw [← same]; rfl
  unfold resolve
  rw [rooms]
  split
  next missing =>
    refine ⟨[], same, snapshot_none fun user tx entry => ?_⟩
    rw [NestedMap.flat, NestedMap.find, missing] at entry
    cases entry
  next users found =>
    split
    next broadcast => exact ⟨same, broadcast, collecting_start found⟩
    next unicast => exact ⟨same, unicast⟩

theorem found_setRoute {packet : PacketId} {task : RouteTask} (found : g.routes[packet]? = some task)
    (phase : RoutePhase) : (g.setRoute packet phase).routes[packet]? = some { task with phase } := by
  rw [setRoute, List.getElem?_modify, found]
  simp

theorem advanced_routed (distinct : r.Distinct) {packet : PacketId} {task : RouteTask}
    (advanced : Advanced r task.header task.payload g task.phase)
    (routed : Routed g packet task next) (found : g.routes[packet]? = some task) :
    ∃ phase, next.routes[packet]? = some { task with phase } ∧
      Advanced r task.header task.payload next phase := by
  cases routed with
  | resolved phase =>
    rw [phase] at advanced
    exact ⟨_, found_setRoute found _, advanced_resolve task.header advanced⟩
  | collected phase =>
    rw [phase] at advanced
    obtain ⟨same, broadcast, collecting⟩ := advanced
    exact ⟨_, found_setRoute found _, [], same, collecting.snapshot distinct broadcast⟩
  | found phase here =>
    rw [phase] at advanced
    obtain ⟨rfl, unicast⟩ := advanced
    exact ⟨_, found_setRoute found _, [], rfl, snapshot_unicast unicast here⟩
  | missing phase gone =>
    rw [phase] at advanced
    obtain ⟨rfl, unicast⟩ := advanced
    refine ⟨_, found_setRoute found _, [], rfl, snapshot_none fun user tx entry addressed => ?_⟩
    rw [Router.Addresses, unicast] at addressed
    obtain ⟨_, broadcast | ⟨_, rfl⟩⟩ := addressed
    · cases broadcast
    · change g.registry.rooms.find _ _ = some tx at entry
      rw [gone] at entry
      cases entry
  | @dispatched target targets middle phase dispatched =>
    rw [phase] at advanced
    obtain ⟨sent, same, snapshot⟩ := advanced
    have kept : middle.routes[packet]? = some task := by rw [routes_dispatched dispatched, found]
    refine ⟨_, found_setRoute kept _, sent ++ [target], ?_, ?_⟩
    · rw [router_setRoute, router_dispatched dispatched, same, Router.dispatchAll, Router.dispatchAll,
        List.foldl_append]
      rfl
    · rw [List.append_assoc]
      exact snapshot
  | returned phase =>
    rw [phase] at advanced
    obtain ⟨sent, same, snapshot⟩ := advanced
    rw [List.append_nil] at snapshot
    exact ⟨_, found_setRoute found _, sent, same, snapshot⟩

theorem owned_router (sound : Sound g) :
    Router.Owned (fun id => g.keys[id]?.getD ("", "")) g.router := by
  intro key id entry
  change g.keys[id]?.getD _ = key
  rw [sound.entries key id entry]
  rfl

theorem advanced_step (distinct : r.Distinct) {packet : PacketId} {task : RouteTask} {event : Event}
    (own : event.OfRoute packet) (found : g.routes[packet]? = some task)
    (advanced : Advanced r task.header task.payload g task.phase)
    (taken : g.step event = some next) :
    ∃ phase, next.routes[packet]? = some { task with phase } ∧
      Advanced r task.header task.payload next phase := by
  rcases own with rfl | ⟨user, rfl⟩
  · obtain ⟨task', found', routed⟩ := routed taken
    rw [found] at found'
    cases found'
    exact advanced_routed distinct advanced routed found
  · obtain ⟨task', unvisited, targets, found', phase, waiting, rfl⟩ := visit_eq_some taken
    rw [found] at found'
    cases found'
    rw [phase] at advanced
    obtain ⟨rfl, broadcast, collecting⟩ := advanced
    exact ⟨_, found_setRoute found _, rfl, broadcast, collecting.visit waiting⟩

/-- A route task that has taken its steps without any other between them has done
what the router's `route` does, whatever order the room was visited in. -/
theorem route_uninterrupted (front events : List Event) (g next : Gateway) (packet : PacketId)
    (task : RouteTask) (ran : run step new front = some g) (found : g.routes[packet]? = some task)
    (spawned : task.phase = .start) (own : ∀ event ∈ events, event.OfRoute packet)
    (alone : run step g events = some next)
    (done : next.routes[packet]? = some { task with phase := .done })
    (iter : InnerMap UserID ConnectionId → List Target) (iterates : Iterates iter) :
    next.router = g.router.route iter task.header task.payload := by
  have sound : Sound g := sound_step.run sound_new ran
  have distinct := (owned_router sound).distinct
  have advanced : ∃ phase, next.routes[packet]? = some { task with phase } ∧
      Advanced g.router task.header task.payload next phase := by
    refine run_induction (P := fun events next => (∀ event ∈ events, event.OfRoute packet) →
      ∃ phase, next.routes[packet]? = some { task with phase } ∧
        Advanced g.router task.header task.payload next phase) ?_ ?_ alone own
    · intro _
      exact ⟨task.phase, found, by rw [spawned]; rfl⟩
    · intro earlier middle event after before taken own
      obtain ⟨phase, there, reached⟩ := before fun event member => own event (List.mem_append_left _ member)
      have onward := advanced_step distinct (own event (by simp)) there reached taken
      exact onward
  obtain ⟨phase, there, reached⟩ := advanced
  rw [done] at there
  cases there
  -- Both sides update each addressed user's channel once, so they are the same.
  obtain ⟨sent, same, snapshot⟩ := reached
  rw [same]
  refine Router.FannedOut.unique ?_ (Router.fannedOut_route iterates distinct task.header task.payload)
  exact (Router.fannedOut_dispatchAll snapshot.nodup).congr snapshot.mem

theorem route_uninterrupted_broadcast :
    ∃ (g next : Gateway) (task : RouteTask), run step new (broadcastRun.take 3) = some g ∧
      run step g (broadcastRun.drop 3) = some next ∧
        next.router = g.router.route Router.inOrder task.header task.payload := by
  have runs : (run step new (broadcastRun.take 3)).any (fun g => g.routes[0]?.any fun task =>
      task.phase = .start ∧ (run step g (broadcastRun.drop 3)).any fun next =>
        next.routes[0]?.any fun last => last.phase = .done ∧ last.raw = task.raw ∧
          last.header = task.header ∧ last.payload = task.payload) = true := by decide +kernel
  obtain ⟨g, ran, runs⟩ := (Option.any_eq_true _ _).mp runs
  obtain ⟨task, found, runs⟩ := (Option.any_eq_true _ _).mp runs
  obtain ⟨spawned, runs⟩ := of_decide_eq_true runs
  obtain ⟨next, alone, runs⟩ := (Option.any_eq_true _ _).mp runs
  obtain ⟨last, there, runs⟩ := (Option.any_eq_true _ _).mp runs
  obtain ⟨done, raw, header, payload⟩ := of_decide_eq_true runs
  have same : last = { task with phase := .done } := by
    cases last
    simp_all
  exact ⟨g, next, task, ran, alone, route_uninterrupted (broadcastRun.take 3) (broadcastRun.drop 3) g
    next 0 task ran found spawned (by simp [broadcastRun, Event.OfRoute]) alone (same ▸ there)
    Router.inOrder Router.iterates_inOrder⟩

end Uninterrupted

end Gateway

end WsGateway
