import WsGateway.Gateway.Delivery

/-! Each packet enters each queue at most once.

A packet's chance to enter a queue is held by one place at a time: the route
task that has the connection ahead of it, a retry task for it, or the history
of the queue. Steps hand it on or give it up.
-/

set_option autoImplicit false

namespace WsGateway
open Foundation Protocol Routing

/-- How often a route task may still offer its packet to a connection. -/
def RoutePhase.chances (phase : RoutePhase) (user : UserID) (id : ConnectionId) : Nat :=
  match phase with
  | .start | .lookup => 1
  | .snapshot unvisited targets =>
    (if user ∈ unvisited then 1 else 0) + targets.countP fun target => target.2 == id
  | .dispatching targets => targets.countP fun target => target.2 == id
  | .done => 0

def RetryPhase.active : RetryPhase → Bool
  | .spawned | .trying _ | .full _ | .sleeping _ _ => true
  | .failed | .delivered | .disconnected => false

def RetryTask.offers (packet : PacketId) (id : ConnectionId) (task : RetryTask) : Bool :=
  task.phase.active && task.item.packet == packet && task.tx == id

def Connection.copies (connection : Connection) (packet : PacketId) : Nat :=
  connection.accepted.countP fun item => item.packet == packet

theorem Connection.Accepts.copies {connection next : Connection} {item : Outbound}
    (accepts : connection.Accepts next item) (packet : PacketId) :
    next.copies packet = connection.copies packet + if item.packet = packet then 1 else 0 := by
  rw [Connection.copies, accepts.accepted, List.countP_append, List.countP_singleton]
  simp only [beq_iff_eq]
  rfl

namespace Gateway

/-- Retries for the packet at a connection, and entries in its queue. -/
def load (g : Gateway) (packet : PacketId) (id : ConnectionId) (connection : Connection) : Nat :=
  g.retries.countP (RetryTask.offers packet id) + connection.copies packet

def AtMostOnce (g : Gateway) : Prop :=
  ∀ packet task id connection, g.routes[packet]? = some task →
    g.connections[id]? = some connection →
      task.phase.chances connection.user id + g.load packet id connection ≤ 1

section Moves

variable {g next : Gateway}

/-- Every connection was there with the same user and no lighter load. -/
def Lightens (g next : Gateway) : Prop :=
  ∀ packet id connection, next.connections[id]? = some connection →
    ∃ old, g.connections[id]? = some old ∧ connection.user = old.user ∧
      next.load packet id connection ≤ g.load packet id old

theorem AtMostOnce.of_lightens (once : AtMostOnce g) (lightens : Lightens g next)
    (routes : next.routes = g.routes) : AtMostOnce next := by
  intro packet task id connection found here
  obtain ⟨old, before, user, load⟩ := lightens packet id connection here
  rw [routes] at found
  have bound := once packet task id old found before
  rw [user]
  omega

theorem AtMostOnce.setRoute (once : AtMostOnce g) {packet : PacketId} {task : RouteTask}
    {phase : RoutePhase} (found : g.routes[packet]? = some task)
    (fewer : ∀ (id : ConnectionId) (connection : Connection), g.connections[id]? = some connection →
      phase.chances connection.user id ≤ task.phase.chances connection.user id) :
    AtMostOnce (g.setRoute packet phase) := by
  intro packet' task' id connection found' here
  change g.connections[id]? = some connection at here
  change _ + g.load packet' id connection ≤ 1
  rw [Gateway.setRoute, List.getElem?_modify] at found'
  obtain ⟨old, before, rfl⟩ := Option.map_eq_some_iff.mp found'
  have bound := once packet' old id connection before here
  split
  next same =>
    subst same
    rw [found] at before
    cases before
    have := fewer id connection here
    dsimp only
    omega
  next => exact bound

theorem lightens_setRetry {id : Nat} {task : RetryTask} {phase : RetryPhase}
    (found : g.retries[id]? = some task)
    (active : phase.active = true → task.phase.active = true) : Lightens g (g.setRetry id phase) := by
  intro packet other connection here
  refine ⟨connection, here, rfl, Nat.add_le_add_right ?_ _⟩
  apply countP_modify_le _ _ found
  simp only [RetryTask.offers, Bool.and_eq_true]
  rintro ⟨⟨live, stems⟩, tx⟩
  exact ⟨⟨active live, stems⟩, tx⟩

theorem lightens_setConnection {id : ConnectionId} {connection connection' : Connection}
    (found : g.connections[id]? = some connection) (user : connection'.user = connection.user)
    (accepted : connection'.accepted = connection.accepted) :
    Lightens g (g.setConnection id connection') := by
  intro packet other current here
  rcases (getElem?_set_eq_some found).mp here with ⟨rfl, rfl⟩ | ⟨_, kept⟩
  · refine ⟨connection, found, user, ?_⟩
    rw [load, load, Connection.copies, accepted, Connection.copies]
    rfl
  · exact ⟨current, kept, rfl, Nat.le_refl _⟩

theorem lightens_registry (registry : Registry ConnectionId) :
    Lightens g { g with registry } :=
  fun _ _ connection here => ⟨connection, here, rfl, Nat.le_refl _⟩

theorem Lightens.trans {middle : Gateway} (first : Lightens g middle)
    (second : Lightens middle next) : Lightens g next := by
  intro packet id connection here
  obtain ⟨old, before, user, lighter⟩ := second packet id connection here
  obtain ⟨oldest, first, user', lightest⟩ := first packet id old before
  exact ⟨oldest, first, user.trans user', lighter.trans lightest⟩

/-- A retry that succeeds hands its chance on to the queue. -/
theorem lightens_delivered {id start : Nat} {task : RetryTask}
    {connection connection' : Connection} (found : g.retries[id]? = some task)
    (phase : task.phase = .trying start) (here : g.connections[task.tx]? = some connection)
    (accepts : connection.Accepts connection' task.item) :
    Lightens g ((g.setConnection task.tx connection').setRetry id .delivered) := by
  intro packet other current there
  have count := countP_modify (RetryTask.offers packet other)
    (fun retry => { retry with phase := .delivered }) found
  -- The retry leaves the count at the step that puts the copy into the queue.
  have finished : RetryTask.offers packet other { task with phase := .delivered } = false := rfl
  rw [finished, if_neg Bool.false_ne_true] at count
  rcases (getElem?_set_eq_some here).mp there with ⟨rfl, rfl⟩ | ⟨different, kept⟩
  · refine ⟨connection, here, congrArg Prod.snd accepts.key, ?_⟩
    have offered : RetryTask.offers packet task.tx task = (task.item.packet == packet) := by
      simp [RetryTask.offers, phase, RetryPhase.active]
    rw [offered] at count
    simp only [load, setRetry, setConnection, accepts.copies, beq_iff_eq] at count ⊢
    omega
  · refine ⟨current, kept, rfl, ?_⟩
    simp only [load, setRetry, setConnection] at count ⊢
    omega

theorem load_dispatched {packet : PacketId} {task : RouteTask} {target : Target}
    (dispatched : Dispatched g packet task target next) (packet' : PacketId) {id : ConnectionId}
    {connection : Connection} (here : next.connections[id]? = some connection) :
    ∃ old, g.connections[id]? = some old ∧ connection.user = old.user ∧
      next.load packet' id connection ≤ g.load packet' id old +
        if packet = packet' ∧ target.2 = id then 1 else 0 := by
  have accepted {connection' : Connection} {before : Connection}
      (found : g.connections[target.2]? = some before)
      (accepts : before.Accepts connection' (outbound packet task))
      (here : (g.setConnection target.2 connection').connections[id]? = some connection) :
      ∃ old, g.connections[id]? = some old ∧ connection.user = old.user ∧
        (g.setConnection target.2 connection').load packet' id connection ≤ g.load packet' id old +
          if packet = packet' ∧ target.2 = id then 1 else 0 := by
    rcases (getElem?_set_eq_some found).mp here with ⟨rfl, rfl⟩ | ⟨different, kept⟩
    · refine ⟨before, found, congrArg Prod.snd accepts.key, ?_⟩
      simp only [load, setConnection, accepts.copies, outbound]
      by_cases same : packet = packet' <;> simp [same, Nat.add_assoc]
    · refine ⟨connection, kept, rfl, ?_⟩
      simp only [load, setConnection]
      omega
  cases dispatched with
  | sent found _ sent => exact accepted found (Connection.accepts_of_trySend sent) here
  | forced found _ => exact accepted found (Connection.accepts_sendDropOldest _ _) here
  | refused =>
    refine ⟨connection, here, rfl, ?_⟩
    simp only [load, List.countP_append, List.countP_singleton, RetryTask.offers, outbound,
      RetryPhase.active, Bool.true_and, Bool.and_eq_true, beq_iff_eq]
    omega
  | dropped => exact ⟨connection, here, rfl, Nat.le_add_right _ _⟩

theorem AtMostOnce.dispatched (once : AtMostOnce g) {packet : PacketId} {task : RouteTask}
    {target : Target} {targets : List Target} (found : g.routes[packet]? = some task)
    (phase : task.phase = .dispatching (target :: targets))
    (dispatched : Dispatched g packet task target next) :
    AtMostOnce (next.setRoute packet (.dispatching targets)) := by
  intro packet' task' id connection found' here
  obtain ⟨old, before, user, load⟩ := load_dispatched dispatched packet' here
  change _ + next.load packet' id connection ≤ 1
  rw [Gateway.setRoute, routes_dispatched dispatched, List.getElem?_modify] at found'
  obtain ⟨oldTask, stored, rfl⟩ := Option.map_eq_some_iff.mp found'
  have bound := once packet' oldTask id old stored before
  rw [user]
  split
  -- The target is taken off the task that dispatches to it; other tasks only see
  -- a load that did not grow for their packets.
  next same =>
    subst same
    rw [found] at stored
    cases stored
    rw [phase] at bound
    simp only [RoutePhase.chances, List.countP_cons, beq_iff_eq, true_and] at bound load ⊢
    omega
  next different =>
    rw [if_neg (fun both => different both.1)] at load
    exact (Nat.add_le_add_left load _).trans bound

theorem AtMostOnce.routed (once : AtMostOnce g) {packet : PacketId}
    {task : RouteTask} (found : g.routes[packet]? = some task)
    (routed : Routed g packet task next) : AtMostOnce next := by
  cases routed with
  | resolved phase =>
    refine once.setRoute found fun id connection _ => ?_
    rw [phase]
    unfold resolve
    split
    next => exact Nat.zero_le _
    next =>
      split
      next => simp only [RoutePhase.chances, List.countP_nil]; split <;> omega
      next => exact Nat.le_refl _
  | collected phase =>
    refine once.setRoute found fun id connection _ => ?_
    rw [phase]
    exact Nat.le_add_left _ _
  | found phase here =>
    refine once.setRoute found fun id connection _ => ?_
    rw [phase]
    exact List.countP_le_length
  | missing => exact once.setRoute found fun _ _ _ => Nat.zero_le _
  | dispatched phase dispatched => exact once.dispatched found phase dispatched
  | returned => exact once.setRoute found fun _ _ _ => Nat.zero_le _

/-- A visited user is not visited again, and a sender is registered under its own
user, so the connection loses one chance before it gains one. -/
theorem AtMostOnce.visited (once : AtMostOnce g) (sound : Sound g) {packet : PacketId}
    {user : UserID} (taken : g.visit packet user = some next) : AtMostOnce next := by
  obtain ⟨task, unvisited, targets, found, phase, waiting, rfl⟩ := visit_eq_some taken
  refine once.setRoute found fun id connection here => ?_
  rw [phase]
  simp only [RoutePhase.chances, List.countP_append, List.mem_filter, decide_eq_true_eq]
  have fewer : (if connection.user ∈ unvisited ∧ connection.user ≠ user then 1 else 0) ≤
      if connection.user ∈ unvisited then 1 else 0 := by
    split <;> split <;> simp_all
  cases entry : g.registry.rooms.find task.header.roomIdStr user with
  | none =>
    simp only [Option.toList_none, List.map_nil, List.countP_nil]
    omega
  | some tx =>
    simp only [Option.toList_some, List.map_cons, List.map_nil, List.countP_singleton, beq_iff_eq]
    by_cases same : tx = id
    · subst same
      have under := sound.entries (task.header.roomIdStr, user) tx entry
      rw [keys_of_found here, Option.some.injEq] at under
      have own : connection.user = user := congrArg Prod.snd under
      simp only [own, waiting, ne_eq, not_true_eq_false, and_false, if_false, if_true]
      omega
    · rw [if_neg same]
      omega

theorem AtMostOnce.retried (once : AtMostOnce g) {id : Nat} {task : RetryTask}
    (found : g.retries[id]? = some task) (retried : Retried g id task next) : AtMostOnce next := by
  cases retried with
  | started phase =>
    exact once.of_lightens (lightens_setRetry found fun _ => by rw [phase]; rfl) rfl
  | delivered phase here sent =>
    exact once.of_lightens
      (lightens_delivered found phase here (Connection.accepts_of_trySend sent)) rfl
  | refused phase => exact once.of_lightens (lightens_setRetry found fun _ => by rw [phase]; rfl) rfl
  | expired phase => exact once.of_lightens (lightens_setRetry found fun _ => by rw [phase]; rfl) rfl
  | paused phase => exact once.of_lightens (lightens_setRetry found fun _ => by rw [phase]; rfl) rfl
  | woken phase => exact once.of_lightens (lightens_setRetry found fun _ => by rw [phase]; rfl) rfl

theorem load_of_fresh (sound : Sound g) {packet : PacketId} (fresh : g.routes.length ≤ packet)
    {id : ConnectionId} {connection : Connection} (here : g.connections[id]? = some connection) :
    g.load packet id connection = 0 := by
  have old {item : Outbound} {id : ConnectionId} (deliverable : g.Deliverable item id) :
      item.packet ≠ packet := by
    obtain ⟨arrival, _, arrived, _⟩ := deliverable
    have bound := lt_length_of_found arrived
    rw [arrivals, List.length_map] at bound
    exact Nat.ne_of_lt (Nat.lt_of_lt_of_le bound fresh)
  have retries : g.retries.countP (RetryTask.offers packet id) = 0 := by
    rw [List.countP_eq_zero]
    intro task member offers
    simp only [RetryTask.offers, Bool.and_eq_true, beq_iff_eq] at offers
    exact old (sound.retries task member).2 offers.1.2
  have copies : connection.copies packet = 0 := by
    rw [Connection.copies, List.countP_eq_zero]
    intro item member same
    exact old (sound.accepted id connection here item member) (beq_iff_eq.mp same)
  rw [load, retries, copies]

theorem chances_of_fresh (sound : Sound g) {task : RouteTask} (member : task ∈ g.routes)
    (user : UserID) : task.phase.chances user g.connections.length ≤ 1 := by
  have fits := sound.tasks task member
  have known {header : PacketHeader} {targets : List Target}
      (targets_fit : ∀ target ∈ targets, g.Targets header target) :
      targets.countP (fun target => target.2 == g.connections.length) = 0 := by
    rw [List.countP_eq_zero]
    intro target inside same
    have bound := lt_length_of_found (targets_fit target inside).1
    rw [length_keys, beq_iff_eq.mp same] at bound
    exact Nat.lt_irrefl _ bound
  cases phase : task.phase with
  | start => exact Nat.le_refl _
  | lookup => exact Nat.le_refl _
  | done => exact Nat.zero_le _
  | snapshot unvisited targets =>
    rw [phase] at fits
    simp only [RoutePhase.chances, known fits.2]
    split <;> omega
  | dispatching targets =>
    rw [phase] at fits
    simp only [RoutePhase.chances, known fits]
    omega

theorem AtMostOnce.receive (once : AtMostOnce g) (sound : Sound g) (raw : Bytes) :
    AtMostOnce (g.receive raw) := by
  have loads (packet : PacketId) (id : ConnectionId) (connection : Connection) :
      (g.receive raw).load packet id connection = g.load packet id connection := by
    rw [receive_eq]
    rfl
  intro packet task id connection found here
  rw [receive_connections] at here
  rw [loads]
  rw [receive_eq] at found
  rcases Nat.lt_or_ge packet g.routes.length with before | fresh
  · rw [List.getElem?_append_left before] at found
    exact once packet task id connection found here
  · rw [load_of_fresh sound fresh here]
    rw [List.getElem?_append_right fresh] at found
    obtain ⟨arrival, _, rfl⟩ := List.mem_map.mp (List.mem_of_getElem? found)
    exact Nat.le_refl _

theorem AtMostOnce.connect (once : AtMostOnce g) (sound : Sound g) {room : RoomID} {user : UserID}
    (connections : next.connections = g.connections ++ [.opened room user])
    (routes : next.routes = g.routes) (retries : next.retries = g.retries) : AtMostOnce next := by
  intro packet task id connection found here
  rw [routes] at found
  rw [load, retries]
  rw [connections] at here
  rcases getElem?_concat_eq_some.mp here with old | ⟨rfl, rfl⟩
  · exact once packet task id connection found old
  · have goals : g.retries.countP (RetryTask.offers packet g.connections.length) = 0 := by
      rw [List.countP_eq_zero]
      intro retry member offers
      simp only [RetryTask.offers, Bool.and_eq_true, beq_iff_eq] at offers
      have bound := lt_length_of_found (sound.retries retry member).1
      rw [length_keys, offers.2] at bound
      exact Nat.lt_irrefl _ bound
    rw [goals]
    exact chances_of_fresh sound (List.mem_of_getElem? found) _

theorem atMostOnce_step (sound : Sound g) (once : AtMostOnce g) {event : Event}
    (taken : g.step event = some next) : AtMostOnce next := by
  cases event with
  | connect params =>
    obtain ⟨room, user, _, _, rfl⟩ := connect_eq_some.mp taken
    exact once.connect sound rfl rfl rfl
  | exit id =>
    obtain ⟨connection, found, _, rfl⟩ := exit_eq_some.mp taken
    exact once.of_lightens (lightens_setConnection found rfl rfl) rfl
  | cleanup id =>
    obtain ⟨connection, found, _, rfl⟩ := cleanup_eq_some.mp taken
    have closed : Lightens g (g.setConnection id { connection with phase := .closed }) :=
      lightens_setConnection found rfl rfl
    exact once.of_lightens (closed.trans (lightens_registry _)) rfl
  | datagram data =>
    cases taken
    rw [datagram_eq]
    exact once.receive sound data.val
  | frame id data =>
    obtain ⟨_, _, _, rfl⟩ := frame_eq_some.mp taken
    exact once.receive sound data
  | recv id =>
    obtain ⟨connection, item, queue, found, _, front, rfl⟩ := recv_eq_some.mp taken
    exact once.of_lightens (lightens_setConnection found rfl rfl) rfl
  | route packet =>
    obtain ⟨task, found, routed⟩ := Gateway.routed taken
    exact once.routed found routed
  | visit packet user => exact once.visited sound taken
  | retry id =>
    obtain ⟨task, found, retried⟩ := Gateway.retried taken
    exact once.retried found retried
  | disconnect id =>
    obtain ⟨task, found, phase, rfl⟩ := disconnect_eq_some.mp taken
    have finished : Lightens g (g.setRetry id .disconnected) :=
      lightens_setRetry found fun active => by cases active
    exact once.of_lightens (finished.trans (lightens_registry _)) rfl
  | testEmpty call =>
    obtain ⟨registry, _, rfl⟩ := testEmpty_eq_some.mp taken
    exact once.of_lightens (lightens_registry registry) rfl
  | removeIf call =>
    obtain ⟨_, registry, _, rfl⟩ := removeIf_eq_some.mp taken
    exact once.of_lightens (lightens_registry registry) rfl
  | tick elapsed =>
    cases taken
    exact once.of_lightens (fun _ _ connection here => ⟨connection, here, rfl, Nat.le_refl _⟩) rfl

/-- The bound rests on soundness, so the two are carried along together. -/
theorem sound_once_step : Invariant step fun g => Sound g ∧ AtMostOnce g := by
  rintro g event next ⟨sound, once⟩ taken
  exact ⟨sound_step g event next sound taken, atMostOnce_step sound once taken⟩

theorem sound_once_new : Sound new ∧ AtMostOnce new := by
  refine ⟨sound_new, ?_⟩
  rintro packet task id connection ⟨⟩

end Moves

section Integrity

variable {g next : Gateway}

def Enters (g next : Gateway) (id : ConnectionId) (item : Outbound) : Prop :=
  ∃ connection connection', g.connections[id]? = some connection ∧
    next.connections[id]? = some connection' ∧ connection'.accepted = connection.accepted ++ [item]

/-- The item is, byte for byte, an accepted inbound packet for the connection. -/
def Genuine (arrivals : List Arrival) (connection : Connection) (item : Outbound) : Prop :=
  ∃ arrival, arrivals[item.packet]? = some arrival ∧ item.bytes = arrival.raw ∧
    PacketHeader.decode arrival.raw = .ok (arrival.header, arrival.payload) ∧
    arrival.Addresses connection.key

theorem reached {events : List Event} (ran : run step new events = some g) :
    g.arrivals = events.flatMap Event.arrivals ∧ Sound g ∧ AtMostOnce g := by
  refine ⟨?_, sound_once_step.run sound_once_new ran⟩
  refine run_induction (P := fun events g => g.arrivals = events.flatMap Event.arrivals) rfl ?_ ran
  intro front g event next arrived taken
  rw [arrivals_step taken, arrived, List.flatMap_append, List.flatMap_singleton]

theorem Deliverable.genuine (sound : Sound g) {item : Outbound} {id : ConnectionId}
    {connection : Connection} (here : g.connections[id]? = some connection)
    (deliverable : g.Deliverable item id) : Genuine g.arrivals connection item := by
  obtain ⟨arrival, key, arrived, bytes, under, addresses⟩ := deliverable
  rw [keys_of_found here, Option.some.injEq] at under
  subst under
  exact ⟨arrival, arrived, bytes, sound.decoded arrival (List.mem_of_getElem? arrived), addresses⟩

theorem nodup_accepted (sound : Sound g) (once : AtMostOnce g) {id : ConnectionId}
    {connection : Connection} (here : g.connections[id]? = some connection) :
    (connection.accepted.map Outbound.packet).Nodup := by
  -- Every accepted item has a route task, so the bound on its load applies.
  rw [List.nodup_iff_count_le_one]
  intro packet
  rcases Nat.eq_zero_or_pos ((connection.accepted.map Outbound.packet).count packet) with none | some
  · omega
  · obtain ⟨item, member, rfl⟩ := List.mem_map.mp (List.count_pos_iff.mp some)
    obtain ⟨arrival, _, arrived, _⟩ := sound.accepted id connection here item member
    rw [arrivals, List.getElem?_map] at arrived
    obtain ⟨task, found, _⟩ := Option.map_eq_some_iff.mp arrived
    have bound := once item.packet task id connection found here
    rw [load, Connection.copies] at bound
    rw [List.count, List.countP_map]
    exact Nat.le_trans (Nat.le_trans (Nat.le_add_left _ _) (Nat.le_add_left _ _)) bound

theorem arrivals_of_enters {event : Event} {id : ConnectionId} {item : Outbound}
    (taken : g.step event = some next) (enters : Enters g next id item) :
    next.arrivals = g.arrivals := by
  have unchanged (connections : next.connections = g.connections) : False := by
    obtain ⟨connection, connection', before, after, longer⟩ := enters
    rw [connections, before] at after
    cases after
    simp at longer
  rw [arrivals_step taken]
  cases event with
  | datagram data =>
    cases taken
    exact (unchanged (receive_connections _ _)).elim
  | frame from_id data =>
    obtain ⟨_, _, _, rfl⟩ := frame_eq_some.mp taken
    exact (unchanged (receive_connections _ _)).elim
  | _ => exact List.append_nil _

/-- Over every run, what enters an outbound queue is an earlier inbound packet for
that connection, unaltered, and no packet enters a queue twice. -/
theorem delivery_integrity (events : List Event) (g : Gateway)
    (ran : run step new events = some g) :
    (∀ (id : ConnectionId) (connection : Connection), g.connections[id]? = some connection →
      (∀ item ∈ connection.accepted, Genuine (events.flatMap Event.arrivals) connection item) ∧
      (connection.accepted.map Outbound.packet).Nodup ∧
      connection.channel.queue <:+ connection.accepted) ∧
    ∀ event next, g.step event = some next → ∀ id item, Enters g next id item →
      ∃ connection, next.connections[id]? = some connection ∧
        Genuine (events.flatMap Event.arrivals) connection item := by
  obtain ⟨arrived, sound, once⟩ := reached ran
  constructor
  · intro id connection here
    refine ⟨?_, nodup_accepted sound once here, sound.queued connection (List.mem_of_getElem? here)⟩
    intro item member
    rw [← arrived]
    exact (sound.accepted id connection here item member).genuine sound here
  · intro event next taken id item enters
    have after := sound_step g event next sound taken
    have arrivals := arrivals_of_enters taken enters
    obtain ⟨_, connection, _, here, accepted⟩ := enters
    have deliverable := after.accepted id connection here item (by rw [accepted]; simp)
    refine ⟨connection, here, ?_⟩
    rw [← arrived, ← arrivals]
    exact deliverable.genuine after here

def broadcastRun : List Event :=
  [.connect ⟨"r1", "ann"⟩, .connect ⟨"r1", "bob"⟩,
    .frame 0 [2, 2, 1, 0, 114, 49, 0, 0, 0, 0, 97, 110, 110, 0, 0, 0, 0, 0, 0, 0, 0, 7, 0, 1, 65],
    .route 0, .visit 0 "ann", .visit 0 "bob", .route 0, .route 0, .route 0, .route 0]

theorem delivery_integrity_broadcast :
    ∃ g connection, run step new broadcastRun = some g ∧ g.connections[1]? = some connection ∧
      connection.accepted.length = 1 ∧
      ∀ item ∈ connection.accepted, Genuine (broadcastRun.flatMap Event.arrivals) connection item := by
  have delivered : (run step new broadcastRun).any (fun g => g.connections[1]?.any fun connection =>
      connection.accepted.length = 1) = true := by decide +kernel
  obtain ⟨g, ran, second⟩ := (Option.any_eq_true _ _).mp delivered
  obtain ⟨connection, here, one⟩ := (Option.any_eq_true _ _).mp second
  exact ⟨g, connection, ran, here, of_decide_eq_true one,
    ((delivery_integrity broadcastRun g ran).1 1 connection here).1⟩

end Integrity

end Gateway

end WsGateway
