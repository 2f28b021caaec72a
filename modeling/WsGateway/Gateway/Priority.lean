import WsGateway.Gateway.Disconnect
import WsGateway.Gateway.Once

/-! Commands in outbound queues.

All packet types share one queue. Every step leaves what is queued in place,
except the receiver's and the dispatch of a `RawMotion` packet, which gives up
the front of a full queue whatever it is.
-/

set_option autoImplicit false

namespace WsGateway
open Foundation Protocol Routing

def Outbound.packetType (item : Outbound) : Option PacketType :=
  match PacketHeader.decode item.bytes with
  | .ok (header, _) => some header.packetType
  | .error _ | .abort => none

namespace Gateway

/-- A queued `SystemCmd` packet is still queued after the step, unless the step is
the receiver's. -/
def KeepsCommands (g : Gateway) (event : Event) (next : Gateway) : Prop :=
  ∀ id connection item, g.connections[id]? = some connection →
    item ∈ connection.channel.queue → item.packetType = some .systemCmd → event ≠ .recv id →
      ∃ connection', next.connections[id]? = some connection' ∧ item ∈ connection'.channel.queue

/-- No `RawMotion` packet is dispatched onto a full queue with a `SystemCmd` packet
at its front. -/
def SparesCommands (g : Gateway) (event : Event) (_ : Gateway) : Prop :=
  ∀ packet task target targets connection item queue, event = .route packet →
    g.routes[packet]? = some task → task.phase = .dispatching (target :: targets) →
      task.header.packetType = .rawMotion → g.connections[target.2]? = some connection →
        connection.channel.capacity ≤ connection.channel.queue.length →
          connection.channel.queue = item :: queue → item.packetType ≠ some .systemCmd

section Steps

variable {g next : Gateway}

def RetainsAt (g next : Gateway) (id : ConnectionId) : Prop :=
  ∀ connection, g.connections[id]? = some connection →
    ∃ connection', next.connections[id]? = some connection' ∧
      ∀ item ∈ connection.channel.queue, item ∈ connection'.channel.queue

theorem retainsAt_of_connections {id : ConnectionId} (same : next.connections[id]? = g.connections[id]?) :
    RetainsAt g next id :=
  fun connection here => ⟨connection, same.trans here, fun _ member => member⟩

theorem retainsAt_setConnection {id other : ConnectionId} {connection connection' : Connection}
    (found : g.connections[id]? = some connection)
    (kept : ∀ item ∈ connection.channel.queue, item ∈ connection'.channel.queue) :
    RetainsAt g (g.setConnection id connection') other := by
  intro current here
  by_cases same : id = other
  · subst same
    rw [found] at here
    cases here
    exact ⟨connection', (getElem?_set_eq_some found).mpr (Or.inl ⟨rfl, rfl⟩), kept⟩
  · exact ⟨current, (getElem?_set_eq_some found).mpr (Or.inr ⟨same, here⟩), fun _ member => member⟩

theorem retainsAt_trySend {id other : ConnectionId} {connection connection' : Connection}
    {item : Outbound} (found : g.connections[id]? = some connection)
    (sent : connection.trySend item = .ok connection') :
    RetainsAt g (g.setConnection id connection') other := by
  obtain ⟨_, rfl⟩ := Connection.trySend_eq_ok.mp sent
  exact retainsAt_setConnection found fun _ member => List.mem_append_left _ member

def Forces (g : Gateway) (event : Event) (packet : PacketId) (task : RouteTask) (target : Target) :
    Prop :=
  event = .route packet ∧ g.routes[packet]? = some task ∧ task.header.packetType = .rawMotion ∧
    ∃ targets, task.phase = .dispatching (target :: targets)

theorem Forces.unique {event : Event} {packet packet' : PacketId} {task task' : RouteTask}
    {target target' : Target} (first : g.Forces event packet task target)
    (second : g.Forces event packet' task' target') :
    packet = packet' ∧ task = task' ∧ target = target' := by
  obtain ⟨rfl, found, _, targets, phase⟩ := first
  obtain ⟨same, found', _, targets', phase'⟩ := second
  cases same
  rw [found] at found'
  cases found'
  rw [phase] at phase'
  cases phase'
  exact ⟨rfl, rfl, rfl⟩

inductive QueueStep (g next : Gateway) (event : Event) : Prop where
  | retains : (∀ id, event ≠ .recv id → RetainsAt g next id) →
      (∀ packet task target, ¬ g.Forces event packet task target) → QueueStep g next event
  | forced {packet : PacketId} {task : RouteTask} {target : Target} {connection : Connection} :
      g.Forces event packet task target → g.connections[target.2]? = some connection →
      next.connections =
        g.connections.set target.2 (connection.sendDropOldest (outbound packet task)) →
      QueueStep g next event

theorem queueStep_routed {packet : PacketId} {task : RouteTask}
    (found : g.routes[packet]? = some task) (routed : Routed g packet task next) :
    QueueStep g next (.route packet) := by
  have calm (phase : ∀ target targets, task.phase ≠ .dispatching (target :: targets))
      (connections : next.connections = g.connections) : QueueStep g next (.route packet) := by
    refine .retains (fun id _ => retainsAt_of_connections (by rw [connections])) ?_
    rintro _ _ _ ⟨⟨⟩, found', _, targets, dispatching⟩
    rw [found] at found'
    cases found'
    exact phase _ _ dispatching
  cases routed with
  | resolved phase => exact calm (by rw [phase]; simp) rfl
  | collected phase => exact calm (by rw [phase]; simp) rfl
  | found phase => exact calm (by rw [phase]; simp) rfl
  | missing phase => exact calm (by rw [phase]; simp) rfl
  | returned phase => exact calm (by rw [phase]; simp) rfl
  | dispatched phase dispatched =>
    have unforced (type : task.header.packetType ≠ .rawMotion) :
        ∀ packet' task' target', ¬ g.Forces (.route packet) packet' task' target' := by
      rintro _ _ _ ⟨⟨⟩, found', rawMotion, _⟩
      rw [found] at found'
      cases found'
      exact type rawMotion
    cases dispatched with
    | sent here type sent => exact .retains (fun _ _ => retainsAt_trySend here sent) (unforced type)
    | forced here type => exact .forced ⟨rfl, found, type, _, phase⟩ here rfl
    | refused _ type =>
      exact .retains (fun _ _ => retainsAt_of_connections rfl) (unforced (by rw [type]; decide))
    | dropped _ type => exact .retains (fun _ _ => retainsAt_of_connections rfl) (unforced type)

theorem queueStep {event : Event} (taken : g.step event = some next) : QueueStep g next event := by
  have other {event : Event} (kind : ∀ packet, event ≠ .route packet)
      (kept : ∀ id, event ≠ .recv id → RetainsAt g next id) : QueueStep g next event :=
    .retains kept fun packet _ _ forces => kind packet forces.1
  cases event with
  | connect params =>
    obtain ⟨room, user, _, _, rfl⟩ := connect_eq_some.mp taken
    refine other (by simp) fun id _ connection here => ?_
    exact ⟨connection, getElem?_concat_eq_some.mpr (Or.inl here), fun _ member => member⟩
  | exit id =>
    obtain ⟨connection, found, _, rfl⟩ := exit_eq_some.mp taken
    exact other (by simp) fun _ _ => retainsAt_setConnection found fun _ member => member
  | cleanup id =>
    obtain ⟨connection, found, _, rfl⟩ := cleanup_eq_some.mp taken
    refine other (by simp) fun id' _ => ?_
    have closed : RetainsAt g (g.setConnection id { connection with phase := .closed }) id' :=
      retainsAt_setConnection found fun _ member => member
    exact closed
  | datagram data =>
    cases taken
    exact other (by simp) fun _ _ => retainsAt_of_connections (by rw [datagram, receive_connections])
  | frame id data =>
    obtain ⟨_, _, _, rfl⟩ := frame_eq_some.mp taken
    exact other (by simp) fun _ _ => retainsAt_of_connections (by rw [receive_connections])
  | recv id =>
    obtain ⟨connection, item, queue, found, _, front, rfl⟩ := recv_eq_some.mp taken
    refine other (by simp) fun id' different current here => ?_
    have apart : id ≠ id' := fun same => different (same ▸ rfl)
    exact ⟨current, (getElem?_set_eq_some found).mpr (Or.inr ⟨apart, here⟩), fun _ member => member⟩
  | route packet =>
    obtain ⟨task, found, routed⟩ := routed taken
    exact queueStep_routed found routed
  | visit packet user =>
    obtain ⟨_, _, _, _, _, _, rfl⟩ := visit_eq_some taken
    exact other (by simp) fun _ _ => retainsAt_of_connections rfl
  | retry id =>
    obtain ⟨task, _, retried⟩ := retried taken
    refine other (by simp) fun id' _ => ?_
    cases retried with
    | delivered _ here sent => exact retainsAt_trySend here sent
    | started => exact retainsAt_of_connections rfl
    | refused => exact retainsAt_of_connections rfl
    | expired => exact retainsAt_of_connections rfl
    | paused => exact retainsAt_of_connections rfl
    | woken => exact retainsAt_of_connections rfl
  | disconnect id =>
    obtain ⟨_, _, _, rfl⟩ := disconnect_eq_some.mp taken
    exact other (by simp) fun _ _ => retainsAt_of_connections rfl
  | testEmpty call =>
    obtain ⟨_, _, rfl⟩ := testEmpty_eq_some.mp taken
    exact other (by simp) fun _ _ => retainsAt_of_connections rfl
  | removeIf call =>
    obtain ⟨_, _, _, rfl⟩ := removeIf_eq_some.mp taken
    exact other (by simp) fun _ _ => retainsAt_of_connections rfl
  | tick elapsed =>
    cases taken
    exact other (by simp) fun _ _ => retainsAt_of_connections rfl

theorem packetType_outbound (sound : Sound g) {packet : PacketId} {task : RouteTask}
    (found : g.routes[packet]? = some task) :
    (outbound packet task).packetType = some task.header.packetType := by
  have decoded := sound.decoded _ (List.mem_of_getElem? (arrival_of_found found))
  simp only [Outbound.packetType, outbound, PacketHeader.encode_decode decoded]
  rw [decoded]

theorem nodup_queue (sound : Sound g) (once : AtMostOnce g) {id : ConnectionId}
    {connection : Connection} (here : g.connections[id]? = some connection) :
    connection.channel.queue.Nodup := by
  have accepted := List.Nodup.of_map _ (nodup_accepted sound once here)
  exact accepted.sublist (sound.queued connection (List.mem_of_getElem? here)).sublist

/-- A forced dispatch costs a command exactly when the queue is full with one in front. -/
theorem keepsCommands_forced (sound : Sound g) (once : AtMostOnce g) {event : Event}
    {packet : PacketId} {task : RouteTask} {target : Target} {connection : Connection}
    (forces : g.Forces event packet task target)
    (here : g.connections[target.2]? = some connection)
    (connections : next.connections =
      g.connections.set target.2 (connection.sendDropOldest (outbound packet task))) :
    KeepsCommands g event next ↔ SparesCommands g event next := by
  obtain ⟨rfl, found, rawMotion, targets, phase⟩ := id forces
  have nodup := nodup_queue sound once here
  have after : next.connections[target.2]? =
      some (connection.sendDropOldest (outbound packet task)) := by
    rw [connections]
    exact (getElem?_set_eq_some here).mpr (Or.inl ⟨rfl, rfl⟩)
  constructor
  · intro keeps packet' task' target' targets' connection' item queue event found' phase' type here'
      full front command
    obtain ⟨rfl, rfl, rfl⟩ := forces.unique ⟨event, found', type, targets', phase'⟩
    rw [here] at here'
    cases here'
    have member : item ∈ connection.channel.queue := front ▸ List.mem_cons_self
    obtain ⟨connection', there, kept⟩ := keeps target.2 connection item here member command (by simp)
    rw [after] at there
    cases there
    rcases (Connection.mem_queue_sendDropOldest nodup member).mp kept with rfl | safe
    -- The new item is a motion.
    · rw [packetType_outbound sound found, rawMotion] at command
      cases command
    · exact safe ⟨full, by rw [front, List.head?_cons]⟩
  · intro spares id current item there member command _
    by_cases same : target.2 = id
    · subst same
      rw [here] at there
      cases there
      refine ⟨_, after, (Connection.mem_queue_sendDropOldest nodup member).mpr (Or.inr ?_)⟩
      rintro ⟨full, front⟩
      obtain ⟨queue, front⟩ := List.head?_eq_some_iff.mp front
      exact spares packet task target targets connection item queue rfl found phase rawMotion here
        full front command
    · refine ⟨current, ?_, member⟩
      rw [connections]
      exact (getElem?_set_eq_some here).mpr (Or.inr ⟨same, there⟩)

theorem keepsCommands_iff (sound : Sound g) (once : AtMostOnce g) {event : Event}
    (taken : g.step event = some next) :
    KeepsCommands g event next ↔ SparesCommands g event next := by
  cases queueStep taken with
  | retains kept calm =>
    refine iff_of_true ?_ ?_
    · intro id connection item here member _ other
      obtain ⟨connection', there, inside⟩ := kept id other connection here
      exact ⟨connection', there, inside item member⟩
    · intro packet task target targets connection item queue event found phase type
      exact absurd ⟨event, found, type, targets, phase⟩ (calm packet task target)
  | forced forces here connections => exact keepsCommands_forced sound once forces here connections

/-- Over every run, queued commands are only taken out by the receiver exactly when
no `RawMotion` packet is dispatched onto a full queue with a command in front. -/
theorem commands_kept_iff (events : List Event) :
    EveryStep step KeepsCommands new events ↔ EveryStep step SparesCommands new events := by
  refine EveryStep.congr sound_once_step ?_ sound_once_new events
  rintro g event next ⟨sound, once⟩ taken
  exact keepsCommands_iff sound once taken

end Steps

section Eviction

def rawMotion : Bytes :=
  [2, 1, 2, 0, 114, 49, 0, 0, 0, 0, 97, 110, 110, 0, 0, 0, 0, 0, 0, 0, 0, 0, 0, 0]

def motionsBehindCommand : List Event :=
  .connect ⟨"r1", "ann"⟩ :: unicastTo systemCmd 0 ++
    (List.range 63).flatMap (fun count => unicastTo rawMotion (count + 1)) ++
    [.frame 0 rawMotion, .route 64, .route 64]

theorem command_evicted :
    ∃ g next, run step new motionsBehindCommand = some g ∧ g.step (.route 64) = some next ∧
      ¬ KeepsCommands g (.route 64) next := by
  have ends : (run step new motionsBehindCommand).any (fun g => (g.step (.route 64)).any fun next =>
      g.connections[0]?.any fun connection => next.connections[0]?.any fun connection' =>
        (⟨systemCmd, 0⟩ : Outbound) ∈ connection.channel.queue ∧
          (⟨systemCmd, 0⟩ : Outbound) ∉ connection'.channel.queue) = true := by decide +kernel
  obtain ⟨g, ran, ends⟩ := (Option.any_eq_true _ _).mp ends
  obtain ⟨next, taken, ends⟩ := (Option.any_eq_true _ _).mp ends
  obtain ⟨connection, before, ends⟩ := (Option.any_eq_true _ _).mp ends
  obtain ⟨connection', after, ends⟩ := (Option.any_eq_true _ _).mp ends
  obtain ⟨queued, gone⟩ := of_decide_eq_true ends
  refine ⟨g, next, ran, taken, fun keeps => ?_⟩
  obtain ⟨_, there, left⟩ := keeps 0 connection _ before queued (by decide +kernel) (by simp)
  rw [after] at there
  cases there
  exact gone left

end Eviction

end Gateway

end WsGateway
