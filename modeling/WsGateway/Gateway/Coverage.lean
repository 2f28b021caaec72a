import WsGateway.Gateway.Atomic
import WsGateway.Gateway.Effects

/-! Whom a route task reaches while others work on the registry.

The task keeps the shared lock of its room from the lookup on, so nobody joins
the room meanwhile; users may leave it. There is a moment such that the task
reaches only users of that moment, each once, and all of them who stay.
-/

set_option autoImplicit false

namespace WsGateway.Gateway
open Foundation Protocol Routing

section Deliveries

def dispatches (packet : PacketId) (g : Gateway) : Event → List Target
  | .route other =>
    match g.routes[other]?.map RouteTask.phase with
    | some (.dispatching (target :: _)) => if other = packet then [target] else []
    | _ => []
  | _ => []

def sentTo (packet : PacketId) (start : Gateway) (events : List Event) : List Target :=
  record step (dispatches packet) start events

variable {g next : Gateway} {packet : PacketId} {task : RouteTask}

theorem dispatches_eq_nil {event : Event} (other : event ≠ .route packet) :
    dispatches packet g event = [] := by
  cases event with
  | route other' =>
    have different : other' ≠ packet := fun same => other (same ▸ rfl)
    simp only [dispatches, if_neg different]
    split <;> rfl
  | _ => rfl

theorem dispatches_of_phase (found : g.routes[packet]? = some task)
    (phase : ∀ target targets, task.phase ≠ .dispatching (target :: targets)) (event : Event) :
    dispatches packet g event = [] := by
  by_cases own : event = .route packet
  · subst own
    simp only [dispatches, found, Option.map_some]
    split
    next same => exact absurd (Option.some.inj same) (phase _ _)
    next => rfl
  · exact dispatches_eq_nil own

theorem dispatches_target {target : Target} {targets : List Target}
    (found : g.routes[packet]? = some task) (phase : task.phase = .dispatching (target :: targets)) :
    dispatches packet g (.route packet) = [target] := by
  simp only [dispatches, found, Option.map_some, phase, if_true]

end Deliveries

section Locks

variable {g next : Gateway} {packet : PacketId} {task : RouteTask}

/-- Nobody joins the room of a task that holds its lock. -/
theorem entry_held {event : Event} {user : UserID} {tx : ConnectionId} {phase : RoutePhase}
    (found : g.routes[packet]? = some { task with phase }) (held : phase.holdsRoom = true)
    (taken : g.step event = some next)
    (entry : next.entries (task.header.roomIdStr, user) = some tx) :
    g.entries (task.header.roomIdStr, user) = some tx := by
  have kept (key : Key) (entry : Function.update g.entries key none (task.header.roomIdStr, user) =
      some tx) : g.entries (task.header.roomIdStr, user) = some tx := by
    rw [Function.update_apply] at entry
    split at entry
    · cases entry
    · exact entry
  cases lifecycle taken with
  | @connect params key _ entries _ =>
    obtain ⟨room, user', admitted, ⟨_, released⟩, _⟩ := connect_eq_some.mp taken
    have own : wsHandler params = .ok key := ‹_›
    rw [admitted, Except.ok.injEq] at own
    subst own
    rw [entries, Function.update_of_ne] at entry
    · exact entry
    · intro same
      have free := released _ (List.mem_of_getElem? found) (congrArg Prod.fst same)
      rw [held] at free
      cases free
  | exit _ entries _ => rwa [entries] at entry
  | cleanup _ entries _ => exact kept _ (entries ▸ entry)
  | disconnect _ _ entries _ => exact kept _ (entries ▸ entry)
  | quiet _ _ entries _ => rwa [entries] at entry

end Locks

section Snapshots

variable {moment g next : Gateway} {packet : PacketId} {task : RouteTask} {header : PacketHeader}
  {sent : List Target}

def Present (moment : Gateway) (header : PacketHeader) (target : Target) : Prop :=
  moment.entries (header.roomIdStr, target.1) = some target.2 ∧
    Router.Addresses header (header.roomIdStr, target.1)

/-- What a task that has looked up its room has sent and collected, by its phase. -/
def Covers (moment : Gateway) (header : PacketHeader) (sent : List Target) : RoutePhase → Prop
  | .start => False
  | .snapshot unvisited targets => sent = [] ∧ header.targetType = .broadcast ∧
    (targets.map Prod.fst).Nodup ∧
    ∀ target ∈ targets, target.1 ∉ unvisited ∧ Present moment header target
  | .lookup => sent = [] ∧ header.targetType = .unicast
  | .dispatching targets => ((sent ++ targets).map Prod.fst).Nodup ∧
    ∀ target ∈ sent ++ targets, Present moment header target
  | .done => (sent.map Prod.fst).Nodup ∧ ∀ target ∈ sent, Present moment header target

def Shrunk (moment g : Gateway) (room : RoomID) : Prop :=
  ∀ user tx, g.entries (room, user) = some tx → moment.entries (room, user) = some tx

def Covering (moment : Gateway) (packet : PacketId) (task : RouteTask) (sent : List Target)
    (g : Gateway) : Prop :=
  ∃ phase, g.routes[packet]? = some { task with phase } ∧ Covers moment task.header sent phase ∧
    (phase.holdsRoom = true → Shrunk moment g task.header.roomIdStr)

theorem Shrunk.step {event : Event} {phase : RoutePhase} (shrunk : Shrunk moment g task.header.roomIdStr)
    (found : g.routes[packet]? = some { task with phase }) (held : phase.holdsRoom = true)
    (taken : g.step event = some next) : Shrunk moment next task.header.roomIdStr :=
  fun user tx entry => shrunk user tx (entry_held found held taken entry)

theorem covers_resolve (g : Gateway) (header : PacketHeader) :
    Covers g header [] (g.resolve header) := by
  unfold resolve
  split
  next => exact ⟨List.nodup_nil, by simp⟩
  next =>
    split
    next broadcast => exact ⟨rfl, broadcast, List.nodup_nil, by simp⟩
    next unicast => exact ⟨rfl, unicast⟩

theorem Covers.visit {unvisited : List UserID} {targets : List Target} {user : UserID}
    (covers : Covers moment header sent (.snapshot unvisited targets)) (waiting : user ∈ unvisited)
    (shrunk : Shrunk moment g header.roomIdStr) :
    Covers moment header sent (.snapshot (unvisited.filter (· ≠ user)) (targets ++
      (g.registry.rooms.find header.roomIdStr user).toList.map fun tx => (user, tx))) := by
  obtain ⟨none, broadcast, nodup, present⟩ := covers
  refine ⟨none, broadcast, ?_, fun target member => ?_⟩
  -- The visited user was still ahead, so it is not among the targets yet.
  · cases found : g.registry.rooms.find header.roomIdStr user with
    | none => simpa using nodup
    | some tx =>
      rw [Option.toList_some, List.map_singleton, List.map_append, List.map_singleton,
        ← List.concat_eq_append]
      refine List.Nodup.concat ?_ nodup
      intro member
      obtain ⟨target, inside, same⟩ := List.mem_map.mp member
      exact (present target inside).1 (same ▸ waiting)
  · rcases List.mem_append.mp member with before | new
    · have ⟨apart, here⟩ := present target before
      exact ⟨fun inside => apart (List.mem_of_mem_filter inside), here⟩
    · obtain ⟨tx, found, rfl⟩ := List.mem_map.mp new
      exact ⟨by simp, shrunk user tx (Option.mem_toList.mp found), rfl, Or.inl broadcast⟩

theorem covering_routed {phase : RoutePhase} (found : g.routes[packet]? = some { task with phase })
    (covers : Covers moment task.header sent phase)
    (shrunk : phase.holdsRoom = true → Shrunk moment g task.header.roomIdStr)
    (taken : g.step (.route packet) = some next)
    (routed : Routed g packet { task with phase } next) :
    Covering moment packet task (sent ++ dispatches packet g (.route packet)) next := by
  have still (held : phase.holdsRoom = true) : Shrunk moment next task.header.roomIdStr :=
    (shrunk held).step found held taken
  have quiet (other : ∀ target targets, phase ≠ .dispatching (target :: targets)) :
      sent ++ dispatches packet g (.route packet) = sent := by
    rw [dispatches_of_phase found other, List.append_nil]
  cases routed with
  | resolved same =>
    cases same
    exact covers.elim
  | collected same =>
    cases same
    obtain ⟨none, broadcast, nodup, present⟩ := covers
    rw [quiet (by simp), none]
    exact ⟨_, found_setRoute found _, ⟨nodup, fun target member => (present target member).2⟩,
      fun _ => still rfl⟩
  | found same entry =>
    cases same
    obtain ⟨none, unicast⟩ := covers
    rw [quiet (by simp), none]
    refine ⟨_, found_setRoute found _, ⟨List.nodup_singleton _, fun target member => ?_⟩,
      fun _ => still rfl⟩
    rw [List.mem_singleton.mp member]
    exact ⟨shrunk rfl _ _ entry, rfl, Or.inr ⟨unicast, rfl⟩⟩
  | missing same =>
    cases same
    rw [quiet (by simp), covers.1]
    exact ⟨_, found_setRoute found _, ⟨List.nodup_nil, by simp⟩, by simp [RoutePhase.holdsRoom]⟩
  | @dispatched target targets middle same dispatched =>
    cases same
    have kept : middle.routes[packet]? = some _ := routes_dispatched dispatched ▸ found
    rw [dispatches_target found rfl]
    refine ⟨_, found_setRoute kept _, ?_, fun _ => still rfl⟩
    rw [Covers, List.append_assoc]
    exact covers
  | returned same =>
    cases same
    rw [quiet (by simp)]
    refine ⟨_, found_setRoute found _, ?_, by simp [RoutePhase.holdsRoom]⟩
    rw [Covers, List.append_nil] at covers
    exact covers

theorem covering_step {event : Event} (covering : Covering moment packet task sent g)
    (taken : g.step event = some next) :
    Covering moment packet task (sent ++ dispatches packet g event) next := by
  obtain ⟨phase, found, covers, shrunk⟩ := covering
  have still (held : phase.holdsRoom = true) : Shrunk moment next task.header.roomIdStr :=
    (shrunk held).step found held taken
  cases routeStep found taken with
  | kept other here =>
    rw [dispatches_eq_nil other, List.append_nil]
    exact ⟨phase, here, covers, still⟩
  | routed routed => exact covering_routed found covers shrunk taken routed
  | visited same waiting next_eq =>
    cases same
    rw [dispatches_eq_nil (by simp), List.append_nil]
    refine ⟨_, ?_, covers.visit waiting (shrunk rfl), fun _ => still rfl⟩
    rw [next_eq]
    exact found_setRoute found _

end Snapshots

section Completeness

variable {g next : Gateway} {packet : PacketId} {task : RouteTask} {header : PacketHeader}
  {sent : List Target} {user : UserID} {tx : ConnectionId}

def Routing (packet : PacketId) (g : Gateway) : Prop :=
  ∃ task, g.routes[packet]? = some task ∧ task.phase ≠ .done

/-- The target has been sent to or is still ahead. -/
def Awaits (header : PacketHeader) (user : UserID) (tx : ConnectionId) (sent : List Target) :
    RoutePhase → Prop
  | .start => True
  | .snapshot unvisited targets => user ∈ unvisited ∨ (user, tx) ∈ targets
  | .lookup => header.userIdStr = user
  | .dispatching targets => (user, tx) ∈ sent ++ targets
  | .done => (user, tx) ∈ sent

def Awaiting (packet : PacketId) (task : RouteTask) (user : UserID) (tx : ConnectionId)
    (sent : List Target) (g : Gateway) : Prop :=
  ∃ phase, g.routes[packet]? = some { task with phase } ∧ Awaits task.header user tx sent phase

theorem awaits_resolve (addressed : Router.Addresses header (header.roomIdStr, user))
    (entry : g.entries (header.roomIdStr, user) = some tx) :
    Awaits header user tx sent (g.resolve header) := by
  unfold resolve
  split
  next missing =>
    rw [entries, NestedMap.flat, NestedMap.find, missing] at entry
    cases entry
  next room found =>
    split
    next =>
      rw [entries, NestedMap.flat, NestedMap.find, found] at entry
      have here : AList.lookup user room = some tx := entry
      exact Or.inl (AList.mem_keys.mp (AList.lookup_isSome.mp (by rw [here]; rfl)))
    next unicast =>
      rcases addressed.2 with broadcast | ⟨_, named⟩
      · rw [unicast] at broadcast
        cases broadcast
      · exact named

theorem awaiting_step {event : Event} (addressed : Router.Addresses task.header (task.header.roomIdStr, user))
    (awaiting : Awaiting packet task user tx sent g)
    (stays : g.Routing packet → g.entries (task.header.roomIdStr, user) = some tx)
    (taken : g.step event = some next) :
    Awaiting packet task user tx (sent ++ dispatches packet g event) next := by
  obtain ⟨phase, found, awaits⟩ := awaiting
  have entry (unfinished : phase ≠ .done) : g.entries (task.header.roomIdStr, user) = some tx :=
    stays ⟨_, found, unfinished⟩
  have quiet (other : ∀ target targets, phase ≠ .dispatching (target :: targets)) :
      sent ++ dispatches packet g (.route packet) = sent := by
    rw [dispatches_of_phase found other, List.append_nil]
  cases routeStep found taken with
  | kept other here =>
    rw [dispatches_eq_nil other, List.append_nil]
    exact ⟨phase, here, awaits⟩
  | @visited visitor _ _ same waiting next_eq =>
    cases same
    rw [dispatches_eq_nil (by simp), List.append_nil, next_eq]
    refine ⟨_, found_setRoute found _, ?_⟩
    rcases awaits with ahead | collected
    · by_cases visited : user = visitor
      · subst visited
        have here : g.registry.rooms.find task.header.roomIdStr user = some tx := entry (by simp)
        rw [here]
        exact Or.inr (List.mem_append_right _ (List.mem_singleton_self _))
      · exact Or.inl (List.mem_filter.mpr ⟨ahead, decide_eq_true visited⟩)
    · exact Or.inr (List.mem_append_left _ collected)
  | routed routed =>
    cases routed with
    | resolved same =>
      cases same
      rw [quiet (by simp)]
      exact ⟨_, found_setRoute found _, awaits_resolve addressed (entry (by simp))⟩
    | collected same =>
      cases same
      rw [quiet (by simp)]
      refine ⟨_, found_setRoute found _, List.mem_append_right _ ?_⟩
      exact awaits.resolve_left List.not_mem_nil
    | found same here =>
      cases same
      obtain rfl : task.header.userIdStr = user := awaits
      rw [quiet (by simp)]
      refine ⟨_, found_setRoute found _, List.mem_append_right _ ?_⟩
      have same : some tx = some _ := (entry (by simp)).symm.trans here
      cases same
      exact List.mem_singleton_self _
    | missing same gone =>
      cases same
      obtain rfl : task.header.userIdStr = user := awaits
      have none : some tx = none := (entry (by simp)).symm.trans gone
      cases none
    | @dispatched target targets middle same dispatched =>
      cases same
      have kept : middle.routes[packet]? = some _ := routes_dispatched dispatched ▸ found
      rw [dispatches_target found rfl]
      refine ⟨_, found_setRoute kept _, ?_⟩
      rw [Awaits, List.append_assoc]
      exact awaits
    | returned same =>
      cases same
      rw [quiet (by simp)]
      refine ⟨_, found_setRoute found _, ?_⟩
      rw [Awaits, List.append_nil] at awaits
      exact awaits

/-- From every state and over every run, a route task that is done had a moment: it has
sent the packet to addressed users registered at that moment only, to none twice, and
to all of them who stayed registered until it was done. -/
theorem route_covers (events : List Event) (g next : Gateway) (packet : PacketId)
    (task : RouteTask) (found : g.routes[packet]? = some task) (spawned : task.phase = .start) (onward : run step g events = some next)
    (done : next.routes[packet]? = some { task with phase := .done }) :
    ((sentTo packet g events).map Prod.fst).Nodup ∧
    ∃ earlier later moment, events = earlier ++ later ∧ run step g earlier = some moment ∧
      (∀ target ∈ sentTo packet g events, Present moment task.header target) ∧
      ∀ target, Present moment task.header target →
        EveryState step (fun s => s.Routing packet →
          s.entries (task.header.roomIdStr, target.1) = some target.2) moment later →
        target ∈ sentTo packet g events := by
  obtain ⟨earlier, event, later, moment, after, rfl, before, reached, taken, left, rest⟩ :=
    exists_exit (P := fun s => s.routes[packet]? = some task) onward found (by
      rw [done, Option.some.injEq]
      intro same
      have phase := congrArg RouteTask.phase same
      rw [spawned] at phase
      cases phase)
  have here : moment.routes[packet]? = some task := before.last reached
  have fresh : ∀ target targets, task.phase ≠ .dispatching (target :: targets) := by
    rw [spawned]
    simp
  have none : sentTo packet g earlier = [] := by
    refine record_induction (I := fun notes _ => notes = [])
      (fun notes s event' _ empty waiting _ => ?_) before rfl reached
    rw [empty, dispatches_of_phase waiting fresh event', List.append_nil]
  -- What is sent is sent behind the lookup of the room.
  have sent : sentTo packet g (earlier ++ event :: later) = sentTo packet moment (event :: later) := by
    rw [sentTo, record_append reached]
    exact congrArg (· ++ _) none
  have behind : sentTo packet moment (event :: later) = sentTo packet after later := by
    rw [sentTo, record_cons taken, dispatches_of_phase here fresh]
    rfl
  have looked : after = moment.setRoute packet (moment.resolve task.header) := by
    cases routeStep here taken with
    | kept _ same => exact absurd same left
    | visited phase => rw [spawned] at phase; cases phase
    | routed routed =>
      cases routed with
      | resolved => rfl
      | collected phase => rw [spawned] at phase; cases phase
      | found phase => rw [spawned] at phase; cases phase
      | missing phase => rw [spawned] at phase; cases phase
      | dispatched phase => rw [spawned] at phase; cases phase
      | returned phase => rw [spawned] at phase; cases phase
  have covering : Covering moment packet task (sentTo packet after later) next := by
    refine record_run (fun _ _ _ _ covering taken => covering_step covering taken) ?_ rest
    rw [looked]
    exact ⟨_, found_setRoute here _, covers_resolve moment task.header, fun _ _ _ entry => entry⟩
  obtain ⟨phase, there, covers, _⟩ := covering
  rw [done] at there
  cases there
  rw [sent, behind]
  refine ⟨covers.1, earlier, event :: later, moment, rfl, reached, covers.2, ?_⟩
  rintro ⟨user, tx⟩ ⟨_, addressed⟩ stays
  have awaiting : Awaiting packet task user tx (sentTo packet moment (event :: later)) next := by
    refine record_induction (fun _ _ _ _ awaiting stays taken =>
      awaiting_step addressed awaiting stays taken) stays ?_ (run_cons.mpr ⟨after, taken, rest⟩)
    exact ⟨task.phase, here, by rw [spawned]; trivial⟩
  obtain ⟨phase, there, awaits⟩ := awaiting
  rw [done] at there
  cases there
  rw [behind] at awaits
  exact awaits

def leavingRun : List Event :=
  [.route 0, .exit 1, .cleanup 1, .visit 0 "bob", .visit 0 "ann", .route 0, .route 0, .route 0]

theorem route_covers_leaving :
    ∃ g task earlier moment, run step new (broadcastRun.take 3) = some g ∧
      g.routes[0]? = some task ∧ sentTo 0 g leavingRun = [("ann", 0)] ∧
      run step g earlier = some moment ∧ Present moment task.header ("ann", 0) := by
  have runs : (run step new (broadcastRun.take 3)).any (fun g => (run step g leavingRun).any fun next =>
      g.routes[0]?.any fun task => next.routes[0]?.any fun final => task.phase = .start ∧
        (final.raw = task.raw ∧ final.header = task.header ∧ final.payload = task.payload ∧
          final.phase = .done) ∧ sentTo 0 g leavingRun = [("ann", 0)]) = true := by decide +kernel
  obtain ⟨g, ran, runs⟩ := (Option.any_eq_true _ _).mp runs
  obtain ⟨next, onward, runs⟩ := (Option.any_eq_true _ _).mp runs
  obtain ⟨task, found, runs⟩ := (Option.any_eq_true _ _).mp runs
  obtain ⟨⟨raw, header, payload, phase⟩, there, runs⟩ := (Option.any_eq_true _ _).mp runs
  obtain ⟨spawned, ⟨rfl, rfl, rfl, rfl⟩, sent⟩ := of_decide_eq_true runs
  obtain ⟨_, earlier, _, moment, _, reached, present, _⟩ :=
    route_covers leavingRun g next 0 task found spawned onward there
  rw [sent] at present
  exact ⟨g, task, earlier, moment, ran, found, sent, reached, present _ (List.mem_singleton_self _)⟩

end Completeness

section Motions

variable {g next : Gateway} {packet : PacketId} {task : RouteTask} {sent : List Target}

structure Delivers (packet : PacketId) (task : RouteTask) (sent : List Target) (g : Gateway) :
    Prop where
  routed : ∃ phase, g.routes[packet]? = some { task with phase }
  opened : ∀ target ∈ sent, target.2 < g.connections.length
  copies : ∀ id connection, g.connections[id]? = some connection →
    connection.copies packet = (sent.map Prod.snd).count id

theorem mem_dispatches {event : Event} {target : Target} (member : target ∈ dispatches packet g event) :
    event = .route packet ∧ ∃ task targets, g.routes[packet]? = some task ∧
      task.phase = .dispatching (target :: targets) := by
  by_cases own : event = .route packet
  · subst own
    refine ⟨rfl, ?_⟩
    simp only [dispatches, if_true] at member
    split at member
    next first targets phase =>
      obtain ⟨task, found, same⟩ := Option.map_eq_some_iff.mp phase
      rw [List.mem_singleton.mp member]
      exact ⟨task, targets, found, same⟩
    next => cases member
  · rw [dispatches_eq_nil own] at member
    cases member

theorem count_dispatches_eq_zero {event : Event} {id : ConnectionId}
    (apart : ∀ target ∈ dispatches packet g event, target.2 ≠ id) :
    ((dispatches packet g event).map Prod.snd).count id = 0 := by
  rw [List.count_eq_zero]
  intro member
  obtain ⟨target, inside, same⟩ := List.mem_map.mp member
  exact apart target inside same

/-- A step adds to a channel what it dispatches to it. -/
theorem copies_step {event : Event} {id : ConnectionId} {connection connection' : Connection}
    {phase : RoutePhase} (commands : RetriesCommands g)
    (found : g.routes[packet]? = some { task with phase })
    (type : task.header.packetType = .rawMotion)
    (stepped : ChannelStep g id connection event connection') :
    connection'.copies packet =
      connection.copies packet + ((dispatches packet g event).map Prod.snd).count id := by
  have accepts {item : Outbound} (accepts : connection.Accepts connection' item)
      (other : item.packet ≠ packet) (apart : ∀ target ∈ dispatches packet g event, target.2 ≠ id) :
      connection'.copies packet =
        connection.copies packet + ((dispatches packet g event).map Prod.snd).count id := by
    rw [accepts.copies, if_neg other, count_dispatches_eq_zero apart]
  have elsewhere {other : PacketId} (same : event = .route other) (different : other ≠ packet) :
      ∀ target ∈ dispatches packet g event, target.2 ≠ id := by
    intro target member
    cases same.symm.trans (mem_dispatches member).1
    exact absurd rfl different
  -- A dispatch of the packet to the connection would show at its channel.
  have offered (unforced : ∀ item, .sendDropOldest item ∉ channelEvents id g event) :
      ∀ target ∈ dispatches packet g event, target.2 ≠ id := by
    intro target member same
    obtain ⟨rfl, task', targets, found', phase⟩ := mem_dispatches member
    have events := channelEvents_dispatch id found' phase
    rw [found, Option.some.injEq] at found'
    have type' : task'.header.packetType = .rawMotion := found' ▸ type
    rw [if_pos same, offer_rawMotion type'] at events
    exact unforced _ (events ▸ List.mem_singleton_self _)
  cases stepped with
  | kept none _ _ accepted =>
    rw [Connection.copies, accepted, count_dispatches_eq_zero (offered (by simp [none]))]
    rfl
  | refused tried =>
    rw [count_dispatches_eq_zero (offered (by simp [tried]))]
    rfl
  | popped =>
    rw [dispatches_eq_nil (by simp), List.map_nil, List.count_nil]
    rfl
  | @sent packet' task' _ _ _ found' phase other sent =>
    by_cases same : packet' = packet
    · subst same
      rw [found] at found'
      cases found'
      exact absurd type other
    · exact accepts (Connection.accepts_of_trySend sent) same (elsewhere rfl same)
  | @forced packet' task' user targets found' phase =>
    by_cases same : packet' = packet
    · subst same
      rw [(Connection.accepts_sendDropOldest _ _).copies, dispatches_target found' phase]
      simp [outbound]
    · exact accepts (Connection.accepts_sendDropOldest _ _) same (elsewhere rfl same)
  | @retried n _ retry _ stored _ _ sent =>
    refine accepts (Connection.accepts_of_trySend sent) ?_ fun target member => ?_
    -- A retry carries a command, and the packet is none.
    · rintro rfl
      obtain ⟨arrival, arrived, command⟩ := commands retry (List.mem_of_getElem? stored)
      rw [arrival_of_found found] at arrived
      cases arrived
      rw [type] at command
      cases command
    · cases (mem_dispatches member).1

theorem length_step {event : Event} (taken : g.step event = some next) :
    g.connections.length ≤ next.connections.length := by
  simp only [← length_profile]
  cases lifecycle taken with
  | connect _ _ profile => rw [profile, List.length_append]; exact Nat.le_add_right _ _
  | exit _ _ profile => rw [profile, List.length_set]
  | cleanup _ _ profile => rw [profile, List.length_set]
  | disconnect _ _ _ profile => rw [profile]
  | quiet _ _ _ profile => rw [profile]

theorem delivers_step {event : Event} (sound : Sound g) (commands : RetriesCommands g)
    (type : task.header.packetType = .rawMotion) (delivers : Delivers packet task sent g)
    (taken : g.step event = some next) :
    Delivers packet task (sent ++ dispatches packet g event) next := by
  obtain ⟨phase, found⟩ := delivers.routed
  refine ⟨?_, fun target member => ?_, fun id connection here => ?_⟩
  · cases routeStep found taken with
    | kept _ same => exact ⟨phase, same⟩
    | visited _ _ next_eq => exact ⟨_, next_eq ▸ found_setRoute found _⟩
    | routed routed =>
      cases routed with
      | @dispatched _ _ middle _ dispatched =>
        have kept : middle.routes[packet]? = some _ := routes_dispatched dispatched ▸ found
        exact ⟨_, found_setRoute kept _⟩
      | resolved => exact ⟨_, found_setRoute found _⟩
      | collected => exact ⟨_, found_setRoute found _⟩
      | found => exact ⟨_, found_setRoute found _⟩
      | missing => exact ⟨_, found_setRoute found _⟩
      | returned => exact ⟨_, found_setRoute found _⟩
  · refine Nat.lt_of_lt_of_le ?_ (length_step taken)
    rcases List.mem_append.mp member with before | new
    · exact delivers.opened target before
    · obtain ⟨_, task', targets, found', phase'⟩ := mem_dispatches new
      have fits := sound.tasks task' (List.mem_of_getElem? found')
      rw [phase'] at fits
      have bound := lt_length_of_found (fits target List.mem_cons_self).1
      rwa [length_keys] at bound
  · rw [List.map_append, List.count_append]
    cases before : g.connections[id]? with
    | some old =>
      obtain ⟨connection', there, stepped⟩ := channelStep before taken
      rw [here] at there
      cases there
      rw [copies_step commands found type stepped, delivers.copies id old before]
    -- Nothing was sent to a connection that opens now.
    | none =>
      obtain ⟨rfl, _, _, _, rfl, _, rfl⟩ := opened_step before here taken
      rw [dispatches_eq_nil (by simp), List.map_nil, List.count_nil, List.count_eq_zero.mpr]
      · rfl
      · intro member
        obtain ⟨target, inside, same⟩ := List.mem_map.mp member
        exact Nat.lt_irrefl _ (same ▸ delivers.opened target inside)

/-- Over every run, a `RawMotion` packet has entered the queue of each connection it was
sent to once, and no other queue. -/
theorem motion_delivered (front events : List Event) (g next : Gateway) (packet : PacketId)
    (task : RouteTask) (ran : run step new front = some g) (found : g.routes[packet]? = some task)
    (spawned : task.phase = .start) (type : task.header.packetType = .rawMotion)
    (onward : run step g events = some next) (id : ConnectionId) (connection : Connection)
    (here : next.connections[id]? = some connection) :
    connection.copies packet =
      if id ∈ (sentTo packet g events).map Prod.snd then 1 else 0 := by
  obtain ⟨_, sound, once⟩ := reached ran
  have commands : RetriesCommands g := retriesCommands_step.run retriesCommands_new ran
  have delivers : Delivers packet task (sentTo packet g events) next := by
    have kept : Invariant step fun g => Sound g ∧ RetriesCommands g := fun g event next holds taken =>
      ⟨sound_step g event next holds.1 taken, retriesCommands_step g event next holds.2 taken⟩
    refine record_induction (fun _ _ _ _ delivers holds taken =>
      delivers_step holds.1 holds.2 type delivers taken)
      (kept.everyState ⟨sound, commands⟩ events) ⟨⟨task.phase, found⟩, by simp, ?_⟩ onward
    -- A spawned task still has its one chance, so no copy is out yet.
    intro id connection here
    have bound := once packet task id connection found here
    rw [spawned] at bound
    simp only [RoutePhase.chances, load] at bound
    rw [List.map_nil, List.count_nil]
    omega
  obtain ⟨sound', once'⟩ := sound_once_step.run ⟨sound, once⟩ onward
  have copies := delivers.copies id connection here
  have nodup := nodup_accepted sound' once' here
  rw [List.nodup_iff_count_le_one] at nodup
  have one := nodup packet
  rw [List.count, List.countP_map] at one
  change connection.copies packet ≤ 1 at one
  split
  next member =>
    have some := List.count_pos_iff.mpr member
    omega
  next absent => rw [copies, List.count_eq_zero.mpr absent]

theorem motion_delivered_alone :
    ∃ next connection,
      run step new (.connect ⟨"r1", "ann"⟩ :: unicastTo rawMotion 0) = some next ∧
        next.connections[0]? = some connection ∧ connection.copies 0 = 1 := by
  have runs : (run step new [.connect ⟨"r1", "ann"⟩, .frame 0 rawMotion]).any (fun g =>
      (run step g ((unicastTo rawMotion 0).drop 1)).any fun next => g.routes[0]?.any fun task =>
        next.connections[0]?.any fun _ => task.phase = .start ∧
          task.header.packetType = .rawMotion ∧
            0 ∈ (sentTo 0 g ((unicastTo rawMotion 0).drop 1)).map Prod.snd) = true := by
    decide +kernel
  obtain ⟨g, ran, runs⟩ := (Option.any_eq_true _ _).mp runs
  obtain ⟨next, onward, runs⟩ := (Option.any_eq_true _ _).mp runs
  obtain ⟨task, found, runs⟩ := (Option.any_eq_true _ _).mp runs
  obtain ⟨connection, here, runs⟩ := (Option.any_eq_true _ _).mp runs
  obtain ⟨spawned, type, member⟩ := of_decide_eq_true runs
  refine ⟨next, connection, ?_, here, ?_⟩
  · rw [show (.connect ⟨"r1", "ann"⟩ :: unicastTo rawMotion 0 : List Event) =
      [.connect ⟨"r1", "ann"⟩, .frame 0 rawMotion] ++ (unicastTo rawMotion 0).drop 1 from rfl,
      run_append, ran]
    exact onward
  · rw [motion_delivered _ _ g next 0 task ran found spawned type onward 0 connection here, if_pos member]

end Motions

end WsGateway.Gateway
