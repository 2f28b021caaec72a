import WsGateway.Gateway.Disconnect
import WsGateway.Gateway.Once

/-! What becomes of a `SystemCmd` packet that is dispatched to a connection.

A refused packet is with its retry task until that is done: either a try puts it
into the queue, or the entry of the connection is taken out of the registry.
-/

set_option autoImplicit false

namespace WsGateway.Gateway
open Foundation Protocol Routing

/-- The next step of the route task dispatches a `SystemCmd` packet to the connection. -/
def Commands (g : Gateway) (packet : PacketId) (tx : ConnectionId) : Prop :=
  ∃ task user targets, g.routes[packet]? = some task ∧ task.header.packetType = .systemCmd ∧
    task.phase = .dispatching ((user, tx) :: targets)

def Attempts (packet : PacketId) (tx : ConnectionId) (g : Gateway) (event : Event) : Prop :=
  ∃ id task start, event = .retry id ∧ g.retries[id]? = some task ∧ task.item.packet = packet ∧
    task.tx = tx ∧ task.phase = .trying start

def QueueFull (g : Gateway) (tx : ConnectionId) : Prop :=
  ∃ connection, g.connections[tx]? = some connection ∧
    connection.channel.capacity ≤ connection.channel.queue.length

/-- The retries of the packet for the connection are done. -/
def Settled (g : Gateway) (packet : PacketId) (tx : ConnectionId) : Prop :=
  ∀ task ∈ g.retries, task.item.packet = packet → task.tx = tx →
    task.phase = .delivered ∨ task.phase = .disconnected

def Entered (packet : PacketId) (tx : ConnectionId) (g : Gateway) : Prop :=
  ∃ connection, g.connections[tx]? = some connection ∧ 1 ≤ connection.copies packet

section Steps

variable {g next : Gateway} {packet : PacketId} {tx : ConnectionId}

theorem Entered.of_connections (entered : Entered packet tx g)
    (same : next.connections = g.connections) : Entered packet tx next := by
  rw [Entered, same]
  exact entered

theorem Entered.setConnection (entered : Entered packet tx g) {id : ConnectionId}
    {connection connection' : Connection} (found : g.connections[id]? = some connection)
    (copies : connection.copies packet ≤ connection'.copies packet) :
    Entered packet tx (g.setConnection id connection') := by
  obtain ⟨current, here, some⟩ := entered
  by_cases same : id = tx
  · subst same
    rw [found] at here
    cases here
    exact ⟨connection', (getElem?_set_eq_some found).mpr (Or.inl ⟨rfl, rfl⟩), some.trans copies⟩
  · exact ⟨current, (getElem?_set_eq_some found).mpr (Or.inr ⟨same, here⟩), some⟩

theorem Entered.accepts (entered : Entered packet tx g) {id : ConnectionId}
    {connection connection' : Connection} {item : Outbound}
    (found : g.connections[id]? = some connection) (accepts : connection.Accepts connection' item) :
    Entered packet tx (g.setConnection id connection') := by
  refine entered.setConnection found ?_
  rw [accepts.copies]
  exact Nat.le_add_right _ _

theorem Entered.dispatched (entered : Entered packet tx g) {packet' : PacketId} {task : RouteTask}
    {target : Target} (dispatched : Dispatched g packet' task target next) :
    Entered packet tx next := by
  cases dispatched with
  | sent found _ sent => exact entered.accepts found (Connection.accepts_of_trySend sent)
  | forced found _ => exact entered.accepts found (Connection.accepts_sendDropOldest _ _)
  | refused => exact entered
  | dropped => exact entered

theorem entered_step (packet : PacketId) (tx : ConnectionId) :
    Invariant step (Entered packet tx) := by
  intro g event next entered taken
  cases event with
  | connect params =>
    obtain ⟨room, user, _, _, rfl⟩ := connect_eq_some.mp taken
    obtain ⟨connection, here, some⟩ := entered
    exact ⟨connection, getElem?_concat_eq_some.mpr (Or.inl here), some⟩
  | exit id =>
    obtain ⟨connection, found, _, rfl⟩ := exit_eq_some.mp taken
    exact entered.setConnection found (Nat.le_refl _)
  | cleanup id =>
    obtain ⟨connection, found, _, rfl⟩ := cleanup_eq_some.mp taken
    have closed : Entered packet tx (g.setConnection id { connection with phase := .closed }) :=
      entered.setConnection found (Nat.le_refl _)
    exact closed
  | datagram data =>
    cases taken
    exact entered.of_connections (receive_connections _ _)
  | frame id data =>
    obtain ⟨_, _, _, rfl⟩ := frame_eq_some.mp taken
    exact entered.of_connections (receive_connections _ _)
  | recv id =>
    obtain ⟨connection, item, queue, found, _, _, rfl⟩ := recv_eq_some.mp taken
    exact entered.setConnection found (Nat.le_refl _)
  | route packet' =>
    obtain ⟨task, _, routed⟩ := routed taken
    cases routed with
    | dispatched _ dispatched => exact (entered.dispatched dispatched).of_connections rfl
    | resolved => exact entered
    | collected => exact entered
    | found => exact entered
    | missing => exact entered
    | returned => exact entered
  | visit packet' user =>
    obtain ⟨_, _, _, _, _, _, rfl⟩ := visit_eq_some taken
    exact entered
  | retry id =>
    obtain ⟨task, _, retried⟩ := retried taken
    cases retried with
    | delivered _ here sent => exact entered.accepts here (Connection.accepts_of_trySend sent)
    | started => exact entered
    | refused => exact entered
    | expired => exact entered
    | paused => exact entered
    | woken => exact entered
  | disconnect id =>
    obtain ⟨_, _, _, rfl⟩ := disconnect_eq_some.mp taken
    exact entered
  | testEmpty call =>
    obtain ⟨_, _, rfl⟩ := testEmpty_eq_some.mp taken
    exact entered
  | removeIf call =>
    obtain ⟨_, _, _, rfl⟩ := removeIf_eq_some.mp taken
    exact entered
  | tick elapsed =>
    cases taken
    exact entered

theorem entered_of_accepts {connection connection' : Connection} {item : Outbound}
    (found : g.connections[tx]? = some connection) (accepts : connection.Accepts connection' item)
    (stems : item.packet = packet) : Entered packet tx (g.setConnection tx connection') := by
  refine ⟨connection', (getElem?_set_eq_some found).mpr (Or.inl ⟨rfl, rfl⟩), ?_⟩
  rw [accepts.copies, if_pos stems]
  exact Nat.le_add_left _ _

theorem attempt_full_or_entered {event : Event} (attempts : Attempts packet tx g event)
    (taken : g.step event = some next) : g.QueueFull tx ∨ Entered packet tx next := by
  obtain ⟨id, task, start, rfl, found, stems, rfl, phase⟩ := attempts
  obtain ⟨task', found', retried⟩ := Gateway.retried taken
  rw [found] at found'
  cases found'
  cases retried with
  | delivered _ here sent =>
    exact Or.inr (entered_of_accepts here (Connection.accepts_of_trySend sent) stems)
  | refused _ here full => exact Or.inl ⟨_, here, full⟩
  | started spawned => rw [phase] at spawned; cases spawned
  | expired full => rw [phase] at full; cases full
  | paused full => rw [phase] at full; cases full
  | woken sleeping => rw [phase] at sleeping; cases sleeping

inductive RetryStep (g next : Gateway) (id : Nat) (task : RetryTask) : Event → Prop where
  | kept {event : Event} : next.retries[id]? = some task → RetryStep g next id task event
  | retried : Retried g id task next → RetryStep g next id task (.retry id)
  | disconnected : task.phase = .failed →
      next.retries[id]? = some { task with phase := .disconnected } →
      RetryStep g next id task (.disconnect id)

theorem found_setRetry {id other : Nat} {task : RetryTask} (found : g.retries[id]? = some task)
    (phase : RetryPhase) :
    (g.setRetry other phase).retries[id]? = some (if other = id then { task with phase } else task) := by
  rw [setRetry, List.getElem?_modify, found]
  rfl

theorem retryStep {id : Nat} {task : RetryTask} {event : Event} (found : g.retries[id]? = some task)
    (taken : g.step event = some next) : RetryStep g next id task event := by
  cases event with
  | connect params =>
    obtain ⟨_, _, _, _, rfl⟩ := connect_eq_some.mp taken
    exact .kept found
  | exit _ =>
    obtain ⟨_, _, _, rfl⟩ := exit_eq_some.mp taken
    exact .kept found
  | cleanup _ =>
    obtain ⟨_, _, _, rfl⟩ := cleanup_eq_some.mp taken
    exact .kept found
  | datagram data =>
    cases taken
    rw [datagram_eq, receive_eq]
    exact .kept found
  | frame _ data =>
    obtain ⟨_, _, _, rfl⟩ := frame_eq_some.mp taken
    rw [receive_eq]
    exact .kept found
  | recv _ =>
    obtain ⟨_, _, _, _, _, _, rfl⟩ := recv_eq_some.mp taken
    exact .kept found
  | route packet =>
    obtain ⟨route, _, routed⟩ := routed taken
    cases routed with
    | dispatched _ dispatched =>
      cases dispatched with
      | refused => exact .kept (getElem?_concat_eq_some.mpr (Or.inl found))
      | sent => exact .kept found
      | forced => exact .kept found
      | dropped => exact .kept found
    | resolved => exact .kept found
    | collected => exact .kept found
    | found => exact .kept found
    | missing => exact .kept found
    | returned => exact .kept found
  | visit packet user =>
    obtain ⟨_, _, _, _, _, _, rfl⟩ := visit_eq_some taken
    exact .kept found
  | retry other =>
    obtain ⟨task', found', retried⟩ := Gateway.retried taken
    by_cases same : other = id
    · subst same
      rw [found] at found'
      cases found'
      exact .retried retried
    · refine .kept ?_
      have kept (phase : RetryPhase) : (g.setRetry other phase).retries[id]? = some task := by
        rw [found_setRetry found, if_neg same]
      cases retried <;> exact kept _
  | disconnect other =>
    obtain ⟨task', found', failed, rfl⟩ := disconnect_eq_some.mp taken
    have after : (g.setRetry other .disconnected).retries[id]? = _ := found_setRetry found .disconnected
    by_cases same : other = id
    · subst same
      rw [found] at found'
      cases found'
      rw [if_pos rfl] at after
      exact .disconnected failed after
    · rw [if_neg same] at after
      exact .kept after
  | testEmpty call =>
    obtain ⟨_, _, rfl⟩ := testEmpty_eq_some.mp taken
    exact .kept found
  | removeIf call =>
    obtain ⟨_, _, _, rfl⟩ := removeIf_eq_some.mp taken
    exact .kept found
  | tick elapsed =>
    cases taken
    exact .kept found

/-- A sender that is in no entry does not come back, for a connect brings a new one. -/
theorem unregistered_step {event : Event} (opened : tx < g.connections.length)
    (absent : ∀ key, g.entries key ≠ some tx) (taken : g.step event = some next) (key : Key) :
    next.entries key ≠ some tx := by
  have dropped (gone : Key) : Function.update g.entries gone none key ≠ some tx := by
    rw [Function.update_apply]
    split
    · simp
    · exact absent key
  cases lifecycle taken with
  | connect _ entries _ =>
    rw [entries, Function.update_apply]
    split
    · simp only [ne_eq, Option.some.injEq]
      exact Nat.ne_of_gt opened
    · exact absent key
  | exit _ entries _ => rw [entries]; exact absent key
  | cleanup _ entries _ => rw [entries]; exact dropped _
  | disconnect _ _ entries _ => rw [entries]; exact dropped _
  | quiet _ _ entries _ => rw [entries]; exact absent key

theorem unregistered_of_disconnect (sound : Sound g) {id : Nat} {task : RetryTask}
    (found : g.retries[id]? = some task) (taken : g.step (.disconnect id) = some next) (key : Key) :
    next.entries key ≠ some task.tx := by
  cases lifecycle taken with
  | quiet _ other _ _ => exact absurd rfl (other id)
  | disconnect found' _ entries _ =>
    rw [found] at found'
    cases found'
    rw [entries, Function.update_apply]
    split
    · simp
    next different =>
      intro entry
      have under := sound.entries key task.tx entry
      rw [(sound.retries task (List.mem_of_getElem? found)).1] at under
      exact different (Option.some.inj under).symm

end Steps

section Runs

def Attempted (packet : PacketId) (tx : ConnectionId) (start : Gateway) (events : List Event) : Prop :=
  ∃ front event back g, events = front ++ event :: back ∧ run step start front = some g ∧
    Attempts packet tx g event

def Progress (packet : PacketId) (tx : ConnectionId) (attempted : Prop) (g : Gateway) :
    RetryPhase → Prop
  | .spawned | .trying _ => True
  | .full _ | .sleeping _ _ | .failed => attempted
  | .delivered => Entered packet tx g
  | .disconnected => attempted ∧ ∀ key, g.entries key ≠ some tx

variable {start g next : Gateway} {packet : PacketId} {tx : ConnectionId}

theorem Attempted.later {events : List Event} (attempted : Attempted packet tx start events)
    (event : Event) : Attempted packet tx start (events ++ [event]) := by
  obtain ⟨front, attempt, back, g, rfl, ran, attempts⟩ := attempted
  exact ⟨front, attempt, back ++ [event], g, by simp, ran, attempts⟩

theorem Progress.mono {attempted attempted' : Prop} {phase : RetryPhase} {event : Event}
    (progress : Progress packet tx attempted g phase) (still : attempted → attempted')
    (opened : tx < g.connections.length) (taken : g.step event = some next) :
    Progress packet tx attempted' next phase := by
  cases phase with
  | spawned => trivial
  | trying => trivial
  | full => exact still progress
  | sleeping => exact still progress
  | failed => exact still progress
  | delivered => exact entered_step packet tx g event next progress taken
  | disconnected =>
    exact ⟨still progress.1, unregistered_step opened progress.2 taken⟩

def Tracked (packet : PacketId) (tx : ConnectionId) (id : Nat) (attempted : Prop) (g : Gateway) : Prop :=
  ∃ task, g.retries[id]? = some task ∧ task.item.packet = packet ∧ task.tx = tx ∧
    Progress packet tx attempted g task.phase

theorem tracked_step {id : Nat} {front : List Event} {event : Event} (sound : Sound g)
    (ran : run step start front = some g)
    (tracked : Tracked packet tx id (Attempted packet tx start front) g)
    (taken : g.step event = some next) :
    Tracked packet tx id (Attempted packet tx start (front ++ [event])) next := by
  obtain ⟨task, found, stems, rfl, progress⟩ := tracked
  have opened : task.tx < g.connections.length := by
    rw [← length_keys]
    exact lt_length_of_found (sound.retries task (List.mem_of_getElem? found)).1
  have later := progress.mono (Attempted.later · event) opened taken
  cases retryStep found taken with
  | kept same => exact ⟨task, same, stems, rfl, later⟩
  | disconnected failed same =>
    rw [failed] at later
    exact ⟨_, same, stems, rfl, later, unregistered_of_disconnect sound found taken⟩
  -- Its own step takes the task to a phase of which more is known.
  | retried retried =>
    have moved {g' : Gateway} (phase : RetryPhase) (found : g'.retries[id]? = some task)
        (progress : Progress packet task.tx (Attempted packet task.tx start (front ++ [.retry id]))
          (g'.setRetry id phase) phase) :
        Tracked packet task.tx id (Attempted packet task.tx start (front ++ [.retry id]))
          (g'.setRetry id phase) := by
      refine ⟨_, found_setRetry found phase, ?_⟩
      rw [if_pos rfl]
      exact ⟨stems, rfl, progress⟩
    cases retried with
    | started => exact moved _ found trivial
    | delivered _ here sent =>
      refine moved _ found ?_
      exact entered_of_accepts here (Connection.accepts_of_trySend sent) stems
    | @refused time _ phase here full =>
      refine moved _ found ?_
      exact ⟨front, .retry id, [], g, rfl, ran, id, task, time, rfl, found, stems, rfl, phase⟩
    | expired phase => rw [phase] at later; exact moved _ found later
    | paused phase => rw [phase] at later; exact moved _ found later
    | woken phase => exact moved _ found trivial

/-- A dispatched command is in the queue, or the queue was full and it is with a
retry task of its own. -/
theorem entered_or_tracked (commands : g.Commands packet tx)
    (taken : g.step (.route packet) = some next) :
    Entered packet tx next ∨
      g.QueueFull tx ∧ Tracked packet tx g.retries.length (Attempted packet tx next []) next := by
  obtain ⟨task, user, targets, found, type, phase⟩ := commands
  obtain ⟨task', found', routed⟩ := Gateway.routed taken
  rw [found] at found'
  cases found'
  cases routed with
  | dispatched phase' dispatched =>
    rw [phase] at phase'
    cases phase'
    cases dispatched with
    | sent here _ sent => exact Or.inl (entered_of_accepts here (Connection.accepts_of_trySend sent) rfl)
    | refused here _ full =>
      refine Or.inr ⟨⟨_, here, full⟩, _, List.getElem?_concat_length, rfl, rfl, trivial⟩
    | forced _ rawMotion => rw [type] at rawMotion; cases rawMotion
    | dropped _ _ other => exact absurd type other
  | resolved phase' => rw [phase] at phase'; cases phase'
  | collected phase' => rw [phase] at phase'; cases phase'
  | found phase' => rw [phase] at phase'; cases phase'
  | missing phase' => rw [phase] at phase'; cases phase'
  | returned phase' => rw [phase] at phase'; cases phase'

theorem copies_of_entered (sound : Sound g) (once : AtMostOnce g) (entered : Entered packet tx g) :
    ∃ connection, g.connections[tx]? = some connection ∧ connection.copies packet = 1 := by
  obtain ⟨connection, here, some⟩ := entered
  have nodup := nodup_accepted sound once here
  rw [List.nodup_iff_count_le_one] at nodup
  have one := nodup packet
  rw [List.count, List.countP_map] at one
  exact ⟨connection, here, Nat.le_antisymm one some⟩

theorem not_entered {connection : Connection} (here : g.connections[tx]? = some connection) :
    ¬ Entered packet tx g ↔ connection.copies packet = 0 := by
  rw [Entered, here]
  simp

theorem tracked_run {id : Nat} {events : List Event} (sound : Sound start)
    (tracked : Tracked packet tx id (Attempted packet tx start []) start)
    (ran : run step start events = some g) :
    Tracked packet tx id (Attempted packet tx start events) g := by
  -- The events so far and their run are part of the invariant: an attempt is one of them.
  have followed : run step start events = some g ∧ Sound g ∧
      Tracked packet tx id (Attempted packet tx start events) g := by
    refine run_induction (P := fun events g => run step start events = some g ∧ Sound g ∧
      Tracked packet tx id (Attempted packet tx start events) g) ⟨rfl, sound, tracked⟩ ?_ ran
    rintro front state event next ⟨ran, sound, tracked⟩ taken
    refine ⟨?_, sound_step state event next sound taken, tracked_step sound ran tracked taken⟩
    rw [run_append, ran]
    exact run_cons.mpr ⟨next, taken, rfl⟩
  exact followed.2.2

/-- Where the packet has not entered the queue in the end, every attempt found it full. -/
theorem attempts_full {events : List Event} (ran : run step start events = some g)
    (never : ¬ Entered packet tx g) :
    EveryStep step (fun state event _ => Attempts packet tx state event → state.QueueFull tx)
      start events := by
  rw [everyStep_iff]
  intro front event back state next split reached taken attempts
  rcases attempt_full_or_entered attempts taken with full | entered
  · exact full
  · rw [split, run_append, reached, Option.bind_some, run_cons] at ran
    obtain ⟨next', taken', ran⟩ := ran
    rw [taken] at taken'
    cases taken'
    exact absurd ((entered_step packet tx).run entered ran) never

/-- Over every run, a `SystemCmd` packet that was dispatched to a connection and
whose retries are done has entered the queue once, or never. In the second case no
entry holds the connection, and the queue was full at the dispatch and at every
attempt of a retry, of which there was one. -/
theorem commands_settled (front back : List Event) (g next final : Gateway) (packet : PacketId)
    (tx : ConnectionId) (before : run step new front = some g) (commands : g.Commands packet tx)
    (taken : g.step (.route packet) = some next) (after : run step next back = some final)
    (settled : final.Settled packet tx) :
    ∃ connection, final.connections[tx]? = some connection ∧
      (connection.copies packet = 1 ∨
        connection.copies packet = 0 ∧ (∀ key, final.entries key ≠ some tx) ∧ g.QueueFull tx ∧
          EveryStep step (fun state event _ => Attempts packet tx state event → state.QueueFull tx)
            next back ∧
          Attempted packet tx next back) := by
  have reached_next := sound_once_step g _ next (reached before).2 taken
  have ⟨sound_final, once_final⟩ := sound_once_step.run reached_next after
  by_cases entered : Entered packet tx final
  · obtain ⟨connection, here, one⟩ := copies_of_entered sound_final once_final entered
    exact ⟨connection, here, Or.inl one⟩
  -- It did not enter at the dispatch either, so there is a retry task to follow.
  rcases entered_or_tracked commands taken with entered' | ⟨full, tracked⟩
  · exact absurd ((entered_step packet tx).run entered' after) entered
  obtain ⟨task, found, stems, rfl, progress⟩ := tracked_run reached_next.1 tracked after
  have under := (sound_final.retries task (List.mem_of_getElem? found)).1
  obtain ⟨connection, here, _⟩ := Option.map_eq_some_iff.mp ((List.getElem?_map ..).symm.trans under)
  refine ⟨connection, here, Or.inr ⟨(not_entered here).mp entered, ?_⟩⟩
  rcases settled task (List.mem_of_getElem? found) stems rfl with phase | phase
  · rw [phase] at progress
    exact absurd progress entered
  · rw [phase] at progress
    obtain ⟨attempted, absent⟩ := progress
    exact ⟨absent, full, attempts_full after entered, attempted⟩

def refusedCommand : List Event :=
  .connect ⟨"r1", "ann"⟩ :: (List.range 64).flatMap (unicastTo aiEvent) ++
    [.frame 0 systemCmd, .route 64, .route 64]

def retriesUntilDisconnect : List Event :=
  [.retry 0, .retry 0, .retry 0, .tick (millis 50), .retry 0, .retry 0, .retry 0, .disconnect 0]

def retriesUntilDelivery : List Event :=
  [.retry 0, .retry 0, .retry 0, .recv 0, .tick (millis 5), .retry 0, .retry 0]

/-- Both outcomes occur: the command is given up, and a retry delivers it. -/
theorem commands_settled_refused :
    ∃ g next lost kept, run step new refusedCommand = some g ∧ g.step (.route 64) = some next ∧
      run step next retriesUntilDisconnect = some lost ∧
      (∃ connection, lost.connections[0]? = some connection ∧ connection.copies 64 = 0) ∧
      (∀ key, lost.entries key ≠ some 0) ∧
      run step next retriesUntilDelivery = some kept ∧
      (∃ connection, kept.connections[0]? = some connection ∧ connection.copies 64 = 1) ∧
      kept.entries ("r1", "ann") = some 0 := by
  have runs : (run step new refusedCommand).any (fun g => g.routes[64]?.any fun task =>
      (g.step (.route 64)).any fun next => (run step next retriesUntilDisconnect).any fun lost =>
        (run step next retriesUntilDelivery).any fun kept =>
          task.header.packetType = .systemCmd ∧ task.phase = .dispatching [("ann", 0)] ∧
            (∀ retry ∈ lost.retries, retry.phase = .disconnected) ∧
            (∀ connection ∈ lost.connections, connection.copies 64 = 0) ∧
            (∀ retry ∈ kept.retries, retry.phase = .delivered) ∧
            kept.entries ("r1", "ann") = some 0) = true := by decide +kernel
  obtain ⟨g, before, runs⟩ := (Option.any_eq_true _ _).mp runs
  obtain ⟨task, found, runs⟩ := (Option.any_eq_true _ _).mp runs
  obtain ⟨next, taken, runs⟩ := (Option.any_eq_true _ _).mp runs
  obtain ⟨lost, failed, runs⟩ := (Option.any_eq_true _ _).mp runs
  obtain ⟨kept, retried, runs⟩ := (Option.any_eq_true _ _).mp runs
  obtain ⟨type, phase, disconnected, none, delivered, entry⟩ := of_decide_eq_true runs
  have commands : g.Commands 64 0 := ⟨task, "ann", [], found, type, phase⟩
  obtain ⟨gone, here, given⟩ := commands_settled refusedCommand retriesUntilDisconnect g next lost 64 0
    before commands taken failed fun retry member _ _ => Or.inr (disconnected retry member)
  obtain ⟨served, there, kept'⟩ := commands_settled refusedCommand retriesUntilDelivery g next kept 64 0
    before commands taken retried fun retry member _ _ => Or.inl (delivered retry member)
  have none : gone.copies 64 = 0 := none gone (List.mem_of_getElem? here)
  have absent : ∀ key, lost.entries key ≠ some 0 := by
    rcases given with one | ⟨_, absent, _⟩
    · rw [none] at one
      cases one
    · exact absent
  have one : served.copies 64 = 1 := by
    rcases kept' with one | ⟨_, absent, _⟩
    · exact one
    · exact absurd entry (absent _)
  exact ⟨g, next, lost, kept, before, taken, failed, ⟨gone, here, none⟩, absent, retried,
    ⟨served, there, one⟩, entry⟩

end Runs

end WsGateway.Gateway
