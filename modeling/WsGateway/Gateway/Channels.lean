import WsGateway.Gateway.Effects
import WsGateway.Routing.Histories

/-! Each connection's channel against the model of one channel.

What a run of the gateway does at one channel is a run of the channel. So its
accounts hold in the gateway: a client is sent what its connection accepted, in
that order, less what a `RawMotion` packet took out of a full queue.
-/

set_option autoImplicit false

namespace WsGateway.Gateway
open Foundation Protocol Routing

section Channels

def removals (id : ConnectionId) (g : Gateway) (event : Event) : List (Outbound × Receiver.Removal) :=
  g.connections[id]?.elim [] fun connection =>
    (channelEvents id g event).flatMap fun
      | .check => (connection.channel.queue.take 1).map fun item => (item, .received)
      | .sendDropOldest _ =>
        if connection.channel.capacity ≤ connection.channel.queue.length then
          (connection.channel.queue.take 1).map fun item => (item, .evicted)
        else []
      | _ => []

variable {g next : Gateway} {id : ConnectionId}

/-- The channel of a connection between two calls of `recv`. Whoever pushes holds a
sender, and one sender stands for them all. -/
structure Follows (removed : List (Outbound × Receiver.Removal)) (connection : Connection)
    (s : Receiver.Channel Outbound) : Prop where
  phase : s.phase = .idle
  senders : s.senders = 1
  inner : s.inner = connection.channel
  accepted : s.accepted = connection.accepted
  removed : s.removed = removed

/-- Before the connection opens there is only the channel to be. -/
def ChannelRefines (id : ConnectionId) (removed : List (Outbound × Receiver.Removal)) (g : Gateway)
    (s : Receiver.Channel Outbound) : Prop :=
  match g.connections[id]? with
  | none => s = Receiver.start Outbound wsChannelCapacity ∧ removed = []
  | some connection => Follows removed connection s

section Steps

variable {removed : List (Outbound × Receiver.Removal)} {connection connection' : Connection}
  {s : Receiver.Channel Outbound} {item : Outbound}

theorem Follows.sender (follows : Follows removed connection s) : 0 < s.senders := by
  rw [follows.senders]
  exact Nat.one_pos

theorem Follows.sent (follows : Follows removed connection s)
    (sent : connection.trySend item = .ok connection') :
    ∃ s', run Receiver.step s [.trySend item] = some s' ∧ Follows removed connection' s' := by
  obtain ⟨fits, rfl⟩ := Connection.trySend_eq_ok.mp sent
  rw [← follows.inner] at fits
  have pushed : s.inner.trySend item = .ok _ := ChannelInner.trySend_eq_ok.mpr ⟨fits, rfl⟩
  have taken : Receiver.step s (.trySend item) = some (s.trySend item) := if_pos follows.sender
  refine ⟨s.trySend item, run_cons.mpr ⟨_, taken, rfl⟩, ?_⟩
  rw [Receiver.Channel.trySend, pushed]
  refine ⟨follows.phase, follows.senders, ?_, ?_, follows.removed⟩
  · simp only [follows.inner]
  · simp only [follows.accepted]

theorem Follows.refused (follows : Follows removed connection s)
    (full : connection.channel.capacity ≤ connection.channel.queue.length) (item : Outbound) :
    run Receiver.step s [.trySend item] = some s := by
  rw [← follows.inner] at full
  have refused : s.inner.trySend item = .error item := ChannelInner.trySend_eq_error.mpr ⟨full, rfl⟩
  have taken : Receiver.step s (.trySend item) = some (s.trySend item) := if_pos follows.sender
  rw [Receiver.Channel.trySend, refused] at taken
  exact run_cons.mpr ⟨s, taken, rfl⟩

theorem Follows.forced (follows : Follows removed connection s) (item : Outbound) :
    ∃ s', run Receiver.step s [.sendDropOldest item] = some s' ∧
      Follows (removed ++ if connection.channel.capacity ≤ connection.channel.queue.length then
        (connection.channel.queue.take 1).map fun item => (item, .evicted) else [])
        (connection.sendDropOldest item) s' := by
  have taken : Receiver.step s (.sendDropOldest item) = some (s.sendDropOldest item) :=
    if_pos follows.sender
  refine ⟨_, run_cons.mpr ⟨_, taken, rfl⟩, follows.phase, follows.senders, ?_, ?_, ?_⟩
  · simp only [Receiver.Channel.sendDropOldest, Connection.sendDropOldest, follows.inner]
  · simp only [Receiver.Channel.sendDropOldest, Connection.sendDropOldest, follows.accepted]
  · simp only [Receiver.Channel.sendDropOldest, follows.removed, follows.inner]
    split <;> rfl

theorem Follows.popped {queue : List Outbound} (follows : Follows removed connection s)
    (front : connection.channel.queue = item :: queue) :
    ∃ s', run Receiver.step s [.recv, .check] = some s' ∧
      Follows (removed ++ [(item, .received)])
        { connection with channel := { connection.channel with queue } } s' := by
  have called : Receiver.step s .recv = some { s with phase := .checking } := if_pos follows.phase
  have checked : Receiver.step { s with phase := .checking } .check =
      some (Receiver.Channel.check { s with phase := .checking }) := rfl
  have popped : s.inner.popFront = some (item, { s.inner with queue }) :=
    ChannelInner.popFront_eq_some.mpr ⟨queue, by rw [follows.inner, front], rfl⟩
  have polled : s.inner.poll (s.senders + 1) = .item item _ := ChannelInner.poll_eq_item.mpr popped
  refine ⟨_, run_cons.mpr ⟨_, called, run_cons.mpr ⟨_, checked, rfl⟩⟩, ?_⟩
  simp only [Receiver.Channel.check, polled]
  exact ⟨rfl, follows.senders, by rw [follows.inner], follows.accepted, by rw [follows.removed]⟩

end Steps

theorem channelEvents_absent {event : Event} (absent : g.connections[id]? = none)
    (taken : g.step event = some next) : channelEvents id g event = [] := by
  have closed {tx : ConnectionId} {connection : Connection} (there : g.connections[tx]? = some connection) :
      tx ≠ id := by
    rintro rfl
    rw [absent] at there
    cases there
  cases event with
  | recv other =>
    obtain ⟨_, _, _, there, _⟩ := recv_eq_some.mp taken
    exact if_neg (closed there)
  | route packet =>
    obtain ⟨task, found, routed⟩ := routed taken
    cases routed with
    | dispatched phase dispatched =>
      rw [channelEvents_dispatch id found phase]
      cases dispatched with
      | sent there => exact if_neg (closed there)
      | forced there => exact if_neg (closed there)
      | refused there => exact if_neg (closed there)
      | dropped there => exact if_neg (closed there)
    | resolved phase => simp only [channelEvents, found, Option.elim_some, phase]
    | collected phase => simp only [channelEvents, found, Option.elim_some, phase]
    | found phase => simp only [channelEvents, found, Option.elim_some, phase]
    | missing phase => simp only [channelEvents, found, Option.elim_some, phase]
    | returned phase => simp only [channelEvents, found, Option.elim_some, phase]
  | retry n =>
    obtain ⟨task, found, retried⟩ := retried taken
    cases retried with
    | delivered phase there => exact (channelEvents_trying id found phase).trans (if_neg (closed there))
    | refused phase there => exact (channelEvents_trying id found phase).trans (if_neg (closed there))
    | started phase => simp only [channelEvents, found, Option.elim_some, phase]
    | expired phase => simp only [channelEvents, found, Option.elim_some, phase]
    | paused phase => simp only [channelEvents, found, Option.elim_some, phase]
    | woken phase => simp only [channelEvents, found, Option.elim_some, phase]
  | _ => rfl

theorem channelRefines_step (id : ConnectionId) (removed : List (Outbound × Receiver.Removal))
    (g : Gateway) (event : Event) (next : Gateway) (s : Receiver.Channel Outbound)
    (refines : ChannelRefines id removed g s) (taken : g.step event = some next) :
    ∃ s', run Receiver.step s (channelEvents id g event) = some s' ∧
      ChannelRefines id (removed ++ removals id g event) next s' := by
  cases here : g.connections[id]? with
  | none =>
    rw [ChannelRefines, here] at refines
    obtain ⟨rfl, rfl⟩ := refines
    rw [channelEvents_absent here taken, removals, here]
    refine ⟨_, rfl, ?_⟩
    cases there : next.connections[id]? with
    | none => rw [ChannelRefines, there]; exact ⟨rfl, rfl⟩
    | some connection =>
      obtain ⟨_, _, room, user, _, _, rfl⟩ := opened_step here there taken
      rw [ChannelRefines, there]
      exact ⟨rfl, rfl, rfl, rfl, rfl⟩
  | some connection =>
    rw [ChannelRefines, here] at refines
    have follows : Follows removed connection s := refines
    obtain ⟨connection', there, stepped⟩ := channelStep here taken
    rw [removals, here, Option.elim_some]
    simp only [ChannelRefines, there]
    cases stepped with
    | kept none _ channel accepted =>
      rw [none, List.flatMap_nil, List.append_nil]
      exact ⟨s, rfl, { follows with
        inner := follows.inner.trans channel.symm
        accepted := follows.accepted.trans accepted.symm }⟩
    | refused tried full =>
      rw [tried, List.flatMap_singleton, List.append_nil]
      exact ⟨s, follows.refused full _, follows⟩
    | popped front =>
      simp only [channelEvents, if_true, front]
      exact follows.popped front
    | @sent packet task _ _ _ found phase other sent =>
      rw [channelEvents_dispatch id found phase, if_pos rfl, offer_of_ne other, List.flatMap_singleton,
        List.append_nil]
      exact follows.sent sent
    | forced found phase type =>
      rw [channelEvents_dispatch id found phase, if_pos rfl, offer_rawMotion type, List.flatMap_singleton]
      exact follows.forced _
    | retried found same phase sent =>
      rw [channelEvents_trying id found phase, if_pos same, List.flatMap_singleton, List.append_nil]
      exact follows.sent sent

theorem refines_run (id : ConnectionId) {events : List Event} (ran : run step new events = some g) :
    ∃ s, run Receiver.step (Receiver.start Outbound wsChannelCapacity)
      (record step (channelEvents id) new events) = some s ∧
        ChannelRefines id (record step (removals id) new events) g s :=
  simulate (channelRefines_step id)
    (show ChannelRefines id [] new (Receiver.start Outbound wsChannelCapacity) from ⟨rfl, rfl⟩) ran

theorem accepted_run {events : List Event} {connection : Connection} (ran : run step new events = some g)
    (here : g.connections[id]? = some connection) :
    connection.accepted =
      (record step (removals id) new events).map Prod.fst ++ connection.channel.queue ∧
    connection.channel.queue.length ≤ wsChannelCapacity := by
  obtain ⟨s, onward, refines⟩ := refines_run id ran
  rw [ChannelRefines, here] at refines
  have follows : Follows _ connection s := refines
  have accounted : Receiver.Accounted wsChannelCapacity s :=
    (Receiver.accounted_step (by decide)).run (Receiver.accounted_start _) onward
  rw [← follows.accepted, ← follows.removed, ← follows.inner]
  exact ⟨accounted.accepted, accounted.bounded⟩

/-- What the gateway does at a connection's channel is a run of the channel, and what
the connection accepted is what left its queue and then what waits in it. -/
theorem channel_refined (events : List Event) (g : Gateway) (ran : run step new events = some g)
    (id : ConnectionId) (connection : Connection) (here : g.connections[id]? = some connection) :
    (∃ s, run Receiver.step (Receiver.start Outbound wsChannelCapacity)
        (record step (channelEvents id) new events) = some s ∧ s.inner = connection.channel ∧
      s.accepted = connection.accepted ∧ s.removed = record step (removals id) new events) ∧
    connection.accepted =
      (record step (removals id) new events).map Prod.fst ++ connection.channel.queue ∧
    connection.channel.queue.length ≤ wsChannelCapacity := by
  obtain ⟨s, onward, refines⟩ := refines_run id ran
  rw [ChannelRefines, here] at refines
  have follows : Follows _ connection s := refines
  exact ⟨⟨s, onward, follows.inner, follows.accepted, follows.removed⟩, accepted_run ran here⟩

def motionReceived : List Event :=
  .connect ⟨"r1", "ann"⟩ :: unicastTo rawMotion 0 ++ [.recv 0]

theorem motionReceived_runs :
    ∃ g connection, run step new motionReceived = some g ∧ g.connections[0]? = some connection := by
  have runs : (run step new motionReceived).any (fun g => g.connections[0]?.isSome) = true := by
    decide +kernel
  obtain ⟨g, ran, runs⟩ := (Option.any_eq_true _ _).mp runs
  obtain ⟨connection, here⟩ := Option.isSome_iff_exists.mp runs
  exact ⟨g, connection, ran, here⟩

theorem channel_refined_received :
    ∃ g connection, run step new motionReceived = some g ∧ g.connections[0]? = some connection ∧
      connection.accepted =
        (record step (removals 0) new motionReceived).map Prod.fst ++ connection.channel.queue := by
  obtain ⟨g, connection, ran, here⟩ := motionReceived_runs
  exact ⟨g, connection, ran, here, (channel_refined motionReceived g ran 0 connection here).2.1⟩

end Channels

section Order

variable {g next : Gateway} {id : ConnectionId}

def dispatchedTo (id : ConnectionId) (g : Gateway) : Event → List Outbound
  | .route packet => (channelEvents id g (.route packet)).flatMap fun
    | .trySend item | .sendDropOldest item => [item]
    | _ => []
  | _ => []

def unretried (id : ConnectionId) (g : Gateway) (item : Outbound) : Bool :=
  g.retries.all fun task => task.tx = id → task.item ≠ item

theorem unretried_iff {item : Outbound} :
    g.unretried id item = true ↔ ∀ task ∈ g.retries, task.tx = id → task.item ≠ item := by
  simp only [unretried, List.all_eq_true, decide_eq_true_iff]

theorem unretried_step {event : Event} {item : Outbound} (taken : g.step event = some next)
    (unretried : next.unretried id item = true) : g.unretried id item = true := by
  rw [unretried_iff] at *
  intro task member
  cases retriesStep taken with
  | kept _ retries => exact unretried task (retries ▸ member)
  | spawned _ _ _ _ _ retries => exact unretried task (retries ▸ List.mem_append_left _ member)
  | @moved other old phase _ _ found _ retries =>
    obtain ⟨i, here⟩ := List.mem_iff_getElem?.mp member
    have there : next.retries[i]? = some (if other = i then { task with phase } else task) := by
      rw [retries, List.getElem?_modify, here]
      rfl
    have kept := unretried _ (List.mem_of_getElem? there)
    split at kept
    next => exact kept
    next => exact kept

theorem filter_unretried_step {event : Event} (taken : g.step event = some next) (items : List Outbound) :
    (items.filter (next.unretried id)).Sublist (items.filter (g.unretried id)) :=
  List.monotone_filter_right items fun _ unretried => unretried_step taken unretried

def OrderKept (id : ConnectionId) (dispatched : List Outbound) (g : Gateway) : Prop :=
  ∀ connection, g.connections[id]? = some connection →
    (connection.accepted.filter (g.unretried id)).Sublist dispatched

theorem orderKept_step (id : ConnectionId) (dispatched : List Outbound) (g : Gateway) (event : Event)
    (next : Gateway) (ordered : OrderKept id dispatched g) (taken : g.step event = some next) :
    OrderKept id (dispatched ++ dispatchedTo id g event) next := by
  intro connection' there
  cases here : g.connections[id]? with
  | none =>
    obtain ⟨_, _, _, _, _, _, rfl⟩ := opened_step here there taken
    exact List.nil_sublist _
  | some connection =>
    have before : (connection.accepted.filter (next.unretried id)).Sublist dispatched :=
      (filter_unretried_step taken _).trans (ordered connection here)
    obtain ⟨connection'', there', stepped⟩ := channelStep here taken
    rw [there] at there'
    cases there'
    cases stepped with
    | kept _ _ _ accepted =>
      rw [accepted]
      exact before.trans (List.sublist_append_left _ _)
    | refused => exact before.trans (List.sublist_append_left _ _)
    | popped => exact before.trans (List.sublist_append_left _ _)
    | @sent packet task _ _ _ found phase other sent =>
      have events := channelEvents_dispatch id found phase
      rw [if_pos rfl, offer_of_ne other] at events
      rw [(Connection.accepts_of_trySend sent).accepted, List.filter_append, dispatchedTo, events]
      exact before.append List.filter_sublist
    | @forced packet task _ _ found phase type =>
      have events := channelEvents_dispatch id found phase
      rw [if_pos rfl, offer_rawMotion type] at events
      rw [(Connection.accepts_sendDropOldest _ _).accepted, List.filter_append, dispatchedTo, events]
      exact before.append List.filter_sublist
    | @retried n _ task _ found same phase sent =>
      -- The item has a retry, so it does not count.
      have later : next.unretried id task.item = false := by
        rw [← Bool.not_eq_true]
        intro unretried
        have kept := unretried_step taken unretried
        exact unretried_iff.mp kept task (List.mem_of_getElem? found) same rfl
      rw [(Connection.accepts_of_trySend sent).accepted, List.filter_append,
        List.filter_singleton, later]
      simpa [dispatchedTo] using before

theorem unretried_of_packetType (sound : Sound g) (commands : RetriesCommands g) {item : Outbound}
    (other : item.packetType ≠ some .systemCmd) : g.unretried id item = true := by
  rw [unretried_iff]
  rintro task member - rfl
  obtain ⟨arrival, arrived, command⟩ := commands task member
  obtain ⟨_, arrival', _, arrived', bytes, _⟩ := sound.retries task member
  rw [arrived] at arrived'
  cases arrived'
  refine other ?_
  rw [Outbound.packetType, bytes, sound.decoded arrival (List.mem_of_getElem? arrived)]
  exact congrArg some command

def sentBesidesCommands (removed : List (Outbound × Receiver.Removal)) : List Outbound :=
  (removed.filter fun entry => entry.2 = .received ∧ entry.1.packetType ≠ some .systemCmd).map Prod.fst

/-- A connection accepts in the order in which items are dispatched to it, except for
retried ones; so what its client is sent besides commands comes in that order. -/
theorem order_kept (events : List Event) (g : Gateway) (ran : run step new events = some g)
    (id : ConnectionId) (connection : Connection) (here : g.connections[id]? = some connection) :
    (connection.accepted.filter (g.unretried id)).Sublist
      (record step (dispatchedTo id) new events) ∧
    (sentBesidesCommands (record step (removals id) new events)).Sublist
      (record step (dispatchedTo id) new events) := by
  have ordered : OrderKept id (record step (dispatchedTo id) new events) g := by
    refine record_run (orderKept_step id) ?_ ran
    rintro connection ⟨⟩
  have accepted := ordered connection here
  refine ⟨accepted, List.Sublist.trans ?_ accepted⟩
  have ⟨_, sound, _⟩ := reached ran
  have commands : RetriesCommands g := retriesCommands_step.run retriesCommands_new ran
  rw [(accepted_run ran here).1, List.filter_append, List.filter_map]
  refine List.Sublist.trans (List.Sublist.map _ ?_) (List.sublist_append_left _ _)
  refine List.monotone_filter_right _ fun entry sent => ?_
  exact unretried_of_packetType sound commands (of_decide_eq_true sent).2

theorem order_kept_received :
    ∃ g connection, run step new motionReceived = some g ∧ g.connections[0]? = some connection ∧
      (sentBesidesCommands (record step (removals 0) new motionReceived)).Sublist
        (record step (dispatchedTo 0) new motionReceived) := by
  obtain ⟨g, connection, ran, here⟩ := motionReceived_runs
  exact ⟨g, connection, ran, here, (order_kept motionReceived g ran 0 connection here).2⟩

end Order

end WsGateway.Gateway
