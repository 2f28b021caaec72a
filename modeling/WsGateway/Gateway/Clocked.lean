import WsGateway.Gateway.Heartbeat
import WsGateway.Gateway.Revocation

/-! The gateway with the select loops of all its connections and one clock.

Every connection has its session. A step of a loop is taken together with what it
does to the gateway, and time passes for all sessions at once, so only while every
loop can wait. A session's entry is lost at the step that takes it out of the
registry, whoever takes it.
-/

set_option autoImplicit false

namespace WsGateway
open Foundation Protocol Routing

namespace Gateway

def Listed (g : Gateway) (id : ConnectionId) : Prop :=
  ∃ key ∈ g.registry.rooms.pairs, g.entries key = some id

instance (g : Gateway) (id : ConnectionId) : Decidable (g.Listed id) :=
  inferInstanceAs (Decidable (∃ key ∈ _, _))

/-- Neither an entry nor a task has the connection's sender. -/
def Senderless (g : Gateway) (id : ConnectionId) : Prop :=
  ¬ g.Listed id ∧ (∀ task ∈ g.routes, id ∉ task.phase.targets.map Prod.snd) ∧
    ∀ task ∈ g.retries, task.tx = id → task.phase = .delivered ∨ task.phase = .disconnected

instance (g : Gateway) (id : ConnectionId) : Decidable (g.Senderless id) :=
  inferInstanceAs (Decidable (_ ∧ _))

def RecvsNone (g : Gateway) (id : ConnectionId) : Prop :=
  (∀ connection ∈ g.connections[id]?, connection.channel.queue = []) ∧ g.Senderless id

instance (g : Gateway) (id : ConnectionId) : Decidable (g.RecvsNone id) :=
  inferInstanceAs (Decidable (_ ∧ _))

def Event.OfTask : Event → Prop
  | .datagram _ | .route _ | .visit _ _ | .retry _ | .disconnect _ | .testEmpty _ | .removeIf _ => True
  | .connect _ | .exit _ | .cleanup _ | .frame _ _ | .recv _ | .tick _ => False

instance (event : Event) : Decidable event.OfTask :=
  match event with
  | .datagram _ | .route _ | .visit _ _ | .retry _ | .disconnect _ | .testEmpty _ | .removeIf _ =>
    isTrue trivial
  | .connect _ | .exit _ | .cleanup _ | .frame _ _ | .recv _ | .tick _ => isFalse id

theorem Event.OfTask.elapsed {event : Event} (own : event.OfTask) : event.elapsed = 0 := by
  cases event with
  | tick => cases own
  | _ => rfl

end Gateway

namespace Heartbeat

def Event.OfLoop : Event → Prop
  | .arrive _ | .next | .recv | .recvNone | .tick | .sent | .sendFailed | .cleanup => True
  | .entryLost | .elapse _ => False

instance (event : Event) : Decidable event.OfLoop :=
  match event with
  | .arrive _ | .next | .recv | .recvNone | .tick | .sent | .sendFailed | .cleanup => isTrue trivial
  | .entryLost | .elapse _ => isFalse id

namespace Session

/-- What a step of the loop does to the gateway, with the bytes of the frame that it
reads if it reads a binary one. -/
def gatewayEvents (s : Session) (id : ConnectionId) (data : Bytes) : Event → List Gateway.Event
  | .next =>
    match s.inbox with
    | [] => []
    | inbound :: _ =>
      match inbound.message with
      | .binary => [.frame id data]
      | .text | .ping | .pong => []
      | .close | .ended | .failed => [.exit id]
  | .recv => [.recv id]
  | .sent => if s.phase = .sendingPing ∧ pongTimeout < s.now - s.lastAlive then [.exit id] else []
  | .recvNone | .sendFailed => [.exit id]
  | .cleanup => [.cleanup id]
  | .arrive _ | .tick | .entryLost | .elapse _ => []

end Session

end Heartbeat

/-- The gateway, and each connection's session in its place. -/
structure Clocked where
  gateway : Gateway
  sessions : List Heartbeat.Session

namespace Clocked
open Heartbeat (Session)

inductive Event where
  | connect (params : WsParams)
  | loop (id : ConnectionId) (event : Heartbeat.Event) (data : Bytes)
  | task (event : Gateway.Event)
  | elapse (duration : Nat)

def new : Clocked := ⟨.new, []⟩

/-- Sessions whose entries are gone know it. -/
def settle (c : Clocked) : Clocked :=
  { c with sessions := c.sessions.mapIdx fun id s =>
      { s with registered := s.registered && c.gateway.Listed id } }

def advance (c : Clocked) : Event → Option Clocked
  | .connect params =>
    (c.gateway.step (.connect params)).map fun gateway =>
      ⟨gateway, c.sessions ++ [.start c.gateway.now]⟩
  | .loop id event data =>
    c.sessions[id]?.bind fun s =>
      if event.OfLoop ∧ (event = .recvNone → c.gateway.RecvsNone id) then
        (s.step event).bind fun s' =>
          (run Gateway.step c.gateway (s.gatewayEvents id data event)).map fun gateway =>
            ⟨gateway, c.sessions.set id s'⟩
      else none
  | .task event =>
    if event.OfTask then (c.gateway.step event).map fun gateway => { c with gateway } else none
  | .elapse duration =>
    if ∀ s ∈ c.sessions, s.CanWait duration then
      (c.gateway.step (.tick duration)).map fun gateway =>
        ⟨gateway, c.sessions.map fun s => { s with now := s.now + duration }⟩
    else none

def step (c : Clocked) (event : Event) : Option Clocked := (c.advance event).map settle

def gatewayEvents (c : Clocked) : Event → List Gateway.Event
  | .connect params => [.connect params]
  | .loop id event data => c.sessions[id]?.elim [] fun s => s.gatewayEvents id data event
  | .task event => [event]
  | .elapse duration => [.tick duration]

def ownEvents (id : ConnectionId) : Event → List Heartbeat.Event
  | .loop other event _ => if other = id then [event] else []
  | .elapse duration => [.elapse duration]
  | .connect _ | .task _ => []

def sessionEvents (id : ConnectionId) (c : Clocked) (event : Event) : List Heartbeat.Event :=
  ownEvents id event ++
    if (c.step event).any fun next => ¬ next.gateway.Listed id then [.entryLost] else []

theorem mem_sessionEvents {c : Clocked} {id : ConnectionId} {event : Event} {own : Heartbeat.Event}
    (member : own ∈ sessionEvents id c event) : own ∈ ownEvents id event ∨ own = .entryLost := by
  rcases List.mem_append.mp member with inside | lost
  · exact Or.inl inside
  · split at lost
    · exact Or.inr (List.mem_singleton.mp lost)
    · cases lost

section Steps

variable {c next : Clocked}

inductive Advanced (c : Clocked) : Event → Clocked → Prop where
  | connected {params : WsParams} {gateway : Gateway} :
      c.gateway.step (.connect params) = some gateway →
      Advanced c (.connect params) ⟨gateway, c.sessions ++ [.start c.gateway.now]⟩
  | looped {id : ConnectionId} {event : Heartbeat.Event} {data : Bytes} {s s' : Session}
      {gateway : Gateway} : c.sessions[id]? = some s → event.OfLoop →
      (event = .recvNone → c.gateway.RecvsNone id) → s.step event = some s' →
      run Gateway.step c.gateway (s.gatewayEvents id data event) = some gateway →
      Advanced c (.loop id event data) ⟨gateway, c.sessions.set id s'⟩
  | worked {event : Gateway.Event} {gateway : Gateway} : event.OfTask →
      c.gateway.step event = some gateway → Advanced c (.task event) { c with gateway }
  | elapsed {duration : Nat} {gateway : Gateway} : (∀ s ∈ c.sessions, s.CanWait duration) →
      c.gateway.step (.tick duration) = some gateway → Advanced c (.elapse duration)
        ⟨gateway, c.sessions.map fun s => { s with now := s.now + duration }⟩

theorem advanced {event : Event} (taken : c.step event = some next) :
    ∃ middle, Advanced c event middle ∧ middle.settle = next := by
  obtain ⟨middle, taken, settled⟩ := Option.map_eq_some_iff.mp taken
  refine ⟨middle, ?_, settled⟩
  cases event with
  | connect params =>
    obtain ⟨gateway, connected, rfl⟩ := Option.map_eq_some_iff.mp taken
    exact .connected connected
  | loop id event data =>
    obtain ⟨s, here, taken⟩ := Option.bind_eq_some_iff.mp taken
    obtain ⟨⟨own, none⟩, taken⟩ := Option.ite_none_right_eq_some.mp taken
    obtain ⟨s', stepped, taken⟩ := Option.bind_eq_some_iff.mp taken
    obtain ⟨gateway, ran, rfl⟩ := Option.map_eq_some_iff.mp taken
    exact .looped here own none stepped ran
  | task event =>
    obtain ⟨own, taken⟩ := Option.ite_none_right_eq_some.mp taken
    obtain ⟨gateway, worked, rfl⟩ := Option.map_eq_some_iff.mp taken
    exact .worked own worked
  | elapse duration =>
    obtain ⟨waits, taken⟩ := Option.ite_none_right_eq_some.mp taken
    obtain ⟨gateway, passed, rfl⟩ := Option.map_eq_some_iff.mp taken
    exact .elapsed waits passed

theorem gateway_step {event : Event} (taken : c.step event = some next) :
    run Gateway.step c.gateway (c.gatewayEvents event) = some next.gateway := by
  obtain ⟨middle, advanced, rfl⟩ := advanced taken
  cases advanced with
  | connected connected => exact run_cons.mpr ⟨_, connected, rfl⟩
  | looped here _ _ _ ran =>
    rw [gatewayEvents, here]
    exact ran
  | worked _ worked => exact run_cons.mpr ⟨_, worked, rfl⟩
  | elapsed _ passed => exact run_cons.mpr ⟨_, passed, rfl⟩

theorem gateway_run {events : List Event} (ran : run step c events = some next) :
    run Gateway.step c.gateway (record step gatewayEvents c events) = some next.gateway := by
  obtain ⟨g, onward, rfl⟩ := simulate_run (R := fun (c : Clocked) g => c.gateway = g)
    (fun c event next g same taken => ⟨_, same ▸ gateway_step taken, rfl⟩) rfl ran
  exact onward

theorem getElem?_settle (c : Clocked) (id : ConnectionId) :
    c.settle.sessions[id]? = c.sessions[id]?.map fun s =>
      { s with registered := s.registered && c.gateway.Listed id } := by
  rw [settle, List.getElem?_mapIdx]

theorem session_step {id : ConnectionId} {s : Session} {event : Event}
    (here : c.sessions[id]? = some s) (taken : c.step event = some next) :
    ∃ s', run Session.step s (sessionEvents id c event) = some s' ∧ next.sessions[id]? = some s' := by
  obtain ⟨middle, advanced, rfl⟩ := advanced taken
  -- The loop's own step or none comes first, and then the loss of the entry if it is gone.
  have settled {s' : Session} (there : middle.sessions[id]? = some s')
      (own : run Session.step s (ownEvents id event) = some s') :
      ∃ s', run Session.step s (sessionEvents id c event) = some s' ∧
        middle.settle.sessions[id]? = some s' := by
    refine ⟨_, ?_, by rw [getElem?_settle, there]; rfl⟩
    rw [sessionEvents, run_append, own, Option.bind_some, taken, Option.any_some]
    by_cases listed : middle.gateway.Listed id
    · simp [settle, listed, run]
    · simp [settle, listed, run, Session.step]
  cases advanced with
  | connected => exact settled ((List.getElem?_append_left (lt_length_of_found here)).trans here) rfl
  | @looped other event _ s₀ s' _ there _ _ stepped _ =>
    by_cases same : other = id
    · subst same
      rw [here] at there
      cases there
      refine settled ((getElem?_set_eq_some here).mpr (Or.inl ⟨rfl, rfl⟩)) ?_
      rw [ownEvents, if_pos rfl]
      exact run_cons.mpr ⟨s', stepped, rfl⟩
    · refine settled ((List.getElem?_set_ne same).trans here) ?_
      rw [ownEvents, if_neg same]
      rfl
  | worked => exact settled here rfl
  | @elapsed duration _ waits =>
    refine settled (by rw [List.getElem?_map, here]; rfl) ?_
    refine run_cons.mpr ⟨_, ?_, rfl⟩
    rw [Session.step, if_pos (waits s (List.mem_of_getElem? here))]

end Steps

section Agreement

variable {c next : Clocked} {g gateway : Gateway} {id : ConnectionId}

theorem listed_iff : g.Listed id ↔ ∃ key, g.entries key = some id := by
  constructor
  · rintro ⟨key, _, entry⟩
    exact ⟨key, entry⟩
  · rintro ⟨key, entry⟩
    exact ⟨key, NestedMap.mem_pairs.mpr ⟨id, entry⟩, entry⟩

/-- The sessions are where the gateway's connections are, at its time, and know
which of them are registered. -/
structure Agrees (c : Clocked) : Prop where
  clock : ∀ s ∈ c.sessions, s.now = c.gateway.now
  phases : c.sessions.map Session.connectionPhase = c.gateway.profile.map Prod.snd
  registered : ∀ id s, c.sessions[id]? = some s → (s.registered = true ↔ c.gateway.Listed id)

theorem Agrees.length (agrees : Agrees c) : c.sessions.length = c.gateway.connections.length := by
  simpa using congrArg List.length agrees.phases

theorem Agrees.connection {s : Session} (agrees : Agrees c) (here : c.sessions[id]? = some s) :
    ∃ connection, c.gateway.connections[id]? = some connection ∧
      connection.phase = s.connectionPhase := by
  have phase : (c.gateway.profile.map Prod.snd)[id]? = some s.connectionPhase := by
    rw [← agrees.phases, List.getElem?_map, here]
    rfl
  rw [Gateway.profile, List.map_map, List.getElem?_map] at phase
  exact Option.map_eq_some_iff.mp phase

theorem Agrees.session (agrees : Agrees c) (sound : c.gateway.Sound) {key : Gateway.Key}
    (entry : c.gateway.entries key = some id) :
    ∃ s, c.sessions[id]? = some s ∧ s.registered = true := by
  have opened : id < c.sessions.length := by
    have under := lt_length_of_found (sound.entries key id entry)
    rwa [Gateway.length_keys, ← agrees.length] at under
  have here := List.getElem?_eq_getElem opened
  exact ⟨_, here, (agrees.registered id _ here).mpr (listed_iff.mpr ⟨key, entry⟩)⟩

theorem agrees_new : Agrees new where
  clock _ member := by cases member
  phases := rfl
  registered _ _ here := by cases here

/-- Sessions that have not heard of a lost entry yet agree as soon as they have. -/
theorem agrees_settle (clock : ∀ s ∈ c.sessions, s.now = c.gateway.now)
    (same : c.sessions.map Session.connectionPhase = c.gateway.profile.map Prod.snd)
    (registered : ∀ id s, c.sessions[id]? = some s → c.gateway.Listed id → s.registered = true) :
    Agrees c.settle := by
  refine ⟨?_, ?_, ?_⟩
  · intro s member
    obtain ⟨id, here⟩ := List.mem_iff_getElem?.mp member
    rw [getElem?_settle] at here
    obtain ⟨s', there, rfl⟩ := Option.map_eq_some_iff.mp here
    exact clock s' (List.mem_of_getElem? there)
  · change _ = c.gateway.profile.map Prod.snd
    rw [← same]
    apply List.ext_getElem?
    intro id
    rw [List.getElem?_map, List.getElem?_map, getElem?_settle, Option.map_map]
    rfl
  · intro id s here
    rw [getElem?_settle] at here
    obtain ⟨s', there, rfl⟩ := Option.map_eq_some_iff.mp here
    change (s'.registered && decide (c.gateway.Listed id)) = true ↔ c.gateway.Listed id
    rw [Bool.and_eq_true, decide_eq_true_eq]
    exact ⟨And.right, fun listed => ⟨registered id s' there listed, listed⟩⟩

theorem listed_of_step {event : Gateway.Event} (opened : id < g.connections.length)
    (taken : g.step event = some gateway) (listed : gateway.Listed id) : g.Listed id := by
  by_contra absent
  obtain ⟨key, entry⟩ := listed_iff.mp listed
  refine Gateway.unregistered_step opened (fun key before => ?_) taken key entry
  exact absent (listed_iff.mpr ⟨key, before⟩)

inductive Seen (id : ConnectionId) (data : Bytes) (s s' : Session) :
    Heartbeat.Event → List Gateway.Event → Prop where
  | nothing {event : Heartbeat.Event} : s'.connectionPhase = s.connectionPhase →
      Seen id data s s' event []
  | frame : s.connectionPhase = .running → s'.connectionPhase = .running →
      Seen id data s s' .next [.frame id data]
  | recv : s.connectionPhase = .running → s'.connectionPhase = .running →
      Seen id data s s' .recv [.recv id]
  | exit {event : Heartbeat.Event} : s.connectionPhase = .running → s'.connectionPhase = .exited →
      Seen id data s s' event [.exit id]
  | cleanup : s.connectionPhase = .exited → s'.connectionPhase = .closed →
      Seen id data s s' .cleanup [.cleanup id]

theorem seen {s s' : Session} {event : Heartbeat.Event} (id : ConnectionId) (data : Bytes)
    (stepped : s.step event = some s') :
    Seen id data s s' event (s.gatewayEvents id data event) := by
  have running (phase : s.phase = .select ∨ s.Writing) : s.connectionPhase = .running := by
    rcases phase with phase | phase | phase <;> rw [Session.connectionPhase, phase]
  cases Session.stepped stepped with
  | arrived => exact .nothing rfl
  | entryLost => exact .nothing rfl
  | elapsed => exact .nothing rfl
  | @read inbound _ phase front alive =>
    have here := running (Or.inl phase)
    cases message : inbound.message with
    | binary =>
      simp only [Session.gatewayEvents, front, message]
      exact .frame here here
    | text => simp only [Session.gatewayEvents, front, message]; exact .nothing rfl
    | ping => simp only [Session.gatewayEvents, front, message]; exact .nothing rfl
    | pong => simp only [Session.gatewayEvents, front, message]; exact .nothing rfl
    | _ => rw [message] at alive; cases alive
  | @left inbound _ phase front ended =>
    have here := running (Or.inl phase)
    cases message : inbound.message with
    | close => simp only [Session.gatewayEvents, front, message]; exact .exit here rfl
    | ended => simp only [Session.gatewayEvents, front, message]; exact .exit here rfl
    | failed => simp only [Session.gatewayEvents, front, message]; exact .exit here rfl
    | _ => rw [message] at ended; cases ended
  | sending phase => exact .recv (running (Or.inl phase)) rfl
  | senderless phase => exact .exit (running (Or.inl phase)) rfl
  | pinging phase => exact .nothing (running (Or.inl phase)).symm
  | sentData phase =>
    have no : ¬ (s.phase = .sendingPing ∧ Heartbeat.pongTimeout < s.now - s.lastAlive) := by
      simp [phase]
    rw [Session.gatewayEvents, if_neg no]
    exact .nothing (running (Or.inr (Or.inl phase))).symm
  | timedOut phase late =>
    rw [Session.gatewayEvents, if_pos ⟨phase, late⟩]
    exact .exit (running (Or.inr (Or.inr phase))) rfl
  | sentPing phase fresh =>
    rw [Session.gatewayEvents, if_neg fun late => Nat.not_lt_of_le fresh late.2]
    exact .nothing (running (Or.inr (Or.inr phase))).symm
  | broken writing => exact .exit (running (Or.inr writing)) rfl
  | cleaned phase => exact .cleanup (by rw [Session.connectionPhase, phase]) rfl

theorem phases_looped {s s' : Session} {event : Heartbeat.Event} {data : Bytes}
    (here : (g.profile.map Prod.snd)[id]? = some s.connectionPhase) (stepped : s.step event = some s')
    (ran : run Gateway.step g (s.gatewayEvents id data event) = some gateway) :
    gateway.profile.map Prod.snd = (g.profile.map Prod.snd).set id s'.connectionPhase := by
  have kept (same : s'.connectionPhase = s.connectionPhase) (profile : gateway.profile = g.profile) :
      gateway.profile.map Prod.snd = (g.profile.map Prod.snd).set id s'.connectionPhase := by
    rw [profile, same, set_found here]
  have seen := seen id data stepped
  generalize s.gatewayEvents id data event = events at seen ran
  cases seen with
  | nothing same =>
    cases ran
    exact kept same rfl
  | frame before after =>
    exact kept (after.trans before.symm)
      (Gateway.profile_kept (run_singleton.mp ran) (by simp) (by simp) (by simp))
  | recv before after =>
    exact kept (after.trans before.symm)
      (Gateway.profile_kept (run_singleton.mp ran) (by simp) (by simp) (by simp))
  | exit _ after => rw [Gateway.phases_exit (run_singleton.mp ran), after]
  | cleanup _ after => rw [Gateway.phases_cleanup (run_singleton.mp ran), after]

theorem looped_quiet {s s' : Session} {event : Heartbeat.Event} {data : Bytes}
    (stepped : s.step event = some s')
    (ran : run Gateway.step g (s.gatewayEvents id data event) = some gateway) :
    gateway.now = g.now ∧
      ∀ other < g.connections.length, gateway.Listed other → g.Listed other := by
  have one {own : Gateway.Event} (untimed : own.elapsed = 0)
      (ran : run Gateway.step g [own] = some gateway) : gateway.now = g.now ∧
        ∀ other < g.connections.length, gateway.Listed other → g.Listed other := by
    have taken := run_singleton.mp ran
    refine ⟨?_, fun _ opened listed => listed_of_step opened taken listed⟩
    rw [Gateway.now_step taken, untimed, Nat.add_zero]
  have seen := seen id data stepped
  generalize s.gatewayEvents id data event = events at seen ran
  cases seen with
  | nothing =>
    cases ran
    exact ⟨rfl, fun _ _ listed => listed⟩
  | frame => exact one rfl ran
  | recv => exact one rfl ran
  | exit => exact one rfl ran
  | cleanup => exact one rfl ran

theorem unlisted_of_cleanup (sound : g.Sound) (taken : g.step (.cleanup id) = some gateway) :
    ¬ gateway.Listed id := by
  intro listed
  obtain ⟨key, entry⟩ := listed_iff.mp listed
  cases Gateway.lifecycle taken with
  | quiet other => exact absurd rfl (other id)
  | @cleanup _ closed found entries =>
    rw [entries, Function.update_apply] at entry
    split at entry
    next => cases entry
    next different =>
      have under := sound.entries key id entry
      rw [Gateway.keys_eq, List.getElem?_map, found] at under
      exact different (Option.some.inj under).symm

theorem registered_looped {s s' : Session} {event : Heartbeat.Event} (own : event.OfLoop)
    (stepped : s.step event = some s') (stays : event ≠ .cleanup) :
    s'.registered = s.registered := by
  cases Session.stepped stepped with
  | entryLost => cases own
  | elapsed => cases own
  | cleaned => exact absurd rfl stays
  | _ => rfl

theorem now_looped {s s' : Session} {event : Heartbeat.Event} (own : event.OfLoop)
    (stepped : s.step event = some s') : s'.now = s.now := by
  cases Session.stepped stepped with
  | elapsed => cases own
  | _ => rfl

theorem agrees_step : Invariant step fun c => c.gateway.Sound ∧ Agrees c := by
  rintro c event next ⟨sound, agrees⟩ taken
  refine ⟨Gateway.sound_step.run sound (gateway_step taken), ?_⟩
  obtain ⟨middle, advanced, rfl⟩ := advanced taken
  have opened {id : ConnectionId} {s : Session} (here : c.sessions[id]? = some s) :
      id < c.gateway.connections.length := agrees.length ▸ lt_length_of_found here
  -- Nobody who was not registered before is after a step.
  have known {id : ConnectionId} {s : Session} {event : Gateway.Event} {gateway : Gateway}
      (here : c.sessions[id]? = some s) (taken : c.gateway.step event = some gateway)
      (listed : gateway.Listed id) : s.registered = true :=
    (agrees.registered id s here).mpr (listed_of_step (opened here) taken listed)
  cases advanced with
  | @connected params gateway connected =>
    have now : gateway.now = c.gateway.now := Gateway.now_step connected
    refine agrees_settle ?_ ?_ ?_
    · intro s member
      rcases List.mem_append.mp member with before | fresh
      · rw [agrees.clock s before, now]
      · rw [List.mem_singleton.mp fresh, now]
        rfl
    · rw [List.map_append, agrees.phases, Gateway.phases_connect connected]
      rfl
    · intro id s here listed
      rcases getElem?_concat_eq_some.mp here with before | ⟨_, rfl⟩
      · exact known before connected listed
      · rfl
  | @looped id event data s s' gateway here own _ stepped ran =>
    obtain ⟨now, listed_before⟩ := looped_quiet stepped ran
    refine agrees_settle ?_ ?_ ?_
    · intro other member
      rcases mem_set here member with rfl | before
      · rw [now_looped own stepped, agrees.clock s (List.mem_of_getElem? here), now]
      · rw [agrees.clock other before, now]
    · have phase : (c.gateway.profile.map Prod.snd)[id]? = some s.connectionPhase := by
        rw [← agrees.phases, List.getElem?_map, here]
        rfl
      rw [List.map_set, agrees.phases, phases_looped phase stepped ran]
    · intro other s₁ there listed
      rcases (getElem?_set_eq_some here).mp there with ⟨rfl, rfl⟩ | ⟨_, before⟩
      · have was := (agrees.registered id s here).mpr (listed_before id (opened here) listed)
        by_cases ends : event = .cleanup
        · subst ends
          exact absurd listed (unlisted_of_cleanup sound (run_singleton.mp ran))
        · rw [registered_looped own stepped ends, was]
      · exact (agrees.registered other s₁ before).mpr (listed_before other (opened before) listed)
  | @worked event gateway own worked =>
    have now : gateway.now = c.gateway.now := by rw [Gateway.now_step worked, own.elapsed, Nat.add_zero]
    refine agrees_settle ?_ ?_ fun id s here listed => known here worked listed
    · exact fun s member => (agrees.clock s member).trans now.symm
    · rw [Gateway.profile_kept worked]
      · exact agrees.phases
      all_goals
        rintro _ rfl
        cases own
  | @elapsed duration gateway _ passed =>
    refine agrees_settle ?_ ?_ ?_
    · intro s member
      obtain ⟨s', before, rfl⟩ := List.mem_map.mp member
      rw [Gateway.now_step passed, ← agrees.clock s' before]
      rfl
    · rw [Gateway.profile_kept passed (by simp) (by simp) (by simp), ← agrees.phases, List.map_map]
      rfl
    · intro id s here listed
      rw [List.getElem?_map] at here
      obtain ⟨s', there, rfl⟩ := Option.map_eq_some_iff.mp here
      have registered : s'.registered = true := known there passed listed
      exact registered

theorem agrees_run {events : List Event} (ran : run step new events = some c) :
    c.gateway.Sound ∧ Agrees c :=
  agrees_step.run ⟨Gateway.sound_new, agrees_new⟩ ran

theorem listed_connect {params : WsParams} (taken : g.step (.connect params) = some gateway) :
    gateway.Listed g.connections.length := by
  obtain ⟨room, user, _, _, rfl⟩ := Gateway.connect_eq_some.mp taken
  refine listed_iff.mpr ⟨(room, user), ?_⟩
  exact (congrFun (NestedMap.flat_put _ _ _ _) _).trans (Function.update_self _ _ _)

theorem opened_session {params : WsParams} (agrees : Agrees c)
    (connected : c.step (.connect params) = some next) :
    next.sessions[c.sessions.length]? = some (.start c.gateway.now) := by
  obtain ⟨middle, advanced, rfl⟩ := advanced connected
  cases advanced with
  | connected connects =>
    have listed := listed_connect connects
    rw [← agrees.length] at listed
    rw [getElem?_settle, getElem?_concat_eq_some.mpr (Or.inr ⟨rfl, rfl⟩), Option.map_some]
    simp only [listed, decide_true, Bool.and_true]

theorem fresh_session {s : Session} {event : Event} (agrees : Agrees c)
    (taken : c.step event = some next) (absent : c.sessions[id]? = none)
    (here : next.sessions[id]? = some s) : s = .start c.gateway.now := by
  have opened (params : WsParams) (connected : c.step (.connect params) = some next)
      (same : id = c.sessions.length) : s = .start c.gateway.now := by
    rw [same, opened_session agrees connected] at here
    exact (Option.some.inj here).symm
  obtain ⟨middle, advanced, rfl⟩ := advanced taken
  have beyond := List.getElem?_eq_none_iff.mp absent
  have bound : id < middle.sessions.length := by
    simpa [settle] using lt_length_of_found here
  cases advanced with
  | connected =>
    rw [List.length_append, List.length_singleton] at bound
    exact opened _ taken (Nat.le_antisymm (Nat.le_of_lt_succ bound) beyond)
  | looped =>
    rw [List.length_set] at bound
    exact absurd beyond (Nat.not_le_of_lt bound)
  | worked => exact absurd beyond (Nat.not_le_of_lt bound)
  | elapsed =>
    rw [List.length_map] at bound
    exact absurd beyond (Nat.not_le_of_lt bound)

/-- What the steps of a loop keep holds of all sessions. -/
theorem sessions_step {I : Session → Prop} {C : Session → Heartbeat.Event → Session → Prop}
    {event : Event} (start : ∀ opened, I (.start opened))
    (kept : ∀ s event s', I s → s.step event = some s' → C s event s' → I s') (agrees : Agrees c)
    (taken : c.step event = some next) (meets : ∀ id s, c.sessions[id]? = some s →
      EveryStep Session.step C s (sessionEvents id c event)) (holds : ∀ s ∈ c.sessions, I s) :
    ∀ s ∈ next.sessions, I s := by
  intro s member
  obtain ⟨id, here⟩ := List.mem_iff_getElem?.mp member
  cases before : c.sessions[id]? with
  | none =>
    rw [fresh_session agrees taken before here]
    exact start c.gateway.now
  | some s₀ =>
    obtain ⟨s', own, there⟩ := session_step before taken
    rw [here] at there
    cases there
    have always := EveryState.of_everyStep (P := I) kept (fun _ holds => holds)
      (holds s₀ (List.mem_of_getElem? before)) (meets id s₀ before)
    exact always.last own

theorem sessions_run {I : Session → Prop} {events : List Event} (start : ∀ opened, I (.start opened))
    (keeps : Invariant Session.step I) (ran : run step new events = some c) : ∀ s ∈ c.sessions, I s := by
  have kept : Invariant step fun c => (c.gateway.Sound ∧ Agrees c) ∧ ∀ s ∈ c.sessions, I s := by
    rintro c event next ⟨agrees, holds⟩ taken
    refine ⟨agrees_step c event next agrees taken, ?_⟩
    exact sessions_step (C := fun _ _ _ => True) start (fun s event s' holds stepped _ =>
      keeps s event s' holds stepped) agrees.2 taken (fun _ s _ =>
        EveryStep.of_forall (K := fun _ => True) (fun _ _ _ _ => trivial) (by simp) s) holds
  exact (kept.run ⟨⟨Gateway.sound_new, agrees_new⟩, fun _ member => by cases member⟩ ran).2

end Agreement

section Composition

variable {c next : Clocked} {id : ConnectionId}

/-- Every run of the composed system is a run of the gateway, and from its connect on
a run of each connection's loop; both agree on the time, on how far the connection is
and on whether it is registered. -/
theorem run_projected (front back : List Event) (params : WsParams) (c opened final : Clocked)
    (ran : run step new front = some c) (connected : c.step (.connect params) = some opened)
    (onward : run step opened back = some final) :
    run Gateway.step .new (record step gatewayEvents new (front ++ .connect params :: back)) =
        some final.gateway ∧
      ∃ s connection, final.sessions[c.sessions.length]? = some s ∧
        final.gateway.connections[c.sessions.length]? = some connection ∧
        run Session.step (.start c.gateway.now)
          (record step (sessionEvents c.sessions.length) opened back) = some s ∧
        s.now = final.gateway.now ∧ s.connectionPhase = connection.phase ∧
        (s.registered = true ↔ ∃ key, final.gateway.entries key = some c.sessions.length) := by
  have whole : run step new (front ++ .connect params :: back) = some final := by
    rw [run_append, ran]
    exact run_cons.mpr ⟨opened, connected, onward⟩
  refine ⟨gateway_run whole, ?_⟩
  have agrees := (agrees_run whole).2
  obtain ⟨s, own, here⟩ := simulate_run
    (R := fun (c' : Clocked) (s : Session) => c'.sessions[c.sessions.length]? = some s)
    (fun _ _ _ _ here taken => session_step here taken)
    (opened_session (agrees_run ran).2 connected) onward
  obtain ⟨connection, there, same⟩ := agrees.connection here
  exact ⟨s, connection, here, there, own, agrees.clock s (List.mem_of_getElem? here), same.symm,
    (agrees.registered _ s here).trans listed_iff⟩

def handover : List Event :=
  [.loop 0 (.arrive .binary) [], .loop 0 .next Gateway.rawMotion] ++
    List.replicate 4 (.task (.route 0)) ++
    [.loop 0 .recv [], .elapse (Heartbeat.seconds 1), .loop 0 .sent [], .connect ⟨"r1", "ann"⟩]

theorem run_projected_handover :
    ∃ opened final s, step new (.connect ⟨"r1", "ann"⟩) = some opened ∧
      run step opened handover = some final ∧
      run Session.step (.start 0) (record step (sessionEvents 0) opened handover) = some s ∧
      s.now = final.gateway.now := by
  have runs : (step new (.connect ⟨"r1", "ann"⟩)).any (fun opened =>
      (run step opened handover).isSome) = true := by decide +kernel
  obtain ⟨opened, connected, runs⟩ := (Option.any_eq_true _ _).mp runs
  obtain ⟨final, onward⟩ := Option.isSome_iff_exists.mp runs
  obtain ⟨_, s, _, _, _, own, now, _⟩ := run_projected [] handover _ new opened final rfl connected onward
  exact ⟨opened, final, s, connected, onward, own, now⟩

end Composition

section Silence

variable {c next : Clocked} {id : ConnectionId}

def PromptWrites (c : Clocked) (event : Event) (_ : Clocked) : Prop :=
  ∀ duration, event = .elapse duration → ∀ s ∈ c.sessions, s.PromptWrite (.elapse duration) s

instance (c : Clocked) (event : Event) (next : Clocked) : Decidable (PromptWrites c event next) :=
  match event with
  | .elapse duration =>
    decidable_of_iff (∀ s ∈ c.sessions, s.PromptWrite (.elapse duration) s)
      ⟨fun prompt _ same => Event.elapse.inj same ▸ prompt, fun prompt => prompt duration rfl⟩
  | .connect _ | .loop _ _ _ | .task _ => isTrue fun _ same => nomatch same

theorem promptWrite_still {events : List Heartbeat.Event}
    (still : ∀ event ∈ events, ∀ duration, event ≠ .elapse duration) (s : Session) :
    EveryStep Session.step Session.PromptWrite s events :=
  EveryStep.of_forall (fun _ _ _ still duration same => absurd same (still duration)) still s

theorem promptWrite_session {s : Session} {event : Event} (here : c.sessions[id]? = some s)
    (taken : c.step event = some next) (prompt : PromptWrites c event next) :
    EveryStep Session.step Session.PromptWrite s (sessionEvents id c event) := by
  obtain ⟨middle, advanced, rfl⟩ := advanced taken
  have still (untimed : ∀ duration, .elapse duration ∉ ownEvents id event) :
      EveryStep Session.step Session.PromptWrite s (sessionEvents id c event) := by
    refine promptWrite_still (fun own member duration same => ?_) s
    subst same
    rcases mem_sessionEvents member with inside | lost
    · exact untimed duration inside
    · cases lost
  cases advanced with
  | connected => exact still (by simp [ownEvents])
  | looped _ own =>
    refine still fun duration member => ?_
    rw [ownEvents] at member
    split at member
    · rw [← List.mem_singleton.mp member] at own
      cases own
    · cases member
  | worked => exact still (by simp [ownEvents])
  | @elapsed duration =>
    refine fun next _ => ⟨prompt duration rfl s (List.mem_of_getElem? here), ?_⟩
    refine promptWrite_still (fun own member duration same => ?_) next
    split at member
    · rw [List.mem_singleton.mp member] at same
      cases same
    · cases member

structure Calm (c : Clocked) : Prop where
  sound : c.gateway.Sound
  agrees : Agrees c
  calm : ∀ s ∈ c.sessions, s.Calm

theorem calm_new : Calm new := ⟨Gateway.sound_new, agrees_new, fun _ member => by cases member⟩

theorem calm_step {event : Event} (calm : Calm c) (taken : c.step event = some next)
    (prompt : PromptWrites c event next) : Calm next := by
  obtain ⟨sound, agrees⟩ := agrees_step c event next ⟨calm.sound, calm.agrees⟩ taken
  refine ⟨sound, agrees, ?_⟩
  exact sessions_step Session.calm_start (fun _ _ _ => Session.calm_step) calm.agrees taken
    (fun _ _ here => promptWrite_session here taken prompt) calm.calm

/-- In the whole gateway, as long as no write holds up a loop, whoever is registered
was opened or heard of within a timeout and a ping interval. -/
theorem entries_heard (events : List Event) (prompt : EveryStep step PromptWrites new events) :
    EveryState step (fun c => ∀ key id, c.gateway.entries key = some id →
      ∃ s, c.sessions[id]? = some s ∧ ¬ s.SilentAt c.gateway.now) new events := by
  refine EveryState.of_everyStep (I := Calm) (fun _ _ _ => calm_step) ?_ calm_new prompt
  intro c calm key id entry
  obtain ⟨s, here, registered⟩ := calm.agrees.session calm.sound entry
  have member := List.mem_of_getElem? here
  refine ⟨s, here, fun silent => (calm.calm s member).alive ⟨registered, ?_⟩⟩
  rw [calm.agrees.clock s member]
  exact silent

def silentClient : List Event :=
  .connect ⟨"r1", "ann"⟩ :: (List.replicate 4
    [.elapse Heartbeat.pingInterval, .loop 0 .tick [], .loop 0 .sent []]).flatten ++
    [.loop 0 .cleanup []]

theorem entries_heard_silent :
    EveryState step (fun c => ∀ key id, c.gateway.entries key = some id →
      ∃ s, c.sessions[id]? = some s ∧ ¬ s.SilentAt c.gateway.now) new silentClient :=
  entries_heard silentClient (by decide +kernel)

end Silence

section Closing

variable {g : Gateway} {id : ConnectionId}

structure Cut (id : ConnectionId) (accepted : List Outbound) (g : Gateway) : Prop where
  absent : ∀ key, g.entries key ≠ some id
  unheld : ∀ packet, ¬ g.Holds packet id
  drained : ∃ connection, g.connections[id]? = some connection ∧
    connection.accepted = accepted ∧ connection.channel.queue = []

theorem cut_step (id : ConnectionId) (accepted : List Outbound) :
    Invariant Gateway.step (Cut id accepted) := by
  intro g event next cut taken
  obtain ⟨connection, here, same, empty⟩ := cut.drained
  refine ⟨Gateway.unregistered_step (lt_length_of_found here) cut.absent taken,
    fun packet holds => cut.unheld packet (Gateway.holds_step cut.absent taken holds), ?_⟩
  obtain ⟨connection', there, stepped⟩ := Gateway.channelStep here taken
  refine ⟨connection', there, ?_, ?_⟩
  · obtain ⟨late, added, held⟩ := Gateway.accepted_held stepped
    rw [List.eq_nil_iff_forall_not_mem.mpr fun item member => cut.unheld _ (held item member),
      List.append_nil] at added
    rw [added, same]
  · cases stepped with
    | kept _ _ channel _ => rw [channel, empty]
    | refused => exact empty
    | popped front =>
      rw [empty] at front
      cases front
    | @sent packet task user _ _ found phase =>
      exact absurd (Or.inl ⟨task, user, found, by rw [phase]; exact List.mem_cons_self⟩)
        (cut.unheld packet)
    | @forced packet task user _ found phase =>
      exact absurd (Or.inl ⟨task, user, found, by rw [phase]; exact List.mem_cons_self⟩)
        (cut.unheld packet)
    | @retried n _ task _ found tx phase =>
      refine absurd (Or.inr ⟨task, List.mem_of_getElem? found, ?_⟩) (cut.unheld task.item.packet)
      simp [RetryTask.offers, phase, RetryPhase.active, tx]

theorem cut_of_recvsNone {connection : Connection} (here : g.connections[id]? = some connection)
    (none : g.RecvsNone id) : Cut id connection.accepted g := by
  obtain ⟨empty, unlisted, routes, retries⟩ := none
  refine ⟨fun key entry => unlisted (listed_iff.mpr ⟨key, entry⟩), ?_, connection, here, rfl,
    empty connection here⟩
  rintro packet (⟨task, user, found, held⟩ | ⟨task, member, offers⟩)
  · exact routes task (List.mem_of_getElem? found) (List.mem_map.mpr ⟨_, held, rfl⟩)
  · simp only [RetryTask.offers, Bool.and_eq_true, beq_iff_eq] at offers
    obtain ⟨⟨active, _⟩, tx⟩ := offers
    rcases retries task member tx with phase | phase
    all_goals
      rw [phase] at active
      cases active

/-- A loop that ends because its senders are gone has not lost anything: whatever was
accepted for it has left its queue, nothing is ever accepted for it again, and it was
and stays out of the registry. -/
theorem senderless_exit (front back : List Event) (c next final : Clocked) (id : ConnectionId)
    (data : Bytes) (ran : run step new front = some c)
    (taken : c.step (.loop id .recvNone data) = some next) (onward : run step next back = some final) :
    (∀ key, c.gateway.entries key ≠ some id) ∧ (∀ key, final.gateway.entries key ≠ some id) ∧
      ∃ connection connection', c.gateway.connections[id]? = some connection ∧
        final.gateway.connections[id]? = some connection' ∧ connection.channel.queue = [] ∧
        connection'.accepted = connection.accepted ∧ connection'.channel.queue = [] := by
  obtain ⟨middle, advanced, rfl⟩ := advanced taken
  cases advanced with
  | looped here _ none =>
    obtain ⟨connection, found, _⟩ := (agrees_run ran).2.connection here
    have cut := cut_of_recvsNone found (none rfl)
    have kept := (cut_step id _).run ((cut_step id _).run cut (gateway_step taken)) (gateway_run onward)
    obtain ⟨connection', there, same, empty⟩ := kept.drained
    exact ⟨cut.absent, kept.absent, connection, connection', found, there, (none rfl).1 _ found, same,
      empty⟩

theorem senderless_exit_handover :
    ∃ c next final, run step new (.connect ⟨"r1", "ann"⟩ :: handover) = some c ∧
      c.step (.loop 0 .recvNone []) = some next ∧ run step next [.loop 0 .cleanup []] = some final ∧
      ∀ key, final.gateway.entries key ≠ some 0 := by
  have runs : (run step new (.connect ⟨"r1", "ann"⟩ :: handover)).any (fun c =>
      (c.step (.loop 0 .recvNone [])).any fun next =>
        (run step next [.loop 0 .cleanup []]).isSome) = true := by decide +kernel
  obtain ⟨c, ran, runs⟩ := (Option.any_eq_true _ _).mp runs
  obtain ⟨next, taken, runs⟩ := (Option.any_eq_true _ _).mp runs
  obtain ⟨final, onward⟩ := Option.isSome_iff_exists.mp runs
  have out := (senderless_exit _ _ c next final 0 [] ran taken onward).2.1
  exact ⟨c, next, final, ran, taken, onward, out⟩

end Closing

end Clocked

end WsGateway
