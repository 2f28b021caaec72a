import Mathlib.Data.List.Perm.Subperm
import WsGateway.Gateway.Leaks
import WsGateway.Gateway.Progress

/-! The gateway with its counters.

The receive loop and the connection handlers touch the counters in steps of their
own, between the steps that the gateway takes. The counters are atomic and wrap
around; what they count is the same number without the bound.
-/

set_option autoImplicit false

namespace WsGateway
open Foundation Protocol Routing

section Counters

inductive Counter where
  | udpPacketsReceived
  | udpDecodeErrors
  | wsMessagesReceived
  | wsDecodeErrors
  | wsConnectionsActive
  | wsPongTimeouts
  deriving DecidableEq, Repr

abbrev Counters := Counter → UInt64

structure Metrics where
  udpPacketsReceived : UInt64
  udpDecodeErrors : UInt64
  wsMessagesReceived : UInt64
  wsDecodeErrors : UInt64
  wsConnectionsActive : UInt64
  wsPongTimeouts : UInt64
  deriving DecidableEq, Repr

def metrics (counters : Counters) : Metrics where
  udpPacketsReceived := counters .udpPacketsReceived
  udpDecodeErrors := counters .udpDecodeErrors
  wsMessagesReceived := counters .wsMessagesReceived
  wsDecodeErrors := counters .wsDecodeErrors
  wsConnectionsActive := counters .wsConnectionsActive
  wsPongTimeouts := counters .wsPongTimeouts

inductive Bump where
  | fetchAdd (counter : Counter)
  | fetchSub (counter : Counter)
  deriving DecidableEq, Repr

def Bump.apply (counters : Counters) : Bump → Counters
  | .fetchAdd counter => Function.update counters counter (counters counter + 1)
  | .fetchSub counter => Function.update counters counter (counters counter - 1)

end Counters

section Phases

/-- What a step of a loop does: where it goes on, which counter it touches and
which step the gateway takes. -/
structure Effect (Phase : Type) where
  phase : Phase
  bump : Option Bump := none
  event : Option Gateway.Event := none

def Effect.arrivals {Phase : Type} (effect : Effect Phase) : Nat :=
  effect.event.elim 0 fun event => event.arrivals.length

inductive UdpPhase where
  | waiting
  | read (data : Datagram)
  | counted (data : Datagram)
  /-- The datagram did not decode. -/
  | refused

inductive LoopEvent (Data : Type) where
  | read (data : Data)
  | count
  | decode
  | refuse

def accepts (raw : Bytes) : Bool :=
  match PacketHeader.decode raw with
  | .ok _ => true
  | .error _ | .abort => false

def UdpPhase.step : UdpPhase → LoopEvent Datagram → Option (Effect UdpPhase)
  | .waiting, .read data => some { phase := .read data }
  | .read data, .count => some { phase := .counted data, bump := some (.fetchAdd .udpPacketsReceived) }
  | .counted data, .decode =>
    some {
      phase := if accepts (data.val.take Gateway.udpBufferLen) then .waiting else .refused
      event := some (.datagram data) }
  | .refused, .refuse => some { phase := .waiting, bump := some (.fetchAdd .udpDecodeErrors) }
  | _, _ => none

inductive HandlerPhase where
  /-- Registered, and not in the gauge yet. -/
  | registered
  /-- In the select loop, between two arms. -/
  | looping
  | read (data : Bytes)
  | counted (data : Bytes)
  /-- The frame did not decode. -/
  | refused
  /-- Out of the loop. -/
  | left
  /-- Out of the gauge, before the unregister call. -/
  | lowered
  | closed
  deriving DecidableEq

inductive HandlerEvent where
  | raise
  | frame (event : LoopEvent Bytes)
  | recv
  | pongTimeout
  | leave
  | lower
  | unregister

@[simp] def HandlerPhase.connection : HandlerPhase → ConnectionPhase
  | .registered | .looping | .read _ | .counted _ | .refused => .running
  | .left | .lowered => .exited
  | .closed => .closed

@[simp] def HandlerPhase.raised : HandlerPhase → Bool
  | .looping | .read _ | .counted _ | .refused | .left => true
  | .registered | .lowered | .closed => false

/-- A counted message is neither routed nor counted as an error yet. -/
@[simp] def HandlerPhase.inHand : HandlerPhase → Bool
  | .counted _ | .refused => true
  | .registered | .looping | .read _ | .left | .lowered | .closed => false

@[simp] def HandlerPhase.gone : HandlerPhase → Bool
  | .left | .lowered | .closed => true
  | .registered | .looping | .read _ | .counted _ | .refused => false

def UdpPhase.inHand : UdpPhase → Nat
  | .counted _ | .refused => 1
  | .waiting | .read _ => 0

def HandlerPhase.step (id : ConnectionId) : HandlerPhase → HandlerEvent → Option (Effect HandlerPhase)
  | .registered, .raise =>
    some { phase := .looping, bump := some (.fetchAdd .wsConnectionsActive) }
  | .looping, .frame (.read data) => some { phase := .read data }
  | .read data, .frame .count =>
    some { phase := .counted data, bump := some (.fetchAdd .wsMessagesReceived) }
  | .counted data, .frame .decode =>
    some { phase := if accepts data then .looping else .refused, event := some (.frame id data) }
  | .refused, .frame .refuse =>
    some { phase := .looping, bump := some (.fetchAdd .wsDecodeErrors) }
  | .looping, .recv => some { phase := .looping, event := some (.recv id) }
  | .looping, .pongTimeout =>
    some { phase := .left, bump := some (.fetchAdd .wsPongTimeouts), event := some (.exit id) }
  | .looping, .leave => some { phase := .left, event := some (.exit id) }
  | .left, .lower => some { phase := .lowered, bump := some (.fetchSub .wsConnectionsActive) }
  | .lowered, .unregister => some { phase := .closed, event := some (.cleanup id) }
  | _, _ => none

end Phases

structure Metered where
  gateway : Gateway
  counters : Counters
  udp : UdpPhase
  handlers : List HandlerPhase

namespace Metered

inductive Event where
  | connect (params : WsParams)
  | udp (event : LoopEvent Datagram)
  | handler (id : ConnectionId) (event : HandlerEvent)
  /-- A step of the gateway's own tasks. -/
  | task (event : Gateway.Event)

def new : Metered := ⟨.new, fun _ => 0, .waiting, []⟩

def perform {Phase : Type} (m : Metered) (effect : Effect Phase) : Option Metered :=
  (run Gateway.step m.gateway effect.event.toList).map fun gateway =>
    { m with gateway, counters := effect.bump.elim m.counters (·.apply m.counters) }

def step (m : Metered) : Event → Option Metered
  | .connect params =>
    (m.gateway.step (.connect params)).map fun gateway =>
      { m with gateway, handlers := m.handlers ++ [.registered] }
  | .udp event =>
    (m.udp.step event).bind fun effect =>
      (m.perform effect).map fun next => { next with udp := effect.phase }
  | .handler id event =>
    m.handlers[id]?.bind fun phase =>
      (phase.step id event).bind fun effect =>
        (m.perform effect).map fun next => { next with handlers := m.handlers.set id effect.phase }
  | .task event =>
    if event.Internal then (m.gateway.step event).map fun gateway => { m with gateway } else none

def gatewayEvents (m : Metered) : Event → List Gateway.Event
  | .connect params => [.connect params]
  | .udp event => ((m.udp.step event).bind Effect.event).toList
  | .handler id event =>
    ((m.handlers[id]?.bind (·.step id event)).bind Effect.event).toList
  | .task event => [event]

section Steps

variable {m next : Metered}

theorem perform_eq_some {Phase : Type} {effect : Effect Phase} :
    m.perform effect = some next ↔
      ∃ gateway, run Gateway.step m.gateway effect.event.toList = some gateway ∧
        { m with gateway, counters := effect.bump.elim m.counters (·.apply m.counters) } = next := by
  rw [perform, Option.map_eq_some_iff]

theorem gateway_step {event : Event} (taken : m.step event = some next) :
    run Gateway.step m.gateway (m.gatewayEvents event) = some next.gateway := by
  cases event with
  | connect params =>
    obtain ⟨gateway, connected, rfl⟩ := Option.map_eq_some_iff.mp taken
    exact run_cons.mpr ⟨gateway, connected, rfl⟩
  | udp event =>
    obtain ⟨effect, stepped, taken⟩ := Option.bind_eq_some_iff.mp taken
    obtain ⟨middle, performed, rfl⟩ := Option.map_eq_some_iff.mp taken
    obtain ⟨gateway, onward, rfl⟩ := perform_eq_some.mp performed
    rw [gatewayEvents, stepped]
    exact onward
  | handler id event =>
    obtain ⟨phase, found, taken⟩ := Option.bind_eq_some_iff.mp taken
    obtain ⟨effect, stepped, taken⟩ := Option.bind_eq_some_iff.mp taken
    obtain ⟨middle, performed, rfl⟩ := Option.map_eq_some_iff.mp taken
    obtain ⟨gateway, onward, rfl⟩ := perform_eq_some.mp performed
    rw [gatewayEvents, found, Option.bind_some, stepped]
    exact onward
  | task event =>
    rw [step, Option.ite_none_right_eq_some] at taken
    obtain ⟨_, taken⟩ := taken
    obtain ⟨gateway, worked, rfl⟩ := Option.map_eq_some_iff.mp taken
    exact run_cons.mpr ⟨gateway, worked, rfl⟩

theorem gateway_run {events : List Event} (ran : run step new events = some m) :
    run Gateway.step .new (record step gatewayEvents new events) = some m.gateway := by
  obtain ⟨g, onward, rfl⟩ := simulate_run (R := fun (m : Metered) g => m.gateway = g)
    (fun m event next g same taken => ⟨_, same ▸ gateway_step taken, rfl⟩) rfl ran
  exact onward

end Steps

section Tallies

variable {m next : Metered} {exact : Counter → Nat}

/-- The number behind a counter, touched without the bound. -/
def tally (exact : Counter → Nat) : Bump → Counter → Nat
  | .fetchAdd counter => Function.update exact counter (exact counter + 1)
  | .fetchSub counter => Function.update exact counter (exact counter - 1)

theorem wrapped_apply {counters : Counters} {bump : Option Bump}
    (wrapped : ∀ counter, counters counter = .ofNat (exact counter))
    (positive : ∀ counter, bump = some (.fetchSub counter) → 0 < exact counter) (counter : Counter) :
    bump.elim counters (·.apply counters) counter = .ofNat (bump.elim exact (tally exact) counter) := by
  match bump with
  | none => exact wrapped counter
  | some (.fetchAdd touched) =>
    simp only [Option.elim_some, Bump.apply, tally, Function.update_apply]
    split
    next => rw [wrapped, UInt64.ofNat_add]; rfl
    next => exact wrapped counter
  | some (.fetchSub touched) =>
    simp only [Option.elim_some, Bump.apply, tally, Function.update_apply]
    split
    next =>
      obtain ⟨rest, some⟩ := Nat.exists_eq_succ_of_ne_zero (Nat.pos_iff_ne_zero.mp (positive touched rfl))
      rw [wrapped, some, Nat.succ_eq_add_one, Nat.add_sub_cancel, UInt64.ofNat_add]
      exact UInt64.add_sub_cancel _ _
    next => exact wrapped counter

structure Balanced (exact : Counter → Nat) (udp : UdpPhase) (handlers : List HandlerPhase)
    (routed : Nat) : Prop where
  active : exact .wsConnectionsActive = handlers.countP HandlerPhase.raised
  datagrams : exact .udpDecodeErrors + udp.inHand ≤ exact .udpPacketsReceived
  frames : exact .wsDecodeErrors + handlers.countP HandlerPhase.inHand ≤ exact .wsMessagesReceived
  routed : exact .udpPacketsReceived + exact .wsMessagesReceived =
    routed + exact .udpDecodeErrors + exact .wsDecodeErrors + udp.inHand +
      handlers.countP HandlerPhase.inHand
  timeouts : exact .wsPongTimeouts ≤ handlers.countP HandlerPhase.gone

variable {udp : UdpPhase} {handlers : List HandlerPhase} {routed : Nat}

theorem length_accept (raw : Bytes) : (Gateway.accept raw).length = if accepts raw then 1 else 0 := by
  unfold Gateway.accept accepts
  cases PacketHeader.decode raw <;> rfl

theorem take_datagram (data : Datagram) : data.val.take Gateway.udpBufferLen = data.val := by
  have bound := data.property
  refine List.take_of_length_le ?_
  rw [Gateway.udpBufferLen]
  omega

theorem balanced_udp {event : LoopEvent Datagram} {effect : Effect UdpPhase}
    (balanced : Balanced exact udp handlers routed) (stepped : udp.step event = some effect) :
    Balanced (effect.bump.elim exact (tally exact)) effect.phase handlers (routed + effect.arrivals) := by
  obtain ⟨active, datagrams, frames, routed, timeouts⟩ := balanced
  unfold UdpPhase.step at stepped
  split at stepped
  next => cases stepped; exact ⟨active, datagrams, frames, routed, timeouts⟩
  next =>
    cases stepped
    simp only [UdpPhase.inHand] at datagrams routed
    constructor <;> simp [tally, UdpPhase.inHand, Effect.arrivals] <;> omega
  next data =>
    cases stepped
    have arrived := length_accept data.val
    rw [take_datagram]
    simp only [UdpPhase.inHand] at datagrams routed
    cases accepted : accepts data.val <;> simp only [accepted] at arrived <;>
      constructor <;> simp [UdpPhase.inHand, Effect.arrivals, Gateway.Event.arrivals, arrived] <;> omega
  next =>
    cases stepped
    simp only [UdpPhase.inHand] at datagrams routed
    constructor <;> simp [tally, UdpPhase.inHand, Effect.arrivals] <;> omega
  next => cases stepped

/-- A handler goes on: the counts over all handlers change by what it leaves and enters. -/
theorem balanced_handler {id : ConnectionId} {phase : HandlerPhase} {event : HandlerEvent}
    {effect : Effect HandlerPhase} (balanced : Balanced exact udp handlers routed)
    (found : handlers[id]? = some phase) (stepped : phase.step id event = some effect) :
    Balanced (effect.bump.elim exact (tally exact)) udp (handlers.set id effect.phase)
      (routed + effect.arrivals) := by
  obtain ⟨active, datagrams, frames, routed, timeouts⟩ := balanced
  have raised := countP_set HandlerPhase.raised effect.phase found
  have inHand := countP_set HandlerPhase.inHand effect.phase found
  have gone := countP_set HandlerPhase.gone effect.phase found
  unfold HandlerPhase.step at stepped
  split at stepped
  -- The decoding step is the one with two ends; the others are sums of known terms.
  case h_4 data =>
    cases stepped
    have arrived := length_accept data
    cases accepted : accepts data <;> simp only [accepted] at arrived <;>
      simp [accepted] at raised inHand gone <;>
      constructor <;> simp [Effect.arrivals, Gateway.Event.arrivals, arrived] <;> omega
  case h_11 => cases stepped
  all_goals
    cases stepped
    simp at raised inHand gone
    constructor <;> simp [tally, Effect.arrivals, Gateway.Event.arrivals] <;> omega

theorem raised_of_fetchSub {id : ConnectionId} {phase : HandlerPhase} {event : HandlerEvent}
    {effect : Effect HandlerPhase} (balanced : Balanced exact udp handlers routed)
    (found : handlers[id]? = some phase) (stepped : phase.step id event = some effect)
    (counter : Counter) (lowers : effect.bump = some (.fetchSub counter)) : 0 < exact counter := by
  unfold HandlerPhase.step at stepped
  split at stepped
  all_goals cases stepped
  all_goals cases lowers
  rw [balanced.active]
  exact List.countP_pos_iff.mpr ⟨.left, List.mem_of_getElem? found, rfl⟩

end Tallies

section Accounts

variable {m next : Metered} {exact : Counter → Nat}

/-- The counters are their numbers modulo the word, the handlers are as far as their
connections, and the numbers add up. -/
structure Accounted (exact : Counter → Nat) (m : Metered) : Prop where
  wrapped : ∀ counter, m.counters counter = .ofNat (exact counter)
  phases : m.handlers.map HandlerPhase.connection = m.gateway.profile.map Prod.snd
  balanced : Balanced exact m.udp m.handlers m.gateway.routes.length

theorem accounted_new : Accounted (fun _ => 0) new where
  wrapped _ := rfl
  phases := rfl
  balanced := ⟨rfl, Nat.le_refl _, Nat.le_refl _, rfl, Nat.le_refl _⟩

theorem length_routes {g next : Gateway} {event : Gateway.Event} (taken : g.step event = some next) :
    next.routes.length = g.routes.length + event.arrivals.length := by
  have arrivals := congrArg List.length (Gateway.arrivals_step taken)
  simpa only [Gateway.arrivals, List.length_map, List.length_append] using arrivals

theorem length_performed {Phase : Type} {effect : Effect Phase} {gateway : Gateway}
    (onward : run Gateway.step m.gateway effect.event.toList = some gateway) :
    gateway.routes.length = m.gateway.routes.length + effect.arrivals := by
  unfold Effect.arrivals
  cases event : effect.event with
  | none =>
    rw [event] at onward
    cases onward
    rfl
  | some event =>
    rw [event] at onward
    obtain ⟨next, taken, onward⟩ := run_cons.mp onward
    cases onward
    exact length_routes taken

theorem profile_performed {Phase : Type} {effect : Effect Phase} {gateway : Gateway}
    (onward : run Gateway.step m.gateway effect.event.toList = some gateway)
    (connect : ∀ params, effect.event ≠ some (.connect params))
    (exit : ∀ id, effect.event ≠ some (.exit id)) (cleanup : ∀ id, effect.event ≠ some (.cleanup id)) :
    gateway.profile = m.gateway.profile := by
  cases event : effect.event with
  | none =>
    rw [event] at onward
    cases onward
    rfl
  | some event =>
    simp only [event, ne_eq, Option.some.injEq] at *
    obtain ⟨next, taken, onward⟩ := run_cons.mp onward
    cases onward
    exact Gateway.profile_kept taken connect exit cleanup

theorem profile_udp {event : LoopEvent Datagram} {effect : Effect UdpPhase} {gateway : Gateway}
    (stepped : m.udp.step event = some effect)
    (onward : run Gateway.step m.gateway effect.event.toList = some gateway) :
    gateway.profile = m.gateway.profile := by
  unfold UdpPhase.step at stepped
  split at stepped
  all_goals cases stepped
  all_goals exact profile_performed onward (by simp) (by simp) (by simp)

theorem profile_handler {id : ConnectionId} {phase : HandlerPhase} {event : HandlerEvent}
    {effect : Effect HandlerPhase} {gateway : Gateway}
    (here : (m.gateway.profile.map Prod.snd)[id]? = some phase.connection)
    (stepped : phase.step id event = some effect)
    (onward : run Gateway.step m.gateway effect.event.toList = some gateway) :
    gateway.profile.map Prod.snd = (m.gateway.profile.map Prod.snd).set id effect.phase.connection := by
  have kept (same : phase.connection = effect.phase.connection)
      (profile : gateway.profile = m.gateway.profile) :
      gateway.profile.map Prod.snd =
        (m.gateway.profile.map Prod.snd).set id effect.phase.connection := by
    rw [profile, set_found (by rw [here, same])]
  have exited (left : effect.event = some (.exit id)) (phase : effect.phase.connection = .exited) :
      gateway.profile.map Prod.snd =
        (m.gateway.profile.map Prod.snd).set id effect.phase.connection := by
    rw [left] at onward
    rw [Gateway.phases_exit (run_singleton.mp onward), phase]
  unfold HandlerPhase.step at stepped
  split at stepped
  case h_7 => cases stepped; exact exited rfl rfl
  case h_8 => cases stepped; exact exited rfl rfl
  case h_10 =>
    cases stepped
    exact Gateway.phases_cleanup (run_singleton.mp onward)
  case h_4 data =>
    cases stepped
    refine kept ?_ (profile_performed onward (by simp) (by simp) (by simp))
    dsimp only
    split <;> rfl
  all_goals cases stepped
  all_goals exact kept rfl (profile_performed onward (by simp) (by simp) (by simp))

theorem accounted_step {event : Event} (accounted : Accounted exact m)
    (taken : m.step event = some next) : ∃ exact, Accounted exact next := by
  obtain ⟨wrapped, phases, balanced⟩ := accounted
  cases event with
  | connect params =>
    obtain ⟨gateway, connected, rfl⟩ := Option.map_eq_some_iff.mp taken
    have routes := length_routes connected
    refine ⟨exact, wrapped, ?_, ?_⟩
    · obtain ⟨room, user, _, _, rfl⟩ := Gateway.connect_eq_some.mp connected
      simp [phases, Gateway.profile, Connection.opened]
    · have none : (Gateway.Event.connect params).arrivals = [] := rfl
      rw [none, List.length_nil, Nat.add_zero] at routes
      rw [routes]
      obtain ⟨active, datagrams, frames, routed, timeouts⟩ := balanced
      constructor <;> simp [List.countP_append] <;> assumption
  | udp event =>
    obtain ⟨effect, stepped, taken⟩ := Option.bind_eq_some_iff.mp taken
    obtain ⟨middle, performed, rfl⟩ := Option.map_eq_some_iff.mp taken
    obtain ⟨gateway, onward, rfl⟩ := perform_eq_some.mp performed
    refine ⟨effect.bump.elim exact (tally exact), wrapped_apply wrapped ?_, ?_, ?_⟩
    · intro counter lowers
      unfold UdpPhase.step at stepped
      split at stepped
      all_goals cases stepped
      all_goals cases lowers
    · rw [profile_udp stepped onward]
      exact phases
    · rw [length_performed onward]
      exact balanced_udp balanced stepped
  | handler id event =>
    obtain ⟨phase, found, taken⟩ := Option.bind_eq_some_iff.mp taken
    obtain ⟨effect, stepped, taken⟩ := Option.bind_eq_some_iff.mp taken
    obtain ⟨middle, performed, rfl⟩ := Option.map_eq_some_iff.mp taken
    obtain ⟨gateway, onward, rfl⟩ := perform_eq_some.mp performed
    have here : (m.gateway.profile.map Prod.snd)[id]? = some phase.connection := by
      rw [← phases, List.getElem?_map, found]
      rfl
    refine ⟨effect.bump.elim exact (tally exact),
      wrapped_apply wrapped (raised_of_fetchSub balanced found stepped), ?_, ?_⟩
    · rw [profile_handler here stepped onward, List.map_set, phases]
    · rw [length_performed onward]
      exact balanced_handler balanced found stepped
  | task event =>
    rw [step, Option.ite_none_right_eq_some] at taken
    obtain ⟨internal, taken⟩ := taken
    obtain ⟨gateway, worked, rfl⟩ := Option.map_eq_some_iff.mp taken
    have routes := length_routes worked
    have none : event.arrivals = [] := by
      cases event <;> first | rfl | exact internal.elim
    have profile := Gateway.profile_kept worked (by rintro _ rfl; exact internal) (by rintro _ rfl; exact internal)
      (by rintro _ rfl; exact internal)
    refine ⟨exact, wrapped, ?_, ?_⟩
    · rw [profile]
      exact phases
    · rw [none, List.length_nil, Nat.add_zero] at routes
      rw [routes]
      exact balanced

theorem accounted_run {events : List Event} (ran : run step new events = some m) :
    ∃ exact, Accounted exact m := by
  refine run_induction (P := fun _ m => ∃ exact, Accounted exact m) ⟨_, accounted_new⟩ ?_ ran
  rintro _ m event next ⟨exact, accounted⟩ taken
  exact accounted_step accounted taken

/-- In every run the counters are, modulo the word, numbers that add up: each message
counted is routed, counted as an error or still in hand, and the gauge counts the
handlers between their two touches of it. -/
theorem metrics_accounted (events : List Event) (m : Metered) (ran : run step new events = some m) :
    ∃ exact : Counter → Nat, metrics m.counters = metrics (fun counter => .ofNat (exact counter)) ∧
      exact .wsConnectionsActive = m.handlers.countP HandlerPhase.raised ∧
      exact .udpDecodeErrors + m.udp.inHand ≤ exact .udpPacketsReceived ∧
      exact .wsDecodeErrors + m.handlers.countP HandlerPhase.inHand ≤ exact .wsMessagesReceived ∧
      exact .udpPacketsReceived + exact .wsMessagesReceived =
        m.gateway.routes.length + exact .udpDecodeErrors + exact .wsDecodeErrors + m.udp.inHand +
          m.handlers.countP HandlerPhase.inHand ∧
      exact .wsPongTimeouts ≤ m.handlers.countP HandlerPhase.gone := by
  obtain ⟨exact, wrapped, _, balanced⟩ := accounted_run ran
  exact ⟨exact, congrArg metrics (funext wrapped), balanced.active, balanced.datagrams, balanced.frames, balanced.routed,
    balanced.timeouts⟩

def malformedFrame : List Event :=
  [.connect ⟨"r1", "ann"⟩, .handler 0 .raise, .handler 0 (.frame (.read [])),
    .handler 0 (.frame .count), .handler 0 (.frame .decode)]

theorem metrics_accounted_malformed :
    ∃ m, run step new malformedFrame = some m ∧ ∃ exact : Counter → Nat,
      metrics m.counters = metrics (fun counter => .ofNat (exact counter)) ∧
        exact .wsDecodeErrors + m.handlers.countP HandlerPhase.inHand ≤ exact .wsMessagesReceived := by
  have runs : (run step new malformedFrame).isSome = true := by decide +kernel
  obtain ⟨m, ran⟩ := Option.isSome_iff_exists.mp runs
  obtain ⟨exact, wrapped, _, _, frames, _⟩ := metrics_accounted malformedFrame m ran
  exact ⟨m, ran, exact, wrapped, frames⟩

end Accounts

section Users

variable {g : Gateway} {m : Metered}

def openConnections (g : Gateway) : List ConnectionId :=
  indices (fun connection : Connection => connection.phase ≠ .closed) g.connections

theorem mem_openConnections {id : ConnectionId} :
    id ∈ openConnections g ↔ ∃ connection : Connection, g.connections[id]? = some connection ∧
      connection.phase ≠ .closed := by
  simp only [openConnections, mem_indices, decide_eq_true_iff]

def registered (g : Gateway) : List ConnectionId := g.registry.rooms.pairs.filterMap g.entries

theorem mem_registered {id : ConnectionId} : id ∈ registered g ↔ ∃ key, g.entries key = some id := by
  rw [registered, List.mem_filterMap]
  constructor
  · rintro ⟨key, _, entry⟩
    exact ⟨key, entry⟩
  · rintro ⟨key, entry⟩
    exact ⟨key, NestedMap.mem_pairs.mpr ⟨id, entry⟩, entry⟩

theorem length_registered (g : Gateway) : (registered g).length = g.registry.userCount := by
  rw [registered, List.length_filterMap_eq_countP, Registry.userCount_eq, List.countP_eq_length]
  intro key member
  obtain ⟨id, entry⟩ := NestedMap.mem_pairs.mp member
  rw [Gateway.entries, entry]
  rfl

theorem nodup_registered (sound : g.Sound) : (registered g).Nodup := by
  refine (NestedMap.nodup_pairs _).filterMap fun key key' id entry entry' => ?_
  have under := sound.entries key id entry
  rw [sound.entries key' id entry'] at under
  exact (Option.some.inj under).symm

/-- Users stand for as many connections. They are all the open ones exactly when
every open connection is in the registry. -/
theorem userCount_le (sound : g.Sound)
    (running : ∀ key id, g.entries key = some id → id ∈ openConnections g) :
    g.registry.userCount ≤ (openConnections g).length ∧
    (g.registry.userCount = (openConnections g).length ↔
      ∀ id ∈ openConnections g, ∃ key, g.entries key = some id) := by
  have subperm : (registered g).Subperm (openConnections g) := by
    refine List.subperm_of_subset (nodup_registered sound) fun id member => ?_
    obtain ⟨key, entry⟩ := mem_registered.mp member
    exact running key id entry
  rw [← length_registered]
  refine ⟨subperm.length_le, ?_, ?_⟩
  · intro same id member
    have perm := subperm.perm_of_length_le (Nat.le_of_eq same.symm)
    exact mem_registered.mp (perm.mem_iff.mpr member)
  · intro all
    refine Nat.le_antisymm subperm.length_le ?_
    have covers : openConnections g ⊆ registered g := fun id member =>
      mem_registered.mpr (all id member)
    exact (List.subperm_of_subset (nodup_indices _ _) covers).length_le

/-- No handler is between the gauge and the registry. -/
def AtRest (m : Metered) : Prop := ∀ phase ∈ m.handlers, phase ≠ .registered ∧ phase ≠ .lowered

instance (m : Metered) : Decidable m.AtRest := inferInstanceAs (Decidable (∀ phase ∈ m.handlers, _ ∧ _))

theorem raised_of_atRest {exact : Counter → Nat} (accounted : Accounted exact m) (rest : AtRest m) :
    exact .wsConnectionsActive = (openConnections m.gateway).length := by
  have unclosed : m.handlers.countP HandlerPhase.raised =
      (m.handlers.map HandlerPhase.connection).countP (· ≠ .closed) := by
    rw [List.countP_map]
    refine List.countP_congr fun phase member => ?_
    obtain ⟨registered, lowered⟩ := rest phase member
    cases phase <;> simp at registered lowered ⊢
  rw [accounted.balanced.active, unclosed, accounted.phases, Gateway.profile, List.map_map,
    List.countP_map, openConnections, length_indices]
  rfl

theorem mem_openConnections_of_entry (live : g.EntriesLive) {key : Gateway.Key} {id : ConnectionId}
    (entry : g.entries key = some id) : id ∈ openConnections g := by
  obtain ⟨phase, here, ahead⟩ := live key id entry
  rw [Gateway.profile, List.getElem?_map] at here
  obtain ⟨connection, there, same⟩ := Option.map_eq_some_iff.mp here
  exact mem_openConnections.mpr ⟨connection, there, (congrArg Prod.snd same).trans_ne ahead⟩

/-- When no handler is between the gauge and the registry the gauge covers the users: it
counts the connections that are not cleaned up, which are as many as the users unless one
of them was kicked or disconnected. And the users cover the rooms when no unregister call
is under way. -/
theorem gauge_covers_users (events : List Event) (m : Metered) (ran : run step new events = some m) :
    (AtRest m →
      (metrics m.counters).wsConnectionsActive = .ofNat (openConnections m.gateway).length ∧
      m.gateway.registry.userCount ≤ (openConnections m.gateway).length ∧
      (m.gateway.registry.userCount = (openConnections m.gateway).length ↔
        ∀ id (connection : Connection), m.gateway.connections[id]? = some connection →
          connection.phase ≠ .closed → m.gateway.entries connection.key = some id)) ∧
    ((∀ call ∈ m.gateway.registry.unregisters, call.phase = .done) →
      m.gateway.registry.roomCount ≤ m.gateway.registry.userCount) := by
  obtain ⟨exact, accounted⟩ := accounted_run ran
  have onward := gateway_run ran
  constructor
  · intro rest
    have ⟨_, sound, _⟩ := Gateway.reached onward
    have live : m.gateway.EntriesLive := by
      refine Gateway.entriesLive_step.run ?_ onward
      rintro key id ⟨⟩
    obtain ⟨bound, equal⟩ := userCount_le sound fun key id => mem_openConnections_of_entry live
    refine ⟨?_, bound, equal.trans ?_⟩
    · rw [← raised_of_atRest accounted rest]
      exact accounted.wrapped _
    · constructor
      · intro all id connection here unclosed
        obtain ⟨key, entry⟩ := all id (mem_openConnections.mpr ⟨connection, here, unclosed⟩)
        have under := sound.entries key id entry
        rw [Gateway.keys_of_found here] at under
        rwa [Option.some.inj under]
      · intro all id member
        obtain ⟨connection, here, unclosed⟩ := mem_openConnections.mp member
        exact ⟨connection.key, all id connection here unclosed⟩
  · intro settled
    refine Registry.roomCount_le_userCount ?_ settled
    refine (Gateway.registry_invariant Registry.emptyRoomsPending_step).run ?_ onward
    intro room vacant
    cases vacant

def kickedAtRest : List Event :=
  [.connect ⟨"r1", "ann"⟩, .handler 0 .raise, .connect ⟨"r1", "ann"⟩, .handler 1 .raise,
    .handler 1 (.frame (.read [])), .handler 0 .leave]

theorem gauge_covers_users_kicked :
    ∃ m, run step new kickedAtRest = some m ∧ (metrics m.counters).wsConnectionsActive = .ofNat 2 ∧
      m.gateway.registry.userCount = 1 ∧
      ¬ ∀ id (connection : Connection), m.gateway.connections[id]? = some connection →
        connection.phase ≠ .closed → m.gateway.entries connection.key = some id := by
  have runs : (run step new kickedAtRest).any (fun m => m.AtRest ∧
      openConnections m.gateway = [0, 1] ∧ m.gateway.registry.userCount = 1) = true := by
    decide +kernel
  obtain ⟨m, ran, runs⟩ := (Option.any_eq_true _ _).mp runs
  obtain ⟨rest, opened, users⟩ := of_decide_eq_true runs
  obtain ⟨counted, _, equal⟩ := (gauge_covers_users kickedAtRest m ran).1 rest
  rw [opened] at counted equal
  rw [users] at equal
  exact ⟨m, ran, counted, users, fun all => absurd (equal.mpr all) (by decide)⟩

end Users

end Metered

end WsGateway
