import WsGateway.Foundation.Transition
import WsGateway.Gateway.State

/-! The select loop of one connection against a clock.

Time passes where the loop waits: at the select while no frame is unread and no
ping is overdue, and for as long as it takes in a socket write. Everything else
the loop does takes no time. Frames arrive at any moment, and of the arms that are
ready any may be taken; the outbound arm may be ready whenever the router likes.
-/

set_option autoImplicit false

namespace WsGateway.Heartbeat
open Foundation

def seconds (count : Nat) : Nat := count * 1000000000

def pingInterval : Nat := seconds 10
def pongTimeout : Nat := seconds 30

/-- What the socket's stream yields, its end and its errors included. -/
inductive Message where
  | binary
  | text
  | ping
  | pong
  | close
  | ended
  | failed
  deriving DecidableEq, Repr

def Message.alive : Message → Bool
  | .binary | .text | .ping | .pong => true
  | .close | .ended | .failed => false

structure Inbound where
  message : Message
  arrival : Nat
  deriving DecidableEq, Repr

inductive Phase where
  | select
  /-- In the outbound arm, awaiting the write of a packet. -/
  | sendingData
  /-- In the ping arm, awaiting the write of a ping. -/
  | sendingPing
  /-- Out of the loop, before the cleanup. -/
  | exited
  | closed
  deriving DecidableEq, Repr

/-- The task of one connection. When frames arrived is history. -/
structure Session where
  now : Nat
  opened : Nat
  lastAlive : Nat
  /-- When the next tick of the ping interval is due. -/
  pingTick : Nat
  inbox : List Inbound
  arrived : List Nat
  phase : Phase
  registered : Bool
  deriving DecidableEq, Repr

inductive Event where
  | arrive (message : Message)
  /-- The entry is replaced by a later connection's or removed by someone else. -/
  | entryLost
  | elapse (duration : Nat)
  | next
  | recv
  /-- The outbound channel has no senders any more. -/
  | recvNone
  | tick
  | sent
  | sendFailed
  | cleanup
  deriving DecidableEq, Repr

namespace Session

/-- Registered at `opened`; the first tick comes one interval later. -/
def start (opened : Nat) : Session where
  now := opened
  opened := opened
  lastAlive := opened
  pingTick := opened + pingInterval
  inbox := []
  arrived := []
  phase := .select
  registered := true

def Writing (s : Session) : Prop := s.phase = .sendingData ∨ s.phase = .sendingPing

instance (s : Session) : Decidable s.Writing := inferInstanceAs (Decidable (_ ∨ _))

/-- The loop can let this much time pass before its next step. -/
def CanWait (s : Session) (duration : Nat) : Prop :=
  s.phase = .select ∧ s.inbox = [] ∧ s.now + duration ≤ s.pingTick ∨ s.Writing ∨ s.phase = .closed

instance (s : Session) (duration : Nat) : Decidable (s.CanWait duration) :=
  inferInstanceAs (Decidable (_ ∧ _ ∨ _))

def arrive (s : Session) (message : Message) : Session :=
  { s with
    inbox := s.inbox ++ [⟨message, s.now⟩]
    arrived := if message.alive then s.arrived ++ [s.now] else s.arrived }

def next (s : Session) : Option Session :=
  match s.inbox with
  | [] => none
  | inbound :: inbox =>
    if inbound.message.alive then some { s with inbox, lastAlive := s.now }
    else some { s with inbox, phase := .exited }

/-- A missed tick is made up for at once: the next one is due an interval after the
time this one was due. -/
def tick (s : Session) : Session :=
  { s with phase := .sendingPing, pingTick := s.pingTick + pingInterval }

/-- A write has succeeded; behind a ping comes the timeout check. -/
def sent (s : Session) : Option Session :=
  match s.phase with
  | .sendingData => some { s with phase := .select }
  -- The clock is read behind the write, not when the tick came.
  | .sendingPing =>
    if pongTimeout < s.now - s.lastAlive then some { s with phase := .exited }
    else some { s with phase := .select }
  | .select | .exited | .closed => none

def step (s : Session) : Event → Option Session
  | .arrive message => some (s.arrive message)
  | .entryLost => some { s with registered := false }
  | .elapse duration => if s.CanWait duration then some { s with now := s.now + duration } else none
  | .next => if s.phase = .select then s.next else none
  | .recv => if s.phase = .select then some { s with phase := .sendingData } else none
  -- A registered entry holds a sender, so the channel ends only after the entry is lost.
  | .recvNone =>
    if s.phase = .select ∧ s.registered = false then some { s with phase := .exited } else none
  | .tick => if s.phase = .select ∧ s.pingTick ≤ s.now then some s.tick else none
  | .sent => s.sent
  | .sendFailed => if s.Writing then some { s with phase := .exited } else none
  | .cleanup =>
    if s.phase = .exited then some { s with phase := .closed, registered := false } else none

def connectionPhase (s : Session) : ConnectionPhase :=
  match s.phase with
  | .select | .sendingData | .sendingPing => .running
  | .exited => .exited
  | .closed => .closed

section Steps

variable {s next : Session}

inductive Stepped (s : Session) : Event → Session → Prop where
  | arrived (message : Message) : Stepped s (.arrive message) (s.arrive message)
  | entryLost : Stepped s .entryLost { s with registered := false }
  | elapsed {duration : Nat} : s.CanWait duration →
      Stepped s (.elapse duration) { s with now := s.now + duration }
  | read {inbound : Inbound} {inbox : List Inbound} : s.phase = .select →
      s.inbox = inbound :: inbox → inbound.message.alive = true →
      Stepped s .next { s with inbox, lastAlive := s.now }
  | left {inbound : Inbound} {inbox : List Inbound} : s.phase = .select →
      s.inbox = inbound :: inbox → inbound.message.alive = false →
      Stepped s .next { s with inbox, phase := .exited }
  | sending : s.phase = .select → Stepped s .recv { s with phase := .sendingData }
  | senderless : s.phase = .select → s.registered = false →
      Stepped s .recvNone { s with phase := .exited }
  | pinging : s.phase = .select → s.pingTick ≤ s.now → Stepped s .tick s.tick
  | sentData : s.phase = .sendingData → Stepped s .sent { s with phase := .select }
  | timedOut : s.phase = .sendingPing → pongTimeout < s.now - s.lastAlive →
      Stepped s .sent { s with phase := .exited }
  | sentPing : s.phase = .sendingPing → s.now - s.lastAlive ≤ pongTimeout →
      Stepped s .sent { s with phase := .select }
  | broken : s.Writing → Stepped s .sendFailed { s with phase := .exited }
  | cleaned : s.phase = .exited →
      Stepped s .cleanup { s with phase := .closed, registered := false }

theorem stepped {event : Event} (taken : s.step event = some next) : Stepped s event next := by
  cases event with
  | arrive message => cases taken; exact .arrived message
  | entryLost => cases taken; exact .entryLost
  | elapse duration =>
    obtain ⟨waits, rfl⟩ := guarded_eq_some.mp taken
    exact .elapsed waits
  | next =>
    obtain ⟨phase, taken⟩ := Option.ite_none_right_eq_some.mp taken
    unfold Session.next at taken
    split at taken
    next => cases taken
    next front =>
      split at taken
      next alive => cases taken; exact .read phase front alive
      next ended => cases taken; exact .left phase front (Bool.eq_false_iff.mpr ended)
  | recv =>
    obtain ⟨phase, rfl⟩ := guarded_eq_some.mp taken
    exact .sending phase
  | recvNone =>
    obtain ⟨⟨phase, gone⟩, rfl⟩ := guarded_eq_some.mp taken
    exact .senderless phase gone
  | tick =>
    obtain ⟨⟨phase, due⟩, rfl⟩ := guarded_eq_some.mp taken
    exact .pinging phase due
  | sent =>
    change s.sent = some next at taken
    unfold Session.sent at taken
    split at taken
    next phase => cases taken; exact .sentData phase
    next phase =>
      split at taken
      next late => cases taken; exact .timedOut phase late
      next early => cases taken; exact .sentPing phase (Nat.le_of_not_lt early)
    all_goals cases taken
  | sendFailed =>
    obtain ⟨writing, rfl⟩ := guarded_eq_some.mp taken
    exact .broken writing
  | cleanup =>
    obtain ⟨phase, rfl⟩ := guarded_eq_some.mp taken
    exact .cleaned phase

end Steps

section Timeouts

def TimesOut (s : Session) (event : Event) : Prop :=
  event = .sent ∧ s.phase = .sendingPing ∧ pongTimeout < s.now - s.lastAlive

def TimeoutJustified (s : Session) (event : Event) (_ : Session) : Prop :=
  s.TimesOut event → ∀ arrival ∈ s.arrived, arrival + pongTimeout < s.now

/-- When the session times out, every frame that is still unread at the socket has
been there for longer than the timeout. -/
def NothingFreshUnread (s : Session) (event : Event) (_ : Session) : Prop :=
  s.TimesOut event → ∀ inbound ∈ s.inbox, inbound.message.alive = true →
    inbound.arrival + pongTimeout < s.now

structure Heard (s : Session) : Prop where
  lastAlive : s.lastAlive ≤ s.now
  arrivals : ∀ arrival ∈ s.arrived, arrival ≤ s.now
  unread : ∀ inbound ∈ s.inbox, inbound.message.alive = true → inbound.arrival ∈ s.arrived
  read : ∀ arrival ∈ s.arrived, arrival ≤ s.lastAlive ∨
    ∃ inbound ∈ s.inbox, inbound.message.alive = true ∧ inbound.arrival = arrival

variable {s next : Session}

theorem heard_start (opened : Nat) : Heard (start opened) where
  lastAlive := Nat.le_refl opened
  arrivals _ member := by cases member
  unread _ member := by cases member
  read _ member := by cases member

theorem Heard.frame (heard : Heard s) (now : next.now = s.now) (lastAlive : next.lastAlive = s.lastAlive)
    (inbox : next.inbox = s.inbox) (arrived : next.arrived = s.arrived) : Heard next := by
  constructor
  · rw [lastAlive, now]
    exact heard.lastAlive
  · rw [arrived, now]
    exact heard.arrivals
  · rw [inbox, arrived]
    exact heard.unread
  · rw [arrived, lastAlive, inbox]
    exact heard.read

theorem Heard.arrive (heard : Heard s) (message : Message) : Heard (s.arrive message) := by
  cases alive : message.alive with
  | false =>
    simp only [Session.arrive, alive, Bool.false_eq_true, if_false]
    refine ⟨heard.lastAlive, heard.arrivals, ?_, ?_⟩
    · intro inbound member live
      rcases List.mem_append.mp member with before | new
      · exact heard.unread inbound before live
      · rw [List.mem_singleton.mp new, alive] at live
        cases live
    · intro arrival member
      rcases heard.read arrival member with read | ⟨inbound, waiting, live, same⟩
      · exact Or.inl read
      · exact Or.inr ⟨inbound, List.mem_append_left _ waiting, live, same⟩
  | true =>
    simp only [Session.arrive, alive, if_true]
    refine ⟨heard.lastAlive, ?_, ?_, ?_⟩
    · intro arrival member
      rcases List.mem_append.mp member with before | new
      · exact heard.arrivals arrival before
      · exact Nat.le_of_eq (List.mem_singleton.mp new)
    · intro inbound member live
      rcases List.mem_append.mp member with before | new
      · exact List.mem_append_left _ (heard.unread inbound before live)
      · rw [List.mem_singleton.mp new]
        exact List.mem_append_right _ (List.mem_singleton_self _)
    · intro arrival member
      rcases List.mem_append.mp member with before | new
      · rcases heard.read arrival before with read | ⟨inbound, waiting, live, same⟩
        · exact Or.inl read
        · exact Or.inr ⟨inbound, List.mem_append_left _ waiting, live, same⟩
      · rw [List.mem_singleton.mp new]
        exact Or.inr ⟨_, List.mem_append_right _ (List.mem_singleton_self _), alive, rfl⟩

theorem Heard.read_front (heard : Heard s) {inbound : Inbound} {inbox : List Inbound}
    (front : s.inbox = inbound :: inbox) : Heard { s with inbox, lastAlive := s.now } where
  lastAlive := Nat.le_refl s.now
  arrivals := heard.arrivals
  unread inbound' member live := heard.unread inbound' (front ▸ List.mem_cons_of_mem _ member) live
  read arrival member := Or.inl (heard.arrivals arrival member)

theorem Heard.leave (heard : Heard s) {inbound : Inbound} {inbox : List Inbound}
    (front : s.inbox = inbound :: inbox) (ended : inbound.message.alive = false) :
    Heard { s with inbox, phase := .exited } where
  lastAlive := heard.lastAlive
  arrivals := heard.arrivals
  unread inbound' member live := heard.unread inbound' (front ▸ List.mem_cons_of_mem _ member) live
  read arrival member := by
    rcases heard.read arrival member with read | ⟨inbound', waiting, live, same⟩
    · exact Or.inl read
    · rw [front] at waiting
      rcases List.mem_cons.mp waiting with rfl | later
      · rw [ended] at live
        cases live
      · exact Or.inr ⟨inbound', later, live, same⟩

theorem heard_step : Invariant step Heard := by
  intro s event next heard taken
  cases stepped taken with
  | arrived message => exact heard.arrive message
  | elapsed =>
    exact ⟨Nat.le_add_right_of_le heard.lastAlive,
      fun arrival member => Nat.le_add_right_of_le (heard.arrivals arrival member),
      heard.unread, heard.read⟩
  | read _ front => exact heard.read_front front
  | left _ front ended => exact heard.leave front ended
  | entryLost => exact heard.frame rfl rfl rfl rfl
  | sending => exact heard.frame rfl rfl rfl rfl
  | senderless => exact heard.frame rfl rfl rfl rfl
  | pinging => exact heard.frame rfl rfl rfl rfl
  | sentData => exact heard.frame rfl rfl rfl rfl
  | timedOut => exact heard.frame rfl rfl rfl rfl
  | sentPing => exact heard.frame rfl rfl rfl rfl
  | broken => exact heard.frame rfl rfl rfl rfl
  | cleaned => exact heard.frame rfl rfl rfl rfl

/-- Over every run, each timeout comes after a silence of its length exactly when no
fresher frame is unread at the socket at that moment. -/
theorem timeouts_justified_iff (opened : Nat) (events : List Event) :
    EveryStep step TimeoutJustified (start opened) events ↔
      EveryStep step NothingFreshUnread (start opened) events := by
  refine EveryStep.congr heard_step ?_ (heard_start opened) events
  intro s event next heard _
  constructor
  · intro justified timesOut inbound waiting live
    exact justified timesOut _ (heard.unread inbound waiting live)
  · intro nothing timesOut arrival member
    rcases heard.read arrival member with read | ⟨inbound, waiting, live, rfl⟩
    · have late := timesOut.2.2
      omega
    · exact nothing timesOut inbound waiting live

/-- A pong arrives while a packet is written, and the overdue ping comes first. -/
def pongBehindWrite : List Event :=
  [.recv, .elapse (seconds 20), .arrive .pong, .elapse (seconds 11), .sent, .tick]

theorem responsive_client_timed_out :
    ∃ s next, run step (start 0) pongBehindWrite = some s ∧ s.step .sent = some next ∧
      ¬ TimeoutJustified s .sent next := by
  refine ⟨_, _, rfl, rfl, fun justified => ?_⟩
  have silence := justified ⟨rfl, rfl, by decide⟩ (seconds 20) (by decide)
  revert silence
  decide

end Timeouts

section Zombies

/-- Since the opening and since every arrival, more than one timeout and one ping
interval will have passed at that time. -/
def SilentAt (s : Session) (time : Nat) : Prop :=
  s.opened + (pongTimeout + pingInterval) < time ∧
    ∀ arrival ∈ s.arrived, arrival + (pongTimeout + pingInterval) < time

def Zombie (s : Session) : Prop := s.registered = true ∧ s.SilentAt s.now

/-- The sign of life on record is later than every arrival: it was read late. -/
def ReadLate (s : Session) : Prop :=
  s.opened < s.lastAlive ∧ ∀ arrival ∈ s.arrived, arrival < s.lastAlive

/-- While registered, the session is not in a socket write when the silence becomes
too long, nor does it wait then for a tick that is due too late because the timeout
counts from a late reading. -/
def NoStall (s : Session) (event : Event) (_ : Session) : Prop :=
  ∀ duration, event = .elapse duration → s.registered = true →
    s.Writing ∨ s.ReadLate ∧ s.SilentAt s.pingTick → ¬ s.SilentAt (s.now + duration)

structure Paced (s : Session) : Prop where
  lastAlive : s.lastAlive ≤ s.now
  pinging : s.phase = .sendingPing → s.pingTick ≤ s.now + pingInterval
  due : s.phase = .select ∨ s.phase = .sendingData →
    s.pingTick ≤ s.lastAlive + (pongTimeout + pingInterval)
  closed : s.phase = .closed → s.registered = false

variable {s next : Session}

theorem paced_start (opened : Nat) : Paced (start opened) where
  lastAlive := Nat.le_refl opened
  pinging phase := by cases phase
  due _ := Nat.add_le_add_left (by decide) opened
  closed phase := by cases phase

theorem paced_step : Invariant step Paced := by
  intro s event next paced taken
  have early := paced.lastAlive
  cases stepped taken with
  | arrived => exact ⟨early, paced.pinging, paced.due, paced.closed⟩
  | entryLost => exact ⟨early, paced.pinging, paced.due, fun _ => rfl⟩
  | elapsed =>
    refine ⟨Nat.le_add_right_of_le early, fun phase => ?_, paced.due, paced.closed⟩
    exact Nat.le_trans (paced.pinging phase) (Nat.add_le_add_right (Nat.le_add_right _ _) _)
  | read phase =>
    refine ⟨Nat.le_refl _, paced.pinging, fun _ => ?_, paced.closed⟩
    exact Nat.le_trans (paced.due (Or.inl phase)) (Nat.add_le_add_right early _)
  | left => exact ⟨early, by simp, by simp, by simp⟩
  | sending phase => exact ⟨early, by simp, fun _ => paced.due (Or.inl phase), by simp⟩
  | senderless => exact ⟨early, by simp, by simp, by simp⟩
  | pinging _ due => exact ⟨early, fun _ => Nat.add_le_add_right due _, by simp [tick], by simp [tick]⟩
  | sentData phase => exact ⟨early, by simp, fun _ => paced.due (Or.inr phase), by simp⟩
  | timedOut => exact ⟨early, by simp, by simp, by simp⟩
  | sentPing phase fresh =>
    refine ⟨early, by simp, fun _ => ?_, by simp⟩
    have due := paced.pinging phase
    dsimp only
    omega
  | broken => exact ⟨early, by simp, by simp, by simp⟩
  | cleaned => exact ⟨early, by simp, by simp, fun _ => rfl⟩

theorem SilentAt.mono {time later : Nat} (silent : s.SilentAt time) (order : time ≤ later) :
    s.SilentAt later :=
  ⟨Nat.lt_of_lt_of_le silent.1 order,
    fun arrival member => Nat.lt_of_lt_of_le (silent.2 arrival member) order⟩

/-- Up to the next tick the silence is at most as old as the sign of life on record. -/
theorem readLate_of_silent (paced : Paced s) (phase : s.phase = .select ∨ s.phase = .sendingData)
    {time : Nat} (due : time ≤ s.pingTick) (silent : s.SilentAt time) : s.ReadLate := by
  have bound := Nat.le_trans due (paced.due phase)
  constructor
  · have opened := silent.1
    omega
  · intro arrival member
    have arrived := silent.2 arrival member
    omega

theorem not_zombie_start (opened : Nat) : ¬ (start opened).Zombie := by
  rintro ⟨_, silent, _⟩
  exact absurd silent (Nat.not_lt_of_le (Nat.le_add_right _ _))

theorem SilentAt.of_arrived {time : Nat} (silent : next.SilentAt time) (opened : next.opened = s.opened)
    (arrived : s.arrived ⊆ next.arrived) : s.SilentAt time :=
  ⟨opened ▸ silent.1, fun arrival member => silent.2 arrival (arrived member)⟩

/-- Without the passing of time nobody becomes a zombie. -/
theorem Zombie.before (zombie : next.Zombie) (now : next.now = s.now) (opened : next.opened = s.opened)
    (arrived : s.arrived ⊆ next.arrived) (registered : next.registered = true → s.registered = true) :
    s.Zombie :=
  ⟨registered zombie.1, now ▸ zombie.2.of_arrived opened arrived⟩

theorem zombie_step {event : Event} (paced : Paced s) (alive : ¬ s.Zombie)
    (taken : s.step event = some next) : ¬ next.Zombie ↔ NoStall s event next := by
  have instant (still : ∀ duration, event ≠ .elapse duration) (before : next.Zombie → s.Zombie) :
      ¬ next.Zombie ↔ NoStall s event next :=
    iff_of_true (fun zombie => alive (before zombie))
      fun duration same => absurd same (still duration)
  have same (zombie : next.Zombie) (now : next.now = s.now) (opened : next.opened = s.opened)
      (arrived : next.arrived = s.arrived) (registered : next.registered = s.registered) : s.Zombie :=
    zombie.before now opened (by rw [arrived]; exact List.Subset.refl _) (by rw [registered]; exact id)
  cases stepped taken with
  | arrived message =>
    refine instant (by simp) fun zombie => zombie.before rfl rfl ?_ id
    unfold Session.arrive
    split
    · exact List.subset_append_left _ _
    · exact List.Subset.refl _
  | entryLost => exact instant (by simp) fun zombie => absurd zombie.1 (by simp)
  | elapsed waits =>
    constructor
    · rintro calm _ ⟨⟩ registered _ silent
      exact calm ⟨registered, silent⟩
    -- Time passes at the select, in a write or behind the cleanup; only at the select
    -- does the bound come from the ticks.
    · rintro inTime ⟨registered, silent⟩
      rcases waits with ⟨phase, _, due⟩ | writing | phase
      · have late := readLate_of_silent paced (Or.inl phase) due silent
        exact inTime _ rfl registered (Or.inr ⟨late, silent.mono due⟩) silent
      · exact inTime _ rfl registered (Or.inl writing) silent
      · rw [paced.closed phase] at registered
        cases registered
  | read => exact instant (by simp) fun zombie => same zombie rfl rfl rfl rfl
  | left => exact instant (by simp) fun zombie => same zombie rfl rfl rfl rfl
  | sending => exact instant (by simp) fun zombie => same zombie rfl rfl rfl rfl
  | senderless => exact instant (by simp) fun zombie => same zombie rfl rfl rfl rfl
  | pinging => exact instant (by simp) fun zombie => same zombie rfl rfl rfl rfl
  | sentData => exact instant (by simp) fun zombie => same zombie rfl rfl rfl rfl
  | timedOut => exact instant (by simp) fun zombie => same zombie rfl rfl rfl rfl
  | sentPing => exact instant (by simp) fun zombie => same zombie rfl rfl rfl rfl
  | broken => exact instant (by simp) fun zombie => same zombie rfl rfl rfl rfl
  | cleaned => exact instant (by simp) fun zombie => absurd zombie.1 (by simp)

/-- Over every run, no zombie stays registered exactly when the silence never becomes
too long in a socket write or on the record of a late reading. -/
theorem no_zombies_iff (opened : Nat) (events : List Event) :
    EveryState step (fun s => ¬ s.Zombie) (start opened) events ↔
      EveryStep step NoStall (start opened) events := by
  refine everyState_iff_everyStep paced_step ?_ (paced_start opened) (not_zombie_start opened)
  intro s event next _ paced alive taken
  exact zombie_step paced alive taken

/-- A write to a client that has gone blocks the loop, its pings and the check. -/
theorem stalled_write_keeps_zombie :
    ∃ s, run step (start 0) [.recv, .elapse (seconds 41)] = some s ∧ s.Zombie := by
  refine ⟨_, rfl, rfl, by decide, fun arrival member => ?_⟩
  cases member

/-- A packet is written before the next ping is due and while no frame is unread,
and a ping is written at once. -/
def PromptWrite (s : Session) (event : Event) (_ : Session) : Prop :=
  ∀ duration, event = .elapse duration → s.Writing →
    duration = 0 ∨ s.phase = .sendingData ∧ s.inbox = [] ∧ s.now + duration ≤ s.pingTick

instance (s : Session) (event : Event) (next : Session) : Decidable (PromptWrite s event next) :=
  match event with
  | .elapse duration =>
    decidable_of_iff (s.Writing →
        duration = 0 ∨ s.phase = .sendingData ∧ s.inbox = [] ∧ s.now + duration ≤ s.pingTick)
      ⟨fun prompt _ same => Event.elapse.inj same ▸ prompt, fun prompt => prompt duration rfl⟩
  | .arrive _ | .entryLost | .next | .recv | .recvNone | .tick | .sent | .sendFailed | .cleanup =>
    isTrue fun _ same => nomatch same

structure Punctual (s : Session) : Prop where
  unread : s.phase ≠ .closed → ∀ inbound ∈ s.inbox, inbound.message.alive = true →
    inbound.arrival = s.now
  record : s.lastAlive = s.opened ∨ s.lastAlive ∈ s.arrived

theorem Punctual.not_readLate (punctual : Punctual s) : ¬ s.ReadLate := by
  rintro ⟨opened, arrived⟩
  rcases punctual.record with same | read
  · exact Nat.lt_irrefl _ (same ▸ opened)
  · exact Nat.lt_irrefl _ (arrived _ read)

theorem Punctual.arrive (punctual : Punctual s) (message : Message) : Punctual (s.arrive message) where
  unread phase inbound member live := by
    rcases List.mem_append.mp member with before | new
    · exact punctual.unread phase inbound before live
    · rw [List.mem_singleton.mp new]
      rfl
  record := by
    refine punctual.record.imp_right fun read => ?_
    unfold Session.arrive
    split
    · exact List.mem_append_left _ read
    · exact read

theorem punctual_step {event : Event} (heard : Heard s) (punctual : Punctual s)
    (taken : s.step event = some next) (prompt : PromptWrite s event next) : Punctual next := by
  cases stepped taken with
  | arrived message => exact punctual.arrive message
  | elapsed waits =>
    refine ⟨fun phase inbound member live => ?_, punctual.record⟩
    rcases waits with ⟨_, empty, _⟩ | writing | closed
    · rw [empty] at member
      cases member
    · rcases prompt _ rfl writing with rfl | ⟨_, empty, _⟩
      · exact punctual.unread phase inbound member live
      · rw [empty] at member
        cases member
    · exact absurd closed phase
  | @read inbound inbox phase front live =>
    have unclosed : s.phase ≠ .closed := by rw [phase]; decide
    have first : inbound ∈ s.inbox := by rw [front]; exact List.mem_cons_self
    refine ⟨fun _ inbound' member => ?_, Or.inr ?_⟩
    · exact punctual.unread unclosed inbound' (front ▸ List.mem_cons_of_mem _ member)
    -- The front has arrived just now, so the record is its arrival.
    · have arrived := heard.unread inbound first live
      rwa [punctual.unread unclosed inbound first live] at arrived
  | left phase front =>
    have unclosed : s.phase ≠ .closed := by rw [phase]; decide
    refine ⟨fun _ inbound' member => ?_, punctual.record⟩
    exact punctual.unread unclosed inbound' (front ▸ List.mem_cons_of_mem _ member)
  | entryLost => exact ⟨punctual.unread, punctual.record⟩
  | sending phase => exact ⟨fun _ => punctual.unread (by rw [phase]; decide), punctual.record⟩
  | senderless phase => exact ⟨fun _ => punctual.unread (by rw [phase]; decide), punctual.record⟩
  | pinging phase => exact ⟨fun _ => punctual.unread (by rw [phase]; decide), punctual.record⟩
  | sentData phase => exact ⟨fun _ => punctual.unread (by rw [phase]; decide), punctual.record⟩
  | timedOut phase => exact ⟨fun _ => punctual.unread (by rw [phase]; decide), punctual.record⟩
  | sentPing phase => exact ⟨fun _ => punctual.unread (by rw [phase]; decide), punctual.record⟩
  | broken writing =>
    refine ⟨fun _ => punctual.unread ?_, punctual.record⟩
    rcases writing with phase | phase <;> rw [phase] <;> decide
  | cleaned => exact ⟨fun closed => absurd rfl closed, punctual.record⟩

theorem noStall_of_prompt {event : Event} (paced : Paced s) (punctual : Punctual s)
    (alive : ¬ s.Zombie) (prompt : PromptWrite s event next) : NoStall s event next := by
  rintro duration rfl registered (writing | ⟨late, _⟩) silent
  · rcases prompt duration rfl writing with rfl | ⟨phase, _, due⟩
    · exact alive ⟨registered, silent⟩
    · exact punctual.not_readLate (readLate_of_silent paced (Or.inr phase) due silent)
  · exact punctual.not_readLate late

structure Calm (s : Session) : Prop where
  heard : Heard s
  paced : Paced s
  punctual : Punctual s
  alive : ¬ s.Zombie

theorem calm_start (opened : Nat) : Calm (start opened) where
  heard := heard_start opened
  paced := paced_start opened
  punctual := ⟨fun _ _ => False.elim ∘ List.not_mem_nil, Or.inl rfl⟩
  alive := not_zombie_start opened

theorem calm_step {event : Event} (calm : Calm s) (taken : s.step event = some next)
    (prompt : PromptWrite s event next) : Calm next where
  heard := heard_step s event next calm.heard taken
  paced := paced_step s event next calm.paced taken
  punctual := punctual_step calm.heard calm.punctual taken prompt
  alive := (zombie_step calm.paced calm.alive taken).mpr
    (noStall_of_prompt calm.paced calm.punctual calm.alive prompt)

/-- Where no write holds up the loop, no zombie stays registered. -/
theorem no_zombies_of_prompt_writes (opened : Nat) (events : List Event)
    (prompt : EveryStep step PromptWrite (start opened) events) :
    EveryState step (fun s => ¬ s.Zombie) (start opened) events :=
  EveryState.of_everyStep (I := Calm) (fun _ _ _ => calm_step) (fun _ => Calm.alive)
    (calm_start opened) prompt

def silentClient : List Event :=
  (List.replicate 4 [.elapse pingInterval, .tick, .sent]).flatten ++ [.cleanup]

theorem no_zombies_of_prompt_writes_silent :
    EveryState step (fun s => ¬ s.Zombie) (start 0) silentClient :=
  no_zombies_of_prompt_writes 0 silentClient (by decide +kernel)

end Zombies

end Session

end WsGateway.Heartbeat
