import WsGateway.Foundation.Records
import WsGateway.Gateway.Heartbeat

/-! When the select loop pings its client on a runtime that is late.

Timers fire late, tasks are polled late and writes take their time, so here time may
pass before any step of the loop. A ping is never early then, and those that were held
up are made up for one by one.
-/

set_option autoImplicit false

namespace WsGateway.Heartbeat.Session
open Foundation

def lateStep (s : Session) : Event → Option Session
  | .elapse duration => some { s with now := s.now + duration }
  | event => s.step event

def pings (s : Session) : Event → List Nat
  | .tick => [s.now]
  | _ => []

def pingDue (opened count : Nat) : Nat := opened + (count + 1) * pingInterval

variable {s next : Session}

section Lateness

theorem late_cases {event : Event} (taken : s.lateStep event = some next) :
    (∃ duration, event = .elapse duration ∧ next = { s with now := s.now + duration }) ∨
      s.step event = some next := by
  cases event with
  | elapse duration =>
    cases taken
    exact Or.inl ⟨duration, rfl, rfl⟩
  | _ => exact Or.inr taken

/-- The punctual loop is a late one that is never late. -/
theorem lateStep_of_step {event : Event} (taken : s.step event = some next) :
    s.lateStep event = some next := by
  cases event with
  | elapse duration =>
    obtain ⟨_, rfl⟩ := guarded_eq_some.mp taken
    rfl
  | _ => exact taken

theorem late_run {events : List Event} {start final : Session} (ran : run step start events = some final) :
    run lateStep start events = some final := by
  induction events generalizing start with
  | nil => exact ran
  | cons event rest ih =>
    obtain ⟨next, taken, ran⟩ := run_cons.mp ran
    exact run_cons.mpr ⟨next, lateStep_of_step taken, ih ran⟩

/-- Whatever else the loop does, a ping is all that its schedule notices. -/
theorem pinged_or_kept {event : Event} (taken : s.lateStep event = some next) :
    event = .tick ∧ s.phase = .select ∧ s.pingTick ≤ s.now ∧ next = s.tick ∨
      s.pings event = [] ∧ next.pingTick = s.pingTick ∧ s.now ≤ next.now ∧
        (next.lastAlive = s.lastAlive ∨ next.lastAlive = s.now) := by
  rcases late_cases taken with ⟨duration, rfl, rfl⟩ | taken
  · exact Or.inr ⟨rfl, rfl, Nat.le_add_right _ _, Or.inl rfl⟩
  have kept {event : Event} {next : Session} (unpinged : s.pings event = [])
      (tick : next.pingTick = s.pingTick) (now : next.now = s.now)
      (alive : next.lastAlive = s.lastAlive) :
      s.pings event = [] ∧ next.pingTick = s.pingTick ∧ s.now ≤ next.now ∧
        (next.lastAlive = s.lastAlive ∨ next.lastAlive = s.now) :=
    ⟨unpinged, tick, Nat.le_of_eq now.symm, Or.inl alive⟩
  cases stepped taken with
  | pinging phase due => exact Or.inl ⟨rfl, phase, due, rfl⟩
  | elapsed => exact Or.inr ⟨rfl, rfl, Nat.le_add_right _ _, Or.inl rfl⟩
  | read => exact Or.inr ⟨rfl, rfl, Nat.le_refl _, Or.inr rfl⟩
  | arrived => exact Or.inr (kept rfl rfl rfl rfl)
  | entryLost => exact Or.inr (kept rfl rfl rfl rfl)
  | left => exact Or.inr (kept rfl rfl rfl rfl)
  | sending => exact Or.inr (kept rfl rfl rfl rfl)
  | senderless => exact Or.inr (kept rfl rfl rfl rfl)
  | sentData => exact Or.inr (kept rfl rfl rfl rfl)
  | timedOut => exact Or.inr (kept rfl rfl rfl rfl)
  | sentPing => exact Or.inr (kept rfl rfl rfl rfl)
  | broken => exact Or.inr (kept rfl rfl rfl rfl)
  | cleaned => exact Or.inr (kept rfl rfl rfl rfl)

theorem paced_late : Invariant lateStep Paced := by
  intro s event next paced taken
  rcases late_cases taken with ⟨duration, rfl, rfl⟩ | taken
  · refine ⟨Nat.le_add_right_of_le paced.lastAlive, fun phase => ?_, paced.due, paced.closed⟩
    exact Nat.le_trans (paced.pinging phase) (Nat.add_le_add_right (Nat.le_add_right _ _) _)
  · exact paced_step s event next paced taken

end Lateness

section Schedule

/-- The interval's next tick is one further for every ping. -/
structure Scheduled (opened : Nat) (sent : List Nat) (s : Session) : Prop where
  next : s.pingTick = pingDue opened sent.length
  due : ∀ count time, sent[count]? = some time → pingDue opened count ≤ time
  begun : ∀ time ∈ sent, time ≤ s.now
  ordered : sent.Pairwise (· ≤ ·)
  passed : opened + sent.length * pingInterval ≤ s.now

theorem scheduled_start (opened : Nat) : Scheduled opened [] (start opened) where
  next := by rw [start, pingDue, List.length_nil, Nat.zero_add, Nat.one_mul]
  due := by simp
  begun := by simp
  ordered := List.Pairwise.nil
  passed := by rw [List.length_nil, Nat.zero_mul]; exact Nat.le_refl opened

theorem Scheduled.frame {opened : Nat} {sent : List Nat} (scheduled : Scheduled opened sent s)
    (tick : next.pingTick = s.pingTick) (now : s.now ≤ next.now) : Scheduled opened (sent ++ []) next := by
  rw [List.append_nil]
  exact ⟨tick.trans scheduled.next, scheduled.due,
    fun time member => Nat.le_trans (scheduled.begun time member) now, scheduled.ordered,
    Nat.le_trans scheduled.passed now⟩

theorem Scheduled.tick {opened : Nat} {sent : List Nat} (scheduled : Scheduled opened sent s)
    (due : s.pingTick ≤ s.now) : Scheduled opened (sent ++ [s.now]) s.tick where
  next := by
    rw [Session.tick, scheduled.next, pingDue, pingDue, List.length_append, List.length_singleton]
    ring
  due count time found := by
    rw [List.getElem?_append] at found
    split at found
    next before => exact scheduled.due count time found
    next behind =>
      -- The new ping is the one the tick was due for.
      rw [List.getElem?_singleton, Option.ite_none_right_eq_some, Option.some.injEq] at found
      obtain ⟨last, rfl⟩ := found
      rw [scheduled.next] at due
      rwa [show count = sent.length by omega]
  begun time member := by
    rcases List.mem_append.mp member with before | new
    · exact scheduled.begun time before
    · exact Nat.le_of_eq (List.mem_singleton.mp new)
  ordered := by
    refine List.pairwise_append.mpr ⟨scheduled.ordered, List.pairwise_singleton _ _, ?_⟩
    intro time before new member
    rw [List.mem_singleton.mp member]
    exact scheduled.begun time before
  passed := by
    rw [List.length_append, List.length_singleton]
    rwa [scheduled.next] at due

theorem scheduled_step (opened : Nat) (sent : List Nat) (s : Session) (event : Event) (next : Session)
    (scheduled : Scheduled opened sent s) (taken : s.lateStep event = some next) :
    Scheduled opened (sent ++ s.pings event) next := by
  rcases pinged_or_kept taken with ⟨rfl, _, due, rfl⟩ | ⟨unpinged, tick, now, _⟩
  · exact scheduled.tick due
  · rw [unpinged]
    exact scheduled.frame tick now

theorem tick_eq_none (phase : s.phase = .select) : s.lateStep .tick = none ↔ s.now < s.pingTick := by
  rw [show s.lateStep .tick = s.step .tick from rfl, step, ← Nat.not_le]
  simp [phase]

/-- However late the loop is, the pings are sent in order and none before it is due, never
more of them than whole intervals have passed; and when the select finds no ping to send
there have been exactly as many. -/
theorem ping_schedule (opened : Nat) (events : List Event) (s : Session)
    (ran : run lateStep (start opened) events = some s) :
    (record lateStep pings (start opened) events).Pairwise (· ≤ ·) ∧
      (∀ count time, (record lateStep pings (start opened) events)[count]? = some time →
        pingDue opened count ≤ time ∧ time ≤ s.now) ∧
      (record lateStep pings (start opened) events).length ≤ (s.now - opened) / pingInterval ∧
      (s.phase = .select → (s.lateStep .tick = none ↔
        (record lateStep pings (start opened) events).length = (s.now - opened) / pingInterval)) := by
  have scheduled : Scheduled opened (record lateStep pings (start opened) events) s :=
    record_run (scheduled_step opened) (scheduled_start opened) ran
  have passed := scheduled.passed
  have positive : 0 < pingInterval := by decide
  have few : (record lateStep pings (start opened) events).length ≤ (s.now - opened) / pingInterval := by
    rw [Nat.le_div_iff_mul_le positive]
    omega
  refine ⟨scheduled.ordered, fun count time found => ?_, few, fun phase => ?_⟩
  · exact ⟨scheduled.due count time found, scheduled.begun time (List.mem_of_getElem? found)⟩
  · rw [tick_eq_none phase, scheduled.next, pingDue]
    calc s.now < opened + ((record lateStep pings (start opened) events).length + 1) * pingInterval
      _ ↔ s.now - opened < ((record lateStep pings (start opened) events).length + 1) * pingInterval := by
        omega
      _ ↔ (s.now - opened) / pingInterval < (record lateStep pings (start opened) events).length + 1 :=
        (Nat.div_lt_iff_lt_mul positive).symm
      _ ↔ (record lateStep pings (start opened) events).length = (s.now - opened) / pingInterval := by
        omega

def heldUp : List Event :=
  [.recv, .elapse (seconds 35), .arrive .pong, .sent, .next, .tick, .sent, .tick, .sent, .tick, .sent]

theorem ping_schedule_heldUp :
    ∃ s, run lateStep (start 0) heldUp = some s ∧ s.lateStep .tick = none ∧
      (record lateStep pings (start 0) heldUp).length = (s.now - 0) / pingInterval :=
  ⟨_, rfl, rfl, ((ping_schedule 0 heldUp _ rfl).2.2.2 rfl).mp rfl⟩

end Schedule

section Silence

def Watched (s : Session) : Prop := s.pingTick ≤ s.lastAlive + (pongTimeout + 2 * pingInterval)

theorem watched_late (paced : Paced s) (watched : Watched s) {event : Event}
    (taken : s.lateStep event = some next) : Watched next := by
  rcases pinged_or_kept taken with ⟨_, phase, due, rfl⟩ | ⟨_, tick, _, alive⟩
  · have due := paced.due (Or.inl phase)
    simp only [Watched, Session.tick]
    omega
  · have before := paced.lastAlive
    unfold Watched at watched ⊢
    rcases alive with same | read
    · rw [tick, same]
      exact watched
    · rw [tick, read]
      omega

/-- The ping to come, or the one that is being written, is at most `late` behind. -/
def InTime (late : Nat) (s : Session) : Prop :=
  match s.phase with
  | .select | .sendingData => s.now ≤ s.pingTick + late
  | .sendingPing => s.now + pingInterval ≤ s.pingTick + late
  | .exited | .closed => True

theorem watched_run {opened : Nat} {events : List Event} (ran : run lateStep (start opened) events = some s) :
    Paced s ∧ Watched s := by
  refine Invariant.run (I := fun s => Paced s ∧ Watched s) ?_ ?_ ran
  · rintro s event next ⟨paced, watched⟩ taken
    exact ⟨paced_late s event next paced taken, watched_late paced watched taken⟩
  · exact ⟨paced_start opened, Nat.add_le_add_left (by decide) opened⟩

theorem pings_le {opened alive count spare : Nat}
    (watched : pingDue opened count ≤ alive + (spare + 1) * pingInterval) :
    count ≤ (alive - opened) / pingInterval + spare := by
  have interval : pingInterval = 10000000000 := rfl
  rw [pingDue, interval] at watched
  rw [interval]
  omega

/-- However late the loop is, a client is pinged at most four times more than whole
intervals had passed when it was last heard of, and after the fourth the loop does not
come back to its select; a loop that is `late` behind has heard of it within the timeout,
one interval and that. -/
theorem silence_bounded (opened : Nat) (events : List Event) (s : Session)
    (ran : run lateStep (start opened) events = some s) :
    (record lateStep pings (start opened) events).length ≤ (s.lastAlive - opened) / pingInterval + 4 ∧
      (s.phase = .select ∨ s.phase = .sendingData →
        (record lateStep pings (start opened) events).length ≤
          (s.lastAlive - opened) / pingInterval + 3) ∧
      ∀ late, s.InTime late → s.phase = .select ∨ s.Writing →
        s.now ≤ s.lastAlive + (pongTimeout + pingInterval) + late := by
  have scheduled : Scheduled opened (record lateStep pings (start opened) events) s :=
    record_run (scheduled_step opened) (scheduled_start opened) ran
  obtain ⟨paced, watched⟩ := watched_run ran
  refine ⟨pings_le ?_, fun phase => pings_le ?_, fun late inTime running => ?_⟩
  · rw [← scheduled.next]
    exact watched
  · rw [← scheduled.next]
    exact paced.due phase
  · unfold InTime at inTime
    rcases running with phase | phase | phase <;> rw [phase] at inTime
    · have due := paced.due (Or.inl phase)
      dsimp only at inTime
      omega
    · have due := paced.due (Or.inr phase)
      dsimp only at inTime
      omega
    · unfold Watched at watched
      dsimp only at inTime
      omega

/-- With timers that are late by a nanosecond, the third ping is the last. -/
def barelyLate : List Event :=
  .elapse (pingInterval + 1) ::
    (List.replicate 2 [.tick, .sent, .elapse pingInterval]).flatten ++ [.tick, .sent]

theorem silence_bounded_barelyLate :
    ∃ s, run lateStep (start 0) barelyLate = some s ∧ s.phase = .exited ∧
      (record lateStep pings (start 0) barelyLate).length = 3 ∧
      (record lateStep pings (start 0) barelyLate).length ≤ (s.lastAlive - 0) / pingInterval + 4 :=
  ⟨_, rfl, rfl, rfl, (silence_bounded 0 barelyLate _ rfl).1⟩

end Silence

end WsGateway.Heartbeat.Session
