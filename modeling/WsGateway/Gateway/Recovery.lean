import Mathlib.Algebra.Order.BigOperators.Group.List
import WsGateway.Gateway.Clocked

/-! From every state of the composed system time can pass, and silence clears it.

What a loop does by itself brings every session to rest, and sessions at rest can
wait. Whatever happened before, clients that fall silent are out of the registry a
timeout and a ping interval later, as long as no write holds up a loop from then on.
-/

set_option autoImplicit false

namespace WsGateway
open Foundation Protocol Routing

namespace Heartbeat

def Event.Chore : Event → Prop
  | .next | .tick | .sent | .cleanup => True
  | .arrive _ | .recv | .recvNone | .sendFailed | .entryLost | .elapse _ => False

theorem Event.Chore.ofLoop {event : Event} {empty : Prop} (own : event.Chore) :
    event.OfLoop ∧ (event = .recvNone → empty) := by
  cases event with
  | next => exact ⟨trivial, nofun⟩
  | tick => exact ⟨trivial, nofun⟩
  | sent => exact ⟨trivial, nofun⟩
  | cleanup => exact ⟨trivial, nofun⟩
  | _ => cases own

namespace Session

variable {s next : Session}

def overdue (s : Session) : Nat :=
  if s.pingTick ≤ s.now then (s.now - s.pingTick) / pingInterval + 1 else 0

/-- How much a loop still has to do before it can wait. -/
def restless (s : Session) : Nat :=
  match s.phase with
  | .select => 2 * s.inbox.length + 3 * s.overdue
  | .sendingData | .sendingPing => 2 * s.inbox.length + 3 * s.overdue + 2
  | .exited => 1
  | .closed => 0

theorem overdue_eq_zero : s.overdue = 0 ↔ s.now < s.pingTick := by
  unfold overdue
  split
  next due => exact iff_of_false (Nat.succ_ne_zero _) (Nat.not_lt_of_le due)
  next early => exact iff_of_true rfl (Nat.lt_of_not_le early)

theorem overdue_tick (due : s.pingTick ≤ s.now) : s.tick.overdue + 1 = s.overdue := by
  rw [overdue, overdue, if_pos due]
  by_cases more : s.tick.pingTick ≤ s.tick.now
  · rw [if_pos more]
    simp only [tick, pingInterval, seconds] at *
    omega
  · rw [if_neg more]
    simp only [tick, pingInterval, seconds] at *
    omega

theorem canWait_of_rest (rest : s.restless = 0) : s.CanWait 1 ∧ ¬ s.Writing := by
  unfold restless at rest
  split at rest
  next phase =>
    have empty : s.inbox = [] := List.eq_nil_of_length_eq_zero (by omega)
    have early : s.now < s.pingTick := overdue_eq_zero.mp (by omega)
    exact ⟨Or.inl ⟨phase, empty, early⟩, by simp [Writing, phase]⟩
  next => omega
  next => omega
  next => cases rest
  next phase => exact ⟨Or.inr (Or.inr phase), by simp [Writing, phase]⟩

/-- A loop that cannot wait has something to do. -/
theorem chore_of_restless (busy : s.restless ≠ 0) :
    ∃ event next, event.Chore ∧ s.step event = some next ∧ next.restless < s.restless := by
  cases phase : s.phase with
  | select =>
    cases front : s.inbox with
    | cons inbound inbox =>
      cases alive : inbound.message.alive with
      | true =>
        refine ⟨.next, { s with inbox, lastAlive := s.now }, trivial, ?_, ?_⟩
        · simp [step, Session.next, phase, front, alive]
        · simp [restless, overdue, phase, front]
      | false =>
        refine ⟨.next, { s with inbox, phase := .exited }, trivial, ?_, ?_⟩
        · simp [step, Session.next, phase, front, alive]
        · simp only [restless, phase, front, List.length_cons]
          omega
    | nil =>
      have due : s.pingTick ≤ s.now := by
        by_contra early
        have none := overdue_eq_zero.mpr (Nat.lt_of_not_le early)
        simp [restless, phase, front, none] at busy
      have less := overdue_tick due
      refine ⟨.tick, s.tick, trivial, by simp [step, phase, due], ?_⟩
      have after : s.tick.restless = 2 * s.inbox.length + 3 * s.tick.overdue + 2 := rfl
      rw [after]
      simp only [restless, phase]
      omega
  | sendingData =>
    refine ⟨.sent, { s with phase := .select }, trivial, by simp [step, sent, phase], ?_⟩
    simp [restless, phase, overdue]
  | sendingPing =>
    by_cases late : pongTimeout < s.now - s.lastAlive
    · refine ⟨.sent, { s with phase := .exited }, trivial, by simp [step, sent, phase, late], ?_⟩
      simp only [restless, phase]
      omega
    · refine ⟨.sent, { s with phase := .select }, trivial, by simp [step, sent, phase, late], ?_⟩
      simp [restless, phase, overdue]
  | exited =>
    refine ⟨.cleanup, { s with phase := .closed, registered := false }, trivial,
      by simp [step, phase], ?_⟩
    simp [restless, phase]
  | closed => exact absurd (by simp [restless, phase]) busy

def Silent (_ : Session) (event : Event) (_ : Session) : Prop :=
  ∀ message, event = .arrive message → message.alive = false

structure Fading (since : Nat) (s : Session) : Prop where
  paced : Paced s
  lastAlive : s.lastAlive ≤ since
  unread : s.phase ≠ .closed → ∀ inbound ∈ s.inbox, inbound.message.alive = true → s.now ≤ since
  bound : s.registered = true → s.now ≤ since + (pongTimeout + pingInterval)

theorem fading_step {since : Nat} {event : Event} (fading : Fading since s)
    (taken : s.step event = some next) (prompt : PromptWrite s event next)
    (silent : Silent s event next) : Fading since next := by
  have paced := paced_step s event next fading.paced taken
  cases stepped taken with
  | arrived message =>
    refine ⟨paced, fading.lastAlive, fun phase inbound member alive => ?_, fading.bound⟩
    rcases List.mem_append.mp member with before | new
    · exact fading.unread phase inbound before alive
    · rw [List.mem_singleton.mp new] at alive
      exact absurd alive (by simp [silent message rfl])
  | @elapsed duration waits =>
    have ticking (phase : s.phase = .select ∨ s.phase = .sendingData)
        (due : s.now + duration ≤ s.pingTick) :
        s.now + duration ≤ since + (pongTimeout + pingInterval) :=
      Nat.le_trans (Nat.le_trans due (fading.paced.due phase))
        (Nat.add_le_add_right fading.lastAlive _)
    refine ⟨paced, fading.lastAlive, fun phase inbound member alive => ?_, fun registered => ?_⟩
    · rcases waits with ⟨_, empty, _⟩ | writing | closed
      · rw [empty] at member
        cases member
      · rcases prompt _ rfl writing with rfl | ⟨_, empty, _⟩
        · exact fading.unread phase inbound member alive
        · rw [empty] at member
          cases member
      · exact absurd closed phase
    · rcases waits with ⟨phase, _, due⟩ | writing | closed
      · exact ticking (Or.inl phase) due
      · rcases prompt _ rfl writing with rfl | ⟨phase, _, due⟩
        · exact fading.bound registered
        · exact ticking (Or.inr phase) due
      · rw [fading.paced.closed closed] at registered
        cases registered
  | @read inbound inbox phase front alive =>
    have unclosed : s.phase ≠ .closed := by rw [phase]; decide
    refine ⟨paced, ?_, fun _ inbound' member => ?_, fading.bound⟩
    · exact fading.unread unclosed inbound (front ▸ List.mem_cons_self) alive
    · exact fading.unread unclosed inbound' (front ▸ List.mem_cons_of_mem _ member)
  | left phase front =>
    have unclosed : s.phase ≠ .closed := by rw [phase]; decide
    refine ⟨paced, fading.lastAlive, fun _ inbound' member => ?_, fading.bound⟩
    exact fading.unread unclosed inbound' (front ▸ List.mem_cons_of_mem _ member)
  | entryLost => exact ⟨paced, fading.lastAlive, fading.unread, fun registered => by cases registered⟩
  | sending phase =>
    exact ⟨paced, fading.lastAlive, fun _ => fading.unread (by rw [phase]; decide), fading.bound⟩
  | senderless phase =>
    exact ⟨paced, fading.lastAlive, fun _ => fading.unread (by rw [phase]; decide), fading.bound⟩
  | pinging phase =>
    exact ⟨paced, fading.lastAlive, fun _ => fading.unread (by rw [phase]; decide), fading.bound⟩
  | sentData phase =>
    exact ⟨paced, fading.lastAlive, fun _ => fading.unread (by rw [phase]; decide), fading.bound⟩
  | timedOut phase =>
    exact ⟨paced, fading.lastAlive, fun _ => fading.unread (by rw [phase]; decide), fading.bound⟩
  | sentPing phase =>
    exact ⟨paced, fading.lastAlive, fun _ => fading.unread (by rw [phase]; decide), fading.bound⟩
  | broken writing =>
    refine ⟨paced, fading.lastAlive, fun _ => fading.unread ?_, fading.bound⟩
    rcases writing with phase | phase <;> rw [phase] <;> decide
  | cleaned =>
    exact ⟨paced, fading.lastAlive, fun closed => absurd rfl closed, fun registered => by cases registered⟩

theorem opened_step {event : Event} (taken : s.step event = some next) : next.opened = s.opened := by
  cases stepped taken with
  | _ => rfl

end Session

end Heartbeat

namespace Clocked
open Heartbeat (Session)

section Passing

variable {c next : Clocked} {g : Gateway} {id : ConnectionId}

def Event.Chore : Event → Prop
  | .loop _ event _ => event.Chore
  | .elapse _ => True
  | .connect _ | .task _ => False

def Event.elapsed : Event → Nat
  | .elapse duration => duration
  | .connect _ | .loop _ _ _ | .task _ => 0

theorem now_step {event : Event} (taken : c.step event = some next) :
    next.gateway.now = c.gateway.now + event.elapsed := by
  obtain ⟨middle, advanced, rfl⟩ := advanced taken
  cases advanced with
  | connected connects => exact Gateway.now_step connects
  | looped _ _ _ stepped ran => exact (looped_quiet stepped ran).1
  | worked own worked => exact (Gateway.now_step worked).trans (by rw [own.elapsed]; rfl)
  | elapsed _ passed => exact Gateway.now_step passed

theorem now_run {events : List Event} (ran : run step c events = some next) :
    next.gateway.now = c.gateway.now + (events.map Event.elapsed).sum := by
  refine run_induction (P := fun events (next : Clocked) =>
    next.gateway.now = c.gateway.now + (events.map Event.elapsed).sum) rfl ?_ ran
  intro front c' event next now taken
  rw [now_step taken, now, List.map_append, List.sum_append, Nat.add_assoc]
  rfl

theorem gateway_follows {connection : Connection} {s s' : Session} {event : Heartbeat.Event}
    (data : Bytes) (here : g.connections[id]? = some connection)
    (phase : connection.phase = s.connectionPhase) (own : event.Chore)
    (stepped : s.step event = some s') :
    ∃ gateway, run Gateway.step g (s.gatewayEvents id data event) = some gateway := by
  have seen := seen id data stepped
  generalize s.gatewayEvents id data event = events at seen
  cases seen with
  | nothing => exact ⟨g, rfl⟩
  | frame running =>
    exact ⟨_, run_singleton.mpr (Gateway.frame_eq_some.mpr ⟨connection, here, phase.trans running, rfl⟩)⟩
  | recv => cases own
  | exit running =>
    exact ⟨_, run_singleton.mpr (Gateway.exit_eq_some.mpr ⟨connection, here, phase.trans running, rfl⟩)⟩
  | cleanup exited =>
    exact ⟨_, run_singleton.mpr (Gateway.cleanup_eq_some.mpr ⟨connection, here, phase.trans exited, rfl⟩)⟩

def restless (c : Clocked) : Nat := (c.sessions.map Session.restless).sum

theorem restless_settle (c : Clocked) : c.settle.restless = c.restless := by
  rw [restless, restless]
  congr 1
  apply List.ext_getElem?
  intro id
  rw [List.getElem?_map, List.getElem?_map, getElem?_settle, Option.map_map]
  rfl

theorem chore_step (agrees : Agrees c) (busy : c.restless ≠ 0) :
    ∃ event next, event.Chore ∧ event.elapsed = 0 ∧ c.step event = some next ∧
      next.restless < c.restless := by
  obtain ⟨s, member, moves⟩ : ∃ s ∈ c.sessions, s.restless ≠ 0 := by
    by_contra rest
    push Not at rest
    exact busy (List.sum_eq_zero (by simpa using rest))
  obtain ⟨id, here⟩ := List.mem_iff_getElem?.mp member
  obtain ⟨event, s', own, stepped, less⟩ := Session.chore_of_restless moves
  obtain ⟨connection, there, phase⟩ := agrees.connection here
  obtain ⟨gateway, followed⟩ := gateway_follows [] there phase own stepped
  have taken : c.step (.loop id event []) = some (Clocked.settle ⟨gateway, c.sessions.set id s'⟩) := by
    have loop : event.OfLoop ∧ (event = .recvNone → c.gateway.RecvsNone id) := own.ofLoop
    rw [step, advance, here, Option.bind_some, if_pos loop, stepped, Option.bind_some, followed]
    rfl
  refine ⟨.loop id event [], _, own, rfl, taken, ?_⟩
  have sum := sum_set Session.restless s' here
  rw [restless_settle, restless, restless]
  dsimp only
  omega

theorem comes_to_rest (holds : c.gateway.Sound ∧ Agrees c) :
    ∃ chores final, (∀ event ∈ chores, event.Chore ∧ event.elapsed = 0) ∧
      run step c chores = some final ∧ final.restless = 0 := by
  have lowers (c : Clocked) (holds : c.gateway.Sound ∧ Agrees c) (busy : ¬ c.restless = 0) :
      ∃ chores next, (∀ event ∈ chores, event.Chore ∧ event.elapsed = 0) ∧
        run step c chores = some next ∧ next.restless < c.restless := by
    obtain ⟨event, next, own, untimed, taken, less⟩ := chore_step holds.2 busy
    exact ⟨[event], next, by simpa using ⟨own, untimed⟩, run_singleton.mpr taken, less⟩
  exact exists_run_of_rank agrees_step lowers holds

theorem elapse_of_rest (rest : c.restless = 0) :
    (∃ next, c.step (.elapse 1) = some next) ∧ ∀ s ∈ c.sessions, ¬ s.Writing := by
  have each (s : Session) (member : s ∈ c.sessions) : s.CanWait 1 ∧ ¬ s.Writing :=
    Session.canWait_of_rest (List.sum_eq_zero_iff.mp rest _ (List.mem_map.mpr ⟨s, member, rfl⟩))
  refine ⟨?_, fun s member => (each s member).2⟩
  rw [step, advance, if_pos fun s member => (each s member).1]
  exact ⟨_, rfl⟩

/-- From every reachable state any time can pass, with nothing but the chores of the
loops on the way and no write that holds up a loop. -/
theorem time_passes (events : List Event) (c : Clocked) (ran : run step new events = some c)
    (duration : Nat) : ∃ more final, (∀ event ∈ more, event.Chore) ∧ run step c more = some final ∧
      final.gateway.now = c.gateway.now + duration ∧ EveryStep step PromptWrites c more := by
  have holds := agrees_run ran
  clear ran
  -- One nanosecond at a time: bring the loops to rest, and let it pass.
  induction duration generalizing c with
  | zero => exact ⟨[], c, by simp, rfl, rfl, trivial⟩
  | succ duration ih =>
    obtain ⟨chores, rested, own, ran, rest⟩ := comes_to_rest holds
    obtain ⟨⟨next, passed⟩, idle⟩ := elapse_of_rest rest
    obtain ⟨more, final, own', onward, later, prompt⟩ :=
      ih next (agrees_step _ _ _ (agrees_step.run holds ran) passed)
    refine ⟨chores ++ .elapse 1 :: more, final, ?_, ?_, ?_, ?_⟩
    · simp only [List.mem_append, List.mem_cons]
      rintro event (before | rfl | behind)
      · exact (own event before).1
      · trivial
      · exact own' event behind
    · rw [run_append, ran]
      exact run_cons.mpr ⟨next, passed, onward⟩
    · have untimed : (chores.map Event.elapsed).sum = 0 :=
        List.sum_eq_zero (by simpa using fun event member => (own event member).2)
      have elapsed : next.gateway.now = rested.gateway.now + 1 := now_step passed
      rw [later, elapsed, now_run ran, untimed]
      omega
    · refine EveryStep.append (EveryStep.of_forall (K := fun event => event.elapsed = 0) ?_
        (fun event member => (own event member).2) c) fun middle ran' => ?_
      · rintro c event next untimed duration rfl s member _ ⟨⟩ _
        exact Or.inl untimed
      · rw [ran] at ran'
        cases ran'
        refine (everyStep_cons passed).mpr ⟨?_, prompt⟩
        rintro duration ⟨⟩ s member _ _ writing
        exact absurd writing (idle s member)

def stalledPing : List Event :=
  [.connect ⟨"r1", "ann"⟩, .elapse Heartbeat.pingInterval, .loop 0 .tick [],
    .elapse (Heartbeat.seconds 50)]

theorem time_passes_stalled :
    ∃ c more final, run step new stalledPing = some c ∧ run step c more = some final ∧
      final.gateway.now = c.gateway.now + Heartbeat.pongTimeout := by
  have runs : (run step new stalledPing).isSome = true := by decide +kernel
  obtain ⟨c, ran⟩ := Option.isSome_iff_exists.mp runs
  obtain ⟨more, final, _, onward, passed, _⟩ := time_passes stalledPing c ran Heartbeat.pongTimeout
  exact ⟨c, more, final, ran, onward, passed⟩

end Passing

section Clearing

variable {c next : Clocked} {id : ConnectionId}

def Event.Silent (event : Event) : Prop :=
  ∀ id message data, event = .loop id (.arrive message) data → message.alive = false

structure Fading (since : Nat) (c : Clocked) : Prop where
  sound : c.gateway.Sound
  agrees : Agrees c
  fading : ∀ s ∈ c.sessions, s.opened ≤ since → s.Fading since

theorem silent_session {event : Event} (silent : event.Silent) (s : Session) :
    EveryStep Session.step Session.Silent s (sessionEvents id c event) := by
  refine EveryStep.of_forall (K := fun (own : Heartbeat.Event) => ∀ message,
    own = .arrive message → message.alive = false) (fun _ _ _ quiet => quiet) ?_ s
  rintro _ member message rfl
  rcases mem_sessionEvents member with own | lost
  · cases event with
    | loop other event data =>
      rw [ownEvents] at own
      split at own
      · exact silent other message data (by rw [List.mem_singleton.mp own])
      · cases own
    | elapse => cases List.mem_singleton.mp own
    | connect => cases own
    | task => cases own
  · cases lost

theorem fading_step {since : Nat} {event : Event} (fading : Fading since c)
    (taken : c.step event = some next) (prompt : PromptWrites c event next) (silent : event.Silent) :
    Fading since next := by
  obtain ⟨sound, agrees⟩ := agrees_step c event next ⟨fading.sound, fading.agrees⟩ taken
  refine ⟨sound, agrees, ?_⟩
  refine sessions_step (fun opened before => ?_) ?_ fading.agrees taken (fun _ s here =>
    (promptWrite_session here taken prompt).and (silent_session silent s)) fading.fading
  · refine ⟨Session.paced_start opened, before, ?_, fun _ => Nat.le_add_right_of_le before⟩
    intro _ _ member
    cases member
  · rintro s event s' fades stepped ⟨prompt, silent⟩ before
    rw [Session.opened_step stepped] at before
    exact Session.fading_step (fades before) stepped prompt silent

/-- Whatever happened before: once no frame arrives and no write holds up a loop for
longer than a timeout and a ping interval, only connections opened since are registered. -/
theorem silence_cleared (front back : List Event) (c final : Clocked)
    (ran : run step new front = some c) (onward : run step c back = some final)
    (silent : ∀ event ∈ back, event.Silent) (prompt : EveryStep step PromptWrites c back)
    (late : c.gateway.now + (Heartbeat.pongTimeout + Heartbeat.pingInterval) < final.gateway.now)
    (key : Gateway.Key) (id : ConnectionId) (entry : final.gateway.entries key = some id) :
    ∃ s, final.sessions[id]? = some s ∧ c.gateway.now < s.opened := by
  obtain ⟨sound, agrees⟩ := agrees_run ran
  have first : Fading c.gateway.now c := by
    refine ⟨sound, agrees, fun s member _ => ?_⟩
    have paced := sessions_run Session.paced_start Session.paced_step ran s member
    have now := agrees.clock s member
    exact ⟨paced, now ▸ paced.lastAlive, fun _ _ _ _ => Nat.le_of_eq now,
      fun _ => Nat.le_add_right_of_le (Nat.le_of_eq now)⟩
  have always := EveryState.of_everyStep (I := Fading c.gateway.now) (P := Fading c.gateway.now)
    (C := fun c event next => PromptWrites c event next ∧ event.Silent)
    (fun _ _ _ fading taken meets => fading_step fading taken meets.1 meets.2)
    (fun _ fading => fading) first (prompt.and (EveryStep.of_forall (fun _ _ _ quiet => quiet) silent c))
  have last := always.last onward
  obtain ⟨s, here, registered⟩ := last.agrees.session last.sound entry
  refine ⟨s, here, ?_⟩
  by_contra before
  have member := List.mem_of_getElem? here
  have bound := (last.fading s member (Nat.le_of_not_lt before)).bound registered
  rw [last.agrees.clock s member] at bound
  exact absurd late (Nat.not_lt_of_le bound)

def succeeded : List Event :=
  [.loop 0 .sent [], .loop 0 .cleanup [], .task (.testEmpty 0), .elapse (Heartbeat.seconds 41),
    .connect ⟨"r1", "bob"⟩]

theorem silence_cleared_stalled :
    ∃ c final s, run step new stalledPing = some c ∧ run step c succeeded = some final ∧
      final.gateway.entries ("r1", "bob") = some 1 ∧ final.sessions[1]? = some s ∧
      c.gateway.now < s.opened := by
  have runs : (run step new stalledPing).any (fun c => (run step c succeeded).any fun final =>
      EveryStep step PromptWrites c succeeded ∧
        c.gateway.now + (Heartbeat.pongTimeout + Heartbeat.pingInterval) < final.gateway.now ∧
          final.gateway.entries ("r1", "bob") = some 1) = true := by decide +kernel
  obtain ⟨c, ran, runs⟩ := (Option.any_eq_true _ _).mp runs
  obtain ⟨final, onward, runs⟩ := (Option.any_eq_true _ _).mp runs
  obtain ⟨prompt, late, entry⟩ := of_decide_eq_true runs
  have silent : ∀ event ∈ succeeded, event.Silent := by simp [succeeded, Event.Silent]
  obtain ⟨s, here, fresh⟩ :=
    silence_cleared stalledPing succeeded c final ran onward silent prompt late ("r1", "bob") 1 entry
  exact ⟨c, final, s, ran, onward, entry, here, fresh⟩

end Clearing

end Clocked

end WsGateway
