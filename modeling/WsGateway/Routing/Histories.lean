import Mathlib.Data.List.ReduceOption
import WsGateway.Routing.Receiver

/-! The channel's histories: what was accepted, what left and how, what waits.

Accounts are kept over every interleaving of senders and receiver. They say that
the channel is a queue in the order of acceptance, and that a suspended receiver
has nothing to receive.
-/

set_option autoImplicit false

namespace WsGateway.Routing.Receiver
open Foundation

section Accounts

variable {T : Type}

def Channel.received (s : Channel T) : List T :=
  (s.removed.filter fun entry => entry.2 = .received).map Prod.fst

/-- The accepted items are the removed ones, then the queue, and `recv` returned
exactly what it removed. -/
structure Accounted (capacity : Nat) (s : Channel T) : Prop where
  capacity_eq : s.inner.capacity = capacity
  bounded : s.inner.queue.length ≤ capacity
  accepted : s.accepted = s.removed.map Prod.fst ++ s.inner.queue
  results : s.results.reduceOption = s.received

variable {capacity : Nat} {s next : Channel T}

structure Keeps (s next : Channel T) : Prop where
  queue : next.inner.queue = s.inner.queue
  capacity : next.inner.capacity = s.inner.capacity
  accepted : next.accepted = s.accepted
  removed : next.removed = s.removed
  results : next.results = s.results
  senders : s.senders = 0 → next.senders = 0

inductive Effect (s : Channel T) : Event T → Channel T → Prop where
  | quiet {event : Event T} {next : Channel T} : Keeps s next → Effect s event next
  | pushed {item : T} : 0 < s.senders → s.inner.queue.length < s.inner.capacity →
      Effect s (.trySend item) { s with
        inner := { s.inner with
          queue := s.inner.queue ++ [item]
          notify := s.inner.notify.notifyOne }
        accepted := s.accepted ++ [item] }
  | forced {item : T} : 0 < s.senders → Effect s (.sendDropOldest item) (s.sendDropOldest item)
  | received {item : T} {queue : List T} : s.inner.queue = item :: queue →
      Effect s .check { s with
        inner := { s.inner with queue }
        phase := .idle
        removed := s.removed ++ [(item, .received)]
        results := s.results ++ [some item] }
  | closed : s.inner.queue = [] → s.senders = 0 →
      Effect s .check { s with phase := .idle, results := s.results ++ [none] }

theorem effect_trySend (item : T) (sender : 0 < s.senders) :
    Effect s (.trySend item) (s.trySend item) := by
  unfold Channel.trySend
  split
  next pushed =>
    obtain ⟨fits, rfl⟩ := ChannelInner.trySend_eq_ok.mp pushed
    exact .pushed sender fits
  next => exact .quiet ⟨rfl, rfl, rfl, rfl, rfl, id⟩

theorem effect {event : Event T} (taken : step s event = some next) : Effect s event next := by
  cases event with
  | trySend item =>
    obtain ⟨sender, rfl⟩ := guarded_eq_some.mp taken
    exact effect_trySend item sender
  | sendDropOldest item =>
    obtain ⟨sender, rfl⟩ := guarded_eq_some.mp taken
    exact .forced sender
  | cloneSender =>
    obtain ⟨sender, rfl⟩ := guarded_eq_some.mp taken
    exact .quiet ⟨rfl, rfl, rfl, rfl, rfl, fun none => absurd sender (none ▸ Nat.lt_irrefl 0)⟩
  | dropSender =>
    obtain ⟨_, rfl⟩ := guarded_eq_some.mp taken
    exact .quiet ⟨rfl, rfl, rfl, rfl, rfl, fun none => by rw [none]⟩
  | recv =>
    obtain ⟨_, rfl⟩ := guarded_eq_some.mp taken
    exact .quiet ⟨rfl, rfl, rfl, rfl, rfl, id⟩
  | check =>
    obtain ⟨_, rfl⟩ := guarded_eq_some.mp taken
    generalize ended : s.check = next
    cases checked ended with
    | received front => exact .received front
    | closed empty alone => exact .closed empty alone
    | empty => exact .quiet ⟨rfl, rfl, rfl, rfl, rfl, id⟩
  | awaitNotified =>
    obtain ⟨_, rfl⟩ := guarded_eq_some.mp taken
    unfold Channel.awaitNotified
    split
    next => exact .quiet ⟨rfl, rfl, rfl, rfl, rfl, id⟩
    next => exact .quiet ⟨rfl, rfl, rfl, rfl, rfl, id⟩
  | wake =>
    obtain ⟨_, rfl⟩ := guarded_eq_some.mp taken
    exact .quiet ⟨rfl, rfl, rfl, rfl, rfl, id⟩
  | cancel =>
    obtain ⟨_, rfl⟩ := guarded_eq_some.mp taken
    exact .quiet ⟨rfl, rfl, rfl, rfl, rfl, id⟩
  | dropReceiver =>
    obtain ⟨_, rfl⟩ := guarded_eq_some.mp taken
    exact .quiet ⟨rfl, rfl, rfl, rfl, rfl, id⟩

theorem Accounted.sendDropOldest (accounted : Accounted capacity s) (positive : 1 ≤ capacity)
    (item : T) : Accounted capacity (s.sendDropOldest item) := by
  have bounded := accounted.bounded
  have same := accounted.capacity_eq
  by_cases full : s.inner.capacity ≤ s.inner.queue.length
  · cases front : s.inner.queue with
    | nil =>
      rw [front, List.length_nil] at full
      omega
    -- The front moves from the queue to the removed items, so the account is unchanged
    -- before the new item is added.
    | cons old queue =>
      rw [front, List.length_cons] at bounded full
      refine ⟨same, ?_, ?_, ?_⟩
      · simp only [Channel.sendDropOldest, ChannelInner.sendDropOldest, front, List.length_cons, full,
          if_true, List.tail_cons, List.length_append]
        exact bounded
      · simp only [Channel.sendDropOldest, ChannelInner.sendDropOldest, front, List.length_cons, full,
          if_true, accounted.accepted]
        simp
      · simp only [Channel.sendDropOldest, Channel.received, front, List.length_cons, full, if_true,
          accounted.results]
        simp
  · refine ⟨same, ?_, ?_, ?_⟩
    · simp only [Channel.sendDropOldest, ChannelInner.sendDropOldest, full, if_false,
        List.length_append, List.length_singleton]
      omega
    · simp only [Channel.sendDropOldest, ChannelInner.sendDropOldest, full, if_false,
        accounted.accepted]
      simp
    · simp only [Channel.sendDropOldest, Channel.received, full, if_false, accounted.results]
      simp

theorem accounted_step (positive : 1 ≤ capacity) :
    Invariant (step (T := T)) (Accounted capacity) := by
  intro s event next accounted taken
  cases effect taken with
  | quiet kept =>
    constructor
    · rw [kept.capacity, accounted.capacity_eq]
    · rw [kept.queue]
      exact accounted.bounded
    · rw [kept.accepted, kept.removed, kept.queue, accounted.accepted]
    · rw [kept.results, accounted.results, Channel.received, Channel.received, kept.removed]
  | pushed _ fits =>
    refine ⟨accounted.capacity_eq, ?_, ?_, accounted.results⟩
    · rw [accounted.capacity_eq] at fits
      rw [List.length_append, List.length_singleton]
      exact fits
    · rw [accounted.accepted, List.append_assoc]
  | forced => exact accounted.sendDropOldest positive _
  | received front =>
    have bounded := accounted.bounded
    have accepted := accounted.accepted
    rw [front] at bounded accepted
    refine ⟨accounted.capacity_eq, Nat.le_of_succ_le bounded, ?_, ?_⟩
    · rw [accepted]
      simp
    · simp only [Channel.received, List.reduceOption_append, accounted.results]
      simp
  | closed =>
    refine ⟨accounted.capacity_eq, accounted.bounded, accounted.accepted, ?_⟩
    rw [List.reduceOption_append, accounted.results]
    exact List.append_nil _

theorem accounted_start (capacity : Nat) : Accounted capacity (start T capacity) where
  capacity_eq := rfl
  bounded := Nat.zero_le _
  accepted := rfl
  results := rfl

theorem Accounted.sublist (accounted : Accounted capacity s) : s.received.Sublist s.accepted := by
  rw [accounted.accepted]
  exact (List.filter_sublist.map Prod.fst).trans (List.sublist_append_left _ _)

def drained : List (Event Nat) :=
  [.trySend 1, .trySend 2, .trySend 3, .sendDropOldest 4, .recv, .check, .dropSender, .recv, .check,
    .recv, .check]

end Accounts

section Wakeups

variable {T : Type} {s next : Channel T}

/-- Once the locked section has found nothing, an item in the queue comes with a
notification. -/
def Awake (s : Channel T) : Prop :=
  s.phase = .checked ∨ s.phase = .waiting → s.inner.queue ≠ [] → s.inner.notify.Pending

theorem awake_check (s : Channel T) : Awake s.check := by
  generalize taken : s.check = next
  cases checked taken with
  | received => rintro (waits | waits) <;> cases waits
  | closed => rintro (waits | waits) <;> cases waits
  | empty empty => exact fun _ filled => absurd empty filled

-- The permit of a push after the check is still there when `notified` is polled,
-- because no waiter was registered that could have taken it.
theorem awake_awaitNotified (awake : Awake s) (registered : Registered s)
    (phase : s.phase = .checked) : Awake s.awaitNotified := by
  unfold Channel.awaitNotified
  split
  next => rintro (waits | waits) <;> cases waits
  next stored =>
    intro _ filled
    rcases awake (Or.inl phase) filled with permit | notified
    · exact absurd permit stored
    · have suspended := registered.mp (by rw [notified]; rfl)
      rw [phase] at suspended
      cases suspended

theorem awake_step {event : Event T} (awake : Awake s) (registered : Registered s)
    (taken : step s event = some next) : Awake next := by
  cases event with
  | trySend item =>
    obtain ⟨_, rfl⟩ := guarded_eq_some.mp taken
    unfold Channel.trySend
    split
    next pushed =>
      obtain ⟨_, rfl⟩ := ChannelInner.trySend_eq_ok.mp pushed
      exact fun _ _ => s.inner.notify.pending_notifyOne
    next => exact awake
  | sendDropOldest item =>
    obtain ⟨_, rfl⟩ := guarded_eq_some.mp taken
    exact fun _ _ => s.inner.notify.pending_notifyOne
  | cloneSender =>
    obtain ⟨_, rfl⟩ := guarded_eq_some.mp taken
    exact awake
  | dropSender =>
    obtain ⟨_, rfl⟩ := guarded_eq_some.mp taken
    exact awake
  | recv =>
    obtain ⟨_, rfl⟩ := guarded_eq_some.mp taken
    rintro (waits | waits) <;> cases waits
  | check =>
    obtain ⟨_, rfl⟩ := guarded_eq_some.mp taken
    exact awake_check s
  | awaitNotified =>
    obtain ⟨phase, rfl⟩ := guarded_eq_some.mp taken
    exact awake_awaitNotified awake registered phase
  | wake =>
    obtain ⟨_, rfl⟩ := guarded_eq_some.mp taken
    rintro (waits | waits) <;> cases waits
  | cancel =>
    obtain ⟨_, rfl⟩ := guarded_eq_some.mp taken
    rintro (waits | waits) <;> cases waits
  | dropReceiver =>
    obtain ⟨_, rfl⟩ := guarded_eq_some.mp taken
    rintro (waits | waits) <;> cases waits

def InRecv (s : Channel T) : Prop :=
  s.phase = .checking ∨ s.phase = .checked ∨ s.phase = .waiting

theorem inRecv_of_step {event : Event T} (taken : step s event = some next) (other : event ≠ .recv)
    (inside : InRecv next) : InRecv s := by
  cases event with
  | trySend item =>
    obtain ⟨_, rfl⟩ := guarded_eq_some.mp taken
    simpa [InRecv] using inside
  | sendDropOldest item =>
    obtain ⟨_, rfl⟩ := guarded_eq_some.mp taken
    exact inside
  | cloneSender =>
    obtain ⟨_, rfl⟩ := guarded_eq_some.mp taken
    exact inside
  | dropSender =>
    obtain ⟨_, rfl⟩ := guarded_eq_some.mp taken
    exact inside
  | recv => exact absurd rfl other
  | check => exact Or.inl (guarded_eq_some.mp taken).1
  | awaitNotified => exact Or.inr (Or.inl (guarded_eq_some.mp taken).1)
  | wake => exact Or.inr (Or.inr (guarded_eq_some.mp taken).1.1)
  | cancel => exact (guarded_eq_some.mp taken).1
  | dropReceiver =>
    obtain ⟨_, rfl⟩ := guarded_eq_some.mp taken
    rcases inside with waits | waits | waits <;> cases waits

/-- Nothing was received: what was queued, and what has been accepted since, is evicted
or queued still. -/
def Carries (s next : Channel T) : Prop :=
  ∃ evicted accepted : List T, next.removed = s.removed ++ evicted.map (fun item => (item, .evicted)) ∧
    next.accepted = s.accepted ++ accepted ∧ s.inner.queue ++ accepted = evicted ++ next.inner.queue

theorem Carries.of_same (removed : next.removed = s.removed) (accepted : next.accepted = s.accepted)
    (queue : next.inner.queue = s.inner.queue) : Carries s next :=
  ⟨[], [], by simp [removed], by simp [accepted], by simp [queue]⟩

theorem Carries.trans {last : Channel T} (first : Carries s next) (second : Carries next last) :
    Carries s last := by
  obtain ⟨evicted, accepted, removed, pushed, queue⟩ := first
  obtain ⟨evicted', accepted', removed', pushed', queue'⟩ := second
  refine ⟨evicted ++ evicted', accepted ++ accepted', ?_, ?_, ?_⟩
  · rw [removed', removed, List.map_append, List.append_assoc]
  · rw [pushed', pushed, List.append_assoc]
  · rw [← List.append_assoc, queue, List.append_assoc, queue', List.append_assoc]

theorem Carries.received (carries : Carries s next) : next.received = s.received := by
  obtain ⟨evicted, _, removed, _⟩ := carries
  rw [Channel.received, removed, List.filter_append, List.map_append, Channel.received]
  simp [List.filter_map, Function.comp_def]

theorem carries_of_step {event : Event T} (taken : step s event = some next)
    (inside : InRecv next) : Carries s next := by
  cases effect taken with
  | quiet kept => exact Carries.of_same kept.removed kept.accepted kept.queue
  | @pushed item => exact ⟨[], [item], by simp, rfl, rfl⟩
  | @forced item =>
    by_cases full : s.inner.capacity ≤ s.inner.queue.length
    · refine ⟨s.inner.queue.take 1, [item], ?_, rfl, ?_⟩
      · rw [Channel.sendDropOldest, if_pos full]
      · simp only [Channel.sendDropOldest, ChannelInner.sendDropOldest, full, if_true, ← List.drop_one]
        rw [← List.append_assoc, List.take_append_drop]
    · exact ⟨[], [item], by simp [Channel.sendDropOldest, full], rfl,
        by simp [Channel.sendDropOldest, ChannelInner.sendDropOldest, full]⟩
  | received => rcases inside with waits | waits | waits <;> cases waits
  | closed => exact Carries.of_same rfl rfl rfl

theorem carries_of_pending {called pending : Channel T} {calls : List (Event T)}
    (ran : run step called calls = some pending) (one : ∀ event ∈ calls, event ≠ .recv)
    (inside : InRecv pending) : Carries called pending := by
  refine run_induction (P := fun calls pending => (∀ event ∈ calls, event ≠ .recv) →
    InRecv pending → Carries called pending) ?_ ?_ ran one inside
  · intro _ _
    exact Carries.of_same rfl rfl rfl
  · intro front s event next before taken one inside
    have other : event ≠ .recv := one event (by simp)
    have earlier := before (fun event member => one event (List.mem_append_left _ member))
      (inRecv_of_step taken other inside)
    exact earlier.trans (carries_of_step taken inside)

/-- A suspended receiver without a pending notification has an empty queue, and a
call that is cancelled has removed nothing: what was queued at its begin or has been
accepted since is evicted or queued still. -/
theorem no_lost_wakeup (T : Type) (capacity : Nat) (events : List (Event T)) (s : Channel T)
    (ran : run step (start T capacity) events = some s) :
    (s.phase = .waiting → ¬ s.inner.notify.Pending → s.inner.queue = []) ∧
    ∀ called calls pending next, step s .recv = some called →
      (∀ event ∈ calls, event ≠ .recv) → run step called calls = some pending →
        step pending .cancel = some next →
          next.received = s.received ∧ next.inner.queue = pending.inner.queue ∧
          ∃ evicted accepted : List T,
            next.removed = s.removed ++ evicted.map (fun item => (item, .evicted)) ∧
            next.accepted = s.accepted ++ accepted ∧
            s.inner.queue ++ accepted = evicted ++ next.inner.queue := by
  have invariant : Awake s ∧ Registered s := by
    refine Invariant.run (I := fun s => Awake s ∧ Registered s) ?_ ?_ ran
    · rintro s event next ⟨awake, registered⟩ taken
      exact ⟨awake_step awake registered taken, registered_step s event next registered taken⟩
    · exact ⟨fun _ filled => absurd rfl filled, registered_start capacity⟩
  constructor
  · intro waits unnotified
    by_contra filled
    exact unnotified (invariant.1 (Or.inr waits) filled)
  · intro called calls pending next begun one ran cancelled
    obtain ⟨inside, rfl⟩ := guarded_eq_some.mp cancelled
    obtain ⟨_, rfl⟩ := guarded_eq_some.mp begun
    have begun : Carries s { s with phase := .checking } := Carries.of_same rfl rfl rfl
    have cancelled : Carries pending pending.cancel := Carries.of_same rfl rfl rfl
    have carries := (begun.trans (carries_of_pending ran one inside)).trans cancelled
    exact ⟨carries.received, rfl, carries⟩

def cancelledOnce : List (Event Nat) :=
  [.recv, .check, .awaitNotified, .trySend 1, .cancel, .recv, .check, .recv, .check, .awaitNotified,
    .check, .awaitNotified]

theorem no_lost_wakeup_cancelled :
    ∃ s, run step (start Nat 4) cancelledOnce = some s ∧ s.results = [some 1] ∧
      s.inner.queue = [] :=
  ⟨_, rfl, rfl, (no_lost_wakeup Nat 4 cancelledOnce _ rfl).1 rfl (by decide)⟩

end Wakeups

end WsGateway.Routing.Receiver
