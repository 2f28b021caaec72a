import WsGateway.Foundation.Transition
import WsGateway.Routing.Channel

/-! One channel with its senders and its receiver, interleaved.

`recv` takes three steps a round: the locked section, the call of `notified`
that consumes a permit or registers a waiter, and the wake-up. Senders are
counted, as `Arc` counts them; pushes, clones and drops may come between any
two steps. The histories record what was accepted, how it left the queue and
what `recv` returned; no step reads them.
-/

set_option autoImplicit false

namespace WsGateway.Routing.Receiver
open Foundation

inductive RecvPhase where
  /-- No `recv` is pending. -/
  | idle
  /-- At the locked section. -/
  | checking
  /-- The locked section found nothing; `notified` is not polled yet. -/
  | checked
  /-- Suspended as the registered waiter. -/
  | waiting
  /-- The receiver was dropped. -/
  | dropped
  deriving DecidableEq, Repr

inductive Removal where
  | received
  | evicted
  deriving DecidableEq, Repr

structure Channel (T : Type) where
  inner : ChannelInner T
  senders : Nat
  phase : RecvPhase
  accepted : List T
  removed : List (T × Removal)
  results : List (Option T)

inductive Event (T : Type) where
  | trySend (item : T)
  | sendDropOldest (item : T)
  | cloneSender
  | dropSender
  | recv
  | check
  | awaitNotified
  | wake
  | cancel
  | dropReceiver

section Steps

variable {T : Type}

def start (T : Type) (capacity : Nat) : Channel T where
  inner := bounded T capacity
  senders := 1
  phase := .idle
  accepted := []
  removed := []
  results := []

namespace Channel

def trySend (s : Channel T) (item : T) : Channel T :=
  match s.inner.trySend item with
  | .ok inner => { s with inner, accepted := s.accepted ++ [item] }
  | .error _ => s

def sendDropOldest (s : Channel T) (item : T) : Channel T :=
  let evicted := if s.inner.capacity ≤ s.inner.queue.length then s.inner.queue.take 1 else []
  { s with
    inner := s.inner.sendDropOldest item
    accepted := s.accepted ++ [item]
    removed := s.removed ++ evicted.map fun old => (old, .evicted) }

/-- The receiver is a handle of its own, so the count is one above the senders. -/
def check (s : Channel T) : Channel T :=
  match s.inner.poll (s.senders + 1) with
  | .item received inner =>
    { s with
      inner
      phase := .idle
      removed := s.removed ++ [(received, .received)]
      results := s.results ++ [some received] }
  | .closed => { s with phase := .idle, results := s.results ++ [none] }
  | .empty => { s with phase := .checked }

def setNotify (s : Channel T) (notify : Notify) : Channel T :=
  { s with inner := { s.inner with notify } }

-- A stored permit is consumed at the first poll, without suspending.
def awaitNotified (s : Channel T) : Channel T :=
  if s.inner.notify.permit then
    { s.setNotify ⟨false, none⟩ with phase := .checking }
  else { s.setNotify ⟨false, some false⟩ with phase := .waiting }

/-- Dropping the pending `recv`. A waiter that was notified and not polled
again passes its notification on. -/
def cancel (s : Channel T) : Channel T :=
  let left : Notify := { s.inner.notify with waiter := none }
  { s.setNotify (if s.inner.notify.waiter = some true then left.notifyOne else left) with
    phase := .idle }

end Channel

def step (s : Channel T) : Event T → Option (Channel T)
  | .trySend item => if 0 < s.senders then some (s.trySend item) else none
  | .sendDropOldest item => if 0 < s.senders then some (s.sendDropOldest item) else none
  | .cloneSender => if 0 < s.senders then some { s with senders := s.senders + 1 } else none
  | .dropSender => if 0 < s.senders then some { s with senders := s.senders - 1 } else none
  | .recv => if s.phase = .idle then some { s with phase := .checking } else none
  | .check => if s.phase = .checking then some s.check else none
  | .awaitNotified => if s.phase = .checked then some s.awaitNotified else none
  | .wake =>
    if s.phase = .waiting ∧ s.inner.notify.waiter = some true then
      some { s.setNotify { s.inner.notify with waiter := none } with phase := .checking }
    else none
  | .cancel =>
    if s.phase = .checking ∨ s.phase = .checked ∨ s.phase = .waiting then some s.cancel else none
  | .dropReceiver =>
    -- The receiver's `Drop` notifies. A sender has none, so `dropSender` only counts.
    if s.phase = .idle then
      some { s.setNotify s.inner.notify.notifyOne with phase := .dropped }
    else none

end Steps

section Waiting

variable {T : Type}

@[simp] theorem phase_trySend (s : Channel T) (item : T) : (s.trySend item).phase = s.phase := by
  unfold Channel.trySend
  split <;> rfl

@[simp] theorem senders_trySend (s : Channel T) (item : T) :
    (s.trySend item).senders = s.senders := by
  unfold Channel.trySend
  split <;> rfl

@[simp] theorem isSome_waiter_trySend (s : Channel T) (item : T) :
    (s.trySend item).inner.notify.waiter.isSome = s.inner.notify.waiter.isSome := by
  unfold Channel.trySend
  split
  next pushed =>
    obtain ⟨_, rfl⟩ := ChannelInner.trySend_eq_ok.mp pushed
    exact s.inner.notify.isSome_waiter_notifyOne
  next => rfl

inductive Checked (s : Channel T) : Channel T → Prop where
  | received {item : T} {queue : List T} : s.inner.queue = item :: queue →
      Checked s { s with
        inner := { s.inner with queue }
        phase := .idle
        removed := s.removed ++ [(item, .received)]
        results := s.results ++ [some item] }
  | closed : s.inner.queue = [] → s.senders = 0 →
      Checked s { s with phase := .idle, results := s.results ++ [none] }
  | empty : s.inner.queue = [] → 0 < s.senders → Checked s { s with phase := .checked }

theorem checked {s next : Channel T} (taken : s.check = next) : Checked s next := by
  subst taken
  unfold Channel.check
  split
  next polled =>
    obtain ⟨queue, front, rfl⟩ :=
      ChannelInner.popFront_eq_some.mp (ChannelInner.poll_eq_item.mp polled)
    exact .received front
  next polled =>
    obtain ⟨empty, alone⟩ := ChannelInner.poll_eq_closed.mp polled
    exact .closed empty (Nat.succ.inj alone)
  next polled =>
    obtain ⟨empty, shared⟩ := ChannelInner.poll_eq_empty.mp polled
    exact .empty empty (Nat.pos_of_ne_zero fun none => shared (by rw [none]))

theorem notify_check (s : Channel T) : s.check.inner.notify = s.inner.notify := by
  generalize taken : s.check = next
  cases checked taken <;> rfl

theorem phase_check (s : Channel T) : s.check.phase = .idle ∨ s.check.phase = .checked := by
  generalize taken : s.check = next
  cases checked taken with
  | received => exact Or.inl rfl
  | closed => exact Or.inl rfl
  | empty => exact Or.inr rfl

def Registered (s : Channel T) : Prop := s.inner.notify.waiter.isSome = true ↔ s.phase = .waiting

theorem registered_start (capacity : Nat) : Registered (start T capacity) := by
  simp [Registered, start, bounded, Notify.new]

theorem registered_step : Invariant (step (T := T)) Registered := by
  intro s event next registered taken
  cases event with
  | trySend item =>
    obtain ⟨_, rfl⟩ := guarded_eq_some.mp taken
    simpa [Registered] using registered
  | sendDropOldest item =>
    obtain ⟨_, rfl⟩ := guarded_eq_some.mp taken
    simpa [Registered, Channel.sendDropOldest, ChannelInner.sendDropOldest] using registered
  | cloneSender =>
    obtain ⟨_, rfl⟩ := guarded_eq_some.mp taken
    exact registered
  | dropSender =>
    obtain ⟨_, rfl⟩ := guarded_eq_some.mp taken
    exact registered
  | recv =>
    obtain ⟨phase, rfl⟩ := guarded_eq_some.mp taken
    simpa [Registered, phase] using registered
  | check =>
    obtain ⟨phase, rfl⟩ := guarded_eq_some.mp taken
    have none : s.inner.notify.waiter.isSome ≠ true := by simpa [Registered, phase] using registered
    rw [Registered, notify_check]
    rcases phase_check s with idle | checked
    · simpa [idle] using none
    · simpa [checked] using none
  | awaitNotified =>
    obtain ⟨_, rfl⟩ := guarded_eq_some.mp taken
    unfold Channel.awaitNotified
    split
    next => simp [Registered, Channel.setNotify]
    next => simp [Registered, Channel.setNotify]
  | wake =>
    obtain ⟨_, rfl⟩ := guarded_eq_some.mp taken
    simp [Registered, Channel.setNotify]
  | cancel =>
    obtain ⟨_, rfl⟩ := guarded_eq_some.mp taken
    unfold Channel.cancel
    split
    next => simp [Registered, Channel.setNotify]
    next => simp [Registered, Channel.setNotify]
  | dropReceiver =>
    obtain ⟨phase, rfl⟩ := guarded_eq_some.mp taken
    simpa [Registered, Channel.setNotify, phase] using registered

end Waiting

section Closing

variable {T : Type}

/-- Suspended in `recv` with nothing to wake it, while a sender is left. -/
def SenderRemains (s : Channel T) : Prop :=
  s.phase = .waiting → ¬ s.inner.notify.Pending → 0 < s.senders

instance (s : Channel T) : Decidable (SenderRemains s) :=
  inferInstanceAs (Decidable (_ → _))

/-- The last sender is dropped while no `recv` is between its locked section and
its wake-up, or while a notification is pending. -/
def CloseSafe (s : Channel T) (event : Event T) (_ : Channel T) : Prop :=
  match event with
  | .dropSender =>
    s.senders = 1 → s.phase = .checked ∨ s.phase = .waiting → s.inner.notify.Pending
  | _ => True

/-- `SenderRemains`, already from the locked section on. -/
def Attended (s : Channel T) : Prop :=
  s.phase = .checked ∨ s.phase = .waiting → ¬ s.inner.notify.Pending → 0 < s.senders

theorem attended_start (capacity : Nat) : Attended (start T capacity) := by
  rintro (waits | waits) <;> cases waits

theorem Attended.senderRemains {s : Channel T} (attended : Attended s) : SenderRemains s :=
  fun waits => attended (Or.inr waits)

theorem attended_of_senders {s : Channel T} (left : 0 < s.senders) : Attended s :=
  fun _ _ => left

theorem attended_check (s : Channel T) : Attended s.check := by
  generalize taken : s.check = next
  cases checked taken with
  | received => rintro (waits | waits) <;> cases waits
  | closed => rintro (waits | waits) <;> cases waits
  | empty _ left => exact attended_of_senders left

theorem attended_awaitNotified {s : Channel T} (attended : Attended s) (registered : Registered s)
    (phase : s.phase = .checked) : Attended s.awaitNotified := by
  unfold Channel.awaitNotified
  split
  next => rintro (waits | waits) <;> cases waits
  next stored =>
    intro _ _
    refine attended (Or.inl phase) ?_
    rintro (permit | notified)
    · exact stored permit
    · have suspended := registered.mp (by rw [notified]; rfl)
      rw [phase] at suspended
      cases suspended

theorem attended_step {s next : Channel T} {event : Event T} (attended : Attended s)
    (registered : Registered s) (taken : step s event = some next)
    (safe : CloseSafe s event next) : Attended next := by
  cases event with
  | trySend item =>
    obtain ⟨left, rfl⟩ := guarded_eq_some.mp taken
    exact attended_of_senders (by simpa using left)
  | sendDropOldest item =>
    obtain ⟨left, rfl⟩ := guarded_eq_some.mp taken
    exact attended_of_senders left
  | cloneSender =>
    obtain ⟨left, rfl⟩ := guarded_eq_some.mp taken
    exact attended_of_senders (Nat.succ_pos _)
  | dropSender =>
    obtain ⟨left, rfl⟩ := guarded_eq_some.mp taken
    intro waits unnotified
    by_cases last : s.senders = 1
    · exact absurd (safe last waits) unnotified
    · change 0 < s.senders - 1
      omega
  | recv =>
    obtain ⟨_, rfl⟩ := guarded_eq_some.mp taken
    rintro (waits | waits) <;> cases waits
  | check =>
    obtain ⟨_, rfl⟩ := guarded_eq_some.mp taken
    exact attended_check s
  | awaitNotified =>
    obtain ⟨phase, rfl⟩ := guarded_eq_some.mp taken
    exact attended_awaitNotified attended registered phase
  | wake =>
    obtain ⟨_, rfl⟩ := guarded_eq_some.mp taken
    rintro (waits | waits) <;> cases waits
  | cancel =>
    obtain ⟨_, rfl⟩ := guarded_eq_some.mp taken
    rintro (waits | waits) <;> cases waits
  | dropReceiver =>
    obtain ⟨_, rfl⟩ := guarded_eq_some.mp taken
    rintro (waits | waits) <;> cases waits

/-- After a drop of the last sender that is not safe, the receiver is suspended
for good, at once or when it polls `notified`. -/
theorem drop_last_unwoken {s next : Channel T}
    (taken : step s .dropSender = some next) (violated : ¬ CloseSafe s .dropSender next) :
    ¬ SenderRemains next ∨
      ∃ after, step next .awaitNotified = some after ∧ ¬ SenderRemains after := by
  obtain ⟨_, rfl⟩ := guarded_eq_some.mp taken
  simp only [CloseSafe, Classical.not_imp] at violated
  obtain ⟨last, phase, unnotified⟩ := violated
  -- Nobody is left to push, and the drop itself signals nothing.
  have gone : ¬ 0 < s.senders - 1 := by omega
  rcases phase with checked | waiting
  · right
    have stored : ¬ s.inner.notify.permit = true := fun permit => unnotified (Or.inl permit)
    refine ⟨_, guarded_eq_some.mpr ⟨checked, rfl⟩, ?_⟩
    rw [Channel.awaitNotified, if_neg stored]
    intro remains
    exact gone (remains rfl (by simp [Channel.setNotify, Notify.Pending]))
  · left
    intro remains
    exact gone (remains waiting unnotified)

/-- A run whose senders close safely never leaves the receiver suspended after the
last sender, and a run that goes on after an unsafe drop can. -/
theorem closing_never_missed (T : Type) (capacity : Nat) (events : List (Event T)) :
    (EveryStep step CloseSafe (start T capacity) events →
      EveryState step SenderRemains (start T capacity) events) ∧
    ∀ s next, run step (start T capacity) events = some s → step s .dropSender = some next →
      ¬ CloseSafe s .dropSender next →
        ¬ SenderRemains next ∨
          ∃ after, step next .awaitNotified = some after ∧ ¬ SenderRemains after := by
  constructor
  · refine EveryState.of_everyStep (I := fun s => Attended s ∧ Registered s) ?_ ?_
      ⟨attended_start capacity, registered_start capacity⟩
    · rintro s event next ⟨attended, registered⟩ taken safe
      exact ⟨attended_step attended registered taken safe,
        registered_step s event next registered taken⟩
    · rintro s ⟨attended, _⟩
      exact attended.senderRemains
  · intro s next _ taken violated
    exact drop_last_unwoken taken violated

/-- The registry drops the only sender while the connection waits for data. -/
theorem kicked_receiver_not_woken :
    ∃ s, run step (start Nat 64) [.recv, .check, .awaitNotified, .dropSender] = some s ∧
      ¬ SenderRemains s :=
  ⟨_, rfl, by decide⟩

end Closing

end WsGateway.Routing.Receiver
