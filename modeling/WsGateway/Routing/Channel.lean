import Mathlib.Data.List.Basic

/-! The bounded channel with oldest-eviction: its shared state and the
operations that run under its lock.

A sender or receiver is a handle on one `ChannelInner`; who holds handles is
part of the systems built on this module.
-/

set_option autoImplicit false

namespace WsGateway.Routing

/-- A notification cell with at most one waiter. A notification goes to the
waiter if one is registered and not yet notified; otherwise it is stored, and a
second stored one is the same as the first. -/
structure Notify where
  permit : Bool
  waiter : Option Bool
  deriving DecidableEq, Repr

namespace Notify

def new : Notify := ⟨false, none⟩

def notifyOne (notify : Notify) : Notify :=
  if notify.waiter = some false then { notify with waiter := some true }
  else { notify with permit := true }

def Pending (notify : Notify) : Prop := notify.permit = true ∨ notify.waiter = some true

instance (notify : Notify) : Decidable notify.Pending :=
  inferInstanceAs (Decidable (_ ∨ _))

@[simp] theorem isSome_waiter_notifyOne (notify : Notify) :
    notify.notifyOne.waiter.isSome = notify.waiter.isSome := by
  unfold notifyOne
  split
  next registered => rw [registered]; rfl
  next => rfl

theorem pending_notifyOne (notify : Notify) : notify.notifyOne.Pending := by
  unfold notifyOne
  split
  next => exact Or.inr rfl
  next => exact Or.inl rfl

end Notify

variable {T : Type}

structure ChannelInner (T : Type) where
  queue : List T
  capacity : Nat
  notify : Notify
  deriving DecidableEq, Repr

def bounded (T : Type) (capacity : Nat) : ChannelInner T := ⟨[], capacity, .new⟩

namespace ChannelInner

def trySend (inner : ChannelInner T) (item : T) : Except T (ChannelInner T) :=
  if inner.queue.length < inner.capacity then
    .ok { inner with queue := inner.queue ++ [item], notify := inner.notify.notifyOne }
  else .error item

-- A full queue of capacity zero has no front to give up; the item is pushed anyway.
def sendDropOldest (inner : ChannelInner T) (item : T) : ChannelInner T :=
  let queue := if inner.capacity ≤ inner.queue.length then inner.queue.tail else inner.queue
  { inner with queue := queue ++ [item], notify := inner.notify.notifyOne }

def popFront (inner : ChannelInner T) : Option (T × ChannelInner T) :=
  match inner.queue with
  | [] => none
  | received :: queue => some (received, { inner with queue })

inductive Polled (T : Type) where
  | item (received : T) (rest : ChannelInner T)
  | closed
  | empty

/-- The locked section of `recv`: the front of the queue, else the end of the
stream when only the receiver itself holds the channel. -/
def poll (inner : ChannelInner T) (strongCount : Nat) : Polled T :=
  match inner.popFront with
  | some (received, rest) => .item received rest
  | none => if strongCount = 1 then .closed else .empty

section Laws

variable {inner next : ChannelInner T} {item : T}

theorem trySend_eq_ok :
    inner.trySend item = .ok next ↔ inner.queue.length < inner.capacity ∧
      next = { inner with queue := inner.queue ++ [item], notify := inner.notify.notifyOne } := by
  unfold trySend
  split
  next fits => simp only [Except.ok.injEq, fits, true_and, eq_comm]
  next full => simp only [reduceCtorEq, full, false_and]

theorem trySend_eq_error {returned : T} :
    inner.trySend item = .error returned ↔ inner.capacity ≤ inner.queue.length ∧ returned = item := by
  unfold trySend
  split
  next fits => simp only [reduceCtorEq, Nat.not_le.mpr fits, false_and]
  next full => simp only [Except.error.injEq, Nat.le_of_not_lt full, true_and, eq_comm]

theorem popFront_eq_some {received : T} {rest : ChannelInner T} :
    inner.popFront = some (received, rest) ↔
      ∃ queue, inner.queue = received :: queue ∧ rest = { inner with queue } := by
  unfold popFront
  split
  next same => simp only [same, reduceCtorEq, false_and, exists_false]
  next front queue same =>
    simp only [Option.some.injEq, Prod.mk.injEq, same, List.cons.injEq]
    constructor
    · rintro ⟨rfl, rfl⟩
      exact ⟨queue, ⟨rfl, rfl⟩, rfl⟩
    · rintro ⟨_, ⟨rfl, rfl⟩, rfl⟩
      exact ⟨rfl, rfl⟩

theorem popFront_eq_none : inner.popFront = none ↔ inner.queue = [] := by
  unfold popFront
  split
  next same => simp only [same]
  next same => simp only [same, reduceCtorEq]

theorem poll_eq_item {strongCount : Nat} {received : T} {rest : ChannelInner T} :
    inner.poll strongCount = .item received rest ↔ inner.popFront = some (received, rest) := by
  unfold poll
  split
  next same => simp [same]
  next same => split <;> simp [same]

theorem poll_eq_closed {strongCount : Nat} :
    inner.poll strongCount = .closed ↔ inner.queue = [] ∧ strongCount = 1 := by
  rw [← popFront_eq_none]
  unfold poll
  split
  next same => simp [same]
  next same => simp [same]

theorem poll_eq_empty {strongCount : Nat} :
    inner.poll strongCount = .empty ↔ inner.queue = [] ∧ strongCount ≠ 1 := by
  rw [← popFront_eq_none]
  unfold poll
  split
  next same => simp [same]
  next same => simp [same]

end Laws

end ChannelInner

end WsGateway.Routing
