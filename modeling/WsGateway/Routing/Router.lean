import WsGateway.Protocol.WireFormat
import WsGateway.Routing.Channel
import WsGateway.Routing.Registry

/-! The routing core, each call run to its end.

A sender stands for the channel behind it, so the channels and their retry tasks
are kept by sender. The order in which a room is iterated is a parameter.
-/

set_option autoImplicit false

namespace WsGateway.Routing
open Foundation Protocol

inductive RetryState where
  | spawned
  /-- The last attempt was refused. -/
  | refused
  | delivered
  | disconnected
  deriving DecidableEq, Repr

structure Retry where
  room : RoomID
  user : UserID
  item : Bytes
  state : RetryState
  deriving DecidableEq, Repr

structure Router (S : Type) where
  rooms : NestedMap RoomID UserID S
  channels : S → ChannelInner Bytes
  retries : S → List Retry

/-- An iterator over a room visits every entry once, in some order. -/
structure Iterates {S : Type} (iter : InnerMap UserID S → List (UserID × S)) : Prop where
  nodup : ∀ room, (iter room).Nodup
  mem : ∀ room user tx, (user, tx) ∈ iter room ↔ AList.lookup user room = some tx

namespace Router

section Operations

variable {S : Type}

def new (capacity : S → Nat) : Router S where
  rooms := ∅
  channels := fun tx => bounded Bytes (capacity tx)
  retries := fun _ => []

def register (r : Router S) (room : RoomID) (user : UserID) (tx : S) : Router S :=
  { r with rooms := r.rooms.put room user tx }

/-- The user's entry goes, and with it a room that is then empty. -/
def unregister (r : Router S) (room : RoomID) (user : UserID) : Router S :=
  if room ∈ r.rooms then
    let rooms := r.rooms.remove room user
    if rooms.isVacant room then { r with rooms := rooms.prune room } else { r with rooms }
  else r

variable [DecidableEq S]

def setChannel (r : Router S) (tx : S) (inner : ChannelInner Bytes) : Router S :=
  { r with channels := Function.update r.channels tx inner }

def setRetries (r : Router S) (tx : S) (retries : List Retry) : Router S :=
  { r with retries := Function.update r.retries tx retries }

def dispatch (r : Router S) (header : PacketHeader) (payload : Bytes) (user : UserID) (tx : S) :
    Router S :=
  let packet := header.encode payload
  match header.packetType with
  | .rawMotion => r.setChannel tx ((r.channels tx).sendDropOldest packet)
  | .systemCmd =>
    match (r.channels tx).trySend packet with
    | .ok inner => r.setChannel tx inner
    | .error returned =>
      r.setRetries tx (r.retries tx ++ [⟨header.roomIdStr, user, returned, .spawned⟩])
  | .aiEvent | .heartbeat =>
    match (r.channels tx).trySend packet with
    | .ok inner => r.setChannel tx inner
    | .error _ => r

def dispatchAll (r : Router S) (header : PacketHeader) (payload : Bytes)
    (targets : List (UserID × S)) : Router S :=
  targets.foldl (fun r target => r.dispatch header payload target.1 target.2) r

def route (iter : InnerMap UserID S → List (UserID × S)) (r : Router S) (header : PacketHeader)
    (payload : Bytes) : Router S :=
  match AList.lookup header.roomIdStr r.rooms with
  | none => r
  | some room =>
    match header.targetType with
    | .broadcast => r.dispatchAll header payload (iter room)
    | .unicast =>
      match AList.lookup header.userIdStr room with
      | some tx => r.dispatch header payload header.userIdStr tx
      | none => r

def recv (r : Router S) (tx : S) : Option (Router S) :=
  (r.channels tx).popFront.map fun (_, inner) => r.setChannel tx inner

def setRetry (r : Router S) (tx : S) (task : Nat) (state : RetryState) : Router S :=
  r.setRetries tx ((r.retries tx).modify task fun retry => { retry with state })

def retryAttempt (r : Router S) (tx : S) (task : Nat) : Option (Router S) :=
  (r.retries tx)[task]?.bind fun retry =>
    if retry.state = .spawned ∨ retry.state = .refused then
      match (r.channels tx).trySend retry.item with
      | .ok inner => some ((r.setChannel tx inner).setRetry tx task .delivered)
      | .error _ => some (r.setRetry tx task .refused)
    else none

def retryTimeout (r : Router S) (tx : S) (task : Nat) : Option (Router S) :=
  (r.retries tx)[task]?.bind fun retry =>
    if retry.state = .refused then
      some ((r.setRetry tx task .disconnected).unregister retry.room retry.user)
    else none

end Operations

section Policy

/-- What a packet of the type makes of a channel: it is appended while there is
room, and a full queue gives up its front for a `RawMotion` packet only. -/
def policy (type : PacketType) (packet : Bytes) (inner : ChannelInner Bytes) : ChannelInner Bytes :=
  if inner.queue.length < inner.capacity then
    { inner with queue := inner.queue ++ [packet], notify := inner.notify.notifyOne }
  else
    match type with
    | .rawMotion =>
      { inner with queue := inner.queue.tail ++ [packet], notify := inner.notify.notifyOne }
    | .systemCmd | .aiEvent | .heartbeat => inner

def policyRetries (header : PacketHeader) (packet : Bytes) (user : UserID)
    (inner : ChannelInner Bytes) : List Retry :=
  if header.packetType = .systemCmd ∧ inner.capacity ≤ inner.queue.length then
    [⟨header.roomIdStr, user, packet, .spawned⟩]
  else []

/-- The header's room is the key's, and so is the user it names, unless it names none. -/
def Addresses (header : PacketHeader) (key : RoomID × UserID) : Prop :=
  header.roomIdStr = key.1 ∧
    (header.targetType = .broadcast ∨ header.targetType = .unicast ∧ header.userIdStr = key.2)

instance (header : PacketHeader) (key : RoomID × UserID) : Decidable (Addresses header key) :=
  inferInstanceAs (Decidable (_ ∧ _))

variable {S : Type}

structure FannedOut (header : PacketHeader) (payload : Bytes) (targets : UserID → S → Prop)
    (r next : Router S) : Prop where
  rooms : next.rooms = r.rooms
  reached : ∀ user tx, targets user tx →
    next.channels tx = policy header.packetType (header.encode payload) (r.channels tx) ∧
      next.retries tx =
        r.retries tx ++ policyRetries header (header.encode payload) user (r.channels tx)
  others : ∀ tx, (∀ user, ¬ targets user tx) →
    next.channels tx = r.channels tx ∧ next.retries tx = r.retries tx

end Policy

section Ownership

variable {S : Type} {owner : S → RoomID × UserID} {r : Router S}

/-- No sender is registered under two keys. -/
def Distinct (r : Router S) : Prop :=
  ∀ key key' tx, r.rooms.flat key = some tx → r.rooms.flat key' = some tx → key = key'

def Owned (owner : S → RoomID × UserID) (r : Router S) : Prop :=
  ∀ key tx, r.rooms.flat key = some tx → owner tx = key

theorem Owned.distinct (owned : Owned owner r) : r.Distinct := by
  intro key key' tx here there
  rw [← owned key tx here, owned key' tx there]

theorem owned_new (capacity : S → Nat) : Owned owner (new capacity) := by
  rintro key tx ⟨⟩

theorem flat_register (r : Router S) (room : RoomID) (user : UserID) (tx : S) :
    (r.register room user tx).rooms.flat = Function.update r.rooms.flat (room, user) (some tx) :=
  NestedMap.flat_put _ _ _ _

theorem Owned.register (owned : Owned owner r) {room : RoomID} {user : UserID} {tx : S}
    (own : owner tx = (room, user)) : Owned owner (r.register room user tx) := by
  intro key tx' found
  rw [flat_register, Function.update_apply] at found
  split at found
  next same =>
    cases found
    rw [own, same]
  next => exact owned key tx' found

/-- In the flat map an unregister is the removal of one entry, whether or not the
room goes with it. -/
theorem flat_unregister (r : Router S) (room : RoomID) (user : UserID) :
    (r.unregister room user).rooms.flat = Function.update r.rooms.flat (room, user) none := by
  rw [← NestedMap.flat_remove]
  unfold unregister
  split
  next =>
    dsimp only
    split
    · exact NestedMap.flat_prune _ _
    · rfl
  next absent =>
    rw [NestedMap.remove, AList.lookup_eq_none.mpr absent]
    rfl

theorem Owned.unregister (owned : Owned owner r) (room : RoomID) (user : UserID) :
    Owned owner (r.unregister room user) := by
  intro key tx found
  rw [flat_unregister, Function.update_apply] at found
  split at found
  next => cases found
  next => exact owned key tx found

end Ownership

section FanOut

variable {S : Type} [DecidableEq S] {r : Router S} {header : PacketHeader} {payload : Bytes}

theorem channels_setChannel (r : Router S) (tx : S) (inner : ChannelInner Bytes) :
    (r.setChannel tx inner).channels = Function.update r.channels tx inner := rfl

theorem retries_setRetries (r : Router S) (tx : S) (retries : List Retry) :
    (r.setRetries tx retries).retries = Function.update r.retries tx retries := rfl

theorem setChannel_self (r : Router S) (tx : S) : r.setChannel tx (r.channels tx) = r := by
  rw [setChannel, Function.update_eq_self]

theorem setRetries_self (r : Router S) (tx : S) : r.setRetries tx (r.retries tx) = r := by
  rw [setRetries, Function.update_eq_self]

theorem sendDropOldest_eq_policy (inner : ChannelInner Bytes) (packet : Bytes) :
    inner.sendDropOldest packet = policy .rawMotion packet inner := by
  unfold ChannelInner.sendDropOldest policy
  by_cases fits : inner.queue.length < inner.capacity
  · simp only [fits, Nat.not_le.mpr fits, if_true, if_false]
  · simp only [fits, Nat.le_of_not_lt fits, if_true, if_false]

theorem policy_of_ok {inner next : ChannelInner Bytes} {packet : Bytes}
    (sent : inner.trySend packet = .ok next) (type : PacketType) : policy type packet inner = next := by
  obtain ⟨fits, rfl⟩ := ChannelInner.trySend_eq_ok.mp sent
  rw [policy.eq_def, if_pos fits]

theorem policy_of_error {inner : ChannelInner Bytes} {packet returned : Bytes} {type : PacketType}
    (refused : inner.trySend packet = .error returned) (other : type ≠ .rawMotion) :
    policy type packet inner = inner := by
  have full := (ChannelInner.trySend_eq_error.mp refused).1
  rw [policy.eq_def, if_neg (Nat.not_lt.mpr full)]
  cases type with
  | rawMotion => exact absurd rfl other
  | systemCmd => rfl
  | aiEvent => rfl
  | heartbeat => rfl

theorem policyRetries_eq_nil {packet : Bytes} {user : UserID} {inner : ChannelInner Bytes}
    (none : header.packetType = .systemCmd → inner.queue.length < inner.capacity) :
    policyRetries header packet user inner = [] := by
  rw [policyRetries, if_neg]
  rintro ⟨type, full⟩
  exact Nat.not_le.mpr (none type) full

theorem dispatch_eq (r : Router S) (header : PacketHeader) (payload : Bytes) (user : UserID) (tx : S) :
    r.dispatch header payload user tx =
      (r.setChannel tx (policy header.packetType (header.encode payload) (r.channels tx))).setRetries
        tx (r.retries tx ++ policyRetries header (header.encode payload) user (r.channels tx)) := by
  have keeps {inner : ChannelInner Bytes} (none : header.packetType = .systemCmd →
      (r.channels tx).queue.length < (r.channels tx).capacity) :
      (r.setChannel tx inner).setRetries tx
        (r.retries tx ++ policyRetries header (header.encode payload) user (r.channels tx)) =
          r.setChannel tx inner := by
    rw [policyRetries_eq_nil none, List.append_nil]
    exact setRetries_self _ _
  unfold dispatch
  dsimp only
  split
  next type =>
    rw [keeps (by simp [type]), sendDropOldest_eq_policy, type]
  next type =>
    split
    next sent =>
      rw [keeps fun _ => (ChannelInner.trySend_eq_ok.mp sent).1, policy_of_ok sent]
    next refused =>
      obtain ⟨full, rfl⟩ := ChannelInner.trySend_eq_error.mp refused
      rw [policy_of_error refused (by simp [type]), setChannel_self, policyRetries, if_pos ⟨type, full⟩]
  -- `AiEvent` and `Heartbeat` share one policy.
  all_goals
    rename_i type
    rw [keeps (by simp [type])]
    split
    next sent => rw [policy_of_ok sent]
    next refused => rw [policy_of_error refused (by simp [type]), setChannel_self]

omit [DecidableEq S] in
theorem FannedOut.congr {targets targets' : UserID → S → Prop} {next : Router S}
    (fanned : FannedOut header payload targets r next)
    (same : ∀ user tx, targets user tx ↔ targets' user tx) :
    FannedOut header payload targets' r next := by
  have equal : targets = targets' := funext fun user => funext fun tx => propext (same user tx)
  exact equal ▸ fanned

omit [DecidableEq S] in
theorem FannedOut.unique {targets : UserID → S → Prop} {next next' : Router S}
    (first : FannedOut header payload targets r next)
    (second : FannedOut header payload targets r next') : next = next' := by
  have same (tx : S) : next.channels tx = next'.channels tx ∧ next.retries tx = next'.retries tx := by
    by_cases target : ∃ user, targets user tx
    · obtain ⟨user, inside⟩ := target
      have ⟨channels, retries⟩ := first.reached user tx inside
      have ⟨channels', retries'⟩ := second.reached user tx inside
      exact ⟨channels.trans channels'.symm, retries.trans retries'.symm⟩
    · have absent : ∀ user, ¬ targets user tx := fun user inside => target ⟨user, inside⟩
      have ⟨channels, retries⟩ := first.others tx absent
      have ⟨channels', retries'⟩ := second.others tx absent
      exact ⟨channels.trans channels'.symm, retries.trans retries'.symm⟩
  have rooms := first.rooms.trans second.rooms.symm
  have channels : next.channels = next'.channels := funext fun tx => (same tx).1
  have retries : next.retries = next'.retries := funext fun tx => (same tx).2
  cases next
  cases next'
  cases rooms
  cases channels
  cases retries
  rfl

omit [DecidableEq S] in
theorem fannedOut_none (r : Router S) :
    FannedOut header payload (fun _ _ => False) r r :=
  ⟨rfl, fun _ _ => False.elim, fun _ _ => ⟨rfl, rfl⟩⟩

theorem fannedOut_dispatch (r : Router S) (header : PacketHeader) (payload : Bytes) (user : UserID)
    (tx : S) :
    FannedOut header payload (fun user' tx' => user' = user ∧ tx' = tx) r
      (r.dispatch header payload user tx) := by
  rw [dispatch_eq]
  constructor
  · rfl
  · rintro _ _ ⟨rfl, rfl⟩
    exact ⟨Function.update_self .., Function.update_self ..⟩
  · intro other absent
    have different : other ≠ tx := fun same => absent user ⟨rfl, same⟩
    exact ⟨Function.update_of_ne different .., Function.update_of_ne different ..⟩

/-- A loop over targets with different senders dispatches to each as if alone. -/
theorem fannedOut_dispatchAll {targets : List (UserID × S)}
    (nodup : (targets.map Prod.snd).Nodup) :
    FannedOut header payload (fun user tx => (user, tx) ∈ targets) r
      (r.dispatchAll header payload targets) := by
  induction targets generalizing r with
  | nil =>
    refine FannedOut.congr (fannedOut_none r) ?_
    simp
  | cons target targets ih =>
    rw [List.map_cons, List.nodup_cons] at nodup
    have first := fannedOut_dispatch r header payload target.1 target.2
    have rest := ih (r := r.dispatch header payload target.1 target.2) nodup.2
    have apart {user : UserID} {tx : S} (inside : (user, tx) ∈ targets) : tx ≠ target.2 := by
      rintro rfl
      exact nodup.1 (List.mem_map.mpr ⟨_, inside, rfl⟩)
    constructor
    · exact rest.rooms.trans first.rooms
    · intro user tx inside
      rcases List.mem_cons.mp inside with rfl | later
      -- The front target is not among the rest, so the loop leaves it alone.
      · have ⟨channels, retries⟩ := rest.others tx fun user' inside => apart inside rfl
        have ⟨updated, spawned⟩ := first.reached user tx ⟨rfl, rfl⟩
        exact ⟨channels.trans updated, retries.trans spawned⟩
      · have ⟨channels, retries⟩ := first.others tx fun _ same => apart later same.2
        have updated := rest.reached user tx later
        rw [channels, retries] at updated
        exact updated
    · intro tx absent
      have ⟨channels, retries⟩ := first.others tx fun user same =>
        absent target.1 (same.2 ▸ List.mem_cons_self)
      have ⟨channels', retries'⟩ := rest.others tx fun user inside =>
        absent user (List.mem_cons_of_mem _ inside)
      exact ⟨channels'.trans channels, retries'.trans retries⟩

omit [DecidableEq S] in
/-- The senders of a room are those of the flat map. -/
theorem find_of_lookup {room : InnerMap UserID S} {name : RoomID}
    (found : AList.lookup name r.rooms = some room) (user : UserID) :
    r.rooms.flat (name, user) = AList.lookup user room := by
  rw [NestedMap.flat, NestedMap.find, found]
  rfl

omit [DecidableEq S] in
theorem nodup_iter {iter : InnerMap UserID S → List (UserID × S)} (iterates : Iterates iter)
    (distinct : r.Distinct) {room : InnerMap UserID S} {name : RoomID}
    (found : AList.lookup name r.rooms = some room) : ((iter room).map Prod.snd).Nodup := by
  refine List.Nodup.map_on ?_ (iterates.nodup room)
  rintro ⟨user, tx⟩ member ⟨user', tx'⟩ member' same
  rw [iterates.mem, ← find_of_lookup found] at member member'
  cases same
  cases distinct _ _ tx member member'
  rfl

theorem fannedOut_route {iter : InnerMap UserID S → List (UserID × S)} (iterates : Iterates iter)
    (distinct : r.Distinct) (header : PacketHeader) (payload : Bytes) :
    FannedOut header payload
      (fun user tx => r.rooms.flat (header.roomIdStr, user) = some tx ∧
        Addresses header (header.roomIdStr, user))
      r (r.route iter header payload) := by
  unfold route
  split
  next missing =>
    refine (fannedOut_none r).congr fun user tx => ?_
    simp [NestedMap.flat, NestedMap.find, missing]
  next room found =>
    simp only [find_of_lookup found]
    split
    next broadcast =>
      refine (fannedOut_dispatchAll (nodup_iter iterates distinct found)).congr fun user tx => ?_
      simp [iterates.mem, Addresses, broadcast]
    next unicast =>
      split
      next tx here =>
        refine (fannedOut_dispatch r header payload header.userIdStr tx).congr fun user tx' => ?_
        simp only [Addresses, unicast, reduceCtorEq, false_or, true_and]
        constructor
        · rintro ⟨rfl, rfl⟩
          exact ⟨here, rfl⟩
        · rintro ⟨there, rfl⟩
          rw [here] at there
          cases there
          exact ⟨rfl, rfl⟩
      next absent =>
        refine (fannedOut_none r).congr fun user tx => ?_
        simp only [Addresses, unicast, reduceCtorEq, false_or, true_and, false_iff, not_and]
        rintro there rfl
        rw [absent] at there
        cases there

/-- `route` updates the channel of each addressed user once, by the policy of the
packet type, and starts a retry where a `SystemCmd` packet is refused. The other
channels, their retries and the registry are as before. -/
theorem route_exact {S : Type} [DecidableEq S] (iter : InnerMap UserID S → List (UserID × S))
    (iterates : Iterates iter) (r : Router S) (distinct : r.Distinct) (header : PacketHeader)
    (payload : Bytes) :
    (r.route iter header payload).rooms = r.rooms ∧
    (∀ user tx, r.rooms.flat (header.roomIdStr, user) = some tx →
      (header.targetType = .broadcast ∨ header.targetType = .unicast ∧ header.userIdStr = user) →
        (r.route iter header payload).channels tx =
            policy header.packetType (header.encode payload) (r.channels tx) ∧
          (r.route iter header payload).retries tx =
            r.retries tx ++ policyRetries header (header.encode payload) user (r.channels tx)) ∧
    (∀ tx, (∀ key, r.rooms.flat key = some tx → ¬ Addresses header key) →
      (r.route iter header payload).channels tx = r.channels tx ∧
        (r.route iter header payload).retries tx = r.retries tx) ∧
    (header.roomIdStr ∉ r.rooms → r.route iter header payload = r) := by
  have fanned := fannedOut_route iterates distinct header payload
  refine ⟨fanned.rooms, ?_, ?_, ?_⟩
  · intro user tx found addressed
    exact fanned.reached user tx ⟨found, rfl, addressed⟩
  · intro tx absent
    exact fanned.others tx fun user inside => absent _ inside.1 inside.2
  · intro missing
    rw [route, AList.lookup_eq_none.mpr missing]

def inOrder (room : InnerMap UserID S) : List (UserID × S) :=
  room.entries.map fun entry => (entry.1, entry.2)

omit [DecidableEq S] in
theorem iterates_inOrder : Iterates (inOrder (S := S)) where
  nodup room := by
    refine List.Nodup.map ?_ (List.NodupKeys.nodup room.nodupKeys)
    rintro ⟨user, tx⟩ ⟨user', tx'⟩ same
    cases same
    rfl
  mem room user tx := by
    rw [← Option.mem_def, AList.mem_lookup_iff, inOrder, List.mem_map]
    constructor
    · rintro ⟨⟨user', tx'⟩, member, same⟩
      cases same
      exact member
    · intro member
      exact ⟨⟨user, tx⟩, member, rfl⟩

def pair : Router Nat := ((new fun _ => 1).register "r1" "ann" 0).register "r1" "bob" 1

def pairOwner (tx : Nat) : RoomID × UserID := ("r1", if tx = 0 then "ann" else "bob")

def command : PacketHeader where
  version := protocolVersion
  packetType := .systemCmd
  targetType := .broadcast
  roomId := ⟨[114, 49, 0, 0, 0, 0], rfl⟩
  userId := ⟨[97, 110, 110, 0, 0, 0, 0, 0], rfl⟩
  sequence := 0
  length := 0

theorem route_exact_pair :
    (pair.route inOrder command []).channels 1 =
      policy .systemCmd (command.encode []) (pair.channels 1) := by
  have owned : Owned pairOwner pair := by
    refine Owned.register (Owned.register (owned_new _) ?_) ?_
    · rfl
    · rfl
  exact ((route_exact inOrder iterates_inOrder pair owned.distinct command []).2.1 "bob" 1
    (by decide +kernel) (Or.inl rfl)).1

end FanOut

end Router

end WsGateway.Routing
