import WsGateway.Foundation.Indexed
import WsGateway.Routing.Router

/-! What one user's connections are sent does not depend on the other users.

An operation reads and writes, of what belongs to a key, only the entry at the
key and the channels and retries of the senders registered under it. So a run
can be compared with the run of the events that concern the key.
-/

set_option autoImplicit false

namespace WsGateway.Routing.Router
open Foundation Protocol

abbrev Key := RoomID × UserID

inductive Event (S : Type) where
  | register (room : RoomID) (user : UserID) (tx : S)
  | unregister (room : RoomID) (user : UserID)
  | route (header : PacketHeader) (payload : Bytes)
  | recv (tx : S)
  | retryAttempt (tx : S) (task : Nat)
  | retryTimeout (tx : S) (task : Nat)

variable {S : Type} [DecidableEq S]

def step (iter : InnerMap UserID S → List (UserID × S)) (r : Router S) : Event S → Option (Router S)
  | .register room user tx => some (r.register room user tx)
  | .unregister room user => some (r.unregister room user)
  | .route header payload => some (r.route iter header payload)
  | .recv tx => r.recv tx
  | .retryAttempt tx task => r.retryAttempt tx task
  | .retryTimeout tx task => r.retryTimeout tx task

/-- The event names the key, is a packet addressed to it, or is a drain or a retry
of a channel of the key. -/
def Event.concerns (owner : S → Key) (key : Key) : Event S → Bool
  | .register room user _ | .unregister room user => (room, user) = key
  | .route header _ => Addresses header key
  | .recv tx | .retryAttempt tx _ | .retryTimeout tx _ => owner tx = key

/-- Channels are registered under their owner's names only. -/
def RespectsOwner (owner : S → Key) (events : List (Event S)) : Prop :=
  ∀ room user tx, .register room user tx ∈ events → owner tx = (room, user)

structure Attributed (owner : S → Key) (r : Router S) : Prop where
  entries : Owned owner r
  retries : ∀ tx, ∀ retry ∈ r.retries tx, owner tx = (retry.room, retry.user)

structure Agree (owner : S → Key) (key : Key) (r r' : Router S) : Prop where
  entry : r.rooms.flat key = r'.rooms.flat key
  channels : ∀ tx, owner tx = key → r.channels tx = r'.channels tx
  retries : ∀ tx, owner tx = key → r.retries tx = r'.retries tx

section Operations

variable {owner : S → Key} {key : Key} {r r' next : Router S}

omit [DecidableEq S] in
theorem Agree.trans {middle : Router S} (first : Agree owner key r middle)
    (second : Agree owner key middle r') : Agree owner key r r' where
  entry := first.entry.trans second.entry
  channels tx own := (first.channels tx own).trans (second.channels tx own)
  retries tx own := (first.retries tx own).trans (second.retries tx own)

theorem Agree.setChannel (agree : Agree owner key r r') (tx : S) (inner : ChannelInner Bytes) :
    Agree owner key (r.setChannel tx inner) (r'.setChannel tx inner) where
  entry := agree.entry
  channels other own := by
    rw [channels_setChannel, channels_setChannel, Function.update_apply, Function.update_apply,
      agree.channels other own]
  retries := agree.retries

theorem Agree.setRetries (agree : Agree owner key r r') (tx : S) (retries : List Retry) :
    Agree owner key (r.setRetries tx retries) (r'.setRetries tx retries) where
  entry := agree.entry
  channels := agree.channels
  retries other own := by
    rw [retries_setRetries, retries_setRetries, Function.update_apply, Function.update_apply,
      agree.retries other own]

theorem agree_setChannel {tx : S} (other : owner tx ≠ key) (inner : ChannelInner Bytes) :
    Agree owner key (r.setChannel tx inner) r where
  entry := rfl
  channels tx' own := Function.update_of_ne (by rintro rfl; exact other own) ..
  retries _ _ := rfl

theorem agree_setRetries {tx : S} (other : owner tx ≠ key) (retries : List Retry) :
    Agree owner key (r.setRetries tx retries) r where
  entry := rfl
  channels _ _ := rfl
  retries tx' own := Function.update_of_ne (by rintro rfl; exact other own) ..

theorem Attributed.setChannel (attributed : Attributed owner r) (tx : S)
    (inner : ChannelInner Bytes) : Attributed owner (r.setChannel tx inner) :=
  ⟨attributed.entries, attributed.retries⟩

theorem Attributed.setRetries (attributed : Attributed owner r) {tx : S} {retries : List Retry}
    (own : ∀ retry ∈ retries, owner tx = (retry.room, retry.user)) :
    Attributed owner (r.setRetries tx retries) where
  entries := attributed.entries
  retries other retry member := by
    rw [retries_setRetries, Function.update_apply] at member
    split at member
    next same =>
      subst same
      exact own retry member
    next => exact attributed.retries other retry member

/-- A packet reaches a channel of the key exactly when the key's entry holds it and
the packet is addressed to the key. -/
theorem route_at {iter : InnerMap UserID S → List (UserID × S)} (iterates : Iterates iter)
    (owned : Owned owner r) (header : PacketHeader) (payload : Bytes) {tx : S} (own : owner tx = key) :
    (r.route iter header payload).channels tx =
        (if r.rooms.flat key = some tx ∧ Addresses header key then
          policy header.packetType (header.encode payload) (r.channels tx)
        else r.channels tx) ∧
      (r.route iter header payload).retries tx = r.retries tx ++
        (if r.rooms.flat key = some tx ∧ Addresses header key then
          policyRetries header (header.encode payload) key.2 (r.channels tx)
        else []) := by
  have fanned := fannedOut_route iterates owned.distinct header payload
  split
  next target =>
    obtain ⟨entry, addressed⟩ := target
    obtain ⟨room, user⟩ := key
    obtain ⟨rfl, named⟩ := addressed
    exact fanned.reached user tx ⟨entry, rfl, named⟩
  -- A sender of the key is in no entry but the key's, so nothing else reaches it.
  next missed =>
    rw [List.append_nil]
    refine fanned.others tx fun user inside => missed ?_
    have same := owned _ tx inside.1
    rw [own] at same
    exact same ▸ inside

theorem agree_route {iter : InnerMap UserID S → List (UserID × S)} (iterates : Iterates iter)
    (owned : Owned owner r) {header : PacketHeader} (elsewhere : ¬ Addresses header key)
    (payload : Bytes) : Agree owner key (r.route iter header payload) r where
  entry := by rw [(fannedOut_route iterates owned.distinct header payload).rooms]
  channels tx own := by
    rw [(route_at iterates owned header payload own).1, if_neg (fun both => elsewhere both.2)]
  retries tx own := by
    rw [(route_at iterates owned header payload own).2, if_neg (fun both => elsewhere both.2),
      List.append_nil]

theorem Agree.route {iter : InnerMap UserID S → List (UserID × S)} (iterates : Iterates iter)
    (owned : Owned owner r) (owned' : Owned owner r') (agree : Agree owner key r r')
    (header : PacketHeader) (payload : Bytes) :
    Agree owner key (r.route iter header payload) (r'.route iter header payload) where
  entry := by
    rw [(fannedOut_route iterates owned.distinct header payload).rooms,
      (fannedOut_route iterates owned'.distinct header payload).rooms, agree.entry]
  channels tx own := by
    rw [(route_at iterates owned header payload own).1,
      (route_at iterates owned' header payload own).1, agree.entry, agree.channels tx own]
  retries tx own := by
    rw [(route_at iterates owned header payload own).2,
      (route_at iterates owned' header payload own).2, agree.entry, agree.channels tx own,
      agree.retries tx own]

theorem Attributed.route {iter : InnerMap UserID S → List (UserID × S)} (iterates : Iterates iter)
    (attributed : Attributed owner r) (header : PacketHeader) (payload : Bytes) :
    Attributed owner (r.route iter header payload) where
  entries := by
    rw [Owned, (fannedOut_route iterates attributed.entries.distinct header payload).rooms]
    exact attributed.entries
  retries tx retry member := by
    have own : owner tx = owner tx := rfl
    rw [(route_at iterates attributed.entries header payload own).2, List.mem_append] at member
    rcases member with before | spawned
    · exact attributed.retries tx retry before
    · split at spawned
      next target =>
        rw [policyRetries] at spawned
        split at spawned
        next =>
          rw [List.mem_singleton] at spawned
          rw [spawned, target.2.1]
        next => cases spawned
      next => cases spawned

omit [DecidableEq S] in
theorem Agree.register (agree : Agree owner key r r') (room : RoomID) (user : UserID) (tx : S) :
    Agree owner key (r.register room user tx) (r'.register room user tx) where
  entry := by
    rw [flat_register, flat_register, Function.update_apply, Function.update_apply, agree.entry]
  channels := agree.channels
  retries := agree.retries

omit [DecidableEq S] in
theorem agree_register {room : RoomID} {user : UserID} (other : (room, user) ≠ key) (tx : S) :
    Agree owner key (r.register room user tx) r where
  entry := by rw [flat_register, Function.update_of_ne (Ne.symm other)]
  channels _ _ := rfl
  retries _ _ := rfl

omit [DecidableEq S] in
theorem unregister_eq (r : Router S) (room : RoomID) (user : UserID) :
    r.unregister room user = { r with rooms := (r.unregister room user).rooms } := by
  unfold unregister
  split
  next =>
    dsimp only
    split
    · rfl
    · rfl
  next => rfl

omit [DecidableEq S] in
theorem Agree.unregister (agree : Agree owner key r r') (room : RoomID) (user : UserID) :
    Agree owner key (r.unregister room user) (r'.unregister room user) := by
  constructor
  · rw [flat_unregister, flat_unregister, Function.update_apply, Function.update_apply, agree.entry]
  · rw [unregister_eq, unregister_eq r']
    exact agree.channels
  · rw [unregister_eq, unregister_eq r']
    exact agree.retries

omit [DecidableEq S] in
theorem agree_unregister {room : RoomID} {user : UserID} (other : (room, user) ≠ key) :
    Agree owner key (r.unregister room user) r := by
  constructor
  · rw [flat_unregister, Function.update_of_ne (Ne.symm other)]
  · rw [unregister_eq]
    exact fun _ _ => rfl
  · rw [unregister_eq]
    exact fun _ _ => rfl

omit [DecidableEq S] in
theorem Attributed.unregister (attributed : Attributed owner r) (room : RoomID) (user : UserID) :
    Attributed owner (r.unregister room user) where
  entries := attributed.entries.unregister room user
  retries := by
    rw [unregister_eq]
    exact attributed.retries

theorem Attributed.setRetry (attributed : Attributed owner r) (tx : S) (task : Nat)
    (state : RetryState) : Attributed owner (r.setRetry tx task state) := by
  refine attributed.setRetries fun retry member => ?_
  rcases mem_modify member with kept | ⟨old, found, rfl⟩
  · exact attributed.retries tx retry kept
  · exact attributed.retries tx old (List.mem_of_getElem? found)

theorem recv_local {tx : S} (taken : r.recv tx = some next) :
    ∃ inner, next = r.setChannel tx inner ∧ ∀ r' : Router S, r'.channels tx = r.channels tx →
      r'.recv tx = some (r'.setChannel tx inner) := by
  obtain ⟨⟨item, inner⟩, front, rfl⟩ := Option.map_eq_some_iff.mp taken
  refine ⟨inner, rfl, fun r' same => ?_⟩
  rw [recv, same, front]
  rfl

theorem retryAttempt_local {tx : S} {task : Nat} (taken : r.retryAttempt tx task = some next) :
    ∃ inner state, next = (r.setChannel tx inner).setRetry tx task state ∧
      ∀ r' : Router S, r'.channels tx = r.channels tx → r'.retries tx = r.retries tx →
        r'.retryAttempt tx task = some ((r'.setChannel tx inner).setRetry tx task state) := by
  obtain ⟨retry, found, taken⟩ := Option.bind_eq_some_iff.mp taken
  obtain ⟨ready, taken⟩ := Option.ite_none_right_eq_some.mp taken
  cases sent : (r.channels tx).trySend retry.item with
  | ok inner =>
    rw [sent] at taken
    cases taken
    refine ⟨inner, .delivered, rfl, fun r' channels retries => ?_⟩
    rw [retryAttempt, retries, found, Option.bind_some, if_pos ready, channels, sent]
  | error returned =>
    rw [sent] at taken
    cases taken
    refine ⟨r.channels tx, .refused, by rw [setChannel_self], fun r' channels retries => ?_⟩
    rw [retryAttempt, retries, found, Option.bind_some, if_pos ready, channels, sent, ← channels,
      setChannel_self]

theorem retryTimeout_local (attributed : Attributed owner r) {tx : S} {task : Nat}
    (taken : r.retryTimeout tx task = some next) :
    ∃ room user, owner tx = (room, user) ∧
      next = (r.setRetry tx task .disconnected).unregister room user ∧
      ∀ r' : Router S, r'.retries tx = r.retries tx →
        r'.retryTimeout tx task = some ((r'.setRetry tx task .disconnected).unregister room user) := by
  obtain ⟨retry, found, taken⟩ := Option.bind_eq_some_iff.mp taken
  obtain ⟨refused, rfl⟩ := guarded_eq_some.mp taken
  refine ⟨retry.room, retry.user, ?_, rfl, fun r' retries => ?_⟩
  · exact attributed.retries tx retry (List.mem_of_getElem? found)
  · rw [retryTimeout, retries, found, Option.bind_some, if_pos refused]

theorem Agree.setRetry (agree : Agree owner key r r') {tx : S} (own : owner tx = key) (task : Nat)
    (state : RetryState) : Agree owner key (r.setRetry tx task state) (r'.setRetry tx task state) := by
  rw [Router.setRetry, Router.setRetry, agree.retries tx own]
  exact agree.setRetries tx _

end Operations

section Runs

variable {iter : InnerMap UserID S → List (UserID × S)} {owner : S → Key} {key : Key}
  {r r' next : Router S}

theorem attributed_step (iterates : Iterates iter) {event : Event S}
    (named : ∀ room user tx, event = .register room user tx → owner tx = (room, user))
    (attributed : Attributed owner r) (taken : r.step iter event = some next) :
    Attributed owner next := by
  cases event with
  | register room user tx =>
    cases taken
    exact ⟨attributed.entries.register (named room user tx rfl), attributed.retries⟩
  | unregister room user =>
    cases taken
    exact attributed.unregister room user
  | route header payload =>
    cases taken
    exact attributed.route iterates header payload
  | recv tx =>
    obtain ⟨inner, rfl, _⟩ := recv_local taken
    exact attributed.setChannel tx inner
  | retryAttempt tx task =>
    obtain ⟨inner, state, rfl, _⟩ := retryAttempt_local taken
    exact (attributed.setChannel tx inner).setRetry tx task state
  | retryTimeout tx task =>
    obtain ⟨room, user, _, rfl, _⟩ := retryTimeout_local attributed taken
    exact (attributed.setRetry tx task .disconnected).unregister room user

/-- An event that does not concern the key leaves alone what belongs to it. -/
theorem agree_of_hidden (iterates : Iterates iter) {event : Event S}
    (hidden : event.concerns owner key = false) (attributed : Attributed owner r)
    (taken : r.step iter event = some next) : Agree owner key next r := by
  cases event with
  | register room user tx =>
    cases taken
    exact agree_register (of_decide_eq_false hidden) tx
  | unregister room user =>
    cases taken
    exact agree_unregister (of_decide_eq_false hidden)
  | route header payload =>
    cases taken
    exact agree_route iterates attributed.entries (of_decide_eq_false hidden) payload
  | recv tx =>
    obtain ⟨inner, rfl, _⟩ := recv_local taken
    exact agree_setChannel (of_decide_eq_false hidden) inner
  | retryAttempt tx task =>
    have other : owner tx ≠ key := of_decide_eq_false hidden
    obtain ⟨inner, state, rfl, _⟩ := retryAttempt_local taken
    exact (agree_setRetries other _).trans (agree_setChannel other inner)
  | retryTimeout tx task =>
    have other : owner tx ≠ key := of_decide_eq_false hidden
    obtain ⟨room, user, own, rfl, _⟩ := retryTimeout_local attributed taken
    exact (agree_unregister (own ▸ other)).trans (agree_setRetries other _)

/-- An event that concerns the key does the same to what belongs to it, whatever
else the router holds. -/
theorem agree_of_seen (iterates : Iterates iter) {event : Event S}
    (seen : event.concerns owner key = true) (attributed : Attributed owner r)
    (attributed' : Attributed owner r') (agree : Agree owner key r r')
    (taken : r.step iter event = some next) :
    ∃ next', r'.step iter event = some next' ∧ Agree owner key next next' := by
  cases event with
  | register room user tx =>
    cases taken
    exact ⟨_, rfl, agree.register room user tx⟩
  | unregister room user =>
    cases taken
    exact ⟨_, rfl, agree.unregister room user⟩
  | route header payload =>
    cases taken
    exact ⟨_, rfl, agree.route iterates attributed.entries attributed'.entries header payload⟩
  | recv tx =>
    have own : owner tx = key := of_decide_eq_true seen
    obtain ⟨inner, rfl, again⟩ := recv_local taken
    exact ⟨_, again r' (agree.channels tx own).symm, agree.setChannel tx inner⟩
  | retryAttempt tx task =>
    have own : owner tx = key := of_decide_eq_true seen
    obtain ⟨inner, state, rfl, again⟩ := retryAttempt_local taken
    exact ⟨_, again r' (agree.channels tx own).symm (agree.retries tx own).symm,
      (agree.setChannel tx inner).setRetry own task state⟩
  | retryTimeout tx task =>
    have own : owner tx = key := of_decide_eq_true seen
    obtain ⟨room, user, _, rfl, again⟩ := retryTimeout_local attributed taken
    exact ⟨_, again r' (agree.retries tx own).symm,
      (agree.setRetry own task .disconnected).unregister room user⟩

/-- A run without the events that do not concern a key ends with the same entry at
the key, and with the same contents and retries of its channels. -/
theorem isolated {S : Type} [DecidableEq S] (iter : InnerMap UserID S → List (UserID × S))
    (iterates : Iterates iter) (owner : S → Key) (key : Key) (capacity : S → Nat)
    (events : List (Event S)) (respects : RespectsOwner owner events) (final : Router S)
    (ran : run (step iter) (new capacity) events = some final) :
    ∃ final', run (step iter) (new capacity) (events.filter (Event.concerns owner key)) =
        some final' ∧
      final'.rooms.flat key = final.rooms.flat key ∧
      ∀ tx, owner tx = key →
        final'.channels tx = final.channels tx ∧ final'.retries tx = final.retries tx := by
  let Related (r r' : Router S) := Attributed owner r ∧ Attributed owner r' ∧ Agree owner key r r'
  have initial : Attributed owner (new capacity) :=
    ⟨owned_new capacity, fun _ _ => False.elim ∘ List.not_mem_nil⟩
  have named {event : Event S} (member : event ∈ events) (room : RoomID) (user : UserID) (tx : S)
      (same : event = .register room user tx) : owner tx = (room, user) :=
    respects room user tx (same ▸ member)
  obtain ⟨final', ran', _, _, agree⟩ : ∃ final', run (step iter) (new capacity)
      (events.filter (Event.concerns owner key)) = some final' ∧ Related final final' := by
    -- A hidden event moves the left run only, a visible one both.
    refine run_filter ?_ ?_ ⟨initial, initial, ⟨rfl, fun _ _ => rfl, fun _ _ => rfl⟩⟩ ran
    · rintro event member hidden left right next ⟨attributed, attributed', agree⟩ taken
      exact ⟨attributed_step iterates (named member) attributed taken, attributed',
        (agree_of_hidden iterates hidden attributed taken).trans agree⟩
    · rintro event member seen left right next ⟨attributed, attributed', agree⟩ taken
      obtain ⟨next', taken', agree'⟩ := agree_of_seen iterates seen attributed attributed' agree taken
      exact ⟨next', taken', attributed_step iterates (named member) attributed taken,
        attributed_step iterates (named member) attributed' taken', agree'⟩
  exact ⟨final', ran', agree.entry.symm,
    fun tx own => ⟨(agree.channels tx own).symm, (agree.retries tx own).symm⟩⟩

def annDisconnected : List (Event Nat) :=
  [.register "r1" "ann" 0, .register "r1" "bob" 1, .route command [], .route command [], .recv 1,
    .retryAttempt 1 0, .retryAttempt 0 0, .retryTimeout 0 0]

theorem isolated_bob :
    ∃ final final', run (step inOrder) (new fun _ => 1) annDisconnected = some final ∧
      run (step inOrder) (new fun _ => 1)
        (annDisconnected.filter (Event.concerns pairOwner ("r1", "bob"))) = some final' ∧
      final.rooms.flat ("r1", "ann") = none ∧ (final.channels 1).queue ≠ [] ∧
      final'.channels 1 = final.channels 1 := by
  have ends : (run (step inOrder) (new fun _ => 1) annDisconnected).any (fun final =>
      final.rooms.flat ("r1", "ann") = none ∧ (final.channels 1).queue ≠ []) = true := by
    decide +kernel
  obtain ⟨final, ran, gone⟩ := (Option.any_eq_true _ _).mp ends
  obtain ⟨gone, filled⟩ := of_decide_eq_true gone
  have respects : RespectsOwner pairOwner annDisconnected := by
    intro room user tx member
    simp only [annDisconnected, List.mem_cons, List.not_mem_nil, Event.register.injEq, reduceCtorEq,
      or_false] at member
    rcases member with ⟨rfl, rfl, rfl⟩ | ⟨rfl, rfl, rfl⟩
    · rfl
    · rfl
  obtain ⟨final', ran', _, channels⟩ := isolated inOrder iterates_inOrder pairOwner ("r1", "bob")
    (fun _ => 1) annDisconnected respects final ran
  exact ⟨final, final', ran, ran', gone, filled, (channels 1 rfl).1⟩

end Runs

end WsGateway.Routing.Router
