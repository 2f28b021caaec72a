import WsGateway.Foundation.Indexed
import WsGateway.Gateway.Steps

/-! Connections and their registry entries.

Of all steps only four touch what is registered or who is open: a connect, the
end of a loop, the cleanup behind it and a forced disconnect.
-/

set_option autoImplicit false

namespace WsGateway.Gateway
open Foundation Protocol Routing

abbrev Key := RoomID × UserID

section Views

def entries (g : Gateway) : Key → Option ConnectionId := g.registry.rooms.flat

def profile (g : Gateway) : List (Key × ConnectionPhase) :=
  g.connections.map fun connection => (connection.key, connection.phase)

def keys (g : Gateway) : List Key := g.connections.map Connection.key

def Open (g : Gateway) (id : ConnectionId) (key : Key) : Prop :=
  g.profile[id]? = some (key, .running)

/-- Opened under the key and not superseded by a later connection under it. -/
def Current (g : Gateway) (id : ConnectionId) (key : Key) : Prop :=
  g.keys[id]? = some key ∧ ∀ later, id < later → g.keys[later]? ≠ some key

variable {g next : Gateway}

theorem keys_eq (g : Gateway) : g.keys = g.profile.map Prod.fst := by
  simp only [keys, profile, List.map_map]
  rfl

@[simp] theorem length_profile (g : Gateway) : g.profile.length = g.connections.length := by
  rw [profile, List.length_map]

@[simp] theorem length_keys (g : Gateway) : g.keys.length = g.connections.length := by
  rw [keys, List.length_map]

theorem profile_of_found {id : ConnectionId} {connection : Connection}
    (found : g.connections[id]? = some connection) :
    g.profile[id]? = some (connection.key, connection.phase) := by
  rw [profile, List.getElem?_map, found]
  rfl

theorem keys_of_found {id : ConnectionId} {connection : Connection}
    (found : g.connections[id]? = some connection) : g.keys[id]? = some connection.key := by
  rw [keys, List.getElem?_map, found]
  rfl

@[simp] theorem profile_setConnection (g : Gateway) (id : ConnectionId) (connection : Connection) :
    (g.setConnection id connection).profile = g.profile.set id (connection.key, connection.phase) :=
  List.map_set

theorem profile_setConnection_same {id : ConnectionId} {connection connection' : Connection}
    (found : g.connections[id]? = some connection) (key : connection'.key = connection.key)
    (phase : connection'.phase = connection.phase) :
    (g.setConnection id connection').profile = g.profile := by
  rw [profile_setConnection, key, phase]
  exact set_found (profile_of_found found)

theorem profile_accepts {id : ConnectionId} {connection connection' : Connection} {item : Outbound}
    (found : g.connections[id]? = some connection) (accepts : connection.Accepts connection' item) :
    (g.setConnection id connection').profile = g.profile :=
  profile_setConnection_same found accepts.key accepts.phase

end Views

section Steps

variable {g next : Gateway}

inductive Lifecycle (g next : Gateway) : Event → Prop where
  | connect {params : WsParams} {key : Key} : wsHandler params = .ok key →
      next.entries = Function.update g.entries key (some g.connections.length) →
      next.profile = g.profile ++ [(key, .running)] → Lifecycle g next (.connect params)
  | exit {id : ConnectionId} {key : Key} : g.profile[id]? = some (key, .running) →
      next.entries = g.entries → next.profile = g.profile.set id (key, .exited) →
      Lifecycle g next (.exit id)
  | cleanup {id : ConnectionId} {key : Key} : g.profile[id]? = some (key, .exited) →
      next.entries = Function.update g.entries key none →
      next.profile = g.profile.set id (key, .closed) → Lifecycle g next (.cleanup id)
  | disconnect {id : Nat} {task : RetryTask} : g.retries[id]? = some task → task.phase = .failed →
      next.entries = Function.update g.entries (task.room, task.user) none →
      next.profile = g.profile → Lifecycle g next (.disconnect id)
  | quiet {event : Event} : (∀ id, event ≠ .cleanup id) → (∀ id, event ≠ .disconnect id) →
      next.entries = g.entries → next.profile = g.profile → Lifecycle g next event

theorem entries_unregister (g : Gateway) (key : Key) :
    (g.registry.unregister key.1 key.2).rooms.flat = Function.update g.entries key none := by
  rw [Registry.unregister_eq, NestedMap.flat_remove]
  rfl

theorem receive_registry (g : Gateway) (raw : Bytes) : (g.receive raw).registry = g.registry := by
  unfold receive
  split <;> rfl

theorem receive_connections (g : Gateway) (raw : Bytes) :
    (g.receive raw).connections = g.connections := by
  unfold receive
  split <;> rfl

theorem dispatched_quiet {packet : PacketId} {task : RouteTask} {target : Target}
    (dispatched : Dispatched g packet task target next) :
    next.registry = g.registry ∧ next.profile = g.profile := by
  cases dispatched with
  | sent found _ sent =>
    exact ⟨rfl, profile_accepts found (Connection.accepts_of_trySend sent)⟩
  | forced found _ => exact ⟨rfl, profile_accepts found (Connection.accepts_sendDropOldest _ _)⟩
  | refused => exact ⟨rfl, rfl⟩
  | dropped => exact ⟨rfl, rfl⟩

theorem routed_quiet {packet : PacketId} {task : RouteTask} (routed : Routed g packet task next) :
    next.registry = g.registry ∧ next.profile = g.profile := by
  cases routed with
  | resolved => exact ⟨rfl, rfl⟩
  | collected => exact ⟨rfl, rfl⟩
  | found => exact ⟨rfl, rfl⟩
  | missing => exact ⟨rfl, rfl⟩
  | dispatched _ dispatched =>
    have ⟨registry, profile⟩ := dispatched_quiet dispatched
    exact ⟨registry, profile⟩
  | returned => exact ⟨rfl, rfl⟩

theorem retried_quiet {id : Nat} {task : RetryTask} (retried : Retried g id task next) :
    next.registry = g.registry ∧ next.profile = g.profile := by
  cases retried with
  | delivered _ found sent =>
    exact ⟨rfl, profile_accepts found (Connection.accepts_of_trySend sent)⟩
  | started => exact ⟨rfl, rfl⟩
  | refused => exact ⟨rfl, rfl⟩
  | expired => exact ⟨rfl, rfl⟩
  | paused => exact ⟨rfl, rfl⟩
  | woken => exact ⟨rfl, rfl⟩

theorem lifecycle {event : Event} (taken : g.step event = some next) : Lifecycle g next event := by
  -- Steps of route and retry tasks touch neither the registry nor a phase.
  have quiet {event : Event} (registry : next.registry = g.registry)
      (profile : next.profile = g.profile) (cleanup : ∀ id, event ≠ .cleanup id)
      (disconnect : ∀ id, event ≠ .disconnect id) : Lifecycle g next event :=
    .quiet cleanup disconnect (by rw [entries, registry, entries]) profile
  cases event with
  | connect params =>
    obtain ⟨room, user, admitted, _, rfl⟩ := connect_eq_some.mp taken
    refine .connect admitted (NestedMap.flat_put _ _ _ _) ?_
    simp [Gateway.profile, Connection.opened, Connection.key]
  | exit id =>
    obtain ⟨connection, found, running, rfl⟩ := exit_eq_some.mp taken
    have here := profile_of_found found
    rw [running] at here
    exact .exit here rfl (profile_setConnection _ _ _)
  | cleanup id =>
    obtain ⟨connection, found, exited, rfl⟩ := cleanup_eq_some.mp taken
    have here := profile_of_found found
    rw [exited] at here
    exact .cleanup here (entries_unregister g connection.key) (profile_setConnection _ _ _)
  | datagram data =>
    cases taken
    refine quiet (receive_registry _ _) ?_ (by simp) (by simp)
    rw [Gateway.profile, datagram, receive_connections, Gateway.profile]
  | frame id data =>
    obtain ⟨_, _, _, rfl⟩ := frame_eq_some.mp taken
    refine quiet (receive_registry _ _) ?_ (by simp) (by simp)
    rw [Gateway.profile, receive_connections, Gateway.profile]
  | recv id =>
    obtain ⟨connection, item, queue, found, _, _, rfl⟩ := recv_eq_some.mp taken
    exact quiet rfl (profile_setConnection_same found rfl rfl) (by simp) (by simp)
  | route packet =>
    obtain ⟨task, _, routed⟩ := routed taken
    have ⟨registry, profile⟩ := routed_quiet routed
    exact quiet registry profile (by simp) (by simp)
  | visit packet user =>
    obtain ⟨_, _, _, _, _, _, rfl⟩ := visit_eq_some taken
    exact quiet rfl rfl (by simp) (by simp)
  | retry id =>
    obtain ⟨task, _, retried⟩ := retried taken
    have ⟨registry, profile⟩ := retried_quiet retried
    exact quiet registry profile (by simp) (by simp)
  | disconnect id =>
    obtain ⟨task, found, failed, rfl⟩ := disconnect_eq_some.mp taken
    exact .disconnect found failed (entries_unregister g (task.room, task.user)) rfl
  | testEmpty call =>
    obtain ⟨registry, tested, rfl⟩ := testEmpty_eq_some.mp taken
    obtain ⟨room, _, rfl⟩ := Registry.testEmpty_eq_some.mp tested
    exact .quiet (by simp) (by simp) rfl rfl
  | removeIf call =>
    obtain ⟨_, registry, removed, rfl⟩ := removeIf_eq_some.mp taken
    obtain ⟨room, _, _, rfl⟩ := Registry.removeIf_eq_some.mp removed
    exact .quiet (by simp) (by simp) (NestedMap.flat_prune _ _) rfl
  | tick elapsed =>
    cases taken
    exact quiet rfl rfl (by simp) (by simp)

theorem profile_kept {event : Event} (taken : g.step event = some next)
    (connect : ∀ params, event ≠ .connect params) (exit : ∀ id, event ≠ .exit id)
    (cleanup : ∀ id, event ≠ .cleanup id) : next.profile = g.profile := by
  cases lifecycle taken with
  | connect => exact absurd rfl (connect _)
  | exit => exact absurd rfl (exit _)
  | cleanup => exact absurd rfl (cleanup _)
  | disconnect _ _ _ profile => exact profile
  | quiet _ _ _ profile => exact profile

theorem phases_connect {params : WsParams} (taken : g.step (.connect params) = some next) :
    next.profile.map Prod.snd = g.profile.map Prod.snd ++ [.running] := by
  obtain ⟨room, user, _, _, rfl⟩ := connect_eq_some.mp taken
  simp [Gateway.profile, Connection.opened]

theorem phases_exit {id : ConnectionId} (taken : g.step (.exit id) = some next) :
    next.profile.map Prod.snd = (g.profile.map Prod.snd).set id .exited := by
  obtain ⟨connection, _, _, rfl⟩ := exit_eq_some.mp taken
  rw [profile_setConnection, List.map_set]

theorem phases_cleanup {id : ConnectionId} (taken : g.step (.cleanup id) = some next) :
    next.profile.map Prod.snd = (g.profile.map Prod.snd).set id .closed := by
  obtain ⟨connection, _, _, rfl⟩ := cleanup_eq_some.mp taken
  exact (congrArg _ (profile_setConnection _ _ _)).trans List.map_set

end Steps

section Teardown

/-- An open connection that is not superseded has its own sender registered. -/
def OpenRegistered (g : Gateway) : Prop :=
  ∀ id key, g.Open id key → g.Current id key → g.entries key = some id

/-- A cleanup runs when the latest connection under its key is not open. -/
def CleanupSafe (g : Gateway) (event : Event) (_ : Gateway) : Prop :=
  ∀ id key latest, event = .cleanup id → g.keys[id]? = some key → g.Current latest key →
    ¬ g.Open latest key

variable {g next : Gateway}

theorem current_congr {id : ConnectionId} {key : Key} (same : next.keys = g.keys) :
    next.Current id key ↔ g.Current id key := by
  rw [Current, same, Current]

theorem keys_set {id : ConnectionId} {key : Key} {phase phase' : ConnectionPhase}
    (found : g.profile[id]? = some (key, phase))
    (profile : next.profile = g.profile.set id (key, phase')) : next.keys = g.keys := by
  rw [keys_eq, profile, List.map_set, keys_eq]
  exact set_found (by rw [List.getElem?_map, found]; rfl)

theorem keys_of_connect {opened : Key} {phase : ConnectionPhase}
    (profile : next.profile = g.profile ++ [(opened, phase)]) : next.keys = g.keys ++ [opened] := by
  rw [keys_eq, profile, List.map_append, ← keys_eq]
  rfl

theorem keys_of_profile (profile : next.profile = g.profile) : next.keys = g.keys := by
  rw [keys_eq, profile, ← keys_eq]

theorem keys_step {event : Event} (taken : g.step event = some next) : g.keys <+: next.keys := by
  cases lifecycle taken with
  | connect _ _ profile => exact ⟨_, (keys_of_connect profile).symm⟩
  | exit found _ profile => exact keys_set found profile ▸ List.prefix_rfl
  | cleanup found _ profile => exact keys_set found profile ▸ List.prefix_rfl
  | disconnect _ _ _ profile => exact keys_of_profile profile ▸ List.prefix_rfl
  | quiet _ _ _ profile => exact keys_of_profile profile ▸ List.prefix_rfl

theorem open_set {id other : ConnectionId} {key key' : Key} {phase phase' : ConnectionPhase}
    (found : g.profile[id]? = some (key, phase))
    (profile : next.profile = g.profile.set id (key, phase')) (left : phase' ≠ .running) :
    next.Open other key' ↔ id ≠ other ∧ g.Open other key' := by
  rw [Open, Open, profile, getElem?_set_eq_some found]
  constructor
  · rintro (⟨_, same⟩ | kept)
    · exact absurd (congrArg Prod.snd same).symm left
    · exact kept
  · exact Or.inr

/-- A connect supersedes the earlier connections under its key and no others. -/
theorem current_connect {id : ConnectionId} {key opened : Key}
    (keys : next.keys = g.keys ++ [opened]) :
    next.Current id key ↔
      g.Current id key ∧ key ≠ opened ∨ id = g.connections.length ∧ key = opened := by
  simp only [Current, keys, ne_eq, getElem?_concat_eq_some, length_keys, not_or]
  constructor
  · rintro ⟨found | ⟨rfl, rfl⟩, latest⟩
    · left
      have bound : id < g.connections.length := by simpa using lt_length_of_found found
      exact ⟨⟨found, fun later after => (latest later after).1⟩,
        fun same => (latest _ bound).2 ⟨rfl, same⟩⟩
    · exact Or.inr ⟨rfl, rfl⟩
  · rintro (⟨⟨found, latest⟩, different⟩ | ⟨rfl, rfl⟩)
    · exact ⟨Or.inl found, fun later after => ⟨latest later after, fun same => different same.2⟩⟩
    · refine ⟨Or.inr ⟨rfl, rfl⟩, fun later after => ⟨fun found => ?_, fun same => ?_⟩⟩
      · have bound : later < g.connections.length := by simpa using lt_length_of_found found
        exact Nat.lt_asymm after bound
      · exact Nat.ne_of_gt after same.1

theorem openRegistered_connect {opened : Key} (registered : OpenRegistered g)
    (entries : next.entries = Function.update g.entries opened (some g.connections.length))
    (profile : next.profile = g.profile ++ [(opened, .running)]) : OpenRegistered next := by
  have keys := keys_of_connect profile
  intro id key running current
  rcases (current_connect keys).mp current with ⟨before, different⟩ | ⟨rfl, rfl⟩
  · have bound : id < g.profile.length := by
      simpa using lt_length_of_found before.1
    rw [Open, profile, List.getElem?_append_left bound] at running
    rw [entries, Function.update_of_ne different]
    exact registered id key running before
  · rw [entries, Function.update_self]

/-- A cleanup takes away the entry of its key, whoever it belongs to. -/
theorem openRegistered_cleanup {id : ConnectionId} {closed : Key} (registered : OpenRegistered g)
    (found : g.profile[id]? = some (closed, .exited))
    (entries : next.entries = Function.update g.entries closed none)
    (profile : next.profile = g.profile.set id (closed, .closed)) :
    OpenRegistered next ↔ ∀ latest, g.Current latest closed → ¬ g.Open latest closed := by
  have keys := keys_set found profile
  have opened {other : ConnectionId} {key : Key} : next.Open other key ↔ g.Open other key := by
    rw [open_set found profile (by decide)]
    refine and_iff_right_of_imp fun running => ?_
    rintro rfl
    rw [Open, found] at running
    cases running
  -- The entry of the key is gone, so nobody who is still open may rely on it.
  constructor
  · intro kept latest current running
    have entry := kept latest closed (opened.mpr running) ((current_congr keys).mpr current)
    rw [entries, Function.update_self] at entry
    cases entry
  · intro safe other key running current
    have here := (current_congr keys).mp current
    have before := opened.mp running
    have different : key ≠ closed := by
      rintro rfl
      exact safe other here before
    rw [entries, Function.update_of_ne different]
    exact registered other key before here

theorem openRegistered_step {event : Event} (steady : ∀ id, event ≠ .disconnect id)
    (registered : OpenRegistered g) (taken : g.step event = some next) :
    OpenRegistered next ↔ CleanupSafe g event next := by
  cases lifecycle taken with
  | connect admitted entries profile =>
    exact iff_of_true (openRegistered_connect registered entries profile) (by simp [CleanupSafe])
  | @exit id closed found entries profile =>
    have keys := keys_set found profile
    refine iff_of_true ?_ (by simp [CleanupSafe])
    intro other key running current
    rw [entries]
    have ⟨_, before⟩ := (open_set found profile (by decide)).mp running
    exact registered other key before ((current_congr keys).mp current)
  | @cleanup id closed found entries profile =>
    rw [openRegistered_cleanup registered found entries profile]
    have key : g.keys[id]? = some closed := by rw [keys_eq, List.getElem?_map, found]; rfl
    constructor
    · rintro safe _ other latest ⟨rfl⟩ under current
      rw [key] at under
      cases under
      exact safe latest current
    · intro safe latest current
      exact safe id closed latest rfl key current
  | disconnect => exact absurd rfl (steady _)
  | quiet other _ entries profile =>
    have keys := keys_of_profile profile
    refine iff_of_true ?_ (by rintro id key latest rfl; exact absurd rfl (other id))
    intro id key running current
    rw [entries]
    exact registered id key (by rwa [Open, profile] at running) ((current_congr keys).mp current)

theorem openRegistered_new : OpenRegistered new := by
  intro id key running
  cases running

/-- Without forced disconnects, open connections stay registered exactly when no
cleanup runs while the latest connection under its key is open. -/
theorem open_registered_iff (events : List Event) (steady : ∀ id, .disconnect id ∉ events) :
    EveryState step OpenRegistered new events ↔ EveryStep step CleanupSafe new events := by
  refine everyState_iff_everyStep (I := fun _ => True) (fun _ _ _ _ _ => trivial) ?_ trivial
    openRegistered_new
  intro g event next member _ registered taken
  refine openRegistered_step ?_ registered taken
  rintro id rfl
  exact steady id member

instance (g : Gateway) (id : ConnectionId) (key : Key) : Decidable (g.Open id key) :=
  inferInstanceAs (Decidable (_ = _))

instance (g : Gateway) (id : ConnectionId) (key : Key) : Decidable (g.Current id key) :=
  decidable_of_iff (g.keys[id]? = some key ∧
      ∀ later < g.keys.length, id < later → g.keys[later]? ≠ some key) <|
    and_congr_right fun _ => ⟨fun latest later after found => latest later (lt_length_of_found found) after found,
      fun latest later _ => latest later⟩

instance (g : Gateway) (event : Event) (next : Gateway) : Decidable (CleanupSafe g event next) :=
  match event with
  | .cleanup id =>
    decidable_of_iff (∀ key ∈ g.keys[id]?, ∀ latest < g.keys.length, g.Current latest key →
        ¬ g.Open latest key)
      ⟨fun safe _ key latest same under current => by
          cases same
          exact safe key under latest (lt_length_of_found current.1) current,
        fun safe key under latest _ current => safe id key latest rfl under current⟩
  | .connect _ | .exit _ | .datagram _ | .frame _ _ | .recv _ | .route _ | .visit _ _ | .retry _
  | .disconnect _ | .testEmpty _ | .removeIf _ | .tick _ => isTrue fun _ _ _ same => nomatch same

/-- The kicked connection is cleaned up once its successor is out of its loop too, and
the user comes back. -/
def kickedAndBack : List Event :=
  [.connect ⟨"r1", "ann"⟩, .connect ⟨"r1", "ann"⟩, .exit 0, .exit 1, .cleanup 0, .cleanup 1,
    .testEmpty 0, .testEmpty 1, .connect ⟨"r1", "ann"⟩, .removeIf 0, .removeIf 1]

theorem open_registered_iff_kicked : EveryState step OpenRegistered new kickedAndBack ∧
    (run step new kickedAndBack).any (fun g => g.entries ("r1", "ann") = some 2) = true :=
  ⟨(open_registered_iff kickedAndBack (by simp [kickedAndBack])).mpr (by decide +kernel),
    by decide +kernel⟩

/-- The kicked connection's cleanup takes out its successor. -/
theorem kicked_cleanup_removes_successor :
    ∃ g, run step new [.connect ⟨"r1", "ann"⟩, .connect ⟨"r1", "ann"⟩, .exit 0, .cleanup 0] = some g ∧
      ¬ OpenRegistered g := by
  refine ⟨_, rfl, fun registered => ?_⟩
  -- Connection 1 is the last one opened, so it is current; only its entry is missing.
  have entry := registered 1 ("r1", "ann") rfl ⟨rfl, fun later after found =>
    absurd (lt_length_of_found found) (Nat.not_lt_of_le after)⟩
  revert entry
  decide +kernel

end Teardown

end WsGateway.Gateway
