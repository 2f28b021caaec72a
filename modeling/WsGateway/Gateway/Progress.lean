import Mathlib.Algebra.Order.BigOperators.Group.List
import WsGateway.Gateway.Effects

/-! The gateway's own work comes to an end.

Work is what route tasks, retries and unregister calls still have to do. Each of
their steps costs some of it and only arrivals, connects and exits bring more, so
the rest of the work is finite whatever the order of the steps; and while some is
left, one of its steps can be taken.
-/

set_option autoImplicit false

namespace WsGateway
open Foundation Protocol Routing

section Work

def pauses (elapsed : Nat) : Nat := (millis 50 - elapsed + (millis 5 - 1)) / millis 5

theorem pauses_anti {early late : Nat} (order : early ≤ late) : pauses late ≤ pauses early :=
  Nat.div_le_div_right (by omega)

theorem pauses_pause {elapsed : Nat} (left : elapsed < millis 50) :
    pauses (elapsed + millis 5) + 1 ≤ pauses elapsed := by
  simp only [pauses, millis] at *
  omega

/-- A failed retry has its disconnect ahead, with the unregister call that it starts. -/
def RetryPhase.work (now : Nat) : RetryPhase → Nat
  | .spawned => 3 * pauses 0 + 6
  | .trying start => 3 * pauses (now - start) + 5
  | .full start => 3 * pauses (now - start) + 4
  | .sleeping start wake => 3 * pauses (wake - start) + 6
  | .failed => 3
  | .delivered | .disconnected => 0

/-- A dispatch may start a retry, whose work is 36. -/
def RoutePhase.work (users : Nat) : RoutePhase → Nat
  | .start => 38 * users + 40
  | .snapshot unvisited targets => 38 * unvisited.length + 37 * targets.length + 2
  | .lookup => 39
  | .dispatching targets => 37 * targets.length + 1
  | .done => 0

theorem RoutePhase.work_eq_zero {phase : RoutePhase} {users : Nat} :
    phase.work users = 0 ↔ phase = .done := by
  cases phase <;> simp [RoutePhase.work]

theorem RetryPhase.work_eq_zero {phase : RetryPhase} {now : Nat} :
    phase.work now = 0 ↔ phase = .delivered ∨ phase = .disconnected := by
  cases phase <;> simp [RetryPhase.work]

end Work

namespace Routing

def UnregisterPhase.work : UnregisterPhase → Nat
  | .testing => 2
  | .cleanup => 1
  | .done => 0

theorem UnregisterPhase.work_eq_zero {phase : UnregisterPhase} :
    phase.work = 0 ↔ phase = .done := by
  cases phase <;> simp [UnregisterPhase.work]

end Routing

namespace Gateway

def Event.Internal : Event → Prop
  | .route _ | .visit _ _ | .retry _ | .disconnect _ | .testEmpty _ | .removeIf _ | .tick _ => True
  | .connect _ | .exit _ | .cleanup _ | .datagram _ | .frame _ _ | .recv _ => False

instance (event : Event) : Decidable event.Internal :=
  match event with
  | .route _ | .visit _ _ | .retry _ | .disconnect _ | .testEmpty _ | .removeIf _ | .tick _ =>
    isTrue trivial
  | .connect _ | .exit _ | .cleanup _ | .datagram _ | .frame _ _ | .recv _ => isFalse id

/-- The clock costs no work. -/
def Event.effort : Event → Nat
  | .tick _ => 0
  | _ => 1

def users (g : Gateway) (room : RoomID) : Nat := (g.registry.rooms.inner room).keys.length

def routeWork (g : Gateway) : Nat :=
  (g.routes.map fun task => task.phase.work (g.users task.header.roomIdStr)).sum

def retryWork (g : Gateway) : Nat := (g.retries.map fun task => task.phase.work g.now).sum

def unregisterWork (g : Gateway) : Nat :=
  (g.registry.unregisters.map fun call => call.phase.work).sum

def pending (g : Gateway) : Nat := g.routeWork + g.retryWork + g.unregisterWork

def Quiet (g : Gateway) : Prop :=
  (∀ task ∈ g.routes, task.phase = .done) ∧
    (∀ task ∈ g.retries, task.phase = .delivered ∨ task.phase = .disconnected) ∧
      ∀ call ∈ g.registry.unregisters, call.phase = .done

section Clocks

variable {g next : Gateway}

def Begun (now : Nat) : RetryPhase → Prop
  | .trying start | .full start | .sleeping start _ => start ≤ now
  | .spawned | .failed | .delivered | .disconnected => True

def Timed (g : Gateway) : Prop := ∀ task ∈ g.retries, Begun g.now task.phase

theorem timed_new : Timed new := by
  rintro task ⟨⟩

theorem Begun.mono {phase : RetryPhase} {now later : Nat} (begun : Begun now phase)
    (order : now ≤ later) : Begun later phase := by
  cases phase with
  | trying start => exact Nat.le_trans begun order
  | full start => exact Nat.le_trans begun order
  | sleeping start wake => exact Nat.le_trans begun order
  | spawned => trivial
  | failed => trivial
  | delivered => trivial
  | disconnected => trivial

theorem Begun.moves {phase phase' : RetryPhase} (begun : Begun g.now phase)
    (moves : Moves g phase phase') : Begun g.now phase' := by
  cases moves with
  | started => exact Nat.le_refl _
  | refused => exact begun
  | paused => exact begun
  | woken => exact begun
  | delivered => trivial
  | expired => trivial
  | disconnected => trivial

theorem timed_step : Invariant step Timed := by
  intro g event next timed taken task member
  cases retriesStep taken with
  | kept _ retries now => exact (timed task (retries ▸ member)).mono (now ▸ Nat.le_add_right _ _)
  | spawned _ _ _ _ _ retries =>
    rw [retries] at member
    rcases List.mem_append.mp member with before | new
    · exact (timed task before).mono (Nat.le_of_eq (Eq.symm ‹_›))
    · rw [List.mem_singleton.mp new]
      trivial
  | @moved id old phase _ _ found moves retries now =>
    rw [retries] at member
    rw [now]
    rcases mem_modify member with before | ⟨old', before, rfl⟩
    · exact timed task before
    · rw [found] at before
      cases before
      exact (timed old (List.mem_of_getElem? found)).moves moves

end Clocks

section Costs

variable {g next : Gateway}

theorem work_moves {phase phase' : RetryPhase} (begun : Begun g.now phase)
    (moves : Moves g phase phase') : phase'.work g.now + 1 ≤ phase.work g.now := by
  cases moves with
  | started => simp only [RetryPhase.work, Nat.sub_self]; omega
  | delivered => simp only [RetryPhase.work]; omega
  | refused => simp only [RetryPhase.work]; omega
  | expired late => simp only [RetryPhase.work]; omega
  | @paused start early =>
    have shorter := pauses_pause early
    have same : g.now + millis 5 - start = g.now - start + millis 5 :=
      Nat.sub_add_comm begun
    simp only [RetryPhase.work, same]
    omega
  | @woken start wake due =>
    have later := pauses_anti (Nat.sub_le_sub_right due start)
    simp only [RetryPhase.work]
    omega
  | disconnected => simp only [RetryPhase.work]; omega

theorem work_later {phase : RetryPhase} {now later : Nat} (order : now ≤ later) :
    phase.work later ≤ phase.work now := by
  have anti (start : Nat) := pauses_anti (Nat.sub_le_sub_right order start)
  cases phase with
  | trying start => have less := anti start; simp only [RetryPhase.work]; omega
  | full start => have less := anti start; simp only [RetryPhase.work]; omega
  | spawned => exact Nat.le_refl _
  | sleeping => exact Nat.le_refl _
  | failed => exact Nat.le_refl _
  | delivered => exact Nat.le_refl _
  | disconnected => exact Nat.le_refl _

theorem retryWork_moved {id : Nat} {task : RetryTask} {phase : RetryPhase}
    (found : g.retries[id]? = some task)
    (retries : next.retries = g.retries.modify id (fun retry => { retry with phase }))
    (now : next.now = g.now) : next.retryWork + task.phase.work g.now =
      g.retryWork + phase.work g.now := by
  have sum := sum_modify (fun task => task.phase.work g.now)
    (fun retry : RetryTask => { retry with phase }) found
  rw [retryWork, retries, now]
  exact sum

theorem routeWork_setRoute {packet : PacketId} {task : RouteTask} (phase : RoutePhase)
    (found : g.routes[packet]? = some task) :
    (g.setRoute packet phase).routeWork + task.phase.work (g.users task.header.roomIdStr) =
      g.routeWork + phase.work (g.users task.header.roomIdStr) :=
  sum_modify (fun task => task.phase.work (g.users task.header.roomIdStr))
    (fun task => { task with phase }) found

theorem routeWork_le (routes : next.routes = g.routes)
    (users : ∀ room, next.users room ≤ g.users room) : next.routeWork ≤ g.routeWork := by
  rw [routeWork, routes]
  refine List.sum_le_sum fun task _ => ?_
  cases task.phase with
  | start => exact Nat.add_le_add_right (Nat.mul_le_mul_left _ (users _)) _
  | snapshot => exact Nat.le_refl _
  | lookup => exact Nat.le_refl _
  | dispatching => exact Nat.le_refl _
  | done => exact Nat.le_refl _

theorem users_remove (g : Gateway) (room : RoomID) (user : UserID) (other : RoomID) :
    ((g.registry.rooms.remove room user).inner other).keys.length ≤ g.users other := by
  rw [NestedMap.inner_remove, Function.update_apply, users]
  split
  next same =>
    subst same
    rw [AList.keys_erase]
    exact List.length_erase_le
  next => exact Nat.le_refl _

theorem unregisterWork_le (g : Gateway) (room : RoomID) (user : UserID) :
    ((g.registry.unregister room user).unregisters.map fun call => call.phase.work).sum ≤
      g.unregisterWork + 2 := by
  unfold Registry.unregister
  split
  · rw [List.map_append, List.sum_append]
    exact Nat.le_refl _
  · exact Nat.le_add_right _ _

theorem work_resolve (g : Gateway) (header : PacketHeader) :
    (g.resolve header).work (g.users header.roomIdStr) + 1 ≤
      RoutePhase.start.work (g.users header.roomIdStr) := by
  unfold resolve
  split
  next => simp only [RoutePhase.work]; omega
  next room found =>
    have inner : g.users header.roomIdStr = room.keys.length := by
      rw [users, NestedMap.inner, found]
      rfl
    split
    · simp only [RoutePhase.work, inner, List.length_nil]; omega
    · simp only [RoutePhase.work]; omega

/-- A dispatch leaves the other tasks alone and may start a retry. -/
theorem pending_dispatched {packet : PacketId} {task : RouteTask} {target : Target}
    (dispatched : Dispatched g packet task target next) :
    next.routeWork = g.routeWork ∧ next.retryWork ≤ g.retryWork + 36 ∧
      next.unregisterWork = g.unregisterWork := by
  cases dispatched with
  | sent => exact ⟨rfl, Nat.le_add_right _ _, rfl⟩
  | forced => exact ⟨rfl, Nat.le_add_right _ _, rfl⟩
  | dropped => exact ⟨rfl, Nat.le_add_right _ _, rfl⟩
  | refused =>
    refine ⟨rfl, ?_, rfl⟩
    simp only [retryWork, List.map_append, List.sum_append, List.map_singleton, List.sum_singleton]
    exact Nat.le_refl _

theorem pending_routed {packet : PacketId} {task : RouteTask} (found : g.routes[packet]? = some task)
    (routed : Routed g packet task next) : next.pending + 1 ≤ g.pending := by
  have moved (phase : RoutePhase)
      (less : phase.work (g.users task.header.roomIdStr) + 1 ≤
        task.phase.work (g.users task.header.roomIdStr)) :
      (g.setRoute packet phase).pending + 1 ≤ g.pending := by
    have sum := routeWork_setRoute phase found
    change (g.setRoute packet phase).routeWork + g.retryWork + g.unregisterWork + 1 ≤
      g.routeWork + g.retryWork + g.unregisterWork
    omega
  cases routed with
  | resolved phase => exact moved _ (by rw [phase]; exact work_resolve g task.header)
  | collected phase => exact moved _ (by rw [phase]; simp only [RoutePhase.work, List.length_nil]; omega)
  | found phase => exact moved _ (by rw [phase]; simp [RoutePhase.work])
  | missing phase => exact moved _ (by rw [phase]; simp [RoutePhase.work])
  | returned phase => exact moved _ (by rw [phase]; simp [RoutePhase.work])
  | @dispatched target targets middle phase dispatched =>
    have ⟨routes, retries, unregisters⟩ := pending_dispatched dispatched
    have kept : middle.routes[packet]? = some task := routes_dispatched dispatched ▸ found
    have sum := routeWork_setRoute (.dispatching targets) kept
    rw [phase] at sum
    simp only [RoutePhase.work, List.length_cons] at sum
    change (middle.setRoute packet (.dispatching targets)).routeWork + middle.retryWork +
      middle.unregisterWork + 1 ≤ g.routeWork + g.retryWork + g.unregisterWork
    omega

theorem pending_visited {packet : PacketId} {user : UserID} (taken : g.visit packet user = some next) :
    next.pending + 1 ≤ g.pending := by
  obtain ⟨task, unvisited, targets, found, phase, waiting, rfl⟩ := visit_eq_some taken
  have sum := routeWork_setRoute (.snapshot (unvisited.filter (· ≠ user)) (targets ++
    (g.registry.rooms.find task.header.roomIdStr user).toList.map fun tx => (user, tx))) found
  have fewer : (unvisited.filter (· ≠ user)).length + 1 ≤ unvisited.length := by
    refine Nat.lt_of_le_of_ne (List.length_filter_le _ _) fun same => ?_
    have all := List.length_filter_eq_length_iff.mp same user waiting
    simp at all
  have one : ((g.registry.rooms.find task.header.roomIdStr user).toList.map
      fun tx => (user, tx)).length ≤ 1 := by
    cases g.registry.rooms.find task.header.roomIdStr user <;> simp
  rw [phase] at sum
  simp only [RoutePhase.work, List.length_append] at sum
  simp only [pending]
  change _ + g.retryWork + g.unregisterWork + 1 ≤ _
  omega

/-- An unregister call that goes on costs work, and it only takes users out. -/
theorem pending_called {call : Nat} {unregister unregister' : Unregister}
    {rooms : NestedMap RoomID UserID ConnectionId}
    (found : g.registry.unregisters[call]? = some unregister)
    (less : unregister'.phase.work + 1 ≤ unregister.phase.work)
    (inner : rooms.inner = g.registry.rooms.inner) :
    pending { g with registry := ⟨rooms, g.registry.unregisters.set call unregister'⟩ } + 1 ≤
      g.pending := by
  have calls := sum_set (fun call => call.phase.work) unregister' found
  have routes : routeWork { g with
      registry := ⟨rooms, g.registry.unregisters.set call unregister'⟩ } ≤ g.routeWork := by
    refine routeWork_le rfl fun room => Nat.le_of_eq ?_
    rw [users, users, inner]
  have unregisters : unregisterWork { g with
      registry := ⟨rooms, g.registry.unregisters.set call unregister'⟩ } + 1 ≤ g.unregisterWork := by
    simp only [unregisterWork]
    omega
  change _ + g.retryWork + _ + 1 ≤ g.routeWork + g.retryWork + g.unregisterWork
  omega

theorem pending_step {event : Event} (timed : Timed g) (internal : event.Internal)
    (taken : g.step event = some next) : next.pending + event.effort ≤ g.pending := by
  cases event with
  | route packet =>
    obtain ⟨task, found, routed⟩ := routed taken
    exact pending_routed found routed
  | visit packet user => exact pending_visited taken
  | retry id =>
    obtain ⟨task, found, retried⟩ := retried taken
    obtain ⟨phase, moves, retries, now⟩ := moves_retried retried
    have less := work_moves (timed task (List.mem_of_getElem? found)) moves
    have sum := retryWork_moved found retries now
    have routes : next.routeWork = g.routeWork := by cases retried <;> rfl
    have unregisters : next.unregisterWork = g.unregisterWork := by cases retried <;> rfl
    simp only [pending, Event.effort]
    omega
  | disconnect id =>
    obtain ⟨task, found, failed, same⟩ := disconnect_eq_some.mp taken
    have sum : next.retryWork + task.phase.work g.now = g.retryWork + RetryPhase.disconnected.work g.now :=
      retryWork_moved found (congrArg retries same).symm (congrArg Gateway.now same).symm
    have unregisters : next.unregisterWork ≤ g.unregisterWork + 2 := by
      rw [← same]
      exact unregisterWork_le g task.room task.user
    have routes : next.routeWork ≤ g.routeWork := by
      refine routeWork_le (by rw [← same]; rfl) fun room => ?_
      rw [← same, users, Registry.unregister_eq]
      exact users_remove g task.room task.user room
    rw [failed] at sum
    simp only [RetryPhase.work] at sum
    simp only [pending, Event.effort]
    omega
  | testEmpty call =>
    obtain ⟨registry, tested, rfl⟩ := testEmpty_eq_some.mp taken
    obtain ⟨room, found, rfl⟩ := Registry.testEmpty_eq_some.mp tested
    refine pending_called found ?_ rfl
    dsimp only
    split <;> decide
  | removeIf call =>
    obtain ⟨_, registry, pruned, rfl⟩ := removeIf_eq_some.mp taken
    obtain ⟨room, found, _, rfl⟩ := Registry.removeIf_eq_some.mp pruned
    exact pending_called found (Nat.le_refl _) (NestedMap.inner_prune _ _)
  | tick elapsed =>
    cases taken
    have retries : retryWork { g with now := g.now + elapsed } ≤ g.retryWork :=
      List.sum_le_sum fun task _ => work_later (Nat.le_add_right _ _)
    exact Nat.add_le_add_right (Nat.add_le_add_left retries _) _
  | connect => exact internal.elim
  | exit => exact internal.elim
  | cleanup => exact internal.elim
  | datagram => exact internal.elim
  | frame => exact internal.elim
  | recv => exact internal.elim

end Costs

section Rest

variable {g next : Gateway}

theorem quiet_iff : g.Quiet ↔ g.pending = 0 := by
  simp only [Quiet, pending, routeWork, retryWork, unregisterWork, Nat.add_eq_zero_iff,
    List.sum_eq_zero_iff, List.forall_mem_map, RoutePhase.work_eq_zero, RetryPhase.work_eq_zero,
    Routing.UnregisterPhase.work_eq_zero, and_assoc]

/-- Once some time has passed, a step of the gateway's own is enabled. -/
def Works (g : Gateway) : Prop :=
  ∃ elapsed event next, event.Internal ∧ event.effort = 1 ∧
    run step g [.tick elapsed, event] = some next

theorem works_at_once (event : Event) (internal : event.Internal) (effort : event.effort = 1)
    (enabled : (g.step event).isSome) : g.Works := by
  obtain ⟨next, taken⟩ := Option.isSome_iff_exists.mp enabled
  exact ⟨0, event, next, internal, effort, run_cons.mpr ⟨g, rfl, run_cons.mpr ⟨next, taken, rfl⟩⟩⟩

theorem connection_of_key {id : ConnectionId} {key : Key} (under : g.keys[id]? = some key) :
    ∃ connection, g.connections[id]? = some connection := by
  rw [keys, List.getElem?_map] at under
  obtain ⟨connection, here, _⟩ := Option.map_eq_some_iff.mp under
  exact ⟨connection, here⟩

theorem works_route (sound : Sound g) {packet : PacketId} {task : RouteTask}
    (found : g.routes[packet]? = some task) (left : task.phase ≠ .done) : g.Works := by
  have moves (enabled : (g.route packet).isSome) : g.Works :=
    works_at_once (.route packet) trivial rfl enabled
  cases phase : task.phase with
  | start => exact moves (by simp [route, found, phase])
  | snapshot unvisited targets =>
    cases unvisited with
    | nil => exact moves (by simp [route, found, phase])
    | cons user rest =>
      exact works_at_once (.visit packet user) trivial rfl
        (by simp [step, visit, found, phase])
  | lookup =>
    cases user : g.registry.rooms.find task.header.roomIdStr task.header.userIdStr with
    | none => exact moves (by simp [route, found, phase, user])
    | some tx => exact moves (by simp [route, found, phase, user])
  | dispatching targets =>
    cases targets with
    | nil => exact moves (by simp [route, found, phase])
    | cons target targets =>
      have fits := sound.tasks task (List.mem_of_getElem? found)
      rw [phase] at fits
      obtain ⟨connection, here⟩ := connection_of_key (fits target List.mem_cons_self).1
      exact moves (by simp [route, found, phase, dispatch, here])
  | done => exact absurd phase left

theorem works_retry (sound : Sound g) {id : Nat} {task : RetryTask}
    (found : g.retries[id]? = some task)
    (left : ¬ (task.phase = .delivered ∨ task.phase = .disconnected)) : g.Works := by
  have moves (enabled : (g.retry id).isSome) : g.Works :=
    works_at_once (.retry id) trivial rfl enabled
  cases phase : task.phase with
  | spawned => exact moves (by simp [retry, found, phase])
  | trying start =>
    have ⟨under, _⟩ := sound.retries task (List.mem_of_getElem? found)
    obtain ⟨connection, here⟩ := connection_of_key under
    exact moves (by simp [retry, found, phase, here])
  | full start =>
    by_cases late : millis 50 ≤ g.now - start
    · exact moves (by simp [retry, found, phase, late])
    · exact moves (by simp [retry, found, phase, late])
  | sleeping start wake =>
    -- The sleep is over once the clock has come to its end.
    have due : wake ≤ g.now + (wake - g.now) := by omega
    refine ⟨wake - g.now, .retry id, setRetry { g with now := g.now + (wake - g.now) } id (.trying start),
      trivial, rfl, run_cons.mpr ⟨_, rfl, run_cons.mpr ⟨_, ?_, rfl⟩⟩⟩
    simp [step, retry, found, phase, due]
  | failed =>
    exact works_at_once (.disconnect id) trivial rfl
      (by simp [step, disconnect, found, phase])
  | delivered => exact absurd (Or.inl phase) left
  | disconnected => exact absurd (Or.inr phase) left

/-- What is not quiet can go on: a cleanup waits for the shared locks of route
tasks and emptiness tests only, and these can go on themselves. -/
theorem works_of_not_quiet (sound : Sound g) (noisy : ¬ g.Quiet) : g.Works := by
  by_cases routes : ∀ task ∈ g.routes, task.phase = .done
  · by_cases retries : ∀ task ∈ g.retries, task.phase = .delivered ∨ task.phase = .disconnected
    · by_cases testing : ∃ call ∈ g.registry.unregisters, call.phase = .testing
      · obtain ⟨unregister, member, phase⟩ := testing
        obtain ⟨call, found⟩ := List.mem_iff_getElem?.mp member
        exact works_at_once (.testEmpty call) trivial rfl
          (by simp [step, testEmpty, Registry.testEmpty, found, phase])
      · obtain ⟨unregister, member, left⟩ : ∃ call ∈ g.registry.unregisters, call.phase ≠ .done := by
          by_contra settled
          push Not at settled
          exact noisy ⟨routes, retries, settled⟩
        obtain ⟨call, found⟩ := List.mem_iff_getElem?.mp member
        have phase : unregister.phase = .cleanup := by
          cases phase : unregister.phase with
          | testing => exact absurd ⟨unregister, member, phase⟩ testing
          | cleanup => rfl
          | done => exact absurd phase left
        have unlocked : g.registry.Unlocked unregister.room :=
          fun call inside _ holds => testing ⟨call, inside, holds⟩
        have release : ∀ unregister ∈ g.registry.unregisters[call]?, g.RoutesRelease unregister.room := by
          intro _ _ task inside _
          rw [routes task inside]
          rfl
        refine works_at_once (.removeIf call) trivial rfl ?_
        rw [step, removeIf, if_pos release, Registry.removeIf, found, Option.bind_some,
          if_pos ⟨phase, unlocked⟩]
        rfl
    · push Not at retries
      obtain ⟨task, member, left⟩ := retries
      obtain ⟨id, found⟩ := List.mem_iff_getElem?.mp member
      exact works_retry sound found (not_or.mpr left)
  · push Not at routes
    obtain ⟨task, member, left⟩ := routes
    obtain ⟨packet, found⟩ := List.mem_iff_getElem?.mp member
    exact works_route sound found left

theorem connect_of_quiet (quiet : g.Quiet) {params : WsParams} {room : RoomID} {user : UserID}
    (admitted : wsHandler params = .ok (room, user)) : ∃ next, g.step (.connect params) = some next := by
  refine ⟨_, connect_eq_some.mpr ⟨room, user, admitted, ⟨?_, ?_⟩, rfl⟩⟩
  · intro call member _ holds
    rw [quiet.2.2 call member] at holds
    cases holds
  · intro task member _
    rw [quiet.1 task member]
    rfl

theorem sound_timed_step : Invariant step fun g => Sound g ∧ Timed g := by
  rintro g event next ⟨sound, timed⟩ taken
  exact ⟨sound_step g event next sound taken, timed_step g event next timed taken⟩

/-- Without arrivals the gateway does a bounded amount of work, is never stuck
before the end of it, and then admits every connection. -/
theorem work_finishes (events : List Event) (g : Gateway) (ran : run step new events = some g) :
    (∀ work final, (∀ event ∈ work, event.Internal) → run step g work = some final →
      final.pending + (work.map Event.effort).sum ≤ g.pending ∧ (final.Quiet ∨ final.Works)) ∧
    ∃ work final, (∀ event ∈ work, event.Internal) ∧ run step g work = some final ∧ final.Quiet ∧
      ∀ params room user, wsHandler params = .ok (room, user) →
        ∃ next, final.step (.connect params) = some next := by
  have now := sound_timed_step.run ⟨sound_new, timed_new⟩ ran
  have pays (g : Gateway) (event : Event) (next : Gateway) (holds : Sound g ∧ Timed g)
      (internal : event.Internal) (taken : g.step event = some next) :
      next.pending + event.effort ≤ g.pending := pending_step holds.2 internal taken
  constructor
  · intro work final internal onward
    refine ⟨run_rank sound_timed_step pays now internal onward, ?_⟩
    have sound := (sound_timed_step.run now onward).1
    by_cases quiet : final.Quiet
    · exact Or.inl quiet
    · exact Or.inr (works_of_not_quiet sound quiet)
  · have lowers (g : Gateway) (holds : Sound g ∧ Timed g) (some : g.pending ≠ 0) :
        ∃ work next, (∀ event ∈ work, event.Internal) ∧ run step g work = .some next ∧
          next.pending < g.pending := by
      obtain ⟨elapsed, event, next, internal, effort, taken⟩ :=
        works_of_not_quiet holds.1 fun quiet => some (quiet_iff.mp quiet)
      have internals : ∀ event' ∈ [.tick elapsed, event], event'.Internal := by
        intro event' member
        rcases List.mem_pair.mp member with rfl | rfl
        · trivial
        · exact internal
      have less := run_rank sound_timed_step pays holds internals taken
      refine ⟨_, next, internals, taken, ?_⟩
      simp only [List.map_cons, List.map_nil, List.sum_cons, List.sum_nil, effort] at less
      omega
    obtain ⟨work, final, internal, onward, zero⟩ :=
      exists_run_of_rank sound_timed_step lowers now
    have quiet : final.Quiet := quiet_iff.mpr zero
    exact ⟨work, final, internal, onward, quiet,
      fun params room user admitted => connect_of_quiet quiet admitted⟩

theorem work_finishes_unicast :
    ∃ g final, run step new [.connect ⟨"r1", "ann"⟩, .frame 0 systemCmd] = some g ∧
      run step g (List.replicate 4 (.route 0)) = some final ∧ final.pending + 4 ≤ g.pending := by
  have runs : (run step new [.connect ⟨"r1", "ann"⟩, .frame 0 systemCmd]).any (fun g =>
      (run step g (List.replicate 4 (.route 0))).isSome) = true := by decide +kernel
  obtain ⟨g, ran, runs⟩ := (Option.any_eq_true _ _).mp runs
  obtain ⟨final, onward⟩ := Option.isSome_iff_exists.mp runs
  refine ⟨g, final, ran, onward, ?_⟩
  exact ((work_finishes _ g ran).1 _ final (by simp [Event.Internal]) onward).1

end Rest

end Gateway

end WsGateway
