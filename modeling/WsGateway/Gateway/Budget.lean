import WsGateway.Gateway.Effects

/-! The budget of a retry: how often `send_timeout` tries and when it gives up.

The budget is read after a refusal and a sleep may overrun it, so the bounds rest
on the pauses between the tries and not on the time that passes.
-/

set_option autoImplicit false

namespace WsGateway.Gateway
open Foundation Protocol Routing

section Notes

inductive RetryNote where
  | started (now : Nat)
  /-- A call of `try_send`. -/
  | tried (now : Nat)
  deriving DecidableEq, Repr

def RetryNote.of (now : Nat) : RetryPhase → List RetryNote
  | .spawned => [.started now]
  | .trying _ => [.tried now]
  | .full _ | .sleeping _ _ | .failed | .delivered | .disconnected => []

def retryNotes (id : Nat) (g : Gateway) : Event → List RetryNote
  | .retry other =>
    if other = id then g.retries[id]?.elim [] fun task => RetryNote.of g.now task.phase else []
  | _ => []

variable {g next : Gateway} {id : Nat} {task : RetryTask}

theorem retryNotes_eq_nil {event : Event} (other : event ≠ .retry id) :
    retryNotes id g event = [] := by
  cases event with
  | retry other' =>
    have different : other' ≠ id := fun same => other (same ▸ rfl)
    rw [retryNotes, if_neg different]
  | _ => rfl

theorem retryNotes_own (found : g.retries[id]? = some task) :
    retryNotes id g (.retry id) = RetryNote.of g.now task.phase := by
  rw [retryNotes, if_pos rfl, found]
  rfl

end Notes

section Pacing

/-- The tries of a retry from its start on, when the next one is due no earlier
than the time `due`. -/
structure Paced (notes : List RetryNote) (start : Nat) (tries : List Nat) (due : Nat) : Prop where
  notes : notes = .started start :: tries.map .tried
  begun : ∀ time ∈ tries, start ≤ time
  spaced : tries.Pairwise fun early late => early + millis 5 ≤ late
  apart : ∀ time ∈ tries, time + millis 5 ≤ due
  enough : start + millis 5 * tries.length ≤ due

variable {notes : List RetryNote} {start due now : Nat} {tries : List Nat}

theorem paced_started (now : Nat) : Paced [.started now] now [] now := by
  refine ⟨rfl, ?_, List.Pairwise.nil, ?_, Nat.le_refl _⟩
  · rintro time ⟨⟩
  · rintro time ⟨⟩

theorem Paced.mono {later : Nat} (paced : Paced notes start tries due) (order : due ≤ later) :
    Paced notes start tries later :=
  { paced with
    apart := fun time member => Nat.le_trans (paced.apart time member) order
    enough := Nat.le_trans paced.enough order }

theorem Paced.tried (paced : Paced notes start tries now) :
    Paced (notes ++ [.tried now]) start (tries ++ [now]) (now + millis 5) where
  notes := by rw [paced.notes, List.map_append]; rfl
  begun := by
    intro time member
    rcases List.mem_append.mp member with before | last
    · exact paced.begun time before
    · rw [List.mem_singleton.mp last]
      exact Nat.le_trans (Nat.le_add_right _ _) paced.enough
  spaced := by
    refine List.pairwise_append.mpr ⟨paced.spaced, List.pairwise_singleton _ _, ?_⟩
    intro early before late last
    rw [List.mem_singleton.mp last]
    exact paced.apart early before
  apart := by
    intro time member
    rcases List.mem_append.mp member with before | last
    · exact Nat.le_trans (paced.apart time before) (Nat.le_add_right _ _)
    · rw [List.mem_singleton.mp last]
  enough := by
    rw [List.length_append, List.length_singleton, Nat.mul_succ, ← Nat.add_assoc]
    exact Nat.add_le_add_right paced.enough _

/-- What a retry has done so far. A pause is entered within the budget only, so
ten tries can lie before one. -/
def Within (now : Nat) (notes : List RetryNote) : RetryPhase → Prop
  | .spawned => notes = []
  | .trying start => ∃ tries, Paced notes start tries now ∧ tries.length ≤ 10
  | .full start => ∃ tries, Paced notes start tries (now + millis 5) ∧ tries.length ≤ 11 ∧ tries ≠ []
  | .sleeping start wake =>
    ∃ tries, Paced notes start tries wake ∧ tries.length ≤ 10 ∧ wake ≤ now + millis 5
  | .delivered => ∃ start tries, Paced notes start tries (now + millis 5) ∧ tries.length ≤ 11
  | .failed | .disconnected => ∃ start tries, Paced notes start tries (now + millis 5) ∧
      tries.length ≤ 11 ∧ tries ≠ [] ∧ start + millis 50 ≤ now

theorem Within.mono {phase : RetryPhase} {later : Nat} (within : Within now notes phase)
    (order : now ≤ later) : Within later notes phase := by
  have pause := Nat.add_le_add_right order (millis 5)
  cases phase with
  | spawned => exact within
  | trying start =>
    obtain ⟨tries, paced, few⟩ := within
    exact ⟨tries, paced.mono order, few⟩
  | full start =>
    obtain ⟨tries, paced, few⟩ := within
    exact ⟨tries, paced.mono pause, few⟩
  | sleeping start wake =>
    obtain ⟨tries, paced, few, soon⟩ := within
    exact ⟨tries, paced, few, Nat.le_trans soon pause⟩
  | delivered =>
    obtain ⟨start, tries, paced, few⟩ := within
    exact ⟨start, tries, paced.mono pause, few⟩
  | failed =>
    obtain ⟨start, tries, paced, few, some, late⟩ := within
    exact ⟨start, tries, paced.mono pause, few, some, Nat.le_trans late order⟩
  | disconnected =>
    obtain ⟨start, tries, paced, few, some, late⟩ := within
    exact ⟨start, tries, paced.mono pause, few, some, Nat.le_trans late order⟩

theorem Within.moves {g : Gateway} {phase phase' : RetryPhase} (within : Within g.now notes phase)
    (moves : Moves g phase phase') :
    Within g.now (notes ++ RetryNote.of g.now phase) phase' := by
  have same : notes ++ [] = notes := List.append_nil notes
  have more (tries : List Nat) (few : tries.length ≤ 10) : (tries ++ [g.now]).length ≤ 11 := by
    rw [List.length_append, List.length_singleton]
    omega
  cases moves with
  | started =>
    cases within
    exact ⟨[], paced_started g.now, by decide⟩
  | @delivered start =>
    obtain ⟨tries, paced, few⟩ := within
    exact ⟨start, _, paced.tried, more tries few⟩
  | refused =>
    obtain ⟨tries, paced, few⟩ := within
    exact ⟨_, paced.tried, more tries few, by simp⟩
  | @expired start late =>
    obtain ⟨tries, paced, few, some⟩ := within
    have begun := paced.enough
    refine ⟨start, tries, same.symm ▸ paced, few, some, ?_⟩
    simp only [millis] at *
    omega
  | @paused start early =>
    obtain ⟨tries, paced, few, some⟩ := within
    have enough := paced.enough
    refine ⟨tries, same.symm ▸ paced, ?_, Nat.le_refl _⟩
    simp only [millis] at *
    omega
  | woken due =>
    obtain ⟨tries, paced, few, _⟩ := within
    exact ⟨tries, same.symm ▸ paced.mono due, few⟩
  | disconnected =>
    obtain ⟨start, tries, paced, few⟩ := within
    exact ⟨start, tries, same.symm ▸ paced, few⟩

end Pacing

section Runs

variable {g next : Gateway} {id : Nat}

def Noted (P : Nat → List RetryNote → RetryPhase → Prop) (id : Nat) (notes : List RetryNote)
    (g : Gateway) : Prop :=
  match g.retries[id]? with
  | none => notes = []
  | some task => P g.now notes task.phase

theorem noted_step {P : Nat → List RetryNote → RetryPhase → Prop} {notes : List RetryNote}
    {event : Event} (spawned : P g.now [] .spawned)
    (moved : ∀ {phase phase'}, P g.now notes phase → Moves g phase phase' →
      P g.now (notes ++ RetryNote.of g.now phase) phase')
    (waited : ∀ task ∈ g.retries[id]?, P g.now notes task.phase →
      P (g.now + event.elapsed) notes task.phase)
    (noted : Noted P id notes g) (taken : g.step event = some next) :
    Noted P id (notes ++ retryNotes id g event) next := by
  -- A retry that does not move makes no note.
  have still (other : event ≠ .retry id) (same : next.retries[id]? = g.retries[id]?)
      (time : ∀ task, g.retries[id]? = some task → P g.now notes task.phase →
        P next.now notes task.phase) : Noted P id (notes ++ retryNotes id g event) next := by
    rw [retryNotes_eq_nil other, List.append_nil, Noted, same]
    rw [Noted] at noted
    cases found : g.retries[id]? with
    | none => rw [found] at noted; exact noted
    | some task => rw [found] at noted; exact time task found noted
  cases retriesStep taken with
  | kept other retries now =>
    refine still (other id) (by rw [retries]) fun task found holds => ?_
    rw [now]
    exact waited task found holds
  | spawned _ _ _ _ _ retries now =>
    by_cases fresh : id = g.retries.length
    · have absent : g.retries[id]? = none := List.getElem?_eq_none (Nat.le_of_eq fresh.symm)
      rw [Noted, absent] at noted
      rw [retryNotes_eq_nil (by simp), List.append_nil, Noted, retries, fresh,
        List.getElem?_concat_length, now, noted]
      exact spawned
    · refine still (by simp) ?_ fun _ _ holds => now ▸ holds
      rw [retries]
      rcases Nat.lt_or_ge id g.retries.length with before | beyond
      · exact List.getElem?_append_left before
      · rw [List.getElem?_eq_none beyond, List.getElem?_eq_none]
        rw [List.length_append, List.length_singleton]
        omega
  | @moved other task phase _ own found moves retries now =>
    by_cases same : other = id
    · subst same
      have after : next.retries[other]? = some { task with phase } := by
        rw [retries, List.getElem?_modify, found]
        simp
      rw [Noted, found] at noted
      rw [Noted, after, now]
      have moves := moved noted moves
      rcases own with rfl | rfl
      · rw [retryNotes_own found]
        exact moves
      · rw [retryNotes_eq_nil (by simp)]
        obtain ⟨_, found', failed, _⟩ := disconnect_eq_some.mp taken
        rw [found] at found'
        cases found'
        rw [failed] at moves
        exact moves
    · refine still ?_ ?_ fun _ _ holds => now ▸ holds
      · rcases own with rfl | rfl
        · simpa using same
        · simp
      · rw [retries, List.getElem?_modify_ne _ _ same]

theorem within_step (id : Nat) (notes : List RetryNote) (g : Gateway) (event : Event)
    (next : Gateway) (within : Noted Within id notes g) (taken : g.step event = some next) :
    Noted Within id (notes ++ retryNotes id g event) next :=
  noted_step rfl Within.moves (fun _ _ holds => holds.mono (Nat.le_add_right _ _)) within taken

theorem Within.spawned_or_paced {phase : RetryPhase} {now : Nat} {notes : List RetryNote}
    (within : Within now notes phase) :
    phase = .spawned ∧ notes = [] ∨
      ∃ start tries, Paced notes start tries (now + millis 5) ∧ tries.length ≤ 11 ∧
        (phase = .failed ∨ phase = .disconnected → tries ≠ [] ∧ start + millis 50 ≤ now) := by
  cases phase with
  | spawned => exact Or.inl ⟨rfl, within⟩
  | trying start =>
    obtain ⟨tries, paced, few⟩ := within
    exact Or.inr ⟨start, tries, paced.mono (Nat.le_add_right _ _), by omega, by simp⟩
  | full start =>
    obtain ⟨tries, paced, few, _⟩ := within
    exact Or.inr ⟨start, tries, paced, few, by simp⟩
  | sleeping start wake =>
    obtain ⟨tries, paced, few, soon⟩ := within
    exact Or.inr ⟨start, tries, paced.mono soon, by omega, by simp⟩
  | delivered =>
    obtain ⟨start, tries, paced, few⟩ := within
    exact Or.inr ⟨start, tries, paced, few, by simp⟩
  | failed =>
    obtain ⟨start, tries, paced, few, late⟩ := within
    exact Or.inr ⟨start, tries, paced, few, fun _ => late⟩
  | disconnected =>
    obtain ⟨start, tries, paced, few, late⟩ := within
    exact Or.inr ⟨start, tries, paced, few, fun _ => late⟩

/-- A retry tries at most eleven times, at least 5 ms apart, and gives up only when
its 50 ms are over and a try has been refused. -/
theorem retry_budget (events : List Event) (g : Gateway) (ran : run step new events = some g)
    (id : Nat) (task : RetryTask) (found : g.retries[id]? = some task) :
    task.phase = .spawned ∧ record step (retryNotes id) new events = [] ∨
      ∃ start tries, record step (retryNotes id) new events = .started start :: tries.map .tried ∧
        tries.length ≤ 11 ∧ (∀ time ∈ tries, start ≤ time ∧ time ≤ g.now) ∧
        tries.Pairwise (fun early late => early + millis 5 ≤ late) ∧
        (task.phase = .failed ∨ task.phase = .disconnected →
          tries ≠ [] ∧ start + millis 50 ≤ g.now) := by
  have within : Noted Within id (record step (retryNotes id) new events) g :=
    record_run (within_step id) rfl ran
  rw [Noted, found] at within
  refine (Within.spawned_or_paced within).imp_right ?_
  rintro ⟨start, tries, paced, few, late⟩
  refine ⟨start, tries, paced.notes, few, fun time member => ?_, paced.spaced, late⟩
  exact ⟨paced.begun time member, Nat.le_of_add_le_add_right (paced.apart time member)⟩

theorem retry_budget_expired :
    ∃ g start tries, run step new reconnectWhileRetrying = some g ∧
      record step (retryNotes 0) new reconnectWhileRetrying = .started start :: tries.map .tried ∧
        tries.length ≤ 11 ∧ tries ≠ [] ∧ start + millis 50 ≤ g.now := by
  have runs : (run step new reconnectWhileRetrying).any (fun g => g.retries[0]?.any fun task =>
      task.phase = .failed) = true := by decide +kernel
  obtain ⟨g, ran, runs⟩ := (Option.any_eq_true _ _).mp runs
  obtain ⟨task, found, failed⟩ := (Option.any_eq_true _ _).mp runs
  have failed : task.phase = .failed := of_decide_eq_true failed
  rcases retry_budget reconnectWhileRetrying g ran 0 task found with ⟨spawned, _⟩ | expired
  · rw [failed] at spawned
    cases spawned
  · obtain ⟨start, tries, notes, few, _, _, late⟩ := expired
    exact ⟨g, start, tries, ran, notes, few, late (Or.inl failed)⟩

end Runs

section Deadlines

def IdleUntil (time : Nat) : RetryPhase → Prop
  | .sleeping _ wake => time ≤ wake
  | .delivered | .disconnected => True
  | .spawned | .trying _ | .full _ | .failed => False

instance (time : Nat) : DecidablePred (IdleUntil time)
  | .sleeping _ wake => inferInstanceAs (Decidable (time ≤ wake))
  | .delivered | .disconnected => isTrue trivial
  | .spawned | .trying _ | .full _ | .failed => isFalse id

/-- Time passes only while the retry is idle: it is not scheduled late. -/
def PromptRetry (id : Nat) (g : Gateway) (event : Event) (_ : Gateway) : Prop :=
  event.elapsed = 0 ∨ ∀ task ∈ g.retries[id]?, IdleUntil (g.now + event.elapsed) task.phase

instance (id : Nat) (g : Gateway) (event : Event) (next : Gateway) :
    Decidable (PromptRetry id g event next) :=
  inferInstanceAs (Decidable (_ ∨ _))

def schedule (start count : Nat) : List RetryNote :=
  .started start :: (List.range count).map fun i => .tried (start + millis 5 * i)

theorem schedule_succ (start count : Nat) :
    schedule start (count + 1) = schedule start count ++ [.tried (start + millis 5 * count)] := by
  simp only [schedule, List.range_succ, List.map_append, List.map_cons, List.map_nil, List.cons_append]

def OnSchedule (now : Nat) (notes : List RetryNote) : RetryPhase → Prop
  | .spawned => notes = []
  | .trying start => ∃ count ≤ 10, notes = schedule start count ∧ now = start + millis 5 * count
  | .full start => ∃ count ≤ 10, notes = schedule start (count + 1) ∧ now = start + millis 5 * count
  | .sleeping start wake => ∃ count < 10, notes = schedule start (count + 1) ∧
      wake = start + millis 5 * (count + 1) ∧ now ≤ wake
  | .delivered => ∃ start, ∃ count ≤ 10, notes = schedule start (count + 1)
  | .failed => ∃ start, notes = schedule start 11 ∧ now = start + millis 50
  | .disconnected => ∃ start, notes = schedule start 11

variable {g next : Gateway} {notes : List RetryNote} {id : Nat}

theorem OnSchedule.idle {phase : RetryPhase} {now later : Nat} (on : OnSchedule now notes phase)
    (idle : IdleUntil later phase) : OnSchedule later notes phase := by
  cases phase with
  | sleeping start wake =>
    obtain ⟨count, few, made, due, _⟩ := on
    exact ⟨count, few, made, due, idle⟩
  | delivered => exact on
  | disconnected => exact on
  | _ => exact idle.elim

theorem OnSchedule.moves {phase phase' : RetryPhase} (on : OnSchedule g.now notes phase)
    (moves : Moves g phase phase') :
    OnSchedule g.now (notes ++ RetryNote.of g.now phase) phase' := by
  have same : notes ++ [] = notes := List.append_nil notes
  cases moves with
  | started =>
    cases on
    exact ⟨0, Nat.zero_le _, rfl, rfl⟩
  | @delivered start =>
    obtain ⟨count, few, rfl, now⟩ := on
    exact ⟨start, count, few, now ▸ (schedule_succ start count).symm⟩
  | refused =>
    obtain ⟨count, few, rfl, now⟩ := on
    exact ⟨count, few, now ▸ (schedule_succ _ count).symm, now⟩
  | @expired start late =>
    obtain ⟨count, few, rfl, now⟩ := on
    have last : count = 10 := by
      simp only [millis] at *
      omega
    subst last
    exact ⟨start, same, now⟩
  | @paused start early =>
    obtain ⟨count, few, rfl, now⟩ := on
    have more : count < 10 := by
      simp only [millis] at *
      omega
    exact ⟨count, more, same, by rw [now, Nat.mul_succ, Nat.add_assoc], Nat.le_add_right _ _⟩
  | @woken start wake due =>
    obtain ⟨count, few, rfl, rfl, before⟩ := on
    exact ⟨count + 1, few, same, Nat.le_antisymm before due⟩
  | disconnected =>
    obtain ⟨start, rfl, _⟩ := on
    exact ⟨start, same⟩

theorem onSchedule_step (id : Nat) (notes : List RetryNote) (g : Gateway) (event : Event)
    (next : Gateway) (on : Noted OnSchedule id notes g) (taken : g.step event = some next)
    (prompt : PromptRetry id g event next) :
    Noted OnSchedule id (notes ++ retryNotes id g event) next := by
  refine noted_step rfl OnSchedule.moves (fun task member holds => ?_) on taken
  rcases prompt with zero | idle
  · rw [zero, Nat.add_zero]
    exact holds
  · exact holds.idle (idle task member)

theorem OnSchedule.spawned_or_made {phase : RetryPhase} {now : Nat} (on : OnSchedule now notes phase) :
    phase = .spawned ∧ notes = [] ∨
      ∃ start count, notes = schedule start count ∧ count ≤ 11 ∧
        (phase = .failed ∨ phase = .disconnected → count = 11) ∧
        (phase = .delivered ∨ phase = .disconnected ∨ now ≤ start + millis 50) := by
  have within {count : Nat} (few : count ≤ 10) : millis 5 * count ≤ millis 50 :=
    Nat.mul_le_mul_left (millis 5) few
  cases phase with
  | spawned => exact Or.inl ⟨rfl, on⟩
  | trying start =>
    obtain ⟨count, few, made, rfl⟩ := on
    exact Or.inr ⟨start, count, made, by omega, by simp, Or.inr (Or.inr (Nat.add_le_add_left (within few) _))⟩
  | full start =>
    obtain ⟨count, few, made, rfl⟩ := on
    exact Or.inr ⟨start, count + 1, made, by omega, by simp,
      Or.inr (Or.inr (Nat.add_le_add_left (within few) _))⟩
  | sleeping start wake =>
    obtain ⟨count, few, made, rfl, before⟩ := on
    exact Or.inr ⟨start, count + 1, made, by omega, by simp,
      Or.inr (Or.inr (Nat.le_trans before (Nat.add_le_add_left (within few) _)))⟩
  | delivered =>
    obtain ⟨start, count, few, made⟩ := on
    exact Or.inr ⟨start, count + 1, made, by omega, by simp, Or.inl rfl⟩
  | failed =>
    obtain ⟨start, made, rfl⟩ := on
    exact Or.inr ⟨start, 11, made, by omega, fun _ => rfl, Or.inr (Or.inr (Nat.le_refl _))⟩
  | disconnected =>
    obtain ⟨start, made⟩ := on
    exact Or.inr ⟨start, 11, made, by omega, fun _ => rfl, Or.inr (Or.inl rfl)⟩

/-- A retry that is never scheduled late tries every 5 ms from its start on, is over
50 ms after it, and gives up with the eleventh try only. -/
theorem retry_deadline (events : List Event) (g : Gateway) (ran : run step new events = some g)
    (id : Nat) (prompt : EveryStep step (PromptRetry id) new events) (task : RetryTask)
    (found : g.retries[id]? = some task) :
    task.phase = .spawned ∧ record step (retryNotes id) new events = [] ∨
      ∃ start count, record step (retryNotes id) new events = schedule start count ∧ count ≤ 11 ∧
        (task.phase = .failed ∨ task.phase = .disconnected → count = 11) ∧
        (task.phase = .delivered ∨ task.phase = .disconnected ∨ g.now ≤ start + millis 50) := by
  have on : Noted OnSchedule id (record step (retryNotes id) new events) g :=
    record_steps (onSchedule_step id) prompt rfl ran
  rw [Noted, found] at on
  exact OnSchedule.spawned_or_made on

def refusedToTheEnd : List Event :=
  .connect ⟨"r1", "ann"⟩ :: (List.range 64).flatMap (unicastTo aiEvent) ++
    unicastTo systemCmd 64 ++ [.retry 0] ++
    (List.replicate 10 [.retry 0, .retry 0, .tick (millis 5), .retry 0]).flatten ++
    [.retry 0, .retry 0, .disconnect 0, .tick (millis 5)]

theorem retry_deadline_refused :
    ∃ start, record step (retryNotes 0) new refusedToTheEnd = schedule start 11 := by
  have runs : (run step new refusedToTheEnd).any (fun g => g.retries[0]?.any fun task =>
      task.phase = .disconnected) = true := by decide +kernel
  obtain ⟨g, ran, runs⟩ := (Option.any_eq_true _ _).mp runs
  obtain ⟨task, found, ended⟩ := (Option.any_eq_true _ _).mp runs
  have ended : task.phase = .disconnected := of_decide_eq_true ended
  rcases retry_deadline refusedToTheEnd g ran 0 (by decide +kernel) task found with ⟨spawned, _⟩ | made
  · rw [ended] at spawned
    cases spawned
  · obtain ⟨start, count, made, _, all, _⟩ := made
    exact ⟨start, all (Or.inr ended) ▸ made⟩

end Deadlines

end WsGateway.Gateway
