import LoadTest.Run.Clock
import Mathlib.Data.List.TakeWhile

/-!
Where the users are on a clock.

A user stands in the queue, is held back, or has an alarm (`Clock.places`).  A clock keeps a user
(`Clock.Keeps`) if it is in one place at most and in none while it has its turn, and if its alarm is
set for the moment for which it waits.  What is done for other tasks leaves a user where it is
(`Clock.Spares`).
-/

namespace LoadTest.Clock

/-- In how many places a task is. -/
def places (clock : Clock) (task : Task) : Nat :=
  clock.queue.count task + clock.heldBack.count task + clock.alarms.countP (·.2 == task)

/-- Alarms stand in the order in which they ring. -/
def Ordered (clock : Clock) : Prop := clock.alarms.Pairwise (·.1 ≤ ·.1)

/-- A user that waits until a moment is woken at that moment, and nobody else is. -/
structure Keeps (clock : Clock) (focus : Option Task) (id : Nat) (wait? : Option Nat) : Prop where
  once : (if focus = some (.user id) then 1 else 0) + clock.places (.user id) ≤ 1
  rings : ∀ time, (time, .user id) ∈ clock.alarms → wait? = some time ∧ clock.now ≤ time
  waits : ∀ time, wait? = some time →
    (time, .user id) ∈ clock.alarms ∨
      time = clock.now ∧ (focus = some (.user id) ∨ .user id ∈ clock.queue)

variable {clock : Clock} {task : Task} {id : Nat}

/-! ### Waking tasks -/

theorem wake_of_ne (notCaller : task ≠ .caller) :
    clock.wake task =
      if clock.queue.contains task then clock
      else { clock with queue := clock.queue ++ [task] } := by
  cases task with
  | caller => exact absurd rfl notCaller
  | _ => rfl

theorem wake_cases (clock : Clock) (task : Task) :
    (∃ callerReady, clock.wake task = { clock with callerReady } ∧
        ∀ id, task = .user id → .user id ∈ clock.queue) ∨
      clock.wake task = { clock with queue := clock.queue ++ [task] } := by
  by_cases caller : task = .caller
  · subst caller
    exact .inl ⟨true, rfl, by simp⟩
  · rw [wake_of_ne caller]
    by_cases there : clock.queue.contains task = true
    · left
      refine ⟨clock.callerReady, if_pos there, ?_⟩
      rintro id rfl
      simpa using there
    · exact .inr (if_neg there)

@[simp] theorem now_wake : (clock.wake task).now = clock.now := by
  obtain ⟨_, same, _⟩ | same := wake_cases clock task <;> rw [same]

@[simp] theorem heldBack_wake : (clock.wake task).heldBack = clock.heldBack := by
  obtain ⟨_, same, _⟩ | same := wake_cases clock task <;> rw [same]

@[simp] theorem alarms_wake : (clock.wake task).alarms = clock.alarms := by
  obtain ⟨_, same, _⟩ | same := wake_cases clock task <;> rw [same]

theorem mem_queue_wake :
    .user id ∈ (clock.wake task).queue ↔ .user id ∈ clock.queue ∨ task = .user id := by
  obtain ⟨_, same, there⟩ | same := wake_cases clock task
  · rw [same]
    constructor
    · exact .inl
    · rintro (queued | woken)
      · exact queued
      · exact there id woken
  · simp [same, eq_comm]

theorem count_queue_wake_le :
    (clock.wake task).queue.count (.user id) ≤
      clock.queue.count (.user id) + [task].count (.user id) := by
  obtain ⟨_, same, _⟩ | same := wake_cases clock task
  · rw [same]
    exact Nat.le_add_right _ _
  · rw [same, List.count_append]

section

variable (tasks : List Task)

@[simp] theorem now_foldl_wake : (tasks.foldl wake clock).now = clock.now := by
  induction tasks generalizing clock with
  | nil => rfl
  | cons task tasks inductionHypothesis => rw [List.foldl_cons, inductionHypothesis, now_wake]

@[simp] theorem heldBack_foldl_wake : (tasks.foldl wake clock).heldBack = clock.heldBack := by
  induction tasks generalizing clock with
  | nil => rfl
  | cons task tasks inductionHypothesis => rw [List.foldl_cons, inductionHypothesis, heldBack_wake]

@[simp] theorem alarms_foldl_wake : (tasks.foldl wake clock).alarms = clock.alarms := by
  induction tasks generalizing clock with
  | nil => rfl
  | cons task tasks inductionHypothesis => rw [List.foldl_cons, inductionHypothesis, alarms_wake]

theorem mem_queue_foldl_wake :
    .user id ∈ (tasks.foldl wake clock).queue ↔ .user id ∈ clock.queue ∨ .user id ∈ tasks := by
  induction tasks generalizing clock with
  | nil => simp
  | cons task tasks inductionHypothesis =>
      rw [List.foldl_cons, inductionHypothesis, mem_queue_wake, List.mem_cons, or_assoc]
      simp only [eq_comm]

theorem count_queue_foldl_wake_le :
    (tasks.foldl wake clock).queue.count (.user id) ≤
      clock.queue.count (.user id) + tasks.count (.user id) := by
  induction tasks generalizing clock with
  | nil => exact Nat.le_refl _
  | cons task tasks inductionHypothesis =>
      have first : (clock.wake task).queue.count (.user id) ≤
          clock.queue.count (.user id) + [task].count (.user id) := count_queue_wake_le
      have later := @inductionHypothesis (clock.wake task)
      rw [List.foldl_cons, List.count_cons]
      rw [List.count_singleton] at first
      omega

end

/-! ### Setting alarms -/

theorem insertAlarm_perm (time : Nat) (task : Task) (alarms : List (Nat × Task)) :
    (insertAlarm time task alarms).Perm ((time, task) :: alarms) := by
  induction alarms with
  | nil => exact .refl _
  | cons alarm rest inductionHypothesis =>
      unfold insertAlarm
      split
      · exact (inductionHypothesis.cons alarm).trans (.swap ..)
      · exact .refl _

theorem Ordered.setAlarm (ordered : clock.Ordered) (time : Nat) (task : Task) :
    (clock.setAlarm time task).Ordered := by
  unfold Ordered Clock.setAlarm at *
  dsimp only
  generalize clock.alarms = alarms at ordered
  induction alarms with
  | nil => simp [insertAlarm]
  | cons alarm rest inductionHypothesis =>
      obtain ⟨least, orderedRest⟩ := List.pairwise_cons.1 ordered
      unfold insertAlarm
      split
      next before =>
        refine List.pairwise_cons.2 ⟨?_, inductionHypothesis orderedRest⟩
        intro other among
        obtain rfl | inRest := List.mem_cons.1 ((insertAlarm_perm ..).mem_iff.1 among)
        · exact before
        · exact least other inRest
      next after =>
        refine List.pairwise_cons.2 ⟨?_, ordered⟩
        intro other among
        obtain rfl | inRest := List.mem_cons.1 among
        · exact Nat.le_of_not_le after
        · exact Nat.le_trans (Nat.le_of_not_le after) (least other inRest)

/-! ### Leaving a user where it is -/

structure Spares (id : Nat) (before after : Clock) : Prop where
  now_eq : after.now = before.now
  ordered : before.Ordered → after.Ordered
  places_le : after.places (.user id) ≤ before.places (.user id)
  alarms_iff : ∀ time, (time, .user id) ∈ after.alarms ↔ (time, .user id) ∈ before.alarms
  queued : .user id ∈ before.queue → .user id ∈ after.queue

namespace Spares

theorem refl (id : Nat) (clock : Clock) : Spares id clock clock where
  now_eq := rfl
  ordered order := order
  places_le := Nat.le_refl _
  alarms_iff _ := Iff.rfl
  queued there := there

theorem trans {first second third : Clock} (earlier : Spares id first second)
    (later : Spares id second third) : Spares id first third where
  now_eq := later.now_eq.trans earlier.now_eq
  ordered order := later.ordered (earlier.ordered order)
  places_le := Nat.le_trans later.places_le earlier.places_le
  alarms_iff time := (later.alarms_iff time).trans (earlier.alarms_iff time)
  queued there := later.queued (earlier.queued there)

variable (clock)

theorem foldl_wake {tasks : List Task} (apart : .user id ∉ tasks) :
    Spares id clock (tasks.foldl Clock.wake clock) where
  now_eq := now_foldl_wake tasks
  ordered order := by
    rw [Ordered, alarms_foldl_wake]
    exact order
  places_le := by
    have count := @count_queue_foldl_wake_le clock id tasks
    rw [List.count_eq_zero.2 apart] at count
    simp only [places, heldBack_foldl_wake, alarms_foldl_wake]
    omega
  alarms_iff _ := by rw [alarms_foldl_wake]
  queued there := (mem_queue_foldl_wake tasks).2 (.inl there)

variable (task) (apart : .user id ≠ task)

include apart

theorem wake : Spares id clock (clock.wake task) := by
  have alone : .user id ∉ [task] := by simpa using apart
  exact foldl_wake clock alone

theorem holdBack : Spares id clock (clock.holdBack task) where
  now_eq := rfl
  ordered order := order
  places_le := by
    simp only [places, Clock.holdBack, List.count_cons_of_ne (Ne.symm apart)]
    exact Nat.le_refl _
  alarms_iff _ := Iff.rfl
  queued there := there

theorem setAlarm (time : Nat) : Spares id clock (clock.setAlarm time task) where
  now_eq := rfl
  ordered order := order.setAlarm time task
  places_le := by
    have perm := insertAlarm_perm time task clock.alarms
    simp only [places, Clock.setAlarm, perm.countP_eq]
    rw [List.countP_cons_of_neg (by simpa using Ne.symm apart)]
  alarms_iff other := by
    have perm := insertAlarm_perm time task clock.alarms
    simp [Clock.setAlarm, perm.mem_iff, apart]
  queued there := there

theorem clearAlarms : Spares id clock (clock.clearAlarms task) where
  now_eq := rfl
  ordered order := order.sublist List.filter_sublist
  places_le := Nat.add_le_add_left List.filter_sublist.countP_le _
  alarms_iff time := by simp [Clock.clearAlarms, apart]
  queued there := there

end Spares

/-! ### Keeping a user -/

variable {focus other : Option Task} {wait? : Option Nat}

theorem not_mem_alarms (vacant : clock.places (.user id) = 0) (time : Nat) :
    (time, .user id) ∉ clock.alarms := by
  intro alarm
  have positive : 0 < clock.alarms.countP (·.2 == .user id) :=
    List.countP_pos_iff.2 ⟨_, alarm, beq_self_eq_true _⟩
  unfold places at vacant
  omega

namespace Keeps

theorem spare (keeps : clock.Keeps focus id wait?) {after : Clock} (spares : Spares id clock after)
    (same : other = some (.user id) ↔ focus = some (.user id)) :
    after.Keeps other id wait? where
  once := by
    have before := keeps.once
    have fewer := spares.places_le
    simp only [same]
    omega
  rings time alarm := by
    rw [spares.now_eq]
    exact keeps.rings time ((spares.alarms_iff time).1 alarm)
  waits time wait := by
    obtain alarm | ⟨now, focused | queued⟩ := keeps.waits time wait
    · exact .inl ((spares.alarms_iff time).2 alarm)
    · exact .inr ⟨now.trans spares.now_eq.symm, .inl (same.2 focused)⟩
    · exact .inr ⟨now.trans spares.now_eq.symm, .inr (spares.queued queued)⟩

/-- A user that has its turn is nowhere else. -/
theorem vacant (keeps : clock.Keeps (some (.user id)) id wait?) : clock.places (.user id) = 0 := by
  have once := keeps.once
  rw [if_pos rfl] at once
  omega

theorem now_eq (keeps : clock.Keeps (some (.user id)) id wait?) {time : Nat}
    (wait : wait? = some time) : time = clock.now := by
  obtain alarm | ⟨now, _⟩ := keeps.waits time wait
  · exact absurd alarm (not_mem_alarms keeps.vacant time)
  · exact now

end Keeps

section

variable (vacant : clock.places (.user id) = 0)

include vacant

theorem clearAlarms_of_vacant : clock.clearAlarms (.user id) = clock := by
  have all : ∀ alarm ∈ clock.alarms, (alarm.2 != .user id) = true := by
    rintro ⟨time, task⟩ alarm
    by_cases own : task = .user id
    · subst own
      exact absurd alarm (not_mem_alarms vacant time)
    · simpa using own
  rw [clearAlarms, List.filter_eq_self.2 all]

theorem keeps_of_vacant : clock.Keeps focus id none where
  once := by
    rw [vacant]
    split <;> omega
  rings time alarm := absurd alarm (not_mem_alarms vacant time)
  waits _ wait := by cases wait

theorem keeps_wake (elsewhere : focus ≠ some (.user id)) {tasks : List Task}
    (once : tasks.count (.user id) ≤ 1) : (tasks.foldl wake clock).Keeps focus id none where
  once := by
    have count := @count_queue_foldl_wake_le clock id tasks
    simp only [places, heldBack_foldl_wake, alarms_foldl_wake, if_neg elsewhere] at vacant ⊢
    omega
  rings time alarm := by
    rw [alarms_foldl_wake] at alarm
    exact absurd alarm (not_mem_alarms vacant time)
  waits _ wait := by cases wait

theorem keeps_holdBack : (clock.holdBack (.user id)).Keeps none id none where
  once := by
    simp only [places, holdBack, List.count_cons_self, reduceCtorEq, if_false] at vacant ⊢
    omega
  rings time alarm := absurd alarm (not_mem_alarms vacant time)
  waits _ wait := by cases wait

theorem keeps_setAlarm {time : Nat} (later : clock.now < time) :
    (clock.setAlarm time (.user id)).Keeps none id (some time) where
  once := by
    have perm := insertAlarm_perm time (.user id) clock.alarms
    have one : ((time, Task.user id) :: clock.alarms).countP (·.2 == .user id) =
        clock.alarms.countP (·.2 == .user id) + 1 := List.countP_cons_of_pos (by simp)
    simp only [places, setAlarm, perm.countP_eq, one, reduceCtorEq, if_false] at vacant ⊢
    omega
  rings other alarm := by
    have perm := insertAlarm_perm time (.user id) clock.alarms
    obtain same | before := List.mem_cons.1 (perm.mem_iff.1 alarm)
    · cases same
      exact ⟨rfl, Nat.le_of_lt later⟩
    · exact absurd before (not_mem_alarms vacant other)
  waits other wait := by
    cases wait
    exact .inl ((insertAlarm_perm ..).mem_iff.2 List.mem_cons_self)

end

/-! ### Passing time -/

section

variable (clock)

theorem ring_eq :
    clock.ring = ((clock.alarms.takeWhile (·.1 ≤ clock.now)).map (·.2)).foldl wake
      { clock with alarms := clock.alarms.dropWhile (·.1 ≤ clock.now) } := by
  rw [List.foldl_map]
  rfl

theorem advance_eq :
    ∃ now, clock.now ≤ now ∧ clock.advance = { clock with now } := by
  unfold advance
  split
  · exact ⟨clock.now, Nat.le_refl _, rfl⟩
  · split
    · exact ⟨clock.now, Nat.le_refl _, rfl⟩
    · exact ⟨_, Nat.le_max_left .., rfl⟩

theorem places_ring_le : clock.ring.places (.user id) ≤ clock.places (.user id) := by
  have split : clock.alarms.takeWhile (·.1 ≤ clock.now) ++
      clock.alarms.dropWhile (·.1 ≤ clock.now) = clock.alarms := List.takeWhile_append_dropWhile
  have count := @count_queue_foldl_wake_le
    { clock with alarms := clock.alarms.dropWhile (·.1 ≤ clock.now) } id
    ((clock.alarms.takeWhile (·.1 ≤ clock.now)).map (·.2))
  have woken : ((clock.alarms.takeWhile (·.1 ≤ clock.now)).map (·.2)).count (.user id) =
      (clock.alarms.takeWhile (·.1 ≤ clock.now)).countP (·.2 == .user id) := by
    rw [List.count, List.countP_map]
    rfl
  have all : clock.alarms.countP (·.2 == .user id) =
      (clock.alarms.takeWhile (·.1 ≤ clock.now)).countP (·.2 == .user id) +
        (clock.alarms.dropWhile (·.1 ≤ clock.now)).countP (·.2 == .user id) := by
    rw [← List.countP_append, split]
  rw [ring_eq]
  simp only [places, heldBack_foldl_wake, alarms_foldl_wake] at count ⊢
  omega

theorem places_endRound_le : clock.endRound.places (.user id) ≤ clock.places (.user id) := by
  obtain ⟨now, _, same⟩ := clock.advance_eq
  have rung : clock.advance.ring.places (.user id) ≤ clock.advance.places (.user id) :=
    places_ring_le _
  have count := @count_queue_foldl_wake_le
    { clock.advance.ring with heldBack := [], turns := roundLength } id clock.advance.ring.heldBack
  have advanced : clock.advance.places (.user id) = clock.places (.user id) := by rw [same]; rfl
  rw [advanced] at rung
  unfold endRound
  simp only [places, heldBack_foldl_wake, alarms_foldl_wake, List.count_nil] at rung count ⊢
  omega

/-- A user that gets its turn was somewhere before. -/
theorem places_next_le :
    (if clock.next?.1 = some (.user id) then 1 else 0) + clock.next?.2.places (.user id) ≤
      clock.places (.user id) := by
  unfold next?
  split
  · exact Nat.le_of_eq (Nat.zero_add _)
  · split
    next turns task rest _ queue =>
      simp only [places, queue, List.count_cons, Option.some.injEq, beq_iff_eq]
      omega
    · rw [if_neg (by simp), Nat.zero_add]
      exact places_endRound_le clock

theorem now_le_next : clock.now ≤ clock.next?.2.now := by
  obtain ⟨now, later, same⟩ := clock.advance_eq
  unfold next?
  split
  · exact Nat.le_refl _
  · split
    · exact Nat.le_refl _
    · simpa only [Clock.endRound, ring_eq, now_foldl_wake, same] using later

end

theorem Ordered.next (ordered : clock.Ordered) : clock.next?.2.Ordered := by
  obtain ⟨now, _, same⟩ := clock.advance_eq
  unfold next?
  split
  · exact ordered
  · split
    · exact ordered
    · simp only [Ordered, endRound, ring_eq, alarms_foldl_wake, same]
      exact ordered.sublist (List.dropWhile_sublist _)

namespace Keeps

theorem advance (keeps : clock.Keeps none id wait?) (ordered : clock.Ordered) :
    clock.advance.Keeps none id wait? := by
  unfold Clock.advance
  split
  · exact keeps
  next idle =>
    split
    · exact keeps
    next alarm rest alarms =>
      refine ⟨keeps.once, ?_, ?_⟩
      · intro time rings
        obtain ⟨wait, later⟩ := keeps.rings time rings
        refine ⟨wait, Nat.max_le.2 ⟨later, ?_⟩⟩
        rw [Ordered, alarms] at ordered
        rw [alarms] at rings
        obtain rfl | inRest := List.mem_cons.1 rings
        · exact Nat.le_refl _
        · exact (List.pairwise_cons.1 ordered).1 _ inRest
      · intro time wait
        obtain alarm | ⟨_, focused | queued⟩ := keeps.waits time wait
        · exact .inl alarm
        · cases focused
        · simp only [isBusy, Bool.or_eq_true, Bool.not_eq_true', not_or, Bool.not_eq_false,
            List.isEmpty_iff] at idle
          rw [idle.1.2] at queued
          cases queued

theorem ring (keeps : clock.Keeps none id wait?) : clock.ring.Keeps none id wait? := by
  refine ⟨Nat.le_trans (Nat.add_le_add_left clock.places_ring_le _) keeps.once, ?_, ?_⟩
  · intro time alarm
    rw [ring_eq, alarms_foldl_wake] at alarm
    rw [ring_eq, now_foldl_wake]
    exact keeps.rings time ((List.dropWhile_sublist _).subset alarm)
  · intro time wait
    rw [ring_eq, alarms_foldl_wake, now_foldl_wake, mem_queue_foldl_wake]
    obtain alarm | ⟨now, focused | queued⟩ := keeps.waits time wait
    · have later := (keeps.rings time alarm).2
      rw [← List.takeWhile_append_dropWhile (p := (·.1 ≤ clock.now)) (l := clock.alarms),
        List.mem_append] at alarm
      obtain due | kept := alarm
      · have reached := List.mem_takeWhile_imp due
        simp only [decide_eq_true_eq] at reached
        exact .inr ⟨Nat.le_antisymm reached later, .inr (.inr (List.mem_map.2 ⟨_, due, rfl⟩))⟩
      · exact .inl kept
    · cases focused
    · exact .inr ⟨now, .inr (.inl queued)⟩

theorem endRound (keeps : clock.Keeps none id wait?) (ordered : clock.Ordered) :
    clock.endRound.Keeps none id wait? := by
  have rung := (keeps.advance ordered).ring
  refine ⟨Nat.le_trans (Nat.add_le_add_left clock.places_endRound_le _) keeps.once, ?_, ?_⟩
  · intro time alarm
    rw [Clock.endRound, alarms_foldl_wake] at alarm
    rw [Clock.endRound, now_foldl_wake]
    exact rung.rings time alarm
  · intro time wait
    rw [Clock.endRound, alarms_foldl_wake, now_foldl_wake, mem_queue_foldl_wake]
    obtain alarm | ⟨now, focused | queued⟩ := rung.waits time wait
    · exact .inl alarm
    · cases focused
    · exact .inr ⟨now, .inr (.inl queued)⟩

theorem next (keeps : clock.Keeps none id wait?) (ordered : clock.Ordered) :
    clock.next?.2.Keeps clock.next?.1 id wait? := by
  have once : (if clock.next?.1 = some (.user id) then 1 else 0) +
      clock.next?.2.places (.user id) ≤ 1 :=
    Nat.le_trans clock.places_next_le (Nat.le_trans (Nat.le_add_left ..) keeps.once)
  revert once
  unfold Clock.next?
  split
  · intro once
    refine ⟨once, keeps.rings, ?_⟩
    intro time wait
    obtain alarm | ⟨now, focused | queued⟩ := keeps.waits time wait
    · exact .inl alarm
    · cases focused
    · exact .inr ⟨now, .inr queued⟩
  · split
    next turns task rest _ queue =>
      intro once
      refine ⟨once, keeps.rings, ?_⟩
      intro time wait
      obtain alarm | ⟨now, focused | queued⟩ := keeps.waits time wait
      · exact .inl alarm
      · cases focused
      · rw [queue] at queued
        obtain rfl | behind := List.mem_cons.1 queued
        · exact .inr ⟨now, .inl rfl⟩
        · exact .inr ⟨now, .inr behind⟩
    · intro _
      exact keeps.endRound ordered

end Keeps

end LoadTest.Clock
