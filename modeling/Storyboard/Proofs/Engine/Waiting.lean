import Mathlib.Logic.Relation
import Mathlib.Order.Nat
import Storyboard.Engine.Scripted
import Storyboard.Engine.Tracker

/-!
# Waiting for a job

How a wait ends is decided by the answers that its looks get and by how many looks it may take. The
first answer that ends it is handed on, and no look is taken after it; if there is none among the
looks that may be taken, the wait is given up. The pauses between the looks have no say in it.

The looks of a wait are numbered from zero, and `Wait.look` is what each of them comes to if the
wait goes on until then. `Wait.Stands` is the invariant of the loop in these terms, `Stands.next`
one turn of it, and `Stands.ends` the whole of it.
-/

namespace Storyboard

/-! ## Going backwards -/

namespace RenderStatus

/-- A job may come from one status to another in any number of steps. -/
def LeadsTo (before now : RenderStatus) : Prop :=
  Relation.ReflTransGen (fun a b => canGoTo a b = true) before now

/-- Two steps are enough. -/
theorem isReachableFrom_iff {before now : RenderStatus} :
    now.isReachableFrom before = true ↔ before.LeadsTo now := by
  constructor
  · intro h
    simp only [isReachableFrom, Bool.or_eq_true, Bool.and_eq_true] at h
    rcases h with hstep | ⟨hfirst, hsecond⟩
    · exact .single hstep
    · exact .tail (.single hfirst) hsecond
  · intro h
    induction h with
    | refl => cases before <;> rfl
    | @tail middle now _ hstep ih =>
      revert hstep ih
      cases before <;> cases middle <;> cases now <;> decide

instance (before now : RenderStatus) : Decidable (before.LeadsTo now) :=
  decidable_of_iff _ isReachableFrom_iff

end RenderStatus

/-! ## Pauses -/

namespace PollSchedule

variable {s : PollSchedule} {drawn : Nat → Nat}

/-- The pauses of a wait, each after the look of its number. -/
def pauseAfter (s : PollSchedule) (drawn : Nat → Nat) : Nat → Nat
  | 0 => s.pause 0 0 (drawn 0)
  | k + 1 => s.pause (k + 1) (s.pauseAfter drawn k) (drawn (k + 1))

theorem pauseAfter_le_longest (k : Nat) : s.pauseAfter drawn k ≤ s.longest := by
  cases k with
  | zero => exact Nat.min_le_right _ _
  | succ k => exact Nat.min_le_right _ _

/-- Pauses never get shorter. -/
theorem pauseAfter_le_succ (k : Nat) : s.pauseAfter drawn k ≤ s.pauseAfter drawn (k + 1) := by
  have hlongest := @pauseAfter_le_longest s drawn k
  exact Nat.le_min.mpr ⟨Nat.le_max_right _ _, hlongest⟩

end PollSchedule

/-! ## What a wait is made of -/

/-- An answer that a wait ends with. -/
def Reply.EndsWait : Reply RenderJob → Prop
  | .ok job => job.status.isTerminal = true
  | .failed _ | .crashed _ => True

instance : DecidablePred Reply.EndsWait
  | .ok job => inferInstanceAs (Decidable (job.status.isTerminal = true))
  | .failed _ | .crashed _ => .isTrue trivial

/-- The events that an answer is counted by. -/
def Reply.events : Reply RenderJob → List Event
  | .ok job => [.poll (some job.status)]
  | .failed _ => [.poll none]
  | .crashed _ => []

/-- A wait for the end of a job. -/
structure Wait (σ : Type) where
  /-- The engine that is asked. -/
  engine : Engine σ
  /-- The job. -/
  id : JobId
  /-- How many looks may be taken, and how long the pauses are. -/
  schedule : PollSchedule
  /-- What goes on between the looks. -/
  between : Interlude σ
  /-- The world in which the wait begins. -/
  world : World σ

namespace Wait

variable {σ : Type}

/-- How the wait ends. -/
def outcome (x : Wait σ) : Reply RenderJob × World σ :=
  x.engine.waitForEnd x.id x.schedule x.world x.between

/-- The engine before the look of a number. -/
def beforeLook (x : Wait σ) : Nat → σ
  | 0 => x.world.engine
  | k + 1 => x.between.pass (x.schedule.pauseAfter x.between.drawn k)
      (x.engine.status x.id (x.beforeLook k)).state

/-- What the look of a number comes to. -/
def look (x : Wait σ) (k : Nat) : Exchange σ RenderJob := x.engine.status x.id (x.beforeLook k)

/-- The engine after so many looks, before anything else goes on. -/
def afterLooks (x : Wait σ) : Nat → σ
  | 0 => x.world.engine
  | k + 1 => (x.look k).state

/-- The looks get the given answers. -/
def Gets (x : Wait σ) (answers : Nat → Reply RenderJob) : Prop :=
  ∀ k < x.schedule.maxAttempts, (x.look k).reply = answers k

/-- The warnings at the look of a number: one, if the job that it shows cannot have come there from
where the look before has shown it. -/
def setbacks (answers : Nat → Reply RenderJob) : Nat → List LogEntry
  | 0 => []
  | k + 1 =>
    match answers k, answers (k + 1) with
    | .ok before, .ok now =>
      if before.status.LeadsTo now.status then []
      else [Engine.wentBackwards before.status now.status]
    | _, _ => []

/-- A number that an engine shows is the number of looks at it, up to where it has begun. -/
structure Counts (x : Wait σ) (calls : σ → Nat) : Prop where
  look_eq : ∀ s, calls (x.engine.status x.id s).state = calls s + 1
  pass_eq : ∀ pause s, calls (x.between.pass pause s) = calls s

/-- In the world so many looks have been taken, and nothing else has come of the wait. -/
structure HasTaken (x : Wait σ) (answers : Nat → Reply RenderJob) (looks : Nat) (w : World σ) :
    Prop where
  /-- The engine is as the last of them has left it. -/
  engine_eq : w.engine = x.afterLooks looks
  /-- The engine was asked once for each of them. -/
  calls_eq : ∀ calls, x.Counts calls → calls w.engine = calls x.world.engine + looks
  /-- At each look the engine had its say, and then there was the warning, if there was one. -/
  logs_eq : w.logs = x.world.logs ++
    (List.range looks).flatMap fun k => (x.look k).logs ++ setbacks answers k
  /-- Each look was counted by its answer. -/
  events_eq : w.events = x.world.events ++ (List.range looks).flatMap fun k => (answers k).events

/-! ## One look -/

/-- What one look does to the world. -/
theorem poll_eq (engine : Engine σ) (id : JobId) (w : World σ) :
    engine.poll id w =
      ((engine.status id w.engine).reply,
        ⟨(engine.status id w.engine).state, w.logs ++ (engine.status id w.engine).logs,
          w.events ++ (engine.status id w.engine).reply.events⟩) := by
  unfold Engine.poll
  rcases engine.status id w.engine with ⟨job | error | message, state, logs⟩
  · rfl
  · rfl
  · simp [World.after, Reply.events]

/-- The status that was seen before the look of a number. -/
def seenBefore (answers : Nat → Reply RenderJob) : Nat → Option RenderStatus
  | 0 => none
  | k + 1 =>
    match answers k with
    | .ok job => some job.status
    | _ => none

theorem noteOrder_eq {answers : Nat → Reply RenderJob} {k : Nat} {job : RenderJob}
    (h : answers k = .ok job) (w : World σ) :
    Engine.noteOrder w (seenBefore answers k) job.status =
      { w with logs := w.logs ++ setbacks answers k } := by
  cases k with
  | zero => simp [Engine.noteOrder, seenBefore, setbacks]
  | succ k =>
    rcases hbefore : answers k with before | error | message
    · simp only [Engine.noteOrder, seenBefore, setbacks, hbefore, h]
      by_cases hreach : job.status.isReachableFrom before.status = true
      · simp [hreach, RenderStatus.isReachableFrom_iff.mp hreach]
      · have hleads := mt RenderStatus.isReachableFrom_iff.mpr hreach
        simp [hreach, hleads, World.log]
    · simp [Engine.noteOrder, seenBefore, setbacks, hbefore]
    · simp [Engine.noteOrder, seenBefore, setbacks, hbefore]

/-! ## The loop -/

variable {x : Wait σ} {answers : Nat → Reply RenderJob}

/-- The pause before the look of a number. -/
def pauseBefore (x : Wait σ) : Nat → Nat
  | 0 => 0
  | k + 1 => x.schedule.pauseAfter x.between.drawn k

theorem pause_pauseBefore (k : Nat) :
    x.schedule.pause k (x.pauseBefore k) (x.between.drawn k) =
      x.schedule.pauseAfter x.between.drawn k := by
  cases k <;> rfl

theorem setbacks_eq_nil {k : Nat} (h : ∀ job, answers k ≠ .ok job) : setbacks answers k = [] := by
  cases k with
  | zero => rfl
  | succ k =>
    rcases hnow : answers (k + 1) with job | error | message
    · exact absurd hnow (h job)
    · rcases hbefore : answers k <;> simp [setbacks, hbefore, hnow]
    · rcases hbefore : answers k <;> simp [setbacks, hbefore, hnow]

theorem Counts.beforeLook_eq {calls : σ → Nat} (h : x.Counts calls) (k : Nat) :
    calls (x.beforeLook k) = calls x.world.engine + k := by
  induction k with
  | zero => rfl
  | succ k ih =>
    rw [beforeLook, h.pass_eq, h.look_eq, ih]
    rfl

theorem hasTaken_zero : x.HasTaken answers 0 x.world := by
  refine ⟨rfl, fun _ _ => rfl, ?_, ?_⟩
  · simp
  · simp

/-- One more look adds its own share to what the looks before have brought. -/
theorem HasTaken.succ {k : Nat} {w : World σ} {engine : σ}
    (h : x.HasTaken answers k { w with engine := engine }) :
    x.HasTaken answers (k + 1)
      ⟨(x.look k).state, w.logs ++ ((x.look k).logs ++ setbacks answers k),
        w.events ++ (answers k).events⟩ := by
  have hlogs : w.logs = _ := h.logs_eq
  have hevents : w.events = _ := h.events_eq
  refine ⟨rfl, ?_, ?_, ?_⟩
  · intro calls hcalls
    have hlook : calls (x.look k).state = calls (x.beforeLook k) + 1 := hcalls.look_eq _
    rw [hlook, hcalls.beforeLook_eq]
    rfl
  · rw [hlogs, List.range_succ, List.flatMap_append, List.flatMap_singleton, List.append_assoc]
  · rw [hevents, List.range_succ, List.flatMap_append, List.flatMap_singleton, List.append_assoc]

/-- The wait has gone on for so many looks, and so many are left. -/
structure Stands (x : Wait σ) (answers : Nat → Reply RenderJob) (looks left : Nat)
    (before : Option RenderStatus) (pause : Nat) (w : World σ) : Prop where
  looks_eq : looks + left = x.schedule.maxAttempts
  goes_on : ∀ k < looks, ¬(answers k).EndsWait
  before_eq : before = seenBefore answers looks
  pause_eq : pause = x.pauseBefore looks
  /-- After the last look no pause was made. -/
  engine_eq : w.engine = if left = 0 then x.afterLooks looks else x.beforeLook looks
  taken : x.HasTaken answers looks { w with engine := x.afterLooks looks }

theorem stands_start : x.Stands answers 0 x.schedule.maxAttempts none 0 x.world where
  looks_eq := Nat.zero_add _
  goes_on := fun k hk => absurd hk (Nat.not_lt_zero k)
  before_eq := rfl
  pause_eq := rfl
  engine_eq := by
    split
    · rfl
    · rfl
  taken := hasTaken_zero

/-- A wait has ended as its answers say. -/
structure EndsBy (x : Wait σ) (answers : Nat → Reply RenderJob) (r : Reply RenderJob × World σ) :
    Prop where
  /-- The first answer that ends it is handed on, if there is one. -/
  first : ∀ k, IsLeast {k | k < x.schedule.maxAttempts ∧ (answers k).EndsWait} k →
    r.1 = answers k ∧ x.HasTaken answers (k + 1) r.2
  /-- If there is none it is given up. -/
  none : (∀ k < x.schedule.maxAttempts, ¬(answers k).EndsWait) →
    r.1 = .failed (.pollTimeout x.id x.schedule.maxAttempts) ∧
      x.HasTaken answers x.schedule.maxAttempts r.2

/-- What the look that ends the wait comes to is what the wait comes to. -/
theorem endsBy_first {k : Nat} {r : Reply RenderJob × World σ}
    (hk : k < x.schedule.maxAttempts) (hends : (answers k).EndsWait)
    (hbefore : ∀ i < k, ¬(answers i).EndsWait) (hreply : r.1 = answers k)
    (htaken : x.HasTaken answers (k + 1) r.2) : x.EndsBy answers r := by
  constructor
  · -- first
    rintro other ⟨⟨-, hother⟩, hleast⟩
    have hle : other ≤ k := hleast ⟨hk, hends⟩
    have heq : other = k := by
      rcases Nat.lt_or_eq_of_le hle with hlt | heq
      · exact absurd hother (hbefore other hlt)
      · exact heq
    rw [heq]
    exact ⟨hreply, htaken⟩
  · -- none
    intro hnone
    exact absurd hends (hnone k hk)

theorem endsBy_none {r : Reply RenderJob × World σ}
    (hnone : ∀ k < x.schedule.maxAttempts, ¬(answers k).EndsWait)
    (hreply : r.1 = .failed (.pollTimeout x.id x.schedule.maxAttempts))
    (htaken : x.HasTaken answers x.schedule.maxAttempts r.2) : x.EndsBy answers r := by
  constructor
  · -- first
    rintro k ⟨⟨hk, hends⟩, -⟩
    exact absurd hends (hnone k hk)
  · -- none
    intro _
    exact ⟨hreply, htaken⟩

/-- After a look that does not end the wait it goes on with one look less. -/
theorem Stands.next {looks left pause : Nat} {before : Option RenderStatus} {w : World σ}
    {job : RenderJob} (h : x.Stands answers looks (left + 1) before pause w)
    (hanswer : answers looks = .ok job) (hgoes : ¬job.status.isTerminal = true) :
    x.Stands answers (looks + 1) left (some job.status)
      (x.schedule.pause looks pause (x.between.drawn looks))
      ⟨if left = 0 then (x.look looks).state
        else x.between.pass (x.schedule.pause looks pause (x.between.drawn looks))
          (x.look looks).state,
        w.logs ++ ((x.look looks).logs ++ setbacks answers looks),
        w.events ++ (answers looks).events⟩ := by
  have hpause : x.schedule.pause looks pause (x.between.drawn looks) =
      x.schedule.pauseAfter x.between.drawn looks := by
    rw [h.pause_eq, pause_pauseBefore]
  refine ⟨?_, ?_, ?_, hpause, ?_, h.taken.succ⟩
  · -- looks_eq
    have := h.looks_eq
    omega
  · -- goes_on
    intro k hk
    rcases Nat.lt_succ_iff_lt_or_eq.mp hk with hlt | rfl
    · exact h.goes_on k hlt
    · rw [hanswer]
      exact hgoes
  · -- before_eq
    simp only [seenBefore, hanswer]
  · -- engine_eq
    rw [hpause]
    rfl

section Turn

variable {looks left pause : Nat} {before : Option RenderStatus} {w : World σ}

/-- The next look gets the next answer. -/
theorem Stands.poll_eq (h : x.Stands answers looks (left + 1) before pause w)
    (hgets : x.Gets answers) :
    x.engine.poll x.id w = (answers looks,
      ⟨(x.look looks).state, w.logs ++ (x.look looks).logs, w.events ++ (answers looks).events⟩) := by
  have hlooks := h.looks_eq
  have hlt : looks < x.schedule.maxAttempts := by omega
  have hengine : w.engine = x.beforeLook looks := h.engine_eq
  have hreply : (x.engine.status x.id (x.beforeLook looks)).reply = answers looks := hgets looks hlt
  rw [Wait.poll_eq, hengine, hreply]
  rfl

/-- A look that ends the wait is the first that does. -/
theorem Stands.last (h : x.Stands answers looks (left + 1) before pause w)
    (hends : (answers looks).EndsWait) :
    x.EndsBy answers (answers looks,
      ⟨(x.look looks).state, w.logs ++ ((x.look looks).logs ++ setbacks answers looks),
        w.events ++ (answers looks).events⟩) := by
  have hlooks := h.looks_eq
  have hlt : looks < x.schedule.maxAttempts := by omega
  exact endsBy_first hlt hends h.goes_on rfl h.taken.succ

/-- However far a wait has come, it ends as its answers say. -/
theorem Stands.ends (h : x.Stands answers looks left before pause w) (hgets : x.Gets answers) :
    x.EndsBy answers (x.engine.waitFrom x.between x.id x.schedule left before pause w) := by
  induction left generalizing looks before pause w with
  | zero =>
    have hlooks : looks = x.schedule.maxAttempts := h.looks_eq
    have hengine : w.engine = x.afterLooks looks := h.engine_eq
    have htaken := h.taken
    rw [← hengine, hlooks] at htaken
    exact endsBy_none (hlooks ▸ h.goes_on) rfl htaken
  | succ left ih =>
    unfold Engine.waitFrom
    rw [h.poll_eq hgets]
    rcases hanswer : answers looks with job | error | message
    · -- the engine shows a job
      simp only [h.before_eq, noteOrder_eq hanswer, List.append_assoc]
      by_cases hterminal : job.status.isTerminal = true
      · rw [if_pos hterminal]
        have hlast := h.last (by rw [hanswer]; exact hterminal)
        rw [hanswer] at hlast
        exact hlast
      · rw [if_neg hterminal]
        have hnext := ih (h.next hanswer hterminal)
        have hlooks := h.looks_eq
        have hnumber : x.schedule.maxAttempts - (left + 1) = looks := by omega
        rw [hanswer] at hnext
        rw [hnumber]
        -- a pause changes the engine and nothing else
        have hpass : ∀ (v : World σ) (engine : σ), (if left = 0 then v else { v with engine }) =
            ⟨if left = 0 then v.engine else engine, v.logs, v.events⟩ := by
          intro v engine
          split
          · rfl
          · rfl
        rw [hpass]
        exact hnext
    · -- the engine reports an error
      have hlast := h.last (by rw [hanswer]; trivial)
      rw [setbacks_eq_nil (by simp [hanswer]), List.append_nil, hanswer] at hlast
      exact hlast
    · -- the engine breaks down
      have hlast := h.last (by rw [hanswer]; trivial)
      rw [setbacks_eq_nil (by simp [hanswer]), List.append_nil, hanswer] at hlast
      exact hlast

end Turn

/-! ## The wait -/

/-- There are no two ways in which a wait with the given answers can end. -/
theorem EndsBy.reply_eq {τ : Type} {y : Wait τ} {r : Reply RenderJob × World σ}
    {q : Reply RenderJob × World τ} (hr : x.EndsBy answers r) (hq : y.EndsBy answers q)
    (hid : y.id = x.id) (hattempts : y.schedule.maxAttempts = x.schedule.maxAttempts) :
    q.1 = r.1 := by
  by_cases hsome : ∃ k, k < x.schedule.maxAttempts ∧ (answers k).EndsWait
  · obtain ⟨k, hleast⟩ : ∃ k, IsLeast {k | k < x.schedule.maxAttempts ∧ (answers k).EndsWait} k :=
      ⟨_, Nat.isLeast_find hsome⟩
    have hleast' := hleast
    rw [← hattempts] at hleast'
    rw [(hr.first k hleast).1, (hq.first k hleast').1]
  · have hnone : ∀ k < x.schedule.maxAttempts, ¬(answers k).EndsWait := by
      intro k hk hends
      exact hsome ⟨k, hk, hends⟩
    have hnone' := hnone
    rw [← hattempts] at hnone'
    rw [(hr.none hnone).1, (hq.none hnone').1, hid, hattempts]

end Wait

end Storyboard
