import Mathlib.Data.List.Chain
import Storyboard.Proofs.Time.Arithmetic
import Storyboard.Timeline

/-!
# Neighbours on a track

Only neighbours on a track are compared to find out whether clips overlap. That is enough: a clip
never ends before it starts, so to start when another clip has ended is transitive, and what holds of
all neighbours holds of any two clips, those of no length included.

The end of a track is the least time at which all of its clips have ended. Where no two overlap, the
clips end in their order, and this is the end of the last one.
-/

namespace Storyboard

namespace Clip

variable {a b c : Clip}

/-- A clip has ended when another one starts. -/
def Precedes (a b : Clip) : Prop := a.endCount ≤ b.start.count

theorem start_le_endCount (c : Clip) : c.start.count ≤ c.endCount := Nat.le_add_right _ _

theorem Precedes.start_le (h : a.Precedes b) : a.start.count ≤ b.start.count :=
  Nat.le_trans a.start_le_endCount h

theorem Precedes.end_le (h : a.Precedes b) : a.endCount ≤ b.endCount :=
  Nat.le_trans h b.start_le_endCount

instance : Trans Precedes Precedes Precedes :=
  ⟨fun hab hbc => Nat.le_trans hab.end_le hbc⟩

/-- The end of a clip, if it has 64 bits, is the one that its start and length add up to. -/
theorem end?_eq_some_iff {stop : Millis} : c.end? = some stop ↔ stop.count = c.endCount :=
  Millis.add?_eq_some_iff

end Clip

namespace Track

variable {t : Track} {clips : List Clip}

/-! ## Whether clips overlap -/

theorem inOrder_iff_isChain : inOrder clips = true ↔ clips.IsChain Clip.Precedes := by
  induction clips with
  | nil => simp [inOrder]
  | cons a rest ih =>
    cases rest with
    | nil => simp [inOrder]
    | cons b rest =>
      rw [inOrder, Bool.and_eq_true, decide_eq_true_iff, ih, List.isChain_cons_cons, Clip.Precedes]

/-- No neighbours overlap exactly if no two clips at all do. -/
theorem isNonOverlapping_iff : t.isNonOverlapping = true ↔ t.clips.Pairwise Clip.Precedes := by
  rw [isNonOverlapping, inOrder_iff_isChain, List.isChain_iff_pairwise]

/-! ## When a track has ended -/

/-- The ends of clips, if each of them has 64 bits. -/
theorem exists_ends (h : ∀ c ∈ clips, c.end?.isSome) :
    ∃ ends, clips.mapM Clip.end? = some ends ∧ ends.map (·.count) = clips.map Clip.endCount := by
  induction clips with
  | nil => exact ⟨[], rfl, rfl⟩
  | cons c rest ih =>
    obtain ⟨hc, hrest⟩ := List.forall_mem_cons.mp h
    obtain ⟨stop, hstop⟩ := Option.isSome_iff_exists.mp hc
    obtain ⟨ends, hends, hcounts⟩ := ih hrest
    refine ⟨stop :: ends, ?_, ?_⟩
    · simp [List.mapM_cons, hstop, hends]
    · rw [List.map_cons, List.map_cons, Clip.end?_eq_some_iff.mp hstop, hcounts]

/-- The latest of some times is the least one that is as late as all of them. -/
theorem latest_le_iff {ends : List Millis} {first : Millis} {n : Nat} :
    (ends.foldl (fun a b => if a.count ≤ b.count then b else a) first).count ≤ n ↔
      first.count ≤ n ∧ ∀ e ∈ ends, e.count ≤ n := by
  induction ends generalizing first with
  | nil => simp
  | cons e rest ih =>
    rw [List.foldl_cons, ih, List.forall_mem_cons, ← and_assoc]
    refine and_congr_left fun _ => ?_
    split <;> omega

/-- A track whose clips end within 64 bits has an end, the least time at which all have ended. -/
theorem exists_end? (h : ∀ c ∈ t.clips, c.end?.isSome) :
    ∃ stop, t.end? = some stop ∧ ∀ n, stop.count ≤ n ↔ ∀ c ∈ t.clips, c.endCount ≤ n := by
  obtain ⟨ends, hends, hcounts⟩ := exists_ends h
  refine ⟨_, by rw [end?, hends, Option.map_some], fun n => ?_⟩
  have hall : (∀ e ∈ ends, e.count ≤ n) ↔ ∀ c ∈ t.clips, c.endCount ≤ n := by
    rw [← List.forall_mem_map (P := (· ≤ n)), hcounts, List.forall_mem_map]
  simp [latest_le_iff, hall]

/-- The clips of a track stand in the order of time, and the track ends with the last of them. -/
structure IsOrdered (t : Track) : Prop where
  /-- No clip starts before an earlier one on the track does. -/
  starts : t.clips.Pairwise fun a b => a.start.count ≤ b.start.count
  /-- No clip ends before an earlier one on the track does. -/
  ends : t.clips.Pairwise fun a b => a.endCount ≤ b.endCount
  /-- The track ends with its last clip, and at zero if there is none. -/
  ends_with_last : ∃ stop, t.end? = some stop ∧
    stop.count = t.clips.getLast?.elim 0 Clip.endCount

/-- Where clips end in their order, all have ended with the last of them. -/
theorem endCount_le_iff (h : clips.Pairwise fun a b => a.endCount ≤ b.endCount) (n : Nat) :
    (∀ c ∈ clips, c.endCount ≤ n) ↔ clips.getLast?.elim 0 Clip.endCount ≤ n := by
  rcases List.eq_nil_or_concat' clips with rfl | ⟨earlier, last, rfl⟩
  · simp
  · rw [List.getLast?_concat, Option.elim_some]
    obtain ⟨-, -, hlast⟩ := List.pairwise_append.mp h
    constructor
    · intro hall
      exact hall last (by simp)
    · intro hle c hc
      rcases List.mem_append.mp hc with hc | hc
      · exact Nat.le_trans (hlast c hc last (List.mem_singleton_self last)) hle
      · rwa [List.mem_singleton.mp hc]

/-- To compare neighbours decides for a track whether no two clips on it overlap, however far apart
they stand. Where none do, they start and end in order, and the track ends with the last of them. -/
theorem isNonOverlapping_decides (t : Track) (hends : ∀ c ∈ t.clips, c.end?.isSome) :
    (t.isNonOverlapping = true ↔ t.clips.Pairwise fun a b => a.endCount ≤ b.start.count) ∧
      (t.isNonOverlapping = true → t.IsOrdered) := by
  refine ⟨isNonOverlapping_iff, fun h => ?_⟩
  have hpairs := isNonOverlapping_iff.mp h
  have hordered := hpairs.imp Clip.Precedes.end_le
  -- The end of the track and that of the last clip are both the least time at which all have ended.
  obtain ⟨stop, hstop, hleast⟩ := exists_end? hends
  have hlast : stop.count = t.clips.getLast?.elim 0 Clip.endCount := by
    refine Nat.le_antisymm ?_ ?_
    · exact (hleast _).mpr ((endCount_le_iff hordered _).mpr (Nat.le_refl _))
    · exact (endCount_le_iff hordered _).mp ((hleast _).mp (Nat.le_refl _))
  exact
    { starts := hpairs.imp Clip.Precedes.start_le
      ends := hordered
      ends_with_last := ⟨stop, hstop, hlast⟩ }

/-- A clip of no length between two others, at the time when the first ends and the last starts. -/
theorem isNonOverlapping_decides_no_length :
    let clip (start length : Millis) : Clip := { asset := .color "#000000", start, length }
    let t : Track := ⟨.background, [clip .zero ⟨1000, by decide⟩, clip ⟨1000, by decide⟩ .zero,
      clip ⟨1000, by decide⟩ ⟨500, by decide⟩]⟩
    (∀ c ∈ t.clips, c.end?.isSome) ∧ t.isNonOverlapping = true ∧
      (t.clips.Pairwise fun a b => a.endCount ≤ b.start.count) ∧ t.IsOrdered := by
  intro clip t
  have hends : ∀ c ∈ t.clips, c.end?.isSome := by decide
  have h : t.isNonOverlapping = true := by decide
  obtain ⟨hiff, hordered⟩ := t.isNonOverlapping_decides hends
  exact ⟨hends, h, hiff.mp h, hordered h⟩

end Track

end Storyboard
