import Storyboard.Proofs.Outcome
import Storyboard.Proofs.Timeline.Tiling

/-!
# What keeps scenes from being laid out

Scenes are laid out until one of them does not last, or ends later than can be counted. The
durations alone tell which of the two happens and where: the first obstacle in the list decides. The
margins of text have no say in it, since taking them off never fails and never leads out of a
scene's window.

`Scene.placeAll_eq_error_iff` finds the first obstacle from where the cursor stands, by induction on
the scenes that are left; `Timeline.judged_by_durations` puts it together with what is known of
scenes that are laid out.
-/

namespace Storyboard

namespace Scene

/-! ## Obstacles -/

/-- Scenes from the given count on cannot be laid out past a position: the scene there does not
last, or the scenes up to it last too long to be counted. -/
def IsObstacle (start : Nat) (scenes : List Scene) (k : Nat) : Prop :=
  ∃ s, scenes[k]? = some s ∧
    (s.duration.count = 0 ∨ Millis.maxCount < start + totalCount (scenes.take (k + 1)))

/-- No position before is an obstacle. -/
structure IsFirstObstacle (start : Nat) (scenes : List Scene) (k : Nat) : Prop where
  here : IsObstacle start scenes k
  before : ∀ j < k, ¬IsObstacle start scenes j

/-- What is said of a scene that is an obstacle, if it has the given number. -/
def complaint (s : Scene) (number : Nat) : Rejection :=
  if s.duration.isZero then .emptyScene number else .totalTooLong

variable {insets : InsetProfile} {s : Scene} {rest scenes : List Scene} {start k : Nat}

theorem isObstacle_zero_iff : IsObstacle start (s :: rest) 0 ↔
    s.duration.count = 0 ∨ Millis.maxCount < start + s.duration.count := by
  simp [IsObstacle, totalCount]

theorem isObstacle_succ_iff : IsObstacle start (s :: rest) (k + 1) ↔
    IsObstacle (start + s.duration.count) rest k := by
  simp only [IsObstacle, List.getElem?_cons_succ, List.take_succ_cons, totalCount_cons,
    Nat.add_assoc]

/-- The first obstacle is the first scene, or the first one among the others. -/
theorem isFirstObstacle_cons_iff : IsFirstObstacle start (s :: rest) k ↔
    (k = 0 ∧ IsObstacle start (s :: rest) 0) ∨
      ¬IsObstacle start (s :: rest) 0 ∧
        ∃ j, k = j + 1 ∧ IsFirstObstacle (start + s.duration.count) rest j := by
  constructor
  · rintro ⟨hhere, hbefore⟩
    cases k with
    | zero => exact .inl ⟨rfl, hhere⟩
    | succ j =>
      refine .inr ⟨hbefore 0 (Nat.succ_pos j), j, rfl, isObstacle_succ_iff.mp hhere, ?_⟩
      intro i hi hobstacle
      exact hbefore (i + 1) (Nat.succ_lt_succ hi) (isObstacle_succ_iff.mpr hobstacle)
  · rintro (⟨rfl, hhere⟩ | ⟨hclear, j, rfl, hhere, hbefore⟩)
    · exact ⟨hhere, fun i hi => absurd hi (Nat.not_lt_zero i)⟩
    · refine ⟨isObstacle_succ_iff.mpr hhere, ?_⟩
      intro i hi hobstacle
      cases i with
      | zero => exact hclear hobstacle
      | succ i => exact hbefore i (Nat.lt_of_succ_lt_succ hi) (isObstacle_succ_iff.mp hobstacle)

/-- Where the scenes last too long, and not before, the one that makes them do so lasts. -/
theorem IsFirstObstacle.lasts (h : IsFirstObstacle 0 scenes k) (hs : scenes[k]? = some s)
    (hlong : Millis.maxCount < totalCount (scenes.take (k + 1))) : 0 < s.duration.count := by
  have htotal := totalCount_take_succ hs
  cases k with
  | zero =>
    rw [List.take_zero] at htotal
    simp only [totalCount, List.map_nil, List.sum_nil] at htotal hlong
    omega
  | succ j =>
    obtain ⟨hk, -⟩ := List.getElem?_eq_some_iff.mp hs
    have hj : j < scenes.length := by omega
    have hshort : ¬Millis.maxCount < totalCount (scenes.take (j + 1)) := by
      intro hlong'
      refine h.before j (Nat.lt_succ_self j) ⟨scenes[j], List.getElem?_eq_getElem hj, .inr ?_⟩
      rwa [Nat.zero_add]
    omega

/-- Placing scenes fails with what is said of the first obstacle. -/
theorem placeAll_eq_error_iff {number : Nat} {start : Millis}
    {e : Rejection} : placeAll insets scenes number start = .error e ↔
      ∃ k s, IsFirstObstacle start.count scenes k ∧ scenes[k]? = some s ∧
        e = s.complaint (number + k) := by
  induction scenes generalizing number start with
  | nil =>
    refine iff_of_false (by simp [placeAll]) ?_
    rintro ⟨k, s, -, hs, -⟩
    simp at hs
  | cons s rest ih =>
    have hfirst (hobstacle : IsObstacle start.count (s :: rest) 0) :
        (∃ k s', IsFirstObstacle start.count (s :: rest) k ∧ (s :: rest)[k]? = some s' ∧
          e = s'.complaint (number + k)) ↔ e = s.complaint number := by
      constructor
      · rintro ⟨k, s', hk, hs', rfl⟩
        rcases isFirstObstacle_cons_iff.mp hk with ⟨rfl, -⟩ | ⟨hclear, -⟩
        · obtain rfl := Option.some.inj hs'
          rfl
        · exact absurd hobstacle hclear
      · rintro rfl
        exact ⟨0, s, isFirstObstacle_cons_iff.mpr (.inl ⟨rfl, hobstacle⟩), rfl, rfl⟩
    unfold placeAll
    cases hzero : s.duration.isZero with
    | true =>
      rw [if_pos rfl, hfirst (isObstacle_zero_iff.mpr (.inl (Millis.isZero_iff.mp hzero))),
        complaint, if_pos hzero, Except.error.injEq, eq_comm]
    | false =>
      have hlasts := Millis.isZero_eq_false_iff.mp hzero
      rw [if_neg Bool.false_ne_true]
      cases hnext : start.add? s.duration with
      | none =>
        have hlong := Millis.add?_eq_none_iff.mp hnext
        rw [hfirst (isObstacle_zero_iff.mpr (.inr hlong)), complaint, hzero,
          if_neg Bool.false_ne_true, Except.error.injEq, eq_comm]
      | some next =>
        have hcount := Millis.add?_eq_some_iff.mp hnext
        have hclear : ¬IsObstacle start.count (s :: rest) 0 := by
          have hlt := next.count_lt
          rw [isObstacle_zero_iff, Millis.maxCount]
          omega
        have hrest : (∃ k s', IsFirstObstacle start.count (s :: rest) k ∧
            (s :: rest)[k]? = some s' ∧ e = s'.complaint (number + k)) ↔
            placeAll insets rest (number + 1) next = .error e := by
          rw [ih, hcount]
          constructor
          · rintro ⟨k, s', hk, hs', rfl⟩
            rcases isFirstObstacle_cons_iff.mp hk with ⟨-, hobstacle⟩ | ⟨-, j, rfl, hj⟩
            · exact absurd hobstacle hclear
            · exact ⟨j, s', hj, hs', by rw [Nat.add_right_comm, Nat.add_assoc]⟩
          · rintro ⟨j, s', hj, hs', rfl⟩
            refine ⟨j + 1, s', isFirstObstacle_cons_iff.mpr (.inr ⟨hclear, j, rfl, hj⟩), hs', ?_⟩
            rw [Nat.add_right_comm, Nat.add_assoc]
        dsimp only
        rw [hrest, bind_eq_error_iff]
        constructor
        · rintro (h | ⟨placed, -, h⟩)
          · exact h
          · simp at h
        · exact .inl

/-! ## No obstacle -/

theorem LaidOut.lasts {number : Nat} {start final : Millis}
    {ps : List PlacedScene} (h : LaidOut insets scenes number start ps final) :
    ∀ s ∈ scenes, 0 < s.duration.count := by
  induction h with
  | nil => exact fun s hs => absurd hs List.not_mem_nil
  | cons lasts _ _ ih => exact List.forall_mem_cons.mpr ⟨lasts, ih⟩

/-- Scenes that last are laid out, if the time at which the last of them ends can be counted. -/
theorem exists_laidOut {insets : InsetProfile} {number : Nat} {start : Millis}
    (lasts : ∀ s ∈ scenes, 0 < s.duration.count)
    (hroom : start.count + totalCount scenes < 18446744073709551616) :
    ∃ ps final, LaidOut insets scenes number start ps final := by
  induction scenes generalizing number start with
  | nil => exact ⟨[], start, .nil number start⟩
  | cons s rest ih =>
    obtain ⟨hs, hrest⟩ := List.forall_mem_cons.mp lasts
    rw [totalCount_cons] at hroom
    have hnext : start.count + s.duration.count < 18446744073709551616 := by omega
    obtain ⟨ps, final, hlaid⟩ := @ih (number + 1) ⟨_, hnext⟩ hrest (by simp only; omega)
    exact ⟨_, final, .cons hs rfl hlaid⟩

end Scene

/-- A clip lasts, and it ends with the timeline or sooner. -/
def Timeline.Holds (t : Timeline) (c : Clip) : Prop :=
  0 < c.length.count ∧ c.start.count + c.length.count ≤ t.duration.count

namespace Timeline

variable {insets : InsetProfile} {scenes : List Scene} {t : Timeline}

theorem holds_of_ofScenes (h : ofScenes insets scenes = .ok t) : ∀ c ∈ t.clips, t.Holds c := by
  obtain ⟨first, rest, ps, -, hlaid, hteq⟩ := ofScenes_eq_ok_iff.mp h
  have ht : t.tracks = visualTracks ps := by rw [hteq]
  intro c hc
  obtain ⟨track, hm, hc⟩ := List.mem_flatMap.mp hc
  rw [(track_clips_of_tracks_eq ht hm).1, clipsOf_of_tracks_eq ht] at hc
  obtain ⟨w, hw, hstands⟩ := exists_left_of_forall₂ (hlaid.clips_stand track.kind) hc
  have hend := Scene.end_le_of_mem_windows (List.mem_of_mem_filter hw)
  have hle := hstands.end_le
  refine ⟨hstands.length_pos, ?_⟩
  rw [hlaid.final_count]
  rw [Clip.endCount] at hle
  omega

/-- Scenes that last make a timeline, if the sum of their durations can be counted. -/
theorem exists_ofScenes (hne : scenes ≠ []) (lasts : ∀ s ∈ scenes, 0 < s.duration.count)
    (hroom : Scene.totalCount scenes < 18446744073709551616) :
    ∃ t, ofScenes insets scenes = .ok t ∧ t.duration.count = Scene.totalCount scenes := by
  obtain ⟨first, rest, rfl⟩ := List.exists_cons_of_ne_nil hne
  obtain ⟨ps, final, hlaid⟩ := @Scene.exists_laidOut (first :: rest) insets 1 .zero lasts
    (by rw [Millis.zero_count, Nat.zero_add]; exact hroom)
  refine ⟨⟨first.backgroundColor, visualTracks ps, none, final⟩,
    ofScenes_eq_ok_iff.mpr ⟨first, rest, ps, rfl, hlaid, rfl⟩, ?_⟩
  rw [hlaid.final_count, Millis.zero_count, Nat.zero_add]

/-! ## What is said -/

/-- What is said of scenes that are not made a timeline. -/
inductive Complains (scenes : List Scene) : String → Prop
  /-- There are none. -/
  | nothing (none : scenes = []) : Complains scenes "at least one scene is required"
  /-- The first obstacle is a scene that does not last. Its number is counted from one. -/
  | empty {k : Nat} {s : Scene} (first : Scene.IsFirstObstacle 0 scenes k)
      (here : scenes[k]? = some s) (lasts_not : s.duration.count = 0) :
      Complains scenes s!"scene {k + 1} duration must be greater than zero"
  /-- The first obstacle is that the scenes last too long to be counted. -/
  | long {k : Nat} (first : Scene.IsFirstObstacle 0 scenes k)
      (beyond : Millis.maxCount < Scene.totalCount (scenes.take (k + 1))) :
      Complains scenes "total duration is too long"

theorem ofScenes_cons_eq_error_iff {first : Scene} {rest : List Scene} {e : Rejection} :
    ofScenes insets (first :: rest) = .error e ↔
      Scene.placeAll insets (first :: rest) 1 .zero = .error e := by
  unfold ofScenes
  rw [bind_eq_error_iff]
  constructor
  · rintro (h | ⟨placed, -, h⟩)
    · exact h
    · simp at h
  · exact .inl

/-- What is said of the first obstacle is what is to be said. -/
theorem complains_of_first {k : Nat} {s : Scene} (hfirst : Scene.IsFirstObstacle 0 scenes k)
    (hs : scenes[k]? = some s) : Complains scenes (s.complaint (1 + k)).message := by
  unfold Scene.complaint
  cases hzero : s.duration.isZero with
  | true =>
    rw [if_pos rfl, Nat.add_comm]
    exact .empty hfirst hs (Millis.isZero_iff.mp hzero)
  | false =>
    obtain ⟨s', hs', hcause⟩ := hfirst.here
    obtain rfl := Option.some.inj (hs.symm.trans hs')
    rw [if_neg Bool.false_ne_true]
    rcases hcause with hcause | hcause
    · exact absurd hcause (Nat.ne_of_gt (Millis.isZero_eq_false_iff.mp hzero))
    · rw [Nat.zero_add] at hcause
      exact .long hfirst hcause

/-- Scenes that are not made a timeline are turned away with what is to be said of them. -/
theorem error_iff_complains {text : String} :
    (∃ e, ofScenes insets scenes = .error e ∧ e.message = text) ↔ Complains scenes text := by
  constructor
  · rintro ⟨e, he, rfl⟩
    cases scenes with
    | nil =>
      obtain rfl := Except.error.inj he
      exact .nothing rfl
    | cons first rest =>
      obtain ⟨k, s, hfirst, hs, rfl⟩ :=
        Scene.placeAll_eq_error_iff.mp (ofScenes_cons_eq_error_iff.mp he)
      exact complains_of_first hfirst hs
  · have hfails {k : Nat} {s : Scene} (hfirst : Scene.IsFirstObstacle 0 scenes k)
        (hs : scenes[k]? = some s) : ofScenes insets scenes = .error (s.complaint (1 + k)) := by
      obtain ⟨first, rest, rfl⟩ := List.exists_cons_of_ne_nil (List.ne_nil_of_mem
        (List.mem_of_getElem? hs))
      exact ofScenes_cons_eq_error_iff.mpr
        (Scene.placeAll_eq_error_iff.mpr ⟨k, s, hfirst, hs, rfl⟩)
    rintro (hnone | ⟨hfirst, hs, hzero⟩ | ⟨hfirst, hbeyond⟩)
    · subst hnone
      exact ⟨_, rfl, rfl⟩
    · refine ⟨_, hfails hfirst hs, ?_⟩
      rw [Scene.complaint, if_pos (Millis.isZero_iff.mpr hzero), Nat.add_comm]
      rfl
    · obtain ⟨s, hs, -⟩ := hfirst.here
      refine ⟨_, hfails hfirst hs, ?_⟩
      rw [Scene.complaint, if_neg]
      · rfl
      · exact Bool.eq_false_iff.mp (Millis.isZero_eq_false_iff.mpr (hfirst.lasts hs hbeyond))

/-- A list of scenes is made a timeline, or turned away, as its durations demand. -/
structure Judged (insets : InsetProfile) (scenes : List Scene) : Prop where
  /-- A timeline is made of scenes that last and whose durations add up to a count of 64 bits. -/
  ok_iff : (∃ t, ofScenes insets scenes = .ok t) ↔
    scenes ≠ [] ∧ (∀ s ∈ scenes, 0 < s.duration.count) ∧
      Scene.totalCount scenes ≤ Millis.maxCount
  /-- It lasts as long as they do, without any bits lost. -/
  total : ∀ t, ofScenes insets scenes = .ok t →
    t.duration.count = Scene.totalCount scenes ∧ ∀ c ∈ t.clips, t.Holds c
  /-- Other scenes are turned away with what is to be said of them, and no scenes with anything
  else. -/
  error_iff : ∀ text, (∃ e, ofScenes insets scenes = .error e ∧ e.message = text) ↔
    Complains scenes text
  /-- Clips that are made before the scenes turn out to last too long stand in the window of their
  scene all the same, wherever that starts. -/
  in_window : ∀ s ∈ scenes, 0 < s.duration.count → ∀ start isFirst isLast kind c,
    (s.placed insets start isFirst isLast).clipOn? kind = some c → s.Stands start.count kind c

/-- Whatever the margins of the text, the durations of the scenes alone decide whether they make a
timeline, and what is said if they do not. -/
theorem judged_by_durations (insets : InsetProfile) (scenes : List Scene) :
    Judged insets scenes := by
  have htotal {t : Timeline} (h : ofScenes insets scenes = .ok t) :
      t.duration.count = Scene.totalCount scenes := by
    obtain ⟨_, _, _, _, hlaid, -⟩ := ofScenes_eq_ok_iff.mp h
    rw [hlaid.final_count, Millis.zero_count, Nat.zero_add]
  refine
    { ok_iff := ?_
      total := fun t h => ⟨htotal h, holds_of_ofScenes h⟩
      error_iff := fun _ => error_iff_complains
      in_window := fun s _ hlasts _ _ _ _ _ hc => Scene.placed_stands hlasts hc }
  constructor
  · rintro ⟨t, h⟩
    obtain ⟨first, rest, ps, hcons, hlaid, -⟩ := ofScenes_eq_ok_iff.mp h
    have hlt := t.duration.count_lt
    refine ⟨by rw [hcons]; exact List.cons_ne_nil _ _, hlaid.lasts, ?_⟩
    rw [← htotal h, Millis.maxCount]
    omega
  · rintro ⟨hne, hlasts, hroom⟩
    obtain ⟨t, h, -⟩ := exists_ofScenes hne hlasts (by rw [Millis.maxCount] at hroom; omega)
    exact ⟨t, h⟩

/-- The scenes last too long before one comes that does not last at all. -/
example : ofScenes .scenes
    [.plain ⟨18446744073709551615, by decide⟩, .plain ⟨1, by decide⟩, .plain .zero] =
      .error .totalTooLong := by rfl

end Timeline

end Storyboard
