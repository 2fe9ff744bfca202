import Storyboard.Proofs.Timeline.Tiling

/-!
# The clips of a scene

A scene need not have something for every layer, so the clips of a layer are not numbered like the
scenes: the clip of a scene stands behind those that the scenes before it have there.
`Timeline.clipOf?` finds it, and `Timeline.clipOf?_placed` says that it is the clip with which the
scene was placed.
-/

namespace Storyboard

section

variable {α β : Type} {f : α → Option β}

/-- What an item of a list has stands behind what the items before it have. -/
theorem getElem?_filterMap_countP {l : List α} {i : Nat} {a : α} {b : β} (ha : l[i]? = some a)
    (hb : f a = some b) :
    (l.filterMap f)[(l.take i).countP fun x => (f x).isSome]? = some b := by
  induction l generalizing i with
  | nil => exact absurd ha (by simp)
  | cons x rest ih =>
    cases i with
    | zero =>
      obtain rfl := Option.some.inj ha
      simp [hb]
    | succ i =>
      have hrest := ih ha
      rw [List.take_succ_cons, List.countP_cons]
      cases hx : f x with
      | none => simpa [hx] using hrest
      | some y => simpa [hx] using hrest

end

theorem PlacedScene.mem_visual_of_clipOn? {p : PlacedScene} {kind : TrackKind} {c : Clip}
    (h : p.clipOn? kind = some c) : kind ∈ TrackKind.visual := by
  cases kind with
  | voice => exact absurd h (by simp [PlacedScene.clipOn?])
  | title | subtitle | overlay | background => simp [TrackKind.visual]

namespace Scene

/-- How many of some scenes have something for a layer. -/
def countOn (kind : TrackKind) (scenes : List Scene) : Nat :=
  scenes.countP fun s => (s.assetOn? kind).isSome

section LaidOut

variable {insets : InsetProfile} {scenes : List Scene} {number : Nat} {start final : Millis}
  {ps : List PlacedScene}

/-- Each scene is placed where the scenes before it have ended, and its own end can be counted. -/
theorem LaidOut.placed_at (h : LaidOut insets scenes number start ps final) {i : Nat} {s : Scene}
    (hs : scenes[i]? = some s) :
    ∃ begun ended : Millis, begun.count = start.count + totalCount (scenes.take i) ∧
      ended.count = begun.count + s.duration.count ∧
      ps[i]? = some (s.placed insets begun (number + i == 1) (i + 1 == scenes.length)) := by
  induction h generalizing i with
  | nil => exact absurd hs (by simp)
  | @cons first rest number start next final placedRest _ next_eq _ ih =>
    cases i with
    | zero =>
      obtain rfl := Option.some.inj hs
      refine ⟨start, next, rfl, next_eq, ?_⟩
      cases rest <;> rfl
    | succ i =>
      obtain ⟨begun, ended, hbegun, hended, hplaced⟩ := ih hs
      have hnumber : number + (i + 1) = number + 1 + i := by omega
      have hlast : (i + 1 + 1 == (first :: rest).length) = (i + 1 == rest.length) := by simp
      refine ⟨begun, ended, ?_, hended, ?_⟩
      · rw [hbegun, next_eq, List.take_succ_cons, totalCount_cons, Nat.add_assoc]
      · rw [List.getElem?_cons_succ, hplaced, hnumber, hlast]

/-- The scenes that have something for a layer are those that are placed with a clip there. -/
theorem LaidOut.countP_take (h : LaidOut insets scenes number start ps final) (kind : TrackKind)
    (i : Nat) :
    (ps.take i).countP (fun p => (p.clipOn? kind).isSome) = countOn kind (scenes.take i) := by
  induction h generalizing i with
  | nil => simp [countOn]
  | @cons first rest number start next final placedRest _ _ _ ih =>
    cases i with
    | zero => rfl
    | succ i =>
      have hrest := ih i
      unfold countOn at hrest ⊢
      rw [List.take_succ_cons, List.take_succ_cons, List.countP_cons, List.countP_cons, hrest,
        placed_clipOn?_isSome]

/-- Each scene that has something for a layer has one clip there, and no more. -/
theorem LaidOut.length_clips (h : LaidOut insets scenes number start ps final) (kind : TrackKind) :
    (ps.filterMap (·.clipOn? kind)).length = countOn kind scenes := by
  have hcount := h.countP_take kind scenes.length
  have hlength := h.length_eq
  rw [List.take_length, ← hlength, List.take_length] at hcount
  rw [List.length_filterMap_eq_countP, hcount]

end LaidOut

end Scene

namespace Timeline

/-- The clip on a layer of the scene at a position, in a timeline of some scenes. -/
def clipOf? (t : Timeline) (scenes : List Scene) (kind : TrackKind) (i : Nat) : Option Clip :=
  if (scenes[i]?.bind (·.assetOn? kind)).isSome then
    (t.clipsOf kind)[Scene.countOn kind (scenes.take i)]?
  else none

variable {insets : InsetProfile} {scenes : List Scene} {t : Timeline}

/-- A timeline has the clips of its scenes. Only the layers count, so it may have other tracks
besides. -/
theorem clipOf?_placed {visual : Timeline} (h : ofScenes insets scenes = .ok visual)
    (ht : ∀ kind ∈ TrackKind.visual, t.clipsOf kind = visual.clipsOf kind) {i : Nat} {s : Scene}
    (hs : scenes[i]? = some s) :
    ∃ begun ended : Millis, begun.count = Scene.totalCount (scenes.take i) ∧
      ended.count = begun.count + s.duration.count ∧
      ∀ kind, t.clipOf? scenes kind i =
        (s.placed insets begun (i == 0) (i + 1 == scenes.length)).clipOn? kind := by
  obtain ⟨first, rest, ps, -, hlaid, hvisual⟩ := ofScenes_eq_ok_iff.mp h
  obtain ⟨begun, ended, hbegun, hended, hplaced⟩ := hlaid.placed_at hs
  have hfirst : (1 + i == 1) = (i == 0) := by
    cases i <;> simp
  rw [hfirst] at hplaced
  rw [Millis.zero_count, Nat.zero_add] at hbegun
  refine ⟨begun, ended, hbegun, hended, ?_⟩
  intro kind
  have hsome : ((s.placed insets begun (i == 0) (i + 1 == scenes.length)).clipOn? kind).isSome =
      (s.assetOn? kind).isSome := Scene.placed_clipOn?_isSome kind
  unfold clipOf?
  rw [hs, Option.bind_some]
  cases hclip : (s.placed insets begun (i == 0) (i + 1 == scenes.length)).clipOn? kind with
  | none =>
    rw [hclip, Option.isSome_none] at hsome
    have hnone : ¬(s.assetOn? kind).isSome = true := by
      rw [← hsome]
      exact Bool.false_ne_true
    rw [if_neg hnone]
  | some c =>
    rw [hclip, Option.isSome_some] at hsome
    rw [if_pos hsome.symm]
    have hkind : kind ∈ TrackKind.visual := PlacedScene.mem_visual_of_clipOn? hclip
    have hclips : visual.clipsOf kind = ps.filterMap (·.clipOn? kind) :=
      clipsOf_of_tracks_eq (by rw [hvisual]) kind
    rw [ht kind hkind, hclips, ← hlaid.countP_take]
    exact getElem?_filterMap_countP hplaced hclip

end Timeline

end Storyboard
