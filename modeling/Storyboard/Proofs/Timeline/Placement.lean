import Storyboard.Proofs.Timeline.Margins
import Storyboard.Timeline.Layout

/-!
# Placing scenes back to back

`Scene.placeAll` moves one cursor over a list of scenes. `Scene.LaidOut` says what it does as a
relation with one rule for an empty list and one for a scene in front of others; proofs about a whole
layout go by induction over it and see one scene at a time.

The layers of a timeline are treated alike: `Scene.assetOn?` is what a scene has for a layer, and
`PlacedScene.clipOn?` the clip that it gets there.
-/

namespace Storyboard

/-- The layers that scenes are laid out on, topmost first. -/
def TrackKind.visual : List TrackKind := [.title, .subtitle, .overlay, .background]

namespace PlacedScene

/-- The clip of a placed scene on a layer. -/
def clipOn? (p : PlacedScene) : TrackKind → Option Clip
  | .title => p.title
  | .subtitle => p.subtitle
  | .overlay => p.logo
  | .background => some p.background
  | .voice => none

end PlacedScene

namespace Scene

/-- What a scene has for a layer. -/
def assetOn? (s : Scene) : TrackKind → Option Asset
  | .title => s.title.map fun text => .title text s.textStyle none s.titlePosition
  | .subtitle => s.subtitle.map fun text => .title text .subtitle none .bottom
  | .overlay => s.logo.map .image
  | .background => some (match s.backgroundImage with
    | some src => .image src
    | none => .color s.backgroundColor)
  | .voice => none

/-- A clip shows what a scene has for a layer, for a while that is not empty and within the window
of a scene that starts at the given count. -/
structure Stands (s : Scene) (start : Nat) (kind : TrackKind) (c : Clip) : Prop where
  /-- It shows what the scene has for the layer. -/
  asset_eq : s.assetOn? kind = some c.asset
  /-- It lasts. -/
  length_pos : 0 < c.length.count
  /-- It does not start before the scene. -/
  le_start : start ≤ c.start.count
  /-- It does not end after the scene. -/
  end_le : c.endCount ≤ start + s.duration.count

variable {s : Scene} {insets : InsetProfile} {start : Millis} {isFirst isLast : Bool}

/-- A line of text stands in the window of its scene. -/
theorem textClip_stands {asset : Asset} {inset : Inset} {transition : ClipTransition}
    {kind : TrackKind} (h : 0 < s.duration.count) (ha : s.assetOn? kind = some asset) :
    s.Stands start.count kind (s.textClip asset inset start transition) := by
  obtain ⟨hpos, hstart, hend⟩ := inset.apply_within start s.duration h
  exact ⟨ha, hpos, hstart, hend⟩

/-- A background fills the window of its scene. -/
theorem backgroundClip_window (s : Scene) (start : Millis) (transition : ClipTransition) :
    (s.backgroundClip start transition).start = start ∧
      (s.backgroundClip start transition).length = s.duration := by
  unfold backgroundClip
  split <;> exact ⟨rfl, rfl⟩

theorem backgroundClip_asset (transition : ClipTransition) :
    s.assetOn? .background = some (s.backgroundClip start transition).asset := by
  simp only [assetOn?, backgroundClip]
  cases s.backgroundImage <;> rfl

/-- A scene has a clip on exactly the layers for which it has something. -/
theorem placed_clipOn?_isSome (kind : TrackKind) :
    ((s.placed insets start isFirst isLast).clipOn? kind).isSome = (s.assetOn? kind).isSome := by
  cases kind <;> simp [placed, PlacedScene.clipOn?, assetOn?]

/-- Every clip of a scene that lasts stands in its window. -/
theorem placed_stands (h : 0 < s.duration.count) {kind : TrackKind} {c : Clip}
    (hc : (s.placed insets start isFirst isLast).clipOn? kind = some c) :
    s.Stands start.count kind c := by
  cases kind with
  | title =>
    obtain ⟨text, ht, rfl⟩ := Option.map_eq_some_iff.mp hc
    exact textClip_stands h (by simp [assetOn?, ht])
  | subtitle =>
    obtain ⟨text, ht, rfl⟩ := Option.map_eq_some_iff.mp hc
    exact textClip_stands h (by simp [assetOn?, ht])
  | overlay =>
    obtain ⟨src, hl, rfl⟩ := Option.map_eq_some_iff.mp hc
    exact ⟨by simp [assetOn?, hl, logoClip], h, Nat.le_refl _, Nat.le_refl _⟩
  | background =>
    obtain rfl := Option.some.inj hc
    obtain ⟨hstart, hlength⟩ :=
      s.backgroundClip_window start (s.transition isFirst isLast)
    refine ⟨backgroundClip_asset _, ?_, ?_, ?_⟩
    · simp only [placed]
      rw [hlength]
      exact h
    · simp only [placed, hstart, Nat.le_refl]
    · simp only [placed, Clip.endCount, hstart, hlength, Nat.le_refl]
  | voice => exact absurd hc (by simp [PlacedScene.clipOn?])

/-! ## Whole lists -/

/-- Scenes numbered on from `number` are laid out back to back from `start` on, and the last of them
has ended at `final`. -/
inductive LaidOut (insets : InsetProfile) :
    List Scene → (number : Nat) → (start : Millis) → List PlacedScene → (final : Millis) → Prop
  /-- No scenes take no time. -/
  | nil (number : Nat) (start : Millis) : LaidOut insets [] number start [] start
  /-- The first scene lasts, and the others start when it has ended. -/
  | cons {s : Scene} {rest : List Scene} {number : Nat} {start next final : Millis}
      {placedRest : List PlacedScene} (lasts : 0 < s.duration.count)
      (next_eq : next.count = start.count + s.duration.count)
      (others : LaidOut insets rest (number + 1) next placedRest final) :
      LaidOut insets (s :: rest) number start
        (s.placed insets start (number == 1) rest.isEmpty :: placedRest) final

/-- Placing a list of scenes succeeds exactly with what the relation says. -/
theorem placeAll_eq_ok_iff {scenes : List Scene} {number : Nat} {ps : List PlacedScene}
    {final : Millis} :
    placeAll insets scenes number start = .ok (ps, final) ↔
      LaidOut insets scenes number start ps final := by
  induction scenes generalizing number start ps with
  | nil =>
    simp only [placeAll, Except.ok.injEq, Prod.mk.injEq]
    constructor
    · rintro ⟨rfl, rfl⟩
      exact .nil number start
    · rintro ⟨⟩
      exact ⟨rfl, rfl⟩
  | cons s rest ih =>
    unfold placeAll
    constructor
    · intro h
      split at h
      · exact absurd h (by simp)
      · rename_i hz
        rw [Bool.not_eq_true, Millis.isZero_eq_false_iff] at hz
        split at h
        · exact absurd h (by simp)
        · rename_i next hnext
          cases hrest : placeAll insets rest (number + 1) next with
          | error e => simp [hrest, bind, Except.bind] at h
          | ok pair =>
            obtain ⟨placedRest, final'⟩ := pair
            simp only [hrest, bind, Except.bind, Except.ok.injEq, Prod.mk.injEq] at h
            obtain ⟨rfl, rfl⟩ := h
            exact .cons hz (Millis.add?_eq_some_iff.mp hnext) (ih.mp hrest)
    · rintro (_ | ⟨lasts, next_eq, others⟩)
      rw [if_neg (by rw [Bool.not_eq_true, Millis.isZero_eq_false_iff]; exact lasts)]
      simp [Millis.add?_eq_some_iff.mpr next_eq, ih.mpr others, bind, Except.bind]

end Scene

namespace Timeline

variable {insets : InsetProfile} {scenes : List Scene} {t : Timeline}

/-- The timelines that are made of scenes: those of a list that is not empty and can be laid out. -/
theorem ofScenes_eq_ok_iff :
    ofScenes insets scenes = .ok t ↔
      ∃ first rest ps, scenes = first :: rest ∧
        Scene.LaidOut insets scenes 1 .zero ps t.duration ∧
        t = ⟨first.backgroundColor, visualTracks ps, none, t.duration⟩ := by
  cases scenes with
  | nil => simp [ofScenes]
  | cons first rest =>
    simp only [ofScenes, List.cons.injEq]
    constructor
    · intro h
      cases hp : Scene.placeAll insets (first :: rest) 1 .zero with
      | error e => simp [hp, bind, Except.bind] at h
      | ok pair =>
        obtain ⟨ps, final⟩ := pair
        simp only [hp, bind, Except.bind, Except.ok.injEq] at h
        subst h
        exact ⟨first, rest, ps, ⟨rfl, rfl⟩, Scene.placeAll_eq_ok_iff.mp hp, rfl⟩
    · rintro ⟨_, _, ps, ⟨rfl, rfl⟩, hlaid, ht⟩
      rw [Scene.placeAll_eq_ok_iff.mpr hlaid]
      exact congrArg Except.ok ht.symm

end Timeline

end Storyboard
