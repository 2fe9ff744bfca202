import Mathlib.Data.List.ModifyLast
import Storyboard.Proofs.Timeline.Tiling

/-!
# Joining timelines

Scenes are laid out without looking far: a scene needs to know when it starts, and whether it is the
first or the last of all. Where two lists of scenes are laid out as one, the first half therefore
stays as it is alone and the second half comes later by the duration of the first. Only at the seam
something is different: the last scene before it and the first one behind it no longer fade, but go
and come as they say themselves.

`Scene.LaidOut.split` takes a layout apart in front of any scene, `Scene.LaidOut.earlier` moves what
stands behind, and `Timeline.ofScenes_append` puts the two together.
-/

namespace Storyboard

/-! ## Clips at a seam -/

namespace Clip

/-- The clip at a later time, if that can be counted. -/
def later? (delay : Millis) (c : Clip) : Option Clip :=
  (c.start.add? delay).map fun start => { c with start }

/-- The clip, coming in another way. -/
def comingBy (t : Transition) (c : Clip) : Clip :=
  { c with transition := c.transition.map fun both => { both with incoming := some t } }

/-- The clip, going out another way. -/
def goingBy (t : Transition) (c : Clip) : Clip :=
  { c with transition := c.transition.map fun both => { both with outgoing := some t } }

end Clip

namespace Scene

/-- Whether a scene has a clip on a layer that comes and goes as the scene does. The background is
one, and so is the text if the scene says nothing else about it. -/
def blendsOn (s : Scene) : TrackKind → Bool
  | .background => true
  | .title => s.title.isSome && s.textTransition.isNone
  | .subtitle => s.subtitle.isSome && s.textTransition.isNone
  | .overlay | .voice => false

/-- The clips of a layer when the last of their scenes is no longer the last of all. -/
def goingOn (s : Scene) (kind : TrackKind) (clips : List Clip) : List Clip :=
  if s.blendsOn kind then clips.modifyLast (Clip.goingBy s.transitionOut) else clips

/-- The clips of a layer when the first of their scenes is no longer the first of all. -/
def comingAfter (s : Scene) (kind : TrackKind) (clips : List Clip) : List Clip :=
  if s.blendsOn kind then clips.modifyHead (Clip.comingBy s.transitionIn) else clips

end Scene

/-- A timeline is made of two others, one after the other. At the seam are the last scene of the
first and the first scene of the second. -/
structure Timeline.Joins (t before behind : Timeline) (last first : Scene) : Prop where
  /-- It lasts as long as both. -/
  duration_eq : t.duration.count = before.duration.count + behind.duration.count
  /-- Its colour is that of the first. -/
  background_eq : t.background = before.background
  /-- On every layer stand the clips of the first and then, later by its duration, those of the
  second. -/
  clips_eq : ∀ kind, ∃ later,
    (behind.clipsOf kind).mapM (Clip.later? before.duration) = some later ∧
      t.clipsOf kind =
        last.goingOn kind (before.clipsOf kind) ++ first.comingAfter kind later

/-! ## One scene -/

/-- A window without its margins comes as much later as the window, if the end of it can be
counted. -/
theorem Inset.apply_later (i : Inset) {start later length stop delay : Millis}
    (hlater : later.count = start.count + delay.count)
    (hstop : stop.count = later.count + length.count) :
    (i.apply later length).1.count = (i.apply start length).1.count + delay.count ∧
      (i.apply later length).2 = (i.apply start length).2 := by
  rcases Nat.lt_or_ge (i.lead.count + i.tail.count) length.count with hlong | hshort
  · have hlt := stop.count_lt
    have hearly : start.count + length.count < 18446744073709551616 := by omega
    obtain ⟨hstart, hlength⟩ := @apply_of_lt i start length ⟨_, hearly⟩ hlong rfl
    obtain ⟨hstart', hlength'⟩ := apply_of_lt hlong hstop
    refine ⟨by omega, Millis.ext_count ?_⟩
    omega
  · rw [apply_of_le hshort, apply_of_le hshort]
    exact ⟨hlater, rfl⟩

namespace Scene

variable {s : Scene} {insets : InsetProfile} {start later stop delay : Millis}

/-- A clip that starts later by a delay, and is the same otherwise, is the later clip. -/
theorem later?_eq_some {c d : Clip} (hstart : d.start.count = c.start.count + delay.count)
    (hsame : d = { c with start := d.start }) : c.later? delay = some d := by
  unfold Clip.later?
  rw [Millis.add?_eq_some_iff.mpr hstart, Option.map_some, ← hsame]

theorem textClip_later {asset : Asset} {inset : Inset} {transition : ClipTransition}
    (hlater : later.count = start.count + delay.count)
    (hstop : stop.count = later.count + s.duration.count) :
    (s.textClip asset inset start transition).later? delay =
      some (s.textClip asset inset later transition) := by
  obtain ⟨hstart, hlength⟩ := inset.apply_later hlater hstop
  refine later?_eq_some hstart ?_
  simp only [textClip, hlength]

theorem backgroundClip_later {transition : ClipTransition}
    (hlater : later.count = start.count + delay.count) :
    (s.backgroundClip start transition).later? delay =
      some (s.backgroundClip later transition) := by
  unfold backgroundClip
  split <;> exact later?_eq_some hlater rfl

theorem logoClip_later {src : String} (hlater : later.count = start.count + delay.count) :
    (s.logoClip src start).later? delay = some (s.logoClip src later) :=
  later?_eq_some hlater rfl

/-- All clips of a scene come as much later as the scene. -/
theorem placed_later {isFirst isLast : Bool} (hlater : later.count = start.count + delay.count)
    (hstop : stop.count = later.count + s.duration.count) (kind : TrackKind) :
    ((s.placed insets start isFirst isLast).clipOn? kind).toList.mapM (Clip.later? delay) =
      some ((s.placed insets later isFirst isLast).clipOn? kind).toList := by
  cases kind with
  | title =>
    simp only [PlacedScene.clipOn?, placed]
    cases s.title with
    | none => rfl
    | some text => simp [textClip_later hlater hstop]
  | subtitle =>
    simp only [PlacedScene.clipOn?, placed]
    cases s.subtitle with
    | none => rfl
    | some text => simp [textClip_later hlater hstop]
  | overlay =>
    simp only [PlacedScene.clipOn?, placed]
    cases s.logo with
    | none => rfl
    | some src => simp [logoClip_later hlater]
  | background => simp [PlacedScene.clipOn?, placed, backgroundClip_later hlater]
  | voice => rfl

/-- Where a scene blends it has a clip. -/
theorem clipOn?_isSome_of_blendsOn {isFirst isLast : Bool} {kind : TrackKind}
    (h : s.blendsOn kind = true) :
    ((s.placed insets start isFirst isLast).clipOn? kind).isSome = true := by
  rw [placed_clipOn?_isSome]
  cases kind <;> simp_all [blendsOn, assetOn?]

/-- A line of text that does not come and go by itself goes with its scene. -/
theorem textClip_notLast (asset : Asset) (inset : Inset) (isFirst : Bool) :
    s.textClip asset inset start (s.lineTransition isFirst false) =
      if s.textTransition.isNone then
        (s.textClip asset inset start (s.lineTransition isFirst true)).goingBy s.transitionOut
      else s.textClip asset inset start (s.lineTransition isFirst true) := by
  unfold lineTransition
  cases s.textTransition <;> rfl

/-- A line of text that does not come and go by itself comes with its scene. -/
theorem textClip_notFirst (asset : Asset) (inset : Inset) (isLast : Bool) :
    s.textClip asset inset start (s.lineTransition false isLast) =
      if s.textTransition.isNone then
        (s.textClip asset inset start (s.lineTransition true isLast)).comingBy s.transitionIn
      else s.textClip asset inset start (s.lineTransition true isLast) := by
  unfold lineTransition
  cases s.textTransition <;> rfl

/-- A scene that is not the last of all goes as it says where it blends. -/
theorem clipOn?_notLast (isFirst : Bool) (kind : TrackKind) :
    (s.placed insets start isFirst false).clipOn? kind =
      ((s.placed insets start isFirst true).clipOn? kind).map fun c =>
        if s.blendsOn kind then c.goingBy s.transitionOut else c := by
  cases kind with
  | title =>
    cases h : s.title <;> simp [PlacedScene.clipOn?, placed, blendsOn, h, textClip_notLast]
  | subtitle =>
    cases h : s.subtitle <;> simp [PlacedScene.clipOn?, placed, blendsOn, h, textClip_notLast]
  | overlay => simp [PlacedScene.clipOn?, placed, blendsOn, Function.comp_def]
  | background =>
    simp only [PlacedScene.clipOn?, placed, blendsOn, backgroundClip]
    cases s.backgroundImage <;> rfl
  | voice => rfl

/-- A scene that is not the first of all comes as it says where it blends. -/
theorem clipOn?_notFirst (isLast : Bool) (kind : TrackKind) :
    (s.placed insets start false isLast).clipOn? kind =
      ((s.placed insets start true isLast).clipOn? kind).map fun c =>
        if s.blendsOn kind then c.comingBy s.transitionIn else c := by
  cases kind with
  | title =>
    cases h : s.title <;> simp [PlacedScene.clipOn?, placed, blendsOn, h, textClip_notFirst]
  | subtitle =>
    cases h : s.subtitle <;> simp [PlacedScene.clipOn?, placed, blendsOn, h, textClip_notFirst]
  | overlay => simp [PlacedScene.clipOn?, placed, blendsOn, Function.comp_def]
  | background =>
    simp only [PlacedScene.clipOn?, placed, blendsOn, backgroundClip]
    cases s.backgroundImage <;> rfl
  | voice => rfl

/-- Only the last clip of a layer can change when something comes behind the last scene. -/
theorem goingOn_placed (isFirst : Bool) (kind : TrackKind) (clips : List Clip) :
    s.goingOn kind (clips ++ ((s.placed insets start isFirst true).clipOn? kind).toList) =
      clips ++ ((s.placed insets start isFirst false).clipOn? kind).toList := by
  rw [clipOn?_notLast]
  unfold goingOn
  cases hb : s.blendsOn kind with
  | false => simp
  | true =>
    have hsome : ((s.placed insets start isFirst true).clipOn? kind).isSome = true :=
      clipOn?_isSome_of_blendsOn hb
    obtain ⟨c, hc⟩ := Option.isSome_iff_exists.mp hsome
    simp [hc, List.modifyLast_concat]

/-- Only the first clip of a layer can change when something stands before the first scene. -/
theorem comingAfter_placed (isLast : Bool) (kind : TrackKind) (clips : List Clip) :
    s.comingAfter kind (((s.placed insets start true isLast).clipOn? kind).toList ++ clips) =
      ((s.placed insets start false isLast).clipOn? kind).toList ++ clips := by
  rw [clipOn?_notFirst]
  unfold comingAfter
  cases hb : s.blendsOn kind with
  | false => simp
  | true =>
    have hsome : ((s.placed insets start true isLast).clipOn? kind).isSome = true :=
      clipOn?_isSome_of_blendsOn hb
    obtain ⟨c, hc⟩ := Option.isSome_iff_exists.mp hsome
    simp [hc]

/-! ## Whole lists -/

section LaidOut

variable {zs : List Scene} {number : Nat} {final : Millis} {ps : List PlacedScene}

/-- A layout can be taken apart in front of any scene. What stands before does not depend on what
comes behind, as long as something does. -/
theorem LaidOut.split {init : List Scene} (hzs : zs ≠ [])
    (h : LaidOut insets (init ++ zs) number start ps final) :
    ∃ before behind middle, ps = before ++ behind ∧
      LaidOut insets zs (number + init.length) middle behind final ∧
      ∀ {others : List Scene} {placed : List PlacedScene} {final' : Millis}, others ≠ [] →
        LaidOut insets others (number + init.length) middle placed final' →
        LaidOut insets (init ++ others) number start (before ++ placed) final' := by
  induction init generalizing number start ps with
  | nil => exact ⟨[], ps, start, rfl, h, fun _ hothers => hothers⟩
  | cons s rest ih =>
    cases h with
    | @cons _ _ _ _ next _ placedRest lasts next_eq hrest =>
      obtain ⟨before, behind, middle, rfl, hbehind, hjoin⟩ := ih hrest
      have hnumber : number + 1 + rest.length = number + (s :: rest).length := by
        rw [List.length_cons]
        omega
      rw [hnumber] at hbehind hjoin
      have hempty : ∀ {others : List Scene}, others ≠ [] → (rest ++ others).isEmpty = false :=
        fun hothers => by simp [List.isEmpty_eq_false_iff, hothers]
      refine ⟨s.placed insets start (number == 1) false :: before, behind, middle, ?_, hbehind, ?_⟩
      · rw [← hempty hzs]
        rfl
      · intro others placed final' hothers hlaid
        rw [← hempty hothers]
        exact .cons lasts next_eq (hjoin hothers hlaid)

/-- The clips of a layer start with that of the first scene. -/
theorem filterMap_clipOn?_cons (p : PlacedScene) (ps : List PlacedScene) (kind : TrackKind) :
    (p :: ps).filterMap (·.clipOn? kind) =
      (p.clipOn? kind).toList ++ ps.filterMap (·.clipOn? kind) := by
  rw [List.filterMap_cons]
  cases p.clipOn? kind <;> rfl

/-- What stands behind other scenes can stand earlier, where it has the same clips earlier. -/
theorem LaidOut.earlier {number' : Nat} (hnumber : 1 < number) (hnumber' : 1 < number')
    (hlater : later.count = start.count + delay.count)
    (h : LaidOut insets zs number later ps final) :
    ∃ qs final', LaidOut insets zs number' start qs final' ∧
      ∀ kind, (qs.filterMap (·.clipOn? kind)).mapM (Clip.later? delay) =
        some (ps.filterMap (·.clipOn? kind)) := by
  induction h generalizing number' start with
  | nil => exact ⟨[], start, .nil _ _, fun _ => rfl⟩
  | @cons s rest number later next final placedRest lasts next_eq others ih =>
    have hlt := next.count_lt
    obtain ⟨qs, final', hlaid, hclips⟩ := @ih ⟨start.count + s.duration.count, by omega⟩
      (number' + 1) (by omega) (by omega) (by simp only; omega)
    refine ⟨_, final', .cons lasts rfl hlaid, fun kind => ?_⟩
    -- neither here nor there is it the first scene
    have hfirst : (number == 1) = false := beq_eq_false_iff_ne.mpr (by omega)
    have hfirst' : (number' == 1) = false := beq_eq_false_iff_ne.mpr (by omega)
    rw [hfirst, hfirst', filterMap_clipOn?_cons, filterMap_clipOn?_cons, List.mapM_append,
      placed_later hlater next_eq, hclips]
    rfl

end LaidOut

end Scene

/-! ## Timelines -/

namespace Timeline

variable {insets : InsetProfile} {scenes : List Scene}

/-- A layout from the start is that of a timeline. -/
theorem ofScenes_of_laidOut {first : Scene} {rest : List Scene} (hscenes : scenes = first :: rest)
    {ps : List PlacedScene} {final : Millis} (h : Scene.LaidOut insets scenes 1 .zero ps final) :
    ∃ t, ofScenes insets scenes = .ok t ∧ t.background = first.backgroundColor ∧
      t.duration = final ∧ ∀ kind, t.clipsOf kind = ps.filterMap (·.clipOn? kind) :=
  ⟨⟨first.backgroundColor, visualTracks ps, none, final⟩,
    ofScenes_eq_ok_iff.mpr ⟨first, rest, ps, hscenes, h, rfl⟩, rfl, rfl, clipsOf_of_tracks_eq rfl⟩

/-- Where two lists of scenes make one timeline each of them makes one alone, and the timeline is
made of those two. -/
theorem ofScenes_append {insets : InsetProfile} {xs ys : List Scene} {t : Timeline} (hx : xs ≠ [])
    (hy : ys ≠ []) (h : ofScenes insets (xs ++ ys) = .ok t) :
    ∃ before behind, ofScenes insets xs = .ok before ∧ ofScenes insets ys = .ok behind ∧
      t.Joins before behind (xs.getLast hx) (ys.head hy) := by
  obtain ⟨init, last, rfl⟩ := (List.eq_nil_or_concat' xs).resolve_left hx
  obtain ⟨first, rest, rfl⟩ := List.exists_cons_of_ne_nil hy
  obtain ⟨head, tail, ps, hhead, hlaid, hteq⟩ := ofScenes_eq_ok_iff.mp h
  obtain ⟨others, hothers⟩ : ∃ others, init ++ [last] = head :: others := by
    cases init with
    | nil => exact ⟨[], congrArg (· :: _) (List.cons.inj hhead).1⟩
    | cons s init => exact ⟨init ++ [last], congrArg (· :: _) (List.cons.inj hhead).1⟩
  have hclips : ∀ kind, t.clipsOf kind = ps.filterMap (·.clipOn? kind) :=
    clipsOf_of_tracks_eq (by rw [hteq])
  -- up to the last scene before the seam nothing depends on what comes behind
  rw [List.append_assoc] at hlaid
  obtain ⟨placed, _, middle, rfl, hseam, hjoin⟩ := hlaid.split (List.cons_ne_nil _ _)
  cases hseam with
  | @cons _ _ _ _ seam _ placedBehind lasts seam_eq hbehind =>
  obtain ⟨before, hbefore, hcolor, hseam, hclips₁⟩ := ofScenes_of_laidOut hothers
    (hjoin (List.cons_ne_nil _ _) (.cons lasts seam_eq (.nil _ _)))
  -- the first scene behind it moves to the start, and the others with it
  cases hbehind with
  | @cons _ _ _ _ next _ placedRest lasts' next_eq hrest =>
  have hnext : next.count = first.duration.count + seam.count := by omega
  obtain ⟨qs, final, hearlier, hlater⟩ := hrest.earlier (by omega) Nat.one_lt_two hnext
  obtain ⟨behind, hbehind, -, hduration, hclips₂⟩ := ofScenes_of_laidOut rfl
    (Scene.LaidOut.cons lasts' (by simp) hearlier)
  refine ⟨before, behind, hbefore, hbehind, ?_, ?_, fun kind => ?_⟩
  · -- duration_eq
    have h1 := hrest.final_count
    have h2 := hearlier.final_count
    rw [hseam, hduration]
    omega
  · -- background_eq
    rw [hcolor, hteq]
  · -- clips_eq
    have hshift : ((behind.clipsOf kind).mapM (Clip.later? before.duration)) =
        some (((first.placed insets seam true rest.isEmpty).clipOn? kind).toList ++
          placedRest.filterMap (·.clipOn? kind)) := by
      rw [hclips₂, hseam, Scene.filterMap_clipOn?_cons, List.mapM_append, hlater,
        Scene.placed_later (by simp) next_eq]
      rfl
    have hsecond : (1 + init.length + 1 == 1) = false := beq_eq_false_iff_ne.mpr (by omega)
    refine ⟨_, hshift, ?_⟩
    rw [hclips, hclips₁, List.getLast_append_singleton, List.head_cons, List.filterMap_append,
      List.filterMap_append, Scene.filterMap_clipOn?_cons, Scene.filterMap_clipOn?_cons,
      Scene.filterMap_clipOn?_cons, List.filterMap_nil, List.append_nil, List.isEmpty_nil,
      Scene.goingOn_placed, Scene.comingAfter_placed, List.append_assoc,
      hsecond]
    rfl

/-- A titled scene that is wiped away, before a plain one that slides in. -/
theorem ofScenes_append_titled :
    let xs : List Scene :=
      [{ Scene.plain ⟨5000, by decide⟩ with title := some "One", transitionOut := .wipeLeft }]
    let ys : List Scene := [{ Scene.plain ⟨3000, by decide⟩ with transitionIn := .slideLeft }]
    ∃ (hx : xs ≠ []) (hy : ys ≠ []) (t before behind : Timeline),
      ofScenes .scenes (xs ++ ys) = .ok t ∧ ofScenes .scenes xs = .ok before ∧
        ofScenes .scenes ys = .ok behind ∧ t.Joins before behind (xs.getLast hx) (ys.head hy) := by
  intro xs ys
  obtain ⟨t, ht⟩ : ∃ t, ofScenes .scenes (xs ++ ys) = .ok t := ⟨_, rfl⟩
  have hx : xs ≠ [] := List.cons_ne_nil _ _
  have hy : ys ≠ [] := List.cons_ne_nil _ _
  obtain ⟨before, behind, hbefore, hbehind, hjoins⟩ := ofScenes_append hx hy ht
  exact ⟨hx, hy, t, before, behind, ht, hbefore, hbehind, hjoins⟩

end Timeline

end Storyboard
