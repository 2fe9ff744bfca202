import Storyboard.Proofs.Timeline.Clips

/-!
# When the lines of a scene come and go

The line below a title is to come after the title and to go with it, so its first margin is the
longer one. But each line gets its window on its own, and a window that is too short for its margins
is left as it is. There are scenes that are long enough for the margins of the title and too short
for those of the line below: there the title loses its margins and the line below is shown all the
time. In all other scenes it is shown within the time of the title.
-/

namespace Storyboard

/-- The margins of the forms of a video. -/
inductive InsetProfile.OfForm : InsetProfile → Prop
  | singleTitle : OfForm .singleTitle
  | scenes : OfForm .scenes
  | card (fadeIn fadeOut : Millis) : OfForm (.card fadeIn fadeOut)

namespace InsetProfile

variable {insets : InsetProfile}

/-- A scene of such a length is long enough for the margins of the title and too short for those of
the line below. -/
def Splits (insets : InsetProfile) (length : Millis) : Prop :=
  0 < insets.title.lead.count + insets.title.tail.count ∧
    insets.title.lead.count + insets.title.tail.count < length.count ∧
    length.count ≤ insets.subtitle.lead.count + insets.subtitle.tail.count

/-- In every form the line below comes no earlier than the title and goes with it. -/
theorem OfForm.lead_le (h : insets.OfForm) :
    insets.title.lead.count ≤ insets.subtitle.lead.count ∧
      insets.subtitle.tail = insets.title.tail := by
  cases h with
  | singleTitle => decide
  | scenes => decide
  | card fadeIn fadeOut =>
    refine ⟨?_, rfl⟩
    have hlt := fadeIn.count_lt
    simp only [InsetProfile.card, Millis.addCapped, Millis.ofCountCapped, Millis.maxCount]
    omega

end InsetProfile

/-- A clip is shown only while another one is. -/
def Clip.Within (c outer : Clip) : Prop :=
  outer.start.count ≤ c.start.count ∧ c.endCount ≤ outer.endCount

namespace Scene

variable {s : Scene} {insets : InsetProfile} {start stop : Millis}

/-- In a scene that splits the margins the line below is shown all the time and the title is not. -/
theorem split_windows (title subtitle : Asset) (transition : ClipTransition)
    (hsplits : insets.Splits s.duration) (hstop : stop.count = start.count + s.duration.count) :
    (s.textClip subtitle insets.subtitle start transition).start = start ∧
      (s.textClip subtitle insets.subtitle start transition).length = s.duration ∧
      (s.textClip title insets.title start transition).start.count =
        start.count + insets.title.lead.count ∧
      (s.textClip title insets.title start transition).endCount + insets.title.tail.count =
        stop.count := by
  obtain ⟨-, hlong, hshort⟩ := hsplits
  obtain ⟨hstart, hlength⟩ := Inset.apply_of_lt hlong hstop
  simp only [textClip, Clip.endCount, Inset.apply_of_le hshort, true_and]
  exact ⟨hstart, by omega⟩

/-- The line below is shown within the time of the title exactly if the scene does not split the
margins. -/
theorem textClip_within_iff (title subtitle : Asset) (transition : ClipTransition)
    (hform : insets.OfForm) (hstop : stop.count = start.count + s.duration.count) :
    (s.textClip subtitle insets.subtitle start transition).Within
        (s.textClip title insets.title start transition) ↔ ¬insets.Splits s.duration := by
  obtain ⟨hlead, htail⟩ := hform.lead_le
  have htail : insets.subtitle.tail.count = insets.title.tail.count := congrArg Millis.count htail
  constructor
  · intro hwithin hsplits
    obtain ⟨hwhole, hlength, hstart, hend⟩ :=
      split_windows title subtitle transition hsplits hstop
    obtain ⟨hle, hle'⟩ := hwithin
    obtain ⟨hmargins, -, -⟩ := hsplits
    rw [hwhole] at hle
    rw [Clip.endCount, hwhole, hlength] at hle'
    omega
  · intro hsplits
    unfold InsetProfile.Splits at hsplits
    unfold Clip.Within Clip.endCount textClip
    rcases Nat.lt_or_ge (insets.subtitle.lead.count + insets.subtitle.tail.count) s.duration.count
      with hlong | hshort
    · -- both lines lose their margins
      have hlong' : insets.title.lead.count + insets.title.tail.count < s.duration.count := by
        omega
      obtain ⟨hstart, hlength⟩ := Inset.apply_of_lt hlong hstop
      obtain ⟨hstart', hlength'⟩ := Inset.apply_of_lt hlong' hstop
      simp only
      omega
    · -- the line below is shown all the time, and so is the title
      rcases Nat.lt_or_ge (insets.title.lead.count + insets.title.tail.count) s.duration.count
        with hlong' | hshort'
      · -- the title has no margins to lose
        obtain ⟨hstart', hlength'⟩ := Inset.apply_of_lt hlong' hstop
        rw [Inset.apply_of_le hshort]
        simp only
        omega
      · rw [Inset.apply_of_le hshort, Inset.apply_of_le hshort']
        exact ⟨Nat.le_refl _, Nat.le_refl _⟩

end Scene

namespace Timeline

variable {insets : InsetProfile} {scenes : List Scene} {t : Timeline}

/-- A scene with both lines has a clip for each. The line below is shown within the time of the
title, unless the scene is longer than the margins of the title, which are not both zero, and not
longer than those of the line below. Such a scene shows the line below from its start to its end,
and the title without its margins. -/
theorem subtitle_within_title_iff (hform : insets.OfForm) (h : ofScenes insets scenes = .ok t)
    {i : Nat} {s : Scene} (hs : scenes[i]? = some s) (htitle : s.title.isSome = true)
    (hsubtitle : s.subtitle.isSome = true) :
    ∃ title subtitle, t.clipOf? scenes .title i = some title ∧
      t.clipOf? scenes .subtitle i = some subtitle ∧
      (subtitle.Within title ↔ ¬insets.Splits s.duration) ∧
      (insets.Splits s.duration →
        subtitle.start.count = Scene.totalCount (scenes.take i) ∧
        subtitle.endCount = Scene.totalCount (scenes.take (i + 1)) ∧
        title.start.count = subtitle.start.count + insets.title.lead.count ∧
        title.endCount + insets.title.tail.count = subtitle.endCount) := by
  obtain ⟨begun, ended, hbegun, hended, hclip⟩ := clipOf?_placed h (fun _ _ => rfl) hs
  obtain ⟨titleText, htitle⟩ := Option.isSome_iff_exists.mp htitle
  obtain ⟨subtitleText, hsubtitle⟩ := Option.isSome_iff_exists.mp hsubtitle
  have htitleClip := hclip .title
  have hsubtitleClip := hclip .subtitle
  simp only [PlacedScene.clipOn?, Scene.placed, htitle, Option.map_some] at htitleClip
  simp only [PlacedScene.clipOn?, Scene.placed, hsubtitle, Option.map_some] at hsubtitleClip
  refine ⟨_, _, htitleClip, hsubtitleClip, Scene.textClip_within_iff _ _ _ hform hended, ?_⟩
  intro hsplits
  obtain ⟨hstart, hlength, htitleStart, htitleEnd⟩ := Scene.split_windows
    (.title titleText s.textStyle none s.titlePosition) (.title subtitleText .subtitle none .bottom)
    (s.lineTransition (i == 0) (i + 1 == scenes.length)) hsplits hended
  rw [Clip.endCount, hstart, hlength, Scene.totalCount_take_succ hs, ← hbegun]
  refine ⟨rfl, rfl, htitleStart, ?_⟩
  rw [htitleEnd, hended]

/-- Where a title card lasts for twelve tenths of a second the line below is there before the title
and stays on after it. -/
theorem subtitle_outlasts_title :
    let s : Scene :=
      { Scene.plain ⟨1200, by decide⟩ with title := some "Title", subtitle := some "Below" }
    ∃ t title subtitle, ofScenes .singleTitle [s] = .ok t ∧
      t.clipOf? [s] .title 0 = some title ∧ t.clipOf? [s] .subtitle 0 = some subtitle ∧
      subtitle.start.count < title.start.count ∧ title.endCount < subtitle.endCount := by
  intro s
  refine ⟨_, _, _, rfl, rfl, rfl, ?_, ?_⟩
  · decide
  · decide

/-- The second of two scenes is long enough for both lines; the first has no title. -/
theorem subtitle_within_title_second :
    let s : Scene :=
      { Scene.plain ⟨3000, by decide⟩ with title := some "Title", subtitle := some "Below" }
    let scenes : List Scene := [.plain ⟨5000, by decide⟩, s]
    ∃ t title subtitle, ofScenes .scenes scenes = .ok t ∧
      t.clipOf? scenes .title 1 = some title ∧ t.clipOf? scenes .subtitle 1 = some subtitle ∧
      subtitle.Within title := by
  intro s scenes
  obtain ⟨t, ht⟩ : ∃ t, ofScenes .scenes scenes = .ok t := ⟨_, rfl⟩
  have hs : scenes[1]? = some s := rfl
  obtain ⟨title, subtitle, htitle, hsubtitle, hwithin, -⟩ :=
    subtitle_within_title_iff .scenes ht hs rfl rfl
  have hsplits : ¬InsetProfile.scenes.Splits s.duration := by
    unfold InsetProfile.Splits
    decide
  exact ⟨t, title, subtitle, ht, htitle, hsubtitle, hwithin.mpr hsplits⟩

end Timeline

end Storyboard
