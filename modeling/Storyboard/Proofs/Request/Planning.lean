import Storyboard.Plan
import Storyboard.Proofs.Request.Admission
import Storyboard.Proofs.Timeline.Audio
import Storyboard.Proofs.Timeline.Obstacles

/-!
# Planning

A request that is resolved is planned: what its fields may hold is enough for everything that is
done with its scenes later. Each scene lasts, and no longer than an hour, so the cursor that lays
them out never runs out of 64 bits as long as that many hours can be counted; the timeline that
comes of it lasts, so audio can be put below it.

`ResolvedVideo.Answers` holds what resolving guarantees, form by form, and `RenderPlan.Fulfils` what
the plan tells of its request. `plan_fulfils` leads from one to the other.
-/

namespace Storyboard

/-! ## What a request asks for -/

namespace VideoRequest

/-- How many scenes a request asks for. A card is one. -/
def sceneCount : VideoRequest → Nat
  | .singleTitle _ | .card _ => 1
  | .scenes r => r.scenes.length

/-- The word for what a request asks for. -/
def label : VideoRequest → String
  | .singleTitle _ => "single_title"
  | .scenes _ => "scenes"
  | .card r =>
    match r.kind with
    | .intro => "intro"
    | .outro => "outro"

end VideoRequest

/-- The margins of each line of text add up to no more than the given count. -/
def InsetProfile.Within (insets : InsetProfile) (most : Nat) : Prop :=
  ∀ i ∈ [insets.title, insets.subtitle], i.lead.count + i.tail.count ≤ most

/-- A resolved request is what was asked for, and within the bounds that later steps rely on. -/
structure ResolvedVideo.Answers (v : ResolvedVideo) (r : VideoRequest) : Prop where
  /-- It is of the form that was asked for. -/
  label_eq : Vocabulary.word v.kind = r.label
  /-- It has as many scenes. -/
  length_eq : v.scenes.length = r.sceneCount
  /-- There is one. -/
  nonempty : v.scenes ≠ []
  /-- Every scene lasts, and no longer than an hour. -/
  lasts : ∀ s ∈ v.scenes, 1 ≤ s.duration.count ∧ s.duration.count ≤ 3600000
  /-- The margins of text add up to little more than an hour. -/
  margins : v.insets.Within 3600300

/-- A plan is made of a resolved request, and what it tells of it is true. -/
structure RenderPlan.Fulfils (p : RenderPlan) (r : VideoRequest) (v : ResolvedVideo) : Prop where
  /-- The scenes are laid out and the audio is put below them. -/
  made : ∃ visual, Timeline.ofScenes v.insets v.scenes = .ok visual ∧
    visual.withAudio v.insets.title v.audio = .ok p.timeline
  /-- The plan is of the form that was asked for. -/
  label_eq : Vocabulary.word p.kind = r.label
  /-- It has as many scenes. -/
  sceneCount_eq : p.sceneCount = r.sceneCount
  /-- It lasts as long as its timeline. -/
  totalDuration_eq : p.totalDuration = p.timeline.duration
  /-- That is the sum of all scenes, without any bits lost. -/
  total_eq : p.timeline.duration.count = Scene.totalCount v.scenes
  /-- That is at least a millisecond for each scene. -/
  le_total : r.sceneCount ≤ p.totalDuration.count
  /-- It is at most an hour for each scene. -/
  total_le : p.totalDuration.count ≤ r.sceneCount * 3600000
  /-- Every clip lasts, and it ends with the timeline or sooner. -/
  holds : ∀ c ∈ p.timeline.clips, p.timeline.Holds c
  /-- The margins of text add up to little more than an hour, so none of them was cut off. -/
  margins : v.insets.Within 3600300

/-! ## Resolving -/

section Resolving

variable {field : FieldRef} {seconds : Option Double} {usual t : Millis}

/-- A length that passes is one of a scene, if the usual one is. -/
theorem duration_bounds (h : Cleaning.duration field seconds usual = .ok t)
    (husual : 1 ≤ usual.count ∧ usual.count ≤ 3600000) : 1 ≤ t.count ∧ t.count ≤ 3600000 := by
  rcases Cleaning.duration_eq_ok_iff.mp h with ⟨-, rfl⟩ | ⟨d, -, -, hlow, hhigh⟩
  · exact husual
  · exact ⟨hlow, hhigh⟩

theorem singleTitle_within : InsetProfile.singleTitle.Within 3600300 := by
  unfold InsetProfile.Within
  decide

theorem scenes_within : InsetProfile.scenes.Within 3600300 := by
  unfold InsetProfile.Within
  decide

/-- The margins of a card are its fades, which have room in it. -/
theorem card_within {fadeIn fadeOut : Millis} (h : fadeIn.count + fadeOut.count ≤ 3600000) :
    (InsetProfile.card fadeIn fadeOut).Within 3600300 := by
  have hdelay : InsetProfile.subtitleDelay.count = 300 := by decide
  simp only [InsetProfile.Within, List.forall_mem_cons, List.not_mem_nil, false_imp_iff,
    implies_true, and_true, InsetProfile.card, Millis.addCapped, Millis.ofCountCapped, hdelay]
  omega

theorem titleRequest_answers {r : TitleRequest} {v : ResolvedVideo} (h : r.resolve = .ok v) :
    v.Answers (.singleTitle r) := by
  obtain ⟨title, src, color, duration, audio, -, -, -, hduration, -, rfl⟩ :=
    TitleRequest.resolve_eq_ok_iff.mp h
  refine ⟨rfl, rfl, by simp, ?_, singleTitle_within⟩
  intro s hs
  obtain rfl := List.mem_singleton.mp hs
  exact duration_bounds hduration (by decide)

theorem sceneRequest_lasts {r : SceneRequest} {index : Nat} {transition : Transition} {s : Scene}
    (h : r.resolve index transition = .ok s) :
    1 ≤ s.duration.count ∧ s.duration.count ≤ 3600000 := by
  obtain ⟨src, color, duration, -, -, hduration, rfl⟩ := SceneRequest.resolve_eq_ok_iff.mp h
  exact duration_bounds hduration (by decide)

theorem scenesRequest_answers {r : ScenesRequest} {v : ResolvedVideo} (h : r.resolve = .ok v) :
    v.Answers (.scenes r) := by
  obtain ⟨hne, scenes, audio, hscenes, -, rfl⟩ := ScenesRequest.resolve_eq_ok_iff.mp h
  have hrelated := SceneRequest.resolveAll_forall₂ hscenes
  refine ⟨rfl, hrelated.length_eq.symm, ?_, ?_, scenes_within⟩
  · -- nonempty
    rintro rfl
    exact hne (List.length_eq_zero_iff.mp hrelated.length_eq)
  · -- lasts
    intro s hs
    obtain ⟨q, -, index, hq⟩ := exists_left_of_forall₂ hrelated hs
    exact sceneRequest_lasts hq

theorem cardRequest_answers {r : CardRequest} {v : ResolvedVideo} (h : r.resolve = .ok v) :
    v.Answers (.card r) := by
  obtain ⟨title, duration, fadeIn, fadeOut, src, color, logo, audio, -, hduration, -, -, hfades, -,
    -, -, -, rfl⟩ := CardRequest.resolve_eq_ok_iff.mp h
  have hlasts := duration_bounds hduration (by decide)
  refine ⟨?_, rfl, by simp, ?_, card_within (by omega)⟩
  · -- label_eq
    cases hkind : r.kind <;> simp [VideoRequest.label, hkind, CardKind.videoKind, Vocabulary.word]
  · -- lasts
    intro s hs
    obtain rfl := List.mem_singleton.mp hs
    exact hlasts

/-- Whatever is resolved keeps to the bounds. -/
theorem resolve_answers {r : VideoRequest} {v : ResolvedVideo} (h : r.resolve = .ok v) :
    v.Answers r := by
  cases r with
  | singleTitle r => exact titleRequest_answers h
  | scenes r => exact scenesRequest_answers h
  | card r => exact cardRequest_answers h

end Resolving

/-! ## Laying out -/

namespace Scene

variable {scenes : List Scene}

theorem length_le_totalCount (h : ∀ s ∈ scenes, 1 ≤ s.duration.count) :
    scenes.length ≤ totalCount scenes := by
  induction scenes with
  | nil => exact Nat.zero_le _
  | cons s rest ih =>
    obtain ⟨hs, hrest⟩ := List.forall_mem_cons.mp h
    have := ih hrest
    rw [totalCount_cons, List.length_cons]
    omega

theorem totalCount_le (h : ∀ s ∈ scenes, s.duration.count ≤ 3600000) :
    totalCount scenes ≤ scenes.length * 3600000 := by
  induction scenes with
  | nil => exact Nat.zero_le _
  | cons s rest ih =>
    obtain ⟨hs, hrest⟩ := List.forall_mem_cons.mp h
    have := ih hrest
    rw [totalCount_cons, List.length_cons]
    omega

end Scene

namespace Timeline

variable {t : Timeline}

/-- Audio can be put below a timeline that lasts. It leaves the duration, and a voice ends with it
or sooner. -/
theorem exists_withAudio {inset : Inset} {audio : AudioPlan} (hlasts : 0 < t.duration.count)
    (hholds : ∀ c ∈ t.clips, t.Holds c) :
    ∃ t', t.withAudio inset audio = .ok t' ∧ t'.duration = t.duration ∧
      ∀ c ∈ t'.clips, t'.Holds c := by
  have hunder : ((t.withMusic audio.music audio.fade).withVoice inset audio.voice).Underlaid t inset
      audio := underlaid_withMusic_withVoice
  refine ⟨_, withAudio_eq_ok_iff.mpr ⟨hlasts, hunder⟩, hunder.duration_eq, ?_⟩
  intro c hc
  obtain ⟨track, htrack, hc⟩ := List.mem_flatMap.mp hc
  rw [hunder.tracks_eq] at htrack
  unfold Holds
  rw [hunder.duration_eq]
  rcases List.mem_append.mp htrack with hseen | hheard
  · exact hholds c (List.mem_flatMap.mpr ⟨track, hseen, hc⟩)
  · obtain ⟨layer, -, rfl⟩ := Option.map_eq_some_iff.mp (Option.mem_toList.mp hheard)
    obtain rfl := List.mem_singleton.mp hc
    obtain ⟨hpos, -, hend⟩ := inset.apply_within .zero t.duration hlasts
    rw [Millis.zero_count, Nat.zero_add] at hend
    exact ⟨hpos, hend⟩

end Timeline

/-! ## Planning -/

/-- The steps in which a plan is made. -/
theorem plan_steps {r : VideoRequest} {p : RenderPlan} (h : r.plan = .ok p) :
    ∃ v visual, r.resolve = .ok v ∧ Timeline.ofScenes v.insets v.scenes = .ok visual ∧
      p.timeline.Underlaid visual v.insets.title v.audio := by
  unfold VideoRequest.plan ResolvedVideo.plan at h
  simp only [bind_eq_ok_iff] at h
  obtain ⟨v, hv, visual, hvisual, timeline, htimeline, hp⟩ := h
  obtain rfl := Except.ok.inj hp
  exact ⟨v, visual, hv, hvisual, (Timeline.withAudio_eq_ok_iff.mp htimeline).2⟩

/-- A resolved request whose scenes can be counted in hours is planned. -/
theorem plan_of_answers {r : VideoRequest} {v : ResolvedVideo} (h : v.Answers r)
    (hroom : r.sceneCount * 3600000 < 18446744073709551616) :
    ∃ p, v.plan = .ok p ∧ p.Fulfils r v := by
  have hlasts : ∀ s ∈ v.scenes, 1 ≤ s.duration.count := fun s hs => (h.lasts s hs).1
  have hlow := Scene.length_le_totalCount hlasts
  have hhigh := Scene.totalCount_le fun s hs => (h.lasts s hs).2
  rw [h.length_eq] at hlow hhigh
  obtain ⟨visual, hvisual, hduration⟩ :=
    @Timeline.exists_ofScenes v.insets v.scenes h.nonempty hlasts (by omega)
  have hpos := List.length_pos_iff.mpr h.nonempty
  rw [h.length_eq] at hpos
  obtain ⟨timeline, htimeline, hsame, hholds⟩ :=
    @Timeline.exists_withAudio visual v.insets.title v.audio (by omega)
      (Timeline.holds_of_ofScenes hvisual)
  have htotal : timeline.duration.count = Scene.totalCount v.scenes := by rw [hsame, hduration]
  refine ⟨_, bind_eq_ok_iff.mpr
    ⟨visual, hvisual, bind_eq_ok_iff.mpr ⟨timeline, htimeline, rfl⟩⟩, ?_⟩
  exact
    { made := ⟨visual, hvisual, htimeline⟩
      label_eq := h.label_eq
      sceneCount_eq := h.length_eq
      totalDuration_eq := rfl
      total_eq := htotal
      le_total := by simp only [htotal]; exact hlow
      total_le := by simp only [htotal]; exact hhigh
      holds := hholds
      margins := h.margins }

/-- A request is planned exactly if it is resolved: planning fails as resolving fails, and in no
other way. -/
theorem plan_fulfils (r : VideoRequest)
    (hroom : r.sceneCount * 3600000 < 18446744073709551616) :
    (∀ e, r.plan = .error e ↔ r.resolve = .error e) ∧
      ∀ v, r.resolve = .ok v → ∃ p, r.plan = .ok p ∧ p.Fulfils r v := by
  unfold VideoRequest.plan
  cases hr : r.resolve with
  | error e => simp
  | ok v =>
    obtain ⟨p, hp, hfulfils⟩ := plan_of_answers (resolve_answers hr) hroom
    simp only [ok_bind, hp, reduceCtorEq, implies_true, true_and, Except.ok.injEq, forall_eq']
    exact ⟨p, rfl, hfulfils⟩

/-- A scene of seven seconds before one that says nothing. -/
theorem plan_fulfils_two_scenes :
    let r : VideoRequest :=
      .scenes { scenes := [{ title := some "One", duration := some (.ofNat 7) }, {}] }
    r.sceneCount * 3600000 < 18446744073709551616 ∧
      ∃ v p, r.resolve = .ok v ∧ r.plan = .ok p ∧ p.Fulfils r v := by
  intro r
  have hroom : r.sceneCount * 3600000 < 18446744073709551616 := by decide
  have hok : r.resolve.isOk = true := by decide +kernel
  cases hv : r.resolve with
  | error e => exact absurd (hv ▸ hok) (by simp [Except.isOk, Except.toBool])
  | ok v =>
    obtain ⟨p, hp, hfulfils⟩ := (plan_fulfils r hroom).2 v hv
    exact ⟨hroom, v, p, rfl, hp, hfulfils⟩

end Storyboard
