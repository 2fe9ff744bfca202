import Storyboard.Proofs.Request.Planning
import Storyboard.Proofs.Timeline.Clips
import Storyboard.Wire.Timeline

/-!
# How scenes come and go

How a scene comes and goes is decided in two places. When a request is resolved, a scene that says
nothing itself gets what the request says for all, and else a fade; when the scenes are laid out,
the first coming in and the last going out become fades whatever was decided before.
`VideoRequest.transitionAt` says for each layer and each position what that comes to, and
`plan_blends` that the plan of every request has it so.
-/

namespace Storyboard

/-! ## What a request asks for -/

namespace VideoRequest

/-- How the scene at a position comes and goes. The scenes of a sequence may each say it for
themselves, but for the first coming in and the last going out. -/
def boundaryAt (r : VideoRequest) (i : Nat) : ClipTransition :=
  match r with
  | .singleTitle _ | .card _ => .between .fade .fade
  | .scenes q =>
    let wanted (own : SceneRequest → Option Transition) : Transition :=
      ((q.scenes[i]?.bind own).or q.transitionType).getD .fade
    .between (if i = 0 then .fade else wanted (·.transitionIn))
      (if i + 1 = q.scenes.length then .fade else wanted (·.transitionOut))

/-- How the text of the scene at a position comes and goes: like the scene, but the text of a card
as the request says. -/
def textTransitionAt (r : VideoRequest) (i : Nat) : ClipTransition :=
  match r with
  | .card q => .between (q.transition.getD .fade) (q.transition.getD .fade)
  | _ => r.boundaryAt i

/-- How the clip of the scene at a position comes and goes on a layer. -/
def transitionAt (r : VideoRequest) (i : Nat) : TrackKind → Option ClipTransition
  | .background => some (r.boundaryAt i)
  | .title | .subtitle => some (r.textTransitionAt i)
  | .overlay => some (.between .fade .fade)
  | .voice => none

end VideoRequest

/-- The clips of a plan come and go as its request has it. -/
structure RenderPlan.Blends (p : RenderPlan) (r : VideoRequest) (scenes : List Scene) : Prop where
  /-- The scenes are as many as the request asks for. -/
  length_eq : scenes.length = r.sceneCount
  /-- What a scene has for a layer is shown there by the clip of the scene, which comes and goes as
  the request has it. -/
  clip_eq : ∀ i s, scenes[i]? = some s → ∀ kind asset, s.assetOn? kind = some asset →
    ∃ c, p.timeline.clipOf? scenes kind i = some c ∧ c.asset = asset ∧
      c.transition = r.transitionAt i kind
  /-- There are no other clips on these layers. -/
  length_clips : ∀ kind ∈ TrackKind.visual,
    (p.timeline.clipsOf kind).length = Scene.countOn kind scenes
  /-- A voice just starts and stops. -/
  voice_plain : ∀ c ∈ p.timeline.clipsOf .voice, c.transition = none
  /-- There are no clips besides. -/
  track_clips : ∀ track ∈ p.timeline.tracks, track.clips = p.timeline.clipsOf track.kind
  /-- Of the music nothing is written but where it is, how loud it is and its own effect. -/
  music_plain : ∀ music, p.timeline.soundtrack = some music →
    ∃ src volume effect, Wire.toJson music = .object
      [("src", src), ("volume", volume), ("effect", effect)]

/-! ## Resolving -/

/-- Laid out, the scenes of a resolved request come and go as asked for. -/
def ResolvedVideo.Blends (v : ResolvedVideo) (r : VideoRequest) : Prop :=
  ∀ i s, v.scenes[i]? = some s →
    s.transition (i == 0) (i + 1 == v.scenes.length) = r.boundaryAt i ∧
      s.lineTransition (i == 0) (i + 1 == v.scenes.length) = r.textTransitionAt i

section Resolving

/-- A scene that is alone fades on both ends, so only its text is open. -/
theorem blends_of_single {r : VideoRequest} {v : ResolvedVideo} {s : Scene}
    (hscenes : v.scenes = [s]) (hboundary : r.boundaryAt 0 = .between .fade .fade)
    (htext : s.lineTransition true true = r.textTransitionAt 0) : v.Blends r := by
  intro i s' hs
  rw [hscenes] at hs ⊢
  cases i with
  | zero =>
    obtain rfl := Option.some.inj hs
    exact ⟨hboundary.symm, htext⟩
  | succ i => exact absurd hs (by simp)

theorem titleRequest_blends {r : TitleRequest} {v : ResolvedVideo} (h : r.resolve = .ok v) :
    v.Blends (.singleTitle r) := by
  obtain ⟨title, src, color, duration, audio, -, -, -, -, -, rfl⟩ :=
    TitleRequest.resolve_eq_ok_iff.mp h
  exact blends_of_single rfl rfl rfl

theorem cardRequest_blends {r : CardRequest} {v : ResolvedVideo} (h : r.resolve = .ok v) :
    v.Blends (.card r) := by
  obtain ⟨title, duration, fadeIn, fadeOut, src, color, logo, audio, -, -, -, -, -, -, -, -, -,
    rfl⟩ := CardRequest.resolve_eq_ok_iff.mp h
  exact blends_of_single rfl rfl rfl

/-- A scene of a sequence comes and goes as it says, and else as the request does. -/
theorem scenesRequest_blends {r : ScenesRequest} {v : ResolvedVideo} (h : r.resolve = .ok v) :
    v.Blends (.scenes r) := by
  obtain ⟨-, scenes, audio, hscenes, -, rfl⟩ := ScenesRequest.resolve_eq_ok_iff.mp h
  have hrelated := SceneRequest.resolveAll_forall₂ hscenes
  intro i s hs
  obtain ⟨hi, hget⟩ := List.getElem?_eq_some_iff.mp hs
  have hi' : i < r.scenes.length := hrelated.length_eq ▸ hi
  obtain ⟨index, hq⟩ := hrelated.get hi' hi
  simp only [List.get_eq_getElem, hget] at hq
  obtain ⟨src, color, duration, -, -, -, rfl⟩ := SceneRequest.resolve_eq_ok_iff.mp hq
  have hboundary :
      (r.scenes[i].cleanScene src color duration (r.transitionType.getD .fade)).transition (i == 0)
        (i + 1 == scenes.length) = VideoRequest.boundaryAt (.scenes r) i := by
    simp only [Scene.transition, SceneRequest.cleanScene, VideoRequest.boundaryAt,
      List.getElem?_eq_getElem hi', Option.bind_some, ← hrelated.length_eq, beq_iff_eq,
      Option.getD_or]
  exact ⟨hboundary, hboundary⟩

theorem resolve_blends {r : VideoRequest} {v : ResolvedVideo} (h : r.resolve = .ok v) :
    v.Blends r := by
  cases r with
  | singleTitle r => exact titleRequest_blends h
  | scenes r => exact scenesRequest_blends h
  | card r => exact cardRequest_blends h

end Resolving

/-! ## Laying out -/

/-- What a scene has for a layer is shown by a clip that comes and goes as asked for, if the scene
does. -/
theorem Scene.placed_blends {s : Scene} {insets : InsetProfile} {start : Millis}
    {isFirst isLast : Bool} {r : VideoRequest} {i : Nat}
    (hscene : s.transition isFirst isLast = r.boundaryAt i)
    (htext : s.lineTransition isFirst isLast = r.textTransitionAt i) {kind : TrackKind}
    {asset : Asset} (h : s.assetOn? kind = some asset) :
    ∃ c, (s.placed insets start isFirst isLast).clipOn? kind = some c ∧ c.asset = asset ∧
      c.transition = r.transitionAt i kind := by
  cases kind with
  | title =>
    obtain ⟨text, ht, rfl⟩ := Option.map_eq_some_iff.mp h
    exact ⟨_, congrArg (Option.map _) ht, rfl, congrArg some htext⟩
  | subtitle =>
    obtain ⟨text, ht, rfl⟩ := Option.map_eq_some_iff.mp h
    exact ⟨_, congrArg (Option.map _) ht, rfl, congrArg some htext⟩
  | overlay =>
    obtain ⟨src, hsrc, rfl⟩ := Option.map_eq_some_iff.mp h
    exact ⟨_, congrArg (Option.map _) hsrc, rfl, rfl⟩
  | background =>
    have hasset : s.assetOn? .background =
        some (s.backgroundClip start (s.transition isFirst isLast)).asset := backgroundClip_asset _
    refine ⟨_, rfl, ?_, ?_⟩
    · exact Option.some.inj (hasset.symm.trans h)
    · simp only [VideoRequest.transitionAt, ← hscene, placed, backgroundClip]
      cases s.backgroundImage <;> rfl
  | voice => exact absurd h (by simp [assetOn?])

theorem voiceTrack_plain (inset : Inset) (layer : AudioLayer) (duration : Millis) :
    ∀ c ∈ (Timeline.voiceTrack inset layer duration).clips, c.transition = none := by
  intro c hc
  obtain rfl := List.mem_singleton.mp hc
  rfl

/-- In the plan of a request all clips come and go as the request has it. -/
theorem plan_blends {r : VideoRequest} {p : RenderPlan} (h : r.plan = .ok p) :
    ∃ v, r.resolve = .ok v ∧ p.Blends r v.scenes := by
  obtain ⟨v, visual, hv, hvisual, hunder⟩ := plan_steps h
  obtain ⟨first, rest, ps, -, hlaid, hteq⟩ := Timeline.ofScenes_eq_ok_iff.mp hvisual
  have htracks : visual.tracks = Timeline.visualTracks ps := by
    rw [hteq]
  have hkinds : ∀ track ∈ visual.tracks, track.kind ∈ TrackKind.visual :=
    fun track => Timeline.kind_mem_of_tracks_eq htracks
  have hvoice := hunder.clipsOf_voice fun track htrack hkind =>
    absurd (hkind ▸ hkinds track htrack) (by decide)
  refine ⟨v, hv, ?_⟩
  refine
    { length_eq := (resolve_answers hv).length_eq
      clip_eq := ?_
      length_clips := ?_
      voice_plain := ?_
      track_clips := ?_
      music_plain := ?_ }
  · -- clip_eq
    intro i s hs kind asset hasset
    obtain ⟨begun, -, -, -, hclip⟩ :=
      Timeline.clipOf?_placed hvisual (fun _ => hunder.clipsOf_eq) hs
    obtain ⟨hscene, htext⟩ := resolve_blends hv i s hs
    rw [hclip]
    exact Scene.placed_blends hscene htext hasset
  · -- length_clips
    intro kind hkind
    rw [hunder.clipsOf_eq hkind, Timeline.clipsOf_of_tracks_eq htracks, hlaid.length_clips]
  · -- voice_plain
    rw [hvoice]
    cases v.audio.voice with
    | none => simp
    | some layer => exact voiceTrack_plain _ _ _
  · -- track_clips
    intro track htrack
    rw [hunder.tracks_eq] at htrack
    rcases List.mem_append.mp htrack with hseen | hheard
    · rw [hunder.clipsOf_eq (hkinds track hseen)]
      exact (Timeline.track_clips_of_tracks_eq htracks hseen).1
    · obtain ⟨layer, hlayer, rfl⟩ := Option.map_eq_some_iff.mp (Option.mem_toList.mp hheard)
      rw [hlayer] at hvoice
      exact hvoice.symm
  · -- music_plain
    intro music _
    exact ⟨_, _, _, rfl⟩

/-- Three scenes, of which the second has no title: the first says how it goes, and the request how
all others come and go. -/
theorem plan_blends_three_scenes :
    let r : VideoRequest :=
      .scenes
        { scenes := [{ title := some "One", transitionOut := some .wipeLeft }, {},
            { title := some "Three" }]
          transitionType := some .zoom }
    ∃ p v, r.plan = .ok p ∧ r.resolve = .ok v ∧ p.Blends r v.scenes ∧
      (List.range 3).map r.boundaryAt =
        [.between .fade .wipeLeft, .between .zoom .zoom, .between .zoom .fade] := by
  intro r
  have hok : r.plan.isOk = true := by decide +kernel
  cases hp : r.plan with
  | error e => exact absurd (hp ▸ hok) (by simp [Except.isOk, Except.toBool])
  | ok p =>
    obtain ⟨v, hv, hblends⟩ := plan_blends hp
    exact ⟨p, v, rfl, hv, hblends, rfl⟩

end Storyboard
