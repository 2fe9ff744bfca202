import Storyboard.Proofs.Request.Canonical

/-!
# When text and voice are there

Margins are decided with the form of a request and used twice: when the scenes are laid out, each
line of text loses them from the window of its scene, and when audio is put below, a voice loses
those of the titles from the whole duration. `VideoRequest.margins` is the table of them,
`Clip.Fills` says what is left of a window, and `plan_keeps_margins` that the clips of every plan
fill what the table leaves, while music and voice change nothing that is seen.

A window that is not longer than its margins is filled from end to end. Where there is one scene, the
voice is there exactly as long as the title.
-/

namespace Storyboard

open Cleaning (Supplied)

/-! ## The table -/

/-- How many milliseconds are left free at the start and at the end of a window. -/
structure Margins where
  /-- At the start. -/
  lead : Nat
  /-- At the end. -/
  tail : Nat
deriving DecidableEq, Repr

/-- A clip fills a window within its margins, or all of it if there is nothing within them. -/
def Clip.Fills (c : Clip) (m : Margins) (start length : Nat) : Prop :=
  if m.lead + m.tail < length then
    c.start.count = start + m.lead ∧ c.endCount = start + length - m.tail
  else
    c.start.count = start ∧ c.endCount = start + length

namespace VideoRequest

/-- The margins of titles. -/
def titleMargins : VideoRequest → Margins
  | .singleTitle _ => ⟨500, 500⟩
  | .scenes _ => ⟨300, 300⟩
  | .card q => ⟨countOr q.fadeIn 500, countOr q.fadeOut 1000⟩

/-- The margins of the lines below them. -/
def subtitleMargins : VideoRequest → Margins
  | .singleTitle _ => ⟨1000, 500⟩
  | .scenes _ => ⟨600, 300⟩
  | .card q => ⟨countOr q.fadeIn 500 + 300, countOr q.fadeOut 1000⟩

/-- The margins of each layer. A voice has those of the titles. -/
def margins (r : VideoRequest) : TrackKind → Margins
  | .title | .voice => r.titleMargins
  | .subtitle => r.subtitleMargins
  | .overlay | .background => ⟨0, 0⟩

/-- How music starts and ends. -/
def musicEffect : VideoRequest → SoundtrackEffect
  | .singleTitle _ | .scenes _ => .fadeInFadeOut
  | .card q =>
    match q.kind with
    | .intro => .fadeIn
    | .outro => .fadeOut

end VideoRequest

/-- A plan keeps the margins of its request. `visual` is what comes of the scenes alone. -/
structure RenderPlan.KeepsMargins (p : RenderPlan) (r : VideoRequest) (scenes : List Scene)
    (visual : Timeline) : Prop where
  /-- The colour is that of the scenes. -/
  background_eq : p.timeline.background = visual.background
  /-- So is the duration. -/
  duration_eq : p.timeline.duration = visual.duration
  /-- It is the sum of all scenes, and the plan tells it. -/
  total_eq : p.totalDuration = p.timeline.duration ∧
    p.totalDuration.count = Scene.totalCount scenes
  /-- On every layer that is seen stands one clip for each scene that has something for it, and fills
  the window of the scene. -/
  windows : ∀ kind ∈ TrackKind.visual,
    List.Forall₂ (fun w c => w.1.assetOn? kind = some c.asset ∧
        c.Fills (r.margins kind) w.2 w.1.duration.count)
      (Scene.windowsOn kind 0 scenes) (p.timeline.clipsOf kind)
  /-- A voice fills the whole duration, on a track of its own behind those of the scenes. -/
  spoken : ∀ src, Supplied r.audio.voiceRef src →
    ∃ c : Clip, p.timeline.tracks = visual.tracks ++ [⟨.voice, [c]⟩] ∧
      c.asset = .audio src (r.audio.voiceVolume.getD AudioRequest.usualVoiceVolume) ∧
      c.Fills (r.margins .voice) 0 p.totalDuration.count
  /-- Without a voice there are no other tracks. -/
  unspoken : (∀ src, ¬Supplied r.audio.voiceRef src) → p.timeline.tracks = visual.tracks
  /-- Music starts and ends as the form has it. -/
  played : ∀ src, Supplied r.audio.musicRef src →
    p.timeline.soundtrack =
      some ⟨src, r.audio.musicVolume.getD AudioRequest.usualMusicVolume, r.musicEffect⟩
  /-- Without music there is none. -/
  unplayed : (∀ src, ¬Supplied r.audio.musicRef src) → p.timeline.soundtrack = none
  /-- Where there is one scene, a voice is there exactly as long as the title. -/
  together : (∀ q, r ≠ .scenes q) → ∃ title, p.timeline.clipsOf .title = [title] ∧
    ∀ c ∈ p.timeline.clipsOf .voice, c.start = title.start ∧ c.length = title.length

/-! ## Filling a window -/

namespace Clip

variable {c c' : Clip} {m : Margins} {start length : Nat}

theorem fills_of_lt (hroom : m.lead + m.tail < length) (hstart : c.start.count = start + m.lead)
    (hlength : m.lead + m.tail + c.length.count = length) : c.Fills m start length := by
  unfold Fills endCount
  rw [if_pos hroom]
  refine ⟨hstart, ?_⟩
  omega

theorem fills_of_le (hroom : length ≤ m.lead + m.tail) (hstart : c.start.count = start)
    (hlength : c.length.count = length) : c.Fills m start length := by
  unfold Fills endCount
  rw [if_neg (Nat.not_lt_of_le hroom)]
  refine ⟨hstart, ?_⟩
  omega

/-- A clip that is there from end to end fills a window without margins. -/
theorem fills_whole (hstart : c.start.count = start) (hlength : c.length.count = length) :
    c.Fills ⟨0, 0⟩ start length := by
  rcases Nat.eq_zero_or_pos length with hzero | hpos
  · exact fills_of_le (Nat.le_of_eq hzero) hstart hlength
  · exact fills_of_lt hpos hstart (by simp only; omega)

/-- There is one way to fill a window. -/
theorem Fills.window_eq (h : c.Fills m start length) (h' : c'.Fills m start length) :
    c.start = c'.start ∧ c.length = c'.length := by
  unfold Fills endCount at h h'
  by_cases hroom : m.lead + m.tail < length
  · rw [if_pos hroom] at h h'
    exact ⟨Millis.ext_count (by omega), Millis.ext_count (by omega)⟩
  · rw [if_neg hroom] at h h'
    exact ⟨Millis.ext_count (by omega), Millis.ext_count (by omega)⟩

end Clip

/-- The margins of an inset. -/
def Inset.margins (i : Inset) : Margins := ⟨i.lead.count, i.tail.count⟩

/-- What an inset leaves of a window is filled, if the end of the window can be counted. -/
theorem Inset.fills_of_apply {i : Inset} {start length stop : Millis} {c : Clip}
    (hc : i.apply start length = (c.start, c.length))
    (hstop : stop.count = start.count + length.count) :
    c.Fills i.margins start.count length.count := by
  by_cases hroom : i.lead.count + i.tail.count < length.count
  · obtain ⟨hstart, hlength⟩ := apply_of_lt hroom hstop
    rw [hc] at hstart hlength
    exact Clip.fills_of_lt hroom hstart hlength
  · have hshort := Nat.le_of_not_lt hroom
    rw [apply_of_le hshort] at hc
    obtain ⟨hstart, hlength⟩ := Prod.mk.inj hc
    exact Clip.fills_of_le hshort (congrArg Millis.count hstart.symm)
      (congrArg Millis.count hlength.symm)

/-- The margins of a profile, layer by layer. -/
def InsetProfile.margins (insets : InsetProfile) : TrackKind → Margins
  | .title | .voice => insets.title.margins
  | .subtitle => insets.subtitle.margins
  | .overlay | .background => ⟨0, 0⟩

section Layout

variable {s : Scene} {insets : InsetProfile}

/-- A scene that is placed shows on each layer what it has for it, within its margins. -/
theorem Scene.placed_fills {start next : Millis} {isFirst isLast : Bool} {kind : TrackKind}
    {c : Clip} (hnext : next.count = start.count + s.duration.count)
    (hc : (s.placed insets start isFirst isLast).clipOn? kind = some c) :
    c.Fills (insets.margins kind) start.count s.duration.count := by
  cases kind with
  | title =>
    obtain ⟨text, -, rfl⟩ := Option.map_eq_some_iff.mp hc
    exact Inset.fills_of_apply rfl hnext
  | subtitle =>
    obtain ⟨text, -, rfl⟩ := Option.map_eq_some_iff.mp hc
    exact Inset.fills_of_apply rfl hnext
  | overlay =>
    obtain ⟨src, -, rfl⟩ := Option.map_eq_some_iff.mp hc
    exact Clip.fills_whole rfl rfl
  | background =>
    obtain rfl := Option.some.inj hc
    obtain ⟨hstart, hlength⟩ := s.backgroundClip_window start (s.transition isFirst isLast)
    exact Clip.fills_whole (congrArg Millis.count hstart) (congrArg Millis.count hlength)
  | voice => exact absurd hc (by simp [PlacedScene.clipOn?])

/-- The clips of scenes that are laid out fill the windows of their scenes. -/
theorem Timeline.fills_of_ofScenes {scenes : List Scene} {t : Timeline}
    (h : ofScenes insets scenes = .ok t) (kind : TrackKind) :
    List.Forall₂ (fun w c => w.1.assetOn? kind = some c.asset ∧
        c.Fills (insets.margins kind) w.2 w.1.duration.count)
      (Scene.windowsOn kind 0 scenes) (t.clipsOf kind) := by
  obtain ⟨first, rest, ps, -, hlaid, hteq⟩ := ofScenes_eq_ok_iff.mp h
  rw [clipsOf_of_tracks_eq (by rw [hteq]) kind]
  refine hlaid.clips_related ?_
  intro s start next isFirst isLast c lasts hnext hc
  exact ⟨(Scene.placed_stands lasts hc).asset_eq, Scene.placed_fills hnext hc⟩

end Layout

/-! ## What a request is resolved to -/

section Resolving

variable {r : VideoRequest} {v : ResolvedVideo}

/-- The margins that are decided are those of the table. -/
theorem margins_of_resolve (h : r.resolve = .ok v) (kind : TrackKind) :
    v.insets.margins kind = r.margins kind := by
  cases r with
  | singleTitle q =>
    obtain ⟨_, _, _, _, _, _, _, _, _, _, rfl⟩ := TitleRequest.resolve_eq_ok_iff.mp h
    cases kind <;> rfl
  | scenes q =>
    obtain ⟨_, _, _, _, _, rfl⟩ := ScenesRequest.resolve_eq_ok_iff.mp h
    cases kind <;> rfl
  | card q =>
    have hcanonical := cardRequest_canonical h
    obtain ⟨hlead, htail⟩ := hcanonical.fades q rfl
    obtain ⟨hdelayed, hsame⟩ := hcanonical.delayed q rfl
    have htitle : v.insets.title.margins = (VideoRequest.card q).titleMargins := by
      simp only [Inset.margins, hlead, htail, VideoRequest.titleMargins]
    have hsubtitle : v.insets.subtitle.margins = (VideoRequest.card q).subtitleMargins := by
      simp only [Inset.margins, hdelayed, hsame, hlead, htail, VideoRequest.subtitleMargins]
    cases kind with
    | title | voice => exact htitle
    | subtitle => exact hsubtitle
    | overlay | background => rfl

/-- The layers of audio that are asked for. -/
def AudioRequest.plan (a : AudioRequest) (effect : SoundtrackEffect) : AudioPlan where
  music := (Cleaning.trimmed a.musicRef).map (⟨·, a.musicVolume.getD usualMusicVolume⟩)
  voice := (Cleaning.trimmed a.voiceRef).map (⟨·, a.voiceVolume.getD usualVoiceVolume⟩)
  fade := effect

theorem AudioRequest.plan_of_resolve {a : AudioRequest} {effect : SoundtrackEffect}
    {plan : AudioPlan} (h : a.resolve effect = .ok plan) : plan = a.plan effect := by
  obtain ⟨music, voice, hmusic, hvoice, rfl⟩ := AudioRequest.resolve_eq_ok_iff.mp h
  rw [(layer_eq_ok_iff.mp hmusic).1, (layer_eq_ok_iff.mp hvoice).1]
  rfl

theorem audio_of_resolve (h : r.resolve = .ok v) : v.audio = r.audio.plan r.musicEffect := by
  cases r with
  | singleTitle q =>
    obtain ⟨_, _, _, _, audio, _, _, _, _, haudio, rfl⟩ := TitleRequest.resolve_eq_ok_iff.mp h
    exact AudioRequest.plan_of_resolve haudio
  | scenes q =>
    obtain ⟨_, _, audio, _, haudio, rfl⟩ := ScenesRequest.resolve_eq_ok_iff.mp h
    exact AudioRequest.plan_of_resolve haudio
  | card q =>
    obtain ⟨_, _, _, _, _, _, _, audio, _, _, _, _, _, _, _, _, haudio, rfl⟩ :=
      CardRequest.resolve_eq_ok_iff.mp h
    have heffect : (VideoRequest.card q).musicEffect = CardRequest.fade q.kind := by
      cases hkind : q.kind <;> simp [VideoRequest.musicEffect, CardRequest.fade, hkind]
    rw [heffect]
    exact AudioRequest.plan_of_resolve haudio

/-- All forms but one have one scene, and it has a title. -/
theorem alone_of_resolve (h : r.resolve = .ok v) (hform : ∀ q, r ≠ .scenes q) :
    ∃ s, v.scenes = [s] ∧ s.title.isSome = true := by
  cases r with
  | singleTitle q =>
    obtain ⟨_, _, _, _, _, _, _, _, _, _, rfl⟩ := TitleRequest.resolve_eq_ok_iff.mp h
    exact ⟨_, rfl, rfl⟩
  | scenes q => exact absurd rfl (hform q)
  | card q =>
    obtain ⟨_, _, _, _, _, _, _, _, _, _, _, _, _, _, _, _, _, rfl⟩ :=
      CardRequest.resolve_eq_ok_iff.mp h
    exact ⟨_, rfl, rfl⟩

end Resolving

/-! ## Plans -/

/-- A voice that is put below fills the whole duration. -/
theorem Timeline.voiceTrack_fills (inset : Inset) (layer : AudioLayer) (duration : Millis) :
    ∃ c : Clip, voiceTrack inset layer duration = ⟨.voice, [c]⟩ ∧
      c.asset = .audio layer.src layer.volume ∧ c.Fills inset.margins 0 duration.count := by
  refine ⟨_, rfl, rfl, ?_⟩
  have hstop : duration.count = Millis.zero.count + duration.count := by
    rw [Millis.zero_count, Nat.zero_add]
  exact Inset.fills_of_apply rfl hstop

theorem totalDuration_of_plan {r : VideoRequest} {p : RenderPlan} (h : r.plan = .ok p) :
    p.totalDuration = p.timeline.duration := by
  unfold VideoRequest.plan ResolvedVideo.plan at h
  simp only [bind_eq_ok_iff] at h
  obtain ⟨v, -, visual, -, timeline, -, hp⟩ := h
  obtain rfl := Except.ok.inj hp
  rfl

section Together

variable {t visual : Timeline} {v : ResolvedVideo} {audio : AudioPlan}

/-- A scene with a title, alone in its timeline, shows the title for as long as a voice is heard. -/
theorem voice_with_title {s : Scene} (hvisual : Timeline.ofScenes v.insets [s] = .ok visual)
    (htitle : s.title.isSome = true) (hunder : t.Underlaid visual v.insets.title audio) :
    ∃ title, t.clipsOf .title = [title] ∧
      ∀ c ∈ t.clipsOf .voice, c.start = title.start ∧ c.length = title.length := by
  obtain ⟨first, rest, ps, -, hlaid, hteq⟩ := Timeline.ofScenes_eq_ok_iff.mp hvisual
  have htotal : visual.duration.count = s.duration.count := by
    rw [hlaid.final_count, Scene.totalCount_cons, Millis.zero_count, Nat.zero_add]
    rfl
  have hwindow : Scene.windowsOn .title 0 [s] = [(s, 0)] := by
    simp [Scene.windowsOn, Scene.windows, Scene.assetOn?, htitle]
  -- on the layer of titles there is one clip
  have hfills := Timeline.fills_of_ofScenes hvisual .title
  rw [hwindow, ← hunder.clipsOf_eq (by decide)] at hfills
  obtain ⟨title, titles, ⟨-, hfill⟩, hnil, hclips⟩ := List.forall₂_cons_left_iff.mp hfills
  obtain rfl := List.forall₂_nil_left_iff.mp hnil
  refine ⟨title, hclips, ?_⟩
  -- and on that of the voice there is no other than the one below
  have hseen : ∀ track ∈ visual.tracks, track.kind ≠ .voice := by
    intro track htrack hkind
    have hmem := Timeline.kind_mem_of_tracks_eq (by rw [hteq]) htrack
    rw [hkind] at hmem
    exact absurd hmem (by decide)
  intro c hc
  rw [hunder.clipsOf_voice hseen] at hc
  cases hvoice : audio.voice with
  | none =>
    rw [hvoice] at hc
    exact absurd hc List.not_mem_nil
  | some layer =>
    obtain ⟨spoken, htrack, -, hspoken⟩ :=
      Timeline.voiceTrack_fills v.insets.title layer visual.duration
    rw [hvoice, Option.map_some, Option.getD_some, htrack] at hc
    obtain rfl := List.mem_singleton.mp hc
    rw [htotal] at hspoken
    exact hspoken.window_eq hfill

end Together

/-- Every plan keeps the margins of its request, and what is heard changes nothing that is seen. -/
theorem plan_keeps_margins {r : VideoRequest} {p : RenderPlan} (h : r.plan = .ok p) :
    ∃ v visual, r.resolve = .ok v ∧ Timeline.ofScenes v.insets v.scenes = .ok visual ∧
      p.KeepsMargins r v.scenes visual := by
  obtain ⟨v, visual, hv, hvisual, hunder⟩ := plan_steps h
  have htotal := totalDuration_of_plan h
  have haudio := audio_of_resolve hv
  have hmargins := margins_of_resolve hv
  obtain ⟨first, rest, ps, -, hlaid, hteq⟩ := Timeline.ofScenes_eq_ok_iff.mp hvisual
  have hmusic : p.timeline.soundtrack = (r.audio.plan r.musicEffect).music.map fun layer =>
      ⟨layer.src, layer.volume, r.musicEffect⟩ := by
    rw [hunder.soundtrack_eq, haudio, hteq, Option.or_none]
    rfl
  have hvoice : p.timeline.tracks = visual.tracks ++ ((r.audio.plan r.musicEffect).voice.map
      fun layer => Timeline.voiceTrack v.insets.title layer visual.duration).toList := by
    rw [hunder.tracks_eq, haudio]
  refine ⟨v, visual, hv, hvisual, ?_⟩
  refine
    { background_eq := hunder.background_eq
      duration_eq := hunder.duration_eq
      total_eq := ⟨htotal, ?_⟩
      windows := ?_
      spoken := ?_
      unspoken := ?_
      played := ?_
      unplayed := ?_
      together := ?_ }
  · -- total_eq
    rw [htotal, hunder.duration_eq, hlaid.final_count, Millis.zero_count, Nat.zero_add]
  · -- windows
    intro kind hkind
    rw [hunder.clipsOf_eq hkind, ← hmargins kind]
    exact Timeline.fills_of_ofScenes hvisual kind
  · -- spoken
    intro src hsrc
    obtain ⟨c, htrack, hasset, hfills⟩ := Timeline.voiceTrack_fills v.insets.title
      ⟨src, r.audio.voiceVolume.getD AudioRequest.usualVoiceVolume⟩ visual.duration
    refine ⟨c, ?_, hasset, ?_⟩
    · rw [hvoice, AudioRequest.plan, Cleaning.trimmed_eq_some_iff.mpr hsrc, ← htrack]
      rfl
    · rw [htotal, hunder.duration_eq, ← hmargins .voice]
      exact hfills
  · -- unspoken
    intro hnone
    rw [hvoice, AudioRequest.plan, Cleaning.trimmed_eq_none_iff.mpr hnone]
    exact List.append_nil _
  · -- played
    intro src hsrc
    rw [hmusic, AudioRequest.plan, Cleaning.trimmed_eq_some_iff.mpr hsrc]
    rfl
  · -- unplayed
    intro hnone
    rw [hmusic, AudioRequest.plan, Cleaning.trimmed_eq_none_iff.mpr hnone]
    rfl
  · -- together
    intro hform
    obtain ⟨s, hscenes, htitle⟩ := alone_of_resolve hv hform
    rw [hscenes] at hvisual
    exact voice_with_title hvisual htitle hunder

/-- A card of six seconds with a fade of two seconds at its start, a voice and music. -/
theorem plan_keeps_margins_spoken_card :
    let r : VideoRequest :=
      .card
        { kind := .outro, title := some "Bye", subtitle := some "See you"
          duration := some (.ofNat 6), fadeIn := some (.ofNat 2)
          audio := { musicRef := some "http://[::1]/song.mp3"
                     voiceRef := some " http://[::1]/voice.mp3" } }
    ∃ (p : RenderPlan) (v : ResolvedVideo) (visual : Timeline), r.plan = .ok p ∧
      p.KeepsMargins r v.scenes visual ∧
      Supplied r.audio.voiceRef "http://[::1]/voice.mp3" ∧ r.margins .voice = ⟨2000, 1000⟩ := by
  intro r
  have hok : r.plan.isOk = true := by decide +kernel
  have hsupplied : Supplied r.audio.voiceRef "http://[::1]/voice.mp3" :=
    Cleaning.trimmed_eq_some_iff.mp (by decide +kernel)
  obtain ⟨p, hp⟩ := exists_ok_of_isOk hok
  obtain ⟨v, visual, -, -, hkeeps⟩ := plan_keeps_margins hp
  exact ⟨p, v, visual, hp, hkeeps, hsupplied, by decide +kernel⟩

end Storyboard
