import Storyboard.Proofs.Json.Doubles
import Storyboard.Proofs.Wire.Timelines

/-!
# Volumes and scales on the wire

Times come back from a text as they were, and volumes and scales need not: reading rounds twice, so
a volume may come back as a double next to it. `Timeline.mapLevels` replaces the volumes and scales
of a timeline and leaves everything else as it is. With it, what the text of a timeline is read as can
be said exactly, and the timeline itself comes back if and only if each volume and scale is legible.
-/

namespace Storyboard

/-! ## Volumes and scales replaced -/

/-- An asset with its volume replaced. -/
def Asset.mapLevels (f : Double → Double) : Asset → Asset
  | .audio src volume => .audio src (f volume)
  | a => a

/-- A clip with its volume and scale replaced. -/
def Clip.mapLevels (f : Double → Double) (c : Clip) : Clip :=
  { c with asset := c.asset.mapLevels f, scale := c.scale.map f }

/-- A track with the volumes and scales of its clips replaced. -/
def Track.mapLevels (f : Double → Double) (t : Track) : Track :=
  { t with clips := t.clips.map (Clip.mapLevels f) }

/-- A soundtrack with its volume replaced. -/
def Soundtrack.mapLevels (f : Double → Double) (s : Soundtrack) : Soundtrack :=
  { s with volume := f s.volume }

/-- A timeline with its volumes and scales replaced. -/
def Timeline.mapLevels (f : Double → Double) (t : Timeline) : Timeline :=
  { t with
    tracks := t.tracks.map (Track.mapLevels f)
    soundtrack := t.soundtrack.map (Soundtrack.mapLevels f) }

section MapLevels

variable (f : Double → Double)

theorem Clip.levels_mapLevels (c : Clip) : (c.mapLevels f).levels = c.levels.map f := by
  unfold Clip.levels Clip.mapLevels Asset.mapLevels
  cases c.asset <;> cases c.scale <;> rfl

theorem Timeline.clips_mapLevels (t : Timeline) :
    (t.mapLevels f).clips = t.clips.map (Clip.mapLevels f) := by
  unfold Timeline.clips Timeline.mapLevels
  rw [List.flatMap_map, List.map_flatMap]
  rfl

theorem Timeline.times_mapLevels (t : Timeline) : (t.mapLevels f).times = t.times := by
  unfold Timeline.times
  rw [Timeline.clips_mapLevels, List.flatMap_map]
  rfl

theorem Timeline.levels_mapLevels (t : Timeline) : (t.mapLevels f).levels = t.levels.map f := by
  have hclips : (t.mapLevels f).clips.flatMap Clip.levels = (t.clips.flatMap Clip.levels).map f := by
    rw [Timeline.clips_mapLevels, List.flatMap_map, List.map_flatMap]
    simp only [Clip.levels_mapLevels]
  unfold Timeline.levels
  rw [hclips, List.map_append]
  cases h : t.soundtrack <;> simp [Timeline.mapLevels, Soundtrack.mapLevels, h]

theorem Timeline.levels_sent (t : Timeline) : t.sent.levels = t.levels := by
  unfold Timeline.levels Timeline.clips Timeline.sent
  rw [List.flatMap_map]
  rfl

end MapLevels

/-- Volumes and scales that are replaced by themselves make no difference. -/
theorem Clip.mapLevels_eq_self {f : Double → Double} {c : Clip} (h : ∀ d ∈ c.levels, f d = d) :
    c.mapLevels f = c := by
  obtain ⟨asset, start, length, fit, effect, transition, position, scale⟩ := c
  have hasset : asset.mapLevels f = asset := by
    cases asset with
    | audio src volume =>
      have hvolume : f volume = volume := h volume (by simp [Clip.levels])
      rw [Asset.mapLevels, hvolume]
    | _ => rfl
  have hscale : scale.map f = scale := by
    cases scale with
    | none => rfl
    | some d =>
      have hd : f d = d := h d (by simp [Clip.levels])
      rw [Option.map_some, hd]
  simp only [Clip.mapLevels, hasset, hscale]

theorem Timeline.mapLevels_eq_self {f : Double → Double} {t : Timeline}
    (h : ∀ d ∈ t.levels, f d = d) : t.mapLevels f = t := by
  have hclip : ∀ track ∈ t.tracks, ∀ c ∈ track.clips, c.mapLevels f = c := by
    intro track htrack c hc
    refine Clip.mapLevels_eq_self fun d hd => h d (List.mem_append_left _ ?_)
    exact List.mem_flatMap.mpr ⟨c, List.mem_flatMap.mpr ⟨track, htrack, hc⟩, hd⟩
  have htracks : t.tracks.map (Track.mapLevels f) = t.tracks := by
    refine (List.map_congr_left fun track htrack => ?_).trans (List.map_id _)
    have hclips := List.map_congr_left (g := id) (hclip track htrack)
    rw [Track.mapLevels, hclips, List.map_id]
    rfl
  have hsoundtrack : t.soundtrack.map (Soundtrack.mapLevels f) = t.soundtrack := by
    cases hs : t.soundtrack with
    | none => rfl
    | some s =>
      have hvolume : f s.volume = s.volume :=
        h s.volume (List.mem_append_right _ (by simp [hs]))
      rw [Option.map_some, Soundtrack.mapLevels, hvolume]
  rw [Timeline.mapLevels, htracks, hsoundtrack]

/-- A timeline is sent as one with other volumes and scales only if these are the same. -/
theorem Timeline.sent_mapLevels_iff {f : Double → Double} {t : Timeline} :
    (t.mapLevels f).sent = t.sent ↔ ∀ d ∈ t.levels, f d = d := by
  constructor
  · intro hsent d hd
    have hlevels := congrArg Timeline.levels hsent
    rw [Timeline.levels_sent, Timeline.levels_sent, Timeline.levels_mapLevels] at hlevels
    exact List.map_inj_left.mp (hlevels.trans (List.map_id _).symm) d hd
  · intro h
    rw [Timeline.mapLevels_eq_self h]

/-! ## Their wire form -/

/-- A number with a double replaced. -/
def Json.Number.mapDouble (f : Double → Double) : Json.Number → Json.Number
  | .double d => .double (f d)
  | n => n

namespace Wire

open Json (Number mapNumbers mapItemNumbers mapMemberNumbers)

variable {g : Number → Number} {f : Double → Double}

theorem mapMemberNumbers_append (ms ns : List (String × Json)) :
    mapMemberNumbers g (ms ++ ns) = mapMemberNumbers g ms ++ mapMemberNumbers g ns := by
  induction ms with
  | nil => rfl
  | cons m ms ih =>
    obtain ⟨k, v⟩ := m
    rw [List.cons_append, mapMemberNumbers, ih]
    rfl

theorem mapItemNumbers_eq (vs : List Json) : mapItemNumbers g vs = vs.map (mapNumbers g) := by
  induction vs with
  | nil => rfl
  | cons v vs ih => rw [mapItemNumbers, ih, List.map_cons]

theorem mapMemberNumbers_word {α : Type} [Vocabulary α] (name : String) (x : Option α) :
    mapMemberNumbers g (memberIfAny name x) = memberIfAny name x := by
  cases x <;> rfl

theorem mapMemberNumbers_transition (name : String) (x : Option ClipTransition) :
    mapMemberNumbers g (memberIfAny name x) = memberIfAny name x := by
  cases x with
  | none => rfl
  | some t =>
    obtain ⟨incoming, outgoing⟩ := t
    cases incoming <;> cases outgoing <;> rfl

theorem toJson_asset_mapLevels (a : Asset) :
    toJson (a.mapLevels f) = mapNumbers (Number.mapDouble f) (toJson a) := by
  cases a with
  | title text style color position => cases color <;> rfl
  | _ => rfl

theorem toJson_clip_mapLevels {c : Clip} (hstart : f c.start.seconds = c.start.seconds)
    (hlength : f c.length.seconds = c.length.seconds) :
    toJson (c.mapLevels f) = mapNumbers (Number.mapDouble f) (toJson c) := by
  have htime : ∀ {t : Millis} (name : String), f t.seconds = t.seconds →
      mapMemberNumbers (Number.mapDouble f) (member name t) = member name t := by
    intro t name ht
    change [(name, Json.number (.double (f t.seconds)))] = _
    rw [ht]
    rfl
  have hasset : mapMemberNumbers (Number.mapDouble f) (member "asset" c.asset) =
      member "asset" (c.asset.mapLevels f) :=
    congrArg (fun v => [("asset", v)]) (toJson_asset_mapLevels c.asset).symm
  have hscale : mapMemberNumbers (Number.mapDouble f) (memberIfAny "scale" c.scale) =
      memberIfAny "scale" (c.scale.map f) := by
    cases c.scale <;> rfl
  change _ = Json.object (mapMemberNumbers (Number.mapDouble f) (member "asset" c.asset ++
    member "start" c.start ++ member "length" c.length ++ memberIfAny "fit" c.fit ++
    memberIfAny "effect" c.effect ++ memberIfAny "transition" c.transition ++
    memberIfAny "position" c.position ++ memberIfAny "scale" c.scale))
  simp only [mapMemberNumbers_append, hasset, htime _ hstart, htime _ hlength,
    mapMemberNumbers_word, mapMemberNumbers_transition, hscale]
  rfl

/-- The wire form of a timeline with other volumes and scales is that of the timeline with the numbers
replaced, if its times are replaced by themselves. -/
theorem toJson_mapLevels {t : Timeline} (htimes : ∀ time ∈ t.times, f time.seconds = time.seconds) :
    toJson (t.mapLevels f) = mapNumbers (Number.mapDouble f) (toJson t) := by
  have hclip : ∀ track ∈ t.tracks, ∀ c ∈ track.clips,
      toJson (c.mapLevels f) = mapNumbers (Number.mapDouble f) (toJson c) := by
    intro track htrack c hc
    have hmem : ∀ time ∈ [c.start, c.length], time ∈ t.times := fun time htime =>
      List.mem_flatMap.mpr ⟨c, List.mem_flatMap.mpr ⟨track, htrack, hc⟩, htime⟩
    exact toJson_clip_mapLevels (htimes _ (hmem _ (by simp))) (htimes _ (hmem _ (by simp)))
  have htrack : ∀ track ∈ t.tracks,
      toJson (track.mapLevels f) = mapNumbers (Number.mapDouble f) (toJson track) := by
    intro track htrack
    have hclips : (track.clips.map (Clip.mapLevels f)).map toJson =
        mapItemNumbers (Number.mapDouble f) (track.clips.map toJson) := by
      rw [mapItemNumbers_eq, List.map_map, List.map_map]
      exact List.map_congr_left (hclip track htrack)
    exact congrArg (fun items => Json.object [("clips", .list items)]) hclips
  have htracks : mapMemberNumbers (Number.mapDouble f) (member "tracks" t.tracks) =
      member "tracks" (t.tracks.map (Track.mapLevels f)) := by
    have hitems : mapItemNumbers (Number.mapDouble f) (t.tracks.map toJson) =
        (t.tracks.map (Track.mapLevels f)).map toJson := by
      rw [mapItemNumbers_eq, List.map_map, List.map_map]
      exact (List.map_congr_left htrack).symm
    exact congrArg (fun items => [("tracks", Json.list items)]) hitems
  have hsoundtrack : mapMemberNumbers (Number.mapDouble f) (memberIfAny "soundtrack" t.soundtrack) =
      memberIfAny "soundtrack" (t.soundtrack.map (Soundtrack.mapLevels f)) := by
    cases t.soundtrack <;> rfl
  change _ = Json.object (mapMemberNumbers (Number.mapDouble f) (member "background" t.background ++
    member "tracks" t.tracks ++ memberIfAny "soundtrack" t.soundtrack))
  rw [mapMemberNumbers_append, mapMemberNumbers_append, htracks, hsoundtrack]
  rfl

end Wire

/-! ## There and back -/

namespace Wire

open Json (Form Number)

/-- Every number of a timeline that is written is read as a number. -/
theorem readsAs_timeline {t : Timeline} (htimes : ∀ time ∈ t.times, time.count < 2 ^ 51)
    (hlevels : ∀ d ∈ t.levels, d.IsProper) {n : Number} (hn : n ∈ Json.numbers (toJson t)) :
    n.ReadsAs (n.mapDouble Double.reread) := by
  rcases numbers_timeline hn with ⟨time, htime, rfl⟩ | ⟨d, hd, rfl⟩
  · have hlegible := Millis.isLegible_seconds (htimes time htime)
    rw [Number.mapDouble, Double.reread_of_isLegible hlegible]
    exact hlegible.isToken
  · exact (hlevels d hd).readsAs_reread.1

/-- The text of a timeline is read, with each volume and scale as its own text is read. -/
theorem ofChars_timeline {t : Timeline} (htimes : ∀ time ∈ t.times, time.count < 2 ^ 51)
    (hlevels : ∀ d ∈ t.levels, d.IsProper) (more : Bool) :
    (reader : Json.Reader Timeline).ofChars more (toJson t).toText.toList =
      .ok (t.mapLevels Double.reread).sent := by
  have htimes' : ∀ time ∈ t.times, time.seconds.reread = time.seconds := fun time htime =>
    Double.reread_of_isLegible (Millis.isLegible_seconds (htimes time htime))
  have hclips : ∀ c ∈ (t.mapLevels Double.reread).clips,
      c.start.count < 2 ^ 51 ∧ c.length.count < 2 ^ 51 := by
    rw [← Timeline.times_mapLevels Double.reread] at htimes
    exact Timeline.forall_clips_of_times htimes
  have hroom : (Form.text Json.deepest).HasRoom 6 := (by decide : 6 ≤ Json.deepest)
  have hgets := gets_timeline hclips hroom
  rw [toJson_mapLevels htimes'] at hgets
  exact hgets.ofChars_toText_map (fun n hn => readsAs_timeline htimes hlevels hn) more

end Wire

namespace Timeline

/-- A timeline comes back from the engine's side with all that is sent. -/
structure Returns (t : Timeline) : Prop where
  /-- All its numbers can be written. -/
  finite : ∀ n ∈ Json.numbers (Wire.toJson t), n.toDouble.isFinite = true
  /-- Its wire form is read, and nothing is lost but what is only known here. -/
  ofJson_eq : (Wire.reader : Json.Reader Timeline).ofJson (Wire.toJson t) = .ok t.sent
  /-- The text of its wire form is read, with each volume and scale as its own text is read. -/
  ofChars_eq : ∀ more, (Wire.reader : Json.Reader Timeline).ofChars more
    (Wire.toJson t).toText.toList = .ok (t.mapLevels Double.reread).sent
  /-- So the text gives back all that is sent if and only if the volumes and scales are legible. -/
  ofChars_eq_sent_iff : ∀ more, (Wire.reader : Json.Reader Timeline).ofChars more
    (Wire.toJson t).toText.toList = .ok t.sent ↔ ∀ d ∈ t.levels, Json.Number.IsLegible (.double d)
  /-- What the text is read as can be sent and read in turn. -/
  proper : ∀ d ∈ (t.mapLevels Double.reread).levels, d.IsProper
  /-- What was read is sent again as before. -/
  toJson_eq : Wire.toJson t.sent = Wire.toJson t

/-- A timeline with usual times and finite volumes and scales comes back. -/
theorem returns {t : Timeline} (htimes : ∀ time ∈ t.times, time.count < 2 ^ 51)
    (hlevels : ∀ d ∈ t.levels, d.IsProper) : t.Returns := by
  have hread := Wire.ofChars_timeline htimes hlevels
  refine
    { finite := ?_
      ofJson_eq := Wire.gets_timeline (forall_clips_of_times htimes) trivial
      ofChars_eq := hread
      ofChars_eq_sent_iff := ?_
      proper := ?_
      toJson_eq := Wire.toJson_sent t }
  · -- finite
    intro n hn
    rcases Wire.numbers_timeline hn with ⟨time, htime, rfl⟩ | ⟨d, hd, rfl⟩
    · exact Millis.isFinite_seconds (htimes time htime)
    · exact (hlevels d hd).isFinite
  · -- ofChars_eq_sent_iff
    intro more
    rw [hread, Except.ok.injEq, sent_mapLevels_iff]
    exact forall₂_congr fun d hd => (hlevels d hd).isLegible_iff.symm
  · -- proper
    intro d hd
    rw [levels_mapLevels] at hd
    obtain ⟨level, hlevel, rfl⟩ := List.mem_map.mp hd
    exact (hlevels level hlevel).readsAs_reread.2

/-- A spoken text over a picture, and music. -/
theorem returns_spoken :
    let picture : Clip :=
      { asset := .image "https://example.com/a.png", start := .zero, length := ⟨4300, by decide⟩,
        fit := some .cover, transition := some ⟨none, some .fade⟩, scale := some (.ofQuotient 1 4) }
    let voice : Clip :=
      { asset := .audio "https://example.com/a.mp3" (.ofQuotient 4 5), start := ⟨300, by decide⟩,
        length := ⟨3999, by decide⟩ }
    let t : Timeline :=
      { background := "#000000", tracks := [⟨.voice, [voice]⟩, ⟨.overlay, [picture]⟩],
        soundtrack := some ⟨"https://example.com/b.mp3", .ofQuotient 1 5, .fadeOut⟩,
        duration := ⟨4300, by decide⟩ }
    (∀ time ∈ t.times, time.count < 2 ^ 51) ∧ (∀ d ∈ t.levels, d.IsProper) ∧ t.Returns ∧
      ∀ more, (Wire.reader : Json.Reader Timeline).ofChars more (Wire.toJson t).toText.toList =
        .ok t.sent := by
  intro picture voice t
  have htimes : ∀ time ∈ t.times, time.count < 2 ^ 51 := by decide
  have hlevels : ∀ d ∈ t.levels, d.IsProper := by decide +kernel
  have hlegible : ∀ d ∈ t.levels, Json.Number.IsLegible (.double d) := by decide +kernel
  have hreturns : t.Returns := returns htimes hlevels
  exact ⟨htimes, hlevels, hreturns, fun more => (hreturns.ofChars_eq_sent_iff more).mpr hlegible⟩

/-- Music whose volume, three parts in `2003`, comes back as the double above it. -/
theorem returns_louder :
    let t : Timeline :=
      { background := "#000000", tracks := [],
        soundtrack := some ⟨"https://example.com/b.mp3", .ofQuotient 3 2003, .fadeOut⟩,
        duration := .zero }
    (∀ time ∈ t.times, time.count < 2 ^ 51) ∧ (∀ d ∈ t.levels, d.isFinite = true) ∧
      (Wire.reader : Json.Reader Timeline).ofChars false (Wire.toJson t).toText.toList ≠
        .ok t.sent := by
  intro t
  have htimes : ∀ time ∈ t.times, time.count < 2 ^ 51 := by decide
  have hlevels : ∀ d ∈ t.levels, d.IsProper := by decide +kernel
  refine ⟨htimes, fun d hd => (hlevels d hd).isFinite, ?_⟩
  rw [Wire.ofChars_timeline htimes hlevels, ne_eq, Except.ok.injEq, sent_mapLevels_iff]
  decide +kernel

end Timeline

end Storyboard
