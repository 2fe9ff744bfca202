import Mathlib.Algebra.Order.Ring.Nat
import Mathlib.Data.List.Forall2
import Storyboard.Proofs.Timeline.Placement

/-!
# Tilings

The timeline of scenes is tiled by their backgrounds: the window of a scene begins where the windows
before it add up to, and all windows together make up the duration. Every other clip stands in the
window of the scene that it belongs to, so no two clips of a layer can overlap, however far apart
their scenes are.

`Timeline.Tiles` says all this of a timeline and a list of scenes, and `tiles_of_ofScenes` that it
holds of every timeline that is made.
-/

namespace Storyboard

/-! ## Lists that are related item by item -/

section Related

variable {α β : Type} {R : α → β → Prop} {as : List α} {bs : List β}

theorem exists_left_of_forall₂ (h : List.Forall₂ R as bs) {b : β} (hb : b ∈ bs) :
    ∃ a ∈ as, R a b := by
  induction h with
  | nil => exact absurd hb List.not_mem_nil
  | @cons a b' as bs hab _ ih =>
    rcases List.mem_cons.mp hb with rfl | hb
    · exact ⟨a, List.mem_cons_self, hab⟩
    · obtain ⟨a', ha', hab'⟩ := ih hb
      exact ⟨a', List.mem_cons_of_mem _ ha', hab'⟩

/-- An order of the items of one list is one of the items that they are related to. -/
theorem pairwise_of_forall₂ {S : α → α → Prop} {T : β → β → Prop}
    (hST : ∀ {a a' : α} {b b' : β}, R a b → R a' b' → S a a' → T b b')
    (h : List.Forall₂ R as bs) (hS : as.Pairwise S) : bs.Pairwise T := by
  induction h with
  | nil => exact List.Pairwise.nil
  | cons hab htail ih =>
    obtain ⟨hhead, hS'⟩ := List.pairwise_cons.mp hS
    refine List.pairwise_cons.mpr ⟨fun b' hb' => ?_, ih hS'⟩
    obtain ⟨a', ha', hab'⟩ := exists_left_of_forall₂ htail hb'
    exact hST hab hab' (hhead a' ha')

end Related

namespace Scene

/-! ## Windows -/

/-- How long scenes last altogether. -/
def totalCount (scenes : List Scene) : Nat := (scenes.map (·.duration.count)).sum

/-- The scenes, each with the count at which it starts if the first starts at the given one. -/
def windows (start : Nat) : List Scene → List (Scene × Nat)
  | [] => []
  | s :: rest => (s, start) :: windows (start + s.duration.count) rest

/-- The scenes that have something for a layer, each with the count at which it starts. -/
def windowsOn (kind : TrackKind) (start : Nat) (scenes : List Scene) : List (Scene × Nat) :=
  (windows start scenes).filter fun w => (w.1.assetOn? kind).isSome

@[simp] theorem totalCount_cons (s : Scene) (rest : List Scene) :
    totalCount (s :: rest) = s.duration.count + totalCount rest := by
  simp [totalCount]

theorem totalCount_append (xs ys : List Scene) :
    totalCount (xs ++ ys) = totalCount xs + totalCount ys := by
  simp [totalCount]

theorem totalCount_take_succ {scenes : List Scene} {k : Nat} {s : Scene}
    (hs : scenes[k]? = some s) :
    totalCount (scenes.take (k + 1)) = totalCount (scenes.take k) + s.duration.count := by
  rw [List.take_add_one, hs, totalCount_append]
  rfl

/-- A scene starts where the scenes before it add up to. -/
theorem windows_getElem? (scenes : List Scene) (start k : Nat) :
    (windows start scenes)[k]? = scenes[k]?.map fun s => (s, start + totalCount (scenes.take k)) := by
  induction scenes generalizing start k with
  | nil => simp [windows]
  | cons s rest ih =>
    cases k with
    | zero => simp [windows, totalCount]
    | succ k =>
      simp only [windows, List.getElem?_cons_succ, ih, List.take_succ_cons, totalCount_cons]
      rw [← Nat.add_assoc]

theorem le_of_mem_windows {scenes : List Scene} {start : Nat} {w : Scene × Nat}
    (h : w ∈ windows start scenes) : start ≤ w.2 := by
  induction scenes generalizing start with
  | nil => exact absurd h List.not_mem_nil
  | cons s rest ih =>
    rcases List.mem_cons.mp h with rfl | h
    · exact Nat.le_refl _
    · have := ih h
      omega

/-- Every scene starts when all scenes before it have ended. -/
theorem windows_pairwise (scenes : List Scene) (start : Nat) :
    (windows start scenes).Pairwise fun v w => v.2 + v.1.duration.count ≤ w.2 := by
  induction scenes generalizing start with
  | nil => exact List.Pairwise.nil
  | cons s rest ih =>
    exact List.pairwise_cons.mpr ⟨fun w hw => le_of_mem_windows hw, ih _⟩

theorem end_le_of_mem_windows {scenes : List Scene} {start : Nat} {w : Scene × Nat}
    (h : w ∈ windows start scenes) : w.2 + w.1.duration.count ≤ start + totalCount scenes := by
  induction scenes generalizing start with
  | nil => exact absurd h List.not_mem_nil
  | cons s rest ih =>
    rw [totalCount_cons]
    rcases List.mem_cons.mp h with rfl | h
    · simp only
      omega
    · have := ih h
      omega

theorem windowsOn_eq_nil_iff {kind : TrackKind} {start : Nat} {scenes : List Scene} :
    windowsOn kind start scenes = [] ↔ (scenes.any fun s => (s.assetOn? kind).isSome) = false := by
  induction scenes generalizing start with
  | nil => simp [windowsOn, windows]
  | cons s rest ih =>
    have ih' := @ih (start + s.duration.count)
    unfold windowsOn at ih' ⊢
    cases h : (s.assetOn? kind).isSome <;> simp [windows, h, ih']

/-! ## The clips of scenes that are laid out -/

section LaidOut

variable {insets : InsetProfile} {scenes : List Scene} {number : Nat} {start final : Millis}
  {ps : List PlacedScene}

/-- The last scene has ended when all durations have passed. -/
theorem LaidOut.final_count (h : LaidOut insets scenes number start ps final) :
    final.count = start.count + totalCount scenes := by
  induction h with
  | nil => rfl
  | cons _ next_eq _ ih =>
    rw [ih, next_eq, totalCount_cons, Nat.add_assoc]

theorem LaidOut.length_eq (h : LaidOut insets scenes number start ps final) :
    ps.length = scenes.length := by
  induction h with
  | nil => rfl
  | cons _ _ _ ih => simp [ih]

/-- What holds of the clip of every scene that is placed on a layer holds of all clips there, which
are one for each scene that has something for it, in order. -/
theorem LaidOut.clips_related (h : LaidOut insets scenes number start ps final) {kind : TrackKind}
    {R : Scene × Nat → Clip → Prop}
    (hR : ∀ {s : Scene} {start next : Millis} {isFirst isLast : Bool} {c : Clip},
      0 < s.duration.count → next.count = start.count + s.duration.count →
      (s.placed insets start isFirst isLast).clipOn? kind = some c → R (s, start.count) c) :
    List.Forall₂ R (windowsOn kind start.count scenes) (ps.filterMap (·.clipOn? kind)) := by
  induction h with
  | nil => exact List.Forall₂.nil
  | @cons s rest number start next final placedRest lasts next_eq others ih =>
    have hsome : ((s.placed insets start (number == 1) rest.isEmpty).clipOn? kind).isSome =
        (s.assetOn? kind).isSome := placed_clipOn?_isSome kind
    have hwindows : windowsOn kind start.count (s :: rest) =
        if (s.assetOn? kind).isSome then (s, start.count) :: windowsOn kind next.count rest
        else windowsOn kind next.count rest := by
      rw [next_eq]
      simp only [windowsOn, windows, List.filter_cons]
    rw [hwindows, ← hsome]
    cases hc : (s.placed insets start (number == 1) rest.isEmpty).clipOn? kind with
    | none => simpa [hc] using ih
    | some c => simpa [hc] using And.intro (hR lasts next_eq hc) ih

/-- On every layer stands one clip for each scene that has something for it, in order. -/
theorem LaidOut.clips_stand (h : LaidOut insets scenes number start ps final) (kind : TrackKind) :
    List.Forall₂ (fun w c => w.1.Stands w.2 kind c) (windowsOn kind start.count scenes)
      (ps.filterMap (·.clipOn? kind)) :=
  h.clips_related fun lasts _ hc => placed_stands lasts hc

/-- The backgrounds fill the windows. -/
theorem LaidOut.backgrounds_fill (h : LaidOut insets scenes number start ps final) :
    List.Forall₂ (fun w c => c.start.count = w.2 ∧ c.length = w.1.duration)
      (windows start.count scenes) (ps.map (·.background)) := by
  induction h with
  | nil => exact List.Forall₂.nil
  | @cons s rest number start next final placedRest _ next_eq _ ih =>
    rw [next_eq] at ih
    obtain ⟨hstart, hlength⟩ :=
      s.backgroundClip_window start (s.transition (number == 1) rest.isEmpty)
    exact List.Forall₂.cons ⟨congrArg Millis.count hstart, hlength⟩ ih

end LaidOut

end Scene

/-! ## Timelines -/

namespace Timeline

/-- A timeline is tiled by scenes. -/
structure Tiles (scenes : List Scene) (t : Timeline) : Prop where
  /-- The timeline lasts as long as all scenes together. -/
  duration_eq : t.duration.count = Scene.totalCount scenes
  /-- There are as many backgrounds as scenes. -/
  backgrounds_length : (t.clipsOf .background).length = scenes.length
  /-- A background starts when the scenes before it add up to, and ends when its own is added. -/
  background_window : ∀ k < scenes.length, ∃ c, (t.clipsOf .background)[k]? = some c ∧
    c.start.count = Scene.totalCount (scenes.take k) ∧
    c.endCount = Scene.totalCount (scenes.take (k + 1))
  /-- On every layer stands one clip for each scene that has something for it, in order. -/
  clips_stand : ∀ kind, List.Forall₂ (fun w c => w.1.Stands w.2 kind c)
    (Scene.windowsOn kind 0 scenes) (t.clipsOf kind)
  /-- A layer has a track exactly if some scene has something for it. -/
  kinds_eq : t.tracks.map (·.kind) =
    TrackKind.visual.filter fun kind => scenes.any fun s => (s.assetOn? kind).isSome
  /-- A track holds the clips of its layer, of which there are some. -/
  track_clips : ∀ track ∈ t.tracks, track.clips = t.clipsOf track.kind ∧ track.clips ≠ []
  /-- A clip starts when all clips before it on its track have ended. -/
  ordered : ∀ track ∈ t.tracks, track.clips.Pairwise fun a b => a.endCount ≤ b.start.count
  /-- A clip lasts, and it ends with the timeline or sooner; so its end can be counted. -/
  in_range : ∀ c ∈ t.clips, 0 < c.length.count ∧
    ∃ stop, c.end? = some stop ∧ stop.count ≤ t.duration.count

/-- The tracks of placed scenes are those of the visual layers that have clips. -/
theorem visualTracks_eq (ps : List PlacedScene) :
    visualTracks ps = (TrackKind.visual.map fun kind =>
      ({ kind, clips := ps.filterMap (·.clipOn? kind) } : Track)).filter (!·.isEmpty) := by
  have hb : ps.filterMap (fun p => some p.background) = ps.map (·.background) :=
    congrFun List.filterMap_eq_map ps
  simp only [visualTracks, TrackKind.visual, List.map_cons, List.map_nil, PlacedScene.clipOn?, hb]

/-- Looking for a layer among tracks without the empty ones. -/
theorem find?_nonempty_track (clips : TrackKind → List Clip) (kinds : List TrackKind)
    (kind : TrackKind) :
    ((kinds.map fun k => ({ kind := k, clips := clips k } : Track)).filter (!·.isEmpty)).find?
        (·.kind = kind) =
      if kind ∈ kinds ∧ clips kind ≠ [] then some ⟨kind, clips kind⟩ else none := by
  induction kinds with
  | nil => simp
  | cons k rest ih =>
    rw [List.map_cons, List.filter_cons]
    by_cases hk : k = kind
    · subst hk
      cases hc : clips k with
      | nil => simpa [Track.isEmpty, hc] using ih
      | cons c cs => simp [Track.isEmpty]
    · have hk' : ¬kind = k := fun h => hk h.symm
      split
      · rw [List.find?_cons_of_neg (by simpa using hk), ih]
        simp [hk']
      · rw [ih]
        simp [hk']

section

variable {t : Timeline} {ps : List PlacedScene}

/-- The clips of a layer are those that the scenes have there. -/
theorem clipsOf_of_tracks_eq (ht : t.tracks = visualTracks ps) (kind : TrackKind) :
    t.clipsOf kind = ps.filterMap (·.clipOn? kind) := by
  have hfind := find?_nonempty_track (fun k => ps.filterMap (·.clipOn? k)) TrackKind.visual kind
  rw [← visualTracks_eq, ← ht] at hfind
  unfold clipsOf track?
  rw [hfind]
  by_cases h : kind ∈ TrackKind.visual ∧ ps.filterMap (·.clipOn? kind) ≠ []
  · rw [if_pos h]
  · rw [if_neg h]
    by_cases hv : kind ∈ TrackKind.visual
    · exact (Classical.not_not.mp fun hne => h ⟨hv, hne⟩).symm
    · have hvoice : kind = .voice := by
        cases kind <;> simp_all [TrackKind.visual]
      simp [hvoice, PlacedScene.clipOn?]

theorem kind_mem_of_tracks_eq (ht : t.tracks = visualTracks ps) {track : Track}
    (h : track ∈ t.tracks) : track.kind ∈ TrackKind.visual := by
  rw [ht, visualTracks_eq] at h
  obtain ⟨h, -⟩ := List.mem_filter.mp h
  obtain ⟨kind, hkind, rfl⟩ := List.mem_map.mp h
  exact hkind

/-- A track holds the clips of its layer, of which there are some. -/
theorem track_clips_of_tracks_eq (ht : t.tracks = visualTracks ps) {track : Track}
    (h : track ∈ t.tracks) : track.clips = t.clipsOf track.kind ∧ track.clips ≠ [] := by
  have hm := h
  rw [ht, visualTracks_eq] at hm
  obtain ⟨hm, hne⟩ := List.mem_filter.mp hm
  obtain ⟨kind, -, rfl⟩ := List.mem_map.mp hm
  exact ⟨(clipsOf_of_tracks_eq ht kind).symm, by simpa [Track.isEmpty] using hne⟩

end

/-- Every timeline that is made of scenes is tiled by them, whatever the margins of the text. -/
theorem tiles_of_ofScenes {insets : InsetProfile} {scenes : List Scene} {t : Timeline}
    (h : ofScenes insets scenes = .ok t) : t.Tiles scenes := by
  obtain ⟨first, rest, ps, -, hlaid, hteq⟩ := ofScenes_eq_ok_iff.mp h
  have ht : t.tracks = visualTracks ps := by rw [hteq]
  have hclips := clipsOf_of_tracks_eq ht
  have hduration : t.duration.count = Scene.totalCount scenes := by
    rw [hlaid.final_count, Millis.zero_count, Nat.zero_add]
  have hstand : ∀ kind, List.Forall₂ (fun w c => w.1.Stands w.2 kind c)
      (Scene.windowsOn kind 0 scenes) (t.clipsOf kind) := by
    intro kind
    rw [hclips]
    exact hlaid.clips_stand kind
  have hbackgrounds : t.clipsOf .background = ps.map (·.background) := by
    rw [hclips]
    exact congrFun List.filterMap_eq_map ps
  have hfill := hlaid.backgrounds_fill
  rw [← hbackgrounds, Millis.zero_count] at hfill
  refine
    { duration_eq := hduration
      backgrounds_length := ?_
      background_window := ?_
      clips_stand := hstand
      kinds_eq := ?_
      track_clips := fun _ hm => track_clips_of_tracks_eq ht hm
      ordered := ?_
      in_range := ?_ }
  · -- backgrounds_length
    rw [hbackgrounds, List.length_map, hlaid.length_eq]
  · -- background_window
    intro k hk
    have hlen := hfill.length_eq
    have hw : (Scene.windows 0 scenes)[k]? =
        some (scenes[k], 0 + Scene.totalCount (scenes.take k)) := by
      rw [Scene.windows_getElem?, List.getElem?_eq_getElem hk, Option.map_some]
    obtain ⟨hkw, hw'⟩ := List.getElem?_eq_some_iff.mp hw
    have hkc : k < (t.clipsOf .background).length := hlen ▸ hkw
    obtain ⟨hstart, hlength⟩ := hfill.get hkw hkc
    simp only [List.get_eq_getElem, hw', Nat.zero_add] at hstart hlength
    refine ⟨(t.clipsOf .background)[k], List.getElem?_eq_getElem hkc, hstart, ?_⟩
    rw [Clip.endCount, hstart, hlength, Scene.totalCount_take_succ (List.getElem?_eq_getElem hk)]
  · -- kinds_eq
    rw [ht, visualTracks_eq, List.filter_map, List.map_map]
    simp only [Function.comp_def, List.map_id']
    refine List.filter_congr fun kind _ => ?_
    have hlen := (hlaid.clips_stand kind).length_eq
    cases hany : scenes.any fun s => (s.assetOn? kind).isSome with
    | false =>
      rw [Scene.windowsOn_eq_nil_iff.mpr hany] at hlen
      simp [Track.isEmpty, List.eq_nil_of_length_eq_zero hlen.symm]
    | true =>
      have hne : Scene.windowsOn kind Millis.zero.count scenes ≠ [] := fun he => by
        rw [Scene.windowsOn_eq_nil_iff.mp he] at hany
        exact absurd hany (by simp)
      have hpos := List.length_pos_iff.mpr hne
      rw [hlen, List.length_pos_iff] at hpos
      simpa [Track.isEmpty] using hpos
  · -- ordered
    intro track hm
    rw [(track_clips_of_tracks_eq ht hm).1]
    refine pairwise_of_forall₂ ?_ (hstand track.kind) ((Scene.windows_pairwise scenes 0).filter _)
    intro v w b c hb hc hvw
    have h1 := hb.end_le
    have h2 := hc.le_start
    omega
  · -- in_range
    intro c hc
    obtain ⟨track, hm, hc⟩ := List.mem_flatMap.mp hc
    rw [(track_clips_of_tracks_eq ht hm).1] at hc
    obtain ⟨w, hw, hstands⟩ := exists_left_of_forall₂ (hstand track.kind) hc
    have hend := Scene.end_le_of_mem_windows (List.mem_of_mem_filter hw)
    have hle := hstands.end_le
    have hlt := t.duration.count_lt
    refine ⟨hstands.length_pos, ⟨c.endCount, by omega⟩, ?_, ?_⟩
    · exact Millis.add?_eq_some_iff.mpr rfl
    · simp only
      omega

/-- A titled scene before a plain one. -/
theorem tiles_of_ofScenes_titled :
    ∃ t, ofScenes .scenes [{ Scene.plain ⟨5000, by decide⟩ with title := some "One" },
        .plain ⟨3000, by decide⟩] = .ok t ∧
      t.Tiles [{ Scene.plain ⟨5000, by decide⟩ with title := some "One" },
        .plain ⟨3000, by decide⟩] := by
  have h : ∃ t, ofScenes .scenes [{ Scene.plain ⟨5000, by decide⟩ with title := some "One" },
      .plain ⟨3000, by decide⟩] = .ok t := ⟨_, rfl⟩
  obtain ⟨t, ht⟩ := h
  exact ⟨t, ht, tiles_of_ofScenes ht⟩

end Timeline

end Storyboard
