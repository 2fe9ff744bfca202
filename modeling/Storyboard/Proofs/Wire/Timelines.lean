import Storyboard.Proofs.Time.Written
import Storyboard.Proofs.Wire.Requests
import Storyboard.Wire.Timeline

/-!
# Timelines on the wire

A timeline that was sent to the engine and is read again is the same one, but for what is only known
here: the kinds of the tracks and the duration. Members that were left out are absent again, and the
times survive their way through seconds.

Records are read back with the function that they make their result with: `Record.Makes` keeps what
is left of it after some members, so that a member that may be left out need not be told apart from
one that is there.
-/

namespace Storyboard

/-! ## Records with members left out -/

/-- A member that may be left out brings no other name. -/
@[simp]
theorem Wire.mem_memberIfAny_iff {β : Type} [Wire β] {name other : String} {x : Option β} :
    other ∈ (Wire.memberIfAny name x).map Prod.fst ↔ x.isSome = true ∧ other = name := by
  cases x <;> simp [Wire.memberIfAny, Wire.member]

namespace Json.Record

variable {σ α β : Type} {form inner : Form}

/-- From some members a record makes a result. -/
def Makes (r : Record σ α) (form : Form) (ms : List (String × Json)) (a : α) : Prop :=
  ∃ s, r.Collects form ms s ∧ r.finish s = .ok a

theorem makes_of (a : α) : (Record.of a).Makes form [] a := ⟨(), rfl, rfl⟩

/-- One more field is read from one more member. -/
theorem Makes.field {r : Record σ (β → α)} {ms : List (String × Json)} {make : β → α}
    (h : r.Makes form ms make) {f : Field β} (hname : f.name ∉ ms.map Prod.fst) {v : Json} {b : β}
    (hread : f.reader.Gets form v b) :
    (r.field f).Makes form (ms ++ [(f.name, v)]) (make b) := by
  obtain ⟨s, hcollects, hfinish⟩ := h
  refine ⟨(s, some b), hcollects.field hname hread, ?_⟩
  simp only [Record.field, hfinish, ok_bind]
  rfl

/-- One more field is made up for. -/
theorem Makes.absent {r : Record σ (β → α)} {ms : List (String × Json)} {make : β → α}
    (h : r.Makes form ms make) {f : Field β} (hname : f.name ∉ ms.map Prod.fst) {b : β}
    (habsent : f.absent = some b) : (r.field f).Makes form ms (make b) := by
  obtain ⟨s, hcollects, hfinish⟩ := h
  refine ⟨(s, none), ?_, ?_⟩
  · have hrest := members_field hname hcollects none []
    rw [List.append_nil] at hrest
    exact hrest
  · simp only [Record.field, hfinish, ok_bind, habsent]
    rfl

theorem Makes.reader {r : Record σ α} {ms : List (String × Json)} {a : α}
    (h : r.Makes inner ms a) (henter : form.enter = .ok inner) (label : String) :
    (r.reader label).Gets form (.object ms) a := by
  obtain ⟨s, hcollects, hfinish⟩ := h
  exact hcollects.reader hfinish henter label

/-- A field that must be there is read from its member. -/
theorem Makes.required [Wire β] {r : Record σ (β → α)} {ms : List (String × Json)} {make : β → α}
    (h : r.Makes form ms make) (name : String) {v b : β}
    (hread : (Wire.reader : Reader β).Gets form (Wire.toJson v) b)
    (hname : name ∉ ms.map Prod.fst := by simp [Wire.member]) :
    (r.field (Wire.required name)).Makes form (ms ++ Wire.member name v) (make b) :=
  h.field hname hread

/-- A field that may be left out is read from its member, if there is one. -/
theorem Makes.ifAny [Wire β] {r : Record σ (Option β → α)} {ms : List (String × Json)}
    {make : Option β → α} (h : r.Makes form ms make) (name : String) {x : Option β}
    (hread : ∀ b, x = some b → Wire.toJson b ≠ .null ∧
      (Wire.reader : Reader β).Gets form (Wire.toJson b) b)
    (hname : name ∉ ms.map Prod.fst := by simp [Wire.member]) :
    (r.field (Wire.optional name)).Makes form (ms ++ Wire.memberIfAny name x) (make x) := by
  cases x with
  | none =>
    rw [Wire.memberIfAny, List.append_nil]
    exact h.absent hname rfl
  | some b =>
    have hsome : Wire.toJson (some b) = Wire.toJson b := rfl
    have hoption : (Wire.reader : Reader β).optional.Gets form (Wire.toJson (some b)) (some b) :=
      Reader.gets_optional hread
    rw [hsome] at hoption
    exact h.field hname hoption

end Json.Record

namespace Wire

open Json (Form Reader Record)

instance : LawfulVocabulary Fit := ⟨by intro a; cases a <;> rfl⟩

instance : LawfulVocabulary SoundtrackEffect := ⟨by intro a; cases a <;> rfl⟩

instance : LawfulVocabulary AssetTag := ⟨by intro a; cases a <;> rfl⟩

variable {form inner : Form}

/-- An optional member of a type without nesting is always read back. -/
theorem gets_simple {α : Type} [Wire α] [Simple α] {x : Option α} (b : α) (_ : x = some b) :
    toJson b ≠ .null ∧ (reader : Reader α).Gets form (toJson b) b :=
  ⟨Simple.toJson_ne_null b, Simple.gets form b⟩

/-- What is read is passed on if it is not refused. -/
theorem gets_mapExcept {α β : Type} {r : Reader α} {v : Json} {a : α} (h : r.Gets form v a)
    {f : α → Except String β} {b : β} (hf : f a = .ok b) : (r.mapExcept f).Gets form v b := by
  unfold Reader.Gets at h ⊢
  simp only [Reader.mapExcept, h, ok_bind, hf]

theorem gets_millis {t : Millis} (h : t.count < 2 ^ 51) :
    (reader : Reader Millis).Gets form (toJson t) t := by
  refine gets_mapExcept (Reader.gets_double t.seconds) ?_
  rw [Millis.ofSeconds?_seconds h]

/-- An asset is read back from under its type if it is from its members alone. -/
theorem gets_asset_of_body {tag : AssetTag} {ms : List (String × Json)} {a : Asset}
    (h : form.HasRoom 1) (hname : "type" ∉ ms.map Prod.fst) (hdepth : Json.memberDepth ms = 0)
    (hbody : (assetBody tag).Gets .setAside (.object ms) a) :
    (reader : Reader Asset).Gets form (.object (member "type" tag ++ ms)) a := by
  obtain ⟨inner, henter, hroom⟩ := h.enter
  exact Json.Tagged.gets_object (LawfulVocabulary.ofWord?_word tag) henter hname
    (hroom.mono hdepth.le) hbody

theorem memberDepth_ifAny {α : Type} [Wire α] [Simple α] (name : String) (x : Option α) :
    Json.memberDepth (memberIfAny name x) = 0 := by
  cases x with
  | none => rfl
  | some a => exact (memberDepth_member name a).trans (Simple.depth_eq_zero a)

theorem memberDepth_simple {α : Type} [Wire α] [Simple α] (name : String) (a : α) :
    Json.memberDepth (member name a) = 0 :=
  (memberDepth_member name a).trans (Simple.depth_eq_zero a)

theorem gets_asset (a : Asset) (h : form.HasRoom 1) :
    (reader : Reader Asset).Gets form (toJson a) a := by
  have henter : Form.setAside.enter = .ok .setAside := rfl
  cases a with
  | image src =>
    refine @gets_asset_of_body _ .image (member "src" src) _ h (by simp [member])
      (memberDepth_simple _ _) ?_
    exact (Record.makes_of _).required "src" (Simple.gets _ src) |>.reader henter _
  | color color =>
    refine @gets_asset_of_body _ .color (member "color" color) _ h (by simp [member])
      (memberDepth_simple _ _) ?_
    exact (Record.makes_of _).required "color" (Simple.gets _ color) |>.reader henter _
  | title text style color position =>
    refine @gets_asset_of_body _ .title (member "text" text ++ member "style" style ++
      memberIfAny "color" color ++ member "position" position) _ h (by simp [member])
      (by simp [memberDepth_append, memberDepth_simple, memberDepth_ifAny]) ?_
    exact (Record.makes_of _).required "text" (Simple.gets _ text)
      |>.required "style" (Simple.gets _ style)
      |>.ifAny "color" gets_simple
      |>.required "position" (Simple.gets _ position)
      |>.reader henter _
  | audio src volume =>
    refine @gets_asset_of_body _ .audio (member "src" src ++ member "volume" volume) _ h
      (by simp [member]) (by simp [memberDepth_append, memberDepth_simple]) ?_
    exact (Record.makes_of _).required "src" (Simple.gets _ src)
      |>.required "volume" (Simple.gets _ volume)
      |>.reader henter _

theorem gets_clipTransition (t : ClipTransition) (h : form.HasRoom 1) :
    (reader : Reader ClipTransition).Gets form (toJson t) t := by
  obtain ⟨inner, henter, -⟩ := h.enter
  exact (Record.makes_of _).ifAny "in" gets_simple |>.ifAny "out" gets_simple |>.reader henter _

theorem gets_clip {c : Clip} (hstart : c.start.count < 2 ^ 51) (hlength : c.length.count < 2 ^ 51)
    (h : form.HasRoom 2) : (reader : Reader Clip).Gets form (toJson c) c := by
  obtain ⟨inner, henter, hroom⟩ := h.enter
  exact (Record.makes_of _).required "asset" (gets_asset c.asset hroom)
    |>.required "start" (gets_millis hstart)
    |>.required "length" (gets_millis hlength)
    |>.ifAny "fit" gets_simple
    |>.ifAny "effect" gets_simple
    |>.ifAny "transition" (fun t _ => ⟨Json.noConfusion, gets_clipTransition t hroom⟩)
    |>.ifAny "position" gets_simple
    |>.ifAny "scale" gets_simple
    |>.reader henter _

theorem gets_soundtrack (s : Soundtrack) (h : form.HasRoom 1) :
    (reader : Reader Soundtrack).Gets form (toJson s) s := by
  obtain ⟨inner, henter, -⟩ := h.enter
  exact (Record.makes_of _).required "src" (Simple.gets _ s.src)
    |>.required "volume" (Simple.gets _ s.volume)
    |>.required "effect" (Simple.gets _ s.effect)
    |>.reader henter _

end Wire

/-! ## What is sent and what is not -/

/-- The volumes and scales of a clip. -/
def Clip.levels (c : Clip) : List Double :=
  (match c.asset with
    | .audio _ volume => [volume]
    | _ => []) ++ c.scale.toList

/-- A track as it comes back. -/
def Track.sent (t : Track) : Track := { t with kind := .background }

namespace Timeline

/-- A timeline as it comes back: without the kinds of its tracks and without its duration. -/
def sent (t : Timeline) : Timeline :=
  { t with tracks := t.tracks.map Track.sent, duration := .zero }

/-- The times of the clips. -/
def times (t : Timeline) : List Millis := t.clips.flatMap fun c => [c.start, c.length]

/-- The volumes and scales of a timeline. -/
def levels (t : Timeline) : List Double :=
  t.clips.flatMap Clip.levels ++ (t.soundtrack.map (·.volume)).toList

/-- A bound on the times is one on each clip. -/
theorem forall_clips_of_times {t : Timeline} {bound : Nat}
    (h : ∀ time ∈ t.times, time.count < bound) :
    ∀ c ∈ t.clips, c.start.count < bound ∧ c.length.count < bound := by
  intro c hc
  have hmem : ∀ time ∈ [c.start, c.length], time ∈ t.times := fun time htime =>
    List.mem_flatMap.mpr ⟨c, hc, htime⟩
  exact ⟨h _ (hmem _ (by simp)), h _ (hmem _ (by simp))⟩

end Timeline

namespace Wire

open Json (Form Reader Record)

variable {form inner : Form}

theorem member_sent_tracks (ts : List Track) :
    member "tracks" (ts.map Track.sent) = member "tracks" ts := by
  have htracks : (ts.map Track.sent).map toJson = ts.map toJson := by
    rw [List.map_map]
    rfl
  exact congrArg (fun items => [("tracks", Json.list items)]) htracks

theorem toJson_sent (t : Timeline) : toJson t.sent = toJson t := by
  change Json.object (_ ++ member "tracks" (t.tracks.map Track.sent) ++ _) = _
  rw [member_sent_tracks]
  rfl

theorem gets_track {t : Track}
    (ht : ∀ c ∈ t.clips, c.start.count < 2 ^ 51 ∧ c.length.count < 2 ^ 51) (h : form.HasRoom 4) :
    (reader : Reader Track).Gets form (toJson t) t.sent := by
  obtain ⟨inner, henter, hroom⟩ := h.enter
  obtain ⟨innermost, henter', hroom'⟩ := hroom.enter
  have hclips : (reader : Reader (List Clip)).Gets inner (toJson t.clips) t.clips :=
    Reader.gets_list henter' fun c hc => gets_clip (ht c hc).1 (ht c hc).2 hroom'
  exact (Record.makes_of _).required "clips" hclips |>.reader henter _

theorem gets_timeline {t : Timeline}
    (ht : ∀ c ∈ t.clips, c.start.count < 2 ^ 51 ∧ c.length.count < 2 ^ 51) (h : form.HasRoom 6) :
    (reader : Reader Timeline).Gets form (toJson t) t.sent := by
  obtain ⟨inner, henter, hroom⟩ := h.enter
  obtain ⟨innermost, henter', hroom'⟩ := hroom.enter
  have htracks : (reader : Reader (List Track)).Gets inner (toJson t.tracks)
      (t.tracks.map Track.sent) := by
    have htracks : toJson t.tracks = .list ((t.tracks.map Track.sent).map toJson) := by
      rw [List.map_map]
      rfl
    rw [htracks]
    refine Reader.gets_list henter' fun track hm => ?_
    obtain ⟨u, hu, rfl⟩ := List.mem_map.mp hm
    exact gets_track (fun c hc => ht c (List.mem_flatMap.mpr ⟨u, hu, hc⟩)) hroom'
  exact (Record.makes_of _).required "background" (Simple.gets _ t.background)
    |>.required "tracks" htracks
    |>.ifAny "soundtrack"
        (fun s _ => ⟨Json.noConfusion, gets_soundtrack s (hroom.mono (by omega))⟩)
    |>.reader henter _

/-! ## Numbers on the wire -/

section Numbers

open Json (numbers memberNumbers itemNumbers Number)

theorem memberNumbers_append (ms ns : List (String × Json)) :
    memberNumbers (ms ++ ns) = memberNumbers ms ++ memberNumbers ns := by
  induction ms with
  | nil => rfl
  | cons m ms ih =>
    obtain ⟨k, v⟩ := m
    rw [List.cons_append, memberNumbers, memberNumbers, ih, List.append_assoc]

theorem memberNumbers_member {α : Type} [Wire α] (name : String) (a : α) :
    memberNumbers (member name a) = numbers (toJson a) := List.append_nil _

theorem memberNumbers_word {α : Type} [Vocabulary α] (name : String) (x : Option α) :
    memberNumbers (memberIfAny name x) = [] := by
  cases x <;> rfl

theorem memberNumbers_transition (name : String) (x : Option ClipTransition) :
    memberNumbers (memberIfAny name x) = [] := by
  cases x with
  | none => rfl
  | some t =>
    change memberNumbers (memberIfAny "in" t.incoming ++ memberIfAny "out" t.outgoing) ++ [] = []
    rw [memberNumbers_append, memberNumbers_word, memberNumbers_word]
    rfl

theorem numbers_asset (a : Asset) : numbers (toJson a) = match a with
    | .audio _ volume => [.double volume]
    | _ => [] := by
  cases a with
  | title text style color position => cases color <;> rfl
  | _ => rfl

/-- The numbers of a clip are its times, its volume and its scale. -/
theorem numbers_clip {c : Clip} {n : Number} (h : n ∈ numbers (toJson c)) :
    (∃ t ∈ [c.start, c.length], n = .double t.seconds) ∨ ∃ d ∈ c.levels, n = .double d := by
  have hnumbers : numbers (toJson c) = numbers (toJson c.asset) ++
      [.double c.start.seconds, .double c.length.seconds] ++
        memberNumbers (memberIfAny "scale" c.scale) := by
    change memberNumbers (member "asset" c.asset ++ member "start" c.start ++
      member "length" c.length ++ memberIfAny "fit" c.fit ++ memberIfAny "effect" c.effect ++
      memberIfAny "transition" c.transition ++ memberIfAny "position" c.position ++
      memberIfAny "scale" c.scale) = _
    simp only [memberNumbers_append, memberNumbers_member, memberNumbers_word,
      memberNumbers_transition, List.append_assoc]
    rfl
  rw [hnumbers, numbers_asset] at h
  rcases List.mem_append.mp h with h | hscale
  · rcases List.mem_append.mp h with hasset | htimes
    · cases ha : c.asset with
      | audio src volume =>
        rw [ha] at hasset
        exact .inr ⟨volume, by simp [Clip.levels, ha], List.mem_singleton.mp hasset⟩
      | _ => rw [ha] at hasset; exact absurd hasset List.not_mem_nil
    · left
      simpa using htimes
  · cases hs : c.scale with
    | none => rw [hs] at hscale; exact absurd hscale List.not_mem_nil
    | some d =>
      rw [hs] at hscale
      exact .inr ⟨d, by simp [Clip.levels, hs], List.mem_singleton.mp hscale⟩

theorem mem_itemNumbers {vs : List Json} {n : Number} (h : n ∈ itemNumbers vs) :
    ∃ v ∈ vs, n ∈ numbers v := by
  induction vs with
  | nil => exact absurd h List.not_mem_nil
  | cons v rest ih =>
    rcases List.mem_append.mp h with hv | hrest
    · exact ⟨v, List.mem_cons_self, hv⟩
    · obtain ⟨w, hw, hn⟩ := ih hrest
      exact ⟨w, List.mem_cons_of_mem _ hw, hn⟩

/-- The numbers of a timeline are its times, its volumes and its scales. -/
theorem numbers_timeline {t : Timeline} {n : Number} (h : n ∈ numbers (toJson t)) :
    (∃ time ∈ t.times, n = .double time.seconds) ∨ ∃ d ∈ t.levels, n = .double d := by
  have hnumbers : numbers (toJson t) = itemNumbers (t.tracks.map toJson) ++
      memberNumbers (memberIfAny "soundtrack" t.soundtrack) := by
    change memberNumbers (member "background" t.background ++ member "tracks" t.tracks ++
      memberIfAny "soundtrack" t.soundtrack) = _
    simp only [memberNumbers_append, memberNumbers_member]
    rfl
  rw [hnumbers] at h
  rcases List.mem_append.mp h with htracks | hsoundtrack
  · obtain ⟨v, hv, hn⟩ := mem_itemNumbers htracks
    obtain ⟨track, htrack, rfl⟩ := List.mem_map.mp hv
    have hclips : n ∈ itemNumbers (track.clips.map toJson) := by
      simpa [numbers, memberNumbers, toJson, member] using hn
    obtain ⟨v, hv, hn⟩ := mem_itemNumbers hclips
    obtain ⟨c, hc, rfl⟩ := List.mem_map.mp hv
    have hmem : c ∈ t.clips := List.mem_flatMap.mpr ⟨track, htrack, hc⟩
    rcases numbers_clip hn with ⟨time, htime, rfl⟩ | ⟨d, hd, rfl⟩
    · exact .inl ⟨time, List.mem_flatMap.mpr ⟨c, hmem, htime⟩, rfl⟩
    · exact .inr ⟨d, List.mem_append_left _ (List.mem_flatMap.mpr ⟨c, hmem, hd⟩), rfl⟩
  · cases hs : t.soundtrack with
    | none => rw [hs] at hsoundtrack; exact absurd hsoundtrack List.not_mem_nil
    | some s =>
      rw [hs] at hsoundtrack
      exact .inr ⟨s.volume, by simp [Timeline.levels, hs], List.mem_singleton.mp hsoundtrack⟩

end Numbers

end Wire

end Storyboard
