import Storyboard.Proofs.Json.Reading
import Storyboard.Wire.Request

/-!
# Requests on the wire

Every request is read back from its wire form, field for field: alone where only its form is wanted,
and under its type where any form is. The first is read as it stands, the second only after its
members have been set aside, so both are stated for every form of a document that has room.
-/

namespace Storyboard

/-- A vocabulary in which every value is found by its word. -/
class LawfulVocabulary (α : Type) [Vocabulary α] : Prop where
  /-- The word of a value stands for no other value. -/
  ofWord?_word : ∀ a : α, Vocabulary.ofWord? (Vocabulary.word a) = some a

instance : LawfulVocabulary TextStyle := ⟨by intro a; cases a <;> rfl⟩

instance : LawfulVocabulary Position := ⟨by intro a; cases a <;> rfl⟩

instance : LawfulVocabulary Effect := ⟨by intro a; cases a <;> rfl⟩

instance : LawfulVocabulary Transition := ⟨by intro a; cases a <;> rfl⟩

instance : LawfulVocabulary CardKind := ⟨by intro a; cases a <;> rfl⟩

instance : LawfulVocabulary Wire.RequestTag := ⟨by intro a; cases a <;> rfl⟩

namespace Wire

open Json (Form Reader Record)

/-- A type whose values are written without nesting, as something else than nothing, and are read
back. -/
class Simple (α : Type) [Wire α] : Prop where
  /-- A value is not written as a list or an object. -/
  depth_eq_zero : ∀ a : α, (toJson a).depth = 0
  /-- A value is not written as nothing. -/
  toJson_ne_null : ∀ a : α, toJson a ≠ .null
  /-- What was written is read back. -/
  gets : ∀ (form : Form) (a : α), (reader : Reader α).Gets form (toJson a) a

instance : Simple String := ⟨fun _ => rfl, fun _ => Json.noConfusion, fun _ => Reader.gets_string⟩

instance : Simple Double := ⟨fun _ => rfl, fun _ => Json.noConfusion, fun _ => Reader.gets_double⟩

instance {α : Type} [Vocabulary α] [LawfulVocabulary α] : Simple α :=
  ⟨fun _ => rfl, fun _ => Json.noConfusion,
    fun _ a => Reader.gets_vocabulary (LawfulVocabulary.ofWord?_word a)⟩

@[simp]
theorem optional_name {α : Type} [Wire α] (name : String) :
    (optional name : Json.Field (Option α)).name = name := rfl

@[simp]
theorem required_name {α : Type} [Wire α] (name : String) :
    (required name : Json.Field α).name = name := rfl

theorem gets_option {α : Type} [Wire α] [Simple α] {form : Form} (x : Option α) :
    (reader : Reader α).optional.Gets form (toJson x) x :=
  Reader.gets_optional fun a _ => ⟨Simple.toJson_ne_null a, Simple.gets form a⟩

end Wire

/-- An optional field is collected from the member that was written for it. -/
theorem Json.Record.Collects.optional {σ α β : Type} [Wire α] [Wire.Simple α]
    {r : Json.Record σ (Option α → β)} {form : Json.Form} {ms : List (String × Json)} {s : σ}
    (h : r.Collects form ms s) (name : String) (x : Option α)
    (hname : name ∉ ms.map Prod.fst := by simp [Wire.member]) :
    (r.field (Wire.optional name)).Collects form (ms ++ Wire.member name x) (s, some x) :=
  h.field hname (Wire.gets_option x)

namespace Wire

open Json (Form Reader Record)

variable {form : Form}

/-! ## One form at a time -/

theorem gets_scene (r : SceneRequest) (h : form.HasRoom 1) :
    (reader : Reader SceneRequest).Gets form (toJson r) r := by
  obtain ⟨inner, henter, -⟩ := h.enter
  exact Record.collects_first (f := optional "title") (gets_option r.title)
    |>.optional "subtitle" r.subtitle
    |>.optional "backgroundImage" r.backgroundImage
    |>.optional "backgroundColor" r.backgroundColor
    |>.optional "duration" r.duration
    |>.optional "textStyle" r.textStyle
    |>.optional "titlePosition" r.titlePosition
    |>.optional "effect" r.effect
    |>.optional "transitionIn" r.transitionIn
    |>.optional "transitionOut" r.transitionOut
    |>.reader rfl henter _

theorem gets_title (r : TitleRequest) (h : form.HasRoom 1) :
    (reader : Reader TitleRequest).Gets form (.object (titleMembers r)) r := by
  obtain ⟨inner, henter, -⟩ := h.enter
  exact Record.collects_first (f := optional "title") (gets_option r.title)
    |>.optional "subtitle" r.subtitle
    |>.optional "backgroundColor" r.backgroundColor
    |>.optional "backgroundImage" r.backgroundImage
    |>.optional "voiceRef" r.audio.voiceRef
    |>.optional "musicRef" r.audio.musicRef
    |>.optional "musicVolume" r.audio.musicVolume
    |>.optional "voiceVolume" r.audio.voiceVolume
    |>.optional "duration" r.duration
    |>.optional "aspectRatio" r.output.aspectRatio
    |>.optional "format" r.output.format
    |>.optional "resolution" r.output.resolution
    |>.optional "quality" r.output.quality
    |>.optional "textStyle" r.textStyle
    |>.optional "titlePosition" r.titlePosition
    |>.optional "effect" r.effect
    |>.reader rfl henter _

theorem gets_scenes (r : ScenesRequest) (h : form.HasRoom 3) :
    (reader : Reader ScenesRequest).Gets form (.object (scenesMembers r)) r := by
  obtain ⟨inner, henter, hroom⟩ := h.enter
  obtain ⟨innermost, henter', hroom'⟩ := hroom.enter
  have hscenes : (reader : Reader (List SceneRequest)).Gets inner (toJson r.scenes) r.scenes :=
    Reader.gets_list henter' fun s _ => gets_scene s hroom'
  exact Record.collects_first (f := .defaulted "scenes" reader []) hscenes
    |>.optional "musicRef" r.audio.musicRef
    |>.optional "voiceRef" r.audio.voiceRef
    |>.optional "musicVolume" r.audio.musicVolume
    |>.optional "voiceVolume" r.audio.voiceVolume
    |>.optional "aspectRatio" r.output.aspectRatio
    |>.optional "format" r.output.format
    |>.optional "resolution" r.output.resolution
    |>.optional "quality" r.output.quality
    |>.optional "transitionType" r.transitionType
    |>.reader rfl henter _

theorem gets_card (r : CardRequest) (h : form.HasRoom 1) :
    (reader : Reader CardRequest).Gets form (.object (cardMembers r)) r := by
  obtain ⟨inner, henter, -⟩ := h.enter
  exact Record.collects_first (f := required "kind") (Simple.gets inner r.kind)
    |>.optional "title" r.title
    |>.optional "subtitle" r.subtitle
    |>.optional "channelName" r.channelName
    |>.optional "tagline" r.tagline
    |>.optional "logoRef" r.logoRef
    |>.optional "backgroundImage" r.backgroundImage
    |>.optional "backgroundColor" r.backgroundColor
    |>.optional "musicRef" r.audio.musicRef
    |>.optional "voiceRef" r.audio.voiceRef
    |>.optional "musicVolume" r.audio.musicVolume
    |>.optional "voiceVolume" r.audio.voiceVolume
    |>.optional "duration" r.duration
    |>.optional "fadeIn" r.fadeIn
    |>.optional "fadeOut" r.fadeOut
    |>.optional "aspectRatio" r.output.aspectRatio
    |>.optional "format" r.output.format
    |>.optional "resolution" r.output.resolution
    |>.optional "quality" r.output.quality
    |>.optional "textStyle" r.textStyle
    |>.optional "effect" r.effect
    |>.optional "transition" r.transition
    |>.reader rfl henter _

/-! ## Any form -/

section Depth

open Json (memberDepth itemDepth)

theorem memberDepth_append (ms ns : List (String × Json)) :
    memberDepth (ms ++ ns) = max (memberDepth ms) (memberDepth ns) := by
  induction ms with
  | nil => simp [memberDepth]
  | cons m ms ih =>
    obtain ⟨k, v⟩ := m
    rw [List.cons_append, memberDepth, memberDepth, ih, Nat.max_assoc]

theorem memberDepth_member {α : Type} [Wire α] (name : String) (a : α) :
    memberDepth (member name a) = (toJson a).depth := by
  simp [member, memberDepth]

/-- An optional field does not nest its object any deeper. -/
theorem memberDepth_optional {α : Type} [Wire α] [Simple α] (ms : List (String × Json))
    (name : String) (x : Option α) : memberDepth (ms ++ member name x) = memberDepth ms := by
  have hx : (toJson x).depth = 0 := by
    cases x with
    | none => rfl
    | some a => exact Simple.depth_eq_zero a
  rw [memberDepth_append, memberDepth_member, hx, Nat.max_zero]

theorem depth_scene (s : SceneRequest) : (toJson s).depth = 1 := by
  change memberDepth (_ ++ _) + 1 = 1
  simp only [memberDepth_optional]
  rw [← List.nil_append (member "title" s.title), memberDepth_optional]
  rfl

theorem memberDepth_title (r : TitleRequest) : memberDepth (titleMembers r) = 0 := by
  unfold titleMembers
  simp only [memberDepth_optional]
  exact memberDepth_optional [] "title" r.title

theorem itemDepth_scenes (scenes : List SceneRequest) : itemDepth (scenes.map toJson) ≤ 1 := by
  induction scenes with
  | nil => exact Nat.zero_le 1
  | cons s rest ih =>
    rw [List.map_cons, itemDepth, depth_scene]
    exact Nat.max_le.mpr ⟨Nat.le_refl 1, ih⟩

theorem memberDepth_scenes (r : ScenesRequest) : memberDepth (scenesMembers r) ≤ 2 := by
  have hlist : (toJson r.scenes).depth ≤ 2 := Nat.succ_le_succ (itemDepth_scenes r.scenes)
  unfold scenesMembers
  simp only [memberDepth_optional, memberDepth_member]
  exact hlist

theorem memberDepth_card (r : CardRequest) : memberDepth (cardMembers r) = 0 := by
  unfold cardMembers
  simp only [memberDepth_optional]
  rw [memberDepth_member]
  exact Simple.depth_eq_zero r.kind

end Depth

/-- A request is read back from under its type if it is from its members alone. -/
theorem gets_tagged {tag : RequestTag} {ms : List (String × Json)} {v : VideoRequest}
    (h : form.HasRoom 3) (hname : "type" ∉ ms.map Prod.fst) (hdepth : Json.memberDepth ms ≤ 2)
    (hbody : (requestBody tag).Gets .setAside (.object ms) v) :
    (reader : Reader VideoRequest).Gets form (.object (member "type" tag ++ ms)) v := by
  obtain ⟨inner, henter, hroom⟩ := h.enter
  exact Json.Tagged.gets_object (LawfulVocabulary.ofWord?_word tag) henter hname
    (hroom.mono hdepth) hbody

/-- What is read is turned into a request of any form. -/
theorem gets_map {α β : Type} {r : Reader α} {v : Json} {a : α} (h : r.Gets form v a) (f : α → β) :
    (r.map f).Gets form v (f a) := by
  unfold Reader.Gets at h ⊢
  simp only [Reader.map, h]
  rfl

/-- A request of any form is read back from under its type. -/
theorem gets_video (v : VideoRequest) (h : form.HasRoom 3) :
    (reader : Reader VideoRequest).Gets form (toJson v) v := by
  have hroom : ∀ levels, Form.setAside.HasRoom levels := fun _ => trivial
  cases v with
  | singleTitle r =>
    have hdepth := memberDepth_title r
    exact gets_tagged h (by unfold titleMembers; simp [member]) (by omega)
      (gets_map (gets_title r (hroom 1)) VideoRequest.singleTitle)
  | scenes r =>
    exact gets_tagged h (by unfold scenesMembers; simp [member]) (memberDepth_scenes r)
      (gets_map (gets_scenes r (hroom 3)) VideoRequest.scenes)
  | card r =>
    have hdepth := memberDepth_card r
    exact gets_tagged h (by unfold cardMembers; simp [member]) (by omega)
      (gets_map (gets_card r (hroom 1)) VideoRequest.card)

/-! ## Without the type -/

/-- A request without its type, as it is sent to the place for its form. -/
def untagged : VideoRequest → Json
  | .singleTitle r => toJson r
  | .scenes r => toJson r
  | .card r => toJson r

theorem numbers_tagged (tag : RequestTag) (ms : List (String × Json)) :
    Json.numbers (.object (member "type" tag ++ ms)) = Json.numbers (.object ms) := rfl

/-- The type of a request adds no number to it. -/
theorem numbers_untagged (v : VideoRequest) :
    Json.numbers (untagged v) = Json.numbers (toJson v) := by
  cases v with
  | singleTitle r => exact (numbers_tagged .singleTitle (titleMembers r)).symm
  | scenes r => exact (numbers_tagged .scenes (scenesMembers r)).symm
  | card r => exact (numbers_tagged .card (cardMembers r)).symm

end Wire

end Storyboard
