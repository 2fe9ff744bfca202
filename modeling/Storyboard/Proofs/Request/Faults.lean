import Storyboard.Proofs.Request.Admission

/-!
# Faults

A request with several faults is rejected for the first of them. What is first is fixed: the fields
of a scene are looked at in one order, scenes in the order of the list, and the audio after the last
scene. `SceneRequest.Faults` and `AudioRequest.Faults` say which fault of a scene, or of the audio,
comes first; `ScenesRequest.ResolvedInOrder` says it of a whole sequence, and that scenes without a
fault are resolved one by one, each on its own.

A check of a field says the same of any field but for the name of it (`Rejection.withField`), so a
scene is at fault for the same reason wherever it stands.
-/

namespace Storyboard

open Cleaning (Supplied IsWebAddress IsColor Lasts IsVolume)

/-! ## Rejections that name a field -/

namespace Rejection

/-- The field that a rejection is about. -/
def field? : Rejection → Option FieldRef
  | .notPositive field | .notDuration field | .tooLong field _ | .badVolume field
  | .urlTooLong field _ | .badUrl field _ | .notWeb field | .badColor field => some field
  | _ => none

/-- The same rejection of another field. -/
def withField (field : FieldRef) : Rejection → Rejection
  | .notPositive _ => .notPositive field
  | .notDuration _ => .notDuration field
  | .tooLong _ limit => .tooLong field limit
  | .badVolume _ => .badVolume field
  | .urlTooLong _ limit => .urlTooLong field limit
  | .badUrl _ reason => .badUrl field reason
  | .notWeb _ => .notWeb field
  | .badColor _ => .badColor field
  | e => e

/-- The same rejection of the field of that name in the scene at the given position. -/
def atScene (index : Nat) (e : Rejection) : Rejection :=
  match e.field? with
  | some field => e.withField (.ofScene index field.name)
  | none => e

/-- What a rejection says behind the name of the field. -/
def remark : Rejection → String
  | .notPositive _ => " must be a positive number of seconds"
  | .notDuration _ => " must be zero or a positive number of seconds"
  | .tooLong _ limit => s!" must be at most {limit.count / 1000} seconds"
  | .badVolume _ => " must be between 0 and 1"
  | .urlTooLong _ limit => s!" exceeds maximum length of {limit} characters"
  | .badUrl _ reason => s!" is not a valid URL: {reason.message}"
  | .notWeb _ => " must be an http or https URL"
  | .badColor _ => " must be a hex colour like #1a2b3c"
  | _ => ""

variable {e : Rejection} {field : FieldRef}

theorem message_eq (h : e.field? = some field) : e.message = field.text ++ e.remark := by
  have htext (s : String) : toString s = s := rfl
  unfold message remark
  cases e <;> simp only [field?, Option.some.injEq, reduceCtorEq] at h <;> subst h <;>
    simp only [htext, String.append_assoc]

theorem field?_withField (h : e.field? = some field) (other : FieldRef) :
    (e.withField other).field? = some other := by
  cases e <;> simp_all [field?, withField]

theorem remark_withField (other : FieldRef) : (e.withField other).remark = e.remark := by
  cases e <;> rfl

theorem atScene_eq (h : e.field? = some field) (index : Nat) :
    e.atScene index = e.withField (.ofScene index field.name) := by
  simp only [atScene, h]

theorem message_atScene (h : e.field? = some field) (index : Nat) :
    (e.atScene index).message = (FieldRef.ofScene index field.name).text ++ e.remark := by
  rw [atScene_eq h, message_eq (field?_withField h _), remark_withField]

end Rejection

/-! ## Checks -/

namespace Cleaning

/-- Whatever a check finds wrong with a field, it names the field, and would say the same of any
other. -/
structure Names {α : Type} (check : FieldRef → Except Rejection α) : Prop where
  /-- The field is named. -/
  field?_eq : ∀ {field e}, check field = .error e → e.field? = some field
  /-- Nothing but its name depends on the field. -/
  withField_eq : ∀ field other, check other = (check field).mapError (·.withField other)

namespace Names

variable {α : Type}

theorem ok (a : α) : Names fun _ => .ok a where
  field?_eq := fun h => by cases h
  withField_eq := fun _ _ => rfl

theorem error (blame : FieldRef → Rejection) (hfield : ∀ f, (blame f).field? = some f)
    (hother : ∀ f g, (blame f).withField g = blame g) :
    Names (fun f => (.error (blame f) : Except Rejection α)) where
  field?_eq := fun h => Except.error.inj h ▸ hfield _
  withField_eq := fun f g => congrArg Except.error (hother f g).symm

variable {check : FieldRef → Except Rejection α} {field other : FieldRef}

/-- A field that passes would pass by any other name. -/
theorem ok_of_ok (h : Names check) {a : α} (hok : check field = .ok a) : check other = .ok a := by
  rw [h.withField_eq field other, hok]
  rfl

/-- A field that does not pass is at fault for the same reason by any other name. -/
theorem error_of_error (h : Names check) {e : Rejection} (hfault : check field = .error e) :
    check other = .error (e.withField other) := by
  rw [h.withField_eq field other, hfault]
  rfl

end Names

theorem assetUrl_names (input : Option String) : Names (assetUrl · input) := by
  unfold assetUrl
  cases trimmed input with
  | none => exact .ok none
  | some raw =>
    by_cases hlong : maxUrlLength < raw.utf8ByteSize
    · simp only [if_pos hlong]
      exact .error (.urlTooLong · maxUrlLength) (fun _ => rfl) fun _ _ => rfl
    · simp only [if_neg hlong]
      cases Url.parse raw with
      | error reason => exact .error (.badUrl · reason) (fun _ => rfl) fun _ _ => rfl
      | ok url =>
        by_cases hweb : url.isWeb = true
        · simp only [if_pos hweb]
          exact .ok (some raw)
        · simp only [if_neg hweb]
          exact .error .notWeb (fun _ => rfl) fun _ _ => rfl

theorem color_names (input : Option String) : Names (color · input) := by
  unfold color
  cases trimmed input with
  | none => exact .ok _
  | some raw =>
    by_cases hcolor : isColor raw.toList = true
    · simp only [if_pos hcolor]
      exact .ok _
    · simp only [if_neg hcolor]
      exact .error .badColor (fun _ => rfl) fun _ _ => rfl

theorem duration_names (value : Option Double) (usual : Millis) :
    Names (duration · value usual) := by
  unfold duration
  cases value with
  | none => exact .ok usual
  | some seconds =>
    dsimp only
    cases Millis.ofSeconds? seconds with
    | none => exact .error .notPositive (fun _ => rfl) fun _ _ => rfl
    | some t =>
      dsimp only
      by_cases hlong : maxDuration.count < t.count
      · simp only [if_pos hlong]
        exact .error (.tooLong · maxDuration) (fun _ => rfl) fun _ _ => rfl
      · simp only [if_neg hlong]
        by_cases hzero : t.isZero = true
        · simp only [if_pos hzero]
          exact .error .notPositive (fun _ => rfl) fun _ _ => rfl
        · simp only [if_neg hzero]
          exact .ok t

theorem fade_names (value : Option Double) (usual : Millis) : Names (fade · value usual) := by
  unfold fade
  cases value with
  | none => exact .ok usual
  | some seconds =>
    dsimp only
    cases Millis.ofSeconds? seconds with
    | none => exact .error .notDuration (fun _ => rfl) fun _ _ => rfl
    | some t =>
      dsimp only
      by_cases hlong : maxDuration.count < t.count
      · simp only [if_pos hlong]
        exact .error (.tooLong · maxDuration) (fun _ => rfl) fun _ _ => rfl
      · simp only [if_neg hlong]
        exact .ok t

theorem volume_names (value : Option Double) (usual : Double) : Names (volume · value usual) := by
  unfold volume
  by_cases hvolume : (value.getD usual).isUnitInterval = true
  · simp only [if_pos hvolume]
    exact .ok _
  · simp only [if_neg hvolume]
    exact .error .badVolume (fun _ => rfl) fun _ _ => rfl

end Cleaning

/-! ## One scene -/

namespace SceneRequest

/-- What is at fault first in a scene at the given position. -/
inductive Faults (r : SceneRequest) (index : Nat) : Rejection → Prop
  /-- Its picture. -/
  | image {e : Rejection}
      (himage : Cleaning.assetUrl (.ofScene index "backgroundImage") r.backgroundImage = .error e) :
      Faults r index e
  /-- Its colour, if nothing is wrong with the picture. -/
  | color {e : Rejection} (himage : ∀ raw, Supplied r.backgroundImage raw → IsWebAddress raw)
      (hcolor : Cleaning.color (.ofScene index "backgroundColor") r.backgroundColor = .error e) :
      Faults r index e
  /-- Its length, if nothing is wrong with the picture and the colour. -/
  | duration {e : Rejection} (himage : ∀ raw, Supplied r.backgroundImage raw → IsWebAddress raw)
      (hcolor : ∀ raw, Supplied r.backgroundColor raw → IsColor raw)
      (hduration : Cleaning.duration (.ofScene index "duration") r.duration usualDuration =
        .error e) :
      Faults r index e

variable {r : SceneRequest} {index : Nat} {transition : Transition} {e : Rejection}

theorem resolve_eq_error_iff : r.resolve index transition = .error e ↔ r.Faults index e := by
  unfold resolve
  simp only [bind_eq_error_iff, reduceCtorEq, and_false, exists_false, or_false]
  constructor
  · rintro (himage | ⟨src, himage, hcolor | ⟨color, hcolor, hduration⟩⟩)
    · exact .image himage
    · exact .color (assetUrl_isOk_iff.mp ⟨src, himage⟩) hcolor
    · exact .duration (assetUrl_isOk_iff.mp ⟨src, himage⟩)
        (Cleaning.color_isOk_iff.mp ⟨color, hcolor⟩) hduration
  · rintro (himage | ⟨himage, hcolor⟩ | ⟨himage, hcolor, hduration⟩)
    · exact .inl himage
    · obtain ⟨src, hsrc⟩ := assetUrl_isOk_iff.mpr himage
      exact .inr ⟨src, hsrc, .inl hcolor⟩
    · obtain ⟨src, hsrc⟩ := assetUrl_isOk_iff.mpr himage
      obtain ⟨color, hcolor⟩ := Cleaning.color_isOk_iff.mpr hcolor
      exact .inr ⟨src, hsrc, .inr ⟨color, hcolor, hduration⟩⟩

/-- A fault of a scene is in one of three fields of the scene at its position. -/
theorem Faults.field? (h : r.Faults index e) :
    ∃ name ∈ ["backgroundImage", "backgroundColor", "duration"],
      e.field? = some (.ofScene index name) := by
  cases h with
  | image himage => exact ⟨_, by simp, (Cleaning.assetUrl_names _).field?_eq himage⟩
  | color _ hcolor => exact ⟨_, by simp, (Cleaning.color_names _).field?_eq hcolor⟩
  | duration _ _ hduration => exact ⟨_, by simp, (Cleaning.duration_names _ _).field?_eq hduration⟩

/-- At any other position the same is at fault for the same reason. -/
theorem Faults.atScene (h : r.Faults index e) (other : Nat) : r.Faults other (e.atScene other) := by
  cases h with
  | image himage =>
    have hnames := Cleaning.assetUrl_names r.backgroundImage
    rw [Rejection.atScene_eq (hnames.field?_eq himage)]
    exact .image (hnames.error_of_error himage)
  | color hpicture hcolor =>
    have hnames := Cleaning.color_names r.backgroundColor
    rw [Rejection.atScene_eq (hnames.field?_eq hcolor)]
    exact .color hpicture (hnames.error_of_error hcolor)
  | duration hpicture hpaint hduration =>
    have hnames := Cleaning.duration_names r.duration usualDuration
    rw [Rejection.atScene_eq (hnames.field?_eq hduration)]
    exact .duration hpicture hpaint (hnames.error_of_error hduration)

theorem exists_faults_iff : (∃ e, r.Faults index e) ↔ ¬r.Admissible := by
  rw [← @sceneRequest_isOk_iff r index .fade]
  simp only [← @resolve_eq_error_iff r index .fade]
  cases r.resolve index .fade <;> simp

/-- A scene without a fault comes to the same wherever it stands. -/
theorem resolve_ok_at {s : Scene} (h : r.resolve index transition = .ok s) (other : Nat) :
    r.resolve other transition = .ok s := by
  obtain ⟨src, color, duration, hsrc, hcolor, hduration, rfl⟩ := resolve_eq_ok_iff.mp h
  exact resolve_eq_ok_iff.mpr ⟨src, color, duration, (Cleaning.assetUrl_names _).ok_of_ok hsrc,
    (Cleaning.color_names _).ok_of_ok hcolor, (Cleaning.duration_names _ _).ok_of_ok hduration, rfl⟩

end SceneRequest

/-! ## Audio -/

namespace AudioRequest

/-- What is at fault first in the audio: the music before the voice, and of each the address before
the volume. -/
inductive Faults (a : AudioRequest) : Rejection → Prop
  /-- The address of the music. -/
  | musicRef {e : Rejection}
      (hmusic : Cleaning.assetUrl (.ofRequest "musicRef") a.musicRef = .error e) : Faults a e
  /-- The volume of the music, if there is any. -/
  | musicVolume {e : Rejection} {raw : String} (hmusic : Supplied a.musicRef raw)
      (hweb : IsWebAddress raw)
      (hloud : Cleaning.volume (.ofRequest "musicVolume") a.musicVolume usualMusicVolume =
        .error e) : Faults a e
  /-- The address of the voice, if nothing is wrong with the music. -/
  | voiceRef {e : Rejection}
      (hmusic : ∀ raw, Supplied a.musicRef raw →
        IsWebAddress raw ∧ IsVolume (a.musicVolume.getD usualMusicVolume))
      (hvoice : Cleaning.assetUrl (.ofRequest "voiceRef") a.voiceRef = .error e) : Faults a e
  /-- The volume of the voice, if there is one and nothing is wrong with the music. -/
  | voiceVolume {e : Rejection} {raw : String}
      (hmusic : ∀ raw, Supplied a.musicRef raw →
        IsWebAddress raw ∧ IsVolume (a.musicVolume.getD usualMusicVolume))
      (hvoice : Supplied a.voiceRef raw) (hweb : IsWebAddress raw)
      (hloud : Cleaning.volume (.ofRequest "voiceVolume") a.voiceVolume usualVoiceVolume =
        .error e) : Faults a e

variable {a : AudioRequest} {fade : SoundtrackEffect} {e : Rejection}

/-- Of a layer the address is looked at first, and the volume only if there is an address. -/
theorem layer_eq_error_iff {field : FieldRef} {input : Option String}
    {loudness : Except Rejection Double} :
    layer (Cleaning.assetUrl field input) loudness = .error e ↔
      Cleaning.assetUrl field input = .error e ∨
        ∃ raw, Supplied input raw ∧ IsWebAddress raw ∧ loudness = .error e := by
  unfold layer
  simp only [bind_eq_error_iff, Cleaning.assetUrl_eq_ok_iff, ← Cleaning.trimmed_eq_some_iff]
  refine or_congr_right ⟨?_, ?_⟩
  · rintro ⟨_, ⟨rfl, hweb⟩, hloud⟩
    cases ht : Cleaning.trimmed input with
    | none => simp [ht] at hloud
    | some raw =>
      simp only [ht, bind_eq_error_iff, reduceCtorEq, and_false, exists_false, or_false] at hloud
      exact ⟨raw, rfl, hweb raw ht, hloud⟩
  · rintro ⟨raw, ht, hweb, hloud⟩
    refine ⟨some raw, ⟨ht.symm, fun raw' hraw' => ?_⟩, by simp [hloud]⟩
    obtain rfl := Option.some.inj (ht.symm.trans hraw')
    exact hweb

theorem resolve_eq_error_iff : a.resolve fade = .error e ↔ a.Faults e := by
  unfold resolve
  simp only [bind_eq_error_iff, layer_eq_error_iff, reduceCtorEq, and_false, exists_false, or_false]
  constructor
  · rintro ((hmusic | ⟨raw, hmusic, hweb, hloud⟩) |
      ⟨music, hmusic, hvoice | ⟨raw, hvoice, hweb, hloud⟩⟩)
    · exact .musicRef hmusic
    · exact .musicVolume hmusic hweb hloud
    · exact .voiceRef (layer_eq_ok_iff.mp hmusic).2 hvoice
    · exact .voiceVolume (layer_eq_ok_iff.mp hmusic).2 hvoice hweb hloud
  · rintro (hmusic | ⟨hmusic, hweb, hloud⟩ | ⟨hmusic, hvoice⟩ | ⟨hmusic, hvoice, hweb, hloud⟩)
    · exact .inl (.inl hmusic)
    · exact .inl (.inr ⟨_, hmusic, hweb, hloud⟩)
    · exact .inr ⟨_, layer_eq_ok_iff.mpr ⟨rfl, hmusic⟩, .inl hvoice⟩
    · exact .inr ⟨_, layer_eq_ok_iff.mpr ⟨rfl, hmusic⟩, .inr ⟨_, hvoice, hweb, hloud⟩⟩

/-- A fault of the audio is in a field of the request itself, and not of a scene. -/
theorem Faults.field? (h : a.Faults e) :
    ∃ name ∈ ["musicRef", "musicVolume", "voiceRef", "voiceVolume"],
      e.field? = some (.ofRequest name) := by
  cases h with
  | musicRef hmusic => exact ⟨_, by simp, (Cleaning.assetUrl_names _).field?_eq hmusic⟩
  | musicVolume _ _ hloud => exact ⟨_, by simp, (Cleaning.volume_names _ _).field?_eq hloud⟩
  | voiceRef _ hvoice => exact ⟨_, by simp, (Cleaning.assetUrl_names _).field?_eq hvoice⟩
  | voiceVolume _ _ _ hloud => exact ⟨_, by simp, (Cleaning.volume_names _ _).field?_eq hloud⟩

end AudioRequest

/-! ## Lists of scenes -/

namespace SceneRequest

variable {rs : List SceneRequest} {index : Nat} {transition : Transition} {e : Rejection}

/-- The first scene at fault decides. -/
theorem resolveAll_eq_error_iff :
    resolveAll transition rs index = .error e ↔
      ∃ i r, rs[i]? = some r ∧ (∀ q ∈ rs.take i, q.Admissible) ∧ r.Faults (index + i) e := by
  induction rs generalizing index with
  | nil => simp [resolveAll]
  | cons head rest ih =>
    unfold resolveAll
    simp only [bind_eq_error_iff, resolve_eq_error_iff, ih, reduceCtorEq, and_false, exists_false,
      or_false]
    constructor
    · rintro (hhead | ⟨scene, hscene, i, r, hr, hbefore, hfaults⟩)
      · exact ⟨0, head, rfl, by simp, hhead⟩
      · refine ⟨i + 1, r, hr, ?_, ?_⟩
        · rw [List.take_succ_cons, List.forall_mem_cons]
          exact ⟨sceneRequest_isOk_iff.mp ⟨scene, hscene⟩, hbefore⟩
        · rw [show index + (i + 1) = index + 1 + i by omega]
          exact hfaults
    · rintro ⟨i, r, hr, hbefore, hfaults⟩
      cases i with
      | zero =>
        obtain rfl := Option.some.inj hr
        exact .inl hfaults
      | succ i =>
        rw [List.take_succ_cons, List.forall_mem_cons] at hbefore
        obtain ⟨scene, hscene⟩ := sceneRequest_isOk_iff.mpr hbefore.1
        rw [show index + (i + 1) = index + 1 + i by omega] at hfaults
        exact .inr ⟨scene, hscene, i, r, hr, hbefore.2, hfaults⟩

/-- Scenes are resolved each on its own, as if it were the only one. -/
theorem resolveAll_eq_ok_iff {scenes : List Scene} :
    resolveAll transition rs index = .ok scenes ↔
      List.Forall₂ (fun r s => r.resolve 0 transition = .ok s) rs scenes := by
  constructor
  · intro h
    refine (resolveAll_forall₂ h).imp ?_
    rintro r s ⟨i, hr⟩
    exact resolve_ok_at hr 0
  · intro h
    induction h generalizing index with
    | nil => rfl
    | cons hr _ ih =>
      unfold resolveAll
      rw [resolve_ok_at hr index, ok_bind, ih, ok_bind]

end SceneRequest

/-! ## Sequences -/

/-- A request for nothing but one scene. -/
def SceneRequest.alone (r : SceneRequest) (transitionType : Option Transition) : ScenesRequest :=
  { scenes := [r], transitionType }

namespace ScenesRequest

variable {r : ScenesRequest} {v : ResolvedVideo} {e : Rejection}

theorem resolve_eq_error_iff (hne : r.scenes ≠ []) :
    r.resolve = .error e ↔
      (∃ i s, r.scenes[i]? = some s ∧ (∀ q ∈ r.scenes.take i, q.Admissible) ∧ s.Faults i e) ∨
        ((∀ s ∈ r.scenes, s.Admissible) ∧ r.audio.Faults e) := by
  have hempty : r.scenes.isEmpty = false := by simpa using hne
  unfold resolve
  simp only [hempty, Bool.false_eq_true, if_false, bind_eq_error_iff,
    SceneRequest.resolveAll_eq_error_iff, AudioRequest.resolve_eq_error_iff, Nat.zero_add,
    reduceCtorEq, and_false, exists_false, or_false]
  rw [← @resolveAll_isOk_iff (r.transitionType.getD .fade) r.scenes 0]
  exact or_congr_right exists_and_right

theorem resolve_scenes (h : r.resolve = .ok v) :
    List.Forall₂ (fun s scene => s.resolve 0 (r.transitionType.getD .fade) = .ok scene)
      r.scenes v.scenes := by
  obtain ⟨-, scenes, audio, hscenes, -, rfl⟩ := resolve_eq_ok_iff.mp h
  exact SceneRequest.resolveAll_eq_ok_iff.mp hscenes

theorem resolve_alone {s : SceneRequest} {transitionType : Option Transition} {scene : Scene}
    (h : s.resolve 0 (transitionType.getD .fade) = .ok scene) :
    ∃ w, (s.alone transitionType).resolve = .ok w ∧ w.scenes = [scene] := by
  refine ⟨⟨.scenes, [scene], ⟨none, none, .fadeInFadeOut⟩, {}, .scenes⟩, ?_, rfl⟩
  have hscenes : SceneRequest.resolveAll (transitionType.getD .fade) [s] 0 = .ok [scene] :=
    SceneRequest.resolveAll_eq_ok_iff.mpr (.cons h .nil)
  exact resolve_eq_ok_iff.mpr ⟨by simp [SceneRequest.alone], _, _, hscenes, rfl, rfl⟩

/-- A request is rejected for a fault of the scene at the given position. It is what this scene alone
would be rejected for, but for the position. -/
def RejectedFor (r : ScenesRequest) (i : Nat) (s : SceneRequest) : Prop :=
  ∃ e, s.Faults 0 e ∧ (s.alone r.transitionType).resolve = .error e ∧
    r.resolve = .error (e.atScene i) ∧
    ∃ name ∈ ["backgroundImage", "backgroundColor", "duration"],
      e.message = s!"scenes[0].{name}" ++ e.remark ∧
        (e.atScene i).message = s!"scenes[{i}].{name}" ++ e.remark

/-- A sequence is resolved in order: the first scene at fault decides, then the audio, and scenes
without a fault are resolved each on its own. -/
structure ResolvedInOrder (r : ScenesRequest) : Prop where
  /-- The first scene that may not be asked for decides. -/
  scene : ∀ (i : Nat) s, r.scenes[i]? = some s → (∀ q ∈ r.scenes.take i, q.Admissible) →
    ¬s.Admissible → r.RejectedFor i s
  /-- If all scenes may be asked for, the audio decides. -/
  audio : (∀ s ∈ r.scenes, s.Admissible) → ∀ e, r.resolve = .error e ↔ r.audio.Faults e
  /-- A fault of the audio is not told before. -/
  late : ∀ e, r.resolve = .error e → r.audio.Faults e → ∀ s ∈ r.scenes, s.Admissible
  /-- A scene comes to what it would come to alone. -/
  each : ∀ v, r.resolve = .ok v →
    List.Forall₂ (fun s scene => ∃ w, (s.alone r.transitionType).resolve = .ok w ∧
      w.scenes = [scene]) r.scenes v.scenes
  /-- Two requests that agree in a scene and in how scenes come and go agree in what it comes to. -/
  pointwise : ∀ (q : ScenesRequest) (v w : ResolvedVideo), r.resolve = .ok v →
    q.resolve = .ok w → q.transitionType = r.transitionType →
    ∀ i j : Nat, r.scenes[i]? = q.scenes[j]? → v.scenes[i]? = w.scenes[j]?
  /-- If the scenes change places, so does what they come to, and nothing else changes. -/
  permuted : ∀ v, r.resolve = .ok v → ∀ ps : List (SceneRequest × Scene),
    ps.Perm (r.scenes.zip v.scenes) →
    { r with scenes := ps.map Prod.fst }.resolve = .ok { v with scenes := ps.map Prod.snd }

theorem rejected_for_first (hne : r.scenes ≠ []) {i : Nat} {s : SceneRequest}
    (hs : r.scenes[i]? = some s) (hbefore : ∀ q ∈ r.scenes.take i, q.Admissible)
    (hfault : ¬s.Admissible) : r.RejectedFor i s := by
  obtain ⟨e, he⟩ := SceneRequest.exists_faults_iff.mpr hfault
  obtain ⟨name, hname, hfield⟩ := he.field?
  have halone : (s.alone r.transitionType).resolve = .error e :=
    (resolve_eq_error_iff (by simp [SceneRequest.alone])).mpr (.inl ⟨0, s, rfl, by simp, he⟩)
  have hall : r.resolve = .error (e.atScene i) :=
    (resolve_eq_error_iff hne).mpr (.inl ⟨i, s, hs, hbefore, he.atScene i⟩)
  exact ⟨e, he, halone, hall, name, hname, Rejection.message_eq hfield,
    Rejection.message_atScene hfield i⟩

theorem resolve_pointwise {q : ScenesRequest} {w : ResolvedVideo} (hv : r.resolve = .ok v)
    (hw : q.resolve = .ok w) (htransition : q.transitionType = r.transitionType) {i j : Nat}
    (hsame : r.scenes[i]? = q.scenes[j]?) : v.scenes[i]? = w.scenes[j]? := by
  have hleft := resolve_scenes hv
  have hright := resolve_scenes hw
  rw [htransition] at hright
  cases hs : r.scenes[i]? with
  | none =>
    have hi := List.getElem?_eq_none_iff.mp hs
    have hj := List.getElem?_eq_none_iff.mp (hsame.symm.trans hs)
    rw [List.getElem?_eq_none (hleft.length_eq ▸ hi), List.getElem?_eq_none (hright.length_eq ▸ hj)]
  | some s =>
    obtain ⟨hi, hsi⟩ := List.getElem?_eq_some_iff.mp hs
    obtain ⟨hj, hsj⟩ := List.getElem?_eq_some_iff.mp (hsame.symm.trans hs)
    have hvi := hleft.get hi (hleft.length_eq ▸ hi)
    have hwj := hright.get hj (hright.length_eq ▸ hj)
    simp only [List.get_eq_getElem, hsi] at hvi
    simp only [List.get_eq_getElem, hsj] at hwj
    rw [List.getElem?_eq_getElem (hleft.length_eq ▸ hi),
      List.getElem?_eq_getElem (hright.length_eq ▸ hj)]
    exact congrArg some (Except.ok.inj (hvi.symm.trans hwj))

theorem resolve_permuted (h : r.resolve = .ok v) {ps : List (SceneRequest × Scene)}
    (hperm : ps.Perm (r.scenes.zip v.scenes)) :
    { r with scenes := ps.map Prod.fst }.resolve = .ok { v with scenes := ps.map Prod.snd } := by
  have hscenes := resolve_scenes h
  obtain ⟨hne, scenes, audio, -, haudio, rfl⟩ := resolve_eq_ok_iff.mp h
  have hpairs : ∀ p ∈ ps, p.1.resolve 0 (r.transitionType.getD .fade) = .ok p.2 := by
    intro p hp
    exact (List.forall₂_iff_zip.mp hscenes).2 (hperm.mem_iff.mp hp)
  have hlength : ps.length = r.scenes.length := by
    rw [hperm.length_eq, List.length_zip, ← hscenes.length_eq, Nat.min_self]
  have hnonempty : ps.map Prod.fst ≠ [] := by
    intro hnil
    rw [List.map_eq_nil_iff] at hnil
    subst hnil
    exact hne (List.length_eq_zero_iff.mp hlength.symm)
  have hresolved : List.Forall₂
      (fun s scene => s.resolve 0 (r.transitionType.getD .fade) = .ok scene)
      (ps.map Prod.fst) (ps.map Prod.snd) := by
    rw [List.forall₂_map_left_iff, List.forall₂_map_right_iff, List.forall₂_same]
    exact hpairs
  exact resolve_eq_ok_iff.mpr
    ⟨hnonempty, _, audio, SceneRequest.resolveAll_eq_ok_iff.mpr hresolved, haudio, rfl⟩

/-- Scenes are resolved in order, and each on its own. -/
theorem resolve_in_order (hne : r.scenes ≠ []) : r.ResolvedInOrder where
  scene _ _ := rejected_for_first hne
  audio hadmissible e := by
    rw [resolve_eq_error_iff hne, or_iff_right, and_iff_right hadmissible]
    rintro ⟨i, s, hs, -, hfaults⟩
    exact SceneRequest.exists_faults_iff.mp ⟨e, hfaults⟩
      (hadmissible s (List.mem_of_getElem? hs))
  late e herror haudio := by
    rcases (resolve_eq_error_iff hne).mp herror with ⟨i, s, -, -, hfaults⟩ | ⟨hadmissible, -⟩
    · -- The field of a scene is none of the request itself.
      obtain ⟨name, -, hscene⟩ := hfaults.field?
      obtain ⟨other, -, hrequest⟩ := haudio.field?
      exact absurd (congrArg FieldRef.scene (Option.some.inj (hscene.symm.trans hrequest)))
        (by simp [FieldRef.ofScene, FieldRef.ofRequest])
    · exact hadmissible
  each _ h := (resolve_scenes h).imp fun _ _ => resolve_alone
  pointwise _ _ _ hv hw htransition _ _ := resolve_pointwise hv hw htransition
  permuted _ h _ := resolve_permuted h

/-- The second of three scenes has a bad colour and no length, the third a bad picture, and the
music is louder than it can be. -/
theorem resolve_in_order_second_scene :
    let r : ScenesRequest :=
      { scenes := [{ title := some "One" },
          { backgroundColor := some "red", duration := some (.ofNat 0) },
          { backgroundImage := some "ftp://[::1]/two.png" }]
        audio := { musicRef := some "http://[::1]/song.mp3", musicVolume := some (.ofNat 2) } }
    r.scenes ≠ [] ∧ r.ResolvedInOrder ∧
      r.resolve = .error (.badColor (.ofScene 1 "backgroundColor")) ∧
      (Rejection.badColor (.ofScene 1 "backgroundColor")).message =
        "scenes[1].backgroundColor must be a hex colour like #1a2b3c" := by
  intro r
  exact ⟨by simp [r], resolve_in_order (by simp [r]), by decide +kernel, by decide +kernel⟩

end ScenesRequest

end Storyboard
