import Storyboard.Proofs.Request.Canonical
import Storyboard.Proofs.Request.Faults

/-!
# Lines of text

A text is cleaned in three steps: the blanks around it go, then its control characters, and then what
is beyond the longest length. The second and the third step may bring a blank to an end that the
first has already seen to, so what is left is not always trimmed; it may even begin with so many
blanks that nothing else is left of it.

`Neat` says what is wanted of the cleaning of a text, and `KeepsEnds` of which texts no blank comes
to an end that way. `lines_neat` says that these are the same texts, and what follows for the titles
of videos.
-/

namespace Storyboard

namespace Cleaning

/-- The characters that are kept of a text before it is cut. -/
def keptOf (s : String) : List Char := (Text.trimChars s.toList).filter isKept

/-- The characters that are left of a text. -/
def leftOf (s : String) : List Char := (keptOf s).take maxTextLength

/-- A text has a character in it that is neither a blank nor a control character. -/
def HasVisible (s : String) : Prop :=
  ∃ c ∈ s.toList, Text.isControl c = false ∧ Text.isBlank c = false

/-- No blank is brought to an end of a text in which something can be seen: the first character that
is kept of it is none, nor is the last before the cut. -/
def KeepsEnds (s : String) : Prop :=
  HasVisible s → (∀ c, (keptOf s).head? = some c → Text.isBlank c = false) ∧
    ∀ c, (leftOf s).getLast? = some c → Text.isBlank c = false

/-- A text is cleaned for good, and is not lost. -/
structure Neat (s : String) : Prop where
  /-- What is left of it is trimmed. -/
  trimmed : ∀ t, text (some s) = some t → Text.IsTrimmed t.toList
  /-- Cleaning it again changes nothing. -/
  stable : ∀ t, text (some s) = some t → text (some t) = some t
  /-- If it is absent, nothing can be seen in it. -/
  seen : text (some s) = none → ¬HasVisible s

variable {s t : String} {c : Char}

/-! ## One text -/

theorem text_eq_some_iff :
    text (some s) = some t ↔ t = String.ofList (leftOf s) ∧ ∃ c ∈ leftOf s, Text.isBlank c = false := by
  have htext : text (some s) =
      if (leftOf s).all Text.isBlank then none else some (String.ofList (leftOf s)) := by
    unfold text leftOf keptOf
    rw [Option.bind_some]
  rw [htext]
  by_cases hblank : (leftOf s).all Text.isBlank = true
  · rw [if_pos hblank]
    simp only [reduceCtorEq, false_iff, not_and, not_exists]
    intro _ c hc hvisible
    rw [List.all_eq_true.mp hblank c hc] at hvisible
    cases hvisible
  · rw [if_neg hblank]
    have hvisible : ∃ c ∈ leftOf s, Text.isBlank c = false := by simpa using hblank
    rw [Option.some.injEq, and_iff_left hvisible]
    exact eq_comm

theorem text_eq_none_iff : text (some s) = none ↔ ∀ c ∈ leftOf s, Text.isBlank c = true := by
  rw [Option.eq_none_iff_forall_ne_some]
  simp only [ne_eq, text_eq_some_iff, not_and, forall_eq, not_exists, Bool.not_eq_false]

/-- A control character that is kept is a line end, and so a blank. -/
theorem isControl_of_isKept (hkept : isKept c = true) (hvisible : Text.isBlank c = false) :
    Text.isControl c = false := by
  simp only [isKept, Bool.or_eq_true, Bool.not_eq_true', decide_eq_true_eq] at hkept
  rcases hkept with hplain | rfl
  · exact hplain
  · cases hvisible

theorem hasVisible_iff : HasVisible s ↔ ∃ c ∈ keptOf s, Text.isBlank c = false := by
  constructor
  · rintro ⟨c, hc, hplain, hvisible⟩
    exact ⟨c, List.mem_filter.mpr ⟨Text.mem_trimChars hc hvisible, by simp [isKept, hplain]⟩,
      hvisible⟩
  · rintro ⟨c, hc, hvisible⟩
    obtain ⟨htrimmed, hkept⟩ := List.mem_filter.mp hc
    exact ⟨c, (Text.trimChars_sublist _).subset htrimmed, isControl_of_isKept hkept hvisible,
      hvisible⟩

theorem head?_leftOf : (leftOf s).head? = (keptOf s).head? := by
  unfold leftOf
  cases keptOf s <;> rfl

/-- If no blank is brought to its ends, something is left of a text in which something can be
seen. -/
theorem KeepsEnds.visible (h : KeepsEnds s) (hvisible : HasVisible s) :
    ∃ c ∈ leftOf s, Text.isBlank c = false := by
  obtain ⟨c, hc, -⟩ := hasVisible_iff.mp hvisible
  obtain ⟨first, hfirst⟩ : ∃ first, (keptOf s).head? = some first :=
    Option.isSome_iff_exists.mp (List.isSome_head?.mpr (List.ne_nil_of_mem hc))
  refine ⟨first, List.mem_of_mem_head? ?_, (h hvisible).1 first hfirst⟩
  rw [head?_leftOf, hfirst]
  rfl

/-- What is left of a text is left of it again, if it is trimmed. -/
theorem leftOf_leftOf (h : Text.IsTrimmed (leftOf s)) :
    leftOf (String.ofList (leftOf s)) = leftOf s := by
  have hkept : (leftOf s).filter isKept = leftOf s := by
    refine List.filter_eq_self.mpr fun c hc => ?_
    exact (List.mem_filter.mp (List.mem_of_mem_take hc)).2
  have hlength : (leftOf s).length ≤ maxTextLength := List.length_take_le ..
  rw [leftOf, keptOf, String.toList_ofList, Text.trimChars_of_isTrimmed h, hkept,
    List.take_of_length_le hlength]

/-- The texts that are cleaned for good are those to whose ends no blank is brought. -/
theorem neat_iff : Neat s ↔ KeepsEnds s := by
  constructor
  · intro h hvisible
    obtain ⟨t, ht⟩ := Option.ne_none_iff_exists'.mp fun hnone => h.seen hnone hvisible
    have htrimmed := h.trimmed t ht
    obtain ⟨rfl, -⟩ := text_eq_some_iff.mp ht
    rw [String.toList_ofList] at htrimmed
    exact ⟨fun c hc => htrimmed.1 c (head?_leftOf.trans hc), htrimmed.2⟩
  · intro h
    have htrimmed {c : Char} (hc : c ∈ leftOf s) (hvisible : Text.isBlank c = false) :
        Text.IsTrimmed (leftOf s) := by
      have hends := h (hasVisible_iff.mpr ⟨c, List.mem_of_mem_take hc, hvisible⟩)
      exact ⟨fun c hc => hends.1 c (head?_leftOf.symm.trans hc), hends.2⟩
    refine ⟨fun t ht => ?_, fun t ht => ?_, fun hnone hvisible => ?_⟩
    · obtain ⟨rfl, c, hc, hvisible⟩ := text_eq_some_iff.mp ht
      rw [String.toList_ofList]
      exact htrimmed hc hvisible
    · obtain ⟨rfl, c, hc, hvisible⟩ := text_eq_some_iff.mp ht
      have hagain := leftOf_leftOf (htrimmed hc hvisible)
      exact text_eq_some_iff.mpr ⟨by rw [hagain], c, by rwa [hagain], hvisible⟩
    · obtain ⟨c, hc, hseen⟩ := h.visible hvisible
      rw [text_eq_none_iff.mp hnone c hc] at hseen
      cases hseen

/-- No blank is brought to the ends of a text that is not long and has no control characters but line
ends. -/
theorem keepsEnds_of_plain (hplain : ∀ c ∈ s.toList, Text.isControl c = true → c = '\n')
    (hshort : (Text.trimChars s.toList).length ≤ maxTextLength) : KeepsEnds s := by
  have hkept : keptOf s = Text.trimChars s.toList := by
    refine List.filter_eq_self.mpr fun c hc => ?_
    by_cases hcontrol : Text.isControl c = true
    · simp [isKept, hplain c ((Text.trimChars_sublist _).subset hc) hcontrol]
    · simp [isKept, hcontrol]
  have hleft : leftOf s = Text.trimChars s.toList := by
    rw [leftOf, hkept, List.take_of_length_le hshort]
  intro _
  rw [hkept, hleft]
  exact Text.isTrimmed_trimChars

end Cleaning

/-! ## Titles of videos -/

open Cleaning (Neat KeepsEnds HasVisible)

/-- A line of a scene shows what can be seen in the fields that it is taken from, and is trimmed. -/
structure ShownFrom (fields : List (Option String)) (line : Option String) : Prop where
  /-- It is trimmed. -/
  trimmed : ∀ t, line = some t → Text.IsTrimmed t.toList
  /-- If it is absent, nothing can be seen in the fields. -/
  seen : line = none → ∀ s, some s ∈ fields → ¬HasVisible s

/-- The first of some fields in which something is left, cleaned. -/
def lineOf (fields : List (Option String)) : Option String := fields.findSome? Cleaning.text

theorem shownFrom_lineOf {fields : List (Option String)}
    (h : ∀ s, some s ∈ fields → KeepsEnds s) : ShownFrom fields (lineOf fields) := by
  constructor
  · intro t ht
    obtain ⟨field, hfield, htext⟩ := List.exists_of_findSome?_eq_some ht
    cases field with
    | none => cases htext
    | some s => exact (Cleaning.neat_iff.mpr (h s hfield)).trimmed t htext
  · intro hnone s hs
    have htext := List.findSome?_eq_none_iff.mp hnone (some s) hs
    exact (Cleaning.neat_iff.mpr (h s hs)).seen htext

theorem lineOf_singleton (a : Option String) : lineOf [a] = Cleaning.text a := by
  rw [lineOf, List.findSome?_singleton]

theorem lineOf_pair (a b : Option String) :
    lineOf [a, b] = (Cleaning.text a).or (Cleaning.text b) := by
  unfold lineOf
  cases h : Cleaning.text a <;> simp [h]

/-- Each line of a scene is taken from the fields for it. -/
theorem lines_of_resolve {r : VideoRequest} {v : ResolvedVideo} (h : r.resolve = .ok v) :
    List.Forall₂ (fun fields s => s.title = lineOf fields.titles ∧
      s.subtitle = lineOf fields.subtitles) r.sceneFields v.scenes := by
  cases r with
  | singleTitle r =>
    obtain ⟨title, src, color, duration, audio, htitle, -, -, -, -, rfl⟩ :=
      TitleRequest.resolve_eq_ok_iff.mp h
    refine .cons ⟨?_, ?_⟩ .nil
    · rw [lineOf_singleton, htitle]
      rfl
    · rw [lineOf_singleton]
      rfl
  | scenes r =>
    refine List.forall₂_map_left_iff.mpr ((ScenesRequest.resolve_scenes h).imp fun q s hq => ?_)
    obtain ⟨src, color, duration, -, -, -, rfl⟩ := SceneRequest.resolve_eq_ok_iff.mp hq
    rw [lineOf_singleton, lineOf_singleton]
    exact ⟨rfl, rfl⟩
  | card r =>
    obtain ⟨title, duration, fadeIn, fadeOut, src, color, logo, audio, htitle, -, -, -, -, -, -, -,
      -, rfl⟩ := CardRequest.resolve_eq_ok_iff.mp h
    refine .cons ⟨?_, ?_⟩ .nil
    · rw [lineOf_pair, htitle]
      rfl
    · rw [lineOf_pair]
      rfl

/-! ## Missing titles -/

section Missing

variable {e : Rejection}

/-- A request is rejected for want of a title. -/
def IsMissingTitle (e : Rejection) : Prop := e = .noTitle ∨ e = .noCardTitle

theorem IsMissingTitle.field?_eq (h : IsMissingTitle e) : e.field? = none := by
  rcases h with rfl | rfl <;> rfl

theorem IsMissingTitle.passes {α : Type} (h : IsMissingTitle e)
    {check : FieldRef → Except Rejection α} (hnames : Cleaning.Names check) (field : FieldRef) :
    check field ≠ .error e := by
  intro herror
  have hfield := hnames.field?_eq herror
  rw [h.field?_eq] at hfield
  cases hfield

theorem IsMissingTitle.audio_passes (h : IsMissingTitle e) {a : AudioRequest}
    (fade : SoundtrackEffect) : a.resolve fade ≠ .error e := by
  intro herror
  obtain ⟨name, -, hfield⟩ := (AudioRequest.resolve_eq_error_iff.mp herror).field?
  rw [h.field?_eq] at hfield
  cases hfield

theorem IsMissingTitle.title (h : IsMissingTitle e) {r : TitleRequest}
    (herror : r.resolve = .error e) : Cleaning.text r.title = none := by
  cases htitle : Cleaning.text r.title with
  | none => rfl
  | some title =>
    unfold TitleRequest.resolve at herror
    simp only [htitle, ok_bind, bind_eq_error_iff, reduceCtorEq, and_false, exists_false,
      or_false] at herror
    rcases herror with hsrc | ⟨_, -, hcolor | ⟨_, -, hduration | ⟨_, -, haudio⟩⟩⟩
    · exact absurd hsrc (h.passes (Cleaning.assetUrl_names _) _)
    · exact absurd hcolor (h.passes (Cleaning.color_names _) _)
    · exact absurd hduration (h.passes (Cleaning.duration_names _ _) _)
    · exact absurd haudio (h.audio_passes _)

theorem IsMissingTitle.scenes_pass (h : IsMissingTitle e) (r : ScenesRequest) :
    r.resolve ≠ .error e := by
  intro herror
  by_cases hne : r.scenes = []
  · rw [ScenesRequest.resolve, hne] at herror
    rcases h with rfl | rfl <;> cases herror
  · rcases (ScenesRequest.resolve_eq_error_iff hne).mp herror with
      ⟨i, s, -, -, hfaults⟩ | ⟨-, haudio⟩
    · obtain ⟨name, -, hfield⟩ := hfaults.field?
      rw [h.field?_eq] at hfield
      cases hfield
    · exact h.audio_passes .fadeIn (AudioRequest.resolve_eq_error_iff.mpr haudio)

theorem IsMissingTitle.card (h : IsMissingTitle e) {r : CardRequest}
    (herror : r.resolve = .error e) :
    (Cleaning.text r.title).or (Cleaning.text r.channelName) = none := by
  cases htitle : (Cleaning.text r.title).or (Cleaning.text r.channelName) with
  | none => rfl
  | some title =>
    unfold CardRequest.resolve at herror
    simp only [htitle, ok_bind, bind_eq_error_iff] at herror
    rcases herror with hduration | ⟨duration, -, hfadeIn | ⟨fadeIn, -, hfadeOut | ⟨fadeOut, -, hrest⟩⟩⟩
    · exact absurd hduration (h.passes (Cleaning.duration_names _ _) _)
    · exact absurd hfadeIn (h.passes (Cleaning.fade_names _ _) _)
    · exact absurd hfadeOut (h.passes (Cleaning.fade_names _ _) _)
    · split at hrest
      · rcases h with rfl | rfl <;> cases hrest
      · simp only [bind_eq_error_iff, reduceCtorEq, and_false, exists_false, or_false] at hrest
        rcases hrest with hsrc | ⟨_, -, hcolor | ⟨_, -, hlogo | ⟨_, -, haudio⟩⟩⟩
        · exact absurd hsrc (h.passes (Cleaning.assetUrl_names _) _)
        · exact absurd hcolor (h.passes (Cleaning.color_names _) _)
        · exact absurd hlogo (h.passes (Cleaning.assetUrl_names _) _)
        · exact absurd haudio (h.audio_passes _)

/-- A request that is rejected for a missing title has no line for one. -/
theorem IsMissingTitle.lineOf_eq (h : IsMissingTitle e) {r : VideoRequest}
    (herror : r.resolve = .error e) : ∀ fields ∈ r.sceneFields, lineOf fields.titles = none := by
  cases r with
  | singleTitle r =>
    intro fields hfields
    obtain rfl := List.mem_singleton.mp hfields
    exact (lineOf_singleton _).trans (h.title herror)
  | scenes r => exact absurd herror (h.scenes_pass r)
  | card r =>
    intro fields hfields
    obtain rfl := List.mem_singleton.mp hfields
    exact (lineOf_pair _ _).trans (h.card herror)

end Missing

/-- Texts to whose ends cleaning brings no blank, and no others, are cleaned for good; among them are
those that are not long and have no control characters but line ends. Where all fields for a line
hold such texts, what can be seen in them is shown, trimmed, and no title is missed. -/
theorem lines_neat (r : VideoRequest) :
    (∀ s, Neat s ↔ KeepsEnds s) ∧
    (∀ s : String, (∀ c ∈ s.toList, Text.isControl c = true → c = '\n') →
      (Text.trimChars s.toList).length ≤ 500 → KeepsEnds s) ∧
    (∀ v, r.resolve = .ok v →
      List.Forall₂ (fun fields scene =>
        ((∀ s, some s ∈ fields.titles → KeepsEnds s) → ShownFrom fields.titles scene.title) ∧
        ((∀ s, some s ∈ fields.subtitles → KeepsEnds s) →
          ShownFrom fields.subtitles scene.subtitle)) r.sceneFields v.scenes) ∧
    (r.resolve = .error .noTitle ∨ r.resolve = .error .noCardTitle →
      ∀ fields ∈ r.sceneFields, ∀ s, some s ∈ fields.titles → KeepsEnds s → ¬HasVisible s) := by
  refine ⟨fun s => Cleaning.neat_iff, fun s => Cleaning.keepsEnds_of_plain, fun v hv => ?_, ?_⟩
  · refine (lines_of_resolve hv).imp ?_
    rintro fields scene ⟨htitle, hsubtitle⟩
    rw [htitle, hsubtitle]
    exact ⟨shownFrom_lineOf, shownFrom_lineOf⟩
  · rintro herror fields hfields s hs hends
    have hmissing : lineOf fields.titles = none := by
      rcases herror with herror | herror
      · exact (show IsMissingTitle _ from .inl rfl).lineOf_eq herror fields hfields
      · exact (show IsMissingTitle _ from .inr rfl).lineOf_eq herror fields hfields
    exact (Cleaning.neat_iff.mpr hends).seen (List.findSome?_eq_none_iff.mp hmissing _ hs)

/-- A card whose name has a control character in it, which brings no blank to an end. -/
theorem lines_neat_channel :
    let r : VideoRequest := .card { kind := .intro, channelName := some " My\x07 channel " }
    KeepsEnds " My\x07 channel " ∧ HasVisible " My\x07 channel " ∧
      ∃ v scene, r.resolve = .ok v ∧ v.scenes = [scene] ∧
        ShownFrom [none, some " My\x07 channel "] scene.title := by
  intro r
  have hends : KeepsEnds " My\x07 channel " := by
    have hkept : Cleaning.keptOf " My\x07 channel " =
        ['M', 'y', ' ', 'c', 'h', 'a', 'n', 'n', 'e', 'l'] := by decide +kernel
    intro _
    rw [Cleaning.leftOf, hkept]
    constructor
    · rintro c ⟨⟩
      rfl
    · rintro c ⟨⟩
      rfl
  have hvisible : HasVisible " My\x07 channel " := ⟨'M', by decide +kernel, by decide, by decide⟩
  obtain ⟨v, hv⟩ := exists_ok_of_isOk (show r.resolve.isOk = true by decide +kernel)
  obtain ⟨scene, rest, ⟨htitle, -⟩, hrest, hscenes⟩ :=
    List.forall₂_cons_left_iff.mp ((lines_neat r).2.2.1 v hv)
  obtain rfl := List.forall₂_nil_left_iff.mp hrest
  refine ⟨hends, hvisible, v, scene, hv, hscenes, htitle ?_⟩
  intro s hs
  simp only [List.mem_cons, List.not_mem_nil, or_false, reduceCtorEq, false_or,
    Option.some.injEq] at hs
  exact hs ▸ hends

theorem resolve_of_no_title {r : TitleRequest} (h : Cleaning.text r.title = none) :
    (VideoRequest.singleTitle r).resolve = .error .noTitle := by
  show r.resolve = _
  rw [TitleRequest.resolve, h]
  rfl

/-- A text that can be seen only behind a control character and so many blanks. -/
def setBack (n : Nat) : String := String.ofList ('\x07' :: List.replicate n ' ' ++ ['H', 'i'])

theorem hasVisible_setBack (n : Nat) : HasVisible (setBack n) := by
  refine ⟨'H', ?_, by decide, by decide⟩
  rw [setBack, String.toList_ofList]
  exact List.mem_append_right _ List.mem_cons_self

theorem text_setBack {n : Nat} (h : Cleaning.maxTextLength ≤ n) :
    Cleaning.text (some (setBack n)) = none := by
  have htrimmed : Text.IsTrimmed ('\x07' :: List.replicate n ' ' ++ ['H', 'i']) := by
    constructor
    · rintro c ⟨⟩
      rfl
    · intro c hc
      rw [List.getLast?_append] at hc
      obtain rfl := Option.some.inj hc
      rfl
  have hkept : Cleaning.keptOf (setBack n) = List.replicate n ' ' ++ ['H', 'i'] := by
    rw [Cleaning.keptOf, setBack, String.toList_ofList, Text.trimChars_of_isTrimmed htrimmed,
      List.filter_append, List.filter_cons_of_neg (by decide),
      List.filter_replicate_of_pos (by decide)]
    rfl
  rw [Cleaning.text_eq_none_iff]
  intro c hc
  rw [Cleaning.leftOf, hkept, List.take_append_of_le_length (by simpa using h)] at hc
  rw [List.eq_of_mem_replicate (List.mem_of_mem_take hc)]
  rfl

/-- A control character at the end of a text brings the blank before it to the end of the title. At
the front, with many blanks behind it, it makes a text in which something can be seen be missed. -/
theorem lines_not_neat :
    ¬Neat "Hi \x07" ∧ Cleaning.text (some "Hi \x07") = some "Hi " ∧
      Cleaning.text (some "Hi ") = some "Hi" ∧
      ¬Neat (setBack 500) ∧ HasVisible (setBack 500) ∧
      (VideoRequest.singleTitle { title := some (setBack 500) }).resolve = .error .noTitle := by
  have hbehind : Cleaning.text (some "Hi \x07") = some "Hi " := by decide +kernel
  have hnone : Cleaning.text (some (setBack 500)) = none :=
    text_setBack (Nat.le_refl 500)
  have hmissed : (VideoRequest.singleTitle { title := some (setBack 500) }).resolve =
      .error .noTitle := resolve_of_no_title hnone
  refine ⟨fun hneat => ?_, hbehind, by decide +kernel, fun hneat => ?_,
    hasVisible_setBack 500, hmissed⟩
  · have hblank := (hneat.trimmed _ hbehind).2 ' ' (by decide +kernel)
    cases hblank
  · exact hneat.seen hnone (hasVisible_setBack 500)

end Storyboard
