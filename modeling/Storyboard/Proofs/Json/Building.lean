import Storyboard.Json.Fault
import Storyboard.Proofs.Json.Scanning

/-!
# Building what was written

The tokens of a value are put together to the document of that value, so a text that was written is
the document of what was written: `Doc.ofChars_chars`. The only premise is that every number in it
is legible, which means that reading its text alone gives it back. Where numbers are read as others,
the document is that of the value with those: `Doc.ofChars_chars_map`.
-/

namespace Storyboard.Json

namespace Doc

namespace Builder

/-! ## The tokens of a value -/

/-- A value may come next. -/
def TakesValue : Awaited → Prop
  | .value | .firstItem | .item => True
  | _ => False

theorem step_value {awaited : Awaited} (ha : TakesValue awaited) {t : Token}
    (ht : t ≠ .closeList) (stack : List Frame) :
    step (.inside stack awaited) t = startValue stack t := by
  cases awaited with
  | value => rfl
  | firstItem => cases t <;> first | rfl | exact absurd rfl ht
  | item => cases t <;> first | rfl | exact absurd rfl ht
  | _ => exact absurd ha (by simp [TakesValue])

mutual

/-- The tokens of a value put its document in its place. -/
theorem foldl_tokensOf (v : Json) {awaited : Awaited} (ha : TakesValue awaited)
    (stack : List Frame) (rest : List Token) :
    (tokensOf v ++ rest).foldl step (.inside stack awaited) =
      rest.foldl step (place (ofJson v) stack) := by
  cases v with
  | null => simp [tokensOf, step_value ha, startValue, ofJson]
  | boolean b => simp [tokensOf, step_value ha, startValue, ofJson]
  | number n => simp [tokensOf, step_value ha, startValue, ofJson]
  | text s => simp [tokensOf, step_value ha, startValue, ofJson]
  | list items =>
    simp only [tokensOf, List.cons_append, List.append_assoc, List.nil_append, List.foldl_cons]
    rw [step_value ha (by simp)]
    cases items with
    | nil => rfl
    | cons w more =>
      rw [startValue, foldl_itemTokens (w :: more) (by simp) (.inl rfl) [] stack]
      simp [step, endList, ofJson]
  | object members =>
    simp only [tokensOf, List.cons_append, List.append_assoc, List.nil_append, List.foldl_cons]
    rw [step_value ha (by simp)]
    cases members with
    | nil => rfl
    | cons m more =>
      rw [startValue, foldl_memberTokens (m :: more) (by simp) (.inl rfl) [] stack]
      simp [step, closeObject, ofJson]

/-- The tokens of some items put them into the innermost list. -/
theorem foldl_itemTokens (items : List Json) (hne : items ≠ []) {awaited : Awaited}
    (ha : awaited = .firstItem ∨ awaited = .item) (done : List Doc) (stack : List Frame)
    (rest : List Token) :
    (itemTokens items ++ rest).foldl step (.inside (.list done :: stack) awaited) =
      rest.foldl step (.inside (.list ((ofItems items).reverse ++ done) :: stack) .listPause) := by
  have hvalue : TakesValue awaited := by rcases ha with rfl | rfl <;> trivial
  cases items with
  | nil => exact absurd rfl hne
  | cons v more =>
    cases more with
    | nil =>
      rw [itemTokens, foldl_tokensOf v hvalue]
      rfl
    | cons w others =>
      simp only [itemTokens, List.append_assoc, List.cons_append]
      rw [foldl_tokensOf v hvalue, List.foldl_cons]
      simp only [place, step]
      rw [foldl_itemTokens (w :: others) (by simp) (.inr rfl)]
      simp [ofItems]

/-- The tokens of some members put them into the innermost object. -/
theorem foldl_memberTokens (members : List (String × Json)) (hne : members ≠ [])
    {awaited : Awaited} (ha : awaited = .firstKey ∨ awaited = .key) (done : List (Key × Doc))
    (stack : List Frame) (rest : List Token) :
    (memberTokens members ++ rest).foldl step (.inside (.object done :: stack) awaited) =
      rest.foldl step
        (.inside (.object ((ofMembers members).reverse ++ done) :: stack) .objectPause) := by
  have hkey : ∀ k, step (step (.inside (.object done :: stack) awaited) (.text (.ok k))) .colon =
      .inside (.member done (.ok k) :: stack) .value := by
    intro k
    rcases ha with rfl | rfl <;> rfl
  have hvalue : TakesValue .value := trivial
  cases members with
  | nil => exact absurd rfl hne
  | cons m more =>
    obtain ⟨k, v⟩ := m
    cases more with
    | nil =>
      simp only [memberTokens, List.cons_append, List.foldl_cons, hkey]
      rw [foldl_tokensOf v hvalue]
      rfl
    | cons m' others =>
      simp only [memberTokens, List.append_assoc, List.cons_append, List.foldl_cons, hkey]
      rw [foldl_tokensOf v hvalue]
      simp only [List.foldl_cons, place, step]
      rw [foldl_memberTokens (m' :: others) (by simp) (.inr rfl)]
      simp [ofMembers]

end

end Builder

/-- Tokens of a value make its document, with nothing behind it. -/
theorem ofChars_of_tokens {v : Json} {cs : List Char} (h : Token.ofChars cs = tokensOf v) :
    ofChars cs = (ofJson v, false) := by
  have hvalue : Builder.TakesValue .value := trivial
  have hfold := Builder.foldl_tokensOf v hvalue [] []
  rw [List.append_nil] at hfold
  unfold ofChars ofTokens
  rw [h, hfold]
  rfl

/-! ## Legible numbers -/

/-- A list or an object. -/
def IsNested : Doc → Prop
  | .list .. | .object .. => True
  | _ => False

namespace Builder

/-- The value is a list or an object, as far as can be told. -/
def MakesNested : Builder → Prop
  | .inside stack _ => stack ≠ []
  | .complete doc _ | .stopped doc => doc.IsNested

theorem isNested_stop {doc : Doc} {stack : List Frame} (h : stack ≠ [] ∨ doc.IsNested) :
    (stop doc stack).IsNested := by
  induction stack generalizing doc with
  | nil => exact h.resolve_left (by simp)
  | cons frame rest ih => cases frame <;> exact ih (.inr trivial)

theorem makesNested_place {doc : Doc} {stack : List Frame} (h : stack ≠ [] ∨ doc.IsNested) :
    (place doc stack).MakesNested := by
  cases stack with
  | nil => exact h.resolve_left (by simp)
  | cons frame rest =>
    cases frame with
    | object members => exact isNested_stop (.inl (by simp))
    | _ => exact List.cons_ne_nil _ _

theorem makesNested_endList {how : ListStop} {stack : List Frame} (h : stack ≠ []) :
    (endList how stack).MakesNested := by
  unfold endList
  split
  · simp only
    split
    · exact makesNested_place (.inr trivial)
    · exact isNested_stop (.inr trivial)
  · exact isNested_stop (.inl h)

theorem makesNested_breakObject {how : ObjectStop} {stack : List Frame} (h : stack ≠ []) :
    (breakObject how stack).MakesNested := by
  unfold breakObject
  split
  · exact isNested_stop (.inr trivial)
  · exact isNested_stop (.inl h)

theorem makesNested_closeObject {stack : List Frame} (h : stack ≠ []) :
    (closeObject stack).MakesNested := by
  unfold closeObject
  split
  · exact makesNested_place (.inr trivial)
  · exact isNested_stop (.inl h)

theorem makesNested_startValue {stack : List Frame} (h : stack ≠ []) (t : Token) :
    (startValue stack t).MakesNested := by
  cases t with
  | null | boolean _ | number _ | text _ => exact makesNested_place (.inl h)
  | openList | openObject => exact List.cons_ne_nil _ _
  | gap reason => exact isNested_stop (.inl h)
  | closeList | closeObject | comma | colon => exact isNested_stop (.inl h)

theorem makesNested_startKey {stack : List Frame} (h : stack ≠ []) (t : Token) :
    (startKey stack t).MakesNested := by
  unfold startKey
  split
  · exact List.cons_ne_nil _ _
  · split <;> exact makesNested_breakObject h
  · exact makesNested_breakObject h

theorem makesNested_step {b : Builder} (h : b.MakesNested) (t : Token) :
    (step b t).MakesNested := by
  unfold step
  split
  all_goals first
    | exact makesNested_startValue h _
    | exact makesNested_startKey h _
    | exact makesNested_endList h
    | exact makesNested_closeObject h
    | exact makesNested_breakObject h
    | exact isNested_stop (.inl h)
    | exact h

theorem makesNested_finish {b : Builder} (h : b.MakesNested) : b.finish.MakesNested := by
  unfold finish
  split
  all_goals first
    | exact makesNested_endList h
    | exact makesNested_breakObject h
    | exact isNested_stop (.inl h)
    | exact h

theorem makesNested_foldl {b : Builder} (h : b.MakesNested) (ts : List Token) :
    (ts.foldl step b).MakesNested := by
  induction ts generalizing b with
  | nil => exact h
  | cons t ts ih => exact ih (makesNested_step h t)

theorem foldl_complete (doc : Doc) (followed : Bool) (ts : List Token) :
    ts.foldl step (.complete doc followed) = .complete doc (followed || !ts.isEmpty) := by
  induction ts generalizing followed with
  | nil => simp
  | cons t ts ih =>
    rw [List.foldl_cons, step, ih]
    simp

theorem foldl_stopped (doc : Doc) (ts : List Token) :
    ts.foldl step (.stopped doc) = .stopped doc := by
  induction ts with
  | nil => rfl
  | cons t ts ih => exact ih

/-- The outcome of a builder when the text has ended. -/
def outcome (b : Builder) : Doc × Bool :=
  match b.finish with
  | .complete doc followed => (doc, followed)
  | .stopped doc => (doc, false)
  | .inside stack _ => (stop (.missing .atEnd) stack, false)

theorem isNested_outcome {b : Builder} (h : b.MakesNested) : b.outcome.1.IsNested := by
  have hfinish := makesNested_finish h
  unfold outcome
  split
  · rename_i heq
    rwa [heq] at hfinish
  · rename_i heq
    rwa [heq] at hfinish
  · rename_i heq
    rw [heq] at hfinish
    exact isNested_stop (.inl hfinish)

end Builder

/-- A text that is a number and nothing else is one token. -/
theorem tokens_of_number {cs : List Char} {v : Except Malformed Number}
    (h : ofChars cs = (.number v, false)) : Token.ofChars cs = [.number v] := by
  change ((Token.ofChars cs).foldl Builder.step (.inside [] .value)).outcome = _ at h
  generalize Token.ofChars cs = ts at h
  -- the first token decides: a number is the value, and anything else makes another document
  have hcomplete : ∀ {doc : Doc} {ts : List Token},
      (ts.foldl Builder.step (.complete doc false)).outcome = (.number v, false) →
        doc = .number v ∧ ts = [] := by
    intro doc ts hdoc
    rw [Builder.foldl_complete] at hdoc
    obtain ⟨rfl, hempty⟩ := Prod.mk.inj hdoc
    exact ⟨rfl, by simpa using hempty⟩
  have hstopped : ∀ {doc : Doc} {ts : List Token},
      (ts.foldl Builder.step (.stopped doc)).outcome = (.number v, false) → doc = .number v := by
    intro doc ts hdoc
    rw [Builder.foldl_stopped] at hdoc
    exact (Prod.mk.inj hdoc).1
  have hnested : ∀ {b : Builder} {ts : List Token}, b.MakesNested →
      (ts.foldl Builder.step b).outcome ≠ (.number v, false) := by
    intro b ts hb hdoc
    have hdoc' := Builder.isNested_outcome (Builder.makesNested_foldl hb ts)
    rw [hdoc] at hdoc'
    exact hdoc'
  cases ts with
  | nil => exact absurd (congrArg Prod.fst h) (by simp [Builder.outcome, Builder.finish, Builder.stop])
  | cons t ts =>
    rw [List.foldl_cons] at h
    cases t with
    | number n =>
      obtain ⟨hn, rfl⟩ := hcomplete h
      rw [Doc.number.inj hn]
    | null | boolean _ | text _ => exact absurd (hcomplete h).1 (by simp)
    | openList | openObject => exact absurd h (hnested (List.cons_ne_nil _ _))
    | gap _ | closeList | closeObject | comma | colon =>
      have hdoc := hstopped h
      exact absurd hdoc Doc.noConfusion

end Doc

/-- A number is legible if reading its text gives it back. -/
def Number.IsLegible (n : Number) : Prop := ofChars n.text = .ok (.number n)

theorem Number.IsLegible.isToken {n : Number} (h : n.IsLegible) : n.IsToken := by
  unfold Number.IsLegible ofChars at h
  refine Doc.tokens_of_number ?_
  generalize Doc.ofChars n.text = out at h ⊢
  obtain ⟨doc, followed⟩ := out
  simp only at h
  split at h
  · exact absurd h (by simp)
  · cases followed with
    | true => exact absurd h (by simp)
    | false =>
      have hvalue : doc.value = .number n := by simpa using h
      have hdoc : doc = .number (.ok n) := by
        cases doc with
        | number v =>
          cases v with
          | error m => exact absurd hvalue (by simp [Doc.value])
          | ok v =>
            simp only [Doc.value, Json.number.injEq] at hvalue
            rw [hvalue]
        | text v => cases v <;> exact absurd hvalue (by simp [Doc.value])
        | _ => exact absurd hvalue (by simp [Doc.value])
      rw [hdoc]

theorem Number.ReadsAs.ofChars_text {n other : Number} (h : n.ReadsAs other) :
    ofChars n.text = .ok (.number other) := by
  have hdoc : Doc.ofChars n.text = (Doc.ofJson (.number other), false) := Doc.ofChars_of_tokens h
  unfold ofChars
  rw [hdoc]
  rfl

theorem Number.IsToken.isLegible {n : Number} (h : n.IsToken) : n.IsLegible :=
  Number.ReadsAs.ofChars_text h

instance (n : Number) : Decidable n.IsLegible :=
  decidable_of_iff n.IsToken ⟨Number.IsToken.isLegible, Number.IsLegible.isToken⟩

example : Number.IsLegible (.double (.ofQuotient 1 10)) := by decide +kernel

-- `1.2671640447640287` is read one unit off
example : ¬Number.IsLegible (.double (.ofQuotient 126705 99991)) := by decide +kernel

/-- The text of a value is the document of that value, where each number is the one that it is read
as. -/
theorem Doc.ofChars_chars_map {v : Json} {f : Number → Number}
    (h : ∀ n ∈ numbers v, n.ReadsAs (f n)) :
    Doc.ofChars (chars v) = (Doc.ofJson (mapNumbers f v), false) := by
  refine Doc.ofChars_of_tokens ?_
  have htokens := Scan.tokens_chars v h [] trivial
  rw [List.append_nil] at htokens
  rw [Token.ofChars, htokens, Scan.tokens, Scan.finish, List.append_nil]

/-- The text of a value is the document of that value, if its numbers are legible. -/
theorem Doc.ofChars_chars {v : Json} (h : ∀ n ∈ numbers v, n.IsLegible) :
    Doc.ofChars (chars v) = (Doc.ofJson v, false) := by
  have hid : ∀ n ∈ numbers v, n.ReadsAs (id n) := fun n hn => (h n hn).isToken
  rw [Doc.ofChars_chars_map hid, mapNumbers_id]

/-! ## Blanks -/

/-- A blank, if it is one of JSON, makes no token, and else a gap. -/
theorem Scan.start_of_blank {c : Char} (h : Text.isBlank c = true) :
    start c = ([], .idle) ∨ start c = fail (.plain .valueExpected) := by
  have hne : ∀ d : Char, Text.isBlank d = false → c ≠ d := by
    rintro d hd rfl
    exact absurd (h.symm.trans hd) (by simp)
  have hdigit : Text.isDigit c = false := by
    cases hd : Text.isDigit c with
    | false => rfl
    | true =>
      simp only [Text.isDigit, Text.isBlank, Bool.and_eq_true, Bool.or_eq_true, decide_eq_true_eq,
        beq_iff_eq] at hd h
      omega
  unfold start
  by_cases hspace : isSpace c = true
  · rw [if_pos hspace]
    exact .inl rfl
  · rw [if_neg hspace]
    simp (disch := decide) only [hne, hdigit, Bool.false_eq_true, if_false, or_true]

theorem Scan.tokens_halted (cs : List Char) : halted.tokens cs = [] := by
  induction cs with
  | nil => rfl
  | cons c cs ih => exact ih

/-- There is no value in a text of blanks. -/
theorem Doc.ofChars_of_blank {cs : List Char} (h : ∀ c ∈ cs, Text.isBlank c = true) :
    ∃ reason, Doc.ofChars cs = (.missing reason, false) := by
  unfold ofChars
  induction cs with
  | nil => exact ⟨.atEnd, rfl⟩
  | cons c cs ih =>
    obtain ⟨hc, hcs⟩ := List.forall_mem_cons.mp h
    rcases Scan.start_of_blank hc with hstart | hstart
    · have htokens : Token.ofChars (c :: cs) = Token.ofChars cs := by
        simp only [Token.ofChars, Scan.tokens, Scan.step, hstart, List.nil_append]
      rw [htokens]
      exact ih hcs
    · have htokens : Token.ofChars (c :: cs) = [.gap (.plain .valueExpected)] := by
        simp only [Token.ofChars, Scan.tokens, Scan.step, hstart, Scan.fail, Scan.tokens_halted,
          List.append_nil]
      rw [htokens]
      exact ⟨_, rfl⟩

end Storyboard.Json
