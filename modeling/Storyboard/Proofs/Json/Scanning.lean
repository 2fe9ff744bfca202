import Storyboard.Json.Token
import Storyboard.Proofs.Text.Utf8

/-!
# Scanning what was written

The text of a value is cut into the tokens of that value, whatever follows it, as long as what
follows cannot be taken for more of a number. Strings come back as they were, since every character
that is escaped is read back as itself.

A text that comes as bytes has the tokens of the text that they were sent for.

Numbers are the one thing that is not proved here: reading is not exact for all of them, so a number
is scanned under the premise that its text alone is one token, of the same number or of another.
`Scan.tokens_number` then says that it is the same token inside a text.
-/

namespace Storyboard.Json

/-! ## Running the automaton -/

namespace Scan

/-- The tokens that some characters complete, and the state after them. -/
def run : Scan → List Char → List Token × Scan
  | s, [] => ([], s)
  | s, c :: cs => ((step s c).1 ++ (run (step s c).2 cs).1, (run (step s c).2 cs).2)

theorem tokens_append (s : Scan) (cs rest : List Char) :
    s.tokens (cs ++ rest) = (s.run cs).1 ++ (s.run cs).2.tokens rest := by
  induction cs generalizing s with
  | nil => rfl
  | cons c cs ih => rw [List.cons_append, tokens, ih, run, List.append_assoc]

theorem tokens_eq_run (s : Scan) (cs : List Char) :
    s.tokens cs = (s.run cs).1 ++ (s.run cs).2.finish := by
  have h := tokens_append s cs []
  rwa [List.append_nil, tokens] at h

/-! ## Bytes -/

/-- Where every byte belongs to a character, the characters are scanned. -/
theorem tokensEach_map_some (s : Scan) (cs : List Char) :
    s.tokensEach false (cs.map some) = s.tokens cs := by
  induction cs generalizing s with
  | nil => rfl
  | cons c cs ih => exact congrArg ((s.step c).1 ++ ·) (ih (s.step c).2)

/-- The bytes of a text have its tokens. -/
theorem tokens_ofBytes {bs : List Nat} {cs : List Char} (h : Text.ofBytes? bs = some cs) :
    Token.ofBytes bs = Token.ofChars cs := by
  rw [Token.ofBytes, Text.decoded_of_ofBytes? h, tokensEach_map_some, Token.ofChars]

/-! ## Gaps -/

/-- The automaton halts only with a gap. -/
def Tells (out : List Token × Scan) : Prop :=
  out.2 = .halted → ∃ reason, Token.gap reason ∈ out.1

theorem tells_of_ne {out : List Token × Scan} (h : out.2 ≠ .halted) : Tells out :=
  fun hhalted => absurd hhalted h

theorem tells_fail (reason : Gap) : Tells (fail reason) :=
  fun _ => ⟨reason, List.mem_singleton.mpr rfl⟩

theorem tells_ite {p : Prop} [Decidable p] {a b : List Token × Scan} (ha : Tells a)
    (hb : Tells b) : Tells (if p then a else b) := by
  by_cases h : p
  · rwa [if_pos h]
  · rwa [if_neg h]

theorem tells_start (c : Char) : Tells (start c) := by
  unfold start
  repeat refine tells_ite (tells_of_ne (by simp)) ?_
  exact tells_fail _

theorem tells_andThen (t : Token) (c : Char) : Tells (andThen t c) := by
  intro h
  obtain ⟨reason, hmem⟩ := tells_start c h
  exact ⟨reason, List.mem_cons_of_mem _ hmem⟩

theorem tells_afterWhole (negative : Bool) (digits : List Char) (c : Char) :
    Tells (afterWhole negative digits c) :=
  tells_ite (tells_of_ne (by simp)) (tells_ite (tells_of_ne (by simp)) (tells_andThen _ c))

theorem afterHex_ne_halted (bad : Option Malformed) (chars : List Char) (half : Option Nat)
    (n : Nat) : afterHex bad chars half n ≠ .halted := by
  unfold afterHex
  cases half with
  | some high =>
    simp only
    split
    · simp
    · simp
  | none =>
    simp only
    split
    · simp
    · split
      · simp
      · simp

theorem tells_step {s : Scan} (hs : s ≠ .halted) (c : Char) : Tells (step s c) := by
  -- the states between two characters of one token
  have hgoes : ∀ {next : Scan}, next ≠ .halted → Tells ([], next) := fun hne => tells_of_ne hne
  cases s with
  | halted => exact absurd rfl hs
  | idle => exact tells_start c
  | word lead rest token =>
    cases rest with
    | nil => exact tells_andThen _ c
    | cons w rest =>
      exact tells_ite (tells_fail _) (tells_ite (tells_of_ne (by simp)) (hgoes (by simp)))
  | minus => exact tells_ite (hgoes (by simp)) (tells_ite (hgoes (by simp)) (tells_fail _))
  | zero negative => exact tells_ite (tells_fail _) (tells_afterWhole _ _ c)
  | whole negative digits => exact tells_ite (hgoes (by simp)) (tells_afterWhole _ _ c)
  | fraction negative front digits =>
    exact tells_ite (hgoes (by simp)) (tells_ite (tells_fail _)
      (tells_ite (hgoes (by simp)) (tells_andThen _ c)))
  | powerMark negative front back =>
    exact tells_ite (hgoes (by simp)) (tells_ite (hgoes (by simp))
      (tells_ite (hgoes (by simp)) (tells_fail _)))
  | powerSign negative front back down => exact tells_ite (hgoes (by simp)) (tells_fail _)
  | power negative front back down digits => exact tells_ite (hgoes (by simp)) (tells_andThen _ c)
  | string bad chars half =>
    exact tells_ite (hgoes (by simp)) (tells_ite (tells_of_ne (by simp))
      (tells_ite (tells_fail _) (hgoes (by simp))))
  | escape bad chars half =>
    exact tells_ite (hgoes (by simp)) (tells_ite (hgoes (by simp)) (tells_ite (hgoes (by simp))
      (tells_ite (hgoes (by simp)) (tells_ite (hgoes (by simp)) (tells_ite (hgoes (by simp))
        (tells_ite (hgoes (by simp)) (tells_fail _)))))))
  | hex bad chars half digits =>
    refine tells_ite (hgoes (by simp)) ?_
    split
    · exact hgoes (afterHex_ne_halted _ _ _ _)
    · exact tells_fail _

theorem tells_run {s : Scan} (hs : s ≠ .halted) (cs : List Char) : Tells (run s cs) := by
  induction cs generalizing s with
  | nil => exact tells_of_ne hs
  | cons c cs ih =>
    intro hhalted
    by_cases hnext : (step s c).2 = .halted
    · obtain ⟨reason, hmem⟩ := tells_step hs c hnext
      exact ⟨reason, List.mem_append_left _ hmem⟩
    · obtain ⟨reason, hmem⟩ := ih hnext hhalted
      exact ⟨reason, List.mem_append_right _ hmem⟩

/-! ## Numbers -/

/-- Nothing follows that could be taken for more of a number. -/
def Stops : List Char → Prop
  | [] => True
  | c :: _ => c = ',' ∨ c = ']' ∨ c = '\x7d'

theorem stops_comma (cs : List Char) : Stops (',' :: cs) := .inl rfl

/-- A number that the end of a text completes is also completed by what can follow it. -/
theorem step_of_finish {s : Scan} {v : Except Malformed Number} {c : Char} {rest : List Char}
    (h : s.finish = [.number v]) (hc : Stops (c :: rest)) : step s c = andThen (.number v) c := by
  have hdigit : Text.isDigit c = false := by
    rcases hc with rfl | rfl | rfl <;> decide
  have hpoint : c ≠ '.' := by
    rcases hc with rfl | rfl | rfl <;> decide
  have hpower : ¬(decide (c = 'e') || decide (c = 'E')) = true := by
    rcases hc with rfl | rfl | rfl <;> decide
  cases s with
  | word lead rest token =>
    cases rest with
    | nil =>
      obtain rfl : token = .number v := by simpa [finish] using h
      rfl
    | cons w rest => exact absurd h (by simp [finish])
  | zero negative =>
    have hv : numeral negative ['0'] none none = .number v := by simpa [finish] using h
    simp [step, hdigit, afterWhole, hpoint, hpower, hv]
  | whole negative digits =>
    have hv : numeral negative digits none none = .number v := by simpa [finish] using h
    simp [step, hdigit, afterWhole, hpoint, hpower, hv]
  | fraction negative front digits =>
    unfold finish at h
    by_cases hdigits : digits = []
    · exact absurd h (by simp [hdigits])
    · have hv : numeral negative front (some digits) none = .number v := by
        simpa [hdigits] using h
      simp [step, hdigit, hdigits, hpower, hv]
  | power negative front back down digits =>
    have hv : numeral negative front back (some (down, digits)) = .number v := by
      simpa [finish] using h
    simp [step, hdigit, hv]
  | _ => exact absurd h (by simp [finish])

/-- A number whose text alone is one token is the same token inside a text. -/
theorem tokens_number {v : Except Malformed Number} {cs rest : List Char}
    (h : Token.ofChars cs = [.number v]) (hrest : Stops rest) :
    idle.tokens (cs ++ rest) = .number v :: idle.tokens rest := by
  rw [Token.ofChars, tokens_eq_run] at h
  have htells := tells_run (s := idle) (by simp) cs
  rw [tokens_append]
  generalize idle.run cs = out at h htells
  obtain ⟨ts, s⟩ := out
  simp only at h ⊢
  cases ts with
  | cons t ts =>
    -- the number was complete before the end of its text
    obtain ⟨rfl, hnil⟩ := List.cons_eq_cons.mp h
    obtain ⟨rfl, hfinish⟩ := List.append_eq_nil_iff.mp hnil
    have hidle : s = idle := by
      cases s with
      | idle => rfl
      | halted =>
        obtain ⟨reason, hmem⟩ := htells rfl
        exact absurd hmem (by simp)
      | word lead rest token => cases rest <;> exact absurd hfinish (by simp [finish])
      | fraction negative front digits =>
        by_cases hdigits : digits = []
        · exact absurd hfinish (by simp [finish, hdigits])
        · exact absurd hfinish (by simp [finish, hdigits])
      | _ => exact absurd hfinish (by simp [finish])
    rw [hidle]
    rfl
  | nil =>
    rw [List.nil_append] at h ⊢
    cases rest with
    | nil => exact h
    | cons c rest =>
      rw [tokens, step_of_finish h hrest]
      rfl

/-! ## Strings -/

theorem hexValue_digitChar : ∀ d < 16, Text.hexValue (Nat.digitChar d) = some d := by decide

theorem utf8Size_digitChar : ∀ d < 16, (Nat.digitChar d).utf8Size = 1 := by decide

/-- A character comes back from its escaped form. -/
theorem tokens_escapeChar (c : Char) (chars rest : List Char) :
    (string none chars none).tokens (escapeChar c ++ rest) =
      (string none (c :: chars) none).tokens rest := by
  unfold escapeChar
  by_cases hquote : c.toNat = 0x22
  · obtain rfl : c = '\x22' := Char.toNat_inj.mp hquote
    rfl
  by_cases hslash : c = '\\'
  · subst hslash
    rfl
  by_cases hline : c = '\n'
  · subst hline
    rfl
  by_cases hreturn : c = '\r'
  · subst hreturn
    rfl
  by_cases htab : c = '\t'
  · subst htab
    rfl
  by_cases hback : c.toNat = 8
  · obtain rfl : c = Char.ofNat 8 := Char.toNat_inj.mp hback
    rfl
  by_cases hfeed : c.toNat = 12
  · obtain rfl : c = Char.ofNat 12 := Char.toNat_inj.mp hfeed
    rfl
  simp only [hquote, hslash, hline, hreturn, htab, hback, hfeed, if_false]
  by_cases hlow : c.toNat < 0x20
  · rw [if_pos hlow]
    have hvalues : [Nat.digitChar (c.toNat % 16), Nat.digitChar (c.toNat / 16), '0', '0'].mapM
        Text.hexValue = some [c.toNat % 16, c.toNat / 16, 0, 0] := by
      have hzero : Text.hexValue '0' = some 0 := by decide
      simp [hexValue_digitChar (c.toNat / 16) (by omega), hzero,
        hexValue_digitChar (c.toNat % 16) (by omega)]
    have hthree : width [Nat.digitChar (c.toNat / 16), '0', '0'] < 4 := by
      have hsize := utf8Size_digitChar (c.toNat / 16) (by omega)
      simp [width, hsize, show '0'.utf8Size = 1 from rfl]
    have hfour :
        ¬width [Nat.digitChar (c.toNat % 16), Nat.digitChar (c.toNat / 16), '0', '0'] < 4 := by
      have hsize := utf8Size_digitChar (c.toNat / 16) (by omega)
      have hsize' := utf8Size_digitChar (c.toNat % 16) (by omega)
      simp [width, hsize, hsize', show '0'.utf8Size = 1 from rfl]
    have hn : ((0 * 16 + 0) * 16 + c.toNat / 16) * 16 + c.toNat % 16 = c.toNat := by omega
    have hafter : afterHex none chars none c.toNat = string none (c :: chars) none := by
      unfold afterHex
      rw [if_neg (by omega), if_neg (by omega), Char.ofNat_toNat]
    simp only [List.cons_append, List.nil_append]
    calc (string none chars none).tokens ('\\' :: 'u' :: '0' :: '0' ::
          Nat.digitChar (c.toNat / 16) :: Nat.digitChar (c.toNat % 16) :: rest)
        = (hex none chars none ['0', '0']).tokens
            (Nat.digitChar (c.toNat / 16) :: Nat.digitChar (c.toNat % 16) :: rest) := rfl
      _ = (hex none chars none [Nat.digitChar (c.toNat / 16), '0', '0']).tokens
            (Nat.digitChar (c.toNat % 16) :: rest) := by
          simp only [tokens, step, hthree, if_true, List.nil_append]
      _ = (string none (c :: chars) none).tokens rest := by
          simp only [tokens, step, hfour, if_false, hvalues, hn, hafter, List.nil_append]
  · rw [if_neg hlow]
    have hc : c ≠ '\x22' := fun h => hquote (by rw [h]; rfl)
    simp [tokens, step, hslash, strayHalf, hc, hlow]

theorem tokens_escaped (cs chars rest : List Char) :
    (string none chars none).tokens (cs.flatMap escapeChar ++ '\x22' :: rest) =
      .text (.ok (String.ofList (chars.reverse ++ cs))) :: idle.tokens rest := by
  induction cs generalizing chars with
  | nil => simp [tokens, step, strayHalf]
  | cons c cs ih =>
    rw [List.flatMap_cons, List.append_assoc, tokens_escapeChar, ih, List.reverse_cons,
      List.append_assoc, List.singleton_append]

/-- A string comes back from between its quotes. -/
theorem tokens_quote (s : String) (rest : List Char) :
    idle.tokens (quote s ++ rest) = .text (.ok s) :: idle.tokens rest := by
  have h := tokens_escaped s.toList [] rest
  rw [List.reverse_nil, List.nil_append, String.ofList_toList] at h
  rw [← h]
  simp [quote, tokens, step, start, isSpace, Text.isDigit]

end Scan

/-! ## The tokens of a value -/

mutual

/-- The tokens of a value. -/
def tokensOf : Json → List Token
  | .null => [.null]
  | .boolean b => [.boolean b]
  | .number n => [.number (.ok n)]
  | .text s => [.text (.ok s)]
  | .list items => .openList :: itemTokens items ++ [.closeList]
  | .object members => .openObject :: memberTokens members ++ [.closeObject]

/-- The tokens of the items of a list, with commas between them. -/
def itemTokens : List Json → List Token
  | [] => []
  | [v] => tokensOf v
  | v :: w :: rest => tokensOf v ++ .comma :: itemTokens (w :: rest)

/-- The tokens of the members of an object, with commas between them. -/
def memberTokens : List (String × Json) → List Token
  | [] => []
  | [(k, v)] => .text (.ok k) :: .colon :: tokensOf v
  | (k, v) :: m :: rest =>
    .text (.ok k) :: .colon :: tokensOf v ++ .comma :: memberTokens (m :: rest)

end

mutual

/-- The numbers that stand in a value. -/
def numbers : Json → List Number
  | .null | .boolean _ | .text _ => []
  | .number n => [n]
  | .list items => itemNumbers items
  | .object members => memberNumbers members

/-- The numbers that stand in the items of a list. -/
def itemNumbers : List Json → List Number
  | [] => []
  | v :: rest => numbers v ++ itemNumbers rest

/-- The numbers that stand in the members of an object. -/
def memberNumbers : List (String × Json) → List Number
  | [] => []
  | (_, v) :: rest => numbers v ++ memberNumbers rest

end

mutual

/-- A value with its numbers replaced. -/
def mapNumbers (f : Number → Number) : Json → Json
  | .null => .null
  | .boolean b => .boolean b
  | .number n => .number (f n)
  | .text s => .text s
  | .list items => .list (mapItemNumbers f items)
  | .object members => .object (mapMemberNumbers f members)

/-- The items of a list with their numbers replaced. -/
def mapItemNumbers (f : Number → Number) : List Json → List Json
  | [] => []
  | v :: rest => mapNumbers f v :: mapItemNumbers f rest

/-- The members of an object with their numbers replaced. -/
def mapMemberNumbers (f : Number → Number) : List (String × Json) → List (String × Json)
  | [] => []
  | (k, v) :: rest => (k, mapNumbers f v) :: mapMemberNumbers f rest

end

mutual

/-- A value with its numbers replaced by themselves. -/
@[simp]
theorem mapNumbers_id (v : Json) : mapNumbers id v = v := by
  cases v with
  | list items => rw [mapNumbers, mapItemNumbers_id items]
  | object members => rw [mapNumbers, mapMemberNumbers_id members]
  | _ => rfl

theorem mapItemNumbers_id (items : List Json) : mapItemNumbers id items = items := by
  cases items with
  | nil => rfl
  | cons v rest => rw [mapItemNumbers, mapNumbers_id v, mapItemNumbers_id rest]

theorem mapMemberNumbers_id (members : List (String × Json)) :
    mapMemberNumbers id members = members := by
  cases members with
  | nil => rfl
  | cons m rest =>
    obtain ⟨k, v⟩ := m
    rw [mapMemberNumbers, mapNumbers_id v, mapMemberNumbers_id rest]

end

/-- The text of a number alone is one token, of this number or another. -/
def Number.ReadsAs (n other : Number) : Prop := Token.ofChars n.text = [.number (.ok other)]

/-- The text of a number alone is one token. -/
def Number.IsToken (n : Number) : Prop := Token.ofChars n.text = [.number (.ok n)]

/-- The number that a token is. -/
def Token.number? : Token → Option Number
  | .number (.ok n) => some n
  | _ => none

theorem Token.number?_eq_some_iff {t : Token} {n : Number} :
    t.number? = some n ↔ t = .number (.ok n) := by
  cases t with
  | number v => cases v <;> simp [number?]
  | _ => simp [number?]

theorem Number.isToken_iff {n : Number} :
    n.IsToken ↔ (Token.ofChars n.text).map Token.number? = [some n] := by
  unfold IsToken
  rw [List.map_eq_singleton_iff]
  simp only [Token.number?_eq_some_iff, exists_eq_right]

instance (n : Number) : Decidable n.IsToken := decidable_of_iff _ Number.isToken_iff.symm

namespace Scan

/-- A character that is a token by itself. -/
theorem tokens_of_start {c : Char} {t : Token} (h : start c = ([t], idle)) (cs : List Char) :
    idle.tokens (c :: cs) = t :: idle.tokens cs := by
  simp only [tokens, step, h, List.cons_append, List.nil_append]

/-- Blanks in front of a text make no tokens. -/
theorem tokens_blanks (n : Nat) (cs : List Char) :
    idle.tokens (List.replicate n ' ' ++ cs) = idle.tokens cs := by
  induction n with
  | zero => rfl
  | succ n ih =>
    rw [List.replicate_succ, List.cons_append, tokens]
    exact ih

variable {f : Number → Number}

mutual

/-- The text of a value is cut into its tokens, where each number is the one that it is read as. -/
theorem tokens_chars (v : Json) (hn : ∀ n ∈ numbers v, n.ReadsAs (f n)) (rest : List Char)
    (hrest : Stops rest) :
    idle.tokens (chars v ++ rest) = tokensOf (mapNumbers f v) ++ idle.tokens rest := by
  cases v with
  | null => simp [chars, mapNumbers, tokensOf, tokens, step, start, isSpace]
  | boolean b => cases b <;> simp [chars, mapNumbers, tokensOf, tokens, step, start, isSpace]
  | number n => exact tokens_number (hn n (by simp [numbers])) hrest
  | text s => exact tokens_quote s rest
  | list items =>
    have hitems := tokens_itemChars items hn (']' :: rest) (.inr (.inl rfl))
    simp only [chars, mapNumbers, tokensOf, List.cons_append, List.append_assoc, List.nil_append]
    rw [tokens_of_start rfl, hitems, tokens_of_start rfl]
  | object members =>
    have hmembers := tokens_memberChars members hn ('\x7d' :: rest) (.inr (.inr rfl))
    simp only [chars, mapNumbers, tokensOf, List.cons_append, List.append_assoc, List.nil_append]
    rw [tokens_of_start rfl, hmembers, tokens_of_start rfl]

theorem tokens_itemChars (items : List Json) (hn : ∀ n ∈ itemNumbers items, n.ReadsAs (f n))
    (rest : List Char) (hrest : Stops rest) :
    idle.tokens (itemChars items ++ rest) =
      itemTokens (mapItemNumbers f items) ++ idle.tokens rest := by
  cases items with
  | nil => rfl
  | cons v more =>
    have hv : ∀ n ∈ numbers v, n.ReadsAs (f n) := fun n h => hn n (List.mem_append_left _ h)
    have hmore : ∀ n ∈ itemNumbers more, n.ReadsAs (f n) :=
      fun n h => hn n (List.mem_append_right _ h)
    cases more with
    | nil => exact tokens_chars v hv rest hrest
    | cons w others =>
      have hothers := tokens_itemChars (w :: others) hmore rest hrest
      simp only [mapItemNumbers] at hothers
      simp only [itemChars, mapItemNumbers, itemTokens, List.cons_append, List.append_assoc]
      rw [tokens_chars v hv _ (stops_comma _), tokens_of_start rfl, hothers]

theorem tokens_memberChars (members : List (String × Json))
    (hn : ∀ n ∈ memberNumbers members, n.ReadsAs (f n)) (rest : List Char) (hrest : Stops rest) :
    idle.tokens (memberChars members ++ rest) =
      memberTokens (mapMemberNumbers f members) ++ idle.tokens rest := by
  cases members with
  | nil => rfl
  | cons m more =>
    obtain ⟨k, v⟩ := m
    have hv : ∀ n ∈ numbers v, n.ReadsAs (f n) := fun n h => hn n (List.mem_append_left _ h)
    have hmore : ∀ n ∈ memberNumbers more, n.ReadsAs (f n) :=
      fun n h => hn n (List.mem_append_right _ h)
    cases more with
    | nil =>
      simp only [memberChars, mapMemberNumbers, memberTokens, List.cons_append, List.append_assoc]
      rw [tokens_quote, tokens_of_start rfl, tokens_chars v hv rest hrest]
    | cons m' others =>
      have hothers := tokens_memberChars (m' :: others) hmore rest hrest
      simp only [mapMemberNumbers] at hothers
      simp only [memberChars, mapMemberNumbers, memberTokens, List.cons_append, List.append_assoc]
      rw [tokens_quote, tokens_of_start rfl, tokens_chars v hv _ (stops_comma _), tokens_of_start rfl,
        hothers]

end

end Scan

end Storyboard.Json
