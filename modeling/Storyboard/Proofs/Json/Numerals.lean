import Mathlib.Algebra.Order.Ring.Nat
import Storyboard.Proofs.Json.Scanning

/-!
# Reading decimals

A decimal with a point is read digit by digit, and its digits make one whole number that is divided
once by a power of ten. `Number.isToken_of_decimal` puts this in terms of what is to come out: the
text is one token of a double if that double is the quotient of the two.
-/

namespace Storyboard.Json

/-! ## Digits -/

/-- Digits before a point: a zero alone, or digits that do not start with one. -/
inductive IsWhole : List Char → Prop
  /-- A zero alone. -/
  | zero : IsWhole ['0']
  /-- A first digit and others. -/
  | digits {c : Char} {cs : List Char} (digit : Text.isDigit c = true) (ne_zero : c ≠ '0')
      (others : ∀ d ∈ cs, Text.isDigit d = true) : IsWhole (c :: cs)

theorem isDigit_toDigits {n : Nat} {c : Char} (h : c ∈ Nat.toDigits 10 n) :
    Text.isDigit c = true := by
  have hdigit := Nat.isDigit_of_mem_toDigits (by decide) (by decide) h
  simp only [Char.isDigit, Bool.and_eq_true, decide_eq_true_eq, ge_iff_le, UInt32.le_iff_toNat_le]
    at hdigit
  simp only [Text.isDigit, Bool.and_eq_true, decide_eq_true_eq]
  exact hdigit

/-- The digits of a positive number do not start with a zero. -/
theorem exists_toDigits_eq_cons {n : Nat} (hn : 0 < n) :
    ∃ c cs, Nat.toDigits 10 n = c :: cs ∧ c ≠ '0' := by
  induction n using Nat.strongRecOn with
  | ind n ih =>
    rw [Nat.toDigits_eq_if (by decide)]
    split
    · exact ⟨_, _, rfl, fun h => Nat.ne_of_gt hn (Nat.digitChar_eq_zero.mp h)⟩
    · obtain ⟨c, cs, hcons, hne⟩ := ih (n / 10) (by omega) (by omega)
      exact ⟨c, _, by rw [hcons, List.cons_append], hne⟩

/-- The digits of a positive number, some or all of them, and others behind them. -/
theorem isWhole_of_toDigits {n : Nat} {ws rest : List Char} (hn : 0 < n) (hne : ws ≠ [])
    (hws : ws <+: Nat.toDigits 10 n) (hrest : ∀ c ∈ rest, Text.isDigit c = true) :
    IsWhole (ws ++ rest) := by
  obtain ⟨more, hdigits⟩ := hws
  obtain ⟨c, cs, hcons, hzero⟩ := exists_toDigits_eq_cons hn
  have hall : ∀ d ∈ ws, Text.isDigit d = true := fun d hd =>
    isDigit_toDigits (hdigits ▸ List.mem_append_left more hd)
  cases ws with
  | nil => exact absurd rfl hne
  | cons w ws =>
    obtain ⟨rfl, -⟩ : w = c ∧ ws ++ more = cs := by
      exact List.cons.inj (hdigits.trans hcons)
    refine .digits (hall w List.mem_cons_self) hzero fun d hd => ?_
    rcases List.mem_append.mp hd with hd | hd
    · exact hall d (List.mem_cons_of_mem _ hd)
    · exact hrest d hd

/-! ## The text of a number -/

namespace Numeral

/-- The characters that write the parts of a number. -/
def chars (p : Numeral) : List Char :=
  (if p.negative then ['-'] else []) ++ p.whole ++
    (match p.fraction with
      | none => []
      | some fs => '.' :: fs) ++
    match p.power with
      | none => []
      | some (down, ds) => 'e' :: (if down then ['-'] else []) ++ ds

/-- The parts are digits, and none of them is empty. -/
structure IsWritten (p : Numeral) : Prop where
  whole : IsWhole p.whole
  fraction : ∀ fs, p.fraction = some fs → fs ≠ [] ∧ ∀ c ∈ fs, Text.isDigit c = true
  power : ∀ down ds, p.power = some (down, ds) → ds ≠ [] ∧ ∀ c ∈ ds, Text.isDigit c = true

theorem isWritten_plain {negative : Bool} {ws fs : List Char} (hws : IsWhole ws)
    (hfs : ∀ c ∈ fs, Text.isDigit c = true) (hne : fs ≠ []) :
    IsWritten ⟨negative, ws, some fs, none⟩ where
  whole := hws
  fraction := by
    rintro _ ⟨⟩
    exact ⟨hne, hfs⟩
  power := by simp

end Numeral

namespace Scan

variable {negative down : Bool} {cs : List Char}

theorem start_digit {c : Char} (hdigit : Text.isDigit c = true) (hzero : c ≠ '0') :
    start c = ([], whole false [c]) := by
  have hne : ∀ other, Text.isDigit other = false → c ≠ other := by
    rintro other hother rfl
    exact absurd hdigit (by simp [hother])
  simp [start, isSpace, hdigit, hzero, hne ' ' rfl, hne '\n' rfl, hne '\t' rfl, hne '\r' rfl,
    hne '[' rfl, hne ']' rfl, hne '\x7b' rfl, hne '\x7d' rfl, hne ',' rfl, hne ':' rfl,
    hne 'n' rfl, hne 't' rfl, hne 'f' rfl, hne '-' rfl]

/-- Digits are collected in a state that collects each of them. -/
theorem tokens_digits {collect : List Char → Scan}
    (hstep : ∀ c ds, Text.isDigit c = true → step (collect ds) c = ([], collect (c :: ds)))
    (hcs : ∀ c ∈ cs, Text.isDigit c = true) (digits rest : List Char) :
    (collect digits).tokens (cs ++ rest) = (collect (cs.reverse ++ digits)).tokens rest := by
  induction cs generalizing digits with
  | nil => rfl
  | cons c cs ih =>
    rw [List.cons_append, tokens, hstep c digits (hcs c List.mem_cons_self), List.nil_append,
      ih (fun d hd => hcs d (List.mem_cons_of_mem _ hd)), List.reverse_cons, List.append_assoc]
    rfl

/-- Behind the digits before the point: what may follow them, and what they are alone. -/
theorem exists_behind_whole {ws : List Char} (hws : IsWhole ws) (negative : Bool) :
    ∃ s : Scan, s.finish = [numeral negative ws.reverse none none] ∧
      (∀ c, Text.isDigit c = false → step s c = afterWhole negative ws.reverse c) ∧
      ∀ rest, idle.tokens ((if negative then ['-'] else []) ++ ws ++ rest) = s.tokens rest := by
  cases hws with
  | zero =>
    refine ⟨zero negative, rfl, fun c hc => by simp [step, hc], fun rest => ?_⟩
    cases negative <;> rfl
  | @digits c cs digit ne_zero others =>
    refine ⟨whole negative (cs.reverse ++ [c]), by simp [finish], fun d hd => ?_, fun rest => ?_⟩
    · simp [step, hd]
    · have hstep : ∀ d ds, Text.isDigit d = true →
          step (whole negative ds) d = ([], whole negative (d :: ds)) := by
        intro d ds hd
        simp [step, hd]
      have hfirst : ∀ more, idle.tokens ((if negative then ['-'] else []) ++ c :: more) =
          (whole negative [c]).tokens more := by
        intro more
        cases negative with
        | false =>
          have hstart : step idle c = ([], whole false [c]) := start_digit digit ne_zero
          simp [tokens, hstart]
        | true =>
          have hminus : step minus c = ([], whole true [c]) := by simp [step, ne_zero, digit]
          have hsign : step idle '-' = ([], minus) := rfl
          simp [tokens, hsign, hminus]
      rw [List.append_assoc, List.cons_append, hfirst, tokens_digits hstep others]

/-- Digits behind the point: what may follow them, and what they are alone. -/
theorem tokens_fraction {fs rest : List Char} (hfs : ∀ c ∈ fs, Text.isDigit c = true)
    (front : List Char) :
    (fraction negative front []).tokens (fs ++ rest) =
      (fraction negative front fs.reverse).tokens rest := by
  have hstep : ∀ c ds, Text.isDigit c = true →
      step (fraction negative front ds) c = ([], fraction negative front (c :: ds)) := by
    intro c ds hc
    simp [step, hc]
  rw [tokens_digits hstep hfs, List.append_nil]

/-- The sign and the digits of an exponent up to the end of the text. -/
theorem tokens_power {ds : List Char} (hds : ∀ c ∈ ds, Text.isDigit c = true) (hne : ds ≠ [])
    (front : List Char) (back : Option (List Char)) :
    (powerMark negative front back).tokens ((if down then ['-'] else []) ++ ds) =
      [numeral negative front back (some (down, ds.reverse))] := by
  obtain ⟨d, ds, rfl⟩ := List.exists_cons_of_ne_nil hne
  obtain ⟨hd, hds⟩ := List.forall_mem_cons.mp hds
  have hstep : ∀ c digits, Text.isDigit c = true →
      step (power negative front back down digits) c =
        ([], power negative front back down (c :: digits)) := by
    intro c digits hc
    simp [step, hc]
  have hfirst : (powerMark negative front back).tokens ((if down then ['-'] else []) ++ d :: ds) =
      (power negative front back down [d]).tokens ds := by
    cases down with
    | false =>
      have hplus : d ≠ '+' := by
        rintro rfl
        exact absurd hd (by decide)
      have hminus : d ≠ '-' := by
        rintro rfl
        exact absurd hd (by decide)
      have hdigit : step (powerMark negative front back) d =
          ([], power negative front back false [d]) := by
        simp [step, hplus, hminus, hd]
      simp [tokens, hdigit]
    | true =>
      have hsign : step (powerMark negative front back) '-' =
          ([], powerSign negative front back true) := rfl
      have hdigit : step (powerSign negative front back true) d =
          ([], power negative front back true [d]) := by
        simp [step, hd]
      simp [tokens, hsign, hdigit]
  have hrest := tokens_digits hstep hds [d] []
  rw [List.append_nil] at hrest
  rw [hfirst, hrest, List.reverse_cons]
  rfl

/-- What is written for the parts of a number is one token, of the number that they write. -/
theorem tokens_numeral {p : Numeral} (h : p.IsWritten) :
    Token.ofChars p.chars = [.number p.value] := by
  obtain ⟨negative, ws, back, exponent⟩ := p
  obtain ⟨hws, hfraction, hpower⟩ := h
  dsimp only at hws hfraction hpower
  obtain ⟨s, hfinish, hnext, hwhole⟩ := exists_behind_whole hws negative
  unfold Token.ofChars Numeral.chars
  simp only [List.append_assoc] at hwhole ⊢
  rw [hwhole]
  have hpoint : ∀ rest, s.tokens ('.' :: rest) = (fraction negative ws.reverse []).tokens rest := by
    intro rest
    rw [tokens, hnext '.' (by decide)]
    rfl
  have hmark : ∀ rest, s.tokens ('e' :: rest) = (powerMark negative ws.reverse none).tokens rest := by
    intro rest
    rw [tokens, hnext 'e' (by decide)]
    rfl
  cases back with
  | none =>
    cases exponent with
    | none => simp [tokens, hfinish, numeral]
    | some e =>
      obtain ⟨down, ds⟩ := e
      obtain ⟨hne, hds⟩ := hpower down ds rfl
      simp only [List.nil_append, List.cons_append]
      rw [hmark, tokens_power hds hne]
      simp [numeral]
  | some fs =>
    obtain ⟨hne, hfs⟩ := hfraction fs rfl
    dsimp only
    rw [List.cons_append, hpoint, tokens_fraction hfs]
    cases exponent with
    | none => simp [tokens, finish, hne, numeral]
    | some e =>
      obtain ⟨down, ds⟩ := e
      obtain ⟨hne', hds⟩ := hpower down ds rfl
      have hstep : step (fraction negative ws.reverse fs.reverse) 'e' =
          ([], powerMark negative ws.reverse (some fs.reverse)) := by
        simp [step, hne, show Text.isDigit 'e' = false by decide]
      simp only [List.cons_append]
      rw [tokens, hstep, List.nil_append, tokens_power hds hne']
      simp [numeral]

end Scan

/-! ## The value of a decimal -/

/-- The whole number that digits write behind those that were read before. -/
def readOn (n : Nat) (cs : List Char) : Nat := cs.foldl (fun n c => 10 * n + Text.digitValue c) n

theorem readOn_append (n : Nat) (cs ds : List Char) :
    readOn n (cs ++ ds) = readOn (readOn n cs) ds := List.foldl_append

theorem le_readOn (n : Nat) (cs : List Char) : n ≤ readOn n cs := by
  induction cs generalizing n with
  | nil => exact Nat.le_refl n
  | cons c cs ih =>
    have hle : n ≤ 10 * n + Text.digitValue c := by omega
    exact Nat.le_trans hle (ih _)

theorem readOn_toDigits (n : Nat) : readOn 0 (Nat.toDigits 10 n) = n := by
  have hvalue := @Nat.ofDigitChars_ten_toDigits n
  rw [Nat.ofDigitChars_eq_foldl] at hvalue
  exact hvalue

theorem readOn_zeros (n k : Nat) : readOn n (Layout.zeros k) = n * 10 ^ k := by
  induction k generalizing n with
  | zero => simp [readOn, Layout.zeros]
  | succ k ih =>
    have hstep : readOn n (Layout.zeros (k + 1)) = readOn (10 * n + 0) (Layout.zeros k) := rfl
    rw [hstep, ih, Nat.add_zero, Nat.mul_comm 10 n, Nat.mul_assoc, ← Nat.pow_succ']

namespace Numeral

theorem takeWhole_eq {cs : List Char} {n : Nat} (h : readOn n cs < 18446744073709551616) :
    takeWhole cs n = (readOn n cs, 0) := by
  induction cs generalizing n with
  | nil => rfl
  | cons c cs ih =>
    have hle := Nat.lt_of_le_of_lt (le_readOn (10 * n + Text.digitValue c) cs) h
    have hfits : overflows n (Text.digitValue c) = false := by
      simpa [overflows] using hle
    unfold takeWhole
    rw [hfits]
    exact ih h

theorem takeFraction_eq {cs : List Char} {n : Nat} (taken : Nat)
    (h : readOn n cs < 18446744073709551616) :
    takeFraction cs n taken = (readOn n cs, taken + cs.length) := by
  induction cs generalizing n taken with
  | nil => rfl
  | cons c cs ih =>
    have hle := Nat.lt_of_le_of_lt (le_readOn (10 * n + Text.digitValue c) cs) h
    have hfits : overflows n (Text.digitValue c) = false := by
      simpa [overflows] using hle
    unfold takeFraction
    rw [hfits]
    refine (ih (taken + 1) h).trans ?_
    rw [List.length_cons, Nat.add_assoc, Nat.add_comm 1]
    rfl

/-- A whole number that is divided by a power of ten. -/
theorem toDouble_neg {n k : Nat} (hk : 0 < k) (hk' : k ≤ 308) :
    toDouble false n (-(k : Int)) = .ok (Double.ofNat n / Double.ofNat (10 ^ k)) := by
  have habs : (-(k : Int)).natAbs = k := by omega
  unfold toDouble scaled
  rw [habs, if_pos hk']
  simp only [if_neg (by omega : ¬(0 : Int) ≤ -(k : Int)), Except.map, Nat.pow_eq,
    Bool.false_eq_true, if_false]

/-- The digits around a point make one number, which is scaled once. -/
theorem value_plain {negative : Bool} {ws fs : List Char}
    (h : readOn 0 (ws ++ fs) < 18446744073709551616) :
    value ⟨negative, ws, some fs, none⟩ =
      (toDouble negative (readOn 0 (ws ++ fs)) (-(fs.length : Int))).map .double := by
  rw [readOn_append] at h ⊢
  have hwhole := @takeWhole_eq ws 0 (Nat.lt_of_le_of_lt (le_readOn _ _) h)
  unfold value
  simp only [hwhole, Option.getD_some, takeFraction_eq 0 h, Nat.zero_add, Int.natCast_zero,
    Int.zero_sub]

/-- An exponent is added to the places behind the point. -/
theorem value_power {negative down : Bool} {ws ds : List Char} {back : Option (List Char)}
    (h : readOn 0 (ws ++ back.getD []) < 18446744073709551616) (hsize : readOn 0 ds < 2147483648) :
    value ⟨negative, ws, back, some (down, ds)⟩ =
      (toDouble negative (readOn 0 (ws ++ back.getD []))
        (-((back.getD []).length : Int) +
          if down then -(readOn 0 ds : Int) else readOn 0 ds)).map .double := by
  rw [readOn_append] at h ⊢
  have hwhole := @takeWhole_eq ws 0 (Nat.lt_of_le_of_lt (le_readOn _ _) h)
  have hdigits : Text.decimalValue ds = readOn 0 ds := rfl
  unfold value
  simp only [hwhole, takeFraction_eq 0 h, Nat.zero_add, Int.natCast_zero, Int.zero_sub, hdigits,
    if_neg (Nat.not_le_of_lt hsize)]

/-- Far behind the point there is nothing left. -/
theorem value_power_down {negative : Bool} {ws ds : List Char} {back : Option (List Char)}
    (hsize : 2147483648 ≤ readOn 0 ds) :
    value ⟨negative, ws, back, some (true, ds)⟩ =
      .ok (.double (if negative then -Double.zero else Double.zero)) := by
  have hdigits : Text.decimalValue ds = readOn 0 ds := rfl
  unfold value
  simp only [hdigits, if_pos hsize, Bool.not_true, Bool.false_eq_true, and_false, if_false]

/-- The digits of a decimal make one number, which is divided once. -/
theorem value_decimal {ws fs : List Char} (h : readOn 0 (ws ++ fs) < 18446744073709551616)
    (hne : fs ≠ []) (hlength : fs.length ≤ 308) :
    value ⟨false, ws, some fs, none⟩ =
      .ok (.double (Double.ofNat (readOn 0 (ws ++ fs)) / Double.ofNat (10 ^ fs.length))) := by
  rw [value_plain h, toDouble_neg (List.length_pos_iff.mpr hne) hlength]
  rfl

end Numeral

/-- A text with a point is one token if its digits, divided by the power of ten that the point
stands for, make the number that it is of. -/
theorem Number.isToken_of_decimal {d : Double} {ws fs : List Char}
    (htext : (Number.double d).text = ws ++ '.' :: fs) (hws : IsWhole ws)
    (hfs : ∀ c ∈ fs, Text.isDigit c = true) (hne : fs ≠ []) (hlength : fs.length ≤ 308)
    (hfits : readOn 0 (ws ++ fs) < 18446744073709551616)
    (hvalue : Double.ofNat (readOn 0 (ws ++ fs)) / Double.ofNat (10 ^ fs.length) = d) :
    (Number.double d).IsToken := by
  have hwritten : Numeral.IsWritten ⟨false, ws, some fs, none⟩ :=
    Numeral.isWritten_plain hws hfs hne
  have htokens := Scan.tokens_numeral hwritten
  rw [Numeral.value_decimal hfits hne hlength, hvalue] at htokens
  have hchars : (Number.double d).text = Numeral.chars ⟨false, ws, some fs, none⟩ := by
    simp [htext, Numeral.chars]
  rw [IsToken, hchars]
  exact htokens

end Storyboard.Json
