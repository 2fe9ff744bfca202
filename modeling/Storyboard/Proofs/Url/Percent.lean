import Storyboard.Proofs.Text.Utf8
import Storyboard.Url.Percent

/-!
# Undoing the percent encoding

Bytes without a percent sign stand for themselves, and a byte written as a percent sign and two
digits comes back. So every text can be written as one segment of a path, whatever slashes and
percent signs it has.
-/

namespace Storyboard.Url

theorem percentDecode_cons_of_ne {b : Nat} (h : b ≠ 37) (rest : List Nat) :
    percentDecode (b :: rest) = b :: percentDecode rest := by
  rw [percentDecode]
  rintro _ _ _ rfl
  exact absurd rfl h

/-- What has no percent sign is not changed. -/
theorem percentDecode_of_not_mem {bs : List Nat} (h : 37 ∉ bs) : percentDecode bs = bs := by
  induction bs with
  | nil => rfl
  | cons b bs ih =>
    rw [List.mem_cons, not_or] at h
    rw [percentDecode_cons_of_ne (Ne.symm h.1), ih h.2]

/-! ## Encoded bytes -/

theorem toNat_upperHexDigit_lt : ∀ n < 16, (Text.upperHexDigit n).toNat < 0x80 := by decide

theorem hexValue_upperHexDigit :
    ∀ n < 16, Text.hexValue (Char.ofNat (Text.upperHexDigit n).toNat) = some n := by decide

theorem upperHexDigit_ne_slash : ∀ n < 16, Text.upperHexDigit n ≠ '/' := by decide

/-- Every byte of a text as a percent sign and two digits. -/
def encoded (cs : List Char) : List Char := (Text.bytes cs).flatMap percentByte

/-- A digit of a byte is one of sixteen. -/
theorem exists_of_mem_percentByte {b : Nat} (hb : b < 256) {c : Char} (hc : c ∈ percentByte b) :
    c = '%' ∨ ∃ n < 16, c = Text.upperHexDigit n := by
  simp only [percentByte, List.mem_cons, List.not_mem_nil, or_false] at hc
  rcases hc with rfl | rfl | rfl
  · exact .inl rfl
  · exact .inr ⟨_, by omega, rfl⟩
  · exact .inr ⟨_, by omega, rfl⟩

theorem exists_of_mem_encoded {cs : List Char} {c : Char} (hc : c ∈ encoded cs) :
    c = '%' ∨ ∃ n < 16, c = Text.upperHexDigit n := by
  obtain ⟨b, hb, hc⟩ := List.mem_flatMap.mp hc
  exact exists_of_mem_percentByte (Text.bytes_lt cs b hb) hc

theorem slash_not_mem_encoded (cs : List Char) : '/' ∉ encoded cs := by
  intro h
  rcases exists_of_mem_encoded h with h | ⟨n, hn, h⟩
  · exact absurd h (by decide)
  · exact upperHexDigit_ne_slash n hn h.symm

theorem percentDecode_percentByte {b : Nat} (hb : b < 256) (rest : List Nat) :
    percentDecode ((percentByte b).map Char.toNat ++ rest) = b :: percentDecode rest := by
  have hhigh := hexValue_upperHexDigit (b / 16) (by omega)
  have hlow := hexValue_upperHexDigit (b % 16) (by omega)
  show percentDecode (37 :: _ :: _ :: rest) = _
  simp only [percentDecode, hhigh, hlow]
  rw [show 16 * (b / 16) + b % 16 = b by omega]

theorem percentDecode_flatMap {bs : List Nat} (h : ∀ b ∈ bs, b < 256) :
    percentDecode ((bs.flatMap percentByte).map Char.toNat) = bs := by
  induction bs with
  | nil => rfl
  | cons b bs ih =>
    rw [List.flatMap_cons, List.map_append, percentDecode_percentByte (h b (by simp)),
      ih fun d hd => h d (by simp [hd])]

/-- A text comes back from its encoded bytes. -/
theorem percentDecode_encoded (cs : List Char) :
    percentDecode (Text.bytes (encoded cs)) = Text.bytes cs := by
  have hplain : ∀ c ∈ encoded cs, c.toNat < 0x80 := by
    intro c hc
    rcases exists_of_mem_encoded hc with rfl | ⟨n, hn, rfl⟩
    · decide
    · exact toNat_upperHexDigit_lt n hn
  rw [Text.bytes_of_lt hplain, encoded, percentDecode_flatMap (Text.bytes_lt cs)]

theorem head?_encoded {cs : List Char} (h : cs ≠ []) : (encoded cs).head? = some '%' := by
  obtain ⟨c, cs, rfl⟩ := List.exists_cons_of_ne_nil h
  obtain ⟨b, bs, hbytes⟩ := List.exists_cons_of_ne_nil (Text.charBytes_ne_nil c)
  simp [encoded, Text.bytes, hbytes, percentByte]

end Storyboard.Url
