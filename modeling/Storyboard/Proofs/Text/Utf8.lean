import Storyboard.Text.Utf8

/-!
# Reading bytes back

The bytes that a text is sent as are read as that text. The decoder is followed through the bytes of
one character: the first one announces how many are to come, and the bounds that it sets for the
second one hold because a character is no surrogate and lies below `0x110000`.
-/

namespace Storyboard.Text

/-! ## One byte -/

namespace Decoding

variable {b low high bits missing : Nat} {rest : List Nat}

theorem run_idle_of_announced (hb : 0x80 ≤ b) (h : announced b = some (missing, low, high, bits)) :
    idle.run (b :: rest) = (inside missing low high bits).run rest := by
  simp [run, step, start, Nat.not_lt.mpr hb, h]

/-- A byte that is not the last one of a character. -/
theorem run_inside_of_more (hlow : low ≤ b) (hhigh : b ≤ high) (hmore : 1 < missing) :
    (inside missing low high bits).run (b :: rest) =
      (inside (missing - 1) 0x80 0xBF (64 * bits + (b - 0x80))).run rest := by
  simp [run, step, hlow, hhigh, Nat.not_le.mpr hmore]

/-- The last byte of a character. -/
theorem run_inside_of_last (hlow : low ≤ b) (hhigh : b ≤ high) :
    (inside 1 low high bits).run (b :: rest) =
      some (Char.ofNat (64 * bits + (b - 0x80))) :: idle.run rest := by
  simp [run, step, hlow, hhigh]

end Decoding

/-! ## What first bytes announce -/

theorem announced_of_two {n : Nat} (hlow : 0x80 ≤ n) (hhigh : n < 0x800) :
    announced (0xC0 + n / 64) = some (1, 0x80, 0xBF, n / 64) := by
  unfold announced
  rw [if_pos (by omega), Nat.add_sub_cancel_left]

theorem announced_of_three {n : Nat} (hlow : 0x800 ≤ n) (hhigh : n < 0x10000)
    (hvalid : n < 0xD800 ∨ 0xDFFF < n) :
    ∃ low high, announced (0xE0 + n / 4096) = some (2, low, high, n / 4096) ∧
      low ≤ 0x80 + n / 64 % 64 ∧ 0x80 + n / 64 % 64 ≤ high := by
  unfold announced
  rw [if_neg (by omega)]
  by_cases hfirst : 0xE0 + n / 4096 = 0xE0
  · rw [if_pos hfirst, show n / 4096 = 0 by omega]
    exact ⟨_, _, rfl, by omega, by omega⟩
  rw [if_neg hfirst]
  by_cases hsurrogate : 0xE0 + n / 4096 = 0xED
  · rw [if_pos hsurrogate, show n / 4096 = 13 by omega]
    exact ⟨_, _, rfl, by omega, by omega⟩
  rw [if_neg hsurrogate, if_pos (by omega), Nat.add_sub_cancel_left]
  exact ⟨_, _, rfl, by omega, by omega⟩

theorem announced_of_four {n : Nat} (hlow : 0x10000 ≤ n) (hhigh : n < 0x110000) :
    ∃ low high, announced (0xF0 + n / 262144) = some (3, low, high, n / 262144) ∧
      low ≤ 0x80 + n / 4096 % 64 ∧ 0x80 + n / 4096 % 64 ≤ high := by
  unfold announced
  rw [if_neg (by omega), if_neg (by omega), if_neg (by omega), if_neg (by omega)]
  by_cases hfirst : 0xF0 + n / 262144 = 0xF0
  · rw [if_pos hfirst, show n / 262144 = 0 by omega]
    exact ⟨_, _, rfl, by omega, by omega⟩
  rw [if_neg hfirst]
  by_cases hlast : 0xF0 + n / 262144 = 0xF4
  · rw [if_pos hlast, show n / 262144 = 4 by omega]
    exact ⟨_, _, rfl, by omega, by omega⟩
  rw [if_neg hlast, if_pos (by omega), Nat.add_sub_cancel_left]
  exact ⟨_, _, rfl, by omega, by omega⟩

/-! ## Characters and texts -/

open Decoding in
theorem run_charBytes (c : Char) (rest : List Nat) :
    idle.run (charBytes c ++ rest) = some c :: idle.run rest := by
  have hvalid : c.toNat < 0xD800 ∨ 0xDFFF < c.toNat ∧ c.toNat < 0x110000 := c.valid
  have hback : ∀ n, n = c.toNat → some (Char.ofNat n) :: idle.run rest = some c :: idle.run rest := by
    rintro n rfl
    rw [Char.ofNat_toNat]
  -- One case for each number of bytes; the bits that the bytes bring add up to the number again.
  unfold charBytes
  by_cases h1 : c.toNat < 0x80
  · simp only [h1, if_true, List.cons_append, List.nil_append, run, step, start]
    exact hback _ rfl
  simp only [h1, if_false]
  by_cases h2 : c.toNat < 0x800
  · simp only [h2, if_true, List.cons_append, List.nil_append]
    rw [run_idle_of_announced (by omega) (announced_of_two (by omega) h2),
      run_inside_of_last (by omega) (by omega)]
    exact hback _ (by omega)
  simp only [h2, if_false]
  by_cases h3 : c.toNat < 0x10000
  · simp only [h3, if_true, List.cons_append, List.nil_append]
    obtain ⟨low, high, hannounced, hlow, hhigh⟩ := announced_of_three (by omega) h3 (by omega)
    rw [run_idle_of_announced (by omega) hannounced, run_inside_of_more hlow hhigh (by omega),
      run_inside_of_last (by omega) (by omega)]
    exact hback _ (by omega)
  simp only [h3, if_false, List.cons_append, List.nil_append]
  obtain ⟨low, high, hannounced, hlow, hhigh⟩ :=
    @announced_of_four c.toNat (by omega) (by omega)
  rw [run_idle_of_announced (by omega) hannounced, run_inside_of_more hlow hhigh (by omega),
    run_inside_of_more (by omega) (by omega) (by omega),
    run_inside_of_last (by omega) (by omega)]
  exact hback _ (by omega)

theorem run_bytes (cs : List Char) : Decoding.idle.run (bytes cs) = cs.map some := by
  induction cs with
  | nil => rfl
  | cons c cs ih =>
    rw [bytes, List.flatMap_cons, run_charBytes, ← bytes, ih, List.map_cons]

/-- A text is read back from the bytes that it is sent as. -/
theorem ofBytes?_bytes (cs : List Char) : ofBytes? (bytes cs) = some cs := by
  rw [ofBytes?, run_bytes]
  induction cs with
  | nil => rfl
  | cons c cs ih => simp [List.mapM_cons, ih]

theorem eq_map_some_of_mapM_id {os : List (Option Char)} {cs : List Char}
    (h : os.mapM id = some cs) : os = cs.map some := by
  induction os generalizing cs with
  | nil =>
    obtain rfl : [] = cs := by simpa using h
    rfl
  | cons o os ih =>
    simp only [List.mapM_cons, Option.bind_eq_bind, Option.bind_eq_some_iff, id_eq] at h
    obtain ⟨c, rfl, rest, hrest, hcs⟩ := h
    obtain rfl := Option.some.inj hcs
    rw [ih hrest, List.map_cons]

/-- If bytes are those of a text, that text is read, stray bytes or not. -/
theorem ofBytesLossy_of_ofBytes? {bs : List Nat} {cs : List Char} (h : ofBytes? bs = some cs) :
    ofBytesLossy bs = cs := by
  unfold ofBytesLossy
  rw [eq_map_some_of_mapM_id h, List.map_map]
  exact List.map_id cs

/-- As long as characters come out, it does not matter what would be said about stray bytes. -/
theorem Decoding.runEach_of_run {d : Decoding} {bs : List Nat} {cs : List Char}
    (h : d.run bs = cs.map some) (begun : Nat) : d.runEach begun bs = cs.map some := by
  induction bs generalizing d cs begun with
  | nil =>
    cases d with
    | idle => exact h
    | inside missing low high bits => cases cs <;> simp [run] at h
  | cons b bs ih =>
    have hstep : (d.step b).1 ++ (d.step b).2.run bs = cs.map some := by
      cases d <;> exact h
    obtain ⟨now, later, rfl, hnow, hlater⟩ := List.append_eq_map_iff.mp hstep
    rw [List.map_append, hnow]
    unfold runEach
    by_cases hon : d.goesOn b = true
    · rw [if_pos hon, ih hlater.symm]
    · rw [if_neg hon]
      cases d with
      | idle =>
        rw [broken, List.nil_append]
        exact congrArg ((start b).1 ++ ·) (ih hlater.symm 1)
      | inside missing low high bits =>
        -- a character that does not go on would have come out as a stray piece
        have hbroken : (step (.inside missing low high bits) b).1 = none :: (start b).1 := by
          rw [step, if_neg (by simpa [goesOn] using hon)]
        cases now <;> simp [hbroken] at hnow

theorem decoded_of_ofBytes? {bs : List Nat} {cs : List Char} (h : ofBytes? bs = some cs) :
    decoded bs = cs.map some :=
  Decoding.runEach_of_run (eq_map_some_of_mapM_id h) 0

/-! ## Bounds -/

theorem bytes_append (cs ds : List Char) : bytes (cs ++ ds) = bytes cs ++ bytes ds :=
  List.flatMap_append

theorem length_charBytes_le (c : Char) : (charBytes c).length ≤ 4 := by
  simp only [charBytes]
  split
  · simp
  split
  · simp
  split <;> simp

theorem length_bytes_le (cs : List Char) : (bytes cs).length ≤ 4 * cs.length := by
  induction cs with
  | nil => exact Nat.le_refl 0
  | cons c cs ih =>
    have hc := length_charBytes_le c
    rw [bytes, List.flatMap_cons, ← bytes, List.length_append, List.length_cons]
    omega

theorem charBytes_ne_nil (c : Char) : charBytes c ≠ [] := by
  simp only [charBytes]
  split
  · simp
  split
  · simp
  split <;> simp

theorem charBytes_lt (c : Char) : ∀ b ∈ charBytes c, b < 256 := by
  have hvalid : c.toNat < 0xD800 ∨ 0xDFFF < c.toNat ∧ c.toNat < 0x110000 := c.valid
  intro b hb
  simp only [charBytes] at hb
  split at hb
  · simp only [List.mem_singleton] at hb
    omega
  split at hb
  · simp only [List.mem_cons, List.not_mem_nil, or_false] at hb
    omega
  split at hb <;> simp only [List.mem_cons, List.not_mem_nil, or_false] at hb <;> omega

theorem bytes_lt (cs : List Char) : ∀ b ∈ bytes cs, b < 256 := by
  intro b hb
  obtain ⟨c, -, hc⟩ := List.mem_flatMap.mp hb
  exact charBytes_lt c b hc

theorem charBytes_of_lt {c : Char} (h : c.toNat < 0x80) : charBytes c = [c.toNat] := by
  simp [charBytes, h]

/-- Plain characters are sent as their numbers. -/
theorem bytes_of_lt {cs : List Char} (h : ∀ c ∈ cs, c.toNat < 0x80) :
    bytes cs = cs.map Char.toNat := by
  induction cs with
  | nil => rfl
  | cons c cs ih =>
    rw [bytes, List.flatMap_cons, charBytes_of_lt (h c (by simp)), ← bytes,
      ih fun d hd => h d (by simp [hd])]
    rfl

end Storyboard.Text
