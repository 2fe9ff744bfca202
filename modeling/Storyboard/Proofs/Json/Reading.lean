import Storyboard.Json.Choice
import Storyboard.Proofs.Json.Building
import Storyboard.Proofs.Outcome

/-!
# Reading what was written

Readers on documents of values. Each reader has a lemma that says what it gets out of a value; for
records and tagged values these are put together member by member, in the way in which the record
and the list of its members are put together.

`Record.Collects` is the invariant of a record whose first members have been read: adding one field
and one member of its name keeps it, whatever the form of the document.
-/

namespace Storyboard.Json

/-! ## Room for nesting -/

mutual

/-- How deep lists and objects of a value are nested. -/
def depth : Json → Nat
  | .null | .boolean _ | .number _ | .text _ => 0
  | .list items => itemDepth items + 1
  | .object members => memberDepth members + 1

/-- How deep the items of a list are nested. -/
def itemDepth : List Json → Nat
  | [] => 0
  | v :: rest => max (depth v) (itemDepth rest)

/-- How deep the members of an object are nested. -/
def memberDepth : List (String × Json) → Nat
  | [] => 0
  | (_, v) :: rest => max (depth v) (memberDepth rest)

end

namespace Doc

mutual

/-- The document of a value that is not too deep has no faults. -/
theorem readError?_ofJson {room : Nat} (v : Json) (h : depth v ≤ room) :
    (ofJson v).readError? room = none := by
  cases v with
  | null | boolean _ | number _ | text _ => rfl
  | list items =>
    simp only [depth] at h
    have hroom : room ≠ 0 := by omega
    simp only [ofJson, readError?, hroom, if_false]
    rw [itemError?_ofItems items (by omega)]
    rfl
  | object members =>
    simp only [depth] at h
    have hroom : room ≠ 0 := by omega
    simp only [ofJson, readError?, hroom, if_false]
    rw [memberError?_ofMembers members (by omega)]
    rfl

theorem itemError?_ofItems {room index : Nat} (items : List Json) (h : itemDepth items ≤ room) :
    itemError? room index (ofItems items) = none := by
  cases items with
  | nil => rfl
  | cons v rest =>
    simp only [itemDepth] at h
    simp only [ofItems, itemError?]
    rw [readError?_ofJson v (by omega), itemError?_ofItems rest (by omega)]
    rfl

theorem memberError?_ofMembers {room : Nat} (members : List (String × Json))
    (h : memberDepth members ≤ room) : memberError? room (ofMembers members) = none := by
  cases members with
  | nil => rfl
  | cons m rest =>
    obtain ⟨k, v⟩ := m
    simp only [memberDepth] at h
    have hv := readError?_ofJson v (by omega : depth v ≤ room)
    have hrest := memberError?_ofMembers rest (by omega : memberDepth rest ≤ room)
    cases v <;>
      · simp only [ofMembers, ofJson, memberError?] at hv hrest ⊢
        rw [hv, hrest]
        rfl

end

mutual

/-- The document of a value can be skipped. -/
theorem skipFault?_ofJson (v : Json) : (ofJson v).skipFault? = none := by
  cases v with
  | null | boolean _ | number _ | text _ => rfl
  | list items =>
    simp only [ofJson, skipFault?, itemSkipFault?_ofItems items]
    rfl
  | object members =>
    simp only [ofJson, skipFault?, memberSkipFault?_ofMembers members]
    rfl

theorem itemSkipFault?_ofItems (items : List Json) : itemSkipFault? (ofItems items) = none := by
  cases items with
  | nil => rfl
  | cons v rest =>
    simp only [ofItems, itemSkipFault?, skipFault?_ofJson v, itemSkipFault?_ofItems rest]
    rfl

theorem memberSkipFault?_ofMembers (members : List (String × Json)) :
    memberSkipFault? (ofMembers members) = none := by
  cases members with
  | nil => rfl
  | cons m rest =>
    obtain ⟨k, v⟩ := m
    simp only [ofMembers, memberSkipFault?, skipFault?_ofJson v, memberSkipFault?_ofMembers rest]
    rfl

end

end Doc

/-- A form of a document leaves room for so many more lists and objects inside each other. -/
def Form.HasRoom (levels : Nat) : Form → Prop
  | .text room => levels ≤ room
  | .value | .setAside => True

theorem Form.HasRoom.mono {form : Form} {a b : Nat} (h : form.HasRoom b) (hab : a ≤ b) :
    form.HasRoom a := by
  cases form with
  | text room => exact Nat.le_trans hab h
  | value | setAside => trivial

/-- Where there is room, a list or an object can be entered. -/
theorem Form.HasRoom.enter {form : Form} {levels : Nat} (h : form.HasRoom (levels + 1)) :
    ∃ inner, form.enter = .ok inner ∧ inner.HasRoom levels := by
  cases form with
  | text room =>
    cases room with
    | zero => exact absurd h (by simp [HasRoom])
    | succ room => exact ⟨.text room, rfl, Nat.le_of_succ_le_succ h⟩
  | value => exact ⟨.value, rfl, trivial⟩
  | setAside => exact ⟨.setAside, rfl, trivial⟩

/-! ## Single values -/

namespace Reader

variable {α : Type}

/-- A reader gets a result out of a value. -/
def Gets (r : Reader α) (form : Form) (v : Json) (a : α) : Prop :=
  r.read form (Doc.ofJson v) = .ok a

variable {form : Form}

theorem gets_string (s : String) : string.Gets form (.text s) s := rfl

theorem gets_double (d : Double) : double.Gets form (.double d) d := rfl

/-- A word is read as the value that it stands for. -/
theorem gets_vocabulary [Vocabulary α] {a : α}
    (h : Vocabulary.ofWord? (Vocabulary.word a) = some a) :
    vocabulary.Gets form (.text (Vocabulary.word a)) a := by
  have hlookUp : lookUp (Vocabulary.word a) = .ok a := by
    unfold lookUp
    rw [h]
  cases form <;> exact hlookUp

/-- An optional value is read back if its value is, and is not taken for a missing one. -/
theorem gets_optional {r : Reader α} {f : α → Json} {x : Option α}
    (h : ∀ a, x = some a → f a ≠ .null ∧ r.Gets form (f a) a) :
    r.optional.Gets form (.ofOption f x) x := by
  cases x with
  | none => rfl
  | some a =>
    obtain ⟨hnull, hread⟩ := h a rfl
    unfold Gets at hread ⊢
    simp only [ofOption, optional]
    cases hv : f a with
    | null => exact absurd hv hnull
    | _ =>
      rw [hv] at hread
      simp only [Doc.ofJson] at hread ⊢
      rw [hread]
      rfl

theorem items_of_gets {r : Reader α} {f : α → Json} {as : List α}
    (h : ∀ a ∈ as, r.Gets form (f a) a) (i : Nat) :
    items r form (Doc.ofItems (as.map f)) i = .ok as := by
  induction as generalizing i with
  | nil => rfl
  | cons a as ih =>
    have hread : r.read form (Doc.ofJson (f a)) = .ok a := h a List.mem_cons_self
    simp only [List.map_cons, Doc.ofItems, items]
    rw [hread, ih (fun b hb => h b (List.mem_cons_of_mem _ hb))]
    rfl

/-- A list is read back if all its items are. -/
theorem gets_list {r : Reader α} {inner : Form} {f : α → Json} {as : List α}
    (henter : form.enter = .ok inner) (h : ∀ a ∈ as, r.Gets inner (f a) a) :
    r.list.Gets form (.list (as.map f)) as := by
  unfold Gets
  simp only [Doc.ofJson, list]
  rw [henter, ok_bind, items_of_gets h]
  rfl

/-- A member is read like a value. -/
theorem Gets.member {r : Reader α} {v : Json} {a : α} (h : r.Gets form v a) (name : String) :
    r.member form name (Doc.ofJson v) = .ok a := by
  have hread : within (.member name) (r.read form (Doc.ofJson v)) = .ok a := by
    rw [show r.read form (Doc.ofJson v) = .ok a from h]
    rfl
  cases v <;> exact hread

/-- A text is read as its document is, if nothing follows. -/
theorem ofChars_of_doc {cs : List Char} {d : Doc} (h : Doc.ofChars cs = (d, false)) (r : Reader α)
    (more : Bool) : r.ofChars more cs = r.read (.text deepest) d := by
  unfold ofChars ofDoc
  rw [h]
  cases hread : r.read (.text deepest) d <;> simp [hread]

/-- The text of a value is read as the value is in which each number is the one that it is read
as. -/
theorem Gets.ofChars_toText_map {r : Reader α} {v : Json} {f : Number → Number} {a : α}
    (h : r.Gets (.text deepest) (mapNumbers f v) a)
    (hnumbers : ∀ n ∈ numbers v, n.ReadsAs (f n)) (more : Bool) :
    r.ofChars more v.toText.toList = .ok a := by
  unfold toText
  rw [String.toList_ofList, ofChars_of_doc (Doc.ofChars_chars_map hnumbers)]
  exact h

/-- The text of a value is read as the value is, if its numbers are legible. -/
theorem Gets.ofChars_toText {r : Reader α} {v : Json} {a : α} (h : r.Gets (.text deepest) v a)
    (hnumbers : ∀ n ∈ numbers v, n.IsLegible) (more : Bool) :
    r.ofChars more v.toText.toList = .ok a := by
  unfold toText
  rw [String.toList_ofList, ofChars_of_doc (Doc.ofChars_chars hnumbers)]
  exact h

/-- Blanks in front of a text do not matter. -/
theorem ofChars_blanks (r : Reader α) (more : Bool) (n : Nat) (cs : List Char) :
    r.ofChars more (List.replicate n ' ' ++ cs) = r.ofChars more cs := by
  unfold ofChars Doc.ofChars Token.ofChars
  rw [Scan.tokens_blanks]

/-- The bytes of a text are read as the text is. -/
theorem ofBytes_of_ofBytes? {bs : List Nat} {cs : List Char} (h : Text.ofBytes? bs = some cs)
    (r : Reader α) (more : Bool) : r.ofBytes more bs = r.ofChars more cs := by
  unfold ofBytes ofChars Doc.ofBytes Doc.ofChars
  rw [Scan.tokens_ofBytes h]

theorem ofBytes_bytes (r : Reader α) (more : Bool) (cs : List Char) :
    r.ofBytes more (Text.bytes cs) = r.ofChars more cs :=
  ofBytes_of_ofBytes? (Text.ofBytes?_bytes cs) r more

/-- A string that holds a byte which is no text cannot be read. -/
example : string.ofBytes false [0x22, 0xFF, 0x22] = .error (.here (.malformed .notUnicode)) := rfl

end Reader

/-! ## Records -/

namespace Record

variable {σ α β : Type} {form inner : Form}

@[simp]
theorem defaulted_name (name : String) (r : Reader α) (value : α) :
    (Field.defaulted name r value).name = name := rfl

/-- From some members a record collects fields. -/
def Collects (r : Record σ α) (form : Form) (ms : List (String × Json)) (s : σ) : Prop :=
  r.members form (Doc.ofMembers ms) r.blank = .ok s

/-- A new field does not change how members of other names are read. -/
theorem members_field {r : Record σ (β → α)} {f : Field β} {ms : List (String × Json)}
    (hname : f.name ∉ ms.map Prod.fst) {s t : σ}
    (h : r.members form (Doc.ofMembers ms) s = .ok t) (o : Option β)
    (rest : List (String × Json)) :
    (r.field f).members form (Doc.ofMembers (ms ++ rest)) (s, o) =
      (r.field f).members form (Doc.ofMembers rest) (t, o) := by
  induction ms generalizing s with
  | nil =>
    rw [List.nil_append, Except.ok.inj h]
  | cons m ms ih =>
    obtain ⟨k, v⟩ := m
    rw [List.map_cons, List.mem_cons, not_or] at hname
    obtain ⟨hk, hname⟩ := hname
    have hk' : ¬k = f.name := fun he => hk he.symm
    simp only [List.cons_append, Doc.ofMembers, members] at h ⊢
    have hput : (r.field f).put form k (Doc.ofJson v) (s, o) =
        (r.put form k (Doc.ofJson v) s).map fun out => out.map fun t => (t, o) := by
      simp only [field, if_neg hk']
    rw [hput]
    cases hold : r.put form k (Doc.ofJson v) s with
    | none =>
      rw [hold] at h
      simp only [Option.map_none] at h ⊢
      -- the member is skipped, by the longer record as by the shorter one
      cases hform : form.isText with
      | false =>
        simp only [hform, Bool.false_eq_true, if_false] at h ⊢
        exact ih hname h
      | true =>
        simp only [hform, if_true] at h ⊢
        cases v <;>
          · simp only [Doc.ofJson] at h ⊢
            obtain ⟨u, hu, h⟩ := bind_eq_ok_iff.mp h
            rw [hu, ok_bind]
            exact ih hname h
    | some out =>
      rw [hold] at h
      simp only [Option.map_some] at h ⊢
      obtain ⟨u, rfl, h⟩ := bind_eq_ok_iff.mp h
      exact ih hname h

/-- One more field is collected from one more member. -/
theorem Collects.field {r : Record σ (β → α)} {ms : List (String × Json)} {s : σ}
    (h : r.Collects form ms s) {f : Field β} (hname : f.name ∉ ms.map Prod.fst) {v : Json} {b : β}
    (hread : f.reader.Gets form v b) :
    (r.field f).Collects form (ms ++ [(f.name, v)]) (s, some b) := by
  unfold Collects at h ⊢
  rw [show (r.field f).blank = (r.blank, none) from rfl, members_field hname h]
  have hput : (r.field f).put form f.name (Doc.ofJson v) (s, none) = some (.ok (s, some b)) := by
    simp only [Record.field, if_true, Option.isSome_none, Bool.false_eq_true, if_false,
      hread.member f.name]
    rfl
  simp only [Doc.ofMembers, members, hput]
  rfl

/-- The first field is collected from the first member. -/
theorem collects_first {make : β → α} {f : Field β} {v : Json} {b : β}
    (hread : f.reader.Gets form v b) :
    ((Record.of make).field f).Collects form [(f.name, v)] ((), some b) := by
  have hblank : (Record.of make).Collects form [] () := rfl
  exact hblank.field (by simp) hread

/-- A record is read from an object of its members. -/
theorem Collects.reader {r : Record σ α} {ms : List (String × Json)} {s : σ} {a : α}
    (h : r.Collects inner ms s) (hfinish : r.finish s = .ok a) (henter : form.enter = .ok inner)
    (label : String) : (r.reader label).Gets form (.object ms) a := by
  unfold Reader.Gets
  simp only [Doc.ofJson, Record.reader]
  rw [henter, ok_bind]
  simp only [ofMembers, show r.members inner (Doc.ofMembers ms) r.blank = .ok s from h, ok_bind,
    hfinish]
  rfl

end Record

/-! ## Tagged values -/

namespace Tagged

variable {τ α : Type} [Vocabulary τ] {form inner : Form}

/-- Members of other names than the tag's are set aside. -/
theorem sift_ofMembers {t : Tagged τ α} {ms : List (String × Json)}
    (hname : t.tagName ∉ ms.map Prod.fst) (hroom : form.HasRoom (memberDepth ms))
    (found : Option τ) (aside : List (Key × Doc)) :
    t.sift form (Doc.ofMembers ms) found aside = .ok (found, aside.reverse ++ Doc.ofMembers ms) := by
  induction ms generalizing aside with
  | nil => simp [Doc.ofMembers, sift]
  | cons m ms ih =>
    obtain ⟨k, v⟩ := m
    rw [List.map_cons, List.mem_cons, not_or] at hname
    obtain ⟨hk, hname⟩ := hname
    have hk' : ¬k = t.tagName := fun he => hk he.symm
    have hmore := ih hname (hroom.mono (by simp only [memberDepth]; omega))
      ((.ok k, Doc.ofJson v) :: aside)
    have hrest : aside.reverse ++ Doc.ofMembers ((k, v) :: ms) =
        ((.ok k, Doc.ofJson v) :: aside : List (Key × Doc)).reverse ++ Doc.ofMembers ms := by
      simp [Doc.ofMembers]
    rw [hrest, ← hmore]
    simp only [Doc.ofMembers, sift, if_neg hk']
    cases form with
    | text room =>
      have hfree := @Doc.memberError?_ofMembers room [(k, v)]
        (by simp only [memberDepth, Form.HasRoom] at hroom ⊢; omega)
      simp only [Doc.ofMembers] at hfree
      simp only [hfree]
      rfl
    | value => rfl
    | setAside => rfl

/-- A tagged value is read from an object whose first member is the tag. -/
theorem gets_object {t : Tagged τ α} {tag : τ} {ms : List (String × Json)} {a : α}
    (htag : Vocabulary.ofWord? (Vocabulary.word tag) = some tag)
    (henter : form.enter = .ok inner) (hname : t.tagName ∉ ms.map Prod.fst)
    (hroom : inner.HasRoom (memberDepth ms)) (h : (t.body tag).Gets .setAside (.object ms) a) :
    t.reader.Gets form (.object ((t.tagName, .text (Vocabulary.word tag)) :: ms)) a := by
  have hfound : Reader.tag.member inner t.tagName (.text (.ok (Vocabulary.word tag))) = .ok tag := by
    simp only [Reader.member, Reader.tag, Reader.lookUp, htag]
    rfl
  have hsift : t.sift inner (Doc.ofMembers ((t.tagName, .text (Vocabulary.word tag)) :: ms))
      none [] = .ok (some tag, Doc.ofMembers ms) := by
    simp only [Doc.ofMembers, Doc.ofJson, sift, if_true, hfound, ok_bind]
    rw [sift_ofMembers hname hroom]
    rfl
  unfold Reader.Gets at h ⊢
  simp only [Doc.ofJson] at h
  simp only [Doc.ofJson, reader]
  rw [henter, ok_bind, hsift, ok_bind]
  simp only [h]
  rfl

end Tagged

end Storyboard.Json
