import Storyboard.Proofs.Json.Reading

/-!
# Records with members in any order

The members of an object may come in any order and with others between them. A record that is read
from them falls apart into its fields: each field takes the members of its own name, and what is
left when all fields have taken theirs is skipped. `Record.members_field_iff` takes off one field,
so a record of any size is opened field by field.
-/

namespace Storyboard.Json

/-- A key is a name. -/
def Key.is (name : String) : Key → Bool
  | .ok k => k = name
  | .error _ => false

namespace Doc

variable {name other : String} {ms : List (Key × Doc)}

/-- The values of the members of a name. -/
def named (name : String) (ms : List (Key × Doc)) : List Doc :=
  (ms.filter fun m => Key.is name m.1).map (·.2)

/-- The members of other names. -/
def others (name : String) (ms : List (Key × Doc)) : List (Key × Doc) :=
  ms.filter fun m => !Key.is name m.1

theorem mem_of_mem_others {m : Key × Doc} (h : m ∈ others name ms) : m ∈ ms :=
  (List.mem_filter.mp h).1

theorem named_others (hne : name ≠ other) : named name (others other ms) = named name ms := by
  have hkeys : ∀ m ∈ ms, (Key.is name m.1 && !Key.is other m.1) = Key.is name m.1 := by
    rintro ⟨k, d⟩ -
    cases k with
    | error _ => rfl
    | ok k =>
      by_cases hk : k = name
      · have hk' : k ≠ other := fun h => hne (hk.symm.trans h)
        simp [Key.is, hk, hne]
      · simp [Key.is, hk]
  unfold named others
  rw [List.filter_filter, List.filter_congr hkeys]

end Doc

theorem Doc.exists_of_mem_named {name : String} {ms : List (Key × Doc)} {d : Doc}
    (h : d ∈ named name ms) : ∃ m ∈ ms, m.2 = d := by
  obtain ⟨m, hm, hd⟩ := List.mem_map.mp h
  exact ⟨m, (List.mem_filter.mp hm).1, hd⟩

/-- A value without faults is read as a member as it is read alone. -/
theorem Reader.member_eq_ok_iff {α : Type} {r : Reader α} {form : Form} {name : String} {d : Doc}
    {a : α} (h : d.skipFault? = none) : r.member form name d = .ok a ↔ r.read form d = .ok a := by
  have hwithin : ∀ {x : Except ReadError α}, within (.member name) x = .ok a ↔ x = .ok a := by
    intro x
    cases x <;> simp [within]
  cases d with
  | noColon m => exact absurd h (by simp [Doc.skipFault?])
  | _ => exact hwithin

/-- Only `null` is read as nothing. -/
theorem Reader.optional_eq_ok {α : Type} {r : Reader α} {form : Form} {d : Doc} {x : Option α}
    (h : r.optional.read form d = .ok x) :
    d = .null ∧ x = none ∨ ∃ a, r.read form d = .ok a ∧ x = some a := by
  have hmap : ∀ {y : Except ReadError α}, y.map some = .ok x → ∃ a, y = .ok a ∧ x = some a := by
    rintro (_ | a) hy
    · cases hy
    · exact ⟨a, rfl, (Except.ok.inj hy).symm⟩
  cases d with
  | null => exact .inl ⟨rfl, (Except.ok.inj h).symm⟩
  | missing reason =>
    simp only [optional] at h
    by_cases hnull : reason.lead = .nullWord
    · rw [if_pos hnull] at h
      cases h
    · rw [if_neg hnull] at h
      exact .inr (hmap h)
  | _ => exact .inr (hmap h)

theorem Reader.value_of_any {form : Form} {d : Doc} {v : Json} (h : any.read form d = .ok v) :
    v = d.value := by
  cases form with
  | text room =>
    simp only [any] at h
    cases hfault : d.readError? room with
    | some e => simp [hfault, demandNo, Except.map] at h
    | none => simpa [hfault, demandNo, Except.map, eq_comm] using h
  | value | setAside => exact (Except.ok.inj h).symm

/-- A field takes the values of its members: it keeps what it has if there are none, and has that of
the only one if it had none before. -/
inductive Field.Takes {β : Type} (f : Field β) (form : Form) :
    Option β → List Doc → Option β → Prop
  /-- Nothing is to be taken. -/
  | nothing (o : Option β) : Takes f form o [] o
  /-- One value is taken. -/
  | value {d : Doc} {b : β} (read : f.reader.member form f.name d = .ok b) :
      Takes f form none [d] (some b)

namespace Record

variable {σ α β : Type} {r : Record σ (β → α)} {f : Field β} {form : Form}
  {ms : List (Key × Doc)} {s t : σ} {o p : Option β}

theorem within_demand_eq_ok_iff {step : PathStep} {fault : Option Malformed} {u : Unit} :
    within step (demand fault) = .ok u ↔ fault = none := by
  cases fault <;> simp [within, demand, demandNo]

/-- Reading the first member either puts it into a field or skips it. -/
theorem members_cons_eq_ok_iff {r : Record σ α} {name : String} {d : Doc} :
    r.members form ((.ok name, d) :: ms) s = .ok t ↔
      (∃ u, r.put form name d s = some (.ok u) ∧ r.members form ms u = .ok t) ∨
      (r.put form name d s = none ∧ (form.isText = true → d.skipFault? = none) ∧
        r.members form ms s = .ok t) := by
  cases hput : r.put form name d s with
  | some out => simp [members, hput, bind_eq_ok_iff]
  | none =>
    simp only [members, hput, reduceCtorEq, false_and, exists_false, true_and, false_or]
    cases form.isText with
    | false => simp
    | true =>
      simp only [if_true, forall_const]
      cases d with
      | noColon m => simp [Doc.skipFault?]
      | _ => simp only [bind_eq_ok_iff, within_demand_eq_ok_iff, exists_and_left, exists_const]

/-- A field takes the first of its members only if it has nothing yet. -/
theorem takes_cons_iff {d : Doc} {ds : List Doc} : f.Takes form o (d :: ds) p ↔
    o = none ∧ ∃ b, f.reader.member form f.name d = .ok b ∧ f.Takes form (some b) ds p := by
  constructor
  · rintro (_ | ⟨read⟩)
    exact ⟨rfl, _, read, .nothing _⟩
  · rintro ⟨rfl, b, read, (_ | _)⟩
    exact .value read

theorem takes_singleton_iff {d : Doc} :
    f.Takes form none [d] p ↔ ∃ b, f.reader.member form f.name d = .ok b ∧ p = some b := by
  rw [takes_cons_iff]
  constructor
  · rintro ⟨-, b, read, (_ | _)⟩
    exact ⟨b, read, rfl⟩
  · rintro ⟨b, read, rfl⟩
    exact ⟨rfl, b, read, .nothing _⟩

theorem takes_nil_iff : f.Takes form o [] p ↔ p = o := by
  constructor
  · rintro (_ | _)
    rfl
  · rintro rfl
    exact .nothing p

/-- A record reads what is left of the members when the last field has taken its own. -/
theorem members_field_iff :
    (r.field f).members form ms (s, o) = .ok (t, p) ↔
      r.members form (Doc.others f.name ms) s = .ok t ∧
        f.Takes form o (Doc.named f.name ms) p := by
  induction ms generalizing s o with
  | nil =>
    simp only [members, Except.ok.injEq, Prod.mk.injEq, Doc.others, Doc.named, List.filter_nil,
      List.map_nil, and_congr_right_iff, takes_nil_iff]
    rintro -
    exact eq_comm
  | cons m ms ih =>
    obtain ⟨k, d⟩ := m
    cases k with
    | error reason =>
      refine iff_of_false (by simp [members]) ?_
      rintro ⟨hothers, -⟩
      exact absurd hothers (by simp [Doc.others, Key.is, members])
    | ok name =>
      rw [members_cons_eq_ok_iff]
      by_cases hname : name = f.name
      · -- the member is one of the field
        have hnamed : Doc.named f.name ((.ok name, d) :: ms) = d :: Doc.named f.name ms := by
          simp [Doc.named, Key.is, hname]
        have hothers : Doc.others f.name ((.ok name, d) :: ms) = Doc.others f.name ms := by
          simp [Doc.others, Key.is, hname]
        have hput : (r.field f).put form name d (s, o) = some (if o.isSome then
            .error (.here (.duplicateField name))
          else (f.reader.member form name d).map fun b => (s, some b)) := by
          simp only [field, if_pos hname]
        rw [hput, hnamed, hothers, takes_cons_iff, hname]
        cases o with
        | some b => simp
        | none =>
          cases hread : f.reader.member form f.name d with
          | error e => simp [Except.map]
          | ok b => simp [Except.map, ih]
      · -- it is one of another field or of none
        have hnamed : Doc.named f.name ((.ok name, d) :: ms) = Doc.named f.name ms := by
          simp [Doc.named, Key.is, hname]
        have hothers : Doc.others f.name ((.ok name, d) :: ms) =
            (.ok name, d) :: Doc.others f.name ms := by
          simp [Doc.others, Key.is, hname]
        have hput : (r.field f).put form name d (s, o) =
            (r.put form name d s).map fun out => out.map fun t => (t, o) := by
          simp only [field, if_neg hname]
        rw [hput, hnamed, hothers, members_cons_eq_ok_iff]
        cases hold : r.put form name d s with
        | none => simp [ih, and_assoc]
        | some out =>
          cases out with
          | error e => simp [Except.map]
          | ok u => simp [Except.map, ih]

/-- A record without fields skips everything. -/
theorem members_of_iff {a : α} {u : Unit} :
    (Record.of a).members form ms u = .ok u ↔
      ∀ m ∈ ms, (∃ name, m.1 = .ok name) ∧ (form.isText = true → m.2.skipFault? = none) := by
  induction ms with
  | nil => simp [members]
  | cons m ms ih =>
    obtain ⟨k, d⟩ := m
    rw [List.forall_mem_cons, ← ih]
    cases k with
    | error reason =>
      refine iff_of_false (by simp [members]) ?_
      rintro ⟨⟨⟨name, hname⟩, -⟩, -⟩
      exact absurd hname (by simp)
    | ok name =>
      rw [members_cons_eq_ok_iff]
      simp [Record.of]

/-- A field that has nothing is made up for, if it can be. -/
theorem finish_field_eq_ok_iff {a : α} : (r.field f).finish (s, o) = .ok a ↔
    ∃ make b, r.finish s = .ok make ∧ o.or f.absent = some b ∧ make b = a := by
  simp only [field, bind_eq_ok_iff]
  cases o.or f.absent with
  | none => simp
  | some b => simp

/-- A record is read from an object in three steps: its members, its end, and what is missing. -/
theorem reader_object_eq_ok_iff {r : Record σ α} {label : String} {stop : ObjectStop} {a : α} :
    (r.reader label).read form (.object ms stop) = .ok a ↔
      ∃ inner s, form.enter = .ok inner ∧ r.members inner ms r.blank = .ok s ∧
        stop.readError? = none ∧ r.finish s = .ok a := by
  have hend : ∀ {fault : Option ReadError} {u : Unit}, demandNo fault = .ok u ↔ fault = none := by
    intro fault u
    cases fault <;> simp [demandNo]
  simp only [reader, ofMembers, bind_eq_ok_iff, hend, exists_and_left, exists_const]
  refine exists_congr fun inner => ?_
  refine and_congr_right fun _ => exists_congr fun s => and_congr_right fun _ =>
    and_congr_right fun _ => ?_
  cases r.finish s <;> simp

end Record

end Storyboard.Json
