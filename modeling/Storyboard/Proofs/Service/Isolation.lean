import Storyboard.Proofs.Service.Buckets

/-!
# Buckets of different addresses

What an address is answered depends on its own calls only. While there is room for all addresses that
call, no bucket is ever forgotten or made anew, and a call leaves the buckets of the other addresses
as they are. So the bucket of an address goes through the calls of this address and nothing else
(`Limiter.answersTo_eq`), as if nobody else called.
-/

namespace Storyboard

open Service.Limiter (Call)

namespace Bucket

/-- The answers to calls all of which are made to one bucket. -/
def answers (b : Bucket) : List Call → List Bool
  | [] => []
  | c :: rest =>
    if c.asks then (b.take c.time).1 :: (b.take c.time).2.answers rest else b.answers rest

/-- The answers to calls all of which are made to a bucket that is full at the first of them. -/
def freshAnswers (perSecond : Nat) : List Call → List Bool
  | [] => []
  | c :: rest => (fresh perSecond c.time).answers (c :: rest)

end Bucket

namespace Service.Limiter

open Net (Address)

/-- The calls of an address. -/
def own (a : Address) (calls : List Call) : List Call := calls.filter (·.address = a)

/-- What an address is answered whenever it asks for a permit. -/
def answersTo (a : Address) (l : Limiter) : List Call → List Bool
  | [] => []
  | c :: rest =>
    if c.address = a ∧ c.asks then
      (l.check c.time c.address).1 :: (l.after c).answersTo a rest
    else (l.after c).answersTo a rest

/-- The bucket of an address. -/
def bucket? (l : Limiter) (a : Address) : Option Bucket := (l.find? a).map (·.bucket)

/-- The bucket that a call of an address comes to. -/
def bucketAt (l : Limiter) (now : Nat) (a : Address) : Bucket :=
  (l.bucket? a).getD (.fresh l.perSecond now)

variable {l : Limiter} {a b : Address} {c : Call} {calls seen more : List Call} {bucket : Bucket}
  {now rate : Nat}

theorem own_cons_of_eq (h : c.address = a) : own a (c :: calls) = c :: own a calls :=
  List.filter_cons_of_pos (by simpa using h)

theorem own_cons_of_ne (h : c.address ≠ a) : own a (c :: calls) = own a calls :=
  List.filter_cons_of_neg (by simpa using h)

theorem own_append_of_eq (h : c.address = a) : own a (calls ++ [c]) = own a calls ++ [c] := by
  rw [own, List.filter_append, ← own, ← own, own_cons_of_eq h]
  rfl

theorem own_append_of_ne (h : c.address ≠ a) : own a (calls ++ [c]) = own a calls := by
  rw [own, List.filter_append, ← own, ← own, own_cons_of_ne h]
  exact List.append_nil _

theorem own_eq_nil_iff : own a calls = [] ↔ a ∉ callers calls := by
  simp [own, mem_callers]

/-! ## What a call does to one bucket -/

theorem bucket?_eq_none_iff : l.bucket? a = none ↔ a ∉ l.addresses := by
  rw [bucket?, Option.map_eq_none_iff, find?_eq_none_iff]

theorem bucket?_insert_self (h : a ∉ l.addresses) :
    (insert now a l).bucket? a = some (.fresh l.perSecond now) := by
  rw [bucket?, find?, entries_insert h]
  simp

theorem bucket?_insert_of_ne (h : a ∉ l.addresses) (hne : a ≠ b) :
    (insert now a l).bucket? b = l.bucket? b := by
  rw [bucket?, find?, entries_insert h, List.find?_cons_of_neg (by simpa using hne), bucket?, find?]

theorem find?_setBucket_self (entries : List LimiterEntry) :
    (setBucket a bucket entries).find? (·.address = a) =
      (entries.find? (·.address = a)).map fun e => { e with bucket } := by
  induction entries with
  | nil => rfl
  | cons e rest ih =>
    by_cases hsame : e.address = a
    · simp [setBucket, hsame]
    · simp [setBucket, hsame, ih]

theorem find?_setBucket_of_ne (hne : a ≠ b) (entries : List LimiterEntry) :
    (setBucket a bucket entries).find? (·.address = b) = entries.find? (·.address = b) := by
  induction entries with
  | nil => rfl
  | cons e rest ih =>
    by_cases hsame : e.address = a
    · simp [setBucket, hsame, hne]
    · simp [setBucket, hsame, List.find?_cons, ih]

theorem take_of_bucket? (h : l.bucket? a = some bucket) :
    (take now a l).1 = (bucket.take now).1 ∧
      (take now a l).2.bucket? a = some (bucket.take now).2 := by
  obtain ⟨e, hfound, rfl⟩ := Option.map_eq_some_iff.mp h
  unfold take
  rw [hfound]
  refine ⟨rfl, ?_⟩
  simp only [bucket?, find?, find?_setBucket_self]
  rw [← find?, hfound]
  rfl

theorem bucket?_take_of_ne (hne : a ≠ b) : (take now a l).2.bucket? b = l.bucket? b := by
  unfold take
  split
  · rfl
  · simp only [bucket?, find?, find?_setBucket_of_ne hne]

theorem perSecond_take : (take now a l).2.perSecond = l.perSecond := by
  unfold take
  split <;> rfl

theorem enroll_of_room (h : l.RoomFor a) :
    (enroll now a l).1 = if a ∈ l.addresses then l else insert now a l := by
  rcases enroll_cases now a l with ⟨hknown, heq⟩ | ⟨hunknown, -, heq⟩ | ⟨hunknown, hfull, -⟩
  · rw [heq, if_pos hknown]
  · rw [heq, if_neg hunknown]
  · have hroom := h hunknown
    rw [length_marks] at hroom
    exact absurd hroom (Nat.not_lt.mpr hfull)

theorem bucket?_enroll_self (h : l.RoomFor a) :
    (enroll now a l).1.bucket? a = some (l.bucketAt now a) := by
  rw [enroll_of_room h, bucketAt]
  by_cases hknown : a ∈ l.addresses
  · rw [if_pos hknown]
    cases hbucket : l.bucket? a with
    | none => exact absurd hknown (bucket?_eq_none_iff.mp hbucket)
    | some bucket => rfl
  · rw [if_neg hknown, bucket?_insert_self hknown, bucket?_eq_none_iff.mpr hknown]
    rfl

theorem bucket?_enroll_of_ne (h : l.RoomFor a) (hne : a ≠ b) :
    (enroll now a l).1.bucket? b = l.bucket? b := by
  rw [enroll_of_room h]
  split
  · rfl
  · rename_i hunknown
    exact bucket?_insert_of_ne hunknown hne

theorem perSecond_enroll (h : l.RoomFor a) : (enroll now a l).1.perSecond = l.perSecond := by
  rw [enroll_of_room h]
  split <;> rfl

theorem perSecond_after (h : l.RoomFor c.address) : (l.after c).perSecond = l.perSecond := by
  unfold after
  split
  · exact perSecond_take.trans (perSecond_enroll h)
  · exact perSecond_enroll h

theorem bucket?_after_of_ne (h : l.RoomFor c.address) (hne : c.address ≠ a) :
    (l.after c).bucket? a = l.bucket? a := by
  unfold after
  split
  · exact (bucket?_take_of_ne hne).trans (bucket?_enroll_of_ne h hne)
  · exact bucket?_enroll_of_ne h hne

/-- A call that asks for a permit takes it out of the bucket of its address. -/
theorem check_of_room (h : l.RoomFor c.address) (hasks : c.asks = true) :
    (l.check c.time c.address).1 = ((l.bucketAt c.time c.address).take c.time).1 ∧
      (l.after c).bucket? c.address = some ((l.bucketAt c.time c.address).take c.time).2 := by
  rw [after, if_pos hasks]
  exact take_of_bucket? (bucket?_enroll_self h)

theorem bucket?_after_of_not_asks (h : l.RoomFor c.address) (hasks : ¬c.asks = true) :
    (l.after c).bucket? c.address = some (l.bucketAt c.time c.address) := by
  rw [after, if_neg hasks]
  exact bucket?_enroll_self h

/-! ## What calls do to one bucket -/

/-- The answers of the bucket that an address has, or else of a fresh one. -/
def answersAlone (l : Limiter) (a : Address) (calls : List Call) : List Bool :=
  match l.bucket? a with
  | some bucket => bucket.answers calls
  | none => Bucket.freshAnswers l.perSecond calls

theorem answersAlone_cons (l : Limiter) (a : Address) (c : Call) (calls : List Call) :
    l.answersAlone a (c :: calls) = (l.bucketAt c.time a).answers (c :: calls) := by
  rw [answersAlone, bucketAt]
  cases l.bucket? a <;> rfl

theorem Tracks.roomFor (h : l.Tracks seen)
    (hfew : (callers (seen ++ c :: calls)).card ≤ capacity) : l.RoomFor c.address := by
  rw [List.append_cons] at hfew
  exact h.room (Nat.le_trans
    (Finset.card_le_card (callers_mono (List.subset_append_left _ _))) hfew)

/-- While there is room for all that call, an address is answered what its bucket answers to the calls
of this address alone. -/
theorem answersTo_eq (h : l.Tracks seen) (hfew : (callers (seen ++ calls)).card ≤ capacity)
    (a : Address) : l.answersTo a calls = l.answersAlone a (own a calls) := by
  -- Only who has called is tracked, so there is room for each call of the run when its turn comes.
  induction calls generalizing l seen with
  | nil =>
    rw [own, List.filter_nil, answersAlone]
    cases l.bucket? a <;> rfl
  | cons c rest ih =>
    have hroom := h.roomFor hfew
    have hrest := ih (h.after c) (by rwa [List.append_assoc])
    rw [answersTo]
    by_cases hsame : c.address = a
    · subst hsame
      rw [own_cons_of_eq rfl, answersAlone_cons, Bucket.answers]
      by_cases hasks : c.asks = true
      · obtain ⟨hgranted, hbucket⟩ := check_of_room hroom hasks
        rw [if_pos ⟨rfl, hasks⟩, if_pos hasks, hgranted, hrest, answersAlone, hbucket]
      · have hbucket := bucket?_after_of_not_asks hroom hasks
        rw [if_neg (fun hand => hasks hand.2), if_neg hasks, hrest, answersAlone, hbucket]
    · rw [if_neg (fun hand => hsame hand.1), own_cons_of_ne hsame, hrest, answersAlone,
        bucket?_after_of_ne hroom hsame, perSecond_after hroom, answersAlone]

/-- While there is room for all that call, an address has the bucket that was made at its first call,
and no other. -/
theorem marks_run (hfew : (callers calls).card ≤ capacity) (a : Address) :
    ((ofRate rate).run calls).marks.filter (·.1 = a) =
      ((own a calls).head?.map fun c => (a, c.time)).toList := by
  induction calls using List.reverseRecOn with
  | nil => rfl
  | append_singleton calls c ih =>
    have hbefore := Nat.le_trans
      (Finset.card_le_card (callers_mono (List.subset_append_left calls [c]))) hfew
    have htracks := tracks_run rate calls
    rw [run_append, run_singleton]
    rcases marks_after ((ofRate rate).run calls) c with
      ⟨hknown, hmarks⟩ | ⟨hunknown, -, hmarks⟩ | ⟨hunknown, hfull, -⟩
    · rw [hmarks, ih hbefore]
      by_cases hsame : c.address = a
      · have hcalled : own a calls ≠ [] := by
          rw [Ne, own_eq_nil_iff, not_not, ← hsame]
          exact htracks.mem_callers hknown
        rw [own_append_of_eq hsame, List.head?_append_of_ne_nil _ hcalled]
      · rw [own_append_of_ne hsame]
    · rw [hmarks]
      by_cases hsame : c.address = a
      · have hnew : own a calls = [] := by
          rw [own_eq_nil_iff, ← hsame]
          exact fun hin => hunknown (callers_tracked hbefore _ hin)
        rw [List.filter_cons_of_pos (by simpa using hsame), ih hbefore, own_append_of_eq hsame, hnew,
          ← hsame]
        rfl
      · rw [List.filter_cons_of_neg (by simpa using hsame), ih hbefore, own_append_of_ne hsame]
    · exact absurd (htracks.room hfew hunknown) (Nat.not_lt.mpr hfull)

/-- If no more addresses call than there is room for, each of them is answered what one fresh bucket
answers to its own calls, so it does not matter what the others do; and it never gets another
bucket. -/
theorem answers_isolated (rate : Nat) (a : Address) (hfew : (callers calls).card ≤ 10000) :
    (ofRate rate).answersTo a calls =
        Bucket.freshAnswers (if rate = 0 then 10 else rate) (own a calls) ∧
      (∀ others, (callers others).card ≤ 10000 → own a others = own a calls →
        (ofRate rate).answersTo a others = (ofRate rate).answersTo a calls) ∧
      ∀ n, ((ofRate rate).run (calls.take n)).marks.filter (·.1 = a) =
        ((own a (calls.take n)).head?.map fun c => (a, c.time)).toList := by
  have halone {calls : List Call} (hfew : (callers calls).card ≤ capacity) :
      (ofRate rate).answersTo a calls =
        Bucket.freshAnswers (if rate = 0 then 10 else rate) (own a calls) :=
    answersTo_eq (tracks_run rate []) hfew a
  refine ⟨halone hfew, fun others hothers hown => ?_, fun n => marks_run ?_ a⟩
  · rw [halone hothers, halone hfew, hown]
  · exact Nat.le_trans (Finset.card_le_card (callers_mono (List.take_subset n calls))) hfew

/-- While one address asks three times, another one does as well. -/
theorem answers_isolated_two_addresses :
    let a := Address.v4 167772161
    let b := Address.v4 167772162
    let calls : List Call :=
      [⟨0, b, true⟩, ⟨0, a, true⟩, ⟨1, b, true⟩, ⟨1, a, true⟩, ⟨Bucket.second, b, true⟩,
        ⟨2 * Bucket.second, a, true⟩]
    (callers calls).card ≤ 10000 ∧ (ofRate 1).answersTo a calls = [true, false, true] := by
  intro a b calls
  have hfew : (callers calls).card ≤ 10000 := by decide
  exact ⟨hfew, (answers_isolated 1 a hfew).1.trans (by decide)⟩

end Service.Limiter

end Storyboard
