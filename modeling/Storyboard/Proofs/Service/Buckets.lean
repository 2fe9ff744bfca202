import Mathlib.Data.Finset.Card
import Mathlib.Data.List.Nodup
import Storyboard.Service.Limiter

/-!
# How many buckets there are

The limiter tracks the addresses that call. It never has two buckets for one address, and each bucket
was made at a call of its address (`Limiter.Tracks`). As long as no more addresses have called than
there is room for, every one of them keeps its bucket. Beyond that a bucket is made for whoever calls
next before another one is missed, so there may be one bucket more than the capacity
(`Limiter.buckets_over_capacity`), but never two more. `Limiter.buckets_bounded` says this, and that
the capacity is kept if in no hour more addresses call than there is room for.
-/

namespace Storyboard.Service

open Net (Address)

namespace Limiter

/-- A call on a collection of buckets. -/
structure Call where
  /-- When it is made. -/
  time : Nat
  /-- The address on whose behalf it is made. -/
  address : Address
  /-- Whether a permit is asked for; otherwise the bucket is only looked up. -/
  asks : Bool
deriving DecidableEq, Repr

/-- The collection after a call. -/
def after (l : Limiter) (c : Call) : Limiter :=
  if c.asks then (l.check c.time c.address).2.1 else (l.enroll c.time c.address).1

/-- The collection after calls that are made one after another. -/
def run (l : Limiter) (calls : List Call) : Limiter := calls.foldl after l

/-- The addresses that call. -/
def callers (calls : List Call) : Finset Address := (calls.map (·.address)).toFinset

/-- The addresses that have a bucket, each with the time at which it was made. -/
def marks (l : Limiter) : List (Address × Nat) := l.entries.map fun e => (e.address, e.created)

/-- The addresses that have a bucket. -/
def addresses (l : Limiter) : List Address := l.marks.map Prod.fst

variable {l : Limiter} {a b : Address} {c : Call} {calls seen : List Call} {now rate : Nat}

theorem run_append (calls more : List Call) : l.run (calls ++ more) = (l.run calls).run more :=
  List.foldl_append

theorem run_singleton : l.run [c] = l.after c := rfl

theorem length_marks : l.marks.length = l.entries.length := List.length_map _

theorem mem_callers : a ∈ callers calls ↔ ∃ c ∈ calls, c.address = a := by
  simp [callers]

theorem callers_mono (h : seen ⊆ calls) : callers seen ⊆ callers calls := by
  intro a ha
  obtain ⟨c, hc, rfl⟩ := mem_callers.mp ha
  exact mem_callers.mpr ⟨c, h hc, rfl⟩

/-! ## What a call does -/

theorem find?_eq_none_iff : l.find? a = none ↔ a ∉ l.addresses := by
  simp [find?, addresses, marks]

theorem entries_insert (h : a ∉ l.addresses) :
    (insert now a l).entries = ⟨a, .fresh l.perSecond now, now⟩ :: l.entries := by
  have hkept : l.entries.eraseP (·.address = a) = l.entries := by
    refine List.eraseP_of_forall_not fun e he hsame => ?_
    have hnone := List.find?_eq_none.mp (find?_eq_none_iff.mpr h) e he
    exact hnone hsame
  rw [insert, hkept]

theorem marks_insert (h : a ∉ l.addresses) : (insert now a l).marks = (a, now) :: l.marks := by
  rw [marks, entries_insert h]
  rfl

theorem entries_tidy :
    (tidy now l).1.entries = (l.entries.filter (isLive now)).take capacity := by
  unfold tidy
  simp only
  split
  · rfl
  · rename_i hroom
    exact (List.take_of_length_le (Nat.le_of_not_lt hroom)).symm

theorem marks_tidy : (tidy now l).1.marks =
    (l.marks.filter fun m => now - m.2 < lifetime).take capacity := by
  rw [marks, entries_tidy, List.map_take, marks, List.filter_map]
  rfl

theorem marks_setBucket (bucket : Bucket) (entries : List LimiterEntry) :
    (setBucket a bucket entries).map (fun e => (e.address, e.created)) =
      entries.map fun e => (e.address, e.created) := by
  induction entries with
  | nil => rfl
  | cons e rest ih =>
    unfold setBucket
    split
    · rfl
    · rw [List.map_cons, List.map_cons, ih]

theorem marks_take : (take now a l).2.marks = l.marks := by
  unfold take
  split
  · rfl
  · exact marks_setBucket _ _

/-- A call of an address that has a bucket makes none. If there is room, another one is added; if
there is none, what is too old or too much goes first. -/
theorem enroll_cases (now : Nat) (a : Address) (l : Limiter) :
    (a ∈ l.addresses ∧ (enroll now a l).1 = l) ∨
      (a ∉ l.addresses ∧ l.entries.length < capacity ∧ (enroll now a l).1 = insert now a l) ∨
      (a ∉ l.addresses ∧ capacity ≤ l.entries.length ∧
        (enroll now a l).1 = insert now a (tidy now l).1) := by
  unfold enroll
  cases hfound : l.find? a with
  | some e =>
    have hknown : a ∈ l.addresses := by
      by_contra hunknown
      rw [find?_eq_none_iff.mpr hunknown] at hfound
      cases hfound
    exact .inl ⟨hknown, rfl⟩
  | none =>
    have hunknown := find?_eq_none_iff.mp hfound
    by_cases hfull : capacity ≤ l.entries.length
    · simp only [if_pos hfull]
      exact .inr (.inr ⟨hunknown, hfull, trivial⟩)
    · simp only [if_neg hfull]
      exact .inr (.inl ⟨hunknown, Nat.lt_of_not_le hfull, trivial⟩)

theorem marks_after_eq : (l.after c).marks = (enroll c.time c.address l).1.marks := by
  unfold after
  split
  · exact marks_take
  · rfl

theorem marks_after (l : Limiter) (c : Call) :
    (c.address ∈ l.addresses ∧ (l.after c).marks = l.marks) ∨
      (c.address ∉ l.addresses ∧ l.marks.length < capacity ∧
        (l.after c).marks = (c.address, c.time) :: l.marks) ∨
      (c.address ∉ l.addresses ∧ capacity ≤ l.marks.length ∧
        (l.after c).marks = (c.address, c.time) ::
          (l.marks.filter fun m => c.time - m.2 < lifetime).take capacity) := by
  rw [marks_after_eq, length_marks]
  rcases enroll_cases c.time c.address l with
    ⟨hknown, heq⟩ | ⟨hunknown, hroom, heq⟩ | ⟨hunknown, hfull, heq⟩
  · exact .inl ⟨hknown, by rw [heq]⟩
  · exact .inr (.inl ⟨hunknown, hroom, by rw [heq, marks_insert hunknown]⟩)
  · have hstill : c.address ∉ (tidy c.time l).1.addresses := by
      intro h
      rw [addresses, marks_tidy] at h
      exact hunknown (((List.take_sublist _ _).trans List.filter_sublist).map _ |>.subset h)
    exact .inr (.inr ⟨hunknown, hfull, by rw [heq, marks_insert hstill, marks_tidy]⟩)

/-! ## What calls leave behind -/

/-- Every address has one bucket at most, which was made at a call of it. -/
structure Tracks (l : Limiter) (seen : List Call) : Prop where
  /-- No address has two buckets. -/
  nodup : l.addresses.Nodup
  /-- A bucket is made at a call. -/
  called : ∀ m ∈ l.marks, ∃ c ∈ seen, (c.address, c.time) = m

theorem Tracks.after (h : l.Tracks seen) (c : Call) : (l.after c).Tracks (seen ++ [c]) := by
  have hcalled : ∀ m ∈ l.marks, ∃ d ∈ seen ++ [c], (d.address, d.time) = m := by
    intro m hm
    obtain ⟨d, hd, hmark⟩ := h.called m hm
    exact ⟨d, List.mem_append_left _ hd, hmark⟩
  have hnew : ∃ d ∈ seen ++ [c], (d.address, d.time) = (c.address, c.time) :=
    ⟨c, List.mem_append_right _ (List.mem_singleton_self c), rfl⟩
  -- Whatever is kept, the address that calls is new to it, and the rest was there before.
  have hcons (kept : List (Address × Nat)) (hsub : kept.Sublist l.marks)
      (hunknown : c.address ∉ l.addresses) :
      (((c.address, c.time) :: kept).map Prod.fst).Nodup ∧
        ∀ m ∈ (c.address, c.time) :: kept, ∃ d ∈ seen ++ [c], (d.address, d.time) = m := by
    constructor
    · rw [List.map_cons, List.nodup_cons]
      exact ⟨fun hin => hunknown ((hsub.map _).subset hin), h.nodup.sublist (hsub.map _)⟩
    · rw [List.forall_mem_cons]
      exact ⟨hnew, fun m hm => hcalled m (hsub.subset hm)⟩
  rcases marks_after l c with ⟨-, hmarks⟩ | ⟨hunknown, -, hmarks⟩ | ⟨hunknown, -, hmarks⟩
  · exact ⟨by rw [addresses, hmarks]; exact h.nodup, by rw [hmarks]; exact hcalled⟩
  · obtain ⟨hnodup, hmade⟩ := hcons l.marks (List.Sublist.refl _) hunknown
    exact ⟨by rw [addresses, hmarks]; exact hnodup, by rw [hmarks]; exact hmade⟩
  · obtain ⟨hnodup, hmade⟩ :=
      hcons _ ((List.take_sublist _ _).trans List.filter_sublist) hunknown
    exact ⟨by rw [addresses, hmarks]; exact hnodup, by rw [hmarks]; exact hmade⟩

theorem tracks_run (rate : Nat) (calls : List Call) : ((ofRate rate).run calls).Tracks calls := by
  induction calls using List.reverseRecOn with
  | nil => exact ⟨List.nodup_nil, fun m hm => absurd hm (by simp [marks, run, ofRate])⟩
  | append_singleton calls c ih =>
    rw [run_append, run_singleton]
    exact ih.after c

theorem Tracks.mem_callers (h : l.Tracks seen) (ha : a ∈ l.addresses) : a ∈ callers seen := by
  obtain ⟨m, hm, rfl⟩ := List.mem_map.mp ha
  obtain ⟨c, hc, rfl⟩ := h.called m hm
  exact Limiter.mem_callers.mpr ⟨c, hc, rfl⟩

/-- If one of some addresses is missing among the marks, there are fewer marks than addresses. -/
theorem length_lt_card {marks : List (Address × Nat)} {s : Finset Address}
    (hnodup : (marks.map Prod.fst).Nodup) (hsub : ∀ m ∈ marks, m.1 ∈ s)
    (hmissing : a ∉ marks.map Prod.fst) (ha : a ∈ s) : marks.length < s.card := by
  have hlength : (a :: marks.map Prod.fst).toFinset.card = marks.length + 1 := by
    rw [List.toFinset_card_of_nodup (List.nodup_cons.mpr ⟨hmissing, hnodup⟩), List.length_cons,
      List.length_map]
  have hwithin : (a :: marks.map Prod.fst).toFinset ⊆ s := by
    intro b hb
    rw [List.mem_toFinset, List.mem_cons, List.mem_map] at hb
    rcases hb with rfl | ⟨m, hm, rfl⟩
    · exact ha
    · exact hsub m hm
  have hcard := Finset.card_le_card hwithin
  omega

/-- There is room for an address that has no bucket yet. -/
def RoomFor (l : Limiter) (a : Address) : Prop := a ∉ l.addresses → l.marks.length < capacity

/-- While there is room for all that have called, there is room for the one that calls. -/
theorem Tracks.room (h : l.Tracks seen) (hfew : (callers (seen ++ [c])).card ≤ capacity) :
    l.RoomFor c.address := by
  intro hunknown
  refine Nat.lt_of_lt_of_le (length_lt_card h.nodup (fun m hm => ?_) hunknown ?_) hfew
  · exact callers_mono (List.subset_append_left _ _)
      (h.mem_callers (List.mem_map.mpr ⟨m, hm, rfl⟩))
  · exact Limiter.mem_callers.mpr ⟨c, List.mem_append_right _ (List.mem_singleton_self c), rfl⟩

/-- While there is room for all that have called, they all have a bucket. -/
theorem callers_tracked (hfew : (callers calls).card ≤ capacity) :
    ∀ a ∈ callers calls, a ∈ ((ofRate rate).run calls).addresses := by
  induction calls using List.reverseRecOn with
  | nil => intro a ha; simp [callers] at ha
  | append_singleton calls c ih =>
    have hbefore := ih (Nat.le_trans
      (Finset.card_le_card (callers_mono (List.subset_append_left _ _))) hfew)
    rw [run_append, run_singleton]
    set l := (ofRate rate).run calls with hl
    have hkept : l.addresses ⊆ (l.after c).addresses ∧ c.address ∈ (l.after c).addresses := by
      unfold addresses
      rcases marks_after l c with ⟨hknown, hmarks⟩ | ⟨-, -, hmarks⟩ | ⟨hunknown, hfull, -⟩
      · rw [hmarks]
        exact ⟨fun _ h => h, hknown⟩
      · rw [hmarks]
        exact ⟨List.subset_cons_self _ _, List.mem_cons_self⟩
      · exact absurd ((tracks_run rate calls).room hfew hunknown) (Nat.not_lt.mpr hfull)
    intro a ha
    obtain ⟨d, hd, rfl⟩ := Limiter.mem_callers.mp ha
    rcases List.mem_append.mp hd with hd | hd
    · exact hkept.1 (hbefore _ (Limiter.mem_callers.mpr ⟨d, hd, rfl⟩))
    · obtain rfl := List.mem_singleton.mp hd
      exact hkept.2

/-- While there is room for all that have called, there are as many buckets as addresses. -/
theorem length_run_of_few (rate : Nat) (hfew : (callers calls).card ≤ capacity) :
    ((ofRate rate).run calls).marks.length = (callers calls).card := by
  have htracks := tracks_run rate calls
  have hall : ((ofRate rate).run calls).addresses.toFinset = callers calls := by
    ext a
    rw [List.mem_toFinset]
    exact ⟨htracks.mem_callers, callers_tracked hfew a⟩
  rw [← hall, List.toFinset_card_of_nodup htracks.nodup, addresses, List.length_map]

/-! ## How many -/

theorem length_after_le (h : l.marks.length ≤ capacity + 1) (c : Call) :
    (l.after c).marks.length ≤ capacity + 1 := by
  rcases marks_after l c with ⟨-, hmarks⟩ | ⟨-, hroom, hmarks⟩ | ⟨-, -, hmarks⟩
  · rw [hmarks]
    exact h
  · rw [hmarks, List.length_cons]
    omega
  · rw [hmarks, List.length_cons]
    exact Nat.succ_le_succ (List.length_take_le ..)

theorem length_run_le_succ (rate : Nat) (calls : List Call) :
    ((ofRate rate).run calls).marks.length ≤ capacity + 1 := by
  induction calls using List.reverseRecOn with
  | nil => exact Nat.zero_le _
  | append_singleton calls c ih =>
    rw [run_append, run_singleton]
    exact length_after_le ih c

/-- Calls are made one after another. -/
def InOrder (calls : List Call) : Prop := calls.Pairwise fun c d => c.time ≤ d.time

/-- In no hour do more addresses call than there is room for. -/
def Sparse (calls : List Call) : Prop :=
  ∀ now, (callers (calls.filter fun c => c.time ≤ now ∧ now - c.time < lifetime)).card ≤ capacity

theorem Sparse.sublist (h : Sparse calls) (hsub : seen.Sublist calls) : Sparse seen :=
  fun now => Nat.le_trans (Finset.card_le_card (callers_mono (hsub.filter _).subset)) (h now)

/-- Buckets that are not too old were made within the hour, so if few addresses call within it there
is room after tidying up. -/
theorem Tracks.room_after_tidying (h : l.Tracks seen) (hordered : InOrder (seen ++ [c]))
    (hsparse : Sparse (seen ++ [c])) (hunknown : c.address ∉ l.addresses) :
    (l.marks.filter fun m => c.time - m.2 < lifetime).length < capacity := by
  have hsub := (List.filter_sublist (p := fun m : Address × Nat => c.time - m.2 < lifetime)
    (l := l.marks)).map Prod.fst
  refine Nat.lt_of_lt_of_le
    (length_lt_card (h.nodup.sublist hsub) (fun m hm => ?_) (fun hin => hunknown (hsub.subset hin))
      ?_) (hsparse c.time)
  · obtain ⟨hmark, hlive⟩ := List.mem_filter.mp hm
    obtain ⟨d, hd, rfl⟩ := h.called m hmark
    have hbefore : d.time ≤ c.time :=
      (List.pairwise_append.mp hordered).2.2 d hd c (List.mem_singleton_self c)
    refine Limiter.mem_callers.mpr ⟨d, List.mem_filter.mpr ⟨List.mem_append_left _ hd, ?_⟩, rfl⟩
    simpa [hbefore] using hlive
  · refine Limiter.mem_callers.mpr ⟨c, List.mem_filter.mpr ⟨by simp, ?_⟩, rfl⟩
    simp [lifetime, Bucket.second]

theorem length_run_le (rate : Nat) (hordered : InOrder calls) (hsparse : Sparse calls) :
    ((ofRate rate).run calls).marks.length ≤ capacity := by
  induction calls using List.reverseRecOn with
  | nil => exact Nat.zero_le _
  | append_singleton calls c ih =>
    have hbefore := ih (List.pairwise_append.mp hordered).1
      (hsparse.sublist (List.sublist_append_left _ _))
    rw [run_append, run_singleton]
    rcases marks_after ((ofRate rate).run calls) c with
      ⟨-, hmarks⟩ | ⟨-, hroom, hmarks⟩ | ⟨hunknown, -, hmarks⟩
    · rw [hmarks]
      exact hbefore
    · rw [hmarks, List.length_cons]
      exact hroom
    · have hlive := (tracks_run rate calls).room_after_tidying hordered hsparse hunknown
      rw [hmarks, List.length_cons, List.length_take]
      omega

/-! ## Floods -/

/-- As many addresses as given, from `10.0.0.0` upwards, that ask for a permit once each and all at
the same time. -/
def flood (n : Nat) : List Call := (List.range n).map fun i => ⟨0, .v4 (167772160 + i), true⟩

theorem flood_succ (n : Nat) : flood (n + 1) = flood n ++ [⟨0, .v4 (167772160 + n), true⟩] := by
  rw [flood, List.range_succ, List.map_append]
  rfl

theorem mem_flood {n : Nat} : c ∈ flood n ↔ ∃ i < n, c = ⟨0, .v4 (167772160 + i), true⟩ := by
  simp [flood, eq_comm]

theorem inOrder_flood (n : Nat) : InOrder (flood n) :=
  List.pairwise_map.mpr (List.pairwise_of_forall fun _ _ => Nat.le_refl 0)

theorem card_callers_flood (n : Nat) : (callers (flood n)).card = n := by
  have hnodup : ((flood n).map (·.address)).Nodup := by
    rw [flood, List.map_map]
    refine List.Nodup.map (fun i j hij => ?_) List.nodup_range
    have := Address.v4.inj hij
    omega
  rw [callers, List.toFinset_card_of_nodup hnodup, List.length_map, flood, List.length_map,
    List.length_range]

theorem length_run_flood (rate : Nat) :
    ((ofRate rate).run (flood (capacity + 1))).marks.length = capacity + 1 := by
  have hfew : (callers (flood capacity)).card ≤ capacity := Nat.le_of_eq (card_callers_flood _)
  have hlength := length_run_of_few rate hfew
  rw [card_callers_flood] at hlength
  have hlive : ((ofRate rate).run (flood capacity)).marks.filter (fun m => 0 - m.2 < lifetime) =
      ((ofRate rate).run (flood capacity)).marks := by
    refine List.filter_eq_self.mpr fun m _ => ?_
    rw [Nat.zero_sub]
    rfl
  rw [flood_succ, run_append, run_singleton]
  rcases marks_after ((ofRate rate).run (flood capacity)) ⟨0, .v4 (167772160 + capacity), true⟩ with
    ⟨hknown, -⟩ | ⟨-, hroom, -⟩ | ⟨-, -, hmarks⟩
  · obtain ⟨c, hc, hsame⟩ := mem_callers.mp ((tracks_run rate _).mem_callers hknown)
    obtain ⟨i, hi, rfl⟩ := mem_flood.mp hc
    have := Address.v4.inj hsame
    omega
  · rw [hlength] at hroom
    exact absurd hroom (Nat.lt_irrefl _)
  · rw [hmarks, List.length_cons, hlive, List.length_take, hlength, Nat.min_self]

/-! ## The bound -/

/-- There is never more than one bucket above the capacity, and none if in no hour more addresses
call than there is room for. -/
theorem buckets_bounded (rate : Nat) (hordered : InOrder calls) (n : Nat) :
    ((ofRate rate).run (calls.take n)).entries.length ≤ 10000 + 1 ∧
      (Sparse calls → ((ofRate rate).run (calls.take n)).entries.length ≤ 10000) := by
  rw [← length_marks]
  refine ⟨length_run_le_succ rate _, fun hsparse => ?_⟩
  exact length_run_le rate (hordered.sublist (List.take_sublist _ _))
    (hsparse.sublist (List.take_sublist _ _))

/-- There are as many addresses as there is room for, and an hour later one more calls. -/
theorem buckets_bounded_next_hour :
    let calls := flood 10000 ++ [⟨lifetime, .v4 0, false⟩]
    InOrder calls ∧ Sparse calls ∧ (callers calls).card = 10001 ∧
      ((ofRate 1).run calls).entries.length ≤ 10000 := by
  intro calls
  have hordered : InOrder calls := by
    refine List.pairwise_append.mpr ⟨inOrder_flood _, List.pairwise_singleton _ _, ?_⟩
    intro c hc d hd
    obtain ⟨i, -, rfl⟩ := mem_flood.mp hc
    exact Nat.zero_le _
  have hcallers : callers calls = callers (flood 10000) ∪ {Address.v4 0} := by
    rw [callers, List.map_append, List.toFinset_append]
    rfl
  have hnew : Address.v4 0 ∉ callers (flood 10000) := by
    intro hin
    obtain ⟨c, hc, hsame⟩ := mem_callers.mp hin
    obtain ⟨i, -, rfl⟩ := mem_flood.mp hc
    have := Address.v4.inj hsame
    omega
  have hsparse : Sparse calls := by
    intro now
    by_cases hlate : lifetime ≤ now
    · -- Whoever called in the first hour is forgotten by now.
      have hsub : callers (calls.filter fun c => c.time ≤ now ∧ now - c.time < lifetime) ⊆
          {.v4 0} := by
        intro a ha
        obtain ⟨c, hc, rfl⟩ := mem_callers.mp ha
        obtain ⟨hc, hlive⟩ := List.mem_filter.mp hc
        rcases List.mem_append.mp hc with hc | hc
        · obtain ⟨i, -, rfl⟩ := mem_flood.mp hc
          simp only [Nat.sub_zero, Bool.decide_and, Bool.and_eq_true, decide_eq_true_eq] at hlive
          omega
        · obtain rfl := List.mem_singleton.mp hc
          exact Finset.mem_singleton_self _
      exact Nat.le_trans (Finset.card_le_card hsub) (by simp [capacity])
    · have hsub : callers (calls.filter fun c => c.time ≤ now ∧ now - c.time < lifetime) ⊆
          callers (flood 10000) := by
        refine callers_mono fun c hc => ?_
        obtain ⟨hc, hlive⟩ := List.mem_filter.mp hc
        rcases List.mem_append.mp hc with hc | hc
        · exact hc
        · obtain rfl := List.mem_singleton.mp hc
          simp only [Bool.decide_and, Bool.and_eq_true, decide_eq_true_eq] at hlive
          exact absurd hlive.1 hlate
      exact Nat.le_trans (Finset.card_le_card hsub) (Nat.le_of_eq (card_callers_flood 10000))
  refine ⟨hordered, hsparse, ?_, ?_⟩
  · rw [hcallers, Finset.card_union_of_disjoint (Finset.disjoint_singleton_right.mpr hnew),
      card_callers_flood, Finset.card_singleton]
  · have hbound := (buckets_bounded 1 hordered calls.length).2 hsparse
    rwa [List.take_length] at hbound

/-- If one more address calls than there is room for, there is one bucket more than that. -/
theorem buckets_over_capacity :
    InOrder (flood 10001) ∧ ¬((ofRate 1).run (flood 10001)).entries.length ≤ capacity := by
  refine ⟨inOrder_flood _, ?_⟩
  rw [← length_marks]
  exact Nat.not_le_of_lt (Nat.lt_of_succ_le (Nat.le_of_eq (length_run_flood 1).symm))

end Limiter

end Storyboard.Service
