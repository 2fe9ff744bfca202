import Storyboard.Proofs.Service.Buckets
import Storyboard.Service.Overlap

/-!
# One bucket for all look-ups of an address

Look-ups of one address that overlap get the same bucket as long as none of them makes one while
another has found the collection full and has not made its own yet (`Traffic.buckets_shared`). A
look-up does not look again after tidying up, so otherwise it puts a second bucket in the place of
the first (`Traffic.buckets_not_shared`).

What one turn does to the buckets of one address is said by `Traffic.Effect`; the rest follows from
it.
-/

namespace Storyboard.Service

open Net (Address)

namespace Limiter

variable {l : Limiter} {a b : Address} {now : Nat}

theorem find?_insert_self (now : Nat) (a : Address) (l : Limiter) :
    (insert now a l).find? a = some ⟨a, .fresh l.perSecond now, now⟩ := by
  simp [find?, insert]

theorem find?_insert_of_ne (h : b ≠ a) (now : Nat) (l : Limiter) :
    (insert now b l).find? a = l.find? a := by
  have herased (entries : List LimiterEntry) :
      (entries.eraseP (·.address = b)).find? (·.address = a) =
        entries.find? (·.address = a) := by
    induction entries with
    | nil => rfl
    | cons e rest ih =>
      by_cases hb : e.address = b
      · simp [hb, h]
      · simp [hb, List.find?_cons, ih]
  rw [find?, insert, List.find?_cons_of_neg (by simpa using h), herased, find?]

/-- Tidying up makes no bucket. -/
theorem isSome_of_tidy (h : ((tidy now l).1.find? a).isSome = true) :
    (l.find? a).isSome = true := by
  rw [find?, entries_tidy, List.find?_isSome] at h
  obtain ⟨e, he, ha⟩ := h
  rw [find?, List.find?_isSome]
  exact ⟨e, (List.mem_filter.mp (List.mem_of_mem_take he)).1, ha⟩

/-- A bucket that has just been made outlives tidying up. -/
theorem find?_tidy_insert (now : Nat) (a : Address) (l : Limiter) :
    ((tidy now (insert now a l)).1.find? a).isSome = true := by
  have hlive : isLive now ⟨a, .fresh l.perSecond now, now⟩ = true := by
    simp [isLive, lifetime, Bucket.second]
  rw [find?, entries_tidy, insert, List.filter_cons_of_pos hlive, capacity, List.take_succ_cons,
    List.find?_cons_of_pos (by simp)]
  rfl

end Limiter

namespace Traffic

/-! ## Runs -/

/-- The limiter before anybody looks up a bucket. -/
def start (l : Limiter) : Traffic := { limiter := l }

/-- Something holds of every turn and of the state in which it is taken. -/
def Along (p : Traffic → Turn → Prop) : Traffic → List Turn → Prop
  | _, [] => True
  | t, turn :: rest => p t turn ∧ Along p (t.step turn) rest

/-- The numbers of the buckets that look-ups of an address have got, oldest first. -/
def numbers (a : Address) (t : Traffic) : List Nat :=
  (t.handed.filter (·.address = a)).map (·.number)

/-- A look-up of an address has found the collection full and no bucket made yet. -/
def IsPending (a : Address) (t : Traffic) : Prop :=
  ∃ u ∈ t.lookUps, u.address = a ∧ (u.stage = .crowded ∨ u.stage = .tidied)

/-- A bucket is made for an address in a turn. -/
def Makes (a : Address) (t : Traffic) (turn : Turn) : Prop :=
  (t.step turn).made.count a ≠ t.made.count a

/-- A bucket is made for an address while another look-up of it is about to make one, too. -/
def Crosses (a : Address) (t : Traffic) (turn : Turn) : Prop :=
  Makes a t turn ∧ IsPending a (t.step turn)

/-- The bucket of an address is forgotten in a turn. -/
def Forgets (a : Address) (t : Traffic) (turn : Turn) : Prop :=
  (t.limiter.find? a).isSome = true ∧ ((t.step turn).limiter.find? a).isSome = false

/-- A bucket is made for an address that has one. -/
def Overwrites (a : Address) (t : Traffic) (turn : Turn) : Prop :=
  (t.limiter.find? a).isSome = true ∧ Makes a t turn

variable {t : Traffic} {u : LookUp} {a b : Address} {turn : Turn} {index now : Nat}
  {turns before during : List Turn}

/-! ## What a turn does -/

theorem numbers_hand_self (a : Address) (t : Traffic) :
    (t.hand a).numbers a = t.numbers a ++ [t.made.count a] := by
  simp [numbers, hand]

theorem numbers_hand_of_ne (h : b ≠ a) : (t.hand b).numbers a = t.numbers a := by
  simp [numbers, hand, h]

theorem numbers_make_self (now : Nat) (a : Address) (t : Traffic) :
    (t.make now a).numbers a = t.numbers a ++ [t.made.count a + 1] := by
  rw [make, numbers_hand_self, List.count_cons_self]
  rfl

theorem step_advance (h : t.lookUps[index]? = some u) : t.step (.advance index now) =
    { (t.proceed now u).2 with
      lookUps := t.lookUps.set index { u with stage := (t.proceed now u).1 } } := by
  simp only [step, h]

/-- Who is about to make a bucket has been so before, or is the look-up whose turn it was. -/
theorem isPending_of_set {after : Traffic} {v : LookUp}
    (hset : after.lookUps = t.lookUps.set index v) (h : after.IsPending a) :
    t.IsPending a ∨ v.address = a ∧ (v.stage = .crowded ∨ v.stage = .tidied) := by
  obtain ⟨w, hw, haddress, hstage⟩ := h
  rw [hset] at hw
  rcases List.mem_or_eq_of_mem_set hw with hw | rfl
  · exact .inl ⟨w, hw, haddress, hstage⟩
  · exact .inr ⟨haddress, hstage⟩

/-- No bucket of an address is made or handed out; one may be forgotten. -/
structure Leaves (a : Address) (t after : Traffic) : Prop where
  /-- None is made. -/
  made_eq : after.made.count a = t.made.count a
  /-- None is handed out. -/
  numbers_eq : after.numbers a = t.numbers a
  /-- If there is one, it has been there. -/
  known : (after.limiter.find? a).isSome = true → (t.limiter.find? a).isSome = true

/-- What a turn does to the buckets of an address. -/
inductive Effect (a : Address) (t after : Traffic) : Prop
  /-- No bucket is made or handed out. A look-up that gets ready to make one has seen none. -/
  | aside (leaves : Leaves a t after)
      (pending : after.IsPending a → t.IsPending a ∨ t.limiter.find? a = none)
  /-- The bucket is handed out. -/
  | found (known : (t.limiter.find? a).isSome = true)
      (made_eq : after.made.count a = t.made.count a)
      (numbers_eq : after.numbers a = t.numbers a ++ [t.made.count a])
      (pending : after.IsPending a → t.IsPending a)
  /-- A bucket is made and handed out. If there is one already, it was not seen. -/
  | made (unseen : (t.limiter.find? a).isSome = true → t.IsPending a)
      (known : (after.limiter.find? a).isSome = true)
      (made_eq : after.made.count a = t.made.count a + 1)
      (numbers_eq : after.numbers a = t.numbers a ++ [t.made.count a + 1])

/-- A look-up of another address makes no bucket of an address and hands none out. -/
theorem proceed_of_ne (h : u.address ≠ a) (now : Nat) (t : Traffic) :
    Leaves a t (t.proceed now u).2 := by
  have hhand : Leaves a t (t.hand u.address) := ⟨rfl, numbers_hand_of_ne h, id⟩
  have hmake : Leaves a t (t.make now u.address) := by
    refine ⟨List.count_cons_of_ne h, numbers_hand_of_ne h, fun hknown => ?_⟩
    rwa [← Limiter.find?_insert_of_ne h now t.limiter]
  unfold proceed
  split
  · split
    · exact hhand
    · exact ⟨rfl, rfl, id⟩
  · split
    · exact hhand
    · split
      · exact ⟨rfl, rfl, id⟩
      · exact hmake
  · exact ⟨rfl, rfl, Limiter.isSome_of_tidy⟩
  · exact hmake
  · exact ⟨rfl, rfl, id⟩

/-- What a look-up does to the buckets of its address. -/
theorem effect_of_own (hu : t.lookUps[index]? = some u) (now : Nat) :
    Effect u.address t (t.step (.advance index now)) := by
  have hmem : u ∈ t.lookUps := List.mem_of_getElem? hu
  rw [step_advance hu]
  obtain ⟨a, stage⟩ := u
  cases stage with
  | waiting =>
    cases hfound : t.limiter.find? a with
    | some e =>
      simp only [proceed, hfound]
      exact .found (by rw [hfound]; rfl) rfl (numbers_hand_self a t) fun h =>
        (isPending_of_set rfl h).resolve_right (by simp)
    | none =>
      simp only [proceed, hfound]
      exact .aside ⟨rfl, rfl, id⟩ fun _ => .inr hfound
  | missed =>
    cases hfound : t.limiter.find? a with
    | some e =>
      simp only [proceed, hfound]
      exact .found (by rw [hfound]; rfl) rfl (numbers_hand_self a t) fun h =>
        (isPending_of_set rfl h).resolve_right (by simp)
    | none =>
      by_cases hfull : Limiter.capacity ≤ t.limiter.entries.length
      · simp only [proceed, hfound, if_pos hfull]
        exact .aside ⟨rfl, rfl, id⟩ fun _ => .inr hfound
      · simp only [proceed, hfound, if_neg hfull]
        refine .made (fun h => ?_) ?_ List.count_cons_self (numbers_make_self now a t)
        · rw [hfound] at h
          exact absurd h (by simp)
        · exact congrArg Option.isSome (Limiter.find?_insert_self now a t.limiter)
  | crowded =>
    exact .aside ⟨rfl, rfl, Limiter.isSome_of_tidy⟩ fun _ => .inl ⟨_, hmem, rfl, .inl rfl⟩
  | tidied =>
    -- Nobody looks whether there is a bucket by now.
    refine .made (fun _ => ⟨_, hmem, rfl, .inr rfl⟩) ?_ List.count_cons_self
      (numbers_make_self now a t)
    exact congrArg Option.isSome (Limiter.find?_insert_self now a t.limiter)
  | done =>
    simp only [proceed]
    exact .aside ⟨rfl, rfl, id⟩ fun h => .inl ((isPending_of_set rfl h).resolve_right (by simp))

theorem step_effect (a : Address) (t : Traffic) (turn : Turn) : Effect a t (t.step turn) := by
  cases turn with
  | arrive b =>
    refine .aside ⟨rfl, rfl, id⟩ fun ⟨u, hu, haddress, hstage⟩ =>
      .inl ⟨u, ?_, haddress, hstage⟩
    rcases List.mem_append.mp hu with hu | hu
    · exact hu
    · obtain rfl := List.mem_singleton.mp hu
      exact absurd hstage (by simp)
  | advance index now =>
    cases hu : t.lookUps[index]? with
    | none =>
      have hsame : t.step (.advance index now) = t := by simp only [step, hu]
      rw [hsame]
      exact .aside ⟨rfl, rfl, id⟩ .inl
    | some u =>
      by_cases haddress : u.address = a
      · exact haddress ▸ effect_of_own hu now
      · have hleaves := proceed_of_ne haddress now t
        have hset : (t.step (.advance index now)).lookUps =
            t.lookUps.set index { u with stage := (t.proceed now u).1 } := by
          rw [step_advance hu]
        refine .aside ?_ fun h =>
          .inl ((isPending_of_set hset h).resolve_right fun hown => haddress hown.1)
        rw [step_advance hu]
        exact ⟨hleaves.made_eq, hleaves.numbers_eq, hleaves.known⟩

/-- A look-up during which nothing else happens does what a look-up does. -/
theorem run_alone (l : Limiter) (a : Address) (now : Nat) :
    ((start l).run (.arrive a :: List.replicate 4 (.advance 0 now))).limiter =
        (l.enroll now a).1 ∧
      ((start l).run (.arrive a :: List.replicate 4 (.advance 0 now))).logs =
        (l.enroll now a).2 := by
  unfold Limiter.enroll
  cases hfound : l.find? a with
  | some e =>
    simp [List.replicate, run, start, step, proceed, hand, hfound]
  | none =>
    by_cases hfull : Limiter.capacity ≤ l.entries.length
    · simp [List.replicate, run, start, step, proceed, hand, make, hfound, hfull]
    · simp [List.replicate, run, start, step, proceed, hand, make, hfound, hfull]

/-! ## What turns keep -/

/-- A look-up that is about to make a bucket for an address makes the first one. -/
def IsClear (a : Address) (t : Traffic) : Prop :=
  (t.limiter.find? a).isSome = true → ¬t.IsPending a

theorem isClear_start (l : Limiter) (a : Address) : (start l).IsClear a := by
  rintro - ⟨u, hu, -⟩
  exact absurd hu (by simp [start])

theorem IsClear.step (h : t.IsClear a) (hcross : ¬Crosses a t turn) :
    (t.step turn).IsClear a := by
  intro hknown hpending
  cases step_effect a t turn with
  | aside hleaves hcause =>
    have hbefore := hleaves.known hknown
    rcases hcause hpending with hcause | hnone
    · exact h hbefore hcause
    · rw [hnone] at hbefore
      exact absurd hbefore (by simp)
  | found hbefore _ _ hcause => exact h hbefore (hcause hpending)
  | made _ _ hmade _ => exact hcross ⟨by rw [Makes, hmade]; omega, hpending⟩

/-- Where nobody is about to make a second bucket, none is put in the place of another. -/
theorem IsClear.not_overwrites (h : t.IsClear a) (turn : Turn) : ¬Overwrites a t turn := by
  rintro ⟨hknown, hmakes⟩
  cases step_effect a t turn with
  | aside hleaves => exact hmakes hleaves.made_eq
  | found _ hmade => exact hmakes hmade
  | made hunseen => exact h hknown (hunseen hknown)

theorem run_append (t : Traffic) (before during : List Turn) :
    t.run (before ++ during) = (t.run before).run during := List.foldl_append

theorem along_append {p : Traffic → Turn → Prop} :
    Along p t (before ++ during) ↔ Along p t before ∧ Along p (t.run before) during := by
  induction before generalizing t with
  | nil => simp [Along, run]
  | cons turn rest ih =>
    rw [List.cons_append, Along, Along, ih, and_assoc]
    rfl

theorem IsClear.run (h : t.IsClear a) (hcross : Along (fun t turn => ¬Crosses a t turn) t turns) :
    (t.run turns).IsClear a ∧ Along (fun t turn => ¬Overwrites a t turn) t turns := by
  induction turns generalizing t with
  | nil => exact ⟨h, trivial⟩
  | cons turn rest ih =>
    obtain ⟨hclear, hrest⟩ := ih (h.step hcross.1) hcross.2
    exact ⟨hclear, h.not_overwrites turn, hrest⟩

/-- All look-ups of an address that have got a bucket since there were some numbers of buckets have
got the same one, which the address still has. -/
def IsShared (a : Address) (given : List Nat) (t : Traffic) : Prop :=
  ∃ n, t.numbers a = given ++ List.replicate n (t.made.count a) ∧
    (n ≠ 0 → (t.limiter.find? a).isSome = true)

theorem IsShared.step {given : List Nat} (hshared : t.IsShared a given) (hclear : t.IsClear a)
    (hkept : ¬Forgets a t turn) : (t.step turn).IsShared a given := by
  obtain ⟨n, hnumbers, hknown⟩ := hshared
  have hstays (h : (t.limiter.find? a).isSome = true) :
      ((t.step turn).limiter.find? a).isSome = true := by
    by_contra hgone
    exact hkept ⟨h, by simpa using hgone⟩
  cases step_effect a t turn with
  | aside hleaves =>
    refine ⟨n, ?_, fun hn => hstays (hknown hn)⟩
    rw [hleaves.numbers_eq, hleaves.made_eq, hnumbers]
  | found hfound hmade hhanded =>
    refine ⟨n + 1, ?_, fun _ => hstays hfound⟩
    rw [hhanded, hmade, hnumbers, List.append_assoc, ← List.replicate_succ']
  | made hunseen hnew hmade hhanded =>
    -- There was no bucket yet, so nobody has got one.
    have hnobody : n = 0 := by
      by_contra hn
      exact hclear (hknown hn) (hunseen (hknown hn))
    refine ⟨1, ?_, fun _ => hnew⟩
    rw [hhanded, hmade, hnumbers, hnobody]
    simp

theorem IsShared.run {given : List Nat} (hshared : t.IsShared a given) (hclear : t.IsClear a)
    (hcross : Along (fun t turn => ¬Crosses a t turn) t turns)
    (hkept : Along (fun t turn => ¬Forgets a t turn) t turns) : (t.run turns).IsShared a given := by
  induction turns generalizing t with
  | nil => exact hshared
  | cons turn rest ih =>
    exact ih (hshared.step hclear hkept.1) (hclear.step hcross.1) hcross.2 hkept.2

/-- When ten thousand addresses have called, the collection is full, and others are new to it. -/
theorem flood_full :
    ((Limiter.ofRate 1).run (Limiter.flood 10000)).find? (.v4 0) = none ∧
      Limiter.capacity ≤ ((Limiter.ofRate 1).run (Limiter.flood 10000)).entries.length := by
  constructor
  · refine Limiter.find?_eq_none_iff.mpr fun hin => ?_
    obtain ⟨c, hc, haddress⟩ :=
      Limiter.mem_callers.mp ((Limiter.tracks_run 1 _).mem_callers hin)
    obtain ⟨i, -, rfl⟩ := Limiter.mem_flood.mp hc
    have hvalue := Address.v4.inj haddress
    omega
  · have hfew : (Limiter.callers (Limiter.flood 10000)).card ≤ Limiter.capacity :=
      Nat.le_of_eq (Limiter.card_callers_flood 10000)
    rw [← Limiter.length_marks, Limiter.length_run_of_few 1 hfew, Limiter.card_callers_flood]
    exact Nat.le_refl _

/-- Look-ups of an address get the same bucket for as long as it is not forgotten, and no bucket is
put in its place, if no bucket is made for the address while another look-up of it is about to make
one, too. -/
theorem buckets_shared (l : Limiter)
    (halone : Along (fun t turn => ¬Crosses a t turn) (start l) (before ++ during))
    (hkept : Along (fun t turn => ¬Forgets a t turn) ((start l).run before) during) :
    (∃ n number, ((start l).run (before ++ during)).numbers a =
        ((start l).run before).numbers a ++ List.replicate n number) ∧
      Along (fun t turn => ¬Overwrites a t turn) (start l) (before ++ during) := by
  obtain ⟨hbefore, hduring⟩ := along_append.mp halone
  have hclear := ((isClear_start l a).run hbefore).1
  have hshared : ((start l).run before).IsShared a (((start l).run before).numbers a) :=
    ⟨0, by simp, fun h => absurd rfl h⟩
  obtain ⟨n, hnumbers, -⟩ := hshared.run hclear hduring hkept
  refine ⟨⟨n, ((start l).run (before ++ during)).made.count a, ?_⟩,
    ((isClear_start l a).run halone).2⟩
  rw [run_append, hnumbers]

/-- Two look-ups of an address, the second of which waits while the first one makes the bucket, and
finds it when it looks again. -/
def waiting (a : Address) (now : Nat) : List Turn :=
  [.arrive a, .arrive a, .advance 0 now, .advance 1 now, .advance 0 now, .advance 0 now,
    .advance 0 now, .advance 1 now]

theorem along_waiting {l : Limiter} (hnew : l.find? a = none)
    (hfull : Limiter.capacity ≤ l.entries.length) (now : Nat) :
    Along (fun t turn => ¬Crosses a t turn) (start l) (waiting a now) ∧
      Along (fun t turn => ¬Forgets a t turn) (start l) (waiting a now) ∧
      ((start l).run (waiting a now)).numbers a = [1, 1] := by
  refine ⟨?_, ?_, ?_⟩
  · simp [waiting, Along, Crosses, Makes, IsPending, start, Traffic.step, proceed, hand, make, hnew,
      hfull, Limiter.find?_insert_self]
  · simp [waiting, Along, Forgets, start, Traffic.step, proceed, hand, make, hnew, hfull,
      Limiter.find?_insert_self]
  · simp [waiting, run, start, Traffic.step, proceed, hand, make, hnew, hfull, numbers,
      Limiter.find?_insert_self]

/-- Ten thousand addresses have called, and then one more calls twice. -/
theorem buckets_shared_full :
    let l := (Limiter.ofRate 1).run (Limiter.flood 10000)
    let a : Address := .v4 0
    Along (fun t turn => ¬Crosses a t turn) (start l) (waiting a 0) ∧
      Along (fun t turn => ¬Forgets a t turn) (start l) (waiting a 0) ∧
      ((start l).run (waiting a 0)).numbers a = [1, 1] ∧
      Along (fun t turn => ¬Overwrites a t turn) (start l) (waiting a 0) := by
  intro l a
  obtain ⟨hnew, hfull⟩ := flood_full
  obtain ⟨halone, hkept, hnumbers⟩ := along_waiting hnew hfull 0
  obtain ⟨-, hwhole⟩ := @buckets_shared a [] (waiting a 0) l halone hkept
  exact ⟨halone, hkept, hnumbers, hwhole⟩

example :
    let a : Address := .v4 0
    ((start (.ofRate 1)).run [.arrive a, .arrive a, .advance 0 0, .advance 1 0, .advance 0 0,
      .advance 1 0]).numbers a = [1, 1] := by decide

/-! ## Two buckets -/

/-- Two look-ups of an address, both of which find the collection full before one of them makes a
bucket. -/
def crossing (a : Address) (now : Nat) : List Turn :=
  [.arrive a, .arrive a, .advance 0 now, .advance 1 now, .advance 0 now, .advance 1 now,
    .advance 0 now, .advance 0 now, .advance 1 now, .advance 1 now]

/-- The look-up that makes its bucket last does not see that there is one by then, although it has
not been forgotten. -/
theorem crossing_splits {l : Limiter} (hnew : l.find? a = none)
    (hfull : Limiter.capacity ≤ l.entries.length) (now : Nat) :
    ((start l).run (crossing a now)).numbers a = [1, 2] ∧
      Along (fun t turn => ¬Forgets a t turn) (start l) (crossing a now) ∧
      ¬Along (fun t turn => ¬Overwrites a t turn) (start l) (crossing a now) := by
  have hstill := Limiter.find?_tidy_insert now a (Limiter.tidy now l).1
  refine ⟨?_, ?_, ?_⟩
  · simp [crossing, run, start, Traffic.step, proceed, hand, make, hnew, hfull, numbers]
  · simp [crossing, Along, Forgets, start, Traffic.step, proceed, hand, make, hnew, hfull,
      Limiter.find?_insert_self, Option.isSome_iff_ne_none.mp hstill]
  · simp [crossing, Along, Overwrites, Makes, start, Traffic.step, proceed, hand, make, hnew, hfull,
      Limiter.find?_insert_self, hstill]

/-- Ten thousand addresses have called, and then one more calls twice at once. -/
theorem buckets_not_shared :
    let l := (Limiter.ofRate 1).run (Limiter.flood 10000)
    let a : Address := .v4 0
    Along (fun t turn => ¬Forgets a t turn) (start l) (crossing a 0) ∧
      ¬(∃ n number, ((start l).run (crossing a 0)).numbers a = List.replicate n number) ∧
      ¬Along (fun t turn => ¬Overwrites a t turn) (start l) (crossing a 0) := by
  intro l a
  obtain ⟨hnew, hfull⟩ := flood_full
  obtain ⟨hnumbers, hkept, hoverwritten⟩ := crossing_splits hnew hfull 0
  refine ⟨hkept, ?_, hoverwritten⟩
  rintro ⟨n, number, hsame⟩
  rw [hnumbers] at hsame
  have hall : ∀ m ∈ [1, 2], m = number := fun m hm => List.eq_of_mem_replicate (hsame ▸ hm)
  have hfirst := hall 1 (by simp)
  have hsecond := hall 2 (by simp)
  omega

end Traffic

end Storyboard.Service
