import Mathlib.Logic.Relation
import TaintSeed.Proofs.Regex.Meaning

/-!
# The Search Finds What There Is

A text is read once, and at each place the search knows the instructions at
which some match may stand. Getting from the instructions of one place to those
of the next takes two steps. First everything is reached that needs no
character, over forks and over conditions that hold here; then the instructions
that take a character are tried on the next one.

The first step is a work list with marks. `Explores` is what holds of it at any
time: whatever is marked can be reached, and what can be reached from there in
one step is marked or still to be looked at. Looking at an instruction either
finds it marked, and then the list gets shorter, or marks it, and then it may
get longer by one. Twice the number of unmarked instructions plus the length of
the list falls in both cases, which is the bound that the search is given.

When the list is empty, the marked instructions are exactly those that can be
reached. A match may end here if one of them accepts, and the rest is an
induction on the text.

## Main definitions

* `Regex.Instr.silentNext`: Where an instruction leads without a character.
* `Regex.Silent`: One step of the program without a character.
* `Regex.Explores`: What the work list has found out so far.

## Theorems

* `Regex.ends_iff`: A run goes on silently, and then ends or takes a character.
* `Regex.advance_explores`: The work list comes to an end within its bound.
* `Regex.search_iff`: The search finds a match that has begun or that begins later.
* `Regex.matches_program_iff`: The program of an expression matches the texts in which the
  expression is found.
-/

namespace TaintSeed.Regex

open Relation (ReflTransGen)

/-- The instructions that come next at a place, without a character being taken. -/
def Instr.silentNext (place : Place) : Instr → List Nat
  | .accept => []
  | .take _ _ => []
  | .fork l r => [l, r]
  | .check a n => if a.holds place then [n] else []

/-- A step of the program without a character. -/
def Silent (code : Code) (place : Place) (i j : Nat) : Prop :=
  ∃ x, code[i]? = some x ∧ j ∈ x.silentNext place

theorem leads_iff (x : Instr) (p q : Spot) (j : Nat) :
    x.Leads p j q ↔ q = p ∧ j ∈ x.silentNext p.place ∨ ∃ s, x = .take s j ∧ Spans (.one s) p q := by
  cases x with
  | accept => simp [Instr.Leads, Instr.silentNext]
  | take s n =>
      simp only [Instr.Leads, Instr.silentNext, List.not_mem_nil, and_false, false_or,
        Instr.take.injEq]
      constructor
      · rintro ⟨rfl, h⟩
        exact ⟨s, ⟨rfl, rfl⟩, h⟩
      · rintro ⟨s, ⟨rfl, rfl⟩, h⟩
        exact ⟨rfl, h⟩
  | fork l r => simp [Instr.Leads, Instr.silentNext, and_comm]
  | check a n =>
      by_cases ha : a.holds p.place = true
      · simp [Instr.Leads, Instr.silentNext, ha, and_comm]
      · simp [Instr.Leads, Instr.silentNext, ha]

/-- A run takes silent steps first, and then it ends or takes a character. -/
theorem ends_iff (code : Code) (pc : Nat) (p : Spot) :
    (∃ n, Ends code n pc p) ↔ ∃ i, ReflTransGen (Silent code p.place) pc i ∧
      (code[i]? = some .accept ∨ ∃ s next q, code[i]? = some (.take s next) ∧
        Spans (.one s) p q ∧ ∃ n, Ends code n next q) := by
  constructor
  · rintro ⟨n, h⟩
    induction h with
    | accept found => exact ⟨_, .refl, Or.inl found⟩
    | step found leads ends ih =>
        rcases (leads_iff _ _ _ _).1 leads with ⟨rfl, hsilent⟩ | ⟨s, rfl, hspans⟩
        · rcases ih with ⟨i, hreach, hi⟩
          exact ⟨i, .head ⟨_, found, hsilent⟩ hreach, hi⟩
        · exact ⟨_, .refl, Or.inr ⟨s, _, _, found, hspans, _, ends⟩⟩
  · rintro ⟨i, hreach, hi⟩
    induction hreach using ReflTransGen.head_induction_on with
    | refl =>
        rcases hi with found | ⟨s, next, q, found, hspans, n, hends⟩
        · exact ⟨0, .accept found⟩
        · exact ⟨n + 1, .step found ⟨rfl, hspans⟩ hends⟩
    | head hstep _ ih =>
        rcases hstep with ⟨x, found, hsilent⟩
        rcases ih with ⟨n, hends⟩
        exact ⟨n + 1, .step found ((leads_iff _ _ _ _).2 (Or.inl ⟨rfl, hsilent⟩)) hends⟩

/-! ## The work list -/

namespace Front

/-- The instruction is marked. -/
def Marked (f : Front) (i : Nat) : Prop := f.reached[i]? = some true

/-- The front after an instruction has been looked at. -/
def visit (f : Front) (pc : Nat) (x : Instr) : Front where
  reached := f.reached.setIfInBounds pc true
  takers := match x with
    | .take s next => (s, next) :: f.takers
    | _ => f.takers
  accepts := match x with
    | .accept => true
    | _ => f.accepts

/-- The number of instructions that are not marked. -/
def unmarked (f : Front) : Nat := f.reached.count false

theorem marked_visit (f : Front) (pc : Nat) (x : Instr) (hpc : pc < f.reached.size) (i : Nat) :
    (f.visit pc x).Marked i ↔ f.Marked i ∨ i = pc := by
  unfold Marked visit
  by_cases hi : pc = i
  · subst hi
    simp [hpc]
  · simp [Array.getElem?_setIfInBounds_ne hi, Ne.symm hi]

theorem unmarked_visit (f : Front) (pc : Nat) (x : Instr) (hpc : f.reached[pc]? = some false) :
    (f.visit pc x).unmarked + 1 = f.unmarked := by
  rcases Array.getElem?_eq_some_iff.1 hpc with ⟨hlt, hget⟩
  have hpos : 0 < f.reached.count false :=
    Array.count_pos_iff.2 (hget ▸ Array.getElem_mem hlt)
  unfold unmarked visit
  rw [Array.setIfInBounds, dif_pos hlt, Array.count_set hlt, hget]
  simp
  omega

theorem accepts_visit (f : Front) (pc : Nat) (x : Instr) :
    (f.visit pc x).accepts = true ↔ f.accepts = true ∨ x = .accept := by
  cases x with
  | accept => simp [visit]
  | take s n => simp [visit]
  | fork l r => simp [visit]
  | check a n => simp [visit]

theorem mem_takers_visit (f : Front) (pc : Nat) (x : Instr) (s : CharSet) (n : Nat) :
    (s, n) ∈ (f.visit pc x).takers ↔ (s, n) ∈ f.takers ∨ x = .take s n := by
  cases x with
  | accept => simp [visit]
  | take t k => simp [visit, or_comm, eq_comm]
  | fork l r => simp [visit]
  | check a k => simp [visit]

end Front

theorem advance_nil (code : Code) (place : Place) (fuel : Nat) (f : Front) :
    advance code place fuel [] f = f := by
  cases fuel with
  | zero => rfl
  | succ fuel => rfl

theorem advance_skip (code : Code) (place : Place) (fuel pc : Nat) (rest : List Nat) (f : Front)
    (h : f.reached[pc]? ≠ some false) :
    advance code place (fuel + 1) (pc :: rest) f = advance code place fuel rest f := by
  have hget : f.reached.getD pc true = true := by
    rw [Array.getD_eq_getD_getElem?]
    cases hpc : f.reached[pc]? with
    | none => rfl
    | some b =>
        cases b with
        | true => rfl
        | false => exact absurd hpc h
  rw [advance, if_pos hget]

theorem advance_visit (code : Code) (place : Place) (fuel pc : Nat) (rest : List Nat) (f : Front)
    (x : Instr) (h : f.reached[pc]? = some false) (hx : code[pc]? = some x) :
    advance code place (fuel + 1) (pc :: rest) f
      = advance code place fuel (x.silentNext place ++ rest) (f.visit pc x) := by
  have hget : ¬ f.reached.getD pc true = true := by simp [Array.getD_eq_getD_getElem?, h]
  have hinstr : code.getD pc .accept = x := by simp [Array.getD_eq_getD_getElem?, hx]
  rw [advance, if_neg hget, hinstr]
  cases x with
  | accept => rfl
  | take s next => rfl
  | fork l r => rfl
  | check a next =>
      by_cases ha : a.holds place = true
      · simp only [if_pos ha, Instr.silentNext]
        rfl
      · simp only [if_neg ha, Instr.silentNext]
        rfl

/-- What the work list has found out, begun at the instructions `first`. -/
structure Explores (code : Code) (place : Place) (first pending : List Nat) (f : Front) : Prop where
  size : f.reached.size = code.size
  /-- What is marked or waits can be reached. -/
  sound : ∀ i, f.Marked i ∨ i ∈ pending → ∃ s ∈ first, ReflTransGen (Silent code place) s i
  /-- The first instructions are marked, or wait. -/
  begun : ∀ i ∈ first, i < code.size → f.Marked i ∨ i ∈ pending
  /-- What comes next is marked, or waits. -/
  closed : ∀ i j, f.Marked i → Silent code place i j → j < code.size → f.Marked j ∨ j ∈ pending
  accepts : f.accepts = true ↔ ∃ i, f.Marked i ∧ code[i]? = some .accept
  takers : ∀ s n, (s, n) ∈ f.takers ↔ ∃ i, f.Marked i ∧ code[i]? = some (.take s n)

namespace Explores

variable {code : Code} {place : Place} {first rest : List Nat} {f : Front} {pc : Nat}

/-- At the beginning everything waits. -/
theorem start (code : Code) (place : Place) (first : List Nat) :
    Explores code place first first ⟨Array.replicate code.size false, [], false⟩ := by
  have hnone : ∀ i, ¬ Front.Marked ⟨Array.replicate code.size false, [], false⟩ i := by
    intro i hi
    simp [Front.Marked, Array.getElem?_replicate] at hi
  refine ⟨by simp, ?_, fun i hi _ => Or.inr hi, fun i j hi => absurd hi (hnone i), ?_, ?_⟩
  · rintro i (hi | hi)
    · exact absurd hi (hnone i)
    · exact ⟨i, hi, .refl⟩
  · simp [hnone]
  · simp [hnone]

/-- An instruction that is marked already, or that is none, needs not be looked at. -/
theorem skip (h : Explores code place first (pc :: rest) f) (hpc : f.reached[pc]? ≠ some false) :
    Explores code place first rest f := by
  have hmarked : pc < code.size → f.Marked pc := by
    intro hlt
    rw [← h.size] at hlt
    unfold Front.Marked
    rw [Array.getElem?_eq_getElem hlt] at hpc ⊢
    simpa using hpc
  have hgone : ∀ i, i < code.size → f.Marked i ∨ i ∈ pc :: rest → f.Marked i ∨ i ∈ rest := by
    rintro i hi (hm | hm)
    · exact Or.inl hm
    · rcases List.mem_cons.1 hm with rfl | hm
      · exact Or.inl (hmarked hi)
      · exact Or.inr hm
  exact ⟨h.size, fun i hi => h.sound i (hi.imp_right (List.mem_cons_of_mem pc)),
    fun i hi hlt => hgone i hlt (h.begun i hi hlt),
    fun i j hi hj hlt => hgone j hlt (h.closed i j hi hj hlt), h.accepts, h.takers⟩

/-- An instruction is marked, and what comes next waits from now on. -/
theorem visit {x : Instr} (h : Explores code place first (pc :: rest) f) (hx : code[pc]? = some x) :
    Explores code place first (x.silentNext place ++ rest) (f.visit pc x) := by
  have hlt : pc < f.reached.size := by
    rw [h.size]
    exact (Array.getElem?_eq_some_iff.1 hx).1
  have hmarked := Front.marked_visit f pc x hlt
  have hkept : ∀ i, f.Marked i ∨ i ∈ pc :: rest →
      (f.visit pc x).Marked i ∨ i ∈ x.silentNext place ++ rest := by
    rintro i (hi | hi)
    · exact Or.inl ((hmarked i).2 (Or.inl hi))
    · rcases List.mem_cons.1 hi with rfl | hi
      · exact Or.inl ((hmarked i).2 (Or.inr rfl))
      · exact Or.inr (List.mem_append_right _ hi)
  refine ⟨?_, ?_, ?_, ?_, ?_, ?_⟩
  · rw [← h.size]
    exact Array.size_setIfInBounds
  · rintro i (hi | hi)
    · rcases (hmarked i).1 hi with hi | rfl
      · exact h.sound i (Or.inl hi)
      · exact h.sound i (Or.inr List.mem_cons_self)
    · rcases List.mem_append.1 hi with hi | hi
      · rcases h.sound pc (Or.inr List.mem_cons_self) with ⟨s, hs, hreach⟩
        exact ⟨s, hs, hreach.tail ⟨x, hx, hi⟩⟩
      · exact h.sound i (Or.inr (List.mem_cons_of_mem pc hi))
  · exact fun i hi hlt => hkept i (h.begun i hi hlt)
  · intro i j hi hj hlt
    rcases (hmarked i).1 hi with hi | rfl
    · exact hkept j (h.closed i j hi hj hlt)
    · rcases hj with ⟨y, hy, hj⟩
      rw [hx, Option.some.injEq] at hy
      exact Or.inr (List.mem_append_left _ (hy ▸ hj))
  · rw [Front.accepts_visit, h.accepts]
    simp only [hmarked, or_and_right, exists_or, exists_eq_left, hx, Option.some.injEq]
  · intro s n
    rw [Front.mem_takers_visit, h.takers]
    simp only [hmarked, or_and_right, exists_or, exists_eq_left, hx, Option.some.injEq]

/-- When nothing waits, the marked instructions are those that can be reached. -/
theorem marked_iff (h : Explores code place first [] f) (i : Nat) :
    f.Marked i ↔ i < code.size ∧ ∃ s ∈ first, ReflTransGen (Silent code place) s i := by
  constructor
  · intro hi
    refine ⟨?_, h.sound i (Or.inl hi)⟩
    rw [← h.size]
    exact (Array.getElem?_eq_some_iff.1 hi).1
  · rintro ⟨hlt, s, hs, hreach⟩
    induction hreach with
    | refl => simpa using h.begun s hs hlt
    | tail hreach hstep ih =>
        rcases hstep with ⟨x, hx, hj⟩
        have hmarked := ih (Array.getElem?_eq_some_iff.1 hx).1
        simpa using h.closed _ _ hmarked ⟨x, hx, hj⟩ hlt

end Explores

theorem length_silentNext_le (x : Instr) (place : Place) : (x.silentNext place).length ≤ 2 := by
  cases x with
  | accept => simp [Instr.silentNext]
  | take s n => simp [Instr.silentNext]
  | fork l r => simp [Instr.silentNext]
  | check a n =>
      by_cases ha : a.holds place = true
      · simp [Instr.silentNext, ha]
      · simp [Instr.silentNext, ha]

/-- The work list comes to an end. -/
theorem advance_explores (code : Code) (place : Place) (first : List Nat) (fuel : Nat)
    (pending : List Nat) (f : Front) (h : Explores code place first pending f)
    (hfuel : pending.length + 2 * f.unmarked < fuel) :
    Explores code place first [] (advance code place fuel pending f) := by
  induction fuel generalizing pending f with
  | zero => omega
  | succ fuel ih =>
      cases pending with
      | nil =>
          rw [advance_nil]
          exact h
      | cons pc rest =>
          rw [List.length_cons] at hfuel
          by_cases hpc : f.reached[pc]? = some false
          · -- The instruction gets its mark, and at most two others wait in its place.
            have hlt : pc < code.size := by
              rw [← h.size]
              exact (Array.getElem?_eq_some_iff.1 hpc).1
            have hx : code[pc]? = some code[pc] := Array.getElem?_eq_getElem hlt
            have hlen := length_silentNext_le code[pc] place
            have hcount := Front.unmarked_visit f pc code[pc] hpc
            rw [advance_visit code place fuel pc rest f code[pc] hpc hx]
            refine ih _ _ (h.visit hx) ?_
            rw [List.length_append]
            omega
          · rw [advance_skip code place fuel pc rest f hpc]
            exact ih rest f (h.skip hpc) (by omega)

theorem front_explores (m : Program) (place : Place) (pending : List Nat) :
    Explores m.code place pending [] (m.front place pending) := by
  refine advance_explores m.code place pending _ pending _ (Explores.start _ _ _) ?_
  simp [Front.unmarked]

/-! ## Reading the text -/

/-- A run from one of the pending instructions ends here, or at a taker of the front. -/
theorem front_ends_iff (m : Program) (p : Spot) (pending : List Nat) :
    (∃ pc ∈ pending, ∃ n, Ends m.code n pc p) ↔
      (m.front p.place pending).accepts = true ∨
      ∃ t ∈ (m.front p.place pending).takers, ∃ q, Spans (.one t.1) p q ∧
        ∃ n, Ends m.code n t.2 q := by
  have h := front_explores m p.place pending
  have hlt : ∀ {i x}, m.code[i]? = some x → i < m.code.size :=
    fun hx => (Array.getElem?_eq_some_iff.1 hx).1
  simp only [ends_iff m.code _ p, h.accepts, Prod.exists, h.takers, h.marked_iff]
  constructor
  · rintro ⟨pc, hpc, i, hreach, found | ⟨s, next, q, found, hspans, hends⟩⟩
    · exact Or.inl ⟨i, ⟨hlt found, pc, hpc, hreach⟩, found⟩
    · exact Or.inr ⟨s, next, ⟨i, ⟨hlt found, pc, hpc, hreach⟩, found⟩, q, hspans, hends⟩
  · rintro (⟨i, ⟨_, pc, hpc, hreach⟩, found⟩ | ⟨s, next, ⟨i, ⟨_, pc, hpc, hreach⟩, found⟩, q, hq⟩)
    · exact ⟨pc, hpc, i, hreach, Or.inl found⟩
    · exact ⟨pc, hpc, i, hreach, Or.inr ⟨s, next, q, found, hq⟩⟩

theorem spans_one_cons (s : CharSet) (before : Option Char) (c : Char) (cs : List Char) (q : Spot) :
    Spans (.one s) ⟨before, c :: cs⟩ q ↔ s.contains c.toNat = true ∧ q = ⟨some c, cs⟩ := by
  rcases q with ⟨b, rest⟩
  simp only [Spans, List.cons.injEq, Spot.mk.injEq]
  constructor
  · rintro ⟨d, hd, ⟨rfl, rfl⟩, rfl⟩
    exact ⟨hd, rfl, rfl⟩
  · rintro ⟨hc, rfl, rfl⟩
    exact ⟨c, hc, ⟨rfl, rfl⟩, rfl⟩

-- The places of a text are its first one, and those behind the first character.
theorem exists_split_cons (P : Option Char → List Char → Prop) (before : Option Char) (c : Char)
    (cs : List Char) :
    (∃ xs ys, c :: cs = xs ++ ys ∧ P (xs.getLast?.or before) ys) ↔
      P before (c :: cs) ∨ ∃ xs ys, cs = xs ++ ys ∧ P (xs.getLast?.or (some c)) ys := by
  have hlast : ∀ xs : List Char, (c :: xs).getLast?.or before = xs.getLast?.or (some c) := by
    intro xs
    cases xs with
    | nil => rfl
    | cons x xs => simp [List.getLast?_cons]
  constructor
  · rintro ⟨xs, ys, heq, hP⟩
    cases xs with
    | nil =>
        rw [List.nil_append] at heq
        exact Or.inl (heq ▸ hP)
    | cons x xs =>
        rw [List.cons_append, List.cons.injEq] at heq
        rcases heq with ⟨rfl, heq⟩
        rw [hlast] at hP
        exact Or.inr ⟨xs, ys, heq, hP⟩
  · rintro (hP | ⟨xs, ys, heq, hP⟩)
    · exact ⟨[], c :: cs, rfl, hP⟩
    · refine ⟨c :: xs, ys, by rw [heq, List.cons_append], ?_⟩
      rw [hlast]
      exact hP

-- At the end of the text no taker is left with a character.
theorem front_accepts_nil (m : Program) (before : Option Char) (pending : List Nat) :
    (m.front ⟨before, none⟩ pending).accepts = true ↔
      ∃ pc ∈ pending, ∃ n, Ends m.code n pc ⟨before, []⟩ := by
  have hends := front_ends_iff m ⟨before, []⟩ pending
  have hnone : ∀ s q, ¬ Spans (.one s) ⟨before, []⟩ q := by
    rintro s q ⟨c, _, heq, _⟩
    cases heq
  simp only [hnone, false_and, exists_false, and_false, or_false] at hends
  exact hends.symm

-- Before a character, the takers of that character are what the next place goes on from.
theorem front_ends_cons (m : Program) (before : Option Char) (c : Char) (cs : List Char)
    (pending : List Nat) :
    (∃ pc ∈ pending, ∃ n, Ends m.code n pc ⟨before, c :: cs⟩) ↔
      (m.front ⟨before, some c⟩ pending).accepts = true ∨
      ∃ pc ∈ ((m.front ⟨before, some c⟩ pending).takers.filter
        (fun t => t.1.contains c.toNat)).map Prod.snd, ∃ n, Ends m.code n pc ⟨some c, cs⟩ := by
  have hends := front_ends_iff m ⟨before, c :: cs⟩ pending
  have hplace : (Spot.mk before (c :: cs)).place = ⟨before, some c⟩ := rfl
  rw [hplace] at hends
  rw [hends]
  refine or_congr Iff.rfl ?_
  simp only [spans_one_cons, List.mem_map, List.mem_filter]
  constructor
  · rintro ⟨t, ht, q, ⟨hc, rfl⟩, hn⟩
    exact ⟨t.2, ⟨t, ⟨ht, hc⟩, rfl⟩, hn⟩
  · rintro ⟨_, ⟨t, ⟨ht, hc⟩, rfl⟩, hn⟩
    exact ⟨t, ht, _, ⟨hc, rfl⟩, hn⟩

-- A match that begins here is active as well, at the first instruction.
theorem exists_mem_active (m : Program) (active : List Nat) (p : Spot) :
    (∃ pc ∈ active ++ [m.start], ∃ n, Ends m.code n pc p) ↔
      (∃ pc ∈ active, ∃ n, Ends m.code n pc p) ∨ ∃ n, Ends m.code n m.start p := by
  simp only [List.mem_append, List.mem_singleton, or_and_right, exists_or, exists_eq_left]

/-- The search finds a match that has begun before, at one of the active instructions, or that
    begins at some place of the rest. -/
theorem search_iff (m : Program) (before : Option Char) (active : List Nat) (cs : List Char) :
    m.search before active cs = true ↔
      (∃ pc ∈ active, ∃ n, Ends m.code n pc ⟨before, cs⟩) ∨
      ∃ xs ys, cs = xs ++ ys ∧ ∃ n, Ends m.code n m.start ⟨xs.getLast?.or before, ys⟩ := by
  induction cs generalizing before active with
  | nil =>
      rw [Program.search, front_accepts_nil, exists_mem_active]
      refine or_congr Iff.rfl ?_
      constructor
      · exact fun h => ⟨[], [], rfl, h⟩
      · rintro ⟨xs, ys, heq, h⟩
        rcases List.append_eq_nil_iff.1 heq.symm with ⟨rfl, rfl⟩
        exact h
  | cons c cs ih =>
      have hnow := front_ends_cons m before c cs (active ++ [m.start])
      rw [exists_mem_active] at hnow
      rw [exists_split_cons (fun b ys => ∃ n, Ends m.code n m.start ⟨b, ys⟩), ← or_assoc, hnow,
        Program.search]
      split
      · rename_i haccepts
        simp [haccepts]
      · rename_i haccepts
        rw [ih, iff_false_intro haccepts, false_or]

/-- The program of an expression matches exactly the texts in which the expression is found. -/
theorem matches_program_iff (r : Regex) (text : String) :
    (program r).matches text = true ↔ r.FoundIn (Text.Bytes.shownChars text) := by
  rw [Program.matches, search_iff]
  simp only [List.not_mem_nil, false_and, exists_false, false_or, Option.or_none,
    program_ends_iff]
  rfl

end TaintSeed.Regex
