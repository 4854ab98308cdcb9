import TaintSeed.Regex.Program

/-!
# What an Expression Means

An expression leads from one place of a text to another: over one character,
over none where a condition holds, over one stretch after the other, or over
the same kind of stretch several times. `Spans` says so by recursion on the
expression, and knows nothing of programs. A text has a match when the
expression leads from some place of it anywhere.

A program is a list of instructions, built from its end. What is known about a
part of it is `Implements`: from its entry the end of a match can be come to
exactly if some stretch leads to a place from which the instruction behind it
can. Loops are why steps are counted. The entry of a loop is also what stands
behind its body, so the argument that a run through the body is a stretch would
go in a circle, if the run behind the body were not a shorter one.

A part stays what it is when more instructions are added, and when the first
instruction of a loop around it is filled in afterwards. So `Emits` speaks of
every code that has the instructions of the part, whatever the others are.

## Main definitions

* `Regex.Spans`: The expression leads from one place to another.
* `Regex.FoundIn`: A text has a match.
* `Regex.Ends`: The program comes to the end of a match within a number of steps.
* `Regex.Implements`: A part of a program does what a relation between places says.
* `Regex.Emits`: What a function adds to a code implements a relation.

## Theorems

* `Regex.Implements.loop`: A fork in front of a body that leads back to it.
* `Regex.emitRegex_emits`: The code of an expression implements its meaning.
* `Regex.program_ends_iff`: The program of an expression ends from where the expression leads
  anywhere.
-/

namespace TaintSeed.Regex

/-- A place in a text: the character before it, and all characters behind it. -/
structure Spot where
  before : Option Char
  rest : List Char

/-- What a condition can see of a place. -/
def Spot.place (p : Spot) : Place := ⟨p.before, p.rest.head?⟩

/-- A number of steps of a relation, one after the other. -/
def Rounds (R : Spot → Spot → Prop) : Nat → Spot → Spot → Prop
  | 0, p, q => p = q
  | n + 1, p, q => ∃ m, R p m ∧ Rounds R n m q

/-- The expression leads from one place to another. An upper bound of a repetition counts for no
    less than the lower one. -/
def Spans : Regex → Spot → Spot → Prop
  | .empty, p, q => p = q
  | .one s, p, q => ∃ c, s.contains c.toNat = true ∧ p.rest = c :: q.rest ∧ q.before = some c
  | .anchor a, p, q => a.holds p.place = true ∧ p = q
  | .seq r s, p, q => ∃ m, r.Spans p m ∧ s.Spans m q
  | .alt r s, p, q => r.Spans p q ∨ s.Spans p q
  | .star r, p, q => ∃ n, Rounds r.Spans n p q
  | .plus r, p, q => ∃ n, Rounds r.Spans (n + 1) p q
  | .optional r, p, q => r.Spans p q ∨ p = q
  | .rounds r least most, p, q =>
    ∃ n, least ≤ n ∧ (∀ m ∈ most, n ≤ max least m) ∧ Rounds r.Spans n p q

/-- The expression leads from some place of the text to another. -/
def FoundIn (r : Regex) (cs : List Char) : Prop :=
  ∃ xs ys, cs = xs ++ ys ∧ ∃ q, r.Spans ⟨xs.getLast?, ys⟩ q

section Rounds

variable {R : Spot → Spot → Prop}

theorem rounds_add (m n : Nat) (p q : Spot) :
    Rounds R (m + n) p q ↔ ∃ t, Rounds R m p t ∧ Rounds R n t q := by
  induction m generalizing p with
  | zero => simp [Rounds]
  | succ m ih =>
      rw [Nat.succ_add_eq_add_succ, Nat.add_succ]
      simp only [Rounds, ih]
      constructor
      · rintro ⟨u, hu, t, ht, hq⟩
        exact ⟨t, ⟨u, hu, ht⟩, hq⟩
      · rintro ⟨t, ⟨u, hu, ht⟩, hq⟩
        exact ⟨u, hu, t, ht, hq⟩

theorem rounds_one (p q : Spot) : Rounds R 1 p q ↔ R p q := by simp [Rounds]

end Rounds

/-! ## Running a program -/

/-- From an instruction at a place, the program goes on at another instruction and place. -/
def Instr.Leads (i : Instr) (p : Spot) (next : Nat) (q : Spot) : Prop :=
  match i with
  | .accept => False
  | .take s n => next = n ∧ Spans (.one s) p q
  | .fork l r => (next = l ∨ next = r) ∧ q = p
  | .check a n => next = n ∧ a.holds p.place = true ∧ q = p

/-- Begun at an instruction and a place, the program comes to the end of a match within a number
    of steps. -/
inductive Ends (code : Code) : Nat → Nat → Spot → Prop
  | accept {n pc : Nat} {p : Spot} (found : code[pc]? = some .accept) : Ends code n pc p
  | step {n pc next : Nat} {i : Instr} {p q : Spot} (found : code[pc]? = some i)
      (leads : i.Leads p next q) (ends : Ends code n next q) : Ends code (n + 1) pc p

section Ends

variable {code : Code} {n pc : Nat} {p : Spot}

theorem Ends.cases_on_instr {i : Instr} (h : Ends code n pc p) (hpc : code[pc]? = some i) :
    i = .accept ∨ ∃ m next q, m < n ∧ i.Leads p next q ∧ Ends code m next q := by
  cases h with
  | accept found =>
      rw [hpc, Option.some.injEq] at found
      exact Or.inl found
  | step found leads ends =>
      rw [hpc, Option.some.injEq] at found
      subst found
      exact Or.inr ⟨_, _, _, Nat.lt_succ_self _, leads, ends⟩

theorem Ends.of_fork {l r : Nat} (h : Ends code n pc p) (hpc : code[pc]? = some (.fork l r)) :
    ∃ m < n, Ends code m l p ∨ Ends code m r p := by
  rcases h.cases_on_instr hpc with heq | ⟨m, next, q, hm, ⟨hnext, rfl⟩, hends⟩
  · cases heq
  · rcases hnext with rfl | rfl
    · exact ⟨m, hm, Or.inl hends⟩
    · exact ⟨m, hm, Or.inr hends⟩

end Ends

/-- Between its entry and the instruction behind it, a part of the program does what the relation
    says. A run through the part is no shorter than what is left of it behind the part. -/
structure Implements (code : Code) (R : Spot → Spot → Prop) (entry next : Nat) : Prop where
  sound : ∀ n p, Ends code n entry p → ∃ m ≤ n, ∃ q, R p q ∧ Ends code m next q
  complete : ∀ n p q, R p q → Ends code n next q → ∃ m, Ends code m entry p

namespace Implements

variable {code : Code} {R S : Spot → Spot → Prop} {entry middle next : Nat}

theorem congr (h : Implements code R entry next) (hRS : ∀ p q, R p q ↔ S p q) :
    Implements code S entry next := by
  have heq : R = S := funext fun p => funext fun q => propext (hRS p q)
  exact heq ▸ h

theorem refl (code : Code) (entry : Nat) : Implements code (fun p q => p = q) entry entry where
  sound := fun n p h => ⟨n, Nat.le_refl n, p, rfl, h⟩
  complete := by
    rintro n p q rfl h
    exact ⟨n, h⟩

/-- One part in front of another. -/
theorem trans (hR : Implements code R entry middle) (hS : Implements code S middle next) :
    Implements code (fun p q => ∃ m, R p m ∧ S m q) entry next where
  sound := by
    intro n p h
    rcases hR.sound n p h with ⟨m, hm, t, ht, hends⟩
    rcases hS.sound m t hends with ⟨k, hk, q, hq, hends⟩
    exact ⟨k, Nat.le_trans hk hm, q, ⟨t, ht, hq⟩, hends⟩
  complete := by
    rintro n p q ⟨t, ht, hq⟩ h
    rcases hS.complete n t q hq h with ⟨m, hm⟩
    exact hR.complete m p t ht hm

/-- An instruction that has one successor. -/
theorem single {i : Instr} (hpc : code[entry]? = some i) (hi : i ≠ .accept)
    (hleads : ∀ p k q, i.Leads p k q ↔ k = next ∧ R p q) : Implements code R entry next where
  sound := by
    intro n p h
    rcases h.cases_on_instr hpc with heq | ⟨m, k, q, hm, hk, hends⟩
    · exact absurd heq hi
    · rcases (hleads p k q).1 hk with ⟨rfl, hR⟩
      exact ⟨m, Nat.le_of_lt hm, q, hR, hends⟩
  complete := fun n p q hR h => ⟨n + 1, .step hpc ((hleads p next q).2 ⟨rfl, hR⟩) h⟩

/-- A choice between two parts. -/
theorem fork {l r : Nat} (hpc : code[entry]? = some (.fork l r)) (hl : Implements code R l next)
    (hr : Implements code S r next) : Implements code (fun p q => R p q ∨ S p q) entry next where
  sound := by
    intro n p h
    rcases h.of_fork hpc with ⟨m, hm, hends | hends⟩
    · rcases hl.sound m p hends with ⟨k, hk, q, hq, hends⟩
      exact ⟨k, by omega, q, Or.inl hq, hends⟩
    · rcases hr.sound m p hends with ⟨k, hk, q, hq, hends⟩
      exact ⟨k, by omega, q, Or.inr hq, hends⟩
  complete := by
    rintro n p q (hq | hq) h
    · rcases hl.complete n p q hq h with ⟨m, hm⟩
      exact ⟨m + 1, .step hpc ⟨Or.inl rfl, rfl⟩ hm⟩
    · rcases hr.complete n p q hq h with ⟨m, hm⟩
      exact ⟨m + 1, .step hpc ⟨Or.inr rfl, rfl⟩ hm⟩

/-- A fork in front of a body that leads back to it, and of what follows. -/
theorem loop {start : Nat} (hpc : code[start]? = some (.fork entry next))
    (hbody : Implements code R entry start) :
    Implements code (fun p q => ∃ n, Rounds R n p q) start next where
  sound := by
    intro n
    -- Each round takes at least the step of the fork, so what is left of the run is shorter.
    induction n using Nat.strongRecOn with
    | ind n ih =>
      intro p h
      rcases h.of_fork hpc with ⟨m, hm, hends | hends⟩
      · rcases hbody.sound m p hends with ⟨k, hk, t, ht, hends⟩
        rcases ih k (by omega) t hends with ⟨j, hj, q, ⟨i, hq⟩, hends⟩
        exact ⟨j, by omega, q, ⟨i + 1, t, ht, hq⟩, hends⟩
      · exact ⟨m, Nat.le_of_lt hm, p, ⟨0, rfl⟩, hends⟩
  complete := by
    rintro n p q ⟨i, hq⟩ h
    induction i generalizing p with
    | zero =>
        cases hq
        exact ⟨n + 1, .step hpc ⟨Or.inr rfl, rfl⟩ h⟩
    | succ i ih =>
        rcases hq with ⟨t, ht, hq⟩
        rcases ih t hq with ⟨m, hm⟩
        rcases hbody.complete m p t ht hm with ⟨k, hk⟩
        exact ⟨k + 1, .step hpc ⟨Or.inl rfl, rfl⟩ hk⟩

end Implements

/-! ## Building a program -/

/-- The code has the instructions of another one, and perhaps more behind them. -/
structure Grows (code code' : Code) : Prop where
  size_le : code.size ≤ code'.size
  same : ∀ i < code.size, code'[i]? = code[i]?

/-- Another code has the same instructions from a place on. -/
def SameFrom (k : Nat) (code other : Code) : Prop :=
  ∀ i, k ≤ i → i < code.size → other[i]? = code[i]?

/-- What is added to a code implements the relation in front of the instruction that it was given,
    in every code that has the added instructions. -/
structure Adds (R : Spot → Spot → Prop) (code : Code) (next : Nat) (added : Code × Nat) : Prop where
  grows : Grows code added.1
  implements : ∀ other, SameFrom code.size added.1 other → Implements other R added.2 next

/-- What a function adds to any code implements the relation. -/
def Emits (R : Spot → Spot → Prop) (body : Code → Nat → Code × Nat) : Prop :=
  ∀ code next, Adds R code next (body code next)

namespace Grows

theorem refl (code : Code) : Grows code code := ⟨Nat.le_refl _, fun _ _ => rfl⟩

theorem trans {code code' code'' : Code} (h : Grows code code') (h' : Grows code' code'') :
    Grows code code'' where
  size_le := Nat.le_trans h.size_le h'.size_le
  same := by
    intro i hi
    rw [h'.same i (Nat.lt_of_lt_of_le hi h.size_le), h.same i hi]

theorem push (code : Code) (i : Instr) : Grows code (code.push i) where
  size_le := by simp
  same := by
    intro k hk
    rw [Array.getElem?_push, if_neg (Nat.ne_of_lt hk)]

/-- What is the same in a longer code is the same in a shorter one. -/
theorem sameFrom {code code' other : Code} {k : Nat} (h : Grows code code')
    (hsame : SameFrom k code' other) : SameFrom k code other := by
  intro i hk hi
  rw [hsame i hk (Nat.lt_of_lt_of_le hi h.size_le), h.same i hi]

end Grows

theorem SameFrom.mono {code other : Code} {k k' : Nat} (h : SameFrom k code other) (hk : k ≤ k') :
    SameFrom k' code other :=
  fun i hi => h i (Nat.le_trans hk hi)

theorem SameFrom.getElem?_push {code other : Code} {i : Instr} {k : Nat}
    (h : SameFrom k (code.push i) other) (hk : k ≤ code.size) : other[code.size]? = some i := by
  rw [h code.size hk (by simp), Array.getElem?_push_size]

namespace Adds

variable {R S : Spot → Spot → Prop} {code code' : Code} {next middle entry : Nat}

theorem congr {added : Code × Nat} (h : Adds R code next added) (hRS : ∀ p q, R p q ↔ S p q) :
    Adds S code next added :=
  ⟨h.grows, fun other hother => (h.implements other hother).congr hRS⟩

/-- Nothing is added. -/
theorem none : Adds (fun p q => p = q) code next (code, next) :=
  ⟨Grows.refl code, fun other _ => Implements.refl other next⟩

/-- One part is added, and then another one in front of it. -/
theorem andThen {added : Code × Nat} (h : Adds R code next (code', middle))
    (h' : Adds S code' middle added) : Adds (fun p q => ∃ m, S p m ∧ R m q) code next added where
  grows := h.grows.trans h'.grows
  implements := by
    intro other hother
    have hfirst := h.implements other (h'.grows.sameFrom hother)
    have hsecond := h'.implements other (hother.mono h.grows.size_le)
    exact hsecond.trans hfirst

/-- One instruction is added. -/
theorem single {i : Instr} (hi : i ≠ .accept)
    (hleads : ∀ p k q, i.Leads p k q ↔ k = next ∧ R p q) : Adds R code next (emit code i) where
  grows := Grows.push code i
  implements := by
    intro other hother
    have hpc : other[code.size]? = some i := hother.getElem?_push (Nat.le_refl _)
    exact Implements.single hpc hi hleads

/-- A part is added that may be passed by. -/
theorem optional (h : Adds R code next (code', entry)) :
    Adds (fun p q => R p q ∨ p = q) code next (emit code' (.fork entry next)) where
  grows := h.grows.trans (Grows.push code' _)
  implements := by
    intro other hother
    have hpart := h.implements other ((Grows.push code' _).sameFrom hother)
    exact Implements.fork (hother.getElem?_push h.grows.size_le) hpart (Implements.refl other next)

-- A loop has its fork first and the body behind it. It is entered at the fork, or at the body if
-- one round has to be made; the instructions are the same.
theorem loop_parts {body : Code → Nat → Code × Nat} (hbody : Emits R body) (code : Code)
    (next : Nat) :
    Grows code (emitLoop body code next).1 ∧
    ∀ other, SameFrom code.size (emitLoop body code next).1 other →
      other[code.size]? = some (.fork (emitRounds body code next).2 next) ∧
      Implements other R (emitRounds body code next).2 code.size := by
  have hadded := hbody (code.push (.fork next next)) code.size
  have hstart : code.size < (body (code.push (.fork next next)) code.size).1.size := by
    have := hadded.grows.size_le
    rw [Array.size_push] at this
    omega
  simp only [emitLoop, emitRounds, emit]
  refine ⟨⟨?_, ?_⟩, ?_⟩
  · rw [Array.size_setIfInBounds]
    omega
  · intro i hi
    rw [Array.getElem?_setIfInBounds_ne (by omega),
      hadded.grows.same i (by rw [Array.size_push]; omega), (Grows.push code _).same i hi]
  · intro other hother
    constructor
    · rw [hother code.size (Nat.le_refl _) (by simpa using hstart),
        Array.getElem?_setIfInBounds_self_of_lt hstart]
    · -- The instructions of the body stand behind the fork, so filling it in leaves them alone.
      refine hadded.implements other ?_
      intro i hi hlt
      rw [Array.size_push] at hi
      rw [hother i (by omega) (by simpa using hlt), Array.getElem?_setIfInBounds_ne (by omega)]

theorem loop {body : Code → Nat → Code × Nat} (hbody : Emits R body) (code : Code) (next : Nat) :
    Adds (fun p q => ∃ n, Rounds R n p q) code next (emitLoop body code next) := by
  rcases loop_parts hbody code next with ⟨hgrows, hparts⟩
  refine ⟨hgrows, fun other hother => ?_⟩
  rcases hparts other hother with ⟨hpc, hround⟩
  exact Implements.loop hpc hround

theorem loopOnce {body : Code → Nat → Code × Nat} (hbody : Emits R body) (code : Code)
    (next : Nat) :
    Adds (fun p q => ∃ n, Rounds R (n + 1) p q) code next (emitRounds body code next) := by
  rcases loop_parts hbody code next with ⟨hgrows, hparts⟩
  refine ⟨hgrows, fun other hother => ?_⟩
  rcases hparts other hother with ⟨hpc, hround⟩
  refine (hround.trans (Implements.loop hpc hround)).congr (fun p q => ?_)
  constructor
  · rintro ⟨t, ht, n, hq⟩
    exact ⟨n, t, ht, hq⟩
  · rintro ⟨n, t, ht, hq⟩
    exact ⟨t, ht, n, hq⟩

/-- A body is added several times, each time in front of the last. -/
theorem times {body : Code → Nat → Code × Nat} (hbody : Emits R body) (n : Nat) (code : Code)
    (next : Nat) : Adds (Rounds R n) code next (emitTimes body n code next) := by
  induction n generalizing code next with
  | zero => exact none
  | succ n ih =>
      refine ((hbody code next).andThen (ih _ _)).congr (fun p q => ?_)
      simp only [rounds_add, rounds_one]

/-- A body is added several times, where each round may be the last. -/
theorem upTo {body : Code → Nat → Code × Nat} (hbody : Emits R body) (done : Nat) (n k : Nat)
    (code code' : Code) (next : Nat)
    (h : Adds (fun p q => ∃ m ≤ k, Rounds R m p q) code done (code', next)) :
    Adds (fun p q => ∃ m ≤ k + n, Rounds R m p q) code done (emitUpTo body done n code' next) := by
  induction n generalizing k code' next with
  | zero => exact h
  | succ n ih =>
      -- One round more: through the body to what was there before, or past everything.
      have hstep : Adds (fun p q => ∃ m ≤ k + 1, Rounds R m p q) code done
          (emit (body code' next).1 (.fork (body code' next).2 done)) := by
        refine ((h.andThen (hbody code' next)).optional).congr (fun p q => ?_)
        constructor
        · rintro (⟨t, ht, m, hm, hq⟩ | rfl)
          · exact ⟨m + 1, by omega, t, ht, hq⟩
          · exact ⟨0, by omega, rfl⟩
        · rintro ⟨m, hm, hq⟩
          cases m with
          | zero => exact Or.inr hq
          | succ m =>
              rcases hq with ⟨t, ht, hq⟩
              exact Or.inl ⟨t, ht, m, by omega, hq⟩
      have hrest := ih (k + 1) _ _ hstep
      rw [Nat.add_right_comm] at hrest
      exact hrest

/-- One part is added, then another one for the same end, and then the choice between them. -/
theorem choice {codeR codeS : Code} {entryR entryS : Nat} (hR : Adds R code next (codeR, entryR))
    (hS : Adds S codeR next (codeS, entryS)) :
    Adds (fun p q => R p q ∨ S p q) code next (emit codeS (.fork entryR entryS)) where
  grows := (hR.grows.trans hS.grows).trans (Grows.push codeS _)
  implements := by
    intro other hother
    have hboth := (Grows.push codeS _).sameFrom hother
    have hleft := hR.implements other (hS.grows.sameFrom hboth)
    have hright := hS.implements other (hboth.mono hR.grows.size_le)
    exact Implements.fork (hother.getElem?_push (hR.grows.trans hS.grows).size_le) hleft hright

/-- The least number of rounds stands in front of a loop. -/
theorem timesThenLoop {body : Code → Nat → Code × Nat} (hbody : Emits R body) (least : Nat)
    (code : Code) (next : Nat) :
    Adds (fun p q => ∃ n, least ≤ n ∧ Rounds R n p q) code next
      (emitTimes body least (emitLoop body code next).1 (emitLoop body code next).2) := by
  refine ((loop hbody code next).andThen (times hbody least _ _)).congr (fun p q => ?_)
  constructor
  · rintro ⟨t, ht, n, hq⟩
    exact ⟨least + n, by omega, (rounds_add least n p q).2 ⟨t, ht, hq⟩⟩
  · rintro ⟨n, hn, hq⟩
    rw [← Nat.add_sub_cancel' hn, rounds_add] at hq
    rcases hq with ⟨t, ht, hq⟩
    exact ⟨t, ht, n - least, hq⟩

/-- The least number of rounds stands in front of those that may be left out. -/
theorem timesThenUpTo {body : Code → Nat → Code × Nat} (hbody : Emits R body) (least extra : Nat)
    (code : Code) (next : Nat) :
    Adds (fun p q => ∃ n, least ≤ n ∧ n ≤ least + extra ∧ Rounds R n p q) code next
      (emitTimes body least (emitUpTo body next extra code next).1
        (emitUpTo body next extra code next).2) := by
  have hnone : Adds (fun p q => ∃ m ≤ 0, Rounds R m p q) code next (code, next) := by
    refine none.congr (fun p q => ?_)
    simp [Rounds]
  have hmore := upTo hbody next extra 0 code code next hnone
  refine (hmore.andThen (times hbody least _ _)).congr (fun p q => ?_)
  constructor
  · rintro ⟨t, ht, n, hn, hq⟩
    exact ⟨least + n, by omega, by omega, (rounds_add least n p q).2 ⟨t, ht, hq⟩⟩
  · rintro ⟨n, hn, hmost, hq⟩
    rw [← Nat.add_sub_cancel' hn, rounds_add] at hq
    rcases hq with ⟨t, ht, hq⟩
    exact ⟨t, ht, n - least, by omega, hq⟩

end Adds

/-- The code of an expression implements its meaning. -/
theorem emitRegex_emits (r : Regex) : Emits r.Spans (emitRegex r) := by
  induction r with
  | empty => exact fun code next => Adds.none
  | one s => exact fun code next => Adds.single (by simp) (fun p k q => Iff.rfl)
  | anchor a =>
      refine fun code next => Adds.single (by simp) (fun p k q => ?_)
      simp only [Instr.Leads, Spans, eq_comm]
  | seq r s hr hs => exact fun code next => (hs code next).andThen (hr _ _)
  | alt r s hr hs => exact fun code next => (hr code next).choice (hs _ next)
  | star r hr => exact Adds.loop hr
  | plus r hr => exact Adds.loopOnce hr
  | optional r hr => exact fun code next => (hr code next).optional
  | rounds r least most hr =>
      intro code next
      cases most with
      | none =>
          refine (Adds.timesThenLoop hr least code next).congr (fun p q => ?_)
          simp [Spans]
      | some most =>
          -- With an upper bound below the lower one there are no rounds that may be left out.
          have hbound : least + (most - least) = max least most := by omega
          refine (Adds.timesThenUpTo hr least (most - least) code next).congr (fun p q => ?_)
          simp [Spans, hbound]

/-- The program of an expression comes to the end of a match from the places from which the
    expression leads anywhere. -/
theorem program_ends_iff (r : Regex) (p : Spot) :
    (∃ n, Ends (program r).code n (program r).start p) ↔ ∃ q, r.Spans p q := by
  have hadds := emitRegex_emits r #[.accept] 0
  have hprogram : Implements (program r).code r.Spans (program r).start 0 :=
    hadds.implements _ (fun i _ _ => rfl)
  have haccept : (program r).code[0]? = some .accept := hadds.grows.same 0 (by simp)
  constructor
  · rintro ⟨n, h⟩
    rcases hprogram.sound n p h with ⟨_, _, q, hq, _⟩
    exact ⟨q, hq⟩
  · rintro ⟨q, hq⟩
    exact hprogram.complete 0 p q hq (.accept haccept)

end TaintSeed.Regex
