import Mathlib.Data.List.Basic
import TaintSeed.Log

/-!
# What a Policy Prints

Each time something is told, two gates decide: the level, and the printer,
which knows five ranks only. For levels outside these ranks the second gate
works with another number than the first. `Allows` says what a policy is meant
to print, severity by severity, and the gates agree with it for every level.

So what is printed of a message is what the policy that prints everything
prints, if the severity is allowed, and nothing otherwise. Whatever is put
together from such pieces is a filtered list, because filtering goes through
appending.

## Main definitions

* `Log.Policy.Allows`, `Log.Policy.allowed`: What a policy is meant to print.
* `Log.Policy.everything`: The policy that holds nothing back.

## Theorems

* `Log.Policy.say_eq_allowed`, `Log.Policy.warning_eq_allowed`: What is printed of a message.
-/

namespace TaintSeed.Log.Policy

/-- The severities that are printed. -/
def Allows (q : Policy) : Severity → Prop
  | .error => 1 ≤ q.level
  | .warning => 2 ≤ q.level ∧ q.silenceWarnings = false
  | .info => 3 ≤ q.level
  | .debug => 4 ≤ q.level
  | .trace => 5 ≤ q.level

instance (q : Policy) : (s : Severity) → Decidable (q.Allows s)
  | .error => inferInstanceAs (Decidable (1 ≤ q.level))
  | .warning => inferInstanceAs (Decidable (2 ≤ q.level ∧ q.silenceWarnings = false))
  | .info => inferInstanceAs (Decidable (3 ≤ q.level))
  | .debug => inferInstanceAs (Decidable (4 ≤ q.level))
  | .trace => inferInstanceAs (Decidable (5 ≤ q.level))

/-- The entries of these severities, in order. -/
def allowed (q : Policy) (es : List Entry) : List Entry :=
  es.filter (fun e => decide (q.Allows e.severity))

/-- The policy that prints everything. -/
def everything : Policy := ⟨5, false⟩

@[simp] theorem allowed_nil (q : Policy) : q.allowed [] = [] := rfl

theorem allowed_singleton (q : Policy) (e : Entry) :
    q.allowed [e] = if q.Allows e.severity then [e] else [] := by
  simp [allowed, List.filter_cons]

@[simp] theorem allowed_append (q : Policy) (es es' : List Entry) :
    q.allowed (es ++ es') = q.allowed es ++ q.allowed es' := List.filter_append ..

theorem allowed_flatMap {α : Type} (q : Policy) (f : α → List Entry) (xs : List α) :
    q.allowed (xs.flatMap f) = xs.flatMap (fun x => q.allowed (f x)) := by
  simp [allowed, List.filter_flatMap]

/-- The printer takes whatever the level is high enough for: a level that is no rank is above all
    ranks, and then it is the highest one, or below all, and then nothing comes so far. -/
theorem rank_le_printerRank (q : Policy) (s : Severity) (h : s.rank ≤ q.level) :
    s.rank ≤ q.printerRank := by
  have hrange : Severity.error.rank ≤ s.rank ∧ s.rank ≤ Severity.trace.rank := by
    cases s <;> decide
  unfold printerRank
  by_cases habove : Severity.trace.rank < q.level
  · rw [if_pos habove]
    exact hrange.2
  · have hbelow : ¬ q.level < Severity.error.rank := by omega
    rw [if_neg habove, if_neg hbelow]
    exact h

theorem print_of_reaches (q : Policy) (s : Severity) (message : String)
    (h : q.reaches s = true) : q.print ⟨s, message⟩ = [⟨s, message⟩] :=
  if_pos (rank_le_printerRank q s (of_decide_eq_true h))

theorem say_eq (q : Policy) (s : Severity) (message : String) :
    q.say s message = if s.rank ≤ q.level then [⟨s, message⟩] else [] := by
  by_cases h : q.reaches s = true
  · rw [say, if_pos h, print_of_reaches q s message h, if_pos (of_decide_eq_true h)]
  · rw [say, if_neg h, if_neg (fun hc => h (decide_eq_true hc))]

theorem say_everything (s : Severity) (message : String) :
    everything.say s message = [⟨s, message⟩] := by
  rw [say_eq]
  cases s <;> rfl

/-- Of a message that is no warning, a policy prints what the policy that prints everything does,
    if the severity is allowed. -/
theorem say_eq_allowed (q : Policy) (s : Severity) (hs : s ≠ .warning) (message : String) :
    q.say s message = q.allowed (everything.say s message) := by
  have hallows : q.Allows s ↔ s.rank ≤ q.level := by
    cases s with
    | warning => exact absurd rfl hs
    | _ => exact Iff.rfl
  rw [say_eq, say_everything, allowed_singleton]
  exact if_congr hallows.symm rfl rfl

/-- So it is with warnings, which also have to be wanted. -/
theorem warning_eq_allowed (q : Policy) (message : String) :
    q.warning message = q.allowed (everything.warning message) := by
  have hall : everything.warning message = [⟨.warning, message⟩] := rfl
  rw [hall, allowed_singleton]
  by_cases h : q.Allows .warning
  · have hgate : (q.reaches .warning && !q.silenceWarnings) = true := by
      rw [Bool.and_eq_true, h.2]
      exact ⟨decide_eq_true h.1, rfl⟩
    rw [warning, if_pos hgate, if_pos h,
      print_of_reaches q _ message (Bool.and_eq_true_iff.1 hgate).1]
  · have hgate : ¬ (q.reaches .warning && !q.silenceWarnings) = true := by
      rw [Bool.and_eq_true]
      rintro ⟨hlevel, hwanted⟩
      exact h ⟨of_decide_eq_true hlevel, by simpa using hwanted⟩
    rw [warning, if_neg hgate, if_neg h]

theorem info_eq_allowed (q : Policy) (message : String) :
    q.info message = q.allowed (everything.info message) :=
  q.say_eq_allowed .info nofun message

theorem debug_eq_allowed (q : Policy) (message : String) :
    q.debug message = q.allowed (everything.debug message) :=
  q.say_eq_allowed .debug nofun message

theorem trace_eq_allowed (q : Policy) (message : String) :
    q.trace message = q.allowed (everything.trace message) :=
  q.say_eq_allowed .trace nofun message

end TaintSeed.Log.Policy
