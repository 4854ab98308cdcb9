import Mathlib.Logic.Function.Iterate
import TaintSeed.Pattern
import TaintSeed.Proofs.Regex.Literal

/-!
# What a Pattern Matches

A pattern is compiled as a whole. If each of its four texts is a regular
expression, each is searched for in its part of the name; if one of them is
not, all four are compared as plain texts. An empty text is an expression too,
the one that is found everywhere, so the rule that it matches anything needs no
mention once a pattern is compiled.

A pattern may be copied from a method. Not compiled, it names that method.
Compiled, its texts are read as expressions, and a text need not be found in
itself: the parentheses of a descriptor become a group, and the dollar sign in
the name of an inner class asks for the end of the name
(`not_matches_itself`). What is left is `matches_itself_iff`. The two ways a
copied pattern can be relied on are that a text of it is no expression, and
that its texts have no operators.

## Main definitions

* `Pattern.texts`: The four texts of a pattern.
* `Pattern.IsRegular`: All texts of a pattern are regular expressions.
* `Pattern.Finds`: A text, as an expression, is found in a part of a name.

## Theorems

* `Pattern.compile_of_not_isRegular`: A pattern with another text is not compiled.
* `Pattern.matches_compile_iff`: What a compiled pattern matches.
* `Pattern.compile_compile`: Compiling again changes nothing.
* `Pattern.matches_itself_iff`: When a pattern that is copied from a method matches it.
* `Pattern.not_matches_itself`: Two methods that the patterns copied from them do not match.
-/

namespace TaintSeed

/-- The four parts of the name of a method. -/
def MethodRef.parts (m : MethodRef) : List String := [m.package, m.owner, m.name, m.descriptor]

namespace Pattern

open Text.Bytes (shownChars)

/-- The four texts of a pattern. -/
def texts (p : Pattern) : List String := [p.package, p.type, p.method, p.signature]

/-- Each of the texts is a regular expression. -/
def IsRegular (p : Pattern) : Prop := ∀ t ∈ p.texts, Regex.parse? t ≠ none

/-- The text is a regular expression that is found in the part of a name. -/
def Finds (text part : String) : Prop :=
  ∃ r, Regex.parse? text = some r ∧ r.FoundIn (shownChars part)

theorem compile?_eq_none_iff (text : String) :
    Regex.compile? text = none ↔ Regex.parse? text = none := by
  rw [Regex.compile?, Option.map_eq_none_iff]

/-- An expression that is compiled matches where it is found, and the empty one everywhere. -/
theorem accepts_iff (text part : String) (program : Regex.Program)
    (h : Regex.compile? text = some program) :
    accepts text program part = true ↔ Finds text part := by
  rcases Option.map_eq_some_iff.1 h with ⟨r, hr, rfl⟩
  have hfinds : Finds text part ↔ r.FoundIn (shownChars part) := by
    simp [Finds, hr]
  rw [hfinds, accepts, Bool.or_eq_true, Regex.matches_program_iff, beq_iff_eq]
  refine ⟨?_, Or.inr⟩
  rintro (rfl | hfound)
  · -- The empty text is read as the empty expression, which leads from any place to itself.
    have hempty : Regex.parse? "" = some .empty := by decide +kernel
    rw [hempty, Option.some.injEq] at hr
    subst hr
    exact ⟨[], shownChars part, rfl, _, rfl⟩
  · exact hfound

/-! ## Compiling -/

theorem programs?_eq_some (p : Pattern) (c : Compiled) (h : p.programs? = some c) :
    Regex.compile? p.package = some c.package ∧ Regex.compile? p.type = some c.type ∧
    Regex.compile? p.method = some c.method ∧ Regex.compile? p.signature = some c.signature := by
  unfold programs? at h
  split at h
  · rename_i package type method signature hpackage htype hmethod hsignature
    cases h
    exact ⟨hpackage, htype, hmethod, hsignature⟩
  · cases h

/-- There are programs for all four texts or for none. -/
theorem programs?_eq_none_iff (p : Pattern) : p.programs? = none ↔ ¬ p.IsRegular := by
  constructor
  · intro h hregular
    -- Each text has a program, so the first case of the match applies.
    have hprogram : ∀ t ∈ p.texts, ∃ m, Regex.compile? t = some m := fun t ht =>
      Option.ne_none_iff_exists'.1 (fun hc => hregular t ht ((compile?_eq_none_iff t).1 hc))
    rcases hprogram p.package (by simp [texts]) with ⟨_, hpackage⟩
    rcases hprogram p.type (by simp [texts]) with ⟨_, htype⟩
    rcases hprogram p.method (by simp [texts]) with ⟨_, hmethod⟩
    rcases hprogram p.signature (by simp [texts]) with ⟨_, hsignature⟩
    simp [programs?, hpackage, htype, hmethod, hsignature] at h
  · intro hregular
    refine Option.eq_none_iff_forall_not_mem.2 (fun c hc => hregular ?_)
    rcases programs?_eq_some p c hc with ⟨hpackage, htype, hmethod, hsignature⟩
    intro t ht hnone
    rw [← compile?_eq_none_iff] at hnone
    simp only [texts, List.mem_cons, List.not_mem_nil, or_false] at ht
    rcases ht with rfl | rfl | rfl | rfl
    · cases hpackage.symm.trans hnone
    · cases htype.symm.trans hnone
    · cases hmethod.symm.trans hnone
    · cases hsignature.symm.trans hnone

/-- A pattern stays as it is if one of its texts is no regular expression. -/
theorem compile_of_not_isRegular (p : Pattern) (h : ¬ p.IsRegular) : p.compile = p := by
  rw [compile, (programs?_eq_none_iff p).2 h]

/-- A compiled pattern matches the methods in whose names all its texts are found. -/
theorem matches_compile_iff (p : Pattern) (h : p.IsRegular) (m : MethodRef) :
    p.compile.matches m = true ↔ Finds p.package m.package ∧ Finds p.type m.owner ∧
      Finds p.method m.name ∧ Finds p.signature m.descriptor := by
  cases hc : p.programs? with
  | none => exact absurd h ((programs?_eq_none_iff p).1 hc)
  | some c =>
      rcases programs?_eq_some p c hc with ⟨hpackage, htype, hmethod, hsignature⟩
      rw [compile, hc]
      simp only [«matches», Bool.and_eq_true, and_assoc]
      rw [accepts_iff _ _ _ hpackage, accepts_iff _ _ _ htype, accepts_iff _ _ _ hmethod,
        accepts_iff _ _ _ hsignature]

/-- The programs are made from the texts alone, which compiling does not change. -/
theorem compile_compile (p : Pattern) : p.compile.compile = p.compile := by
  cases hc : p.programs? with
  | none =>
      have hsame : p.compile = p := by rw [compile, hc]
      rw [hsame, hsame]
  | some c =>
      have hcompiled : p.compile = { p with compiled? := some c } := by rw [compile, hc]
      have hprograms : Pattern.programs? { p with compiled? := some c } = some c := hc
      rw [hcompiled, compile, hprograms]

theorem iterate_compile (k : Nat) (p : Pattern) : compile^[k] p.compile = p.compile := by
  induction k with
  | zero => rfl
  | succ k ih => rw [Function.iterate_succ_apply', ih, compile_compile]

/-! ## Patterns copied from methods -/

theorem texts_ofMethod (m : MethodRef) : (ofMethod m).texts = m.parts := rfl

theorem matches_ofMethod (m : MethodRef) : (ofMethod m).matches m = true := by
  simp [ofMethod, plain, «matches», isPart]

theorem matches_compile_ofMethod_iff (m : MethodRef) (h : (ofMethod m).IsRegular) :
    (ofMethod m).compile.matches m = true ↔ ∀ t ∈ m.parts, Finds t t := by
  rw [matches_compile_iff _ h]
  simp [MethodRef.parts, ofMethod, plain]

theorem ofChars?_of_parse? (text : String) (r : Regex) (h : Regex.parse? text = some r) :
    Regex.ofChars? (shownChars text) = some r := by
  unfold Regex.parse? at h
  split at h
  · exact h
  · cases h

/-- A pattern copied from a method matches it as long as it is not compiled. Once it is compiled, it
    does so if a text of it is no regular expression, or if each of its texts, as an expression, is
    found in itself, and otherwise it does not. Texts without operators are found in themselves;
    descriptors with parameters and names of inner classes are not. -/
theorem matches_itself_iff (m : MethodRef) :
    (ofMethod m).matches m = true ∧
    ((ofMethod m).compile.matches m = true ↔
      (∃ t ∈ m.parts, Regex.parse? t = none) ∨
      ∀ t ∈ m.parts, ∃ r, Regex.parse? t = some r ∧ r.FoundIn (shownChars t)) ∧
    ((∀ t ∈ m.parts, ∀ c ∈ shownChars t, c ∉ Regex.operators) →
      (ofMethod m).compile.matches m = true) ∧
    ((∀ t ∈ m.parts, Regex.parse? t ≠ none) → (∃ t ∈ m.parts, Regex.Misread (shownChars t)) →
      (ofMethod m).compile.matches m = false) := by
  have hirregular : (∃ t ∈ m.parts, Regex.parse? t = none) ↔ ¬ (ofMethod m).IsRegular := by
    simp [IsRegular, texts_ofMethod]
  refine ⟨matches_ofMethod m, ?_, ?_, ?_⟩
  · rw [hirregular]
    by_cases hregular : (ofMethod m).IsRegular
    · rw [matches_compile_ofMethod_iff m hregular]
      simp [hregular, Finds]
    · simp [hregular, compile_of_not_isRegular, matches_ofMethod]
  · intro hplain
    by_cases hregular : (ofMethod m).IsRegular
    · rw [matches_compile_ofMethod_iff m hregular]
      intro t ht
      rcases Option.ne_none_iff_exists'.1 (hregular t ht) with ⟨r, hr⟩
      exact ⟨r, hr, Regex.foundIn_of_literal _ r (hplain t ht) (ofChars?_of_parse? t r hr)⟩
    · rw [compile_of_not_isRegular _ hregular]
      exact matches_ofMethod m
  · rintro hregular ⟨t, ht, hmisread⟩
    rw [← Bool.not_eq_true, matches_compile_ofMethod_iff m hregular]
    intro hfinds
    rcases hfinds t ht with ⟨r, hr, hfound⟩
    exact Regex.not_foundIn_of_misread _ r hmisread (ofChars?_of_parse? t r hr) hfound

/-- A callback of an inner class, with an array as its parameter. The bracket that is not closed
    makes the descriptor no regular expression. -/
def onBytes : MethodRef := ⟨"com.example", "Outer$Inner", "onBytes", "([B)V"⟩

/-- A function, named with dots and without a descriptor. -/
def startUp : MethodRef := ⟨"com.example", "", "start.up", ""⟩

/-- A callback with an object as its parameter. -/
def onReceive : MethodRef :=
  ⟨"com/example", "MyReceiver", "onReceive", "(Landroid/content/Intent;)V"⟩

/-- A method of an inner class, without parameters. -/
def innerRun : MethodRef := ⟨"com/example", "Outer$Inner", "run", "()V"⟩

/-- The dollar sign of the inner class does no harm where nothing is compiled. -/
theorem matches_itself_samples :
    (ofMethod onBytes).compile.matches onBytes = true ∧
    (∀ t ∈ startUp.parts, ∀ c ∈ shownChars t, c ∉ Regex.operators) ∧
    (ofMethod startUp).compile.matches startUp = true ∧
    (∀ t ∈ onReceive.parts, Regex.parse? t ≠ none) ∧
    Regex.Misread (shownChars onReceive.descriptor) ∧
    (ofMethod onReceive).compile.matches onReceive = false := by
  have hbytes : Regex.parse? "([B)V" = none := by decide +kernel
  have hplain : ∀ t ∈ startUp.parts, ∀ c ∈ shownChars t, c ∉ Regex.operators := by
    have hall : startUp.parts.all (fun t =>
        (shownChars t).all (fun c => !Regex.operators.contains c)) = true := by decide +kernel
    simpa using hall
  have hregular : ∀ t ∈ onReceive.parts, Regex.parse? t ≠ none := by
    have hall : onReceive.parts.all (fun t => (Regex.parse? t).isSome) = true := by decide +kernel
    intro t ht
    exact Option.isSome_iff_ne_none.1 (List.all_eq_true.1 hall t ht)
  have hmisread : Regex.Misread (shownChars onReceive.descriptor) := by
    have hchars : shownChars onReceive.descriptor
        = '(' :: "Landroid/content/Intent;".toList ++ ')' :: "V".toList := by decide +kernel
    have hall : ("Landroid/content/Intent;".toList ++ "V".toList).all
        (fun c => !Regex.operators.contains c && c != '.') = true := by decide +kernel
    rw [hchars]
    exact .parameters (by simp) (by simp) (fun c hc => by simpa using List.all_eq_true.1 hall c hc)
  exact ⟨(matches_itself_iff onBytes).2.1.2 (Or.inl ⟨_, by simp [MethodRef.parts, onBytes], hbytes⟩),
    hplain, (matches_itself_iff startUp).2.2.1 hplain, hregular, hmisread,
    (matches_itself_iff onReceive).2.2.2 hregular ⟨_, by simp [MethodRef.parts], hmisread⟩⟩

/-- Read as an expression, the descriptor of the one does not ask for its parentheses, and the class
    of the other asks for something behind the end. -/
theorem not_matches_itself :
    (ofMethod onReceive).compile.matches onReceive = false ∧
    (ofMethod innerRun).compile.matches innerRun = false := by
  decide +kernel

end Pattern

end TaintSeed
