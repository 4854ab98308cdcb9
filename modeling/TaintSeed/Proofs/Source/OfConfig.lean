import Mathlib.Data.List.Forall2
import TaintSeed.Proofs.Pattern
import TaintSeed.Source.OfConfig

/-!
# A Configuration and Its Sources Agree

Whether a method is a source is asked in two places. A configuration answers
from its entries, whose patterns are compiled when it is read. The resolver
answers from its sources, which are made from the entries and whose patterns
are compiled once more on the way.

The answers agree because a pattern that has been compiled is not changed by
compiling it again. It does not matter what the programs are: they are made
from the texts, and the texts stay. If they cannot be made, because one of the
texts is no regular expression, they cannot be made the next time either, and
whatever the pattern was before, it stays that.

## Main definitions

* `Source.Realizes`: The source is that of an entry.
* `Source.Agrees`: The source has the arguments of an entry and names the same methods.

## Theorems

* `Config.compile_method_of_parseBy`: The patterns of a configuration that was read are compiled.
* `Source.ofEntries_eq_ok_iff`: There is one source for each entry, in order.
* `Source.ofConfig_agrees`: A configuration and its sources name the same methods.
-/

namespace TaintSeed

theorem Config.compile_method_of_parseBy (decode : String → Except Yaml.Failure Config)
    (file text : String) (c : Config) (h : Config.parseBy decode file text = .ok c) :
    ∀ e ∈ c.entries, e.method.compile = e.method := by
  unfold Config.parseBy Config.checked at h
  split at h
  · cases h
  · split at h
    · cases h
    · cases h
      intro e he
      rcases List.mem_map.1 he with ⟨e', _, rfl⟩
      exact Pattern.compile_compile e'.method

namespace Source

/-- The source has the pattern of the entry, compiled, its arguments, and the kind that its word
    stands for. -/
structure Realizes (e : Config.Entry) (s : Source) : Prop where
  pattern : s.pattern = e.method.compile
  args : s.args = e.args
  kind : SourceKind.ofName (if e.kind = "" then "input" else e.kind) = .ok s.kind

theorem ofEntry_eq_ok_iff (e : Config.Entry) (s : Source) : ofEntry e = .ok s ↔ Realizes e s := by
  unfold ofEntry
  split
  · rename_i cause hkind
    constructor
    · intro h
      cases h
    · intro h
      cases hkind.symm.trans h.kind
  · rename_i kind hkind
    constructor
    · rintro ⟨⟩
      exact ⟨rfl, rfl, hkind⟩
    · rintro ⟨hpattern, hargs, hkind'⟩
      cases hkind.symm.trans hkind'
      rw [← hpattern, ← hargs]

/-- There is one source for each entry, in the same order. -/
theorem ofEntries_eq_ok_iff (es : List Config.Entry) (ss : List Source) :
    ofEntries es = .ok ss ↔ List.Forall₂ Realizes es ss := by
  induction es generalizing ss with
  | nil =>
      rw [ofEntries, List.forall₂_nil_left_iff, Except.ok.injEq, eq_comm]
  | cons e es ih =>
      rw [List.forall₂_cons_left_iff]
      simp only [← ih, ← ofEntry_eq_ok_iff]
      cases he : ofEntry e with
      | error cause => simp [ofEntries, he]
      | ok s =>
          cases hes : ofEntries es with
          | error cause => simp [ofEntries, he, hes]
          | ok rest => simp [ofEntries, he, hes, eq_comm]

/-- The source asks for the arguments of the entry, in the methods that the entry names. -/
def Agrees (e : Config.Entry) (s : Source) : Prop :=
  s.args = e.args ∧ ∀ m, s.pattern.matches m = e.method.matches m

theorem any_matches_eq (es : List Config.Entry) (ss : List Source) (h : List.Forall₂ Agrees es ss)
    (m : MethodRef) :
    es.any (fun e => e.method.matches m) = ss.any (fun s => s.pattern.matches m) := by
  induction h with
  | nil => rfl
  | cons hone _ ih => rw [List.any_cons, List.any_cons, hone.2 m, ih]

/-- A configuration that was read names the methods that its sources name. There is one source for
    each entry, in order and with the same arguments, and it matches what the entry matches.
    Compiling a pattern of the configuration again, or any other pattern after the first time,
    changes nothing about what it matches. It does not matter how texts are decoded. -/
theorem ofConfig_agrees (decode : String → Except Yaml.Failure Config) (file text : String)
    (c : Config) (sources : List Source) (hc : Config.parseBy decode file text = .ok c)
    (hs : ofConfig c = .ok sources) :
    (∀ n : Node, c.isSource n.method = true ↔ ∃ s ∈ sources, s.matches n = true) ∧
    List.Forall₂ Agrees c.entries sources ∧
    (∀ e ∈ c.entries, ∀ k m,
      (Pattern.compile^[k] e.method).matches m = e.method.matches m) ∧
    (∀ (p : Pattern) k m,
      (Pattern.compile^[k] p.compile).matches m = p.compile.matches m) := by
  have hcompiled := Config.compile_method_of_parseBy decode file text c hc
  have hsources := (ofEntries_eq_ok_iff c.entries sources).1 hs
  have hagree : List.Forall₂ Agrees c.entries sources := by
    refine ((List.forall₂_and_left _ _).2 ⟨hcompiled, hsources⟩).imp ?_
    rintro e s ⟨hsame, hrealizes⟩
    refine ⟨hrealizes.args, fun m => ?_⟩
    rw [hrealizes.pattern, hsame]
  refine ⟨fun n => ?_, hagree, ?_, ?_⟩
  · rw [Config.isSource, any_matches_eq _ _ hagree, List.any_eq_true]
    rfl
  · intro e he k m
    rw [← hcompiled e he, Pattern.iterate_compile]
  · intro p k m
    rw [Pattern.iterate_compile]

/-- Two entries: one with a regular expression, and one with a text that is none. -/
def twoEntries : String :=
  "source-specs:\n- method: \x7bmethod: ^on\x7d\n  args: [0]\n" ++
    "- method: \x7btype: A(, method: run\x7d\n  args: [1, 0]\n"

/-- The methods are both sources, the one by its first letters and the other by its class. -/
theorem ofConfig_agrees_twoEntries :
    ∃ c sources, Config.parse "config.yaml" twoEntries = .ok c ∧ ofConfig c = .ok sources ∧
      sources.map (fun s => s.args) = [[0], [1, 0]] ∧
      ∀ n : Node, n.method = ⟨"", "Main", "onBind", "()V"⟩ ∨ n.method = ⟨"", "A(", "run", "(I)V"⟩ →
        ∃ s ∈ sources, s.matches n = true := by
  have hread : (Config.parse "config.yaml" twoEntries).toOption.any (fun c =>
      (ofConfig c).toOption.any (fun sources =>
        decide (sources.map (fun s => s.args) = [[0], [1, 0]]) &&
          c.isSource ⟨"", "Main", "onBind", "()V"⟩ && c.isSource ⟨"", "A(", "run", "(I)V"⟩))
      = true := by decide +kernel
  cases hc : Config.parse "config.yaml" twoEntries with
  | error e =>
      rw [hc] at hread
      cases hread
  | ok c =>
      rw [hc] at hread
      cases hs : ofConfig c with
      | error e =>
          simp only [Except.toOption, Option.any_some, hs] at hread
          cases hread
      | ok sources =>
          simp only [Except.toOption, Option.any_some, hs, Bool.and_eq_true,
            decide_eq_true_eq] at hread
          refine ⟨c, sources, rfl, hs, hread.1.1, ?_⟩
          have hagrees := (ofConfig_agrees _ _ _ c sources hc hs).1
          rintro n (hn | hn)
          · exact (hagrees n).1 (hn ▸ hread.1.2)
          · exact (hagrees n).1 (hn ▸ hread.2)

end Source

end TaintSeed
