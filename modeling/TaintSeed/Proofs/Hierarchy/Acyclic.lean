import Mathlib.Data.List.Permutation
import Mathlib.Logic.Relation
import TaintSeed.Proofs.Hierarchy

/-!
# Which Declarations Form a Hierarchy

A list of declarations is checked by walking up from every class, with a list
of the names passed and a bound on the number of steps. Both are devices of the
walk. What is meant is that no class is above itself, which is a statement
about the relation between a class and its superclass alone.

The two agree. A walk that does not end has passed more names than there are
classes, or comes back to one that it passed; in both cases a name is above
itself. A name that is above itself is met again by the walk that starts there.

## Main definitions

* `ClassDecl.Extends`: One step up.

## Theorems

* `ClassDecl.ancestors?_isSome`: Without a cycle, the walk ends within its bound.
* `ClassDecl.superChain?_eq_none`: A walk that starts on a cycle is given up.
* `Hierarchy.ofClasses_isOk_iff`: The lists of declarations that are accepted.
-/

namespace TaintSeed

namespace ClassDecl

/-- The first name is that of a class, and the second is that of its superclass. -/
def Extends (classes : List ClassDecl) (name above : String) : Prop :=
  ∃ c, find? classes name = some c ∧ c.super ≠ "" ∧ c.super = above

theorem name_of_find? (classes : List ClassDecl) (name : String) (c : ClassDecl)
    (hfind : find? classes name = some c) : c ∈ classes ∧ c.name = name :=
  ⟨List.mem_of_find?_eq_some hfind, by simpa using List.find?_some hfind⟩

/-- Without a cycle, the walk ends. The names passed are those of different classes, so there is
    always a step left, and from each of them the walk has come here. -/
theorem ancestors?_isSome (classes : List ClassDecl)
    (hacyclic : ∀ name, ¬ Relation.TransGen (Extends classes) name name) (steps : Nat)
    (seen : List String) (name : String) (hsteps : classes.length < steps + seen.length)
    (hnodup : seen.Nodup) (hseen : seen ⊆ classes.map ClassDecl.name)
    (hpassed : ∀ s ∈ seen, Relation.TransGen (Extends classes) s name) :
    (ancestors? classes steps seen name).isSome = true := by
  induction steps generalizing seen name with
  | zero =>
      -- More names have been passed than there are classes.
      have hle := (List.subperm_of_subset hnodup hseen).length_le
      rw [List.length_map] at hle
      omega
  | succ steps ih =>
      rw [ancestors?]
      cases hfind : find? classes name with
      | none => rfl
      | some c =>
          rcases name_of_find? classes name c hfind with ⟨hc, rfl⟩
          have hnew : c.name ∉ seen := fun hmem => hacyclic c.name (hpassed c.name hmem)
          simp only [if_neg hnew]
          by_cases hroot : c.super = ""
          · rw [if_pos hroot]
            rfl
          · rw [if_neg hroot, Option.isSome_map]
            have hstep : Extends classes c.name c.super := ⟨c, hfind, hroot, rfl⟩
            refine ih (c.name :: seen) c.super ?_ (List.nodup_cons.2 ⟨hnew, hnodup⟩) ?_ ?_
            · rw [List.length_cons]
              omega
            · exact List.cons_subset.2 ⟨List.mem_map_of_mem hc, hseen⟩
            · intro s hs
              rcases List.mem_cons.1 hs with rfl | hs
              · exact .single hstep
              · exact (hpassed s hs).tail hstep

/-- A class that is reached by steps up is an ancestor. -/
theorem ancestor_of_reflTransGen (classes : List ClassDecl) (name above : String) (d : ClassDecl)
    (hreach : Relation.ReflTransGen (Extends classes) name above)
    (hfind : find? classes above = some d) : Ancestor classes name d := by
  induction hreach using Relation.ReflTransGen.head_induction_on with
  | refl => exact .self hfind
  | head hstep _ ih =>
      rcases hstep with ⟨c, hc, hgiven, rfl⟩
      exact .above hc hgiven ih

/-- A walk that starts on a cycle is given up. -/
theorem superChain?_eq_none (classes : List ClassDecl) (name : String)
    (hcycle : Relation.TransGen (Extends classes) name name) :
    superChain? classes name = none := by
  rcases Relation.TransGen.head'_iff.1 hcycle with ⟨above, ⟨c, hfind, hgiven, rfl⟩, hback⟩
  rcases name_of_find? classes name c hfind with ⟨_, rfl⟩
  unfold superChain?
  simp only [ancestors?, hfind, List.not_mem_nil, if_false, if_neg hgiven]
  rw [Option.map_eq_none_iff]
  cases hrest : ancestors? classes classes.length [c.name] c.super with
  | none => rfl
  | some rest =>
      -- The class itself is above its superclass, but its name has been passed.
      have hway := wayUp_of_ancestors? classes _ _ _ rest hrest
      have hmem : c ∈ rest :=
        (hway.mem_iff c).2 (ancestor_of_reflTransGen classes c.super c.name c hback hfind)
      exact absurd List.mem_cons_self (hway.not_seen c hmem)

theorem superChain?_isSome_iff (classes : List ClassDecl) :
    (∀ c ∈ classes, (superChain? classes c.name).isSome = true) ↔
      ∀ name, ¬ Relation.TransGen (Extends classes) name name := by
  constructor
  · intro hends name hcycle
    rcases Relation.TransGen.head'_iff.1 hcycle with ⟨_, ⟨c, hfind, _, _⟩, _⟩
    rcases name_of_find? classes name c hfind with ⟨hc, rfl⟩
    have hsome := hends c hc
    rw [superChain?_eq_none classes c.name hcycle] at hsome
    cases hsome
  · intro hacyclic c _
    refine ancestors?_isSome classes hacyclic _ [] c.name ?_ List.nodup_nil (List.nil_subset _) ?_
    · rw [List.length_nil]
      omega
    · exact fun s hs => absurd hs List.not_mem_nil

end ClassDecl

namespace Hierarchy

/-- Declarations are accepted when no name is repeated and no name is above itself. -/
theorem ofClasses_isOk_iff (classes : List ClassDecl) :
    (∃ h, ofClasses classes = .ok h) ↔ (classes.map ClassDecl.name).Nodup ∧
      ∀ name, ¬ Relation.TransGen (ClassDecl.Extends classes) name name := by
  have hdistinct : ClassDecl.firstRepeated? [] classes = none ↔
      (classes.map ClassDecl.name).Nodup := by
    simp [ClassDecl.firstRepeated?_eq_none_iff]
  rw [← ClassDecl.superChain?_isSome_iff, ← hdistinct]
  constructor
  · rintro ⟨h, hok⟩
    rw [← classes_of_ofClasses classes h hok]
    exact ⟨h.distinct, h.acyclic⟩
  · rintro ⟨hd, hends⟩
    unfold ofClasses
    split
    · rename_i name hname
      cases hd.symm.trans hname
    · split
      · rename_i c hc
        have hnone := List.find?_some hc
        rw [Option.isNone_iff_eq_none] at hnone
        have hsome := hends c (List.mem_of_find?_eq_some hc)
        rw [hnone] at hsome
        cases hsome
      · exact ⟨_, rfl⟩

end Hierarchy

end TaintSeed
