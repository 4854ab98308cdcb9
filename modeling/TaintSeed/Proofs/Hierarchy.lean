import Mathlib.Data.List.Nodup
import TaintSeed.Hierarchy

/-!
# Looking Up Classes and Their Own Fields

In an accepted hierarchy a name belongs to one class, so a look-up by name
finds the declaration itself. The fields of an object are listed along the way
up from its class, farthest ancestor first. The class stands at the start of
that way and its name does not come back, so a search for the fields that the
class declares itself runs past all the inherited ones, and among its own
fields it stops at the first with the name.

The walk up is bounded and carries the names that it has passed. `WayUp` says
what it does without the bound, and everything about the classes on the way is
proved by induction on that relation. `Ancestor` says which classes stand on the
way up without walking it. In an accepted hierarchy the walk never stops short,
so the fields of an object are those that its ancestors declare.

## Main definitions

* `ClassDecl.WayUp`: The classes on the way up from a name.
* `ClassDecl.Ancestor`: The class of a name or one of its declared superclasses.

## Theorems

* `ClassDecl.firstRepeated?_eq_none_iff`: The check for repeated names.
* `Hierarchy.find?_eq_some_iff`: A look-up finds the class that has the name.
* `Hierarchy.classes_of_ofClasses`: An accepted list is kept as it is.
* `ClassDecl.wayUp_of_ancestors?`: A walk that ends has gone the way up.
* `ClassDecl.WayUp.mem_iff`: The classes on the way up are the ancestors.
* `ClassDecl.WayUp.nodup_names`: The way up passes no name twice.
* `ClassDecl.WayUp.unique`: There is one way up from a name.
* `Hierarchy.find?_instanceFields`: Searching for a field that a class declares itself.
* `Hierarchy.mem_instanceFields_iff`: The fields of an object are those of its ancestors.
-/

namespace TaintSeed

namespace ClassDecl

/-- No name is repeated, and none is among the earlier ones. -/
theorem firstRepeated?_eq_none_iff (earlier : List String) (classes : List ClassDecl) :
    firstRepeated? earlier classes = none ↔
      (classes.map ClassDecl.name).Nodup ∧ ∀ c ∈ classes, c.name ∉ earlier := by
  induction classes generalizing earlier with
  | nil => simp [firstRepeated?]
  | cons c cs ih =>
      by_cases hc : c.name ∈ earlier
      · simp [firstRepeated?, hc]
      · rw [firstRepeated?, if_neg hc, ih, List.map_cons, List.nodup_cons]
        -- `c` moves from the list to the earlier names: the same pairs are kept apart.
        simp only [List.mem_cons, List.mem_map, not_or, not_exists, not_and]
        constructor
        · rintro ⟨hnodup, hfresh⟩
          refine ⟨⟨fun d hd => (hfresh d hd).1, hnodup⟩, ?_⟩
          rintro d (rfl | hd)
          · exact hc
          · exact (hfresh d hd).2
        · rintro ⟨⟨hne, hnodup⟩, hfresh⟩
          exact ⟨hnodup, fun d hd => ⟨hne d hd, hfresh d (Or.inr hd)⟩⟩

/-- The classes `up` are the way up from a name, and none of them has a name in `seen`. A walk is
    this relation with a bound on the number of steps. -/
inductive WayUp (classes : List ClassDecl) : List String → String → List ClassDecl → Prop
  /-- A class that is not declared ends the way. -/
  | undeclared {seen : List String} {name : String} (missing : find? classes name = none) :
      WayUp classes seen name []
  /-- So does a class without a superclass. -/
  | top {seen : List String} {name : String} {c : ClassDecl} (found : find? classes name = some c)
      (fresh : c.name ∉ seen) (root : c.super = "") : WayUp classes seen name [c]
  /-- From any other class the way leads on to its superclass. -/
  | above {seen : List String} {name : String} {c : ClassDecl} {rest : List ClassDecl}
      (found : find? classes name = some c) (fresh : c.name ∉ seen) (given : c.super ≠ "")
      (way : WayUp classes (c.name :: seen) c.super rest) : WayUp classes seen name (c :: rest)

theorem wayUp_of_ancestors? (classes : List ClassDecl) (steps : Nat) (seen : List String)
    (name : String) (up : List ClassDecl)
    (hup : ancestors? classes steps seen name = some up) : WayUp classes seen name up := by
  induction steps generalizing seen name up with
  | zero => cases hup
  | succ steps ih =>
      rw [ancestors?] at hup
      cases hfind : find? classes name with
      | none =>
          rw [hfind] at hup
          cases hup
          exact .undeclared hfind
      | some c =>
          simp only [hfind] at hup
          split at hup
          · cases hup
          rename_i hfresh
          split at hup
          · rename_i hroot
            cases hup
            exact .top hfind hfresh hroot
          · rename_i hgiven
            rcases Option.map_eq_some_iff.1 hup with ⟨rest, hrest, rfl⟩
            exact .above hfind hfresh hgiven (ih _ _ rest hrest)

theorem wayUp_of_superChain? (classes : List ClassDecl) (name : String) (up : List ClassDecl)
    (hup : superChain? classes name = some up) : WayUp classes [] name up :=
  wayUp_of_ancestors? classes _ [] name up hup

theorem superChain?_of_find?_eq_none (classes : List ClassDecl) (name : String)
    (hfind : find? classes name = none) : superChain? classes name = some [] := by
  rw [superChain?, ancestors?, hfind]

/-- The class is the one of that name or one of its declared superclasses. -/
inductive Ancestor (classes : List ClassDecl) : String → ClassDecl → Prop
  /-- The class of that name. -/
  | self {name : String} {c : ClassDecl} (found : find? classes name = some c) :
      Ancestor classes name c
  /-- An ancestor of its superclass. -/
  | above {name : String} {c d : ClassDecl} (found : find? classes name = some c)
      (given : c.super ≠ "") (ancestor : Ancestor classes c.super d) : Ancestor classes name d

theorem not_ancestor_of_find?_eq_none (classes : List ClassDecl) (name : String) (d : ClassDecl)
    (hfind : find? classes name = none) : ¬ Ancestor classes name d := by
  intro hd
  cases hd with
  | self found => cases hfind.symm.trans found
  | above found _ _ => cases hfind.symm.trans found

theorem ancestor_iff_of_find?_eq_some (classes : List ClassDecl) (name : String) (c d : ClassDecl)
    (hfind : find? classes name = some c) :
    Ancestor classes name d ↔ d = c ∨ c.super ≠ "" ∧ Ancestor classes c.super d := by
  constructor
  · intro hd
    cases hd with
    | self found => exact Or.inl (Option.some.inj (found.symm.trans hfind))
    | above found given ancestor =>
        obtain rfl := Option.some.inj (found.symm.trans hfind)
        exact Or.inr ⟨given, ancestor⟩
  · rintro (rfl | ⟨given, ancestor⟩)
    · exact .self hfind
    · exact .above hfind given ancestor

namespace WayUp

variable {classes up : List ClassDecl} {seen : List String} {name : String}

/-- No class on the way up has a name that was seen before. -/
theorem not_seen (hup : WayUp classes seen name up) : ∀ d ∈ up, d.name ∉ seen := by
  induction hup with
  | undeclared _ => exact fun d hd => absurd hd List.not_mem_nil
  | top _ fresh _ =>
      intro d hd
      rw [List.mem_singleton.1 hd]
      exact fresh
  | above _ fresh _ _ ih =>
      intro d hd
      rcases List.mem_cons.1 hd with rfl | hd
      · exact fresh
      · exact fun h => ih d hd (List.mem_cons_of_mem _ h)

/-- No name is passed twice. -/
theorem nodup_names (hup : WayUp classes seen name up) : (up.map ClassDecl.name).Nodup := by
  induction hup with
  | undeclared _ => exact List.nodup_nil
  | top _ _ _ => exact List.nodup_singleton _
  | above _ _ _ way ih =>
      rw [List.map_cons, List.nodup_cons]
      refine ⟨fun hmem => ?_, ih⟩
      rcases List.mem_map.1 hmem with ⟨d, hd, hname⟩
      exact way.not_seen d hd (hname ▸ List.mem_cons_self)

/-- The classes on the way up are the ancestors. -/
theorem mem_iff (hup : WayUp classes seen name up) (d : ClassDecl) :
    d ∈ up ↔ Ancestor classes name d := by
  induction hup with
  | undeclared missing =>
      exact iff_of_false List.not_mem_nil (not_ancestor_of_find?_eq_none classes _ d missing)
  | top found _ root =>
      rw [ancestor_iff_of_find?_eq_some classes _ _ d found]
      simp [root]
  | above found _ given _ ih =>
      rw [ancestor_iff_of_find?_eq_some classes _ _ d found, List.mem_cons, ih]
      simp [given]

/-- The way up passes declared classes only. -/
theorem subset (hup : WayUp classes seen name up) : up ⊆ classes := by
  induction hup with
  | undeclared _ => exact List.nil_subset _
  | top found _ _ =>
      exact List.cons_subset.2 ⟨List.mem_of_find?_eq_some found, List.nil_subset _⟩
  | above found _ _ _ ih => exact List.cons_subset.2 ⟨List.mem_of_find?_eq_some found, ih⟩

/-- There is one way up from a name, whatever was seen before. -/
theorem unique {seen' : List String} {up' : List ClassDecl} (hup : WayUp classes seen name up)
    (hup' : WayUp classes seen' name up') : up = up' := by
  induction hup generalizing seen' up' with
  | undeclared missing =>
      cases hup' with
      | undeclared _ => rfl
      | top found' _ _ => cases missing.symm.trans found'
      | above found' _ _ _ => cases missing.symm.trans found'
  | top found _ root =>
      cases hup' with
      | undeclared missing' => cases missing'.symm.trans found
      | top found' _ _ => rw [Option.some.inj (found.symm.trans found')]
      | above found' _ given' _ =>
          cases Option.some.inj (found.symm.trans found')
          exact absurd root given'
  | above found _ given _ ih =>
      cases hup' with
      | undeclared missing' => cases missing'.symm.trans found
      | top found' _ root' =>
          cases Option.some.inj (found.symm.trans found')
          exact absurd root' given
      | above found' _ _ way' =>
          cases Option.some.inj (found.symm.trans found')
          rw [ih way']

/-- The way up starts with the class of the name and never returns to it. -/
theorem starts {c : ClassDecl} (hup : WayUp classes seen name up)
    (hfind : find? classes name = some c) :
    ∃ rest, up = c :: rest ∧ ∀ d ∈ rest, d.name ≠ c.name := by
  cases hup with
  | undeclared missing => cases missing.symm.trans hfind
  | top found _ _ =>
      cases Option.some.inj (found.symm.trans hfind)
      exact ⟨[], rfl, fun d hd => absurd hd List.not_mem_nil⟩
  | above found _ _ way =>
      cases Option.some.inj (found.symm.trans hfind)
      refine ⟨_, rfl, fun d hd hname => ?_⟩
      exact way.not_seen d hd (hname ▸ List.mem_cons_self)

end WayUp

end ClassDecl

namespace Hierarchy

theorem nodup_names (h : Hierarchy) : (h.classes.map ClassDecl.name).Nodup :=
  ((ClassDecl.firstRepeated?_eq_none_iff [] h.classes).1 h.distinct).1

/-- A look-up finds the class that has the name. -/
theorem find?_eq_some_iff (h : Hierarchy) (name : String) (c : ClassDecl) :
    h.find? name = some c ↔ c ∈ h.classes ∧ c.name = name := by
  constructor
  · intro hfind
    have hname := List.find?_some hfind
    exact ⟨List.mem_of_find?_eq_some hfind, by simpa using hname⟩
  · rintro ⟨hc, rfl⟩
    cases hfind : h.find? c.name with
    | none =>
        have hnone := List.find?_eq_none.1 hfind c hc
        simp at hnone
    | some d =>
        have hd : d ∈ h.classes := List.mem_of_find?_eq_some hfind
        have hname : d.name = c.name := by simpa using List.find?_some hfind
        rw [List.inj_on_of_nodup_map h.nodup_names hd hc hname]

/-- An accepted list of declarations is kept as it is. -/
theorem classes_of_ofClasses (classes : List ClassDecl) (h : Hierarchy)
    (hok : ofClasses classes = .ok h) : h.classes = classes := by
  unfold ofClasses at hok
  split at hok
  · cases hok
  · split at hok
    · cases hok
    · cases hok
      rfl

theorem find?_fieldRefs_of_ne (name : String) (owner : String) (cs : List ClassDecl)
    (hne : ∀ c ∈ cs, c.name ≠ owner) :
    (cs.flatMap ClassDecl.fieldRefs).find? (fun f => f.owner == owner && f.name == name) =
      none := by
  rw [List.find?_eq_none]
  intro f hf
  rcases List.mem_flatMap.1 hf with ⟨c, hc, hfc⟩
  rcases List.mem_map.1 hfc with ⟨d, _, rfl⟩
  simp [hne c hc]

/-- Of the fields of an object, the first that its own class declares under a name is the first
    in the declaration of that class. -/
theorem find?_instanceFields (h : Hierarchy) (t : TypeRef) (name : String) :
    (h.instanceFields t).find? (fun f => f.owner == t.name && f.name == name) =
      if t.isReference then
        (h.find? t.name).bind (fun c =>
          (c.fields.find? (fun d => d.name == name)).map (fun d => ⟨c.name, d.name, d.type⟩))
      else none := by
  unfold instanceFields
  by_cases ht : t.isReference = true
  · rw [if_pos ht, if_pos ht]
    cases hfind : h.find? t.name with
    | none =>
        rw [ClassDecl.superChain?_of_find?_eq_none h.classes t.name hfind]
        rfl
    | some c =>
        rcases (h.find?_eq_some_iff t.name c).1 hfind with ⟨hc, hname⟩
        have hsome : (ClassDecl.superChain? h.classes t.name).isSome = true :=
          hname ▸ h.acyclic c hc
        rcases Option.isSome_iff_exists.1 hsome with ⟨up, hup⟩
        rcases (ClassDecl.wayUp_of_superChain? h.classes t.name up hup).starts hfind with
          ⟨rest, rfl, hrest⟩
        -- The inherited fields stand before those of `c`, and none of them has its name.
        have hinherited : ∀ d ∈ rest.reverse, d.name ≠ t.name :=
          fun d hd => hname ▸ hrest d (List.mem_reverse.1 hd)
        rw [hup, Option.getD_some, List.reverse_cons, List.flatMap_append, List.find?_append,
          find?_fieldRefs_of_ne name t.name rest.reverse hinherited, Option.none_or,
          List.flatMap_singleton, ClassDecl.fieldRefs, List.find?_map, Option.bind_some]
        simp only [Function.comp_def, hname, BEq.rfl, Bool.true_and]
  · rw [if_neg ht, if_neg ht]
    rfl

/-- The way up from any name ends. -/
theorem superChain?_eq_some (h : Hierarchy) (name : String) :
    ∃ up, ClassDecl.superChain? h.classes name = some up := by
  cases hfind : h.find? name with
  | none => exact ⟨[], ClassDecl.superChain?_of_find?_eq_none h.classes name hfind⟩
  | some c =>
      rcases (h.find?_eq_some_iff name c).1 hfind with ⟨hc, rfl⟩
      exact Option.isSome_iff_exists.1 (h.acyclic c hc)

/-- The fields of an object of a class are those that the class and its declared superclasses
    declare. -/
theorem mem_instanceFields_iff (h : Hierarchy) (t : TypeRef) (field : FieldRef) :
    field ∈ h.instanceFields t ↔ t.kind = .reference ∧
      ∃ c, ClassDecl.Ancestor h.classes t.name c ∧ field ∈ c.fieldRefs := by
  have hreference : t.isReference = true ↔ t.kind = .reference := by
    rw [TypeRef.isReference, beq_iff_eq]
  rcases h.superChain?_eq_some t.name with ⟨up, hup⟩
  unfold instanceFields
  rw [← hreference, hup, Option.getD_some]
  by_cases ht : t.isReference = true
  · rw [if_pos ht, and_iff_right ht, List.mem_flatMap]
    simp only [List.mem_reverse, (ClassDecl.wayUp_of_superChain? h.classes t.name up hup).mem_iff]
  · simp [ht]

end Hierarchy

end TaintSeed
