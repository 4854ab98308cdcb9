import TaintSeed.Proofs.Hierarchy.Acyclic

/-!
# Inherited Fields Come First

The fields of the objects of a class are collected by walking up to the last
declared superclass and listing the classes on the way in reverse. What is
meant is simpler, and recursive: the fields that the superclass has, followed
by those that the class declares itself. The recursion is sound because no
class is above itself, which is what a list of declarations is checked for.

The walk for a class goes on behind the class with a name in its list of names
passed, while the walk for the superclass starts with an empty one and with more
steps left. There is only one way up from a name, so neither can be noticed, and
`superChain?_eq_cons` is the recursive equation for the walk. The equation for
the fields is that equation read backwards.

A superclass that is not declared has no fields to give. Neither has the empty
name, which stands for no superclass even where some class is declared under
it.

## Main definitions

* `Hierarchy.inherited`: The fields that a class has from its superclass.
* `Hierarchy.InheritsExactly`: The way up ends, and fields are inherited along it.

## Theorems

* `Hierarchy.ofClasses_classes`: Every hierarchy is one that is accepted.
* `Hierarchy.superChain?_eq_cons`: The way up goes on behind a class as from its superclass.
* `Hierarchy.instanceFields_eq_inherited_append`: Inherited fields, then declared fields.
* `Hierarchy.ofClasses_eq_error_iff`: The lists of declarations that are refused.
* `Hierarchy.ofClasses_exact`: What is refused, and what holds of all else.
-/

namespace TaintSeed

namespace Hierarchy

/-- The fields that a class has from its superclass; none if it has no superclass or one that is
    not declared. -/
def inherited (h : Hierarchy) (c : ClassDecl) : List FieldRef :=
  if c.super = "" ∨ h.find? c.super = none then [] else h.instanceFields (.ofClass c.super)

/-- The way up from any name ends and passes no class twice, and the fields of a type are those
    that its class inherits and declares. -/
structure InheritsExactly (h : Hierarchy) : Prop where
  /-- The walk never reports a cycle, and no class is visited twice. -/
  ends : ∀ name, ∃ up, ClassDecl.superChain? h.classes name = some up ∧
    (up.map ClassDecl.name).Nodup
  /-- A declared class has its inherited fields and then its own, in the order of declaration. -/
  declared : ∀ (t : TypeRef), t.kind = .reference → ∀ c ∈ h.classes, c.name = t.name →
    h.instanceFields t = h.inherited c ++ c.fields.map (fun f => ⟨c.name, f.name, f.type⟩)
  /-- Nothing else has fields. -/
  others : ∀ (t : TypeRef), ¬(t.kind = .reference ∧ ∃ c ∈ h.classes, c.name = t.name) →
    h.instanceFields t = []

/-! ## The way up, class by class -/

theorem superChain?_eq_cons (h : Hierarchy) (name : String) (c : ClassDecl)
    (hfind : h.find? name = some c) :
    ClassDecl.superChain? h.classes name = some (c ::
      if c.super = "" then [] else (ClassDecl.superChain? h.classes c.super).getD []) := by
  rcases h.superChain?_eq_some name with ⟨up, hup⟩
  rw [hup]
  cases ClassDecl.wayUp_of_superChain? h.classes name up hup with
  | undeclared missing => cases missing.symm.trans hfind
  | top found _ root =>
      cases Option.some.inj (found.symm.trans hfind)
      rw [if_pos root]
  | above found _ given way =>
      cases Option.some.inj (found.symm.trans hfind)
      -- The superclass has its own walk, which goes the same way.
      rcases h.superChain?_eq_some c.super with ⟨rest, hrest⟩
      have hsame := way.unique (ClassDecl.wayUp_of_superChain? h.classes c.super rest hrest)
      rw [if_neg given, hrest, Option.getD_some, hsame]

theorem instanceFields_ofClass (h : Hierarchy) (name : String) :
    h.instanceFields (.ofClass name)
      = ((ClassDecl.superChain? h.classes name).getD []).reverse.flatMap ClassDecl.fieldRefs := rfl

-- The way up from an undeclared name is empty, so asking whether it is declared is not needed.
theorem inherited_eq (h : Hierarchy) (c : ClassDecl) :
    h.inherited c = if c.super = "" then [] else h.instanceFields (.ofClass c.super) := by
  by_cases hroot : c.super = ""
  · simp [inherited, hroot]
  · cases hfind : h.find? c.super with
    | some d => simp [inherited, hroot, hfind]
    | none =>
        have hempty := ClassDecl.superChain?_of_find?_eq_none h.classes c.super hfind
        simp [inherited, hroot, hfind, instanceFields_ofClass, hempty]

theorem instanceFields_eq_inherited_append (h : Hierarchy) (t : TypeRef) (c : ClassDecl)
    (ht : t.kind = .reference) (hfind : h.find? t.name = some c) :
    h.instanceFields t = h.inherited c ++ c.fieldRefs := by
  have hreference : t.isReference = true := by rw [TypeRef.isReference, ht]; rfl
  -- The class is first on its way up, so it is last when the way is turned around.
  rw [instanceFields, if_pos hreference, h.superChain?_eq_cons t.name c hfind, Option.getD_some,
    List.reverse_cons, List.flatMap_append, List.flatMap_singleton, inherited_eq]
  by_cases hroot : c.super = ""
  · rw [if_pos hroot, if_pos hroot]
    rfl
  · rw [if_neg hroot, if_neg hroot]
    rfl

theorem instanceFields_eq_nil (h : Hierarchy) (t : TypeRef)
    (ht : ¬(t.kind = .reference ∧ ∃ c ∈ h.classes, c.name = t.name)) :
    h.instanceFields t = [] := by
  rw [List.eq_nil_iff_forall_not_mem]
  intro f hf
  rcases (h.mem_instanceFields_iff t f).1 hf with ⟨hkind, d, hd, _⟩
  -- A field comes from an ancestor, and only a declared class has any.
  cases hfind : h.find? t.name with
  | none => exact ClassDecl.not_ancestor_of_find?_eq_none h.classes t.name d hfind hd
  | some c => exact ht ⟨hkind, c, (h.find?_eq_some_iff t.name c).1 hfind⟩

/-! ## Accepted and refused lists -/

theorem ofClasses_classes (h : Hierarchy) : ofClasses h.classes = .ok h := by
  have hacyclic := (ClassDecl.superChain?_isSome_iff h.classes).1 h.acyclic
  rcases (ofClasses_isOk_iff h.classes).2 ⟨h.nodup_names, hacyclic⟩ with ⟨h', hok⟩
  have hclasses := classes_of_ofClasses h.classes h' hok
  -- Apart from the declarations a hierarchy holds proofs only.
  cases h
  cases h'
  cases hclasses
  exact hok

theorem inheritsExactly (h : Hierarchy) : h.InheritsExactly where
  ends := by
    intro name
    rcases h.superChain?_eq_some name with ⟨up, hup⟩
    exact ⟨up, hup, (ClassDecl.wayUp_of_superChain? h.classes name up hup).nodup_names⟩
  declared := by
    intro t ht c hc hname
    exact h.instanceFields_eq_inherited_append t c ht
      ((h.find?_eq_some_iff t.name c).2 ⟨hc, hname⟩)
  others := h.instanceFields_eq_nil

/-- A list of declarations is refused when a name is repeated or a class is above itself. -/
theorem ofClasses_eq_error_iff (classes : List ClassDecl) :
    (∃ e, ofClasses classes = .error e) ↔ ¬(classes.map ClassDecl.name).Nodup ∨
      ∃ c ∈ classes, Relation.TransGen (ClassDecl.Extends classes) c.name c.name := by
  have hrefused : (∃ e, ofClasses classes = .error e) ↔ ¬∃ h, ofClasses classes = .ok h := by
    cases ofClasses classes <;> simp
  -- Only a declared class has anything above it.
  have hcycle : (∃ c ∈ classes, Relation.TransGen (ClassDecl.Extends classes) c.name c.name) ↔
      ∃ name, Relation.TransGen (ClassDecl.Extends classes) name name := by
    constructor
    · rintro ⟨c, _, hc⟩
      exact ⟨c.name, hc⟩
    · rintro ⟨name, hname⟩
      rcases Relation.TransGen.head'_iff.1 hname with ⟨_, ⟨c, hfind, _, _⟩, _⟩
      rcases ClassDecl.name_of_find? classes name c hfind with ⟨hc, rfl⟩
      exact ⟨c, hc, hname⟩
  rw [hrefused, ofClasses_isOk_iff, hcycle, not_and_or, not_forall]
  simp only [not_not]

/-- A list of declarations is refused when two classes have the same name or a class reaches itself
    by following the names of superclasses, and not otherwise. In a list that is accepted the way up
    from every class ends without coming back, and a class has the fields of its superclass and then
    its own. -/
theorem ofClasses_exact (classes : List ClassDecl) :
    ((∃ e, ofClasses classes = .error e) ↔ ¬(classes.map ClassDecl.name).Nodup ∨
      ∃ c ∈ classes, Relation.TransGen (ClassDecl.Extends classes) c.name c.name) ∧
    ∀ h, ofClasses classes = .ok h → h.classes = classes ∧ h.InheritsExactly :=
  ⟨ofClasses_eq_error_iff classes,
    fun h hok => ⟨classes_of_ofClasses classes h hok, h.inheritsExactly⟩⟩

/-- A chain of three classes that are not declared in order, the last of which names no
    superclass, and a class that is declared under the empty name. -/
def shapes : Hierarchy where
  classes :=
    [⟨"Square", "Polygon", false, [⟨"side", .ofPrimitive "I"⟩]⟩,
     ⟨"Shape", "", false, [⟨"id", .ofPrimitive "I"⟩]⟩,
     ⟨"Polygon", "Shape", false, [⟨"id", .ofPrimitive "J"⟩, ⟨"next", .ofClass "Shape"⟩]⟩,
     ⟨"", "lib.Object", false, [⟨"hidden", .ofPrimitive "Z"⟩]⟩]
  distinct := by decide +kernel
  acyclic := by decide +kernel

/-- The fields of the class at the bottom are listed from the top, and the class without a name
    gives none. -/
theorem ofClasses_exact_shapes :
    ofClasses shapes.classes = .ok shapes ∧
    shapes.instanceFields (.ofClass "Square") =
      [⟨"Shape", "id", .ofPrimitive "I"⟩, ⟨"Polygon", "id", .ofPrimitive "J"⟩,
       ⟨"Polygon", "next", .ofClass "Shape"⟩, ⟨"Square", "side", .ofPrimitive "I"⟩] := by
  have hok := ofClasses_classes shapes
  rcases (ofClasses_exact shapes.classes).2 shapes hok with ⟨_, _, hdeclared, _⟩
  have hshape : shapes.instanceFields (.ofClass "Shape") = [⟨"Shape", "id", .ofPrimitive "I"⟩] :=
    hdeclared _ rfl _ (List.get_mem shapes.classes ⟨1, by decide⟩) rfl
  have hpolygon : shapes.instanceFields (.ofClass "Polygon") =
      shapes.instanceFields (.ofClass "Shape") ++
        [⟨"Polygon", "id", .ofPrimitive "J"⟩, ⟨"Polygon", "next", .ofClass "Shape"⟩] :=
    hdeclared _ rfl _ (List.get_mem shapes.classes ⟨2, by decide⟩) rfl
  have hsquare : shapes.instanceFields (.ofClass "Square") =
      shapes.instanceFields (.ofClass "Polygon") ++ [⟨"Square", "side", .ofPrimitive "I"⟩] :=
    hdeclared _ rfl _ (List.get_mem shapes.classes ⟨0, by decide⟩) rfl
  rw [hsquare, hpolygon, hshape]
  exact ⟨hok, rfl⟩

end Hierarchy

end TaintSeed
