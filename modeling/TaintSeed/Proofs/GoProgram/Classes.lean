import Mathlib.Data.List.Nodup
import TaintSeed.GoProgram.Inference
import TaintSeed.Proofs.GoProgram.Walk
import TaintSeed.Proofs.Heap.Rounds
import TaintSeed.Proofs.Hierarchy.Inheritance

/-!
# The Classes of a Go Program Are Closed

Every structure and interface that types lead to becomes a class, and a field
of such a type refers to a class that is there. This is not true while the
walk goes on: a class is listed before the classes of its fields are, and when
it is met again nothing is done, in the hope that the walk which has listed it
will come to its fields later. Only at the end is everything listed.

`Met` are the types that the walk comes to, said without the walk. It passes
over a type whose name is listed, so it collects all of them only if types that
are written alike are alike: `TellsApart` is what has to be true of the names.
It holds if no two structures or interfaces are written alike
(`tellsApart_of_injective`), and it asks for less, because a type may be
written down in two packages and still be one type.

No two classes have a name in common, and none has a superclass. So the classes
are a hierarchy in any case (`exists_hierarchy`), and if the names tell types
apart, an object can stand for every field that holds a structure.

## Main definitions

* `Declarations.Met`: The types that the walk comes to.
* `Declarations.TellsApart`: Types that are written alike are alike.
* `Declarations.HoldsStructure`: The field has the type of a structure, or of a pointer to one.
* `Declarations.DeclaresAll`: What is known of the classes that the walk has collected.

## Theorems

* `Declarations.Meets.leads`: What a walk comes to is listed at its end.
* `Declarations.Meets.origin`: The classes that a walk adds are those of types.
* `Declarations.exists_hierarchy`: The classes of types are a hierarchy.
* `Declarations.listed_of_met`: Everything that is met is listed.
* `Declarations.classes_closed`: The walk ends, and its classes are closed.
-/

namespace TaintSeed

namespace GoProgram

namespace Declarations

/-! ## What types stand for -/

theorem underlying_eq_self (d : Declarations) {t : GoType} (ht : t.isNamed = false) :
    d.underlying t = t := by
  cases t <;> first | rfl | cases ht

theorem eq_named_of_isNamed {t : GoType} (ht : t.isNamed = true) :
    ∃ package name, t = .named package name := by
  cases t <;> first | exact ⟨_, _, rfl⟩ | cases ht

theorem direct?_eq_some_iff (d : Declarations) (t : GoType) (o : Object) :
    d.direct? t = some o ↔
      (∃ package fields, d.underlying t = .struct package fields ∧ o = ⟨d.written t, false, fields⟩) ∨
      ∃ package methods, d.underlying t = .interface package methods ∧ o = ⟨d.written t, true, .nil⟩ := by
  cases hunder : d.underlying t <;> simp [direct?, hunder, eq_comm]

-- A structure or an interface is no pointer, so nothing is followed to get to it.
theorem object?_of_direct? (d : Declarations) {t : GoType} {o : Object}
    (h : d.direct? t = some o) : d.object? t = some o := by
  rcases (d.direct?_eq_some_iff t o).1 h with ⟨_, _, hunder, _⟩ | ⟨_, _, hunder, _⟩
  · rw [object?, hunder]
    exact h
  · rw [object?, hunder]
    exact h

theorem object?_pointer (d : Declarations) (elem : GoType) :
    d.object? (.pointer elem) = d.direct? elem := by
  rw [object?, d.underlying_eq_self rfl]

theorem isPointee_of_direct? (d : Declarations) {t : GoType} {o : Object}
    (h : d.direct? t = some o) : d.isPointee t = true := by
  rcases (d.direct?_eq_some_iff t o).1 h with ⟨_, _, hunder, _⟩ | ⟨_, _, hunder, _⟩
  · rw [isPointee, hunder]
  · rw [isPointee, hunder]

-- Behind a pointer with the name of what it points to there is no further pointer.
theorem object?_of_isPointee (d : Declarations) {t : GoType} (h : d.isPointee t = true) :
    d.object? t = d.direct? t := by
  rw [isPointee] at h
  rw [object?]
  split
  case h_1 elem hunder =>
    rw [hunder] at h
    cases h
  case h_2 => rfl

theorem object?_underlying (d : Declarations) {t : GoType}
    (hresolved : (d.underlying t).isNamed = false) (hplain : d.direct? t = none) :
    d.object? (d.underlying t) = d.object? t := by
  have hself := d.underlying_eq_self hresolved
  have hnone : d.direct? (d.underlying t) = none := by
    rw [direct?] at hplain ⊢
    rw [hself]
    split at hplain
    case h_1 => cases hplain
    case h_2 => cases hplain
    case h_3 => rfl
  rw [object?, object?, hself, hnone, hplain]

theorem name_of_direct? (d : Declarations) {t : GoType} {o : Object} (h : d.direct? t = some o) :
    o.name = d.written t := by
  rcases (d.direct?_eq_some_iff t o).1 h with ⟨_, _, _, rfl⟩ | ⟨_, _, _, rfl⟩ <;> rfl

/-- A type that stands for a structure or an interface, and a pointer to it, refer to the class. -/
theorem ref_eq_ofClass (d : Declarations) {t u : GoType} {o : Object} (h : d.direct? u = some o)
    (ht : t = u ∨ t = .pointer u) : d.ref t = .ofClass (d.written u) := by
  have hkind : d.kind u = .reference := by
    rcases (d.direct?_eq_some_iff u o).1 h with ⟨_, _, hunder, _⟩ | ⟨_, _, hunder, _⟩ <;>
      rw [kind, hunder] <;> rfl
  rcases ht with rfl | rfl
  · -- The type itself is no pointer, since it would stand for one.
    cases t
    case pointer elem =>
      rw [direct?, d.underlying_eq_self rfl] at h
      cases h
    all_goals exact congrArg (TypeRef.mk _) hkind
  · rw [ref, if_pos (d.isPointee_of_direct? h), hkind, TypeRef.ofClass]

/-! ## The types that are met -/

/-- The types that the walk from some types comes to. -/
inductive Met (d : Declarations) (types : List GoType) : GoType → Prop
  /-- The walk begins with these types. -/
  | root {t : GoType} (mem : t ∈ types) : Met d types t
  /-- From a pointer it goes to what has the name of the pointer. -/
  | pointee {elem : GoType} (met : Met d types (.pointer elem))
      (isPointee : d.isPointee elem = true) : Met d types elem
  /-- From a declared type that is no structure and no interface it goes to what the type stands
      for. -/
  | underlying {package name : String} (met : Met d types (.named package name))
      (isPlain : d.direct? (.named package name) = none)
      (isResolved : (d.underlying (.named package name)).isNamed = false) :
      Met d types (d.underlying (.named package name))
  /-- From a structure it goes to the types of the fields. -/
  | field {t f : GoType} {package : String} {fields : Members} (met : Met d types t)
      (isStruct : d.underlying t = .struct package fields) (mem : f ∈ fields.types) :
      Met d types f

variable {d : Declarations} {types ts : List GoType} {classes after : List ClassDecl}

theorem Met.field_of_direct? {t f : GoType} {o : Object} (ht : d.Met types t)
    (ho : d.direct? t = some o) (hf : f ∈ o.fields.types) : d.Met types f := by
  rcases (d.direct?_eq_some_iff t o).1 ho with ⟨_, _, hunder, rfl⟩ | ⟨_, _, _, rfl⟩
  · exact .field ht hunder hf
  · exact absurd hf List.not_mem_nil

-- What a type leads to is met as a type of its own, behind a pointer or not.
theorem Met.exists_direct? {t : GoType} {o : Object} (ht : d.Met types t)
    (ho : d.object? t = some o) : ∃ u, d.Met types u ∧ d.direct? u = some o := by
  cases hunder : d.underlying t with
  | pointer elem =>
      have hdirect : d.direct? elem = some o := by rwa [object?, hunder] at ho
      have hpointer : d.Met types (.pointer elem) := by
        cases hnamed : t.isNamed with
        | false => rwa [← hunder, d.underlying_eq_self hnamed]
        | true =>
            rcases eq_named_of_isNamed hnamed with ⟨package, name, rfl⟩
            rw [← hunder]
            exact .underlying ht (by rw [direct?, hunder]) (by rw [hunder]; rfl)
      exact ⟨elem, .pointee hpointer (d.isPointee_of_direct? hdirect), hdirect⟩
  | _ =>
      rw [object?, hunder] at ho
      exact ⟨t, ht, ho⟩

/-! ## What a walk collects -/

namespace Meets

/-- What a walk comes to is listed at its end. -/
theorem leads (h : d.Meets classes ts after) :
    ∀ t ∈ ts, ∀ o, d.object? t = some o → isListed after o.name = true := by
  induction h with
  | done => exact fun t ht => absurd ht List.not_mem_nil
  | plain none rest ih =>
      intro u hu o ho
      rcases List.mem_cons.1 hu with rfl | hu
      · cases none.symm.trans ho
      · exact ih u hu o ho
  | known some listed rest ih =>
      intro u hu o ho
      rcases List.mem_cons.1 hu with rfl | hu
      · cases some.symm.trans ho
        exact isListed_of_isPrefix rest.isPrefix listed
      · exact ih u hu o ho
  | @new classes between after t ts o' some unlisted fields rest ihFields ih =>
      intro u hu o ho
      rcases List.mem_cons.1 hu with rfl | hu
      · cases some.symm.trans ho
        have hlisted : isListed (classes ++ [d.classOf o']) o'.name = true :=
          (isListed_iff _ _).2 ⟨d.classOf o', by simp, rfl⟩
        exact isListed_of_isPrefix (fields.isPrefix.trans rest.isPrefix) hlisted
      · exact ih u hu o ho

/-- A class that a walk adds is that of a type which is met, and at its end all that the fields lead
    to is listed, however early the class was listed itself. -/
theorem origin (h : d.Meets classes ts after) (hts : ∀ t ∈ ts, d.Met types t) :
    ∀ c ∈ after, c ∈ classes ∨ ∃ t o, d.Met types t ∧ d.direct? t = some o ∧ c = d.classOf o ∧
      ∀ f ∈ o.fields.types, ∀ o', d.object? f = some o' → isListed after o'.name = true := by
  induction h with
  | done => exact fun c hc => Or.inl hc
  | plain _ _ ih => exact ih (fun u hu => hts u (List.mem_cons_of_mem _ hu))
  | known _ _ _ ih => exact ih (fun u hu => hts u (List.mem_cons_of_mem _ hu))
  | @new classes between after t ts o some unlisted fields rest ihFields ih =>
      rcases (hts t List.mem_cons_self).exists_direct? some with ⟨u, hu, ho⟩
      intro c hc
      rcases ih (fun u hu => hts u (List.mem_cons_of_mem _ hu)) c hc with hc | hc
      · rcases ihFields (fun f hf => hu.field_of_direct? ho hf) c hc with hc | hc
        · rcases List.mem_append.1 hc with hc | hc
          · exact Or.inl hc
          · rw [List.mem_singleton] at hc
            refine Or.inr ⟨u, o, hu, ho, hc, fun f hf o' ho' => ?_⟩
            exact isListed_of_isPrefix rest.isPrefix (fields.leads f hf o' ho')
        · rcases hc with ⟨v, p, hv, hp, hc, hleads⟩
          refine Or.inr ⟨v, p, hv, hp, hc, fun f hf o' ho' => ?_⟩
          exact isListed_of_isPrefix rest.isPrefix (hleads f hf o' ho')
      · exact Or.inr hc

/-- A walk has one outcome. -/
theorem unique {after' : List ClassDecl} (h : d.Meets classes ts after)
    (h' : d.Meets classes ts after') : after = after' := by
  induction h generalizing after' with
  | done =>
      cases h'
      rfl
  | plain none _ ih =>
      cases h' with
      | plain _ rest' => exact ih rest'
      | known some' _ _ => cases none.symm.trans some'
      | new some' _ _ _ => cases none.symm.trans some'
  | known some listed _ ih =>
      cases h' with
      | plain none' _ => cases none'.symm.trans some
      | known _ _ rest' => exact ih rest'
      | new some' unlisted' _ _ =>
          cases some.symm.trans some'
          cases listed.symm.trans unlisted'
  | new some unlisted _ _ ihFields ih =>
      cases h' with
      | plain none' _ => cases none'.symm.trans some
      | known some' listed' _ =>
          cases some.symm.trans some'
          cases unlisted.symm.trans listed'
      | new some' _ fields' rest' =>
          cases some.symm.trans some'
          rw [← ihFields fields'] at rest'
          exact ih rest'

theorem nodup_names (h : d.Meets classes ts after) (hnodup : (classes.map ClassDecl.name).Nodup) :
    (after.map ClassDecl.name).Nodup := by
  induction h with
  | done => exact hnodup
  | plain _ _ ih => exact ih hnodup
  | known _ _ _ ih => exact ih hnodup
  | @new classes between after t ts o some unlisted fields rest ihFields ih =>
      refine ih (ihFields ?_)
      rw [List.map_append, List.map_singleton, List.nodup_append]
      refine ⟨hnodup, List.nodup_singleton _, fun name hname other hother heq => ?_⟩
      rw [List.mem_singleton.1 hother] at heq
      rcases List.mem_map.1 hname with ⟨c, hc, rfl⟩
      rw [(isListed_iff classes o.name).2 ⟨c, hc, heq⟩] at unlisted
      cases unlisted

end Meets

theorem classes_origin (d : Declarations) (types : List GoType) :
    ∀ c ∈ d.classes types, ∃ t o, d.Met types t ∧ d.direct? t = some o ∧ c = d.classOf o ∧
      ∀ f ∈ o.fields.types, ∀ o', d.object? f = some o' →
        isListed (d.classes types) o'.name = true := fun c hc =>
  ((d.classes_meets types).origin (fun _ ht => .root ht) c hc).resolve_left List.not_mem_nil

/-- The classes of types are a hierarchy, because no name comes twice and no class has a
    superclass. -/
theorem exists_hierarchy (d : Declarations) (types : List GoType) :
    ∃ h, Hierarchy.ofClasses (d.classes types) = .ok h ∧ h.classes = d.classes types := by
  have hacyclic : ∀ name, ¬ Relation.TransGen (ClassDecl.Extends (d.classes types)) name name := by
    intro name hcycle
    rcases Relation.TransGen.head'_iff.1 hcycle with ⟨_, ⟨c, hfind, hsuper, _⟩, _⟩
    rcases d.classes_origin types c (List.mem_of_find?_eq_some hfind) with ⟨_, _, _, _, rfl, _⟩
    exact hsuper rfl
  have hnodup := (d.classes_meets types).nodup_names List.nodup_nil
  rcases (Hierarchy.ofClasses_isOk_iff _).2 ⟨hnodup, hacyclic⟩ with ⟨h, hok⟩
  exact ⟨h, hok, Hierarchy.classes_of_ofClasses _ h hok⟩

/-! ## Names that tell types apart -/

/-- What a class shows of a structure or an interface, with the classes that its fields lead to. -/
def outline (d : Declarations) (o : Object) : Bool × List (String × TypeRef × Option String) :=
  (o.isInterface,
    o.fields.toList.map (fun f => (f.1, d.ref f.2, (d.object? f.2).map Object.name)))

/-- Structures and interfaces that are met and written alike are alike. -/
def TellsApart (d : Declarations) (types : List GoType) : Prop :=
  ∀ t u, d.Met types t → d.Met types u → ∀ o p, d.direct? t = some o → d.direct? u = some p →
    o.name = p.name → d.outline o = d.outline p

theorem classOf_eq_of_outline (d : Declarations) {o p : Object} (hname : o.name = p.name)
    (h : d.outline o = d.outline p) : d.classOf o = d.classOf p := by
  have hfields := congrArg (fun l => l.2.map (fun f => (⟨f.1, f.2.1⟩ : FieldDecl))) h
  simp only [outline, List.map_map] at hfields
  have hinterface : o.isInterface = p.isInterface := congrArg Prod.fst h
  rw [classOf, classOf, hname, hinterface]
  exact congrArg (ClassDecl.mk p.name "" p.isInterface) hfields

-- If two structures show the same, what one leads to is what the other leads to.
theorem exists_field_of_outline (d : Declarations) {o p : Object} (h : d.outline o = d.outline p)
    {f : GoType} (hf : f ∈ o.fields.types) :
    ∃ g ∈ p.fields.types, (d.object? f).map Object.name = (d.object? g).map Object.name := by
  have hleads := congrArg (fun l => l.2.map (fun f => f.2.2)) h
  simp only [outline, List.map_map] at hleads
  rcases List.mem_map.1 hf with ⟨m, hm, rfl⟩
  have hmem : (d.object? m.2).map Object.name ∈
      o.fields.toList.map (fun m => (d.object? m.2).map Object.name) := List.mem_map_of_mem hm
  have hmem' : (d.object? m.2).map Object.name ∈
      p.fields.toList.map (fun m => (d.object? m.2).map Object.name) := hleads ▸ hmem
  rcases List.mem_map.1 hmem' with ⟨n, hn, heq⟩
  exact ⟨n.2, List.mem_map_of_mem hn, heq.symm⟩

/-- Everything that is met is listed. -/
theorem listed_of_met (htells : d.TellsApart types) {t : GoType} (ht : d.Met types t) :
    ∀ o, d.object? t = some o → isListed (d.classes types) o.name = true := by
  induction ht with
  | root mem => exact (d.classes_meets types).leads _ mem
  | @pointee elem _ isPointee ih =>
      rwa [d.object?_of_isPointee isPointee, ← d.object?_pointer]
  | @underlying package name _ isPlain isResolved ih =>
      rwa [d.object?_underlying isResolved isPlain]
  | @field t f package fields met isStruct mem ih =>
      intro o ho
      -- The class of the structure may have been listed for another type of the same name.
      have hdirect : d.direct? t = some ⟨d.written t, false, fields⟩ :=
        (d.direct?_eq_some_iff t _).2 (Or.inl ⟨package, fields, isStruct, rfl⟩)
      have hlisted := ih _ (d.object?_of_direct? hdirect)
      rcases (isListed_iff _ _).1 hlisted with ⟨c, hc, hname⟩
      rcases d.classes_origin types c hc with ⟨u, p, hu, hp, rfl, hleads⟩
      have hsame := htells t u met hu _ p hdirect hp hname.symm
      rcases d.exists_field_of_outline hsame mem with ⟨g, hg, hlead⟩
      rw [ho, Option.map_some] at hlead
      rcases Option.map_eq_some_iff.1 hlead.symm with ⟨o', ho', hname'⟩
      rw [← hname']
      exact hleads g hg o' ho'

theorem classOf_mem_classes (htells : d.TellsApart types) {t : GoType} {o : Object}
    (ht : d.Met types t) (ho : d.direct? t = some o) : d.classOf o ∈ d.classes types := by
  have hlisted := listed_of_met htells ht o (d.object?_of_direct? ho)
  rcases (isListed_iff _ _).1 hlisted with ⟨c, hc, hname⟩
  rcases d.classes_origin types c hc with ⟨u, p, hu, hp, rfl, _⟩
  rwa [d.classOf_eq_of_outline hname.symm (htells t u ht hu o p ho hp hname.symm)]

/-- Names tell types apart if no two structures or interfaces are written alike. -/
theorem tellsApart_of_injective
    (h : ∀ t u, d.Met types t → d.Met types u → (d.direct? t).isSome → (d.direct? u).isSome →
      d.written t = d.written u → t = u) : d.TellsApart types := by
  intro t u ht hu o p ho hp hname
  rw [d.name_of_direct? ho, d.name_of_direct? hp] at hname
  obtain rfl := h t u ht hu (ho ▸ rfl) (hp ▸ rfl) hname
  rw [Option.some.inj (ho.symm.trans hp)]

/-! ## Objects for fields -/

/-- The field is that of a structure which is met, and its type stands for a structure, or is a
    pointer to one that does. -/
def HoldsStructure (d : Declarations) (types : List GoType) (field : FieldRef) : Prop :=
  ∃ t package fields f, d.Met types t ∧ d.underlying t = .struct package fields ∧
    f ∈ fields.toList ∧ field = ⟨d.written t, f.1, d.ref f.2⟩ ∧
    ∃ u inner members, (f.2 = u ∨ f.2 = .pointer u) ∧ d.underlying u = .struct inner members

-- A field of a structure, or a pointer to one, is of the class of a type that is met.
theorem Met.of_field {t f u : GoType} {package : String} {fields : Members} {o : Object}
    (ht : d.Met types t) (hstruct : d.underlying t = .struct package fields)
    (hf : f ∈ fields.types) (hu : f = u ∨ f = .pointer u) (ho : d.direct? u = some o) :
    d.Met types u := by
  have hmet : d.Met types f := .field ht hstruct hf
  rcases hu with rfl | rfl
  · exact hmet
  · exact .pointee hmet (d.isPointee_of_direct? ho)

/-- Without points-to sets an object stands for what the field holds, and nothing is reported. -/
theorem HoldsStructure.placed (htells : d.TellsApart types) {h : Hierarchy}
    (hclasses : h.classes = d.classes types) {field : FieldRef}
    (hfield : d.HoldsStructure types field) (policy : Log.Policy) (owner : Instance) :
    field.type.kind = .reference ∧
    (⟨.silent, h, policy⟩ : Heap).Placed owner field (.ofType field.type) ∧
    ((⟨.silent, h, policy⟩ : Heap).ofField owner field).log = [] := by
  rcases hfield with ⟨t, package, fields, f, ht, hstruct, hf, rfl, u, inner, members, hu, hunder⟩
  have ho : d.direct? u = some ⟨d.written u, false, members⟩ :=
    (d.direct?_eq_some_iff u _).2 (Or.inl ⟨inner, members, hunder, rfl⟩)
  have hmet := ht.of_field hstruct (List.mem_map_of_mem hf) hu ho
  have hmem := classOf_mem_classes htells hmet ho
  have hfind : h.find? (d.written u) = some (d.classOf ⟨d.written u, false, members⟩) :=
    (h.find?_eq_some_iff _ _).2 ⟨hclasses ▸ hmem, rfl⟩
  have hinterface : h.isInterface (.ofClass (d.written u)) = false := by
    simp [Hierarchy.isInterface, TypeRef.ofClass, hfind, classOf]
  have hlookup : h.lookup (.ofClass (d.written u)) = .ok (.ofType (.ofClass (d.written u))) := by
    simp [Hierarchy.lookup, TypeRef.ofClass, hfind, classOf]
  rw [d.ref_eq_ofClass ho hu]
  refine ⟨rfl, ⟨rfl, hinterface, hlookup⟩, ?_⟩
  -- The type is a reference, so the field is looked at as one.
  change (Heap.ofReferenceField ⟨.silent, h, policy⟩ owner ⟨d.written t, f.1, .ofClass (d.written u)⟩).log = []
  simp [Heap.ofReferenceField, Heap.fieldObjects, PointsTo.Oracle.objects, hinterface, hlookup]

/-! ## The classes at the end of the walk -/

/-- The classes are those of the structures and interfaces that are met from some types, and no
    field refers to a structure or an interface without a class. -/
structure DeclaresAll (d : Declarations) (types : List GoType) (classes : List ClassDecl) :
    Prop where
  /-- A structure has a class with its fields in their order. -/
  structures : ∀ t package fields, d.Met types t → d.underlying t = .struct package fields →
    ⟨d.written t, "", false, fields.toList.map (fun f => ⟨f.1, d.ref f.2⟩)⟩ ∈ classes
  /-- An interface has a class without fields. -/
  interfaces : ∀ t package methods, d.Met types t → d.underlying t = .interface package methods →
    ⟨d.written t, "", true, []⟩ ∈ classes
  /-- There are no other classes. -/
  origin : ∀ c ∈ classes, ∃ t, d.Met types t ∧
    ((∃ package fields, d.underlying t = .struct package fields ∧
      c = ⟨d.written t, "", false, fields.toList.map (fun f => ⟨f.1, d.ref f.2⟩)⟩) ∨
    ∃ package methods, d.underlying t = .interface package methods ∧ c = ⟨d.written t, "", true, []⟩)
  /-- If the type of a field stands for a structure or an interface, or points to one that does, it
      is a reference to its class. -/
  closed : ∀ t package fields, d.Met types t → d.underlying t = .struct package fields →
    ∀ f ∈ fields.types, ∀ u, (f = u ∨ f = .pointer u) →
      ((∃ inner members, d.underlying u = .struct inner members) ∨
        ∃ inner methods, d.underlying u = .interface inner methods) →
      (d.ref f).kind = .reference ∧ ∃ c ∈ classes, c.name = (d.ref f).name

theorem declaresAll (htells : d.TellsApart types) : d.DeclaresAll types (d.classes types) where
  structures := fun t package fields ht hunder =>
    classOf_mem_classes htells ht ((d.direct?_eq_some_iff t _).2 (Or.inl ⟨_, _, hunder, rfl⟩))
  interfaces := fun t package methods ht hunder =>
    classOf_mem_classes htells ht ((d.direct?_eq_some_iff t _).2 (Or.inr ⟨_, _, hunder, rfl⟩))
  origin := by
    intro c hc
    rcases d.classes_origin types c hc with ⟨t, o, ht, ho, rfl, _⟩
    refine ⟨t, ht, ?_⟩
    rcases (d.direct?_eq_some_iff t o).1 ho with ⟨_, _, hunder, rfl⟩ | ⟨_, _, hunder, rfl⟩
    · exact Or.inl ⟨_, _, hunder, rfl⟩
    · exact Or.inr ⟨_, _, hunder, rfl⟩
  closed := by
    intro t package fields ht hstruct f hf u hu hunder
    have ho : ∃ o, d.direct? u = some o := by
      rcases hunder with ⟨_, _, hunder⟩ | ⟨_, _, hunder⟩
      · exact ⟨_, (d.direct?_eq_some_iff u _).2 (Or.inl ⟨_, _, hunder, rfl⟩)⟩
      · exact ⟨_, (d.direct?_eq_some_iff u _).2 (Or.inr ⟨_, _, hunder, rfl⟩)⟩
    rcases ho with ⟨o, ho⟩
    rw [d.ref_eq_ofClass ho hu]
    have hmem := classOf_mem_classes htells (ht.of_field hstruct hf hu ho) ho
    exact ⟨rfl, d.classOf o, hmem, d.name_of_direct? ho⟩

/-- The walk through types ends, however the types are recursive, and it has one outcome. If names
    tell types apart, its classes are those of all structures and interfaces that are met, and
    they are closed. They are a hierarchy, and in a closure without points-to sets an object stands
    for every field that holds a structure or a pointer to one: nothing is reported about such a
    field. -/
theorem classes_closed (d : Declarations) (types : List GoType) (htells : d.TellsApart types) :
    (∀ classes, d.Meets [] types classes ↔ classes = d.classes types) ∧
    d.DeclaresAll types (d.classes types) ∧
    ∃ h, Hierarchy.ofClasses (d.classes types) = .ok h ∧ h.classes = d.classes types ∧
      ∀ policy root,
        (∀ owner, (⟨.silent, h, policy⟩ : Heap).Explored root owner →
          ∀ field ∈ h.instanceFields owner.type, d.HoldsStructure types field →
            .object (.ofType field.type) ∈ ((⟨.silent, h, policy⟩ : Heap).closure root).value) ∧
        ∀ entry ∈ ((⟨.silent, h, policy⟩ : Heap).closure root).log, ∃ owner field,
          (⟨.silent, h, policy⟩ : Heap).Explored root owner ∧ field ∈ h.instanceFields owner.type ∧
          ¬ d.HoldsStructure types field ∧
          entry ∈ ((⟨.silent, h, policy⟩ : Heap).ofField owner field).log := by
  refine ⟨fun classes => ⟨fun hends => hends.unique (d.classes_meets types), ?_⟩,
    declaresAll htells, ?_⟩
  · rintro rfl
    exact d.classes_meets types
  rcases d.exists_hierarchy types with ⟨h, hok, hclasses⟩
  refine ⟨h, hok, hclasses, fun policy root => ⟨?_, ?_⟩⟩
  · intro owner howner field hmem hfield
    rcases hfield.placed htells hclasses policy owner with ⟨hkind, hplaced, _⟩
    have harray := Heap.kind_ne_array_of_mem ⟨.silent, h, policy⟩ owner field hmem
    have hexplored : (⟨.silent, h, policy⟩ : Heap).Explored root (.ofType field.type) :=
      .placed howner harray hmem hkind hplaced
    exact (Heap.mem_closure_iff _ root _).2 ⟨_, hexplored, List.mem_cons_self⟩
  · intro entry hentry
    rcases Heap.exists_of_mem_closure_log _ root hentry with ⟨owner, howner, field, hmem, hlog⟩
    refine ⟨owner, field, howner, hmem, fun hfield => ?_, hlog⟩
    rw [(hfield.placed htells hclasses policy owner).2.2] at hlog
    exact List.not_mem_nil hlog

/-- Nodes of a list with what they carry, and their owner, which has them in an array and knows the
    first of them. -/
def linked : Declarations where
  decls :=
    [⟨"main", "Node", .struct "main" (.ofList [("next", .pointer (.named "main" "Node")),
      ("owner", .named "main" "Owner"), ("load", .named "main" "Load")])⟩,
     ⟨"main", "Owner", .struct "main" (.ofList [("nodes", .slice (.named "main" "Node")),
      ("head", .named "main" "Link")])⟩,
     ⟨"main", "Link", .pointer (.named "main" "Node")⟩,
     ⟨"main", "Load", .interface "main" .nil⟩]
  written := GoType.text

/-- The types that are met from the nodes. -/
def linkedTypes : List GoType :=
  [.named "main" "Node", .pointer (.named "main" "Node"), .named "main" "Owner",
    .named "main" "Load", .slice (.named "main" "Node"), .named "main" "Link"]

-- What the declared types of the sample stand for.
theorem linked_underlying :
    linked.underlying (.named "main" "Node") = .struct "main" (.ofList
      [("next", .pointer (.named "main" "Node")), ("owner", .named "main" "Owner"),
        ("load", .named "main" "Load")]) ∧
    linked.underlying (.named "main" "Owner") = .struct "main" (.ofList
      [("nodes", .slice (.named "main" "Node")), ("head", .named "main" "Link")]) ∧
    linked.underlying (.named "main" "Link") = .pointer (.named "main" "Node") ∧
    linked.underlying (.named "main" "Load") = .interface "main" .nil := by
  simp [underlying, linked, builtin, follow, find?, List.find?]

theorem linked_met {t : GoType} (ht : linked.Met [.named "main" "Node"] t) : t ∈ linkedTypes := by
  rcases linked_underlying with ⟨hnode, howner, hlink, hload⟩
  induction ht with
  | root mem =>
      rw [List.mem_singleton.1 mem]
      exact List.mem_cons_self
  | @pointee elem _ _ ih =>
      have helem : elem = .named "main" "Node" := by simpa [linkedTypes] using ih
      rw [helem]
      exact List.mem_cons_self
  | @underlying package name _ isPlain _ ih =>
      -- Of the declared types only the link is neither a structure nor an interface.
      simp only [linkedTypes, List.mem_cons, GoType.named.injEq, reduceCtorEq, false_or,
        List.not_mem_nil, or_false] at ih
      rcases ih with ⟨rfl, rfl⟩ | ⟨rfl, rfl⟩ | ⟨rfl, rfl⟩ | ⟨rfl, rfl⟩
      · simp [direct?, hnode] at isPlain
      · simp [direct?, howner] at isPlain
      · simp [direct?, hload] at isPlain
      · simp [hlink, linkedTypes]
  | @field t f package fields _ isStruct mem ih =>
      simp only [linkedTypes, List.mem_cons, List.not_mem_nil, or_false] at ih
      rcases ih with rfl | rfl | rfl | rfl | rfl | rfl
      · cases hnode.symm.trans isStruct
        have hf : f = .pointer (.named "main" "Node") ∨ f = .named "main" "Owner" ∨
            f = .named "main" "Load" := by
          simpa [Members.types, Members.toList, Members.ofList] using mem
        rcases hf with rfl | rfl | rfl <;> simp [linkedTypes]
      · cases isStruct
      · cases howner.symm.trans isStruct
        have hf : f = .slice (.named "main" "Node") ∨ f = .named "main" "Link" := by
          simpa [Members.types, Members.toList, Members.ofList] using mem
        rcases hf with rfl | rfl <;> simp [linkedTypes]
      · cases hload.symm.trans isStruct
      · cases isStruct
      · cases hlink.symm.trans isStruct

theorem linked_tellsApart : linked.TellsApart [.named "main" "Node"] := by
  have hnodup : (linkedTypes.map GoType.text).Nodup := by decide +kernel
  exact tellsApart_of_injective (fun t u ht hu _ _ htext =>
    List.inj_on_of_nodup_map hnodup (linked_met ht) (linked_met hu) htext)

/-- The nodes, which contain themselves, have a class with all their fields, and so has what they
    carry. Whatever node the taint starts from, an object stands for its owner. -/
theorem classes_closed_linked :
    linked.TellsApart [.named "main" "Node"] ∧
    ⟨"main.Node", "", false, [⟨"next", .ofClass "main.Node"⟩, ⟨"owner", .ofClass "main.Owner"⟩,
      ⟨"load", .ofClass "main.Load"⟩]⟩ ∈ linked.classes [.named "main" "Node"] ∧
    ⟨"main.Load", "", true, []⟩ ∈ linked.classes [.named "main" "Node"] ∧
    ∃ h, Hierarchy.ofClasses (linked.classes [.named "main" "Node"]) = .ok h ∧
      ∀ policy site, .object (.ofType (.ofClass "main.Owner")) ∈
        ((⟨.silent, h, policy⟩ : Heap).closure ⟨.ofClass "main.Node", site⟩).value := by
  rcases linked_underlying with ⟨hnode, howner, hlink, hload⟩
  rcases classes_closed linked _ linked_tellsApart with
    ⟨_, hdeclares, h, hok, hclasses, hclosure⟩
  have hmet : linked.Met [.named "main" "Node"] (.named "main" "Node") :=
    .root List.mem_cons_self
  have hcarried : linked.Met [.named "main" "Node"] (.named "main" "Load") :=
    .field hmet hnode (by simp [Members.types, Members.toList, Members.ofList])
  have hrefs : linked.ref (.pointer (.named "main" "Node")) = .ofClass "main.Node" ∧
      linked.ref (.named "main" "Owner") = .ofClass "main.Owner" ∧
      linked.ref (.named "main" "Load") = .ofClass "main.Load" := by
    have hwritten : linked.written = GoType.text := rfl
    simp [ref, isPointee, kind, hnode, howner, hload, plainKind, hwritten, GoType.text,
      TypeRef.ofClass]
  have hclass := hdeclares.structures _ _ _ hmet hnode
  simp only [Members.ofList, Members.toList, List.map_cons, List.map_nil, hrefs.1, hrefs.2.1,
    hrefs.2.2] at hclass
  refine ⟨linked_tellsApart, hclass, hdeclares.interfaces _ _ _ hcarried hload, h, hok,
    fun policy site => ?_⟩
  -- The owner is a field of the class of the nodes, and it holds a structure.
  have hfind : h.find? "main.Node" = some _ :=
    (h.find?_eq_some_iff _ _).2 ⟨hclasses ▸ hclass, rfl⟩
  have hfield : ⟨"main.Node", "owner", .ofClass "main.Owner"⟩ ∈
      h.instanceFields (.ofClass "main.Node") :=
    (h.mem_instanceFields_iff _ _).2 ⟨rfl, _, .self hfind,
      List.mem_cons_of_mem _ List.mem_cons_self⟩
  have hholds : linked.HoldsStructure [.named "main" "Node"]
      ⟨"main.Node", "owner", .ofClass "main.Owner"⟩ :=
    ⟨_, _, _, ("owner", .named "main" "Owner"), hmet, hnode,
      List.mem_cons_of_mem _ List.mem_cons_self, by rw [hrefs.2.1]; rfl,
      _, _, _, Or.inl rfl, howner⟩
  exact (hclosure policy ⟨.ofClass "main.Node", site⟩).1 _ .root _ hfield hholds

end Declarations

end GoProgram

end TaintSeed
