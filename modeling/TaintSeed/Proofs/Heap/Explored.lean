import Mathlib.Data.List.Basic
import TaintSeed.Heap.Closure
import TaintSeed.Proofs.Hierarchy

/-!
# Explored Objects

What a closure is, said without the search that computes it.

`Explored` is the least set of objects that holds the root and, with an object
that is no array, everything that its reference fields lead to: the objects
that the points-to sets name or, where a set is empty, the object that stands
for all objects of the field's type. `Tainted` says which elements these
objects bring with them. An array that a field refers to is tainted without
being explored, so it brings no fields of its own unless a reference field
leads to it as well.

The search works with lists, the contributions of the objects that it takes
from its queue. The lemmas here read both predicates off a contribution, field
by field, so the search never has to look inside one.

Nothing outside `candidates` is ever explored, which is what makes the set
finite on cyclic heaps: a field gives an object of the points-to table or the
placeholder of a declared type, never a new name.

## Main definitions

* `Heap.Explored`: The objects whose fields are looked at.
* `Heap.Tainted`: The elements that are tainted with the root.
* `Heap.Placed`: The object stands for a reference field without known objects.

## Theorems

* `Heap.mem_reached_iff`: What a contribution sends the search to.
* `Heap.mem_elements_iff`: What a contribution taints.
* `Heap.explored_of_reached`: Exploration follows the contributions.
* `Heap.explored_mem_candidates`: Only candidates are explored.
* `Heap.tainted_iff`: The tainted elements are what explored objects contribute.
-/

namespace TaintSeed

namespace Heap

/-- The object takes the place of those that a reference field may refer to: none is known, the
    type of the field is no declared interface, and the object stands for it. -/
def Placed (h : Heap) (owner : Instance) (field : FieldRef) (o : Instance) : Prop :=
  h.fieldObjects owner field = [] ∧ h.hierarchy.isInterface field.type = false ∧
    h.hierarchy.lookup field.type = .ok o

/-- The objects whose fields are looked at on the way to the closure of `root`. -/
inductive Explored (h : Heap) (root : Instance) : Instance → Prop
  /-- The root is explored. -/
  | root : Explored h root root
  /-- What a reference field of an explored object may refer to is explored. -/
  | pointed {owner o : Instance} {field : FieldRef} (explored : Explored h root owner)
      (noArray : owner.type.kind ≠ .array) (mem : field ∈ h.hierarchy.instanceFields owner.type)
      (reference : field.type.kind = .reference) (points : o ∈ h.fieldObjects owner field) :
      Explored h root o
  /-- So is the object that takes its place. -/
  | placed {owner o : Instance} {field : FieldRef} (explored : Explored h root owner)
      (noArray : owner.type.kind ≠ .array) (mem : field ∈ h.hierarchy.instanceFields owner.type)
      (reference : field.type.kind = .reference) (placed : h.Placed owner field o) :
      Explored h root o

/-- The elements that are tainted with `root`. -/
inductive Tainted (h : Heap) (root : Instance) : Element → Prop
  /-- Explored objects are tainted. -/
  | object {o : Instance} (explored : Explored h root o) : Tainted h root (.object o)
  /-- So are their fields, unless the type of the field is of no known kind. -/
  | field {owner : Instance} {field : FieldRef} (explored : Explored h root owner)
      (noArray : owner.type.kind ≠ .array) (mem : field ∈ h.hierarchy.instanceFields owner.type)
      (known : field.type.kind = .primitive ∨ field.type.kind = .array ∨
        field.type.kind = .reference) : Tainted h root (.fieldOf owner field)
  /-- So are the arrays that their array fields may refer to. -/
  | array {owner o : Instance} {field : FieldRef} (explored : Explored h root owner)
      (noArray : owner.type.kind ≠ .array) (mem : field ∈ h.hierarchy.instanceFields owner.type)
      (array : field.type.kind = .array) (points : o ∈ h.fieldObjects owner field) :
      Tainted h root (.object o)
  /-- So is the placeholder of an array field for which no array is known. -/
  | arrayPlaceholder {owner o : Instance} {field : FieldRef} (explored : Explored h root owner)
      (noArray : owner.type.kind ≠ .array) (mem : field ∈ h.hierarchy.instanceFields owner.type)
      (array : field.type.kind = .array) (unknown : h.fieldObjects owner field = [])
      (lookup : h.hierarchy.lookup field.type = .ok o) : Tainted h root (.object o)

/-! ## What one field contributes -/

/-- Only a reference field sends the search anywhere. -/
theorem mem_reached_ofField (h : Heap) (owner o : Instance) (field : FieldRef) :
    o ∈ (h.ofField owner field).reached ↔
      field.type.kind = .reference ∧ (o ∈ h.fieldObjects owner field ∨ h.Placed owner field o) := by
  cases hk : field.type.kind with
  | unknown => simp [ofField, hk]
  | primitive => simp [ofField, hk]
  | other code => simp [ofField, hk]
  | array =>
      -- Arrays are tainted, but there is nothing to look at inside them.
      simp only [ofField, hk, ofArrayField]
      split
      · split <;> simp
      · simp
  | reference =>
      simp only [ofField, hk, ofReferenceField, Placed]
      split
      · rename_i hempty
        by_cases hi : h.hierarchy.isInterface field.type = true
        · simp [hi, hempty]
        · rw [if_neg hi]
          cases hl : h.hierarchy.lookup field.type with
          | error e => simp [hempty]
          | ok p => simp [hempty, hi, eq_comm]
      · rename_i hne
        simp only [true_and]
        exact ⟨Or.inl, fun hp => hp.elim id (fun hp => absurd hp.1 hne)⟩

/-- A field taints itself and what it leads to. -/
theorem mem_elements_ofField (h : Heap) (owner : Instance) (field : FieldRef) (e : Element) :
    e ∈ (h.ofField owner field).elements ↔
      (field.type.kind = .primitive ∨ field.type.kind = .array ∨ field.type.kind = .reference) ∧
        e = .fieldOf owner field ∨
      field.type.kind = .array ∧ (∃ o, e = .object o ∧ (o ∈ h.fieldObjects owner field ∨
        h.fieldObjects owner field = [] ∧ h.hierarchy.lookup field.type = .ok o)) ∨
      ∃ o, e = .object o ∧ o ∈ (h.ofField owner field).reached := by
  cases hk : field.type.kind with
  | unknown => simp [ofField, hk]
  | primitive => simp [ofField, hk]
  | other code => simp [ofField, hk]
  | array =>
      simp only [ofField, hk, ofArrayField]
      split
      · rename_i hempty
        cases hl : h.hierarchy.lookup field.type with
        | error e' => simp [hempty]
        | ok p => simp [hempty, eq_comm (a := p)]
      · rename_i hne
        have hno : ¬ h.fieldObjects owner field = [] := hne
        simp [hno, and_comm, eq_comm (a := e)]
  | reference =>
      simp only [ofField, hk, ofReferenceField]
      split
      · by_cases hi : h.hierarchy.isInterface field.type = true
        · simp [hi]
        · rw [if_neg hi]
          cases hl : h.hierarchy.lookup field.type with
          | error e' => simp
          | ok p => simp
      · simp [and_comm, eq_comm (a := e)]

/-! ## What one object contributes -/

theorem mem_concat_elements (cs : List Contribution) (e : Element) :
    e ∈ (Contribution.concat cs).elements ↔ ∃ c ∈ cs, e ∈ c.elements := by
  induction cs with
  | nil => simp [Contribution.concat]
  | cons c cs ih =>
      have hstep : (Contribution.concat (c :: cs)).elements
          = c.elements ++ (Contribution.concat cs).elements := rfl
      rw [hstep, List.mem_append, ih]
      simp

theorem mem_concat_reached (cs : List Contribution) (o : Instance) :
    o ∈ (Contribution.concat cs).reached ↔ ∃ c ∈ cs, o ∈ c.reached := by
  induction cs with
  | nil => simp [Contribution.concat]
  | cons c cs ih =>
      have hstep : (Contribution.concat (c :: cs)).reached
          = c.reached ++ (Contribution.concat cs).reached := rfl
      rw [hstep, List.mem_append, ih]
      simp

theorem contribution_elements (h : Heap) (o : Instance) :
    (h.contribution o).elements = .object o :: (if o.type.isArray then Contribution.concat []
      else .concat ((h.hierarchy.instanceFields o.type).map (h.ofField o))).elements := rfl

theorem contribution_reached (h : Heap) (o : Instance) :
    (h.contribution o).reached = (if o.type.isArray then Contribution.concat []
      else .concat ((h.hierarchy.instanceFields o.type).map (h.ofField o))).reached := rfl

theorem isArray_iff (t : TypeRef) : t.isArray = true ↔ t.kind = .array := by
  rw [TypeRef.isArray, beq_iff_eq]

/-- The search goes from an object to what the fields lead to, unless it is an array. -/
theorem mem_reached_iff (h : Heap) (owner o : Instance) :
    o ∈ (h.contribution owner).reached ↔ owner.type.kind ≠ .array ∧
      ∃ field ∈ h.hierarchy.instanceFields owner.type, o ∈ (h.ofField owner field).reached := by
  rw [contribution_reached, ne_eq, ← isArray_iff]
  by_cases ha : owner.type.isArray = true
  · simp [ha, Contribution.concat]
  · rw [if_neg ha, mem_concat_reached]
    simp [ha]

/-- An object taints itself and, unless it is an array, what its fields taint. -/
theorem mem_elements_iff (h : Heap) (owner : Instance) (e : Element) :
    e ∈ (h.contribution owner).elements ↔ e = .object owner ∨ owner.type.kind ≠ .array ∧
      ∃ field ∈ h.hierarchy.instanceFields owner.type, e ∈ (h.ofField owner field).elements := by
  rw [contribution_elements, List.mem_cons, ne_eq, ← isArray_iff]
  by_cases ha : owner.type.isArray = true
  · simp [ha, Contribution.concat]
  · rw [if_neg ha, mem_concat_elements]
    simp [ha]

/-- Exploration follows the contributions. -/
theorem explored_of_reached (h : Heap) (root owner o : Instance) (ho : h.Explored root owner)
    (hr : o ∈ (h.contribution owner).reached) : h.Explored root o := by
  rcases (mem_reached_iff h owner o).1 hr with ⟨hna, field, hf, hrf⟩
  rcases (mem_reached_ofField h owner o field).1 hrf with ⟨href, hpt | hpl⟩
  · exact .pointed ho hna hf href hpt
  · exact .placed ho hna hf href hpl

/-- A set that holds the root and is closed under the contributions of its members holds every
    explored object. -/
theorem mem_of_explored (h : Heap) (root : Instance) (S : Instance → Prop) (hroot : S root)
    (hclosed : ∀ owner, S owner → ∀ o ∈ (h.contribution owner).reached, S o)
    (o : Instance) (ho : h.Explored root o) : S o := by
  induction ho with
  | root => exact hroot
  | @pointed owner o field _ hna hf href hpt ih =>
      refine hclosed owner ih o ((mem_reached_iff h owner o).2 ⟨hna, field, hf, ?_⟩)
      exact (mem_reached_ofField h owner o field).2 ⟨href, Or.inl hpt⟩
  | @placed owner o field _ hna hf href hpl ih =>
      refine hclosed owner ih o ((mem_reached_iff h owner o).2 ⟨hna, field, hf, ?_⟩)
      exact (mem_reached_ofField h owner o field).2 ⟨href, Or.inr hpl⟩

/-- The tainted elements are what the explored objects contribute. -/
theorem tainted_iff (h : Heap) (root : Instance) (e : Element) :
    h.Tainted root e ↔ ∃ o, h.Explored root o ∧ e ∈ (h.contribution o).elements := by
  constructor
  · intro ht
    cases ht with
    | @object o ho => exact ⟨o, ho, (mem_elements_iff h o _).2 (Or.inl rfl)⟩
    | @field owner field ho hna hf hk =>
        refine ⟨owner, ho, (mem_elements_iff h owner _).2 (Or.inr ⟨hna, field, hf, ?_⟩)⟩
        exact (mem_elements_ofField h owner field _).2 (Or.inl ⟨hk, rfl⟩)
    | @array owner o field ho hna hf hk hpt =>
        refine ⟨owner, ho, (mem_elements_iff h owner _).2 (Or.inr ⟨hna, field, hf, ?_⟩)⟩
        exact (mem_elements_ofField h owner field _).2 (Or.inr (Or.inl ⟨hk, o, rfl, Or.inl hpt⟩))
    | @arrayPlaceholder owner o field ho hna hf hk hempty hl =>
        refine ⟨owner, ho, (mem_elements_iff h owner _).2 (Or.inr ⟨hna, field, hf, ?_⟩)⟩
        exact (mem_elements_ofField h owner field _).2
          (Or.inr (Or.inl ⟨hk, o, rfl, Or.inr ⟨hempty, hl⟩⟩))
  · rintro ⟨owner, ho, he⟩
    rcases (mem_elements_iff h owner e).1 he with rfl | ⟨hna, field, hf, hef⟩
    · exact .object ho
    · rcases (mem_elements_ofField h owner field e).1 hef with
        ⟨hk, rfl⟩ | ⟨hk, o, rfl, hpt | ⟨hempty, hl⟩⟩ | ⟨o, rfl, hr⟩
      · exact .field ho hna hf hk
      · exact .array ho hna hf hk hpt
      · exact .arrayPlaceholder ho hna hf hk hempty hl
      · -- What a reference field leads to is explored, hence tainted in its own right.
        exact .object (explored_of_reached h root owner o ho
          ((mem_reached_iff h owner o).2 ⟨hna, field, hf, hr⟩))

/-! ## The finite list of candidates -/

/-- Every field of an object is declared, with its type, by some class. -/
theorem declared_of_mem_instanceFields (h : Hierarchy) (t : TypeRef) (field : FieldRef)
    (hf : field ∈ h.instanceFields t) :
    ∃ c ∈ h.classes, ∃ d ∈ c.fields, field = ⟨c.name, d.name, d.type⟩ := by
  unfold Hierarchy.instanceFields at hf
  split at hf
  · rcases List.mem_flatMap.1 hf with ⟨c, hc, hfc⟩
    rw [List.mem_reverse] at hc
    rcases List.mem_map.1 hfc with ⟨d, hd, rfl⟩
    cases hup : ClassDecl.superChain? h.classes t.name with
    | none =>
        rw [hup] at hc
        exact absurd hc List.not_mem_nil
    | some up =>
        rw [hup] at hc
        have hway := ClassDecl.wayUp_of_superChain? h.classes t.name up hup
        exact ⟨c, hway.subset hc, d, hd, rfl⟩
  · exact absurd hf List.not_mem_nil

/-- The only object that stands for a type is its own type key. -/
theorem eq_ofType_of_lookup (h : Hierarchy) (t : TypeRef) (o : Instance)
    (hl : h.lookup t = .ok o) : o = .ofType t := by
  unfold Hierarchy.lookup at hl
  split at hl
  · cases hl
    rfl
  · split at hl
    · cases hl
    · split at hl
      · cases hl
      · cases hl
        rfl
  · cases hl

/-- Every object that a key may refer to is among all objects of the oracle. -/
theorem objects_subset_allObjects (oracle : PointsTo.Oracle) (key : PointsTo.Key) :
    oracle.objects key ⊆ oracle.allObjects := by
  cases oracle with
  | silent => exact List.nil_subset _
  | recorded table =>
      intro o ho
      rw [PointsTo.Oracle.objects, PointsTo.Table.objects, List.mem_mergeSort] at ho
      cases hget : table.get? key with
      | none =>
          rw [hget] at ho
          exact absurd ho List.not_mem_nil
      | some s =>
          rw [hget] at ho
          exact List.mem_flatMap.2 ⟨(key, s), Table.mem_of_find? key s _ hget, ho⟩

/-- Nothing but candidates is explored, whatever the heap. -/
theorem explored_mem_candidates (h : Heap) (root o : Instance) (ho : h.Explored root o) :
    o ∈ h.candidates root := by
  cases ho with
  | root => simp [candidates]
  | pointed _ _ _ _ hpt =>
      have hall := objects_subset_allObjects h.pointsTo _ hpt
      simp [candidates, hall]
  | placed _ _ hf _ hpl =>
      -- A placeholder is named by the type of a declared field.
      rcases declared_of_mem_instanceFields h.hierarchy _ _ hf with ⟨c, hc, d, hd, rfl⟩
      have hkey : o = .ofType d.type := eq_ofType_of_lookup h.hierarchy _ o hpl.2.2
      have hmem : o ∈ h.hierarchy.classes.flatMap
          (fun c => c.fields.map (fun f => Instance.ofType f.type)) :=
        List.mem_flatMap.2 ⟨c, hc, List.mem_map.2 ⟨d, hd, hkey.symm⟩⟩
      exact List.mem_append_right _ hmem

end Heap

end TaintSeed
