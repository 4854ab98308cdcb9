import TaintSeed.Proofs.Heap.Search
import TaintSeed.Proofs.Model.Translation
import TaintSeed.Proofs.TypeRef.SourceText

/-!
# Field Entries Are Not Lost

A points-to entry of a field says what a field of an object may refer to. The
model is read once, and the entry is stored under the field that a search finds
among the fields of the class that the entry names. A closure comes later and
asks under the fields that it finds on the way up from the class of the object.
The two have to meet: if the stored field differed from the one that is asked
for in its class, its name or its type, the closure would find nothing and make
up an object instead.

They meet whenever the class of the entry is the class of the object or one of
its superclasses. Both searches read the declarations of one hierarchy, in
which a canonical name belongs to one class, so it does not matter how the
model spells the names and how far up the class stands. The stored field is
then a field of the object (`fieldRef_mem_instanceFields`), its objects are in
the closure, and no class is looked up for it.

## Main definitions

* `Model.Inherits`: A class is another one or stands above it, by canonical names.
* `Heap.recorded`: What a field contributes when objects are recorded for it.

## Theorems

* `TypeRef.name_parse_ne_empty`: A name does not become empty in canonical form.
* `Model.Inherits.ancestor`: The superclasses of the model are those of its hierarchy.
* `Model.key_of_mem`: Every entry of a program has been given a key.
* `Heap.object_mem_closure`: What a field of an object may refer to is in its closure.
* `Model.fieldEntry_reaches_closure`: Field entries of a program are found by closures.
-/

namespace TaintSeed

namespace TypeRef

/-- A name that is not empty is not empty in canonical form either. -/
theorem name_parse_ne_empty (s : String) (hs : s ≠ "") : (parse s).name ≠ "" := by
  rcases parse_cases s with ⟨dims, b, hread⟩ | ⟨hread, _, _⟩
  · rw [hread]
    exact name_ofWritten_ne_empty dims b
  · rw [hread]
    exact hs

end TypeRef

/-! ## What a recorded field contributes -/

namespace Heap

/-- What a field contributes when objects are recorded for it: itself and these objects, which are
    looked at next unless the field is of array type, and there is nothing to report. -/
def recorded (h : Heap) (owner : Instance) (field : FieldRef) : Contribution :=
  ⟨.fieldOf owner field :: (h.fieldObjects owner field).map .object,
    if field.type.isReference then h.fieldObjects owner field else [], []⟩

/-- Where objects are recorded for a field, no class is looked up for it. -/
theorem ofField_eq_recorded (h : Heap) (owner : Instance) (field : FieldRef)
    (hkind : field.type.kind = .reference ∨ field.type.kind = .array)
    (hsome : h.fieldObjects owner field ≠ []) (classes : Hierarchy) :
    ofField { h with hierarchy := classes } owner field = h.recorded owner field := by
  have hsame : fieldObjects { h with hierarchy := classes } owner field
      = h.fieldObjects owner field := rfl
  unfold ofField recorded TypeRef.isReference
  rcases hkind with hk | hk
  · simp only [hk, ofReferenceField, hsame]
    cases hobjects : h.fieldObjects owner field with
    | nil => exact absurd hobjects hsome
    | cons o os => rfl
  · simp only [hk, ofArrayField, hsame]
    cases hobjects : h.fieldObjects owner field with
    | nil => exact absurd hobjects hsome
    | cons o os => rfl

/-- What a field of an object may refer to is in the closure of the object. -/
theorem object_mem_closure (h : Heap) (root o : Instance) (field : FieldRef)
    (hroot : root.type.kind ≠ .array) (hfield : field ∈ h.hierarchy.instanceFields root.type)
    (hkind : field.type.kind = .reference ∨ field.type.kind = .array)
    (ho : o ∈ h.fieldObjects root field) : .object o ∈ (h.closure root).value := by
  rw [mem_closure_iff, ← tainted_iff]
  rcases hkind with hk | hk
  · exact .object (.pointed .root hroot hfield hk ho)
  · -- An array is not explored, but the field that refers to it brings it along.
    exact .array .root hroot hfield hk ho

end Heap

namespace Model

/-- The class with the second name is the one with the first or stands above it. The names are
    canonical, and a declared class names what is above it in any spelling. -/
inductive Inherits (m : Model) : String → String → Prop
  /-- The class itself. -/
  | self (name : String) : Inherits m name name
  /-- A class above the superclass. -/
  | super {c : Class} {above : String} (declared : c ∈ m.classes) (given : c.super ≠ "")
      (inherits : Inherits m (TypeRef.parse c.super).name above) :
      Inherits m (TypeRef.parse c.name).name above

section Entries

variable {m : Model} {labels : Labels} {h : Hierarchy}

/-- The superclasses of the model are those of its hierarchy. -/
theorem Inherits.ancestor (hclasses : h.classes = m.classes.map Class.canonical)
    {name above : String} (hinherits : m.Inherits name above) (d : ClassDecl)
    (hd : d ∈ h.classes) (hname : d.name = above) :
    ClassDecl.Ancestor h.classes name d := by
  induction hinherits with
  | self name => exact .self ((h.find?_eq_some_iff name d).2 ⟨hd, hname⟩)
  | @super c above declared given _ ih =>
      have hmem : c.canonical ∈ h.classes := hclasses ▸ List.mem_map_of_mem declared
      have hsuper : c.canonical.super = (TypeRef.parse c.super).name := if_neg given
      have hgiven : c.canonical.super ≠ "" :=
        hsuper ▸ TypeRef.name_parse_ne_empty c.super given
      refine .above ((h.find?_eq_some_iff _ _).2 ⟨hmem, rfl⟩) hgiven ?_
      rw [hsuper]
      exact ih hname

/-- Every entry that is recorded has been given a key. -/
theorem key_of_mem (position : Nat) (es : List PointsToEntry) (t t' : PointsTo.Table)
    (hok : addSets labels h position es t = .ok t') (e : PointsToEntry) (he : e ∈ es) :
    ∃ i k, key labels h i e = .ok k := by
  induction es generalizing position t with
  | nil => exact absurd he List.not_mem_nil
  | cons x es ih =>
      rw [addSets] at hok
      cases hkey : key labels h position x with
      | error e' =>
          rw [hkey] at hok
          cases hok
      | ok k =>
          rw [hkey] at hok
          rcases List.mem_cons.1 he with rfl | hrest
          · exact ⟨position, k, hkey⟩
          · exact ih (position + 1) _ hok hrest

/-- The key of a field entry: the object and the declared field, whatever the labels and the
    position are. -/
theorem key_of_field (i : Nat) (e : PointsToEntry) (f : FieldRef) (k : PointsTo.Key)
    (hf : e.field? = some f) (hkey : key labels h i e = .ok k) :
    ∃ field, declaredField? h f.owner f.name = some field ∧
      ∀ labels position, key labels h position e = .ok (.fieldOf f.object.described field) := by
  unfold key at hkey
  rw [hf] at hkey
  cases hlocal : e.local? with
  | some l =>
      rw [hlocal] at hkey
      cases hkey
  | none =>
      simp only [hlocal] at hkey
      cases hfield : declaredField? h f.owner f.name with
      | none =>
          rw [hfield] at hkey
          cases hkey
      | some field =>
          refine ⟨field, rfl, fun labels position => ?_⟩
          simp only [key, hf, hlocal, hfield]

/-- A field that the class declares is a field of every object whose class inherits from it. -/
theorem fieldRef_mem_instanceFields (hclasses : h.classes = m.classes.map Class.canonical)
    (t : TypeRef) (owner name : String) (field : TaintSeed.FieldRef)
    (ht : t.kind = .reference) (hinherits : m.Inherits t.name (TypeRef.parse owner).name)
    (hfield : declaredField? h owner name = some field) : field ∈ h.instanceFields t := by
  rcases declaredField?_eq_some hclasses owner name field hfield with ⟨c, hc, hname, d, hd, rfl⟩
  have hmem : c.canonical ∈ h.classes := hclasses ▸ List.mem_map_of_mem hc
  refine (h.mem_instanceFields_iff t _).2
    ⟨ht, c.canonical, hinherits.ancestor hclasses c.canonical hmem hname, ?_⟩
  exact List.mem_map.2 ⟨⟨d.name, TypeRef.parse d.type⟩,
    List.mem_map.2 ⟨d, List.mem_of_find?_eq_some hd, rfl⟩, rfl⟩

end Entries

/-- A field entry whose class is the class of its object or stands above it is stored under a field
    of the object. If the field is on the heap, the closure of the object holds what the entry
    lists, and an entry that lists something leaves no room for a placeholder. -/
theorem fieldEntry_reaches_closure (m : Model) (p : Program) (hok : m.program = .ok p)
    (policy : Log.Policy)
    (e : PointsToEntry) (he : e ∈ m.pointsTo) (f : FieldRef) (hf : e.field? = some f)
    (hobject : (TypeRef.parse f.object.type).kind = .reference)
    (hclass : m.Inherits (TypeRef.parse f.object.type).name (TypeRef.parse f.owner).name) :
    ∃ field,
      (∀ labels position, key labels (p.heap policy).hierarchy position e =
        .ok (.fieldOf f.object.described field)) ∧
      field ∈ (p.heap policy).hierarchy.instanceFields f.object.described.type ∧
      (field.type.kind = .reference ∨ field.type.kind = .array →
        (∀ x ∈ e.objects,
          .object x.described ∈ ((p.heap policy).closure f.object.described).value) ∧
        (e.objects ≠ [] → ∀ classes,
          Heap.ofField { p.heap policy with hierarchy := classes } f.object.described field
            = (p.heap policy).recorded f.object.described field)) := by
  rcases program_eq_ok m p hok with ⟨h, g, labels, t, hhierarchy, hgraph, htable, rfl⟩
  have ha : Assembly m.nodes m.edges g labels := graph_assembly m g labels hgraph
  have hclasses : h.classes = m.classes.map Class.canonical := hierarchy_eq_ok m h hhierarchy
  rcases key_of_mem 0 m.pointsTo ∅ t htable e he with ⟨i, k, hkey⟩
  rcases key_of_field i e f k hf hkey with ⟨field, hdeclared, hstored⟩
  have hmem : field ∈ h.instanceFields f.object.described.type :=
    fieldRef_mem_instanceFields hclasses _ f.owner f.name field hobject hclass hdeclared
  -- What the entry lists is recorded under the key that a closure of the object asks for.
  have hrecorded : ∀ x ∈ e.objects,
      x.described ∈ PointsTo.Table.objects t (.fieldOf f.object.described field) := by
    intro x hx
    have hresolves := key_resolves ha hclasses i e _ (hstored labels i)
    exact ((addSets_eq_ok ha hclasses 0 m.pointsTo ∅ t htable).2 _ _).2
      (Or.inr ⟨e, he, hresolves, x, hx, rfl⟩)
  refine ⟨field, hstored, hmem, fun hkind => ⟨fun x hx => ?_, fun hlisted classes => ?_⟩⟩
  · have hnoArray : f.object.described.type.kind ≠ .array := by
      intro harray
      cases hobject.symm.trans harray
    exact Heap.object_mem_closure _ _ _ field hnoArray hmem hkind (hrecorded x hx)
  · rcases List.exists_mem_of_ne_nil _ hlisted with ⟨x, hx⟩
    exact Heap.ofField_eq_recorded _ _ field hkind (List.ne_nil_of_mem (hrecorded x hx)) classes

/-- A model in which the object of a field entry is two classes below the class that the entry
    names. One class between them has a field of the same name, and every name is written in both
    notations. -/
def extras : Model where
  classes :=
    [⟨"Landroid/os/BaseBundle;", "java.lang.Object", false, [⟨"map", "java.lang.Object[]"⟩]⟩,
     ⟨"android.os.Bundle", "android.os.BaseBundle", false, [⟨"map", "int"⟩]⟩,
     ⟨"Lapp/Extras;", "Landroid/os/Bundle;", false, []⟩]
  nodes := []
  edges := []
  pointsTo :=
    [⟨none, some ⟨⟨"app.Extras", "new"⟩, "android.os.BaseBundle", "map"⟩, [⟨"int[]", "a"⟩]⟩]
  warnings := []

theorem extras_inherits :
    extras.Inherits (TypeRef.parse "app.Extras").name
      (TypeRef.parse "android.os.BaseBundle").name := by
  have hextras : (TypeRef.parse "app.Extras").name = (TypeRef.parse "Lapp/Extras;").name := by
    decide +kernel
  have hbundle : (TypeRef.parse "Landroid/os/Bundle;").name
      = (TypeRef.parse "android.os.Bundle").name := by
    decide +kernel
  rw [hextras]
  refine .super (c := ⟨"Lapp/Extras;", "Landroid/os/Bundle;", false, []⟩)
    (by decide) (by decide) ?_
  rw [hbundle]
  exact .super (c := ⟨"android.os.Bundle", "android.os.BaseBundle", false, [⟨"map", "int"⟩]⟩)
    (by decide) (by decide) (.self _)

/-- In the sample the array that the entry lists is in the closure of the object. -/
theorem fieldEntry_reaches_closure_extras :
    ∃ p, extras.program = .ok p ∧
      .object (Object.described ⟨"int[]", "a"⟩)
        ∈ ((p.heap default).closure (Object.described ⟨"app.Extras", "new"⟩)).value := by
  have hok : (match extras.program with
      | .ok p => (declaredField? (p.heap default).hierarchy "android.os.BaseBundle" "map").any
          (fun field => field.type.isArray)
      | .error _ => false) = true := by
    decide +kernel
  cases hp : extras.program with
  | error e =>
      rw [hp] at hok
      cases hok
  | ok p =>
      simp only [hp] at hok
      rcases fieldEntry_reaches_closure extras p hp default _ List.mem_cons_self
        ⟨⟨"app.Extras", "new"⟩, "android.os.BaseBundle", "map"⟩ rfl (by decide +kernel)
        extras_inherits with ⟨field, hstored, _, hclosure⟩
      -- The stored field is the one of the outermost class, which is an array.
      have hkind : field.type.kind = .array := by
        have hkey := hstored [] 0
        simp only [key] at hkey
        split at hkey
        · cases hkey
        · rename_i declared hdeclared
          cases hkey
          rw [hdeclared] at hok
          exact (Heap.isArray_iff _).1 hok
      exact ⟨p, rfl, (hclosure (Or.inr hkind)).1 _ List.mem_cons_self⟩

end Model

end TaintSeed
