import Mathlib.Logic.Relation
import TaintSeed.Proofs.Heap.Search

/-!
# Closures Compose Along References

The closure of an object is computed by a search of its own, with its own queue
and its own list of objects met. The searches from two objects that refer to
each other meet the same objects in different orders, and neither contains a run
of the other. Still the closures are related as if each were built from those of
the objects one reference away.

`Own` are the elements that an object brings along by itself and `Leads` is one
step along a reference. The explored objects are those reached by steps, so the
tainted elements are the own elements of what is reached
(`tainted_iff_own`), and a first step can be taken off instead of the last
one. What an array field refers to is an own element of the object and no step:
its closure need not be part of the object's.

## Main definitions

* `Heap.Own`: The elements that an object brings along by itself.
* `Heap.Leads`: A reference field of an object leads to another.

## Theorems

* `Heap.explored_iff_reflTransGen`: The explored objects are those reached by steps.
* `Heap.tainted_iff_own`: The tainted elements are the own elements of explored objects.
* `Heap.tainted_unfold`: What is tainted with an object, one step unfolded.
* `Heap.closure_unfolds`: The closure of an object from those one reference away.
-/

namespace TaintSeed

namespace Heap

/-- The elements that an object brings into its closure by itself. -/
inductive Own (h : Heap) (r : Instance) : Element → Prop
  /-- The object. -/
  | object : Own h r (.object r)
  /-- Its fields, unless the type of the field is of no known kind. -/
  | field {field : FieldRef} (noArray : r.type.kind ≠ .array)
      (mem : field ∈ h.hierarchy.instanceFields r.type)
      (known : field.type.kind = .primitive ∨ field.type.kind = .array ∨
        field.type.kind = .reference) : Own h r (.fieldOf r field)
  /-- What its array fields may refer to. -/
  | array {o : Instance} {field : FieldRef} (noArray : r.type.kind ≠ .array)
      (mem : field ∈ h.hierarchy.instanceFields r.type) (array : field.type.kind = .array)
      (points : o ∈ h.fieldObjects r field) : Own h r (.object o)
  /-- The placeholder of an array field for which no array is known. -/
  | arrayPlaceholder {o : Instance} {field : FieldRef} (noArray : r.type.kind ≠ .array)
      (mem : field ∈ h.hierarchy.instanceFields r.type) (array : field.type.kind = .array)
      (unknown : h.fieldObjects r field = []) (lookup : h.hierarchy.lookup field.type = .ok o) :
      Own h r (.object o)

/-- A reference field of `r` may refer to `o`, or `o` takes the place of what it refers to. -/
def Leads (h : Heap) (r o : Instance) : Prop :=
  ∃ field ∈ h.hierarchy.instanceFields r.type, field.type.kind = .reference ∧
    (o ∈ h.fieldObjects r field ∨ h.Placed r field o)

-- Arrays have no fields, so they lead nowhere.
theorem kind_ne_array_of_mem (h : Heap) (r : Instance) (field : FieldRef)
    (hf : field ∈ h.hierarchy.instanceFields r.type) : r.type.kind ≠ .array := by
  rw [((h.hierarchy.mem_instanceFields_iff r.type field).1 hf).1]
  exact TypeKind.noConfusion

theorem explored_iff_reflTransGen (h : Heap) (r o : Instance) :
    h.Explored r o ↔ Relation.ReflTransGen h.Leads r o := by
  constructor
  · intro ho
    induction ho with
    | root => exact .refl
    | pointed _ _ mem reference points ih => exact ih.tail ⟨_, mem, reference, Or.inl points⟩
    | placed _ _ mem reference placed ih => exact ih.tail ⟨_, mem, reference, Or.inr placed⟩
  · intro ho
    induction ho with
    | refl => exact .root
    | tail _ hstep ih =>
        rcases hstep with ⟨field, hf, href, hpt | hpl⟩
        · exact .pointed ih (kind_ne_array_of_mem h _ field hf) hf href hpt
        · exact .placed ih (kind_ne_array_of_mem h _ field hf) hf href hpl

theorem Explored.trans {h : Heap} {r o p : Instance} (hro : h.Explored r o)
    (hop : h.Explored o p) : h.Explored r p := by
  rw [explored_iff_reflTransGen] at hro hop ⊢
  exact Relation.ReflTransGen.trans hro hop

theorem tainted_iff_own (h : Heap) (r : Instance) (e : Element) :
    h.Tainted r e ↔ ∃ o, h.Explored r o ∧ h.Own o e := by
  constructor
  · intro he
    cases he with
    | object explored => exact ⟨_, explored, .object⟩
    | field explored noArray mem known => exact ⟨_, explored, .field noArray mem known⟩
    | array explored noArray mem array points =>
        exact ⟨_, explored, .array noArray mem array points⟩
    | arrayPlaceholder explored noArray mem array unknown lookup =>
        exact ⟨_, explored, .arrayPlaceholder noArray mem array unknown lookup⟩
  · rintro ⟨o, explored, he⟩
    cases he with
    | object => exact .object explored
    | field noArray mem known => exact .field explored noArray mem known
    | array noArray mem array points => exact .array explored noArray mem array points
    | arrayPlaceholder noArray mem array unknown lookup =>
        exact .arrayPlaceholder explored noArray mem array unknown lookup

/-- What is tainted with an object is what it brings along and what is tainted with the objects one
    step away. -/
theorem tainted_unfold (h : Heap) (r : Instance) (e : Element) :
    h.Tainted r e ↔ h.Own r e ∨ ∃ o, h.Leads r o ∧ h.Tainted o e := by
  simp only [tainted_iff_own, explored_iff_reflTransGen]
  constructor
  · rintro ⟨p, hp, he⟩
    -- An explored object is the root, or lies behind a first step.
    rcases Relation.ReflTransGen.cases_head_iff.1 hp with rfl | ⟨o, hstep, hrest⟩
    · exact Or.inl he
    · exact Or.inr ⟨o, hstep, p, hrest, he⟩
  · rintro (he | ⟨o, hstep, p, hrest, he⟩)
    · exact ⟨r, .refl, he⟩
    · exact ⟨p, .head hstep hrest, he⟩

theorem tainted_of_explored (h : Heap) (r o : Instance) (e : Element) (ho : h.Explored r o)
    (he : h.Tainted o e) : h.Tainted r e := by
  -- The element is brought along by an object explored from `o`, and so from `r`.
  rcases (tainted_iff_own h o e).1 he with ⟨p, hp, hown⟩
  exact (tainted_iff_own h r e).2 ⟨p, ho.trans hp, hown⟩

/-- The closure of an object is what the object brings along together with the closures of the
    objects that its reference fields lead to. So it includes the closure of every object that is
    explored from it, and objects that are explored from each other have the same closure. -/
theorem closure_unfolds (h : Heap) (r : Instance) :
    (∀ e, e ∈ (h.closure r).value ↔
      h.Own r e ∨ ∃ o, h.Leads r o ∧ e ∈ (h.closure o).value) ∧
    (∀ o, h.Explored r o → ∀ e ∈ (h.closure o).value, e ∈ (h.closure r).value) ∧
    (∀ o, h.Explored r o → h.Explored o r →
      ∀ e, e ∈ (h.closure o).value ↔ e ∈ (h.closure r).value) := by
  have hclosure : ∀ o e, e ∈ (h.closure o).value ↔ h.Tainted o e := by
    intro o e
    rw [mem_closure_iff, tainted_iff]
  simp only [hclosure]
  refine ⟨tainted_unfold h r, ?_, ?_⟩
  · intro o ho e he
    exact tainted_of_explored h r o e ho he
  · intro o ho hback e
    exact ⟨tainted_of_explored h r o e ho, tainted_of_explored h o r e hback⟩

/-- A cell of a linked list, by the site that allocates it. -/
def cell (site : String) : Instance := ⟨.ofClass "Cell", site⟩

/-- The field that links a cell to the next one. -/
def nextField : FieldRef := ⟨"Cell", "next", .ofClass "Cell"⟩

/-- The field with the bytes of a cell. -/
def bytesField : FieldRef := ⟨"Cell", "bytes", ⟨"[B", .array⟩⟩

/-- Two cells that are linked in a circle. The bytes of the first are known, those of the second
    are not. -/
def ring : Heap where
  pointsTo := .recorded ⟨[(.fieldOf (cell "s1") nextField, .ofList [cell "s2"]),
    (.fieldOf (cell "s2") nextField, .ofList [cell "s1"]),
    (.fieldOf (cell "s1") bytesField, .ofList [⟨⟨"[B", .array⟩, "s3"⟩])]⟩
  hierarchy :=
    { classes := [⟨"Cell", "", false,
        [⟨"next", .ofClass "Cell"⟩, ⟨"bytes", ⟨"[B", .array⟩⟩]⟩]
      distinct := by decide +kernel
      acyclic := by decide +kernel }
  policy := default

/-- The cells are explored from each other, so they have one closure. It has the bytes of the
    first and the placeholder of those of the second, whichever cell it is taken of. -/
theorem closure_unfolds_ring :
    ring.Explored (cell "s1") (cell "s2") ∧ ring.Explored (cell "s2") (cell "s1") ∧
    (∀ e, e ∈ (ring.closure (cell "s2")).value ↔ e ∈ (ring.closure (cell "s1")).value) ∧
    .object ⟨⟨"[B", .array⟩, "s3"⟩ ∈ (ring.closure (cell "s2")).value ∧
    .object ⟨⟨"[B", .array⟩, ""⟩ ∈ (ring.closure (cell "s1")).value := by
  have hnext : ∀ site, nextField ∈ ring.hierarchy.instanceFields (cell site).type :=
    fun _ => List.mem_cons_self
  have hbytes : ∀ site, bytesField ∈ ring.hierarchy.instanceFields (cell site).type :=
    fun _ => List.mem_cons_of_mem _ List.mem_cons_self
  have hcell : ∀ site, (cell site).type.kind ≠ .array := fun _ => TypeKind.noConfusion
  have hforth : ring.Explored (cell "s1") (cell "s2") :=
    .pointed .root (hcell _) (hnext _) rfl (List.mem_mergeSort.2 List.mem_cons_self)
  have hback : ring.Explored (cell "s2") (cell "s1") :=
    .pointed .root (hcell _) (hnext _) rfl (List.mem_mergeSort.2 List.mem_cons_self)
  rcases closure_unfolds ring (cell "s1") with ⟨hfirst, _, hsame⟩
  rcases closure_unfolds ring (cell "s2") with ⟨hsecond, _, _⟩
  refine ⟨hforth, hback, hsame _ hforth hback, ?_, ?_⟩
  · refine (hsame _ hforth hback _).2 ((hfirst _).2 (Or.inl ?_))
    exact .array (hcell _) (hbytes _) rfl (List.mem_mergeSort.2 List.mem_cons_self)
  · refine (hsame _ hforth hback _).1 ((hsecond _).2 (Or.inl ?_))
    exact .arrayPlaceholder (hcell _) (hbytes _) rfl List.mergeSort_nil rfl

end Heap

end TaintSeed
