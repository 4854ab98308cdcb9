/-!
# Lists Without Repetitions

A finite set that remembers the order in which its members arrived. The
reports of this library sort their sets by the text of the members, and two
members may have the same text, so what decides between them has to be said:
it is the order of arrival, which a stable sort keeps. A structure that
forgets the order could not say it.

The members are kept in one list, and the proof that none is repeated is part
of the type. So the number of members is the length of the list, and no
operation has to restate it.

## Main definitions

* `DistinctList`: A list without repetitions.
* `DistinctList.insert`: Adds a member at the end, unless it is there.
* `DistinctList.insertAll`: Adds the members of a list, in order.
* `DistinctList.sameMembers`: Equality of the two sets of members.

## Theorems

* `DistinctList.mem_insert`: The members after one insertion.
* `DistinctList.mem_insertAll`: The members after many insertions.
-/

namespace TaintSeed

/-- A list in which no member is repeated. -/
structure DistinctList (α : Type) where
  /-- The members, in the order of their arrival. -/
  toList : List α
  /-- No member is listed twice. -/
  nodup : toList.Nodup
deriving DecidableEq

namespace DistinctList

variable {α : Type}

instance : Inhabited (DistinctList α) := ⟨⟨[], List.nodup_nil⟩⟩

instance : EmptyCollection (DistinctList α) := ⟨⟨[], List.nodup_nil⟩⟩

instance : Membership α (DistinctList α) := ⟨fun s a => a ∈ s.toList⟩

/-- The number of members. -/
def size (s : DistinctList α) : Nat := s.toList.length

/-- Whether there is no member. -/
def isEmpty (s : DistinctList α) : Bool := s.toList.isEmpty

/-- Two lists with the same members in the same order are equal. -/
theorem ext {s t : DistinctList α} (h : s.toList = t.toList) : s = t := by
  cases s
  cases t
  cases h
  rfl

@[simp] theorem mem_toList {s : DistinctList α} {a : α} : a ∈ s.toList ↔ a ∈ s := Iff.rfl

@[simp] theorem toList_empty : (∅ : DistinctList α).toList = [] := rfl

@[simp] theorem not_mem_empty (a : α) : a ∉ (∅ : DistinctList α) := by
  rw [← mem_toList, toList_empty]
  exact List.not_mem_nil

variable [DecidableEq α]

instance (a : α) (s : DistinctList α) : Decidable (a ∈ s) :=
  inferInstanceAs (Decidable (a ∈ s.toList))

/-- Whether `a` is a member. -/
def contains (s : DistinctList α) (a : α) : Bool := decide (a ∈ s)

/-- Adds `a` behind the present members, unless it is one of them. -/
def insert (s : DistinctList α) (a : α) : DistinctList α :=
  if h : a ∈ s.toList then s
  else ⟨s.toList ++ [a], by
    rw [List.nodup_append]
    refine ⟨s.nodup, List.nodup_cons.2 ⟨List.not_mem_nil, List.nodup_nil⟩, ?_⟩
    intro x hx y hy hxy
    rw [List.mem_singleton] at hy
    exact h (hy ▸ hxy ▸ hx)⟩

/-- Adds the members of `xs` from left to right. -/
def insertAll (s : DistinctList α) (xs : List α) : DistinctList α := xs.foldl insert s

/-- The members of `xs` in the order of their first occurrence. -/
def ofList (xs : List α) : DistinctList α := insertAll ∅ xs

/-- The members of `s` that satisfy `p`, in the order they had. -/
def filter (s : DistinctList α) (p : α → Bool) : DistinctList α :=
  ⟨s.toList.filter p, s.nodup.filter p⟩

/-- Whether two lists have the same members, whatever their order. -/
def sameMembers (s t : DistinctList α) : Bool :=
  s.size == t.size && s.toList.all t.contains

@[simp] theorem contains_iff {s : DistinctList α} {a : α} : s.contains a = true ↔ a ∈ s := by
  simp [contains]

@[simp] theorem mem_insert {s : DistinctList α} {a x : α} : x ∈ s.insert a ↔ x ∈ s ∨ x = a := by
  unfold insert
  split
  · rename_i h
    refine ⟨Or.inl, ?_⟩
    rintro (hx | rfl)
    · exact hx
    · exact h
  · rw [← mem_toList]
    simp

@[simp] theorem mem_insertAll {s : DistinctList α} {xs : List α} {x : α} :
    x ∈ s.insertAll xs ↔ x ∈ s ∨ x ∈ xs := by
  induction xs generalizing s with
  | nil => simp [insertAll]
  | cons a xs ih =>
    have step : s.insertAll (a :: xs) = (s.insert a).insertAll xs := rfl
    rw [step, ih, mem_insert, List.mem_cons, or_assoc]

@[simp] theorem mem_ofList {xs : List α} {x : α} : x ∈ ofList xs ↔ x ∈ xs := by
  simp [ofList]

omit [DecidableEq α] in
@[simp] theorem mem_filter {s : DistinctList α} {p : α → Bool} {x : α} :
    x ∈ s.filter p ↔ x ∈ s ∧ p x = true :=
  List.mem_filter

/-- Inserting a member changes nothing. -/
theorem insert_of_mem {s : DistinctList α} {a : α} (h : a ∈ s) : s.insert a = s := by
  unfold insert
  split
  · rfl
  · contradiction

/-- A new member comes last. -/
theorem toList_insert_of_not_mem {s : DistinctList α} {a : α} (h : a ∉ s) :
    (s.insert a).toList = s.toList ++ [a] := by
  unfold insert
  split
  · contradiction
  · rfl

end DistinctList

end TaintSeed
