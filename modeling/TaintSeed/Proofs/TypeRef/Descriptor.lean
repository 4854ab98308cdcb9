import Mathlib.Data.List.TakeWhile
import Mathlib.Logic.Function.Iterate
import TaintSeed.TypeRef.Descriptor

/-!
# Descriptors as Written Text

A descriptor is read by counting its leading brackets and looking at the ends of
what remains. For reasoning the other direction is better: a number of
dimensions and a base are put together and written down, and the texts that the
reader accepts are those that can be written so. `Base` carries the
two conditions that the reader tests, a letter that stands for a primitive type
and a class name that is not empty, so whatever is written is accepted.

No base starts with a bracket, so a written text can be taken apart in one way
only. The array of a type is then one more dimension, and its name in source
text one more pair of brackets. No base ends with a closing bracket either,
which is why text with pairs of brackets behind it is never taken for a
descriptor.

## Main definitions

* `Descriptor.Base`: A letter of a primitive type or the name of a class.
* `Descriptor.written`: The text of a descriptor.
* `TypeRef.ofWritten`: The type that is read from such a text.

## Theorems

* `Descriptor.kind_written`: The kind of a written descriptor.
* `Descriptor.kind_ne_unknown_iff`: What is accepted can be written.
* `Descriptor.kind_append_closing`: No descriptor ends with a closing bracket.
* `TypeRef.isDescriptor_iff`: A reference in descriptor form is read from a written text.
* `TypeRef.arrayOf_iterate_ofWritten`: Arrays of a descriptor have more dimensions.
* `TypeRef.sourceName_arrayOf`: Arrays have one more pair of brackets in source text.
-/

namespace TaintSeed

namespace Descriptor

/-- The base of a descriptor before it is written. -/
inductive Base where
  /-- A primitive type, by its letter. -/
  | primitive (letter : Char) (known : letter ∈ primitives.map Prod.fst)
  /-- A class, by what stands between `L` and the semicolon. -/
  | ofClass (name : List Char) (given : name ≠ [])

namespace Base

/-- The text of a base. -/
def text : Base → List Char
  | primitive letter _ => [letter]
  | ofClass name _ => 'L' :: (name ++ [';'])

/-- The kind of the type that has the base and no dimensions. -/
def kind : Base → TypeKind
  | primitive _ _ => .primitive
  | ofClass _ _ => .reference

theorem kind_ne_unknown (b : Base) : b.kind ≠ .unknown := by
  cases b <;> simp [kind]

end Base

/-- The text of a descriptor: an opening bracket for each dimension, and the base. -/
def written (dims : Nat) (b : Base) : List Char := List.replicate dims '[' ++ b.text

/-! ## Letters -/

theorem primitiveName?_isSome_iff (letter : Char) :
    (primitiveName? letter).isSome = true ↔ letter ∈ primitives.map Prod.fst := by
  rw [primitiveName?, Option.isSome_map, List.find?_isSome, List.mem_map]
  simp only [beq_iff_eq]

theorem not_bracket_of_letter (letter : Char) (hletter : letter ∈ primitives.map Prod.fst) :
    letter ≠ '[' ∧ letter ≠ ']' := by
  have htable : ∀ e ∈ primitives, e.1 ≠ '[' ∧ e.1 ≠ ']' := by decide
  rcases List.mem_map.1 hletter with ⟨e, he, rfl⟩
  exact htable e he

/-! ## Writing and reading back -/

theorem getLast?_ofClass (name : List Char) (given : name ≠ []) :
    (Base.ofClass name given).text.getLast? = some ';' :=
  List.getLast?_concat (l := 'L' :: name)

theorem dropWhile_text (b : Base) : b.text.dropWhile isDimension = b.text := by
  cases b with
  | primitive letter known =>
      have hletter := (not_bracket_of_letter letter known).1
      simp [Base.text, isDimension, hletter]
  | ofClass name _ => simp [Base.text, isDimension]

theorem takeWhile_text (b : Base) : b.text.takeWhile isDimension = [] := by
  have hsplit := List.takeWhile_append_dropWhile (p := isDimension) (l := b.text)
  rw [dropWhile_text] at hsplit
  exact List.append_left_eq_self.1 hsplit

theorem isDimension_of_mem_replicate (dims : Nat) (c : Char) (hc : c ∈ List.replicate dims '[') :
    isDimension c = true := by
  rw [List.eq_of_mem_replicate hc]
  rfl

@[simp] theorem base_written (dims : Nat) (b : Base) : base (written dims b) = b.text := by
  rw [base, written, List.dropWhile_append_of_pos (isDimension_of_mem_replicate dims),
    dropWhile_text]

@[simp] theorem dimensions_written (dims : Nat) (b : Base) :
    dimensions (written dims b) = dims := by
  rw [dimensions, written, List.takeWhile_append_of_pos (isDimension_of_mem_replicate dims),
    takeWhile_text, List.append_nil, List.length_replicate]

theorem baseKind_text (b : Base) : baseKind b.text = b.kind := by
  cases b with
  | primitive letter known =>
      have hletter := (primitiveName?_isSome_iff letter).2 known
      simp [Base.text, Base.kind, baseKind, hletter]
  | ofClass name given =>
      cases name with
      | nil => exact absurd rfl given
      | cons c cs =>
          have hlast : (c :: (cs ++ [';'])).getLast? = some ';' :=
            List.getLast?_concat (l := c :: cs)
          simp [Base.text, Base.kind, baseKind, hlast]

theorem kind_written (dims : Nat) (b : Base) :
    kind (written dims b) = if dims = 0 then b.kind else .array := by
  rw [kind, base_written, dimensions_written, baseKind_text, if_neg b.kind_ne_unknown]
  by_cases hdims : dims = 0
  · simp [hdims]
  · rw [if_neg hdims, if_pos (Nat.pos_of_ne_zero hdims)]

theorem kind_written_ne_unknown (dims : Nat) (b : Base) : kind (written dims b) ≠ .unknown := by
  rw [kind_written]
  split
  · exact b.kind_ne_unknown
  · simp

theorem exists_text (chars : List Char) (hkind : baseKind chars ≠ .unknown) :
    ∃ b : Base, chars = b.text := by
  unfold baseKind at hkind
  split at hkind
  · exact absurd rfl hkind
  · rename_i letter
    split at hkind
    · rename_i hletter
      exact ⟨.primitive letter ((primitiveName?_isSome_iff letter).1 hletter), rfl⟩
    · exact absurd rfl hkind
  · rename_i c rest _
    split at hkind
    · rename_i hends
      simp only [Bool.and_eq_true, beq_iff_eq, decide_eq_true_eq] at hends
      rcases hends with ⟨⟨rfl, hlength⟩, hlast⟩
      -- At least one character is left when the semicolon is taken off.
      rcases List.getLast?_eq_some_iff.1 hlast with ⟨name, rfl⟩
      refine ⟨.ofClass name ?_, rfl⟩
      rintro rfl
      simp at hlength
    · exact absurd rfl hkind

theorem eq_replicate_append_base (d : List Char) :
    d = List.replicate (dimensions d) '[' ++ base d := by
  have hdims : d.takeWhile isDimension = List.replicate (dimensions d) '[' := by
    refine List.eq_replicate_of_mem fun c hc => ?_
    simpa [isDimension] using List.mem_takeWhile_imp hc
  rw [base, ← hdims, List.takeWhile_append_dropWhile]

/-- A text is accepted exactly when it is the written form of dimensions and a base. -/
theorem kind_ne_unknown_iff (d : List Char) : kind d ≠ .unknown ↔ ∃ dims b, d = written dims b := by
  constructor
  · intro hkind
    have hbase : baseKind (base d) ≠ .unknown := fun h => hkind (if_pos h)
    rcases exists_text (base d) hbase with ⟨b, hb⟩
    refine ⟨dimensions d, b, ?_⟩
    rw [written, ← hb, ← eq_replicate_append_base]
  · rintro ⟨dims, b, rfl⟩
    exact kind_written_ne_unknown dims b

theorem written_injective (dims dims' : Nat) (b b' : Base) (h : written dims b = written dims' b') :
    dims = dims' ∧ b.text = b'.text := by
  have hdims := congrArg dimensions h
  have hbase := congrArg base h
  rw [dimensions_written, dimensions_written] at hdims
  rw [base_written, base_written] at hbase
  exact ⟨hdims, hbase⟩

theorem written_add (n dims : Nat) (b : Base) :
    List.replicate n '[' ++ written dims b = written (n + dims) b := by
  rw [written, ← List.append_assoc, List.replicate_append_replicate, written]

theorem getLast?_text (b : Base) : ∃ c, b.text.getLast? = some c ∧ c ≠ ']' := by
  cases b with
  | primitive letter known => exact ⟨letter, rfl, (not_bracket_of_letter letter known).2⟩
  | ofClass name given => exact ⟨';', getLast?_ofClass name given, by decide⟩

theorem text_ne_nil (b : Base) : b.text ≠ [] := by
  cases b <;> simp [Base.text]

/-- Text with a closing bracket at its end is no descriptor. -/
theorem kind_append_closing (cs : List Char) : kind (cs ++ [']']) = .unknown := by
  by_contra hkind
  rcases (kind_ne_unknown_iff _).1 hkind with ⟨dims, b, hwritten⟩
  rcases getLast?_text b with ⟨c, hc, hne⟩
  have hlast := congrArg List.getLast? hwritten
  rw [written, List.getLast?_concat, List.getLast?_append, hc, Option.some_or] at hlast
  exact hne (Option.some.inj hlast).symm

end Descriptor

namespace TypeRef

open Descriptor

/-- The type of a written descriptor. -/
def ofWritten (dims : Nat) (b : Base) : TypeRef := ofDescriptor (String.ofList (written dims b))

@[simp] theorem toList_name_ofWritten (dims : Nat) (b : Base) :
    (ofWritten dims b).name.toList = written dims b := String.toList_ofList

theorem kind_ofWritten (dims : Nat) (b : Base) :
    (ofWritten dims b).kind = if dims = 0 then b.kind else .array := by
  rw [ofWritten, ofDescriptor, String.toList_ofList, kind_written]

theorem kind_ofWritten_ne_unknown (dims : Nat) (b : Base) : (ofWritten dims b).kind ≠ .unknown := by
  rw [ofWritten, ofDescriptor, String.toList_ofList]
  exact kind_written_ne_unknown dims b

theorem ofWritten_injective (dims dims' : Nat) (b b' : Base)
    (h : ofWritten dims b = ofWritten dims' b') : dims = dims' ∧ b.text = b'.text := by
  have hchars := congrArg (fun t => t.name.toList) h
  simp only [toList_name_ofWritten] at hchars
  exact written_injective dims dims' b b' hchars

/-- A descriptor of known kind is the written form of dimensions and a base. -/
theorem exists_ofWritten (d : String) (hkind : (ofDescriptor d).kind ≠ .unknown) :
    ∃ dims b, d = String.ofList (written dims b) := by
  rcases (kind_ne_unknown_iff d.toList).1 hkind with ⟨dims, b, hd⟩
  exact ⟨dims, b, by rw [← hd, String.ofList_toList]⟩

theorem name_ofWritten_ne_empty (dims : Nat) (b : Base) : (ofWritten dims b).name ≠ "" := by
  intro hempty
  have hchars := congrArg String.toList hempty
  rw [toList_name_ofWritten] at hchars
  simp [written, text_ne_nil b] at hchars

theorem isDescriptor_iff (t : TypeRef) :
    t.isDescriptor = true ↔ ∃ dims b, t = ofWritten dims b := by
  simp only [isDescriptor, Bool.and_eq_true, bne_iff_ne, beq_iff_eq]
  constructor
  · rintro ⟨⟨hkind, _⟩, hread⟩
    rw [← hread] at hkind
    rcases exists_ofWritten t.name hkind with ⟨dims, b, hname⟩
    exact ⟨dims, b, by rw [ofWritten, ← hname, hread]⟩
  · rintro ⟨dims, b, rfl⟩
    exact ⟨⟨kind_ofWritten_ne_unknown dims b, name_ofWritten_ne_empty dims b⟩, rfl⟩

/-! ## Arrays -/

theorem arrayOf_ofWritten (dims : Nat) (b : Base) :
    (ofWritten dims b).arrayOf = ofWritten (dims + 1) b := by
  have hname : "[" ++ (ofWritten dims b).name = (ofWritten (dims + 1) b).name := by
    rw [← String.toList_inj, String.toList_append, toList_name_ofWritten, toList_name_ofWritten,
      Nat.add_comm, ← written_add]
    rfl
  have hkind : (ofWritten (dims + 1) b).kind = .array := by simp [kind_ofWritten]
  rw [arrayOf, if_pos ((isDescriptor_iff _).2 ⟨dims, b, rfl⟩), hname, ← hkind]

theorem arrayOf_iterate_ofWritten (n dims : Nat) (b : Base) :
    arrayOf^[n] (ofWritten dims b) = ofWritten (n + dims) b := by
  induction n with
  | zero => simp
  | succ n ih =>
      rw [Function.iterate_succ_apply', ih, arrayOf_ofWritten]
      congr 1
      omega

/-! ## Names in source text -/

@[simp] theorem brackets_zero : brackets 0 = "" := rfl

theorem brackets_succ (n : Nat) : brackets (n + 1) = brackets n ++ "[]" := by
  rw [brackets, List.replicate_succ', String.join_append]
  rfl

theorem sourceName_ofWritten (dims : Nat) (b : Base) :
    (ofWritten dims b).sourceName = sourceBase b.text ++ brackets dims := by
  rw [sourceName, if_pos ((isDescriptor_iff _).2 ⟨dims, b, rfl⟩), toList_name_ofWritten,
    base_written, dimensions_written]

/-- An array is named like its members with a pair of brackets behind, whatever the name of the
    members and whatever their kind. -/
theorem sourceName_arrayOf (t : TypeRef) : t.arrayOf.sourceName = t.sourceName ++ "[]" := by
  by_cases ht : t.isDescriptor = true
  · rcases (isDescriptor_iff t).1 ht with ⟨dims, b, rfl⟩
    rw [arrayOf_ofWritten, sourceName_ofWritten, sourceName_ofWritten, brackets_succ,
      String.append_assoc]
  · -- The brackets at the end keep the new name from being read as a descriptor.
    have hname : (t.name ++ "[]").toList = (t.name.toList ++ ['[']) ++ [']'] := by
      rw [String.toList_append, List.append_assoc]
      rfl
    have harray : ¬ (⟨t.name ++ "[]", .array⟩ : TypeRef).isDescriptor = true := by
      rw [isDescriptor_iff]
      rintro ⟨dims, b, h⟩
      have hchars := congrArg (fun t => t.name.toList) h
      simp only [toList_name_ofWritten, hname] at hchars
      exact kind_written_ne_unknown dims b (hchars ▸ kind_append_closing _)
    rw [arrayOf, if_neg ht, sourceName, if_neg harray, sourceName, if_neg ht]

end TypeRef

end TaintSeed
