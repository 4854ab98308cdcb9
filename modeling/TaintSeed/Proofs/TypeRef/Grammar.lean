import TaintSeed.Proofs.TypeRef.Descriptor

/-!
# The Grammar of Descriptors and Its Reader

The grammar of type descriptors is narrower than what is read as one. A class
name is made of simple names with slashes between them, none of them empty,
and there are no arrays of the void type. The reader only looks at the letter of
a primitive type, and at the two ends and the length of anything else. It gives
every descriptor of the grammar its kind. Beyond the grammar it accepts
arrays of the void type and class names that are no class names, and treats
them like real types.

Everything that is accepted is the written form of dimensions and a base, and
written forms can be taken apart in one way only. So a text follows the grammar
or not by what is asked of its dimensions and base, which is `Base.IsLawful`.

## Main definitions

* `Descriptor.IsClassName`: Simple names with slashes between them.
* `Descriptor.valuedLetters`: The letters that may stand in an array.
* `Descriptor.Grammatical`: The grammar, with the kind of each descriptor.
* `Descriptor.Overlooked`: What is accepted although it breaks a rule.

## Theorems

* `Descriptor.isClassName_iff`: Class names are recognized by splitting at slashes.
* `Descriptor.grammatical_iff`: The grammar, told by dimensions and base.
* `Descriptor.overlooked_iff`: What breaks a rule, told by dimensions and base.
* `Descriptor.accepted_exact`: What is accepted, and what of it is in the grammar.
* `Descriptor.accepted_ungrammatical`: Two texts that should not be accepted.
-/

namespace TaintSeed

namespace Descriptor

/-! ## Class names -/

/-- A part of a class name. -/
def IsSimpleName (part : List Char) : Prop := part ≠ [] ∧ ∀ c ∈ part, c ∉ [';', '[', '/', '.']

instance (part : List Char) : Decidable (IsSimpleName part) :=
  decidable_of_iff (part ≠ [] ∧ part.all (fun c => decide (c ∉ [';', '[', '/', '.'])) = true)
    (by simp only [IsSimpleName, List.all_eq_true, decide_eq_true_eq])

/-- One or more simple names with slashes between them. -/
def IsClassName (name : List Char) : Prop :=
  ∃ parts, parts ≠ [] ∧ (∀ part ∈ parts, IsSimpleName part) ∧ name = ['/'].intercalate parts

theorem isClassName_iff (name : List Char) :
    IsClassName name ↔ ∀ part ∈ name.splitOn '/', IsSimpleName part := by
  constructor
  · rintro ⟨parts, hne, hparts, rfl⟩
    -- No simple name holds a slash, so splitting finds the names that were joined.
    have hslash : ∀ part ∈ parts, '/' ∉ part := by
      intro part hpart hmem
      exact (hparts part hpart).2 '/' hmem (by decide)
    rw [List.splitOn_intercalate '/' hslash hne]
    exact hparts
  · intro hparts
    have hjoined : name = ['/'].intercalate (name.splitOn '/') :=
      (List.intercalate_splitOn '/').symm
    exact ⟨name.splitOn '/', List.splitOn_ne_nil '/' name, hparts, hjoined⟩

instance (name : List Char) : Decidable (IsClassName name) :=
  decidable_of_iff _ (isClassName_iff name).symm

theorem IsClassName.ne_nil {name : List Char} (hname : IsClassName name) : name ≠ [] := by
  rintro rfl
  exact absurd hname (by decide)

/-! ## The grammar -/

/-- The kind of a type that has the dimensions, and `kind` without them. -/
def kindAt (dims : Nat) (kind : TypeKind) : TypeKind := if dims = 0 then kind else .array

/-- The letters of the primitive types that have values. -/
def valuedLetters : List Char := ['Z', 'B', 'S', 'C', 'I', 'J', 'F', 'D']

/-- The descriptors of the grammar, with their kinds. -/
inductive Grammatical : List Char → TypeKind → Prop
  /-- A primitive type that has values, or an array of it. -/
  | primitive (dims : Nat) {letter : Char} (valued : letter ∈ valuedLetters) :
      Grammatical (List.replicate dims '[' ++ [letter]) (kindAt dims .primitive)
  /-- The type without values, of which there are no arrays. -/
  | void : Grammatical ['V'] .primitive
  /-- A class or an array of its objects. -/
  | ofClass (dims : Nat) {name : List Char} (wellFormed : IsClassName name) :
      Grammatical (List.replicate dims '[' ++ 'L' :: (name ++ [';'])) (kindAt dims .reference)

/-- The texts outside the grammar that are accepted, with the kinds that they get. -/
inductive Overlooked : List Char → TypeKind → Prop
  /-- An array of the type without values. -/
  | voidArray (dims : Nat) : Overlooked (List.replicate (dims + 1) '[' ++ ['V']) .array
  /-- A class, or an array, whose class name is none. -/
  | ofClass (dims : Nat) {name : List Char} (given : name ≠ []) (malformed : ¬ IsClassName name) :
      Overlooked (List.replicate dims '[' ++ 'L' :: (name ++ [';'])) (kindAt dims .reference)

/-- What the grammar asks of a base with this many dimensions. -/
def Base.IsLawful (dims : Nat) : Base → Prop
  | primitive letter _ => letter = 'V' → dims = 0
  | ofClass name _ => IsClassName name

theorem letter_iff (letter : Char) :
    letter ∈ primitives.map Prod.fst ↔ letter ∈ valuedLetters ∨ letter = 'V' := by
  have hknown : valuedLetters ++ ['V'] ⊆ primitives.map Prod.fst := by decide
  have hlisted : primitives.map Prod.fst ⊆ valuedLetters ++ ['V'] := by decide
  rw [← List.mem_singleton, ← List.mem_append]
  exact ⟨fun h => hlisted h, fun h => hknown h⟩

theorem Base.text_injective (b b' : Base) (h : b.text = b'.text) : b = b' := by
  cases b with
  | primitive letter known =>
      cases b' with
      | primitive letter' known' =>
          cases h
          rfl
      | ofClass name given => simp [text] at h
  | ofClass name given =>
      cases b' with
      | primitive letter known => simp [text] at h
      | ofClass name' given' =>
          obtain rfl : name = name' := by simpa [text] using h
          rfl

theorem grammatical_iff (d : List Char) (kind : TypeKind) :
    Grammatical d kind ↔
      ∃ dims b, d = written dims b ∧ kind = kindAt dims b.kind ∧ b.IsLawful dims := by
  constructor
  · intro hd
    cases hd with
    | @primitive dims letter valued =>
        have hvoid : letter ≠ 'V' := by
          rintro rfl
          exact absurd valued (by decide)
        exact ⟨dims, .primitive letter ((letter_iff letter).2 (Or.inl valued)), rfl, rfl,
          fun h => absurd h hvoid⟩
    | void => exact ⟨0, .primitive 'V' (by decide), rfl, rfl, fun _ => rfl⟩
    | @ofClass dims name wellFormed =>
        exact ⟨dims, .ofClass name wellFormed.ne_nil, rfl, rfl, wellFormed⟩
  · rintro ⟨dims, b, rfl, rfl, hlawful⟩
    cases b with
    | primitive letter known =>
        rcases (letter_iff letter).1 known with valued | rfl
        · exact .primitive dims valued
        · obtain rfl : dims = 0 := hlawful rfl
          exact .void
    | ofClass name given => exact .ofClass dims hlawful

theorem overlooked_iff (d : List Char) (kind : TypeKind) :
    Overlooked d kind ↔
      ∃ dims b, d = written dims b ∧ kind = kindAt dims b.kind ∧ ¬ b.IsLawful dims := by
  constructor
  · intro hd
    cases hd with
    | voidArray dims =>
        refine ⟨dims + 1, .primitive 'V' (by decide), rfl, rfl, fun hlawful => ?_⟩
        exact Nat.succ_ne_zero dims (hlawful rfl)
    | @ofClass dims name given malformed =>
        exact ⟨dims, .ofClass name given, rfl, rfl, malformed⟩
  · rintro ⟨dims, b, rfl, rfl, hlawful⟩
    cases b with
    | primitive letter known =>
        have hvoid : letter = 'V' ∧ dims ≠ 0 := by simpa [Base.IsLawful] using hlawful
        rcases hvoid with ⟨rfl, hdims⟩
        rcases Nat.exists_eq_succ_of_ne_zero hdims with ⟨n, rfl⟩
        exact .voidArray n
    | ofClass name given => exact .ofClass dims given hlawful

-- There is one way to take a written text apart, so being lawful is a property of the text.
theorem not_grammatical_written (dims : Nat) (b : Base) (hlawful : ¬ b.IsLawful dims)
    (kind : TypeKind) : ¬ Grammatical (written dims b) kind := by
  rw [grammatical_iff]
  rintro ⟨dims', b', hwritten, _, hlawful'⟩
  rcases written_injective dims dims' b b' hwritten with ⟨rfl, htext⟩
  obtain rfl := Base.text_injective b b' htext
  exact hlawful hlawful'

/-! ## The reader -/

theorem kind_eq_iff (d : List Char) (κ : TypeKind) (hκ : κ ≠ .unknown) :
    kind d = κ ↔ ∃ dims b, d = written dims b ∧ κ = kindAt dims b.kind := by
  constructor
  · rintro rfl
    rcases (kind_ne_unknown_iff d).1 hκ with ⟨dims, b, rfl⟩
    exact ⟨dims, b, rfl, kind_written dims b⟩
  · rintro ⟨dims, b, rfl, rfl⟩
    exact kind_written dims b

/-- A text gets a kind in two ways: the grammar gives it that kind, or it is an array of the void
    type or has a class name that is none. The second never happens to a descriptor of the
    grammar, and all other text is of unknown kind. -/
theorem accepted_exact (d : String) (κ : TypeKind) (hκ : κ ≠ .unknown) :
    ((TypeRef.ofDescriptor d).kind = κ ↔ Grammatical d.toList κ ∨ Overlooked d.toList κ) ∧
      ¬ (Grammatical d.toList κ ∧ Overlooked d.toList κ) := by
  constructor
  · rw [TypeRef.ofDescriptor, kind_eq_iff d.toList κ hκ, grammatical_iff, overlooked_iff]
    constructor
    · rintro ⟨dims, b, hd, hkind⟩
      by_cases hlawful : b.IsLawful dims
      · exact Or.inl ⟨dims, b, hd, hkind, hlawful⟩
      · exact Or.inr ⟨dims, b, hd, hkind, hlawful⟩
    · rintro (⟨dims, b, hd, hkind, _⟩ | ⟨dims, b, hd, hkind, _⟩)
      · exact ⟨dims, b, hd, hkind⟩
      · exact ⟨dims, b, hd, hkind⟩
  · rintro ⟨hgrammatical, hoverlooked⟩
    rcases (overlooked_iff _ _).1 hoverlooked with ⟨dims, b, hd, _, hlawful⟩
    rw [hd] at hgrammatical
    exact not_grammatical_written dims b hlawful κ hgrammatical

/-- An array of a class is accepted by the grammar. -/
theorem accepted_exact_bundle :
    TypeKind.array ≠ .unknown ∧ (TypeRef.ofDescriptor "[Landroid/os/Bundle;").kind = .array ∧
      ¬ Overlooked "[Landroid/os/Bundle;".toList .array := by
  have hexact := accepted_exact "[Landroid/os/Bundle;" .array (by decide)
  have hname : IsClassName "android/os/Bundle".toList := by decide +kernel
  have hgrammatical : Grammatical "[Landroid/os/Bundle;".toList .array := .ofClass 1 hname
  exact ⟨by decide, hexact.1.2 (Or.inl hgrammatical), fun h => hexact.2 ⟨hgrammatical, h⟩⟩

/-- An array of the void type and a class name with an empty part are outside the grammar and
    accepted. -/
theorem accepted_ungrammatical :
    ((TypeRef.ofDescriptor "[V").kind = .array ∧ ∀ κ, ¬ Grammatical "[V".toList κ) ∧
    (TypeRef.ofDescriptor "Lapp//Data;").kind = .reference ∧
      ∀ κ, ¬ Grammatical "Lapp//Data;".toList κ := by
  refine ⟨⟨by decide +kernel, ?_⟩, by decide +kernel, ?_⟩
  · refine not_grammatical_written 1 (.primitive 'V' (by decide)) fun hlawful => ?_
    exact Nat.one_ne_zero (hlawful rfl)
  · have hname : ¬ IsClassName "app//Data".toList := by decide +kernel
    exact not_grammatical_written 0 (.ofClass "app//Data".toList (by decide +kernel)) hname

end Descriptor

end TaintSeed
