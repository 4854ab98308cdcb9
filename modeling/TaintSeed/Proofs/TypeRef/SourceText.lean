import TaintSeed.Proofs.TypeRef.Descriptor
import TaintSeed.TypeRef.SourceText

/-!
# Reading Both Notations of a Type

A type is read from text in one of two notations, and a descriptor is tried
first. The two notations put dimensions on opposite sides and use different
separators in class names, so each question here is one about which reading
wins and what is left of the text when it does.

Text in source notation is a base with pairs of brackets behind it. The pairs
are counted from the end, on the reversed text. `exists_source` and
`descriptorOf?_source` say what that count finds without reversing anything,
and the rest is stated with them. A base holds no bracket and no semicolon,
so the text is a descriptor only if it is a single letter without pairs
(`kind_source_ne_unknown_iff`). All other source text is converted, and what
it is converted to is the written form of a descriptor.

From this follow the three results about spellings. Reading is a
canonicalization, because a written descriptor is read as itself. Pairs of
brackets add dimensions. And the name of a type in source text is read as the
type again, unless the class is called like a primitive type or has the name of
one letter, which alone is a descriptor and with brackets behind is none.

## Main definitions

* `TypeRef.IsSourceBase`: A text that can stand before pairs of brackets.
* `TypeRef.dotted`, `TypeRef.slashed`: The two spellings of a class name.
* `TypeRef.Recovers`: The name of a type in source text is read as the type.
* `TypeRef.IsMistaken`: A class whose name in source text is that of a primitive type.

## Theorems

* `TypeRef.descriptorOf?_source`: The descriptor of source text.
* `TypeRef.exists_source`: What has a descriptor is source text.
* `TypeRef.kind_source_ne_unknown_iff`: The source text that is also a descriptor.
* `TypeRef.parse_cases`: What is read is a written descriptor or of no known kind.
* `TypeRef.parse_name_parse`: Reading is a canonicalization.
* `TypeRef.arrayOf_consistent`: All notations agree on arrays.
* `TypeRef.recovers_exact`: The types that are read back from their names in source text.
-/

namespace TaintSeed

namespace Descriptor

theorem primitiveLetter?_eq_none_iff (name : String) :
    primitiveLetter? name = none ↔ name ∉ primitives.map Prod.snd := by
  rw [primitiveLetter?, Option.map_eq_none_iff, List.find?_eq_none, List.mem_map]
  simp only [beq_iff_eq, not_exists, not_and]

theorem letter_of_primitiveLetter? (name : String) (letter : Char)
    (h : primitiveLetter? name = some letter) : letter ∈ primitives.map Prod.fst := by
  rcases Option.map_eq_some_iff.1 h with ⟨e, he, rfl⟩
  exact List.mem_map_of_mem (List.mem_of_find?_eq_some he)

end Descriptor

namespace TypeRef

open Descriptor

/-- The text can stand before pairs of brackets. -/
def IsSourceBase (base : List Char) : Prop := base ≠ [] ∧ ∀ c ∈ base, isForeign c = false

/-- The class name with dots for slashes. -/
def dotted (name : List Char) : List Char := name.map (fun c => if c == '/' then '.' else c)

/-- The class name with slashes for dots. -/
def slashed (name : List Char) : List Char := name.map (fun c => if c == '.' then '/' else c)

/-! ## Pairs of brackets -/

theorem toList_brackets_succ (n : Nat) :
    (brackets (n + 1)).toList = (brackets n).toList ++ ['[', ']'] := by
  rw [brackets_succ, String.toList_append]
  rfl

theorem brackets_add (m n : Nat) : brackets m ++ brackets n = brackets (m + n) := by
  induction n with
  | zero => exact String.append_empty
  | succ n ih => rw [brackets_succ, ← String.append_assoc, ih, ← Nat.add_assoc, brackets_succ]

-- Reversed text is taken apart from its front, so pairs come off in the order of this induction.
theorem stripBrackets_pairs (cs : List Char) (n : Nat) :
    stripBrackets (cs ++ (brackets n).toList).reverse
      = ((stripBrackets cs.reverse).1 + n, (stripBrackets cs.reverse).2) := by
  induction n with
  | zero => simp
  | succ n ih =>
      have hpair : (cs ++ (brackets (n + 1)).toList).reverse
          = ']' :: '[' :: (cs ++ (brackets n).toList).reverse := by
        rw [toList_brackets_succ]
        simp
      rw [hpair, stripBrackets, ih]
      rfl

theorem stripBrackets_of_isSourceBase (base : List Char) (hbase : IsSourceBase base) :
    stripBrackets base.reverse = (0, base.reverse) := by
  unfold stripBrackets
  split
  · -- A closing bracket at the end would be a foreign character of the base.
    rename_i rest hrest
    have hmem : ']' ∈ base := List.mem_reverse.1 (hrest ▸ List.mem_cons_self)
    cases hbase.2 _ hmem
  · rfl

theorem reverse_eq_stripBrackets (cs : List Char) :
    cs.reverse = (stripBrackets cs).2.reverse ++ (brackets (stripBrackets cs).1).toList := by
  fun_induction stripBrackets cs with
  | case1 rest n base hstrip ih =>
      rw [hstrip] at ih
      simp only [toList_brackets_succ, List.reverse_cons, ih]
      simp
  | case2 cs _ => simp

/-! ## The descriptor of source text -/

theorem exists_text_of_baseDescriptor? (base d : List Char) (hne : base ≠ [])
    (hd : baseDescriptor? base = some d) : ∃ b : Base, d = b.text := by
  unfold baseDescriptor? at hd
  split at hd
  · rename_i letter hletter
    cases hd
    exact ⟨.primitive letter (letter_of_primitiveLetter? _ letter hletter), rfl⟩
  · split at hd
    · cases hd
    · cases hd
      exact ⟨.ofClass (slashed base) (by simpa [slashed] using hne), rfl⟩

theorem descriptorOf?_source (base : List Char) (hbase : IsSourceBase base) (n : Nat) :
    descriptorOf? (String.ofList base ++ brackets n)
      = (baseDescriptor? base).map (fun d => String.ofList (List.replicate n '[' ++ d)) := by
  have hstrip : stripBrackets (String.ofList base ++ brackets n).toList.reverse
      = (n, base.reverse) := by
    rw [String.toList_append, String.toList_ofList, stripBrackets_pairs,
      stripBrackets_of_isSourceBase base hbase, Nat.zero_add]
  have hclean : ¬ (base.isEmpty || base.any isForeign) = true := by
    simpa [hbase.1] using hbase.2
  simp only [descriptorOf?, hstrip, List.reverse_reverse, if_neg hclean]

theorem exists_source (s d : String) (hd : descriptorOf? s = some d) :
    ∃ n base b, IsSourceBase base ∧ s = String.ofList base ++ brackets n ∧
      baseDescriptor? base = some b.text ∧ d = String.ofList (written n b) := by
  unfold descriptorOf? at hd
  simp only at hd
  split at hd
  · cases hd
  · rename_i hclean
    rcases Option.map_eq_some_iff.1 hd with ⟨text, htext, rfl⟩
    have hbase : IsSourceBase (stripBrackets s.toList.reverse).2.reverse := by
      simpa [IsSourceBase] using hclean
    rcases exists_text_of_baseDescriptor? _ text hbase.1 htext with ⟨b, rfl⟩
    refine ⟨_, _, b, hbase, ?_, htext, rfl⟩
    have hchars := reverse_eq_stripBrackets s.toList.reverse
    rw [List.reverse_reverse] at hchars
    rw [← String.toList_inj, String.toList_append, String.toList_ofList, ← hchars]

/-! ## Which reading wins -/

theorem kind_append_brackets (s : String) (n : Nat) :
    (ofDescriptor (s ++ brackets (n + 1))).kind = .unknown := by
  have hchars : (s ++ brackets (n + 1)).toList
      = (s.toList ++ (brackets n).toList ++ ['[']) ++ [']'] := by
    rw [String.toList_append, toList_brackets_succ]
    simp
  rw [ofDescriptor, hchars]
  exact kind_append_closing _

-- Brackets and semicolons are foreign to a base, so of all descriptors only a letter is left.
theorem kind_source_ne_unknown_iff (base : List Char) (hbase : IsSourceBase base) (n : Nat) :
    (ofDescriptor (String.ofList base ++ brackets n)).kind ≠ .unknown ↔
      n = 0 ∧ ∃ e ∈ primitives, base = [e.1] := by
  cases n with
  | succ n => simp [kind_append_brackets]
  | zero =>
      rw [brackets_zero, String.append_empty, ofDescriptor, String.toList_ofList, kind_ne_unknown_iff]
      constructor
      · rintro ⟨dims, b, rfl⟩
        have hdims : dims = 0 := by
          by_contra hdims
          have hmem : '[' ∈ written dims b :=
            List.mem_append_left _ (List.mem_replicate.2 ⟨hdims, rfl⟩)
          cases hbase.2 _ hmem
        subst hdims
        cases b with
        | primitive letter known =>
            rcases List.mem_map.1 known with ⟨e, he, rfl⟩
            exact ⟨rfl, e, he, rfl⟩
        | ofClass name given =>
            have hmem : ';' ∈ written 0 (.ofClass name given) := by simp [written, Base.text]
            cases hbase.2 _ hmem
      · rintro ⟨_, e, he, rfl⟩
        exact ⟨0, .primitive e.1 (List.mem_map_of_mem he), rfl⟩

theorem parse_of_descriptor (d : String) (hkind : (ofDescriptor d).kind ≠ .unknown) :
    parse d = ofDescriptor d := if_pos hkind

theorem parse_of_descriptorOf? (s d : String) (hkind : (ofDescriptor s).kind = .unknown)
    (hd : descriptorOf? s = some d) : parse s = ofDescriptor d := by
  rw [parse, if_neg (not_not_intro hkind), hd]

theorem parse_ofWritten (dims : Nat) (b : Base) :
    parse (String.ofList (written dims b)) = ofWritten dims b :=
  parse_of_descriptor _ (kind_ofWritten_ne_unknown dims b)

theorem parse_source (base : List Char) (hbase : IsSourceBase base) (n : Nat) (b : Base)
    (hb : baseDescriptor? base = some b.text)
    (hletter : ¬ (n = 0 ∧ ∃ e ∈ primitives, base = [e.1])) :
    parse (String.ofList base ++ brackets n) = ofWritten n b := by
  have hkind : (ofDescriptor (String.ofList base ++ brackets n)).kind = .unknown := by
    by_contra hkind
    exact hletter ((kind_source_ne_unknown_iff base hbase n).1 hkind)
  refine parse_of_descriptorOf? _ _ hkind ?_
  rw [descriptorOf?_source base hbase, hb]
  rfl

/-- What is read is the type of a written descriptor, or else the text itself, which is no
    descriptor and has none. -/
theorem parse_cases (s : String) :
    (∃ dims b, parse s = ofWritten dims b) ∨
      parse s = ⟨s, .unknown⟩ ∧ (ofDescriptor s).kind = .unknown ∧ descriptorOf? s = none := by
  by_cases hkind : (ofDescriptor s).kind = .unknown
  · cases hd : descriptorOf? s with
    | none => exact Or.inr ⟨by rw [parse, if_neg (not_not_intro hkind), hd], hkind, rfl⟩
    | some d =>
        rcases exists_source s d hd with ⟨dims, base, b, _, _, _, rfl⟩
        exact Or.inl ⟨dims, b, parse_of_descriptorOf? s _ hkind hd⟩
  · rcases exists_ofWritten s hkind with ⟨dims, b, rfl⟩
    exact Or.inl ⟨dims, b, parse_ofWritten dims b⟩

/-! ## Canonical names -/

theorem ofDescriptor_name_parse (s : String) : ofDescriptor (parse s).name = parse s := by
  rcases parse_cases s with ⟨dims, b, hs⟩ | ⟨hs, hkind, _⟩
  · rw [hs]
    rfl
  · rw [hs, ← hkind]
    rfl

theorem parse_name_parse (s : String) : parse (parse s).name = parse s := by
  rcases parse_cases s with ⟨dims, b, hs⟩ | ⟨hs, _, _⟩
  · rw [hs]
    exact parse_ofWritten dims b
  · rw [hs]
    exact hs

/-! ## Arrays -/

-- Both sides are read off the base of `s`: the pairs become dimensions beside those it has.
theorem parse_append_brackets (s : String) (hs : (ofDescriptor s).kind = .unknown)
    (hkind : (parse s).kind ≠ .unknown) (n : Nat) :
    parse (s ++ brackets n) = arrayOf^[n] (parse s) := by
  cases hd : descriptorOf? s with
  | none =>
      rw [parse, if_neg (not_not_intro hs), hd] at hkind
      exact absurd rfl hkind
  | some d =>
      rcases exists_source s d hd with ⟨m, base, b, hbase, rfl, hb, rfl⟩
      have hwritten : parse (String.ofList base ++ brackets m) = ofWritten m b :=
        parse_of_descriptorOf? _ _ hs hd
      have hletter : ¬ (m + n = 0 ∧ ∃ e ∈ primitives, base = [e.1]) := by
        rintro ⟨hzero, hsingle⟩
        have hm : m = 0 := by omega
        exact (kind_source_ne_unknown_iff base hbase m).2 ⟨hm, hsingle⟩ hs
      rw [hwritten, arrayOf_iterate_ofWritten, String.append_assoc, brackets_add,
        parse_source base hbase (m + n) b hb hletter, Nat.add_comm]

/-- All notations agree on arrays. In source text the array of any type has one more pair of
    brackets. The arrays of a descriptor are read from the descriptor with opening brackets before
    it, and those of a type in source notation from the text with pairs of brackets behind it. -/
theorem arrayOf_consistent :
    (∀ t : TypeRef, t.arrayOf.sourceName = t.sourceName ++ "[]") ∧
    (∀ d : String, (ofDescriptor d).kind ≠ .unknown → ∀ n,
      arrayOf^[n] (ofDescriptor d) = ofDescriptor (String.ofList (List.replicate n '[') ++ d)) ∧
    ∀ s : String, (ofDescriptor s).kind = .unknown → (parse s).kind ≠ .unknown → ∀ n,
      parse (s ++ brackets n) = arrayOf^[n] (parse s) := by
  refine ⟨sourceName_arrayOf, fun d hd n => ?_, parse_append_brackets⟩
  rcases exists_ofWritten d hd with ⟨dims, b, rfl⟩
  rw [← String.ofList_append, written_add]
  exact arrayOf_iterate_ofWritten n dims b

/-- A class whose name starts like an array keeps its notation, and the void type has arrays. -/
theorem arrayOf_consistent_samples :
    (arrayOf ⟨"[app", .reference⟩).sourceName = "[app[]" ∧
    arrayOf^[2] (ofDescriptor "[V") = ofDescriptor "[[[V" ∧
    parse ("app/Data[]" ++ brackets 2) = arrayOf^[2] (parse "app/Data[]") := by
  rcases arrayOf_consistent with ⟨hname, hbefore, hbehind⟩
  refine ⟨?_, hbefore "[V" (by decide +kernel) 2,
    hbehind "app/Data[]" (by decide +kernel) (by decide +kernel) 2⟩
  rw [hname]
  decide +kernel

/-! ## Back from source text -/

/-- The name of a type in source text is read as the type. -/
def Recovers (t : TypeRef) : Prop := parse t.sourceName = t

theorem slashed_dotted (name : List Char) (hname : '.' ∉ name) : slashed (dotted name) = name := by
  rw [slashed, dotted, List.map_map]
  refine (List.map_congr_left fun c hc => ?_).trans (List.map_id name)
  have hdot : c ≠ '.' := fun h => hname (h ▸ hc)
  by_cases hslash : c = '/'
  · simp [hslash]
  · simp [hslash, hdot]

theorem dotted_of_not_mem (name : List Char) (hname : '/' ∉ name) : dotted name = name := by
  refine (List.map_congr_left fun c hc => ?_).trans (List.map_id name)
  have hslash : c ≠ '/' := fun h => hname (h ▸ hc)
  simp [hslash]

theorem eq_of_dotted_plain (name : List Char) (hdotted : '.' ∉ dotted name) :
    dotted name = name := by
  refine dotted_of_not_mem name fun hslash => hdotted ?_
  exact List.mem_map.2 ⟨'/', hslash, rfl⟩

theorem sourceName_ofClass (dims : Nat) (name : List Char) (given : name ≠ []) :
    (ofWritten dims (.ofClass name given)).sourceName
      = String.ofList (dotted name) ++ brackets dims := by
  have hbase : sourceBase (Base.ofClass name given).text = String.ofList (dotted name) := by
    simp [Base.text, sourceBase, dotted]
  rw [sourceName_ofWritten, hbase]

theorem sourceBase_letter (e : Char × String) (he : e ∈ primitives) : sourceBase [e.1] = e.2 := by
  have htable : ∀ e ∈ primitives, sourceBase [e.1] = e.2 := by decide +kernel
  exact htable e he

theorem recovers_primitive (dims : Nat) (letter : Char) (known : letter ∈ primitives.map Prod.fst) :
    Recovers (ofWritten dims (.primitive letter known)) := by
  -- The nine names are longer than a letter and stand for theirs, as the table shows.
  have htable : ∀ e ∈ primitives, e.2.toList.length ≠ 1 ∧
      baseDescriptor? e.2.toList = some [e.1] ∧ e.2.toList ≠ [] ∧
        e.2.toList.any isForeign = false := by
    decide +kernel
  rcases List.mem_map.1 known with ⟨e, he, rfl⟩
  rcases htable e he with ⟨hlong, hdescriptor, hne, hforeign⟩
  have hbase : IsSourceBase e.2.toList := by simpa [IsSourceBase, hne] using hforeign
  have hname : (ofWritten dims (.primitive e.1 known)).sourceName
      = String.ofList e.2.toList ++ brackets dims := by
    rw [sourceName_ofWritten, String.ofList_toList, ← sourceBase_letter e he]
    rfl
  rw [Recovers, hname]
  refine parse_source _ hbase dims (.primitive e.1 known) hdescriptor ?_
  rintro ⟨_, e', _, hletter⟩
  exact hlong (hletter ▸ rfl)

/-- The class is called like a primitive type, or it has no dimensions and is called like the
    letter of one. -/
def IsMistaken (dims : Nat) (name : List Char) : Prop :=
  (∃ e ∈ primitives, name = e.2.toList) ∨ dims = 0 ∧ ∃ e ∈ primitives, name = [e.1]

instance (dims : Nat) (name : List Char) : Decidable (IsMistaken dims name) :=
  inferInstanceAs (Decidable (_ ∨ _))

theorem dotted_of_primitive (e : Char × String) (he : e ∈ primitives) :
    dotted e.2.toList = e.2.toList ∧ dotted [e.1] = [e.1] := by
  have htable : ∀ e ∈ primitives, '/' ∉ e.2.toList ∧ '/' ∉ [e.1] := by decide +kernel
  rcases htable e he with ⟨hname, hletter⟩
  exact ⟨dotted_of_not_mem _ hname, dotted_of_not_mem _ hletter⟩

theorem not_recovers_of_isMistaken (dims : Nat) (name : List Char) (given : name ≠ [])
    (hmistaken : IsMistaken dims name) : ¬ Recovers (ofWritten dims (.ofClass name given)) := by
  intro hrecovers
  rw [Recovers, sourceName_ofClass] at hrecovers
  -- In both cases the text is read as a primitive type, whose descriptor is a letter.
  suffices hread : ∃ letter known, parse (String.ofList (dotted name) ++ brackets dims)
      = ofWritten dims (.primitive letter known) by
    rcases hread with ⟨letter, known, hread⟩
    have htext := (ofWritten_injective _ _ _ _ (hread.symm.trans hrecovers)).2
    simp [Base.text] at htext
  rcases hmistaken with ⟨e, he, rfl⟩ | ⟨rfl, e, he, rfl⟩
  · have hprimitive := recovers_primitive dims e.1 (List.mem_map_of_mem he)
    rw [Recovers, sourceName_ofWritten] at hprimitive
    refine ⟨e.1, List.mem_map_of_mem he, ?_⟩
    rw [(dotted_of_primitive e he).1, String.ofList_toList, ← sourceBase_letter e he]
    exact hprimitive
  · refine ⟨e.1, List.mem_map_of_mem he, ?_⟩
    rw [(dotted_of_primitive e he).2, brackets_zero, String.append_empty]
    exact parse_ofWritten 0 (.primitive e.1 (List.mem_map_of_mem he))

theorem recovers_of_not_isMistaken (dims : Nat) (name : List Char) (given : name ≠ [])
    (hbase : IsSourceBase (dotted name)) (hmark : (dotted name).head? ≠ some '?')
    (hdot : '.' ∉ name) (hmistaken : ¬ IsMistaken dims name) :
    Recovers (ofWritten dims (.ofClass name given)) := by
  -- The nine names and letters hold no dot, so a class name that becomes one of them is it.
  have htable : ∀ e ∈ primitives, '.' ∉ e.2.toList ∧ '.' ∉ [e.1] := by decide +kernel
  have hsingle : ¬ (dims = 0 ∧ ∃ e ∈ primitives, dotted name = [e.1]) := by
    rintro ⟨hdims, e, he, hletter⟩
    have hsame := eq_of_dotted_plain name (hletter ▸ (htable e he).2)
    exact hmistaken (Or.inr ⟨hdims, e, he, hsame ▸ hletter⟩)
  have hprimitive : primitiveLetter? (String.ofList (dotted name)) = none := by
    rw [primitiveLetter?_eq_none_iff]
    intro hmem
    rcases List.mem_map.1 hmem with ⟨e, he, hname⟩
    have hchars : dotted name = e.2.toList := by rw [hname, String.toList_ofList]
    have hsame := eq_of_dotted_plain name (hchars ▸ (htable e he).1)
    exact hmistaken (Or.inl ⟨e, he, hsame ▸ hchars⟩)
  have hmark' : ¬ ((dotted name).head? == some '?') = true := by simpa using hmark
  have hdescriptor : baseDescriptor? (dotted name) = some (Base.ofClass name given).text := by
    simp only [baseDescriptor?, hprimitive, if_neg hmark']
    exact congrArg (fun middle => some ('L' :: (middle ++ [';']))) (slashed_dotted name hdot)
  rw [Recovers, sourceName_ofClass]
  exact parse_source (dotted name) hbase dims (.ofClass name given) hdescriptor hsingle

theorem isSourceBase_dotted (name : List Char) (given : name ≠ [])
    (hplain : ∀ c ∈ name, c ∉ ['.', '[', ']', ';', ' ']) : IsSourceBase (dotted name) := by
  refine ⟨by simpa [dotted] using given, fun c hc => ?_⟩
  rcases List.mem_map.1 hc with ⟨x, hx, rfl⟩
  have hx' := hplain x hx
  by_cases hslash : x = '/'
  · simp [hslash, isForeign]
  · simp_all [isForeign]

theorem head?_dotted (name : List Char) (hmark : name.head? ≠ some '?') :
    (dotted name).head? ≠ some '?' := by
  cases name with
  | nil => simp [dotted]
  | cons c cs =>
      by_cases hslash : c = '/'
      · simp [dotted, hslash]
      · simpa [dotted, hslash] using hmark

/-- The name of a primitive type or of its arrays is read as the type again. So is that of a class
    or of its arrays, unless the class is called like a primitive type, or it is called like the
    letter of one and has no dimensions. -/
theorem recovers_exact (dims : Nat) :
    (∀ letter ∈ primitives.map Prod.fst,
      Recovers (ofDescriptor (String.ofList (List.replicate dims '[' ++ [letter])))) ∧
    ∀ name : List Char, name ≠ [] → name.head? ≠ some '?' →
      (∀ c ∈ name, c ∉ ['.', '[', ']', ';', ' ']) →
      (Recovers (ofDescriptor (String.ofList (List.replicate dims '[' ++ 'L' :: (name ++ [';'])))) ↔
        ¬ IsMistaken dims name) := by
  refine ⟨recovers_primitive dims, fun name given hmark hplain => ?_⟩
  constructor
  · intro hrecovers hmistaken
    exact not_recovers_of_isMistaken dims name given hmistaken hrecovers
  · have hdot : '.' ∉ name := fun hmem => hplain '.' hmem (by decide)
    exact recovers_of_not_isMistaken dims name given (isSourceBase_dotted name given hplain)
      (head?_dotted name hmark) hdot

/-- A class called like a letter is read back when it has dimensions, and not without; a class
    called like a primitive type is never read back. -/
theorem recovers_exact_samples :
    Recovers (ofDescriptor "[[V") ∧ Recovers (ofDescriptor "[La/B;") ∧
    Recovers (ofDescriptor "[LI;") ∧ ¬ Recovers (ofDescriptor "LI;") ∧
    ¬ Recovers (ofDescriptor "[Lint;") := by
  refine ⟨(recovers_exact 2).1 'V' (by decide), ?_, ?_, ?_, ?_⟩
  · exact ((recovers_exact 1).2 ['a', '/', 'B'] (by simp) (by simp) (by simp)).2
      (by decide +kernel)
  · exact ((recovers_exact 1).2 ['I'] (by simp) (by simp) (by simp)).2 (by decide +kernel)
  · exact fun h => ((recovers_exact 0).2 ['I'] (by simp) (by simp) (by simp)).1 h
      (by decide +kernel)
  · exact fun h => ((recovers_exact 1).2 ['i', 'n', 't'] (by simp) (by simp) (by simp)).1 h
      (by decide +kernel)

end TypeRef

end TaintSeed
