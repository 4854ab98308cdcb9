import Mathlib.Data.List.Infix
import TaintSeed.GoProgram.Classes

/-!
# The Walk Through Types Ends

The classes of a Go program are collected by walking from types to the types of
their fields. Types may be recursive in any way, as long as the recursion goes
through declared types, so the walk cannot be bounded by the structure of a type
alone. It ends because a class is listed before its fields are walked through: a
structure that is met again is passed over.

`Meets` is the walk without a bound. The walk of the library carries one, and
`meet_meets` says that it is never reached. What decreases from a structure to
its fields is the number of types that still lead to a class which is not
listed, counted among all the types that can be met. These are the parts of the
type where the walk starts and of the declared types, and `parts_subset` is the
reason why they are enough: a field of a structure is a part of whatever the
structure is a part of.

## Main definitions

* `GoType.parts`: The types that a type is made of.
* `Declarations.Meets`: The walk through types, without a bound.
* `Declarations.Closed`: The walk does not lead out of some types.
* `Declarations.unlisted`: How many types lead to classes that are not listed.

## Theorems

* `GoType.length_parts`, `GoType.parts_subset`: How many parts there are, and their parts.
* `Declarations.Meets.isPrefix`: The walk only adds classes.
* `Declarations.unlisted_lt`: There are fewer such types when one more class is listed.
* `Declarations.meet_meets`: The bound of the walk is never reached.
* `Declarations.classes_meets`: The classes of types are those that the walk collects.
-/

namespace TaintSeed

namespace GoProgram

/-! ## The parts of a type -/

mutual

/-- A type with all the types that it is made of. -/
def GoType.parts : GoType → List GoType
  | .basic name => [.basic name]
  | .named package name => [.named package name]
  | .typeParam function name => [.typeParam function name]
  | .pointer elem => .pointer elem :: elem.parts
  | .slice elem => .slice elem :: elem.parts
  | .array length elem => .array length elem :: elem.parts
  | .map key value => .map key value :: (key.parts ++ value.parts)
  | .chan elem => .chan elem :: elem.parts
  | .func params results => .func params results :: (params.parts ++ results.parts)
  | .struct package fields => .struct package fields :: fields.parts
  | .interface package methods => .interface package methods :: methods.parts

/-- The types that members are made of. -/
def Members.parts : Members → List GoType
  | .nil => []
  | .cons _ type rest => type.parts ++ rest.parts

end

mutual

theorem GoType.length_parts : ∀ t : GoType, t.parts.length = t.size
  | .basic _ => rfl
  | .named _ _ => rfl
  | .typeParam _ _ => rfl
  | .pointer elem => by simp [GoType.parts, GoType.size, GoType.length_parts elem]
  | .slice elem => by simp [GoType.parts, GoType.size, GoType.length_parts elem]
  | .array _ elem => by simp [GoType.parts, GoType.size, GoType.length_parts elem]
  | .map key value => by
      simp [GoType.parts, GoType.size, GoType.length_parts key, GoType.length_parts value]
  | .chan elem => by simp [GoType.parts, GoType.size, GoType.length_parts elem]
  | .func params results => by
      simp [GoType.parts, GoType.size, Members.length_parts params, Members.length_parts results]
  | .struct _ fields => by simp [GoType.parts, GoType.size, Members.length_parts fields]
  | .interface _ methods => by simp [GoType.parts, GoType.size, Members.length_parts methods]

theorem Members.length_parts : ∀ ms : Members, ms.parts.length = ms.size
  | .nil => rfl
  | .cons _ type rest => by
      simp [Members.parts, Members.size, GoType.length_parts type, Members.length_parts rest]

end

theorem GoType.mem_parts_self (t : GoType) : t ∈ t.parts := by
  cases t <;> exact List.mem_cons_self

theorem Members.mem_parts {f : GoType} : ∀ ms : Members, f ∈ ms.types → f ∈ ms.parts
  | .nil, hf => absurd hf List.not_mem_nil
  | .cons _ type rest, hf => by
      rcases List.mem_cons.1 hf with rfl | hf
      · exact List.mem_append_left _ (GoType.mem_parts_self _)
      · exact List.mem_append_right _ (Members.mem_parts rest hf)

-- The parts of a part of a list of parts, if the list is that of one thing or of two.
theorem parts_subset_cons {x t : GoType} {ps : List GoType} (ht : t.parts = t :: ps)
    (hps : x ∈ ps → x.parts ⊆ ps) (hx : x ∈ t.parts) : x.parts ⊆ t.parts := by
  rw [ht, List.mem_cons] at hx
  rcases hx with rfl | hx
  · exact List.Subset.refl _
  · rw [ht]
    exact List.subset_cons_of_subset t (hps hx)

theorem parts_subset_append {x : GoType} {ps qs : List GoType} (hps : x ∈ ps → x.parts ⊆ ps)
    (hqs : x ∈ qs → x.parts ⊆ qs) (hx : x ∈ ps ++ qs) : x.parts ⊆ ps ++ qs := by
  rcases List.mem_append.1 hx with hx | hx
  · exact List.subset_append_of_subset_left qs (hps hx)
  · exact List.subset_append_of_subset_right ps (hqs hx)

mutual

/-- The parts of a part are parts. -/
theorem GoType.parts_subset (x : GoType) : ∀ t : GoType, x ∈ t.parts → x.parts ⊆ t.parts
  | .basic _, hx => parts_subset_cons rfl (fun h => absurd h List.not_mem_nil) hx
  | .named _ _, hx => parts_subset_cons rfl (fun h => absurd h List.not_mem_nil) hx
  | .typeParam _ _, hx => parts_subset_cons rfl (fun h => absurd h List.not_mem_nil) hx
  | .pointer elem, hx => parts_subset_cons rfl (GoType.parts_subset x elem) hx
  | .slice elem, hx => parts_subset_cons rfl (GoType.parts_subset x elem) hx
  | .array _ elem, hx => parts_subset_cons rfl (GoType.parts_subset x elem) hx
  | .map key value, hx =>
      parts_subset_cons rfl
        (parts_subset_append (GoType.parts_subset x key) (GoType.parts_subset x value)) hx
  | .chan elem, hx => parts_subset_cons rfl (GoType.parts_subset x elem) hx
  | .func params results, hx =>
      parts_subset_cons rfl
        (parts_subset_append (Members.parts_subset x params) (Members.parts_subset x results)) hx
  | .struct _ fields, hx => parts_subset_cons rfl (Members.parts_subset x fields) hx
  | .interface _ methods, hx => parts_subset_cons rfl (Members.parts_subset x methods) hx

theorem Members.parts_subset (x : GoType) : ∀ ms : Members, x ∈ ms.parts → x.parts ⊆ ms.parts
  | .nil, hx => absurd hx List.not_mem_nil
  | .cons _ type rest, hx =>
      parts_subset_append (GoType.parts_subset x type) (Members.parts_subset x rest) hx

end

namespace Declarations

/-! ## The walk -/

theorem isListed_iff (classes : List ClassDecl) (name : String) :
    isListed classes name = true ↔ ∃ c ∈ classes, c.name = name := by
  simp [isListed]

theorem isListed_of_isPrefix {classes classes' : List ClassDecl} (h : classes <+: classes')
    {name : String} (hlisted : isListed classes name = true) : isListed classes' name = true := by
  rw [isListed_iff] at hlisted ⊢
  rcases hlisted with ⟨c, hc, hname⟩
  exact ⟨c, h.subset hc, hname⟩

/-- The walk through some types one after the other, which begins with some classes listed and ends
    with others. -/
inductive Meets (d : Declarations) : List ClassDecl → List GoType → List ClassDecl → Prop
  /-- No type is left. -/
  | done {classes : List ClassDecl} : Meets d classes [] classes
  /-- The next type leads to no class. -/
  | plain {classes after : List ClassDecl} {t : GoType} {ts : List GoType}
      (none : d.object? t = none) (rest : Meets d classes ts after) : Meets d classes (t :: ts) after
  /-- The next type leads to a class that is listed. -/
  | known {classes after : List ClassDecl} {t : GoType} {ts : List GoType} {o : Object}
      (some : d.object? t = some o) (listed : isListed classes o.name = true)
      (rest : Meets d classes ts after) : Meets d classes (t :: ts) after
  /-- The next type leads to a class that is not. It is listed, and then the types of its fields are
      walked through before the types that are left. -/
  | new {classes between after : List ClassDecl} {t : GoType} {ts : List GoType} {o : Object}
      (some : d.object? t = some o) (unlisted : isListed classes o.name = false)
      (fields : Meets d (classes ++ [d.classOf o]) o.fields.types between)
      (rest : Meets d between ts after) : Meets d classes (t :: ts) after

namespace Meets

variable {d : Declarations} {classes between after : List ClassDecl} {t : GoType}
  {ts : List GoType}

/-- The walk only adds classes, behind those that are listed. -/
theorem isPrefix (h : d.Meets classes ts after) : classes <+: after := by
  induction h with
  | done => exact List.prefix_rfl
  | plain _ _ ih => exact ih
  | known _ _ _ ih => exact ih
  | new _ _ _ _ ihFields ih => exact ((List.prefix_append _ _).trans ihFields).trans ih

-- One type, then the others.
theorem cons (h : d.Meets classes [t] between) (hrest : d.Meets between ts after) :
    d.Meets classes (t :: ts) after := by
  cases h with
  | plain none rest =>
      cases rest
      exact .plain none hrest
  | known some listed rest =>
      cases rest
      exact .known some listed hrest
  | new some unlisted fields rest =>
      cases rest
      exact .new some unlisted fields hrest

/-- If each step is a walk through one type, all of them are a walk through all types. The steps may
    rely on something that stays true when classes are added. -/
theorem foldl (P : List ClassDecl → Prop)
    (hgrow : ∀ classes classes', classes <+: classes' → P classes → P classes')
    (step : List ClassDecl → GoType → List ClassDecl) (ts : List GoType)
    (hstep : ∀ t ∈ ts, ∀ classes, P classes → d.Meets classes [t] (step classes t))
    (classes : List ClassDecl) (h : P classes) : d.Meets classes ts (ts.foldl step classes) := by
  induction ts generalizing classes with
  | nil => exact .done
  | cons t ts ih =>
      have hfirst := hstep t List.mem_cons_self classes h
      refine hfirst.cons (ih (fun u hu => hstep u (List.mem_cons_of_mem t hu)) _ ?_)
      exact hgrow _ _ hfirst.isPrefix h

end Meets

/-! ## The bound -/

/-- The walk does not lead from the types of a list to others. -/
def Closed (d : Declarations) (types : List GoType) : Prop :=
  ∀ t ∈ types, ∀ o, d.object? t = some o → ∀ f ∈ o.fields.types, f ∈ types

/-- How many types of a list lead to a class that is not listed. -/
def unlisted (d : Declarations) (types : List GoType) (classes : List ClassDecl) : Nat :=
  (types.filter (fun t => (d.object? t).any (fun o => !isListed classes o.name))).length

theorem unlisted_of_isPrefix (d : Declarations) {classes classes' : List ClassDecl}
    (h : classes <+: classes') (t : GoType)
    (ht : (d.object? t).any (fun o => !isListed classes' o.name) = true) :
    (d.object? t).any (fun o => !isListed classes o.name) = true := by
  rcases (Option.any_eq_true _ _).1 ht with ⟨o, ho, hlisted⟩
  refine (Option.any_eq_true _ _).2 ⟨o, ho, ?_⟩
  rw [Bool.not_eq_true'] at hlisted ⊢
  refine Bool.eq_false_iff.2 (fun hc => ?_)
  rw [isListed_of_isPrefix h hc] at hlisted
  cases hlisted

theorem unlisted_le (d : Declarations) (types : List GoType) {classes classes' : List ClassDecl}
    (h : classes <+: classes') : d.unlisted types classes' ≤ d.unlisted types classes :=
  (List.monotone_filter_right types (d.unlisted_of_isPrefix h)).length_le

theorem unlisted_lt (d : Declarations) {types : List GoType} {classes : List ClassDecl} {t : GoType}
    {o : Object} (ht : t ∈ types) (ho : d.object? t = some o)
    (hlisted : isListed classes o.name = false) :
    d.unlisted types (classes ++ [d.classOf o]) < d.unlisted types classes := by
  refine lt_of_le_of_ne (d.unlisted_le types (List.prefix_append _ _)) (fun heq => ?_)
  -- If the numbers were the same, the type would be among those that are left.
  have hsub := List.monotone_filter_right types
    (unlisted_of_isPrefix d (List.prefix_append classes [d.classOf o]))
  have hmem : t ∈ types.filter (fun t => (d.object? t).any (fun o => !isListed classes o.name)) := by
    rw [List.mem_filter]
    exact ⟨ht, (Option.any_eq_true _ _).2 ⟨o, ho, by rw [hlisted]; rfl⟩⟩
  rw [← hsub.eq_of_length heq, List.mem_filter] at hmem
  rcases (Option.any_eq_true _ _).1 hmem.2 with ⟨o', ho', hlisted'⟩
  obtain rfl : o = o' := Option.some.inj (ho.symm.trans ho')
  simp [isListed, classOf] at hlisted'

/-- The bound is never reached if it is above the number of types that lead to a class which is not
    listed yet. -/
theorem meet_meets (d : Declarations) {types : List GoType} (hclosed : d.Closed types) (fuel : Nat) :
    ∀ t ∈ types, ∀ classes, d.unlisted types classes < fuel →
      d.Meets classes [t] (d.meet fuel classes t) := by
  induction fuel with
  | zero => exact fun _ _ _ hfuel => absurd hfuel (Nat.not_lt_zero _)
  | succ fuel ih =>
      intro t ht classes hfuel
      rw [meet]
      split
      case h_1 hnone => exact .plain hnone .done
      case h_2 o ho =>
        split
        case isTrue hlisted => exact .known ho hlisted .done
        case isFalse hlisted =>
          -- Listing the class is what pays for the step to its fields.
          have hlisted := Bool.eq_false_iff.2 hlisted
          have hless := d.unlisted_lt ht ho hlisted
          refine .new ho hlisted (Meets.foldl (fun classes => d.unlisted types classes < fuel)
            (fun _ _ hgrow h => lt_of_le_of_lt (d.unlisted_le types hgrow) h) (d.meet fuel)
            o.fields.types (fun f hf => ih f (hclosed t ht o ho f hf)) _ (by omega)) .done

/-! ## The types that can be met -/

/-- The parts of a type and of all that is declared. -/
def within (d : Declarations) (t : GoType) : List GoType :=
  t.parts ++ (d.decls ++ builtin).flatMap (fun c => c.type.parts)

theorem length_within_lt (d : Declarations) (t : GoType) : (d.within t).length < d.depth t := by
  have hdecls : ∀ decls : List TypeDecl, (decls.flatMap (fun c => c.type.parts)).length ≤
      (decls.map (fun c => c.type.size + 1)).foldr (· + ·) 0 := by
    intro decls
    induction decls with
    | nil => exact Nat.le_refl 0
    | cons c decls ih =>
        rw [List.flatMap_cons, List.length_append, GoType.length_parts, List.map_cons,
          List.foldr_cons]
        omega
  have hle := hdecls (d.decls ++ builtin)
  rw [within, depth, List.length_append, GoType.length_parts]
  omega

theorem parts_subset_within (d : Declarations) {x t : GoType} (hx : x ∈ d.within t) :
    x.parts ⊆ d.within t := by
  refine parts_subset_append (GoType.parts_subset x t) (fun hx => ?_) hx
  rcases List.mem_flatMap.1 hx with ⟨c, hc, hx⟩
  exact fun y hy => List.mem_flatMap.2 ⟨c, hc, GoType.parts_subset x c.type hx hy⟩

theorem mem_within_of_find? (d : Declarations) {package name : String} {u : GoType} (t : GoType)
    (h : d.find? package name = some u) : u ∈ d.within t := by
  rcases Option.map_eq_some_iff.1 h with ⟨c, hc, rfl⟩
  refine List.mem_append_right _ (List.mem_flatMap.2 ⟨c, ?_, GoType.mem_parts_self _⟩)
  exact List.mem_of_find?_eq_some hc

theorem follow_mem_within (d : Declarations) (t : GoType) (fuel : Nat) (x : GoType)
    (hx : x ∈ d.within t) : d.follow fuel x ∈ d.within t := by
  induction fuel generalizing x with
  | zero => exact hx
  | succ fuel ih =>
      cases x <;> try exact hx
      case named package name =>
        rw [follow]
        cases hfind : d.find? package name with
        | none => exact hx
        | some u => exact ih u (d.mem_within_of_find? t hfind)

theorem underlying_mem_within (d : Declarations) {x t : GoType} (hx : x ∈ d.within t) :
    d.underlying x ∈ d.within t :=
  d.follow_mem_within t _ x hx

-- What the structure of a type has as its fields is part of what the type stands for.
theorem mem_parts_of_direct? (d : Declarations) {t f : GoType} {o : Object}
    (h : d.direct? t = some o) (hf : f ∈ o.fields.types) : f ∈ (d.underlying t).parts := by
  rw [direct?] at h
  split at h
  case h_1 package fields hunder =>
    cases h
    rw [hunder]
    exact List.mem_cons_of_mem _ (Members.mem_parts fields hf)
  case h_2 =>
    cases h
    exact absurd hf List.not_mem_nil
  case h_3 => cases h

theorem closed_within (d : Declarations) (t : GoType) : d.Closed (d.within t) := by
  have hdirect : ∀ x ∈ d.within t, ∀ o, d.direct? x = some o → ∀ f ∈ o.fields.types,
      f ∈ d.within t := fun x hx o ho f hf =>
    d.parts_subset_within (d.underlying_mem_within hx) (d.mem_parts_of_direct? ho hf)
  intro x hx o ho
  rw [object?] at ho
  split at ho
  case h_1 elem hunder =>
    refine hdirect elem (d.parts_subset_within (d.underlying_mem_within hx) ?_) o ho
    rw [hunder]
    exact List.mem_cons_of_mem _ (GoType.mem_parts_self elem)
  case h_2 => exact hdirect x hx o ho

/-- The classes of types are those that the walk collects, which always ends. -/
theorem classes_meets (d : Declarations) (types : List GoType) :
    d.Meets [] types (d.classes types) := by
  refine Meets.foldl (fun _ => True) (fun _ _ _ _ => trivial)
    (fun classes t => d.meet (d.depth t) classes t) types (fun t _ classes _ => ?_) [] trivial
  refine d.meet_meets (d.closed_within t) (d.depth t) t ?_ classes ?_
  · exact List.mem_append_left _ (GoType.mem_parts_self t)
  · exact lt_of_le_of_lt (List.length_filter_le _ _) (d.length_within_lt t)

end Declarations

end GoProgram

end TaintSeed
