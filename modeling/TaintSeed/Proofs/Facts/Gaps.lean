import Mathlib.Logic.Function.Basic
import TaintSeed.Proofs.Facts.Triples

/-!
# Where Absent Elements Come From

Facts without a flow or without an element are a mistake of the caller, and
each way to fill a map looks for it on its own. Adding one fact checks the flow
and the element, adding a set checks the flow alone, and merging checks
nothing, since it takes its facts from another map.

Several maps are filled side by side here, and merged into each other or into
themselves. A history lists the calls, the last one first, and `Came` says
which elements have come into which map. None of its rules is about a missing
flow. One of them lets an absent element in: that of a set. An absent element
in a map can therefore be traced back to a set that was offered with it, even
when merges have carried it away from there, and without such a set every map
can be sorted and written.

With such a set it is otherwise: `run_holds_absent` is a single call after
which the map has an absent element and cannot be written.

## Main definitions

* `Facts.Call`: A call on one of several maps.
* `Facts.run`: The maps after a history of calls.
* `Facts.Brings`: What a call adds to its map.
* `Facts.Came`: What has come into a map along a history.

## Theorems

* `Facts.holds_act_iff`: A call adds what it brings, to its own map.
* `Facts.holds_run_iff`: The facts of a map are those that have come into it.
* `Facts.Came.absent_offered`: An absent element has come from a set.
* `Facts.isReportable_of_no_gap`: A map without absent elements can be written.
* `Facts.run_gap_exact`: Absent elements are recorded from sets and from nothing else.
* `Facts.run_holds_absent`: A map with an absent element, which cannot be written.
-/

namespace TaintSeed

namespace Facts

/-- A call on one of several maps, which are numbered. -/
inductive Call where
  | add (i : Nat) (p : ProgramPoint) (t : Option Flow) (e : Element)
  | addAll (i : Nat) (p : ProgramPoint) (t : Option Flow) (s : ElementSet)
  /-- The facts of the map `j` are added to the map `i`. -/
  | merge (i j : Nat)

/-- The map that a call changes. -/
def Call.target : Call → Nat
  | .add i _ _ _ => i
  | .addAll i _ _ _ => i
  | .merge i _ => i

/-- That map afterwards. A refused call leaves it as it is. -/
def Call.result (w : Nat → Facts) : Call → Facts
  | .add i p t e => ((w i).add p t e).1
  | .addAll i p t s => ((w i).addAll p t s).1
  | .merge i j => (w i).merge (w j)

/-- The maps after a call. -/
def Call.act (w : Nat → Facts) (x : Call) : Nat → Facts :=
  Function.update w x.target (x.result w)

/-- The maps after a history, the last call first. All of them are empty at the beginning. -/
def run : List Call → Nat → Facts
  | [] => fun _ => .empty
  | x :: before => x.act (run before)

/-- What a call adds to its map. -/
def Brings (w : Nat → Facts) (p : ProgramPoint) (t : Flow) (e : Element) : Call → Prop
  | .add _ q u a => p = q ∧ u = some t ∧ e = a ∧ e ≠ .absent
  | .addAll _ q u s => p = q ∧ u = some t ∧ e ∈ s
  | .merge _ j => (w j).Holds p t e

/-- What has come into a map along a history. -/
inductive Came : List Call → Nat → ProgramPoint → Flow → Element → Prop
  | add {before : List Call} {i : Nat} {p : ProgramPoint} {t : Flow} {e : Element}
      (there : e ≠ .absent) : Came (.add i p (some t) e :: before) i p t e
  | addAll {before : List Call} {i : Nat} {p : ProgramPoint} {t : Flow} {e : Element}
      {s : ElementSet} (among : e ∈ s) : Came (.addAll i p (some t) s :: before) i p t e
  | merge {before : List Call} {i j : Nat} {p : ProgramPoint} {t : Flow} {e : Element}
      (other : Came before j p t e) : Came (.merge i j :: before) i p t e
  | kept {before : List Call} {i : Nat} {p : ProgramPoint} {t : Flow} {e : Element} {x : Call}
      (earlier : Came before i p t e) : Came (x :: before) i p t e

/-! ## One call -/

theorem result_built (w : Nat → Facts) (hw : ∀ i, (w i).Built) (x : Call) :
    (x.result w).Built := by
  cases x with
  | add i p t e => exact .add p t e (hw i)
  | addAll i p t s => exact .addAll p t s (hw i)
  | merge i j => exact .merge (hw i) (hw j)

theorem holds_result_iff (w : Nat → Facts) (hw : ∀ i, (w i).Built) (x : Call)
    (p : ProgramPoint) (t : Flow) (e : Element) :
    (x.result w).Holds p t e ↔ (w x.target).Holds p t e ∨ Brings w p t e x := by
  cases x with
  | add i q u a =>
      cases u with
      | none => simp [Call.result, Call.target, Brings, add]
      | some u =>
          by_cases ha : a = .absent
          · -- The element is refused, and what is brought is never absent.
            subst ha
            simp [Call.result, Call.target, Brings, add]
          · have hmap : ((w i).add q (some u) a).1 = (w i).insertAll q u [a] := by
              simp [add, ha]
            simp only [Call.result, Call.target, Brings, hmap, holds_insertAll,
              List.mem_singleton, Option.some.injEq]
            grind
  | addAll i q u s =>
      cases u with
      | none => simp [Call.result, Call.target, Brings, addAll]
      | some u =>
          simp only [Call.result, Call.target, Brings, addAll, holds_record, Option.some.injEq]
          grind
  | merge i j =>
      rw [Call.result, ← mem_triples, triples_merge (w i) (w j) (built_proper _ (hw j))]
      exact Iff.rfl

/-- A call adds what it brings, to its own map and to no other. -/
theorem holds_act_iff (w : Nat → Facts) (hw : ∀ i, (w i).Built) (x : Call) (i : Nat)
    (p : ProgramPoint) (t : Flow) (e : Element) :
    (x.act w i).Holds p t e ↔ (w i).Holds p t e ∨ x.target = i ∧ Brings w p t e x := by
  unfold Call.act
  by_cases hi : i = x.target
  · subst hi
    rw [Function.update_self, holds_result_iff w hw]
    simp
  · rw [Function.update_of_ne hi]
    simp [Ne.symm hi]

/-! ## A history -/

theorem run_built (calls : List Call) : ∀ i, (run calls i).Built := by
  induction calls with
  | nil => exact fun _ => .empty
  | cons x before ih =>
      intro i
      rw [run, Call.act]
      by_cases hi : i = x.target
      · subst hi
        rw [Function.update_self]
        exact result_built _ ih x
      · rw [Function.update_of_ne hi]
        exact ih i

/-- The facts of a map are those that have come into it, by induction on the history. -/
theorem holds_run_iff (calls : List Call) (i : Nat) (p : ProgramPoint) (t : Flow) (e : Element) :
    (run calls i).Holds p t e ↔ Came calls i p t e := by
  induction calls generalizing i with
  | nil =>
      constructor
      · intro h
        exact absurd h (DistinctList.not_mem_empty e)
      · intro h
        cases h
  | cons x before ih =>
      rw [run, holds_act_iff _ (run_built before), ih]
      constructor
      · rintro (h | ⟨rfl, hb⟩)
        · exact .kept h
        · -- What a call brings is what its rule lets in.
          cases x with
          | add i q u a =>
              rcases hb with ⟨rfl, rfl, rfl, he⟩
              exact .add he
          | addAll i q u s =>
              rcases hb with ⟨rfl, rfl, he⟩
              exact .addAll he
          | merge i j => exact .merge ((ih j).1 hb)
      · intro h
        cases h with
        | add he => exact Or.inr ⟨rfl, rfl, rfl, rfl, he⟩
        | addAll he => exact Or.inr ⟨rfl, rfl, rfl, he⟩
        | merge h => exact Or.inr ⟨rfl, (ih _).2 h⟩
        | kept h => exact Or.inl h

/-- A call that is refused changes no map. -/
theorem act_eq_self (w : Nat → Facts) (x : Call) (h : x.result w = w x.target) : x.act w = w := by
  rw [Call.act, h, Function.update_eq_self]

/-! ## Absent elements -/

/-- An absent element has come from a set that was offered with it, at the same point and under
    the same flow. -/
theorem Came.absent_offered {calls : List Call} {i : Nat} {p : ProgramPoint} {t : Flow}
    (h : Came calls i p t .absent) :
    ∃ j s, Call.addAll j p (some t) s ∈ calls ∧ Element.absent ∈ s := by
  generalize he : Element.absent = e at h
  induction h with
  | add there => exact absurd he.symm there
  | addAll among => exact ⟨_, _, List.mem_cons_self, he ▸ among⟩
  | merge _ ih | kept _ ih =>
      rcases ih he with ⟨j, s, hs, hgap⟩
      exact ⟨j, s, List.mem_cons_of_mem _ hs, hgap⟩

/-- A map without absent elements can be written. -/
theorem isReportable_of_no_gap (f : Facts) (hf : f.Proper)
    (h : ∀ p t, ¬ f.Holds p t .absent) : f.isReportable = true := by
  unfold isReportable
  rw [List.all_eq_true]
  intro x hx
  rw [List.all_eq_true]
  intro y hy
  have hflows := (Table.get?_eq_some_iff f.table hf.nodup x.1 x.2).2 hx
  have hset := (Table.get?_eq_some_iff x.2 (hf.flows x.1 x.2 hflows).nodup y.1 y.2).2 hy
  have hgap : ElementSet.hasGap y.2 = false := by
    rw [ElementSet.hasGap, ← Bool.not_eq_true, DistinctList.contains_iff]
    intro hc
    exact h x.1 y.1 ((holds_iff f _ _ _).2 ⟨x.2, hflows, y.2, hset, hc⟩)
  simp [hgap]

/-- The facts of every map are those that have come into it, so an absent element is there when a
    set was offered with it, and only then. Without such a set no map has one, every map can be
    written, and none of the sorted sets has a gap. Calls that lack a flow, or the element alone,
    leave every map as it is. -/
theorem run_gap_exact (calls : List Call) :
    (∀ i p t e, (run calls i).Holds p t e ↔ Came calls i p t e) ∧
    (∀ i p t, Came calls i p t .absent →
      ∃ j s, Call.addAll j p (some t) s ∈ calls ∧ Element.absent ∈ s) ∧
    (∀ i p t s, Element.absent ∈ s →
      (run (.addAll i p (some t) s :: calls) i).Holds p t .absent) ∧
    ((∀ j p t s, Call.addAll j p (some t) s ∈ calls → Element.absent ∉ s) →
      ∀ i, (run calls i).isReportable = true ∧
        ∀ p t, Element.absent ∉ ElementSet.sorted ((run calls i).elementsAt p t)) ∧
    -- Refused calls.
    (∀ i p e, run (.add i p none e :: calls) = run calls) ∧
    (∀ i p s, run (.addAll i p none s :: calls) = run calls) ∧
    (∀ i p t, run (.add i p t .absent :: calls) = run calls) := by
  refine ⟨holds_run_iff calls, fun i p t => Came.absent_offered, ?_, ?_, ?_, ?_, ?_⟩
  · intro i p t s hs
    exact (holds_run_iff _ i p t _).2 (.addAll hs)
  · intro hno i
    have hgap : ∀ p t, ¬ (run calls i).Holds p t .absent := by
      intro p t h
      rcases ((holds_run_iff calls i p t _).1 h).absent_offered with ⟨j, s, hs, he⟩
      exact hno j p t s hs he
    refine ⟨isReportable_of_no_gap _ (built_proper _ (run_built calls i)) hgap, ?_⟩
    intro p t h
    exact hgap p t (List.mem_mergeSort.1 h)
  · exact fun i p e => act_eq_self _ _ rfl
  · exact fun i p s => act_eq_self _ _ rfl
  · intro i p t
    refine act_eq_self _ _ ?_
    cases t with
    | none => rfl
    | some t => simp [Call.result, Call.target, add]

/-- Two maps: one gets a set, is refused two facts and merges the other one, which has got a fact
    and then merges the first. -/
def crossed : List Call :=
  [.merge 1 0, .merge 0 1, .add 0 ⟨1, 0⟩ (some sampleFlow) .absent,
    .addAll 0 ⟨1, 0⟩ none (.ofList [.absent]), .add 1 ⟨1, 2⟩ (some sampleFlow) (.localValue 1 3),
    .addAll 0 ⟨1, 0⟩ (some sampleFlow) (.ofList [.localValue 1 2])]

/-- The set with an absent element is offered without a flow, so both maps can be written, and the
    last merge has brought the element of the first map to the second. -/
theorem run_gap_exact_crossed :
    (∀ j p t s, Call.addAll j p (some t) s ∈ crossed → Element.absent ∉ s) ∧
    (run crossed 0).isReportable = true ∧ (run crossed 1).isReportable = true ∧
    (run crossed 1).Holds ⟨1, 0⟩ sampleFlow (.localValue 1 2) ∧
    ¬ (run crossed 1).Holds ⟨1, 0⟩ sampleFlow .absent := by
  have hno : ∀ j p t s, Call.addAll j p (some t) s ∈ crossed → Element.absent ∉ s := by
    intro j p t s hs
    simp only [crossed, List.mem_cons, List.not_mem_nil, or_false, reduceCtorEq, false_or,
      Call.addAll.injEq, and_false, false_and] at hs
    rcases hs with ⟨_, _, _, rfl⟩
    decide
  rcases run_gap_exact crossed with ⟨hcame, hfrom, _, hfree, _, _, _⟩
  have hvalue : Came crossed 1 ⟨1, 0⟩ sampleFlow (.localValue 1 2) :=
    .merge (.kept (.kept (.kept (.kept (.addAll (by decide))))))
  refine ⟨hno, (hfree hno 0).1, (hfree hno 1).1, (hcame 1 _ _ _).2 hvalue, ?_⟩
  intro h
  rcases hfrom 1 _ _ ((hcame 1 _ _ _).1 h) with ⟨j, s, hs, hgap⟩
  exact hno j _ _ s hs hgap

/-- A set with an absent element is recorded when it has a flow, and then the map has that element
    and cannot be written. -/
theorem run_holds_absent :
    (run [.addAll 0 ⟨1, 0⟩ (some sampleFlow) (.ofList [.localValue 1 2, .absent])] 0).Holds
      ⟨1, 0⟩ sampleFlow .absent ∧
    (run [.addAll 0 ⟨1, 0⟩ (some sampleFlow)
      (.ofList [.localValue 1 2, .absent])] 0).isReportable = false :=
  ⟨(holds_run_iff _ 0 _ _ _).2 (.addAll (by decide)), by decide⟩

end Facts

end TaintSeed
