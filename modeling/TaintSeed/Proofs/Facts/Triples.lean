import Mathlib.Data.Prod.Lex
import Mathlib.Data.Set.Card
import TaintSeed.Proofs.Collection.Table
import TaintSeed.Proofs.Facts

/-!
# The Set Behind a Map of Facts

Every question about a map of facts is a question about its set of triples:
how many facts there are, at which points, under which flows, and whether two
maps hold the same. The map answers them from its tables, by counting entries
and listing keys, and the answers are right only as long as nothing empty is
stored. A point without a flow would be listed although nothing is tainted
there, and two maps with the same facts could differ in it.

`Proper` is that condition, together with the fact that no table lists a key
twice. Recording a set keeps it because the empty set is not recorded, and a
refused call keeps it because it is refused before anything is touched.
`Built` are the maps that calls lead to, and `built_proper` is the induction
along the calls. Everything after it is about proper maps.

Merging goes through two tables; `merge_eq` flattens it into one list of sets
that are recorded one after the other.

## Main definitions

* `Facts.triples`: The set that a map stands for.
* `Facts.Built`: The map arises from the empty one by calls.
* `Facts.Proper`: No table lists a key twice or holds anything empty.

## Theorems

* `Facts.built_proper`: Every map that was built is proper.
* `Facts.triples_merge`: Merging gives the union.
* `Facts.ncard_triples`: The size is the number of triples.
* `Facts.mem_points_iff`, `Facts.mem_flowsAt_iff`: The points and flows that are listed.
* `Facts.same_iff`: Two maps are the same when their sets are.
* `Facts.built_exact`: Calls on a map are operations on its set.
-/

namespace TaintSeed

/-! ## The order of points -/

namespace ProgramPoint

/-- The node and the block of a point, in the order that compares the nodes first. -/
def position (p : ProgramPoint) : ℤ ×ₗ ℤ := toLex (p.node, p.block)

theorem position_injective : Function.Injective position := by
  rintro ⟨n, b⟩ ⟨n', b'⟩ h
  cases toLex.injective h
  rfl

theorem precedes_iff (p q : ProgramPoint) :
    p.precedes q = true ↔ p.position < q.position := by
  unfold precedes position
  rw [Prod.Lex.toLex_lt_toLex]
  by_cases hnode : p.node = q.node
  · simp [hnode]
  · simp [hnode]

theorem not_precedes_iff (p q : ProgramPoint) :
    (!q.precedes p) = true ↔ p.position ≤ q.position := by
  rw [Bool.not_eq_true', ← Bool.not_eq_true, precedes_iff, not_lt]

end ProgramPoint

namespace Facts

/-- The set of triples that a map of facts stands for. -/
def triples (f : Facts) : Set (ProgramPoint × Flow × Element) := {x | f.Holds x.1 x.2.1 x.2.2}

@[simp] theorem mem_triples (f : Facts) (p : ProgramPoint) (t : Flow) (e : Element) :
    (p, t, e) ∈ f.triples ↔ f.Holds p t e := Iff.rfl

/-- The map arises from the empty one by calls, of which some may be refused. -/
inductive Built : Facts → Prop
  /-- The map without facts. -/
  | empty : Built .empty
  /-- A fact is offered. -/
  | add {f : Facts} (p : ProgramPoint) (t : Option Flow) (e : Element) (built : Built f) :
      Built (f.add p t e).1
  /-- A set of elements is offered. -/
  | addAll {f : Facts} (p : ProgramPoint) (t : Option Flow) (s : ElementSet) (built : Built f) :
      Built (f.addAll p t s).1
  /-- All the facts of another map are added. -/
  | merge {f g : Facts} (built : Built f) (other : Built g) : Built (f.merge g)

/-! ## Nothing empty is stored -/

/-- The flows of a point: no flow twice, at least one, and each taints something. -/
structure ProperFlows (flows : Table Flow ElementSet) : Prop where
  nodup : flows.keys.Nodup
  inhabited : ∃ t, t ∈ flows.keys
  tainted : ∀ t s, flows.get? t = some s → ∃ e, e ∈ s

/-- No table of the map lists a key twice, and none holds anything empty. -/
structure Proper (f : Facts) : Prop where
  nodup : f.table.keys.Nodup
  flows : ∀ p flows, f.table.get? p = some flows → ProperFlows flows

theorem empty_proper : Facts.empty.Proper :=
  ⟨List.nodup_nil, fun p flows h => by rw [empty, Table.get?_empty] at h; cases h⟩

theorem modify_properFlows (flows : Table Flow ElementSet) (hn : flows.keys.Nodup)
    (htainted : ∀ t s, flows.get? t = some s → ∃ e, e ∈ s) (t : Flow) (es : List Element)
    (hes : es ≠ []) : ProperFlows (flows.modify t ∅ (fun s => s.insertAll es)) where
  nodup := Table.nodup_keys_modify flows t _ _ hn
  inhabited := ⟨t, (Table.mem_keys_modify flows t t _ _).2 (Or.inr rfl)⟩
  tainted := by
    intro u s hs
    rw [Table.get?_modify] at hs
    split at hs
    · -- The set that was changed has the new elements.
      rcases List.exists_mem_of_ne_nil es hes with ⟨e, he⟩
      rw [Option.some.injEq] at hs
      exact ⟨e, hs ▸ DistinctList.mem_insertAll.2 (Or.inr he)⟩
    · exact htainted u s hs

theorem insertAll_proper (f : Facts) (p : ProgramPoint) (t : Flow) (es : List Element)
    (hes : es ≠ []) (hf : f.Proper) : (f.insertAll p t es).Proper where
  nodup := Table.nodup_keys_modify f.table p _ _ hf.nodup
  flows := by
    intro q flows hflows
    rw [insertAll, Table.get?_modify] at hflows
    split at hflows
    · rw [Option.some.injEq] at hflows
      rw [← hflows]
      cases hold : f.table.get? p with
      | none =>
          refine modify_properFlows ∅ List.nodup_nil ?_ t es hes
          intro u s hs
          rw [Table.get?_empty] at hs
          cases hs
      | some old =>
          have hproper := hf.flows p old hold
          exact modify_properFlows old hproper.nodup hproper.tainted t es hes
    · exact hf.flows q flows hflows

/-- The empty set is not recorded, so no empty set is stored. -/
theorem record_proper (f : Facts) (p : ProgramPoint) (t : Flow) (s : ElementSet)
    (hf : f.Proper) : (f.record p t s).Proper := by
  unfold record
  split
  · exact hf
  · rename_i hempty
    have hne : s.toList ≠ [] := fun hc => hempty (List.isEmpty_iff.2 hc)
    exact insertAll_proper f p t s.toList hne hf

/-- Merging records the sets of the other map one after the other. -/
theorem merge_eq (f g : Facts) :
    f.merge g = (g.table.rows (fun flows => flows.entries)).foldl
      (fun f x => f.record x.1 x.2.1 x.2.2) f := by
  unfold merge Table.rows
  rw [List.foldl_flatMap]
  simp only [List.foldl_map]

theorem foldl_record_proper (xs : List (ProgramPoint × Flow × ElementSet)) (f : Facts)
    (hf : f.Proper) : (xs.foldl (fun f x => f.record x.1 x.2.1 x.2.2) f).Proper := by
  induction xs generalizing f with
  | nil => exact hf
  | cons x xs ih => exact ih _ (record_proper f x.1 x.2.1 x.2.2 hf)

theorem add_proper (f : Facts) (p : ProgramPoint) (t : Option Flow) (e : Element)
    (hf : f.Proper) : (f.add p t e).1.Proper := by
  unfold add
  split
  · exact hf
  · split
    · exact hf
    · exact insertAll_proper f p _ [e] (List.cons_ne_nil e []) hf

theorem addAll_proper (f : Facts) (p : ProgramPoint) (t : Option Flow) (s : ElementSet)
    (hf : f.Proper) : (f.addAll p t s).1.Proper := by
  unfold addAll
  split
  · exact hf
  · exact record_proper f p _ s hf

/-- Every map that was built is proper, by induction on the calls. -/
theorem built_proper (f : Facts) (hf : f.Built) : f.Proper := by
  induction hf with
  | empty => exact empty_proper
  | add p t e _ ih => exact add_proper _ p t e ih
  | addAll p t s _ ih => exact addAll_proper _ p t s ih
  | merge _ _ ih _ =>
      rw [merge_eq]
      exact foldl_record_proper _ _ ih

/-! ## What the tables say -/

/-- A fact is in the map when its point has a table, its flow a set there, and its element is in
    that set. -/
theorem holds_iff (f : Facts) (p : ProgramPoint) (t : Flow) (e : Element) :
    f.Holds p t e ↔
      ∃ flows, f.table.get? p = some flows ∧ ∃ s, flows.get? t = some s ∧ e ∈ s := by
  unfold Holds elementsAt
  cases f.table.get? p with
  | none => simp
  | some flows =>
      cases hs : flows.get? t with
      | none => simp [hs]
      | some s => simp [hs]

/-- In a proper map the points of the table are those with a fact. -/
theorem Proper.mem_keys_iff {f : Facts} (hf : f.Proper) (p : ProgramPoint) :
    p ∈ f.table.keys ↔ ∃ t e, f.Holds p t e := by
  rw [Table.mem_keys_iff]
  constructor
  · rintro ⟨flows, hflows⟩
    have hproper := hf.flows p flows hflows
    rcases hproper.inhabited with ⟨t, ht⟩
    rcases (Table.mem_keys_iff flows t).1 ht with ⟨s, hs⟩
    rcases hproper.tainted t s hs with ⟨e, he⟩
    exact ⟨t, e, (holds_iff f p t e).2 ⟨flows, hflows, s, hs, he⟩⟩
  · rintro ⟨t, e, h⟩
    rcases (holds_iff f p t e).1 h with ⟨flows, hflows, _⟩
    exact ⟨flows, hflows⟩

/-- In a proper map the flows of a point are those that taint something there. -/
theorem Proper.mem_flows_iff {f : Facts} (hf : f.Proper) (p : ProgramPoint)
    (flows : Table Flow ElementSet) (hflows : f.table.get? p = some flows) (t : Flow) :
    t ∈ flows.keys ↔ ∃ e, f.Holds p t e := by
  rw [Table.mem_keys_iff]
  constructor
  · rintro ⟨s, hs⟩
    rcases (hf.flows p flows hflows).tainted t s hs with ⟨e, he⟩
    exact ⟨e, (holds_iff f p t e).2 ⟨flows, hflows, s, hs, he⟩⟩
  · rintro ⟨e, h⟩
    rcases (holds_iff f p t e).1 h with ⟨flows', hflows', s, hs, _⟩
    rw [hflows, Option.some.injEq] at hflows'
    exact ⟨s, hflows' ▸ hs⟩

/-! ## The calls -/

theorem holds_foldl_record (xs : List (ProgramPoint × Flow × ElementSet)) (f : Facts)
    (p : ProgramPoint) (t : Flow) (e : Element) :
    (xs.foldl (fun f x => f.record x.1 x.2.1 x.2.2) f).Holds p t e ↔
      f.Holds p t e ∨ ∃ s, (p, t, s) ∈ xs ∧ e ∈ s := by
  induction xs generalizing f with
  | nil => simp
  | cons x xs ih =>
      rcases x with ⟨q, u, s⟩
      rw [List.foldl_cons, ih, holds_record]
      constructor
      · rintro ((h | ⟨rfl, rfl, he⟩) | ⟨s', hs', he⟩)
        · exact Or.inl h
        · exact Or.inr ⟨s, List.mem_cons_self, he⟩
        · exact Or.inr ⟨s', List.mem_cons_of_mem _ hs', he⟩
      · rintro (h | ⟨s', hs', he⟩)
        · exact Or.inl (Or.inl h)
        · rcases List.mem_cons.1 hs' with heq | hs'
          · cases heq
            exact Or.inl (Or.inr ⟨rfl, rfl, he⟩)
          · exact Or.inr ⟨s', hs', he⟩

/-- Merging gives the union of the two sets. -/
theorem triples_merge (f g : Facts) (hg : g.Proper) :
    (f.merge g).triples = f.triples ∪ g.triples := by
  ext ⟨p, t, e⟩
  rw [Set.mem_union, mem_triples, mem_triples, mem_triples, merge_eq, holds_foldl_record,
    holds_iff g]
  refine or_congr Iff.rfl ?_
  constructor
  · rintro ⟨s, hrow, he⟩
    rcases (Table.mem_rows g.table _ hg.nodup p (t, s)).1 hrow with ⟨flows, hflows, hs⟩
    have hn := (hg.flows p flows hflows).nodup
    exact ⟨flows, hflows, s, (Table.get?_eq_some_iff flows hn t s).2 hs, he⟩
  · rintro ⟨flows, hflows, s, hs, he⟩
    have hn := (hg.flows p flows hflows).nodup
    exact ⟨s, (Table.mem_rows g.table _ hg.nodup p (t, s)).2
      ⟨flows, hflows, (Table.get?_eq_some_iff flows hn t s).1 hs⟩, he⟩

theorem triples_add (f : Facts) (p : ProgramPoint) (t : Flow) (e : Element) (he : e ≠ .absent) :
    (f.add p (some t) e).1.triples = insert (p, t, e) f.triples := by
  ext ⟨q, u, a⟩
  have hmap : (f.add p (some t) e).1 = f.insertAll p t [e] := by simp [add, he]
  rw [hmap, mem_triples, holds_insertAll, Set.mem_insert_iff, mem_triples, Prod.mk.injEq,
    Prod.mk.injEq, List.mem_singleton]
  exact or_comm

/-- Adding a fact tells whether it was absent. -/
theorem add_answer (f : Facts) (p : ProgramPoint) (t : Flow) (e : Element) (he : e ≠ .absent) :
    ∃ isNew, (f.add p (some t) e).2 = .ok isNew ∧ (isNew = true ↔ (p, t, e) ∉ f.triples) := by
  refine ⟨!(f.elementsAt p t).contains e, by simp [add, he], ?_⟩
  rw [Bool.not_eq_true', ← Bool.not_eq_true, DistinctList.contains_iff]
  exact Iff.rfl

theorem triples_addAll (f : Facts) (p : ProgramPoint) (t : Flow) (s : ElementSet) :
    (f.addAll p (some t) s).1.triples = f.triples ∪ {x | ∃ e ∈ s, x = (p, t, e)} := by
  ext ⟨q, u, a⟩
  rw [addAll, mem_triples, holds_record, Set.mem_union, mem_triples, Set.mem_ofPred_eq]
  refine or_congr Iff.rfl ?_
  constructor
  · rintro ⟨rfl, rfl, ha⟩
    exact ⟨a, ha, rfl⟩
  · rintro ⟨e, he, heq⟩
    cases heq
    exact ⟨rfl, rfl, he⟩

/-- Adding a set tells how many triples are new. -/
theorem addAll_answer (f : Facts) (p : ProgramPoint) (t : Flow) (s : ElementSet) :
    (f.addAll p (some t) s).2
      = .ok ((f.addAll p (some t) s).1.triples \ f.triples).ncard := by
  have hnew : (f.addAll p (some t) s).1.triples \ f.triples
      = {x | x ∈ (s.toList.filter (fun e => !(f.elementsAt p t).contains e)).map
          (fun e => (p, t, e))} := by
    ext ⟨q, u, a⟩
    rw [triples_addAll, Set.mem_sdiff, Set.mem_union, Set.mem_ofPred_eq, Set.mem_ofPred_eq,
      List.mem_map]
    constructor
    · rintro ⟨hold | ⟨e, he, heq⟩, hnot⟩
      · exact absurd hold hnot
      · cases heq
        refine ⟨a, List.mem_filter.2 ⟨he, ?_⟩, rfl⟩
        rw [Bool.not_eq_true', ← Bool.not_eq_true, DistinctList.contains_iff]
        exact hnot
    · rintro ⟨e, he, heq⟩
      cases heq
      rcases List.mem_filter.1 he with ⟨hs, hnot⟩
      rw [Bool.not_eq_true', ← Bool.not_eq_true, DistinctList.contains_iff] at hnot
      exact ⟨Or.inr ⟨a, hs, rfl⟩, hnot⟩
  have hnodup : ((s.toList.filter (fun e => !(f.elementsAt p t).contains e)).map
      (fun e => (p, t, e))).Nodup := by
    refine (s.nodup.filter _).map ?_
    intro a b hab
    exact (Prod.mk.inj (Prod.mk.inj hab).2).2
  rw [hnew, (ncard_setOf_mem _ hnodup).2, List.length_map]
  rfl

/-! ## The questions -/

/-- The size of a proper map is the number of its triples. -/
theorem ncard_triples (f : Facts) (hf : f.Proper) :
    f.triples.Finite ∧ f.triples.ncard = f.size := by
  have hset : f.triples = {x | ∃ flows, f.table.get? x.1 = some flows ∧
      x.2 ∈ flows.rows (fun s => s.toList)} := by
    ext ⟨p, t, e⟩
    rw [mem_triples, holds_iff, Set.mem_ofPred_eq]
    refine exists_congr (fun flows => and_congr_right (fun hflows => ?_))
    exact (Table.mem_rows flows _ (hf.flows p flows hflows).nodup t e).symm
  have hsize : f.size = (f.table.entries.map (fun e =>
      (e.2.rows (fun s => s.toList)).length)).foldr (· + ·) 0 := by
    simp only [Table.length_rows]
    rfl
  rw [hset, hsize]
  refine Table.ncard_rows f.table _ hf.nodup ?_
  intro p flows hflows
  exact Table.nodup_rows flows _ (hf.flows p flows hflows).nodup (fun x _ => x.2.nodup)

/-- The points of a proper map are those with a fact. -/
theorem mem_points_iff (f : Facts) (hf : f.Proper) (p : ProgramPoint) :
    p ∈ f.points ↔ ∃ t e, f.Holds p t e := by
  rw [points, List.mem_mergeSort, hf.mem_keys_iff]

/-- The points are listed once each, by node and block. -/
theorem points_pairwise (f : Facts) (hf : f.Proper) :
    f.points.Pairwise (fun p q => p.precedes q = true) := by
  have hle : f.points.Pairwise (fun p q => (!q.precedes p) = true) := by
    refine List.pairwise_mergeSort ?_ ?_ f.table.keys
    · intro p q r hpq hqr
      rw [ProgramPoint.not_precedes_iff] at hpq hqr ⊢
      exact le_trans hpq hqr
    · intro p q
      rw [Bool.or_eq_true, ProgramPoint.not_precedes_iff, ProgramPoint.not_precedes_iff]
      exact le_total p.position q.position
  have hne : f.points.Pairwise (· ≠ ·) :=
    (List.mergeSort_perm f.table.keys _).nodup_iff.2 hf.nodup
  refine (hle.and hne).imp ?_
  rintro p q ⟨hpq, hpq'⟩
  rw [ProgramPoint.not_precedes_iff] at hpq
  rw [ProgramPoint.precedes_iff]
  exact lt_of_le_of_ne hpq (fun h => hpq' (ProgramPoint.position_injective h))

/-- The flows at a point of a proper map are those that taint something there, once each. -/
theorem mem_flowsAt_iff (f : Facts) (hf : f.Proper) (p : ProgramPoint) :
    (f.flowsAt p).Nodup ∧ ∀ t, t ∈ f.flowsAt p ↔ ∃ e, f.Holds p t e := by
  have hperm : (f.flowsAt p).Perm ((f.table.get? p).getD ∅).keys := List.mergeSort_perm _ _
  cases hflows : f.table.get? p with
  | none =>
      rw [hflows] at hperm
      have hnil : f.flowsAt p = [] := hperm.eq_nil
      rw [hnil]
      refine ⟨List.nodup_nil, fun t => ?_⟩
      simp [holds_iff, hflows]
  | some flows =>
      rw [hflows] at hperm
      refine ⟨hperm.nodup_iff.2 (hf.flows p flows hflows).nodup, fun t => ?_⟩
      rw [hperm.mem_iff]
      exact hf.mem_flows_iff p flows hflows t

/-- The comparison of the flows of two points: a flow that is missing is read as the empty set,
    which no flow has. -/
theorem sameFlows_iff (s t : Table Flow ElementSet) (hs : ProperFlows s) (ht : ProperFlows t) :
    sameFlows s t = true ↔ s.Matches (fun a b => ∀ e, e ∈ a ↔ e ∈ b) t := by
  rw [Table.matches_iff _ s t hs.nodup ht.nodup, sameFlows, Bool.and_eq_true, beq_iff_eq,
    List.all_eq_true]
  refine and_congr_right (fun _ => forall_congr' (fun x => imp_congr_right (fun hx => ?_)))
  rw [DistinctList.sameMembers_iff]
  cases hget : t.get? x.1 with
  | none =>
      rcases hs.tainted x.1 x.2 ((Table.get?_eq_some_iff s hs.nodup x.1 x.2).2 hx) with ⟨e, he⟩
      constructor
      · intro h
        exact absurd ((h e).1 he) (DistinctList.not_mem_empty e)
      · rintro ⟨b, hb, _⟩
        cases hb
  | some b => simp

/-- The comparison of two maps, as a statement about their tables. -/
theorem same_iff_matches (f g : Facts) (hf : f.Proper) (hg : g.Proper) :
    f.same g = true ↔
      f.table.Matches (fun s t => s.Matches (fun a b => ∀ e, e ∈ a ↔ e ∈ b) t) g.table := by
  rw [Table.matches_iff _ f.table g.table hf.nodup hg.nodup, same, Bool.and_eq_true, beq_iff_eq,
    List.all_eq_true]
  refine and_congr_right (fun _ => forall_congr' (fun x => imp_congr_right (fun hx => ?_)))
  have hproper := hf.flows x.1 x.2 ((Table.get?_eq_some_iff f.table hf.nodup x.1 x.2).2 hx)
  cases hget : g.table.get? x.1 with
  | none => simp
  | some flows => simp [sameFlows_iff x.2 flows hproper (hg.flows x.1 flows hget)]

/-- Two proper maps are the same when their sets of triples are. -/
theorem same_iff (f g : Facts) (hf : f.Proper) (hg : g.Proper) :
    f.same g = true ↔ f.triples = g.triples := by
  rw [same_iff_matches f g hf hg]
  constructor
  · rintro ⟨hpoints, hflows⟩
    ext ⟨p, t, e⟩
    rw [mem_triples, mem_triples]
    by_cases hp : p ∈ f.table.keys
    · rcases (Table.mem_keys_iff f.table p).1 hp with ⟨s, hs⟩
      rcases (Table.mem_keys_iff g.table p).1 ((hpoints p).1 hp) with ⟨u, hu⟩
      have hmatch := hflows p s u hs hu
      rw [holds_iff f, holds_iff g, hs, hu]
      constructor
      · rintro ⟨_, heq, a, ha, he⟩
        cases heq
        have ht := (hmatch.keys t).1 ((Table.mem_keys_iff s t).2 ⟨a, ha⟩)
        rcases (Table.mem_keys_iff u t).1 ht with ⟨b, hb⟩
        exact ⟨u, rfl, b, hb, (hmatch.values t a b ha hb e).1 he⟩
      · rintro ⟨_, heq, b, hb, he⟩
        cases heq
        have ht := (hmatch.keys t).2 ((Table.mem_keys_iff u t).2 ⟨b, hb⟩)
        rcases (Table.mem_keys_iff s t).1 ht with ⟨a, ha⟩
        exact ⟨s, rfl, a, ha, (hmatch.values t a b ha hb e).2 he⟩
    · -- Neither map has a fact at such a point.
      have hp' : p ∉ g.table.keys := fun hc => hp ((hpoints p).2 hc)
      rw [hf.mem_keys_iff] at hp
      rw [hg.mem_keys_iff] at hp'
      exact ⟨fun h => absurd ⟨t, e, h⟩ hp, fun h => absurd ⟨t, e, h⟩ hp'⟩
  · intro heq
    have hholds : ∀ p t e, f.Holds p t e ↔ g.Holds p t e := by
      intro p t e
      rw [← mem_triples, heq, mem_triples]
    refine ⟨fun p => by simp only [hf.mem_keys_iff, hg.mem_keys_iff, hholds], ?_⟩
    intro p s u hs hu
    refine ⟨fun t => by simp only [hf.mem_flows_iff p s hs, hg.mem_flows_iff p u hu, hholds], ?_⟩
    intro t a b ha hb e
    have he := hholds p t e
    rw [holds_iff f, holds_iff g] at he
    simpa [hs, hu, ha, hb] using he

/-- A map of facts is a set of triples. Calls insert triples, tell which are new, and form unions;
    a refused call leaves the map as it is; and the size, the points, the flows and the comparison
    are those of the set. -/
theorem built_exact (f g h : Facts) (hf : f.Built) (hg : g.Built) (hh : h.Built) :
    -- One fact.
    (∀ p t e, e ≠ .absent →
      (f.add p (some t) e).1.triples = insert (p, t, e) f.triples ∧
      ∃ isNew, (f.add p (some t) e).2 = .ok isNew ∧ (isNew = true ↔ (p, t, e) ∉ f.triples)) ∧
    -- The facts of a set of elements.
    (∀ p t s,
      (f.addAll p (some t) s).1.triples = f.triples ∪ {x | ∃ e ∈ s, x = (p, t, e)} ∧
      (f.addAll p (some t) s).2
        = .ok ((f.addAll p (some t) s).1.triples \ f.triples).ncard) ∧
    -- The facts of another map.
    (f.merge g).triples = f.triples ∪ g.triples ∧
    (f.merge g).same (g.merge f) = true ∧
    ((f.merge g).merge h).same (f.merge (g.merge h)) = true ∧
    (f.merge f).same f = true ∧
    -- Refused calls.
    (∀ p e, f.add p none e = (f, .error (.noFlow e p))) ∧
    (∀ p t, f.add p (some t) .absent = (f, .error (.noElement t p))) ∧
    (∀ p s, f.addAll p none s = (f, .error (.noFlowForAll p))) ∧
    -- Questions.
    (f.triples.Finite ∧ f.triples.ncard = f.size) ∧
    (f.points.Pairwise (fun p q => p.precedes q = true) ∧
      ∀ p, p ∈ f.points ↔ ∃ t e, (p, t, e) ∈ f.triples) ∧
    (∀ p, (f.flowsAt p).Nodup ∧ ∀ t, t ∈ f.flowsAt p ↔ ∃ e, (p, t, e) ∈ f.triples) ∧
    (f.same g = true ↔ f.triples = g.triples) := by
  have hpf := built_proper f hf
  have hpg := built_proper g hg
  have hph := built_proper h hh
  have hfg := built_proper _ (hf.merge hg)
  have hgh := built_proper _ (hg.merge hh)
  refine ⟨fun p t e he => ⟨triples_add f p t e he, add_answer f p t e he⟩,
    fun p t s => ⟨triples_addAll f p t s, addAll_answer f p t s⟩, triples_merge f g hpg, ?_, ?_,
    ?_, fun _ _ => rfl, fun _ _ => by simp [add], fun _ _ => rfl, ncard_triples f hpf,
    ⟨points_pairwise f hpf, mem_points_iff f hpf⟩, mem_flowsAt_iff f hpf, same_iff f g hpf hpg⟩
  · rw [same_iff _ _ hfg (built_proper _ (hg.merge hf)), triples_merge f g hpg,
      triples_merge g f hpf, Set.union_comm]
  · rw [same_iff _ _ (built_proper _ ((hf.merge hg).merge hh))
      (built_proper _ (hf.merge (hg.merge hh))), triples_merge _ h hph, triples_merge f g hpg,
      triples_merge f _ hgh, triples_merge g h hph, Set.union_assoc]
  · rw [same_iff _ _ (built_proper _ (hf.merge hf)) hpf, triples_merge f f hpf, Set.union_self]

/-- The flow of an argument in the sample. -/
def sampleFlow : Flow := .entryArg default 1

/-- One fact is recorded, another one is offered without a flow, and then two under one flow at
    another point, of which one has no element. -/
def sample : Facts :=
  (((Facts.empty.add ⟨1, 2⟩ (some sampleFlow) (.localValue 1 2)).1.add ⟨1, 1⟩ none
    (.localValue 1 2)).1.addAll ⟨1, 0⟩ (some sampleFlow) (.ofList [.localValue 1 2, .absent])).1

/-- The refused fact leaves no point behind, and merging the sample into the empty map copies its
    triples. -/
theorem built_exact_sample :
    sample.Built ∧ (Facts.empty.merge sample).Built ∧
    sample.triples.ncard = 3 ∧ sample.points = [⟨1, 0⟩, ⟨1, 2⟩] ∧
    sample.triples = (Facts.empty.merge sample).triples ∧
    (sample.merge (Facts.empty.merge sample)).triples
      = sample.triples ∪ (Facts.empty.merge sample).triples := by
  have hs : sample.Built := .addAll _ _ _ (.add _ _ _ (.add _ _ _ .empty))
  have hc : (Facts.empty.merge sample).Built := .merge .empty hs
  have hsize : sample.size = 3 := by decide
  have hpoints : sample.points = [⟨1, 0⟩, ⟨1, 2⟩] := by cbv
  have hsame : sample.same (Facts.empty.merge sample) = true := by decide
  rcases built_exact sample (Facts.empty.merge sample) .empty hs hc .empty with
    ⟨_, _, hmerge, _, _, _, _, _, _, hcount, _, _, hiff⟩
  exact ⟨hs, hc, hcount.2.trans hsize, hpoints, hiff.1 hsame, hmerge⟩

end Facts

end TaintSeed
