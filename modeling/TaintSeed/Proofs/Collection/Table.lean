import Mathlib.Data.List.Nodup
import Mathlib.Data.List.Permutation
import Mathlib.Data.Set.Card
import TaintSeed.Collection.DistinctList
import TaintSeed.Collection.Table

/-!
# Tables as Sets of Pairs

A table whose values are collections is a way to keep a set of pairs: a key
with each of the members of its value. Sizes are added up and tables are
compared entry by entry, which says something about the pairs only because no
key has two entries. The lemmas here turn both into statements about sets, for
any table, so that facts and edges need no counting of their own.

Comparing is cheaper than it looks: one table is searched for the keys of the
other, never the other way around, and the sizes make up for it.

## Main definitions

* `HasSize`: A set is finite and has a given number of members.
* `Table.rows`: The pairs of a table of collections.
* `Table.Matches`: Two tables have the same keys and related values.

## Theorems

* `hasSize_length`: A list without repetitions counts the set of its members.
* `DistinctList.sameMembers_iff`: The comparison of two sets decides their equality.
* `Table.mem_rows`, `Table.nodup_rows`, `Table.length_rows`: The pairs, each listed once.
* `Table.filterMap_keys`: A table lists its look-ups.
* `Table.ncard_rows`: The added sizes are the number of pairs.
* `Table.matches_iff`: A table matches another of its size when each of its entries does.
-/

namespace TaintSeed

section Members

variable {α : Type}

/-- A list without repetitions that lies in another one, which is no longer, has its members. -/
theorem mem_iff_of_subset_of_length_le (xs ys : List α) (hn : xs.Nodup) (hsub : xs ⊆ ys)
    (hlen : ys.length ≤ xs.length) (a : α) : a ∈ xs ↔ a ∈ ys :=
  ((List.subperm_of_subset hn hsub).perm_of_length_le hlen).mem_iff

/-- Two lists without repetitions that have the same members are equally long. -/
theorem length_eq_of_mem_iff (xs ys : List α) (hx : xs.Nodup) (hy : ys.Nodup)
    (h : ∀ a, a ∈ xs ↔ a ∈ ys) : xs.length = ys.length :=
  ((List.perm_ext_iff_of_nodup hx hy).2 h).length_eq

/-- A list without repetitions counts the set of its members. -/
theorem ncard_setOf_mem (xs : List α) (hn : xs.Nodup) :
    {a | a ∈ xs}.Finite ∧ {a | a ∈ xs}.ncard = xs.length := by
  classical
  have hcoe : {a | a ∈ xs} = (xs.toFinset : Set α) := by
    ext a
    simp
  rw [hcoe, Set.ncard_coe_finset, List.toFinset_card_of_nodup hn]
  exact ⟨xs.toFinset.finite_toSet, rfl⟩

/-- The set is finite and has as many members as the number says. -/
def HasSize (S : Set α) (k : Int) : Prop := S.Finite ∧ (S.ncard : Int) = k

theorem hasSize_length (S : Set α) (xs : List α) (hn : xs.Nodup)
    (hmem : ∀ a, a ∈ S ↔ a ∈ xs) : HasSize S xs.length := by
  have hset : S = {a | a ∈ xs} := by
    ext a
    exact hmem a
  rcases ncard_setOf_mem xs hn with ⟨hfinite, hcard⟩
  rw [hset]
  exact ⟨hfinite, congrArg Int.ofNat hcard⟩

end Members

/-- The comparison of two lists without repetitions decides whether their members are the same. -/
theorem DistinctList.sameMembers_iff {α : Type} [DecidableEq α] (s t : DistinctList α) :
    s.sameMembers t = true ↔ ∀ a, a ∈ s ↔ a ∈ t := by
  unfold sameMembers size
  rw [Bool.and_eq_true, beq_iff_eq, List.all_eq_true]
  constructor
  · rintro ⟨hlen, hsub⟩
    have hsubset : s.toList ⊆ t.toList := fun a ha => contains_iff.1 (hsub a ha)
    exact mem_iff_of_subset_of_length_le s.toList t.toList s.nodup hsubset (Nat.le_of_eq hlen.symm)
  · intro h
    refine ⟨length_eq_of_mem_iff s.toList t.toList s.nodup t.nodup h, ?_⟩
    intro a ha
    exact contains_iff.2 ((h a).1 ha)

namespace Table

variable {κ α β : Type}

/-- Every key with each of the members of its value. -/
def rows (t : Table κ α) (members : α → List β) : List (κ × β) :=
  t.entries.flatMap (fun e => (members e.2).map (fun b => (e.1, b)))

theorem length_rows (t : Table κ α) (members : α → List β) :
    (t.rows members).length
      = (t.entries.map (fun e => (members e.2).length)).foldr (· + ·) 0 := by
  rw [rows, List.length_flatMap, List.sum_eq_foldr]
  simp only [List.length_map]

/-- Where no key is repeated and no value lists a member twice, no pair is listed twice. -/
theorem nodup_rows (t : Table κ α) (members : α → List β) (hn : t.keys.Nodup)
    (hm : ∀ e ∈ t.entries, (members e.2).Nodup) : (t.rows members).Nodup := by
  rw [rows, List.nodup_flatMap]
  constructor
  · intro e he
    exact (hm e he).map (fun _ _ h => (Prod.mk.inj h).2)
  · -- Pairs of different entries differ in their keys.
    refine (List.pairwise_map.1 hn).imp ?_
    intro e e' hne x hx hx'
    rcases List.mem_map.1 hx with ⟨_, _, rfl⟩
    rcases List.mem_map.1 hx' with ⟨_, _, heq⟩
    exact hne (Prod.mk.inj heq).1.symm

variable [DecidableEq κ]

/-- The pairs are those of a key with a member of the value that a look-up finds. -/
theorem mem_rows (t : Table κ α) (members : α → List β) (hn : t.keys.Nodup) (k : κ) (b : β) :
    (k, b) ∈ t.rows members ↔ ∃ a, t.get? k = some a ∧ b ∈ members a := by
  rw [rows, List.mem_flatMap]
  constructor
  · rintro ⟨⟨k', a⟩, he, hb⟩
    rcases List.mem_map.1 hb with ⟨b', hb', heq⟩
    rcases Prod.mk.inj heq with ⟨rfl, rfl⟩
    exact ⟨a, (get?_eq_some_iff t hn k' a).2 he, hb'⟩
  · rintro ⟨a, ha, hb⟩
    exact ⟨(k, a), (get?_eq_some_iff t hn k a).1 ha, List.mem_map_of_mem hb⟩

/-- Where no key is repeated, listing the look-ups in the order of the keys gives the entries. -/
theorem filterMap_keys (t : Table κ α) (ks : List κ) (hkeys : t.keys = ks) (hn : ks.Nodup)
    (f : κ → Option (κ × α)) (hf : ∀ k a, t.get? k = some a → f k = some (k, a)) :
    ks.filterMap f = t.entries := by
  subst hkeys
  rw [keys, List.filterMap_map]
  calc t.entries.filterMap (f ∘ Prod.fst) = t.entries.filterMap some := by
        refine List.filterMap_congr (fun e he => ?_)
        exact hf e.1 e.2 ((get?_eq_some_iff t hn e.1 e.2).2 he)
    _ = t.entries := List.filterMap_some

/-- The added sizes of the values are the number of pairs. -/
theorem ncard_rows (t : Table κ α) (members : α → List β) (hn : t.keys.Nodup)
    (hm : ∀ k a, t.get? k = some a → (members a).Nodup) :
    {x : κ × β | ∃ a, t.get? x.1 = some a ∧ x.2 ∈ members a}.Finite ∧
    {x : κ × β | ∃ a, t.get? x.1 = some a ∧ x.2 ∈ members a}.ncard
      = (t.entries.map (fun e => (members e.2).length)).foldr (· + ·) 0 := by
  have hset : {x : κ × β | ∃ a, t.get? x.1 = some a ∧ x.2 ∈ members a}
      = {x | x ∈ t.rows members} := by
    ext x
    exact (mem_rows t members hn x.1 x.2).symm
  have hnodup : (t.rows members).Nodup :=
    nodup_rows t members hn (fun e he => hm e.1 e.2 ((get?_eq_some_iff t hn e.1 e.2).2 he))
  rw [hset, ← length_rows]
  exact ncard_setOf_mem _ hnodup

/-! ## Comparing tables -/

/-- Two tables have the same keys, and their values are related. -/
structure Matches (R : α → α → Prop) (s t : Table κ α) : Prop where
  keys : ∀ k, k ∈ s.keys ↔ k ∈ t.keys
  values : ∀ k a b, s.get? k = some a → t.get? k = some b → R a b

/-- Of two tables of one size, the one matches the other when every entry of it does. -/
theorem matches_iff (R : α → α → Prop) (s t : Table κ α) (hs : s.keys.Nodup) (ht : t.keys.Nodup) :
    s.Matches R t ↔
      s.size = t.size ∧ ∀ e ∈ s.entries, ∃ b, t.get? e.1 = some b ∧ R e.2 b := by
  have hsize : ∀ u : Table κ α, u.size = u.keys.length := fun u => (List.length_map _).symm
  constructor
  · rintro ⟨hkeys, hvalues⟩
    refine ⟨by rw [hsize, hsize]; exact length_eq_of_mem_iff _ _ hs ht hkeys, ?_⟩
    intro e he
    have hk : e.1 ∈ s.keys := List.mem_map_of_mem he
    rcases (mem_keys_iff t e.1).1 ((hkeys e.1).1 hk) with ⟨b, hb⟩
    exact ⟨b, hb, hvalues e.1 e.2 b ((get?_eq_some_iff s hs e.1 e.2).2 he) hb⟩
  · rintro ⟨hlen, hentries⟩
    have hsub : s.keys ⊆ t.keys := by
      intro k hk
      rcases List.mem_map.1 hk with ⟨e, he, rfl⟩
      rcases hentries e he with ⟨b, hb, _⟩
      exact (mem_keys_iff t e.1).2 ⟨b, hb⟩
    rw [hsize, hsize] at hlen
    refine ⟨mem_iff_of_subset_of_length_le _ _ hs hsub (Nat.le_of_eq hlen.symm), ?_⟩
    intro k a b ha hb
    rcases hentries (k, a) ((get?_eq_some_iff s hs k a).1 ha) with ⟨b', hb', hR⟩
    rw [hb, Option.some.injEq] at hb'
    exact hb' ▸ hR

end Table

end TaintSeed
