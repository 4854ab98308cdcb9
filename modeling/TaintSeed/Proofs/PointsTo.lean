import TaintSeed.PointsTo
import TaintSeed.Proofs.Text.Order

/-!
# What a Points-to Table Answers

A table is filled by calls that name a key and some objects. What it answers
for a key is a list, in the order of the texts of the objects, and a caller
expects the list to depend on what was recorded and not on the calls that
recorded it. As a set it does, and so do the texts in it.

The list itself is another matter. The text of an object leaves out the kind
of its type, and joins the name of the type to the site by an `@` that either
may contain. Objects that differ may therefore have one text, and then they
stand in the order in which they were recorded. `objects_eq_iff` says that
this is the only way in which the calls show: the answer is a function of what
was recorded exactly when the texts tell the recorded objects of the key apart.

## Main definitions

* `Instance.Tied`: Two objects have one text.
* `PointsTo.Table.ofCalls`: The table that a list of calls leads to.
* `PointsTo.Table.Recorded`: An object is recorded under a key.
* `PointsTo.Table.SameRecords`: Two lists of calls record the same.

## Theorems

* `Instance.tied_iff`: Without an `@` in their names, tied objects differ in the kind at most.
* `PointsTo.Table.mem_objects_ofCalls`: The answer has what was recorded.
* `PointsTo.Table.pair_sublist_objects`: Tied objects stand in the order of the calls.
* `PointsTo.Table.objects_eq_iff`: When the answer is a function of what was recorded.
* `PointsTo.Table.objects_ofCalls_exact`: What a table answers.
* `PointsTo.Table.objects_ne_of_tied`: Two orders of the same objects, and two answers.
-/

namespace TaintSeed

open Text.Bytes (ofText)

/-! ## The order of arrival -/

namespace DistinctList

variable {α : Type} [DecidableEq α]

theorem toList_prefix_insert (s : DistinctList α) (a : α) : s.toList <+: (s.insert a).toList := by
  by_cases ha : a ∈ s
  · simp [insert_of_mem ha]
  · rw [toList_insert_of_not_mem ha]
    exact List.prefix_append _ _

/-- Members that are added later stand behind those that are there. -/
theorem toList_prefix_insertAll (s : DistinctList α) (xs : List α) :
    s.toList <+: (s.insertAll xs).toList := by
  induction xs generalizing s with
  | nil => exact List.prefix_refl _
  | cons x xs ih => exact (toList_prefix_insert s x).trans (ih (s.insert x))

end DistinctList

/-- A list without repetitions has two members in one order only. -/
theorem not_pair_sublist_swap {α : Type} (xs : List α) (hn : xs.Nodup) (a b : α)
    (hab : [a, b].Sublist xs) : ¬ [b, a].Sublist xs := by
  induction xs with
  | nil => cases hab
  | cons x xs ih =>
      rw [List.nodup_cons] at hn
      intro hba
      cases hab with
      | cons _ hab =>
          cases hba with
          | cons _ hba => exact ih hn.2 hab hba
          | cons_cons _ hba => exact hn.1 (hab.subset (by simp))
      | cons_cons _ hab =>
          -- The first member is at the head, so it is not found behind the second.
          cases hba with
          | cons _ hba => exact hn.1 (hba.subset (by simp))
          | cons_cons _ hba => exact hn.1 (hab.subset (by simp))

/-! ## The texts of objects -/

namespace Instance

theorem textLe_trans (a b c : Instance) (hab : Text.Bytes.le a.text b.text = true)
    (hbc : Text.Bytes.le b.text c.text = true) : Text.Bytes.le a.text c.text = true :=
  Text.Bytes.listLe_trans _ _ _ hab hbc

theorem textLe_total (a b : Instance) :
    (Text.Bytes.le a.text b.text || Text.Bytes.le b.text a.text) = true :=
  Text.Bytes.listLe_total _ _

/-- Two objects have one text, byte by byte. -/
def Tied (a b : Instance) : Prop := ofText a.text = ofText b.text

/-- The bytes of the site with the `@` before them; nothing for an object without a site. -/
def siteBytes (o : Instance) : List Nat := if o.site = "" then [] else 64 :: ofText o.site

theorem ofText_text (o : Instance) :
    ofText o.text = 91 :: (ofText o.type.name ++ o.siteBytes) ++ [93] := by
  have hopen : ofText "[" = [91] := by decide
  have hclose : ofText "]" = [93] := by decide
  have hat : ofText "@" = [64] := by decide
  by_cases hsite : o.site = ""
  · simp [text, isTypeKey, siteBytes, hsite, Text.Bytes.ofText_append, hopen, hclose]
  · simp [text, isTypeKey, siteBytes, hsite, Text.Bytes.ofText_append, hopen, hclose, hat]

theorem tied_iff_bytes (a b : Instance) :
    a.Tied b ↔ ofText a.type.name ++ a.siteBytes = ofText b.type.name ++ b.siteBytes := by
  rw [Tied, ofText_text, ofText_text, List.append_left_inj, List.cons.injEq]
  simp

theorem siteBytes_eq_iff (a b : Instance) :
    a.siteBytes = b.siteBytes ↔ ofText a.site = ofText b.site := by
  have hnil : ∀ {s : String}, s ≠ "" → ofText s ≠ [] :=
    fun hs hc => hs (Text.Bytes.ofText_eq_nil_iff.1 hc)
  have hempty : ofText "" = [] := rfl
  unfold siteBytes
  by_cases ha : a.site = ""
  · by_cases hb : b.site = ""
    · simp [ha, hb]
    · simp [ha, hb, hempty, (hnil hb).symm]
  · by_cases hb : b.site = ""
    · simp [ha, hb, hempty, hnil ha]
    · simp [ha, hb]

/-- What stands behind the name is empty or begins with an `@`, so a name without one ends where
    that begins. -/
theorem name_eq_of_append_siteBytes_eq (a b : Instance) (xs ys : List Nat) (hx : 64 ∉ xs)
    (hy : 64 ∉ ys) (h : xs ++ a.siteBytes = ys ++ b.siteBytes) : xs = ys := by
  have hcut : ∀ (o : Instance) (zs : List Nat), 64 ∉ zs →
      (zs ++ o.siteBytes).takeWhile (· != 64) = zs := by
    intro o zs hz
    rw [List.takeWhile_append_of_pos]
    · unfold siteBytes
      split
      · simp
      · simp
    · intro z hmem
      rw [bne_iff_ne]
      exact fun hc => hz (hc ▸ hmem)
  rw [← hcut a xs hx, h, hcut b ys hy]

/-- Objects of types without an `@` in their names have one text when the names and the sites are
    the same, so only the kinds can differ. -/
theorem tied_iff (a b : Instance) (ha : '@' ∉ a.type.name.toList) (hb : '@' ∉ b.type.name.toList) :
    a.Tied b ↔ ofText a.type.name = ofText b.type.name ∧ ofText a.site = ofText b.site := by
  have hna : 64 ∉ ofText a.type.name := fun h => ha (Text.Bytes.mem_of_mem_ofText '@' (by decide) h)
  have hnb : 64 ∉ ofText b.type.name := fun h => hb (Text.Bytes.mem_of_mem_ofText '@' (by decide) h)
  rw [tied_iff_bytes, ← siteBytes_eq_iff]
  constructor
  · intro h
    have hname := name_eq_of_append_siteBytes_eq a b _ _ hna hnb h
    rw [hname, List.append_right_inj] at h
    exact ⟨hname, h⟩
  · rintro ⟨hname, hsite⟩
    rw [hname, hsite]

end Instance

/-! ## Tables and calls -/

namespace PointsTo

namespace Table

theorem mem_objects_add (t : PointsTo.Table) (key k : Key) (xs : List Instance) (o : Instance) :
    o ∈ objects (add t key xs) k ↔ o ∈ objects t k ∨ key = k ∧ o ∈ xs := by
  simp only [objects, add, List.mem_mergeSort, TaintSeed.Table.get?_modify]
  by_cases hk : key = k
  · subst hk
    simp
  · simp [hk]

theorem nodup_objects (t : PointsTo.Table) (key : Key) : (objects t key).Nodup :=
  (List.mergeSort_perm _ _).nodup_iff.2 ((t.get? key).getD ∅).nodup

theorem objects_pairwise (t : PointsTo.Table) (key : Key) :
    (objects t key).Pairwise (fun a b => Text.Bytes.le a.text b.text = true) :=
  List.pairwise_mergeSort Instance.textLe_trans Instance.textLe_total _

/-- Where the texts tell the objects apart, the members of an answer determine the answer. -/
theorem objects_eq_of_untied (t u : PointsTo.Table) (key : Key)
    (hmem : ∀ o, o ∈ objects t key ↔ o ∈ objects u key)
    (hties : ∀ a ∈ objects t key, ∀ b ∈ objects t key, a.Tied b → a = b) :
    objects t key = objects u key := by
  refine List.Perm.eq_of_pairwise ?_ (objects_pairwise t key) (objects_pairwise u key)
    ((List.perm_ext_iff_of_nodup (nodup_objects t key) (nodup_objects u key)).2 hmem)
  intro a b ha hb hab hba
  exact hties a ha b ((hmem b).2 hb) (Text.Bytes.listLe_antisymm _ _ hab hba)

/-- Adding to one key leaves the answer for every other. -/
theorem objects_add_of_ne (t : PointsTo.Table) (key k : Key) (xs : List Instance) (hk : key ≠ k) :
    objects (add t key xs) k = objects t k := by
  simp [objects, add, hk]

/-- The table after a list of calls, each with a key and objects. -/
def ofCalls (calls : List (Key × List Instance)) : PointsTo.Table :=
  calls.foldl (fun t c => add t c.1 c.2) ∅

/-- One of the calls names the object under the key. -/
def Recorded (calls : List (Key × List Instance)) (key : Key) (o : Instance) : Prop :=
  ∃ c ∈ calls, c.1 = key ∧ o ∈ c.2

/-- Two lists of calls record the same objects under every key. -/
def SameRecords (calls others : List (Key × List Instance)) : Prop :=
  ∀ key o, Recorded calls key o ↔ Recorded others key o

theorem mem_objects_foldl (calls : List (Key × List Instance)) (t : PointsTo.Table) (key : Key)
    (o : Instance) :
    o ∈ objects (calls.foldl (fun t c => add t c.1 c.2) t) key ↔
      o ∈ objects t key ∨ Recorded calls key o := by
  induction calls generalizing t with
  | nil => simp [Recorded]
  | cons c calls ih =>
      rw [List.foldl_cons, ih, mem_objects_add, or_assoc]
      simp [Recorded]

theorem mem_objects_ofCalls (calls : List (Key × List Instance)) (key : Key) (o : Instance) :
    o ∈ objects (ofCalls calls) key ↔ Recorded calls key o := by
  rw [ofCalls, mem_objects_foldl]
  simp [objects]

theorem objects_perm (calls others : List (Key × List Instance)) (h : SameRecords calls others)
    (key : Key) : (objects (ofCalls calls) key).Perm (objects (ofCalls others) key) := by
  refine (List.perm_ext_iff_of_nodup (nodup_objects _ _) (nodup_objects _ _)).2 ?_
  intro o
  rw [mem_objects_ofCalls, mem_objects_ofCalls]
  exact h key o

/-! ## Ties -/

/-- The objects of a key in the order in which they were recorded. -/
def arrived (t : PointsTo.Table) (key : Key) : List Instance := ((t.get? key).getD ∅).toList

theorem objects_perm_arrived (t : PointsTo.Table) (key : Key) :
    (objects t key).Perm (arrived t key) := List.mergeSort_perm _ _

theorem arrived_prefix_add (t : PointsTo.Table) (key k : Key) (xs : List Instance) :
    arrived t k <+: arrived (add t key xs) k := by
  unfold arrived add
  rw [TaintSeed.Table.get?_modify]
  by_cases hk : key = k
  · subst hk
    rw [if_pos rfl, Option.getD_some]
    exact DistinctList.toList_prefix_insertAll _ xs
  · simp [hk]

theorem arrived_prefix_foldl (calls : List (Key × List Instance)) (t : PointsTo.Table)
    (key : Key) : arrived t key <+: arrived (calls.foldl (fun t c => add t c.1 c.2) t) key := by
  induction calls generalizing t with
  | nil => exact List.prefix_refl _
  | cons c calls ih => exact (arrived_prefix_add t c.1 key c.2).trans (ih _)

theorem arrived_pair (key : Key) (a b : Instance) (hab : a ≠ b) :
    arrived (add ∅ key [a, b]) key = [a, b] := by
  have hnew : b ∉ (∅ : DistinctList Instance).insert a := by simp [hab.symm]
  have hinsert : arrived (add ∅ key [a, b]) key
      = (((∅ : DistinctList Instance).insert a).insert b).toList := by
    simp [arrived, add, DistinctList.insertAll]
  rw [hinsert, DistinctList.toList_insert_of_not_mem hnew,
    DistinctList.toList_insert_of_not_mem (DistinctList.not_mem_empty a)]
  rfl

/-- Tied objects that the first call names stand in the order of that call. -/
theorem pair_sublist_objects (calls : List (Key × List Instance)) (key : Key) (a b : Instance)
    (hab : a ≠ b) (htied : a.Tied b) :
    [a, b].Sublist (objects (ofCalls ((key, [a, b]) :: calls)) key) := by
  -- What the later calls record comes behind the pair.
  have hprefix : arrived (add ∅ key [a, b]) key
      <+: arrived (ofCalls ((key, [a, b]) :: calls)) key := arrived_prefix_foldl calls _ key
  rw [arrived_pair key a b hab] at hprefix
  have hle : Text.Bytes.le a.text b.text = true := by
    have hrefl := Instance.textLe_total b b
    rw [Bool.or_self] at hrefl
    rw [Text.Bytes.le, htied]
    exact hrefl
  exact List.pair_sublist_mergeSort Instance.textLe_trans Instance.textLe_total hle
    hprefix.sublist

/-- If nothing else is recorded, they are all of the answer. -/
theorem objects_pair (key : Key) (a b : Instance) (hab : a ≠ b) (htied : a.Tied b) :
    objects (add ∅ key [a, b]) key = [a, b] := by
  refine ((pair_sublist_objects [] key a b hab htied).eq_of_length ?_).symm
  rw [(objects_perm_arrived _ key).length_eq]
  exact congrArg List.length (arrived_pair key a b hab).symm

theorem sameRecords_cons (calls : List (Key × List Instance)) (key : Key) (xs : List Instance)
    (h : ∀ o ∈ xs, Recorded calls key o) : SameRecords calls ((key, xs) :: calls) := by
  intro k o
  constructor
  · rintro ⟨c, hc, hk, ho⟩
    exact ⟨c, List.mem_cons_of_mem _ hc, hk, ho⟩
  · rintro ⟨c, hc, rfl, ho⟩
    rcases List.mem_cons.1 hc with rfl | hc
    · exact h o ho
    · exact ⟨c, hc, rfl, ho⟩

/-- The answer for a key is a function of what was recorded exactly when the texts tell its
    recorded objects apart. -/
theorem objects_eq_iff (calls : List (Key × List Instance)) (key : Key) :
    (∀ others, SameRecords calls others →
      objects (ofCalls others) key = objects (ofCalls calls) key) ↔
    ∀ a b, Recorded calls key a → Recorded calls key b → a.Tied b → a = b := by
  constructor
  · intro h a b ha hb htied
    by_contra hab
    -- The same pair is recorded once more, before everything else, in both orders.
    have hfirst := h ((key, [a, b]) :: calls)
      (sameRecords_cons calls key _ (by simp [ha, hb]))
    have hsecond := h ((key, [b, a]) :: calls)
      (sameRecords_cons calls key _ (by simp [ha, hb]))
    have hpair := pair_sublist_objects calls key a b hab htied
    have hswap := pair_sublist_objects calls key b a (Ne.symm hab) htied.symm
    rw [hfirst] at hpair
    rw [hsecond] at hswap
    exact not_pair_sublist_swap _ (nodup_objects _ key) a b hpair hswap
  · intro h others hsame
    refine (objects_eq_of_untied _ _ key ?_ ?_).symm
    · exact fun o => (objects_perm calls others hsame key).mem_iff
    · intro a ha b hb htied
      rw [mem_objects_ofCalls] at ha hb
      exact h a b ha hb htied

/-- A table answers with the recorded objects, each once and in the order of their texts. Calls
    that record the same lead to the same objects and to the same texts, one by one, and to the
    same list exactly when no two recorded objects of the key are tied; without an `@` in the
    names of their types, objects are tied when they differ in the kind at most. Adding to one key
    leaves the answers for the others. -/
theorem objects_ofCalls_exact (calls : List (Key × List Instance)) (key : Key) :
    ((objects (ofCalls calls) key).Nodup ∧
      ∀ o, o ∈ objects (ofCalls calls) key ↔ Recorded calls key o) ∧
    (objects (ofCalls calls) key).Pairwise (fun a b => Text.Bytes.le a.text b.text = true) ∧
    (∀ others, SameRecords calls others →
      (objects (ofCalls calls) key).Perm (objects (ofCalls others) key) ∧
      (objects (ofCalls calls) key).map (fun o => ofText o.text)
        = (objects (ofCalls others) key).map (fun o => ofText o.text)) ∧
    ((∀ others, SameRecords calls others →
        objects (ofCalls others) key = objects (ofCalls calls) key) ↔
      ∀ a b, Recorded calls key a → Recorded calls key b → a.Tied b → a = b) ∧
    (∀ a b : Instance, '@' ∉ a.type.name.toList → '@' ∉ b.type.name.toList →
      (a.Tied b ↔ ofText a.type.name = ofText b.type.name ∧ ofText a.site = ofText b.site)) ∧
    (∀ k xs, k ≠ key → objects (add (ofCalls calls) k xs) key = objects (ofCalls calls) key) := by
  refine ⟨⟨nodup_objects _ key, mem_objects_ofCalls calls key⟩, objects_pairwise _ key, ?_,
    objects_eq_iff calls key, Instance.tied_iff,
    fun k xs hk => objects_add_of_ne (ofCalls calls) k key xs hk⟩
  intro others hsame
  have hperm := objects_perm calls others hsame key
  refine ⟨hperm, Text.Bytes.keys_mergeSort_eq Instance.text _ _ ?_⟩
  exact ((objects_perm_arrived _ key).symm.trans
    (hperm.trans (objects_perm_arrived _ key))).map _

/-- An object of one site. -/
def sited : Instance := ⟨.ofClass "Lapp/Data;", "new"⟩

/-- The objects of two keys, one after the other. -/
def gathered : List (Key × List Instance) :=
  [(.localValue 0 1, [sited, .ofType (.ofClass "Lapp/Data;")]), (.localValue 0 2, [sited])]

/-- The same objects in several calls, of which one repeats what was recorded. -/
def scattered : List (Key × List Instance) :=
  [(.localValue 0 1, [.ofType (.ofClass "Lapp/Data;")]), (.localValue 0 2, [sited]),
    (.localValue 0 1, [sited]), (.localValue 0 1, [sited])]

theorem sameRecords_gathered : SameRecords gathered scattered := by
  intro key o
  simp only [Recorded, gathered, scattered, List.mem_cons, List.not_mem_nil, or_false,
    exists_eq_or_imp, exists_eq_left]
  tauto

/-- Both ways to record the objects give one answer, which a call for another key leaves as it
    is. -/
theorem objects_ofCalls_exact_scattered :
    SameRecords gathered scattered ∧
    objects (ofCalls scattered) (.localValue 0 1) = objects (ofCalls gathered) (.localValue 0 1) ∧
    ¬ sited.Tied (.ofType (.ofClass "Lapp/Data;")) ∧
    objects (add (ofCalls gathered) (.localValue 0 2) [.ofType (.ofClass "Lapp/Data;")])
        (.localValue 0 1)
      = objects (ofCalls gathered) (.localValue 0 1) := by
  rcases objects_ofCalls_exact gathered (.localValue 0 1) with ⟨_, _, _, hiff, htied, hframe⟩
  have hnot : ¬ sited.Tied (.ofType (.ofClass "Lapp/Data;")) := by
    rw [htied _ _ (by decide) (by decide)]
    decide
  have hmem : ∀ o, Recorded gathered (.localValue 0 1) o →
      o = sited ∨ o = .ofType (.ofClass "Lapp/Data;") := by
    rintro o ⟨c, hc, hkey, ho⟩
    simp only [gathered, List.mem_cons, List.not_mem_nil, or_false] at hc
    rcases hc with rfl | rfl
    · simpa using ho
    · simp at hkey
  refine ⟨sameRecords_gathered, hiff.2 ?_ scattered sameRecords_gathered, hnot,
    hframe _ _ (by decide)⟩
  intro a b ha hb hab
  rcases hmem a ha with rfl | rfl
  · rcases hmem b hb with rfl | rfl
    · rfl
    · exact absurd hab hnot
  · rcases hmem b hb with rfl | rfl
    · exact absurd hab.symm hnot
    · rfl

/-- An object of a type whose name has an `@`. -/
def looped : Instance := ⟨⟨"Lapp/Data;@loop", .unknown⟩, "new"⟩

/-- An object whose site has an `@`, so that its text is the same. -/
def unrolled : Instance := ⟨.ofClass "Lapp/Data;", "loop@new"⟩

/-- The same two objects are recorded in both orders, and each order is answered as it is. -/
theorem objects_ne_of_tied :
    SameRecords [(.localValue 0 1, [looped, unrolled])] [(.localValue 0 1, [unrolled, looped])] ∧
    objects (ofCalls [(.localValue 0 1, [looped, unrolled])]) (.localValue 0 1)
      ≠ objects (ofCalls [(.localValue 0 1, [unrolled, looped])]) (.localValue 0 1) := by
  have hne : looped ≠ unrolled := by decide
  have htied : looped.Tied unrolled := by
    unfold Instance.Tied
    decide +kernel
  constructor
  · intro key o
    simp only [Recorded, exists_eq_left, List.mem_cons, List.not_mem_nil, or_false]
    rw [or_comm]
  · intro heq
    have hpair := pair_sublist_objects [] (.localValue 0 1) _ _ hne htied
    have hswap := pair_sublist_objects [] (.localValue 0 1) _ _ hne.symm htied.symm
    rw [heq] at hpair
    exact not_pair_sublist_swap _ (nodup_objects _ _) _ _ hpair hswap

end Table

namespace Oracle

/-- The texts tell the objects of every key apart. -/
def Untied (o : Oracle) : Prop :=
  ∀ key, ∀ a ∈ o.objects key, ∀ b ∈ o.objects key, a.Tied b → a = b

theorem objects_eq_of_untied {o o' : Oracle}
    (hmem : ∀ key x, x ∈ o.objects key ↔ x ∈ o'.objects key) (hties : o.Untied) (key : Key) :
    o.objects key = o'.objects key := by
  cases o with
  | silent =>
      refine (List.eq_nil_iff_forall_not_mem.2 fun x hx => ?_).symm
      exact List.not_mem_nil ((hmem key x).2 hx)
  | recorded t =>
      cases o' with
      | silent =>
          refine List.eq_nil_iff_forall_not_mem.2 fun x hx => ?_
          exact List.not_mem_nil ((hmem key x).1 hx)
      | recorded u => exact Table.objects_eq_of_untied t u key (hmem key) (hties key)

end Oracle

end PointsTo

end TaintSeed
