import Mathlib.Data.List.Basic
import TaintSeed.Text.Bytes

/-!
# Lists in the Order of Their Texts

Reports list things in the order of their texts, and texts are compared by
their bytes. The order of bytes is a linear one, so a list of texts can be
sorted in one way only. A list of things is another matter: things that have
one text keep the order in which they came.

Whether that shows depends on what is written for each of them. If things with
one text are written in the same way, what is written is the same for every
order in which they came (`map_mergeSort_eq`).

## Theorems

* `Text.Bytes.ofText_join`: The bytes of texts one after the other.
* `Text.Bytes.mem_of_mem_ofText`: The byte of an ASCII character comes from that character.
* `Text.Bytes.listLe_total`, `Text.Bytes.listLe_trans`, `Text.Bytes.listLe_antisymm`: The order of
  bytes is linear.
* `Text.Bytes.keys_mergeSort_eq`: The texts of a sorted list depend on its texts alone.
* `Text.Bytes.map_mergeSort_eq`: Sorting hides the order of things whose ties are written alike.
-/

namespace TaintSeed

namespace Text.Bytes

theorem ofText_append (s t : String) : ofText (s ++ t) = ofText s ++ ofText t := by
  rw [ofText, String.toList_append, List.flatMap_append, ofText, ofText]

theorem ofText_join (ss : List String) : ofText (String.join ss) = (ss.map ofText).flatten := by
  induction ss with
  | nil => rfl
  | cons s ss ih => rw [String.join_cons, ofText_append, ih, List.map_cons, List.flatten_cons]

theorem ofText_eq_nil_iff {s : String} : ofText s = [] ↔ s = "" := by
  have hne : ∀ c, ofChar c ≠ [] := by
    intro c
    unfold ofChar encode
    split_ifs <;> simp
  rw [ofText, List.flatMap_eq_nil_iff, ← String.toList_eq_nil_iff, List.eq_nil_iff_forall_not_mem]
  exact forall_congr' (fun c => by simp [hne c])

/-- An ASCII character is found among the bytes where it is found in the text: no other character
    has its byte. -/
theorem mem_of_mem_ofText (c : Char) (hc : c.toNat < 0x80) {s : String} (h : c.toNat ∈ ofText s) :
    c ∈ s.toList := by
  rcases List.mem_flatMap.1 h with ⟨d, hd, hbyte⟩
  have heq : c.toNat = d.toNat := by
    unfold ofChar isStray encode at hbyte
    split_ifs at hbyte with hs h1 h2 h3
    · rw [Bool.and_eq_true, decide_eq_true_eq, decide_eq_true_eq] at hs
      rw [List.mem_singleton] at hbyte
      unfold strayBase at hs hbyte
      omega
    · simpa using hbyte
    -- All the bytes of a longer character are from 128 on.
    all_goals
      simp only [List.mem_cons, List.not_mem_nil, or_false] at hbyte
      omega
  rwa [Char.toNat_inj.1 heq]

/-! ## The order of bytes is linear -/

theorem listLe_total (as bs : List Nat) : (listLe as bs || listLe bs as) = true := by
  induction as generalizing bs with
  | nil => simp [listLe]
  | cons a as ih =>
      cases bs with
      | nil => simp [listLe]
      | cons b bs =>
          have hrest := ih bs
          simp only [listLe, Bool.or_eq_true, Bool.and_eq_true, decide_eq_true_eq, beq_iff_eq]
            at hrest ⊢
          rcases Nat.lt_trichotomy a b with hlt | rfl | hgt
          · exact Or.inl (Or.inl hlt)
          · exact hrest.imp (fun h => Or.inr ⟨rfl, h⟩) (fun h => Or.inr ⟨rfl, h⟩)
          · exact Or.inr (Or.inl hgt)

theorem listLe_trans (as bs cs : List Nat) (hab : listLe as bs = true)
    (hbc : listLe bs cs = true) : listLe as cs = true := by
  induction as generalizing bs cs with
  | nil => simp [listLe]
  | cons a as ih =>
      cases bs with
      | nil => cases hab
      | cons b bs =>
          cases cs with
          | nil => cases hbc
          | cons c cs =>
              have hrest := ih bs cs
              simp only [listLe, Bool.or_eq_true, Bool.and_eq_true, decide_eq_true_eq, beq_iff_eq]
                at hab hbc ⊢
              -- Where both steps are ties, the order is that of the rests.
              rcases hab with hab | ⟨rfl, hab⟩
              · omega
              · rcases hbc with hbc | ⟨rfl, hbc⟩
                · exact Or.inl hbc
                · exact Or.inr ⟨rfl, hrest hab hbc⟩

/-- Only equal lists of bytes come before each other. -/
theorem listLe_antisymm (as bs : List Nat) (hab : listLe as bs = true)
    (hba : listLe bs as = true) : as = bs := by
  induction as generalizing bs with
  | nil =>
      cases bs with
      | nil => rfl
      | cons b bs => cases hba
  | cons a as ih =>
      cases bs with
      | nil => cases hab
      | cons b bs =>
          simp only [listLe, Bool.or_eq_true, Bool.and_eq_true, decide_eq_true_eq, beq_iff_eq]
            at hab hba
          rcases hab with hab | ⟨rfl, hab⟩
          · omega
          · rcases hba with hba | ⟨_, hba⟩
            · omega
            · rw [ih bs hab hba]

section Sorting

variable {α β : Type}

/-- The texts of a sorted list depend on the texts alone, not on what has them or in which order
    it came. -/
theorem keys_mergeSort_eq (text : α → String) (xs ys : List α)
    (h : (xs.map (fun a => ofText (text a))).Perm (ys.map (fun a => ofText (text a)))) :
    (xs.mergeSort (fun a b => le (text a) (text b))).map (fun a => ofText (text a))
      = (ys.mergeSort (fun a b => le (text a) (text b))).map (fun a => ofText (text a)) := by
  have hsorted : ∀ zs : List α, ((zs.mergeSort (fun a b => le (text a) (text b))).map
      (fun a => ofText (text a))).Pairwise (fun as bs => listLe as bs = true) := by
    intro zs
    rw [List.pairwise_map]
    refine List.pairwise_mergeSort ?_ ?_ zs
    · exact fun a b c => listLe_trans (ofText (text a)) (ofText (text b)) (ofText (text c))
    · exact fun a b => listLe_total (ofText (text a)) (ofText (text b))
  refine List.Perm.eq_of_pairwise (fun _ _ _ _ => listLe_antisymm _ _) (hsorted xs) (hsorted ys) ?_
  exact ((List.mergeSort_perm xs _).map _).trans (h.trans ((List.mergeSort_perm ys _).map _).symm)

/-- Lists that agree in their keys agree in what the keys determine. -/
theorem map_eq_of_keys_eq {κ : Type} (key : α → κ) (line : α → β) (xs ys : List α)
    (hkeys : xs.map key = ys.map key)
    (hline : ∀ a ∈ xs, ∀ b ∈ ys, key a = key b → line a = line b) :
    xs.map line = ys.map line := by
  induction xs generalizing ys with
  | nil =>
      rw [List.map_nil, eq_comm, List.map_eq_nil_iff] at hkeys
      rw [hkeys]
  | cons x xs ih =>
      cases ys with
      | nil => cases hkeys
      | cons y ys =>
          rw [List.map_cons, List.map_cons, List.cons.injEq] at hkeys
          rw [List.map_cons, List.map_cons, hline x List.mem_cons_self y List.mem_cons_self hkeys.1,
            ih ys hkeys.2]
          exact fun a ha b hb => hline a (List.mem_cons_of_mem x ha) b (List.mem_cons_of_mem y hb)

/-- Sorting by text hides the order in which things came, if things with one text are written
    alike. -/
theorem map_mergeSort_eq (text : α → String) (line : α → β) (xs ys : List α) (h : xs.Perm ys)
    (hties : ∀ a ∈ xs, ∀ b ∈ xs, ofText (text a) = ofText (text b) → line a = line b) :
    (xs.mergeSort (fun a b => le (text a) (text b))).map line
      = (ys.mergeSort (fun a b => le (text a) (text b))).map line := by
  refine map_eq_of_keys_eq (fun a => ofText (text a)) line _ _
    (keys_mergeSort_eq text xs ys (h.map _)) ?_
  intro a ha b hb
  rw [List.mem_mergeSort] at ha hb
  exact hties a ha b (h.mem_iff.2 hb)

end Sorting

end Text.Bytes

end TaintSeed
