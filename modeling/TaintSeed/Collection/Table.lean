/-!
# Tables

A finite map that remembers the order in which its keys arrived. A look-up
scans the entries, and the first entry of a key answers; `modify` changes the
entry of a key in place or adds one at the end, so a key never gets a second
entry and the order of the keys never changes.

## Main definitions

* `Table`: A list of keys with their values.
* `Table.get?`: The value of a key.
* `Table.set`: Gives a key a value.
* `Table.modify`: Changes the value of a key, from a default if it has none.

## Theorems

* `Table.get?_modify`: What a look-up finds after a change.
* `Table.mem_keys_modify`: The keys after a change.
-/

namespace TaintSeed

/-- A finite map in the order of the arrival of its keys. -/
structure Table (κ α : Type) where
  /-- The keys with their values; the first entry of a key counts. -/
  entries : List (κ × α)
deriving DecidableEq, Inhabited

namespace Table

variable {κ α : Type}

instance : EmptyCollection (Table κ α) := ⟨⟨[]⟩⟩

/-- The keys, in the order of their arrival. -/
def keys (t : Table κ α) : List κ := t.entries.map Prod.fst

/-- The number of entries. -/
def size (t : Table κ α) : Nat := t.entries.length

variable [DecidableEq κ]

/-- The value of the first entry of `k` in a list of entries. -/
def find? (k : κ) : List (κ × α) → Option α
  | [] => none
  | e :: es => if e.1 = k then some e.2 else find? k es

/-- The list with the value of `k` changed by `f`; without an entry of `k`, the list with one
    added at the end that holds the change of `d`. -/
def change (k : κ) (d : α) (f : α → α) : List (κ × α) → List (κ × α)
  | [] => [(k, f d)]
  | e :: es => if e.1 = k then (k, f e.2) :: es else e :: change k d f es

/-- The value of a key. -/
def get? (t : Table κ α) (k : κ) : Option α := find? k t.entries

/-- Whether a key has a value. -/
def contains (t : Table κ α) (k : κ) : Bool := (t.get? k).isSome

/-- Changes the value of `k` by `f`; a key without a value starts from `d`. -/
def modify (t : Table κ α) (k : κ) (d : α) (f : α → α) : Table κ α := ⟨change k d f t.entries⟩

/-- Gives `k` the value `a`. -/
def set (t : Table κ α) (k : κ) (a : α) : Table κ α := t.modify k a (fun _ => a)

@[simp] theorem get?_empty (k : κ) : (∅ : Table κ α).get? k = none := rfl

theorem find?_change (k x : κ) (d : α) (f : α → α) (es : List (κ × α)) :
    find? x (change k d f es) =
      if k = x then some (f ((find? k es).getD d)) else find? x es := by
  induction es with
  | nil => simp [change, find?]
  | cons e es ih =>
    by_cases hk : e.1 = k
    · -- The entry of the key itself.
      by_cases hx : k = x
      · simp [change, find?, hk, hx]
      · simp [change, find?, hk, hx]
    · -- Another entry: it answers for its own key, and the rest is as before.
      by_cases hx : k = x
      · subst hx
        simp [change, find?, hk, ih]
      · simp [change, find?, hk, hx, ih]

/-- A change of `k` is seen by a look-up of `k` and by no other. -/
@[simp] theorem get?_modify (t : Table κ α) (k x : κ) (d : α) (f : α → α) :
    (t.modify k d f).get? x = if k = x then some (f ((t.get? k).getD d)) else t.get? x :=
  find?_change k x d f t.entries

@[simp] theorem get?_set (t : Table κ α) (k x : κ) (a : α) :
    (t.set k a).get? x = if k = x then some a else t.get? x := by
  simp [set]

theorem mem_keys_change (k x : κ) (d : α) (f : α → α) (es : List (κ × α)) :
    x ∈ (change k d f es).map Prod.fst ↔ x ∈ es.map Prod.fst ∨ x = k := by
  induction es with
  | nil => simp [change]
  | cons e es ih =>
    by_cases hk : e.1 = k
    · simp only [change, hk, ↓reduceIte, List.map_cons, List.mem_cons]
      grind
    · simp only [change, hk, ↓reduceIte, List.map_cons, List.mem_cons, ih]
      grind

/-- A change gives its key an entry and keeps those of the others. -/
theorem mem_keys_modify (t : Table κ α) (k x : κ) (d : α) (f : α → α) :
    x ∈ (t.modify k d f).keys ↔ x ∈ t.keys ∨ x = k :=
  mem_keys_change k x d f t.entries

theorem find?_isSome (k : κ) (es : List (κ × α)) :
    (find? k es).isSome = true ↔ k ∈ es.map Prod.fst := by
  induction es with
  | nil => simp [find?]
  | cons e es ih =>
    by_cases hk : e.1 = k
    · simp [find?, hk]
    · simp [find?, hk, ih, Ne.symm hk]

/-- What a look-up finds is an entry. -/
theorem mem_of_find? (k : κ) (a : α) (es : List (κ × α)) (h : find? k es = some a) :
    (k, a) ∈ es := by
  induction es with
  | nil => cases h
  | cons e es ih =>
    by_cases hk : e.1 = k
    · rw [find?, if_pos hk] at h
      cases h
      rw [← hk]
      exact List.mem_cons_self
    · rw [find?, if_neg hk] at h
      exact List.mem_cons_of_mem e (ih h)

/-- The keys are exactly what a look-up finds. -/
theorem contains_iff (t : Table κ α) (k : κ) : t.contains k = true ↔ k ∈ t.keys :=
  find?_isSome k t.entries

/-- A key is one that a look-up finds a value for. -/
theorem mem_keys_iff (t : Table κ α) (k : κ) : k ∈ t.keys ↔ ∃ a, t.get? k = some a := by
  rw [← contains_iff, contains, Option.isSome_iff_exists]

/-- Where no key is repeated, every entry is found. -/
theorem find?_of_mem (k : κ) (a : α) (es : List (κ × α)) (hn : (es.map Prod.fst).Nodup)
    (h : (k, a) ∈ es) : find? k es = some a := by
  induction es with
  | nil => exact absurd h List.not_mem_nil
  | cons e es ih =>
    rw [List.map_cons, List.nodup_cons] at hn
    rcases List.mem_cons.1 h with rfl | ht
    · exact if_pos rfl
    · have hk : e.1 ≠ k := fun hc => hn.1 (hc ▸ List.mem_map_of_mem ht)
      rw [find?, if_neg hk]
      exact ih hn.2 ht

/-- The entries of a table without repeated keys are what look-ups find. -/
theorem get?_eq_some_iff (t : Table κ α) (hn : t.keys.Nodup) (k : κ) (a : α) :
    t.get? k = some a ↔ (k, a) ∈ t.entries :=
  ⟨mem_of_find? k a t.entries, find?_of_mem k a t.entries hn⟩

/-- A look-up in a table that lists the values of a function. -/
theorem find?_map (f : κ → α) (ks : List κ) (k : κ) :
    find? k (ks.map (fun x => (x, f x))) = if k ∈ ks then some (f k) else none := by
  induction ks with
  | nil => rfl
  | cons x ks ih =>
    by_cases hx : x = k
    · subst hx
      simp [find?]
    · simp [find?, hx, ih, Ne.symm hx]

/-- A look-up in a table that lists the values of a partial function. -/
theorem find?_filterMap (f : κ → Option α) (ks : List κ) (k : κ) :
    find? k (ks.filterMap (fun x => (f x).map (fun a => (x, a)))) =
      if k ∈ ks then f k else none := by
  induction ks with
  | nil => rfl
  | cons x ks ih =>
    by_cases hx : x = k
    · subst hx
      cases hf : f x with
      | none => simp [hf, ih]
      | some a => simp [hf, find?]
    · cases hf : f x with
      | none => simp [hf, ih, Ne.symm hx]
      | some a => simp [hf, find?, hx, ih, Ne.symm hx]

/-! Tables that are filled by setting one key after the other. -/

theorem get?_foldl_set_of_not_mem {β : Type} (key : β → κ) (value : β → α) (bs : List β)
    (t : Table κ α) (k : κ) (h : k ∉ bs.map key) :
    (bs.foldl (fun t b => t.set (key b) (value b)) t).get? k = t.get? k := by
  induction bs generalizing t with
  | nil => rfl
  | cons b bs ih =>
    rw [List.map_cons, List.mem_cons, not_or] at h
    rw [List.foldl_cons, ih _ h.2, get?_set, if_neg (Ne.symm h.1)]

/-- The last value given to a key is the one that is found. -/
theorem get?_foldl_set_of_mem {β : Type} (key : β → κ) (value : β → α) (bs : List β)
    (t : Table κ α) (hn : (bs.map key).Nodup) (b : β) (h : b ∈ bs) :
    (bs.foldl (fun t b => t.set (key b) (value b)) t).get? (key b) = some (value b) := by
  induction bs generalizing t with
  | nil => exact absurd h List.not_mem_nil
  | cons c bs ih =>
    rw [List.map_cons, List.nodup_cons] at hn
    rw [List.foldl_cons]
    rcases List.mem_cons.1 h with rfl | ht
    · rw [get?_foldl_set_of_not_mem key value bs _ _ hn.1, get?_set, if_pos rfl]
    · exact ih _ hn.2 ht

theorem keys_change_of_not_mem (k : κ) (d : α) (f : α → α) (es : List (κ × α))
    (h : k ∉ es.map Prod.fst) : (change k d f es).map Prod.fst = es.map Prod.fst ++ [k] := by
  induction es with
  | nil => rfl
  | cons e es ih =>
    rw [List.map_cons, List.mem_cons, not_or] at h
    rw [change, if_neg (Ne.symm h.1), List.map_cons, ih h.2, List.map_cons, List.cons_append]

theorem keys_change_of_mem (k : κ) (d : α) (f : α → α) (es : List (κ × α))
    (h : k ∈ es.map Prod.fst) : (change k d f es).map Prod.fst = es.map Prod.fst := by
  induction es with
  | nil => exact absurd h List.not_mem_nil
  | cons e es ih =>
    by_cases hk : e.1 = k
    · rw [change, if_pos hk, List.map_cons, List.map_cons, hk]
    · rw [List.map_cons, List.mem_cons] at h
      have ht : k ∈ es.map Prod.fst := h.resolve_left (Ne.symm hk)
      rw [change, if_neg hk, List.map_cons, ih ht, List.map_cons]

/-- A change never gives a key a second entry. -/
theorem nodup_keys_modify (t : Table κ α) (k : κ) (d : α) (f : α → α) (hn : t.keys.Nodup) :
    (t.modify k d f).keys.Nodup := by
  by_cases hk : k ∈ t.keys
  · have hsame : (t.modify k d f).keys = t.keys := keys_change_of_mem k d f t.entries hk
    rw [hsame]
    exact hn
  · have hnew : (t.modify k d f).keys = t.keys ++ [k] :=
      keys_change_of_not_mem k d f t.entries hk
    rw [hnew, List.nodup_append]
    refine ⟨hn, List.nodup_cons.2 ⟨List.not_mem_nil, List.nodup_nil⟩, ?_⟩
    intro x hx y hy hxy
    rw [List.mem_singleton] at hy
    exact hk (hy ▸ hxy ▸ hx)

/-- New keys are listed in the order in which they are set. -/
theorem keys_foldl_set {β : Type} (key : β → κ) (value : β → α) (bs : List β) (t : Table κ α)
    (hn : (t.keys ++ bs.map key).Nodup) :
    (bs.foldl (fun t b => t.set (key b) (value b)) t).keys = t.keys ++ bs.map key := by
  induction bs generalizing t with
  | nil => simp
  | cons b bs ih =>
    have hb : key b ∉ t.keys := by
      intro hc
      rw [List.nodup_append] at hn
      exact hn.2.2 _ hc _ (List.mem_map_of_mem List.mem_cons_self) rfl
    have hset : (t.set (key b) (value b)).keys = t.keys ++ [key b] :=
      keys_change_of_not_mem (key b) _ _ t.entries hb
    have hsplit : t.keys ++ (b :: bs).map key = (t.keys ++ [key b]) ++ bs.map key := by simp
    rw [hsplit] at hn ⊢
    rw [List.foldl_cons, ih _ (by rw [hset]; exact hn), hset]

end Table

end TaintSeed
