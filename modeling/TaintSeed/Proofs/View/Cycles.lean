import TaintSeed.Proofs.View.Choice
import TaintSeed.Proofs.View.Circuits
import TaintSeed.Proofs.View.Stats

/-!
# The Search Finds the Elementary Cycles

The search goes through the numbers that lie on a cycle, from the least
upwards, and looks for the cycles through each of them among the numbers that
are not smaller, inside its component. Which number comes next and what its
component is, it reads off the components that some algorithm finds; `Choice`
has shown what it gets to know. Three things remain to be seen.

A cycle through a number stays in its component, so nothing is lost by looking
only there. `isRoute_component` says this: the routes in the component are
those in the whole part.

A number that is passed over lies on no cycle among the numbers that are left.
So the cycles whose least number is the chosen one and the cycles of larger
numbers are all there are. This is the step of the induction in
`mem_circuitsFrom_iff`.

And the walk itself finds the routes of its part, which `Circuits` shows.
`circuitsFrom` is the search with the walks replaced by the plain search and
without a limit, and `cyclesFrom_eq` says that with a limit the library finds
its beginning.

The list of all cycles is determined by what they are and by their order, so two
correct algorithms lead to the same list (`cyclesBy_eq_cycles`).

## Main definitions

* `View.IsElementaryCycle`: A cycle that passes no number twice, given from its least number.
* `View.leastAt`, `View.partAt`: The chosen number and the part that is searched.
* `View.circuitsFrom`: The search for cycles without blocking and without a limit.

## Theorems

* `View.isElementaryCycle_iff`: A cycle is a route from its least number to itself.
* `View.isRoute_restrict`: The routes in a part of a view.
* `View.isRoute_component`: The routes home to a number stay in its component.
* `View.mem_circuitsFrom_iff`: The plain search finds the elementary cycles.
* `View.circuitsFrom_pairwise`: It finds them in lexicographic order.
* `View.cyclesFrom_eq`: The search finds the beginning of that.
* `View.cyclesBy_eq_cycles`: What is found does not depend on the algorithm for components.
* `View.cycles_exact`: The search finds each elementary cycle once and nothing else.
* `View.cycles_ordered`: It finds them in order, and a limit leaves the first of them.
-/

namespace TaintSeed

namespace View

/-- A way around that passes no number twice, given from its least number to it again. -/
structure IsElementaryCycle (v : View) (c : List NodeId) : Prop where
  /-- There is at least one edge. -/
  length : 2 ≤ c.length
  /-- The way ends where it begins. -/
  closed : c.head? = c.getLast?
  /-- No number is passed twice. -/
  nodup : c.dropLast.Nodup
  /-- The first number is the least. -/
  least : ∀ first ∈ c.head?, ∀ x ∈ c, first ≤ x
  /-- Each number has an edge to the next. -/
  chain : c.IsChain (fun a b => v.hasEdge a b = true)

/-- A cycle is a route from its least number to itself. -/
theorem isElementaryCycle_iff (v : View) (c : List NodeId) :
    v.IsElementaryCycle c ↔
      ∃ x q, c = x :: (q ++ [x]) ∧ v.IsRoute x [] x q ∧ ∀ z ∈ q, x < z := by
  constructor
  · rintro ⟨hlength, hclosed, hnodup, hleast, hchain⟩
    -- Take the first and the last number off; they are the same.
    rcases c with _ | ⟨x, c⟩
    · exact absurd hlength (by decide)
    rcases List.eq_nil_or_concat' c with rfl | ⟨q, y, rfl⟩
    · exact absurd hlength (by decide : ¬2 ≤ 1)
    rw [← List.cons_append, List.getLast?_concat] at hclosed
    cases hclosed
    rw [← List.cons_append, List.dropLast_concat, List.nodup_cons] at hnodup
    refine ⟨x, q, rfl, ⟨hchain, hnodup.2, hnodup.1, fun z hz hc => ?_⟩, fun z hz => ?_⟩
    · rw [List.mem_singleton.1 hc] at hz
      exact hnodup.1 hz
    · have hle : x ≤ z :=
        hleast x rfl z (List.mem_cons_of_mem x (List.mem_append_left [x] hz))
      refine lt_of_le_of_ne hle ?_
      rintro rfl
      exact hnodup.1 hz
  · rintro ⟨x, q, rfl, hq, hlt⟩
    refine ⟨?_, ?_, ?_, ?_, hq.chain⟩
    · rw [List.length_cons, List.length_append, List.length_singleton]
      omega
    · rw [← List.cons_append, List.getLast?_concat]
      rfl
    · rw [← List.cons_append, List.dropLast_concat]
      exact List.nodup_cons.2 ⟨hq.home, hq.nodup⟩
    · intro first hfirst z hz
      cases hfirst
      rcases List.mem_cons.1 hz with rfl | hz
      · exact le_refl z
      · rcases List.mem_append.1 hz with hz | hz
        · exact le_of_lt (hlt z hz)
        · rw [List.mem_singleton.1 hz]

/-! ## Routes in parts of a view -/

theorem hasEdge_restrict_iff (v : View) (hv : v.WellFormed) (ids : List NodeId) (x y : NodeId) :
    (v.restrict ids).hasEdge x y = true ↔ v.hasEdge x y = true ∧ x ∈ ids ∧ y ∈ ids := by
  rw [hasEdge_restrict, mem_keys_restrict ids hv, mem_keys_restrict ids hv]
  constructor
  · rintro ⟨⟨hx, _⟩, ⟨hy, _⟩, hedge⟩
    exact ⟨hedge, hx, hy⟩
  · rintro ⟨hedge, hx, hy⟩
    exact ⟨⟨hx, hv.starts x y hedge⟩, ⟨hy, hv.ends x y hedge⟩, hedge⟩

/-- The routes in a part of a view are those that do not leave it. -/
theorem isRoute_restrict (v : View) (hv : v.WellFormed) (ids : List NodeId) (start : NodeId)
    (path : List NodeId) (x : NodeId) (q : List NodeId) :
    (v.restrict ids).IsRoute start path x q ↔
      v.IsRoute start path x q ∧ ∀ z ∈ x :: (q ++ [start]), z ∈ ids := by
  induction q generalizing path x with
  | nil =>
      rw [isRoute_nil, isRoute_nil, hasEdge_restrict_iff v hv, List.nil_append,
        List.forall_mem_cons, List.forall_mem_singleton]
  | cons y q ih =>
      have hsplit : (∀ z ∈ x :: (y :: q ++ [start]), z ∈ ids) ↔
          x ∈ ids ∧ ∀ z ∈ y :: (q ++ [start]), z ∈ ids := List.forall_mem_cons
      rw [isRoute_cons, isRoute_cons, ih, hasEdge_restrict_iff v hv, hsplit]
      constructor
      · rintro ⟨⟨hedge, hx, _⟩, hstart, hnew, hroute, hin⟩
        exact ⟨⟨hedge, hstart, hnew, hroute⟩, hx, hin⟩
      · rintro ⟨⟨hedge, hstart, hnew, hroute⟩, hx, hin⟩
        exact ⟨⟨hedge, hx, hin y List.mem_cons_self⟩, hstart, hnew, hroute, hin⟩

-- A route leads home.
theorem IsRoute.reaches {v : View} {start x : NodeId} {path q : List NodeId}
    (h : v.IsRoute start path x q) : v.Reaches x start := by
  induction q generalizing path x with
  | nil => exact .single ((isRoute_nil v start path x).1 h)
  | cons y q ih =>
      rcases (isRoute_cons v start path x y q).1 h with ⟨hedge, _, _, hrest⟩
      exact .head hedge (ih hrest)

/-- Every number of a route can be reached, and leads home. -/
theorem IsRoute.reaches_of_mem {v : View} {start x z : NodeId} {path q : List NodeId}
    (h : v.IsRoute start path x q) (hz : z ∈ q) : v.Reaches x z ∧ v.Reaches z start := by
  induction q generalizing path x with
  | nil => exact absurd hz List.not_mem_nil
  | cons y q ih =>
      rcases (isRoute_cons v start path x y q).1 h with ⟨hedge, _, _, hrest⟩
      rcases List.mem_cons.1 hz with rfl | hz
      · exact ⟨.single hedge, hrest.reaches⟩
      · rcases ih hrest hz with ⟨hto, hhome⟩
        exact ⟨.head hedge hto, hhome⟩

-- The numbers of a route are in the view.
theorem IsRoute.mem_keys {v : View} (hv : v.WellFormed) {start x : NodeId} {path q : List NodeId}
    (h : v.IsRoute start path x q) (z : NodeId) (hz : z ∈ x :: (q ++ [start])) : z ∈ v.keys := by
  rcases List.mem_cons.1 hz with rfl | hz
  · exact (h.reaches.mem_keys hv).1
  · rcases List.mem_append.1 hz with hz | hz
    · exact ((h.reaches_of_mem hz).1.mem_keys hv).2
    · rw [List.mem_singleton.1 hz]
      exact (h.reaches.mem_keys hv).2

/-- The routes from a number home to it are the same in its component. -/
theorem isRoute_component (v : View) (hv : v.WellFormed) (x : NodeId) (ids : List NodeId)
    (hids : ∀ y, y ∈ ids ↔ v.Connected x y) (q : List NodeId) :
    (v.restrict ids).IsRoute x [] x q ↔ v.IsRoute x [] x q := by
  rw [isRoute_restrict v hv]
  refine ⟨fun h => h.1, fun h => ⟨h, fun z hz => (hids z).2 ?_⟩⟩
  -- Every number of the route is reached from `x` and leads back to it.
  rcases List.mem_cons.1 hz with rfl | hz
  · exact Or.inl rfl
  · rcases List.mem_append.1 hz with hz | hz
    · exact Or.inr (h.reaches_of_mem hz)
    · exact Or.inl (List.mem_singleton.1 hz).symm

/-- The plain search is deep enough if it may enter every number. -/
theorem mem_routes_length_iff (v : View) (hv : v.WellFormed) (start : NodeId)
    (c : List NodeId) :
    c ∈ v.routes start (v.length + 1) [] start ↔
      ∃ q, v.IsRoute start [] start q ∧ c = start :: (q ++ [start]) := by
  rw [mem_routes_iff]
  constructor
  · rintro ⟨q, hq, _, hc⟩
    exact ⟨q, hq, hc⟩
  · rintro ⟨q, hq, hc⟩
    refine ⟨q, hq, Nat.lt_succ_of_le ?_, hc⟩
    refine List.Nodup.length_le_of_subset hq.nodup (fun z hz => ?_)
    exact hq.mem_keys hv z (List.mem_cons_of_mem start (List.mem_append_left [start] hz))

/-! ## The numbers that are left -/

-- In a list in order, the numbers behind a member are the larger ones.
theorem tail_dropWhile_eq_filter (ks : List NodeId) (hs : ks.Pairwise (· < ·)) (x : NodeId)
    (hx : x ∈ ks) :
    (ks.dropWhile (fun k => decide (k < x))).tail = ks.filter (fun k => decide (x < k)) := by
  induction ks with
  | nil => exact absurd hx List.not_mem_nil
  | cons k ks ih =>
      rw [List.pairwise_cons] at hs
      rcases List.mem_cons.1 hx with rfl | hmem
      · have hall : ks.filter (fun k => decide (x < k)) = ks :=
          List.filter_eq_self.2 (fun z hz => decide_eq_true (hs.1 z hz))
        rw [List.dropWhile_cons_of_neg (by simp), List.tail_cons,
          List.filter_cons_of_neg (by simp), hall]
      · have hlt : k < x := hs.1 x hmem
        rw [List.dropWhile_cons_of_pos (by simpa using hlt), ih hs.2 hmem,
          List.filter_cons_of_neg (by simpa using le_of_lt hlt)]

theorem length_filter_lt (ks : List NodeId) (x : NodeId) (hx : x ∈ ks) :
    (ks.filter (fun k => decide (x < k))).length < ks.length :=
  List.length_filter_lt_length_iff_exists.2 ⟨x, hx, by simp⟩

/-! ## The search without blocking -/

section

variable (find : Iterator → List (List NodeId)) (v : View)

/-- The number on a cycle that is chosen among `keys`; negative if there is none. -/
def leastAt (keys : List NodeId) : NodeId := ((v.restrict keys).choose find).least

/-- The part in which the cycles through the chosen number are looked for. -/
def partAt (keys : List NodeId) : View :=
  (v.restrict keys).restrict ((v.restrict keys).choose find).component.toList

/-- The cycles through the chosen number in its part, found by the plain search. -/
def circuitsAt (keys : List NodeId) : List (List NodeId) :=
  (v.partAt find keys).routes (v.leastAt find keys) ((v.partAt find keys).length + 1) []
    (v.leastAt find keys)

/-- The cycles through the least number on a cycle among `keys`, then those through the next one,
    and so on; at most `fuel` times. -/
def circuitsFrom : Nat → List NodeId → List (List NodeId)
  | 0, _ => []
  | fuel + 1, keys =>
    if v.leastAt find keys < 0 then []
    else v.circuitsAt find keys ++
      circuitsFrom fuel (keys.dropWhile (fun x => decide (x < v.leastAt find keys))).tail

end

section

variable {find : Iterator → List (List NodeId)} (hfind : FindsComponents find) (v : View)
  (hv : v.WellFormed) (hr : v.InRange)
include hfind hv hr

-- Either nothing is left to be found, or the chosen number is the least on a cycle.
theorem leastAt_spec (keys : List NodeId) :
    (v.leastAt find keys < 0 ∧ ∀ x, ¬(v.restrict keys).Reaches x x) ∨
      (0 ≤ v.leastAt find keys ∧ v.leastAt find keys ∈ keys ∧
        v.leastAt find keys ∈ (v.partAt find keys).keys ∧
        (∀ x, (v.restrict keys).Reaches x x → v.leastAt find keys ≤ x) ∧
        ∀ y, y ∈ ((v.restrict keys).choose find).component.toList ↔
          (v.restrict keys).Connected (v.leastAt find keys) y) := by
  have hpart := restrict_wellFormed keys hv
  rcases choose_spec hfind hpart (hr.restrict hv keys) with hnone | ⟨hnatural, hround, hle, hmem⟩
  · exact Or.inl hnone
  · have hkey := (hround.mem_keys hpart).1
    exact Or.inr ⟨hnatural, ((mem_keys_restrict keys hv _).1 hkey).1,
      (mem_keys_restrict _ hpart _).2 ⟨(hmem _).2 (Or.inl rfl), hkey⟩, hle, hmem⟩

omit hfind hr in
theorem partAt_wellFormed (keys : List NodeId) : (v.partAt find keys).WellFormed :=
  restrict_wellFormed _ (restrict_wellFormed _ hv)

/-- The cycles that are found through the chosen number. -/
theorem mem_circuitsAt_iff (keys : List NodeId) (hleast : ¬v.leastAt find keys < 0)
    (c : List NodeId) :
    c ∈ v.circuitsAt find keys ↔
      ∃ q, (v.restrict keys).IsRoute (v.leastAt find keys) [] (v.leastAt find keys) q ∧
        c = v.leastAt find keys :: (q ++ [v.leastAt find keys]) := by
  rcases leastAt_spec hfind v hv hr keys with hnone | ⟨_, _, _, _, hmem⟩
  · exact absurd hnone.1 hleast
  · rw [circuitsAt, mem_routes_length_iff _ (partAt_wellFormed v hv keys)]
    refine exists_congr (fun q => ?_)
    rw [partAt, isRoute_component _ (restrict_wellFormed keys hv) _ _ hmem]

/-- What is found among `keys` are the elementary cycles among them. -/
theorem mem_circuitsFrom_iff (fuel : Nat) (keys : List NodeId) (hs : keys.Pairwise (· < ·))
    (hfuel : keys.length ≤ fuel) (c : List NodeId) :
    c ∈ v.circuitsFrom find fuel keys ↔ v.IsElementaryCycle c ∧ ∀ z ∈ c, z ∈ keys := by
  induction fuel generalizing keys with
  | zero =>
      have hnil : keys = [] := List.length_eq_zero_iff.1 (Nat.le_zero.1 hfuel)
      subst hnil
      refine ⟨fun hc => absurd hc List.not_mem_nil, ?_⟩
      rintro ⟨hc, hin⟩
      rcases (isElementaryCycle_iff v c).1 hc with ⟨x, q, rfl, _⟩
      exact absurd (hin x List.mem_cons_self) List.not_mem_nil
  | succ fuel ih =>
      rw [circuitsFrom]
      rcases leastAt_spec hfind v hv hr keys with ⟨hnegative, hnone⟩ | ⟨hnatural, hmem, _, hmin, _⟩
      · rw [if_pos hnegative]
        refine ⟨fun hc => absurd hc List.not_mem_nil, ?_⟩
        rintro ⟨hc, hin⟩
        -- The least number of a cycle would lie on one here, but none does.
        rcases (isElementaryCycle_iff v c).1 hc with ⟨x, q, rfl, hq, _⟩
        have hroute := (isRoute_restrict v hv keys x [] x q).2 ⟨hq, hin⟩
        exact absurd hroute.reaches (hnone x)
      · have hshorter := length_filter_lt keys _ hmem
        rw [if_neg (not_lt.2 hnatural), tail_dropWhile_eq_filter keys hs _ hmem, List.mem_append,
          mem_circuitsAt_iff hfind v hv hr keys (not_lt.2 hnatural),
          ih _ (hs.filter _) (by omega)]
        constructor
        · rintro (⟨q, hroute, rfl⟩ | ⟨hc, hin⟩)
          · rcases (isRoute_restrict v hv keys _ [] _ q).1 hroute with ⟨hq, hin⟩
            refine ⟨(isElementaryCycle_iff v _).2 ⟨_, q, rfl, hq, fun z hz => ?_⟩, hin⟩
            -- Every number of the route lies on a cycle itself.
            rcases hroute.reaches_of_mem hz with ⟨hto, hhome⟩
            refine lt_of_le_of_ne (hmin z (hhome.trans hto)) ?_
            intro heq
            rw [← heq] at hz
            exact hq.home hz
          · exact ⟨hc, fun z hz => List.mem_of_mem_filter (hin z hz)⟩
        · rintro ⟨hc, hin⟩
          rcases (isElementaryCycle_iff v c).1 hc with ⟨x, q, rfl, hq, _⟩
          have hroute := (isRoute_restrict v hv keys x [] x q).2 ⟨hq, hin⟩
          by_cases hx : x = v.leastAt find keys
          · subst hx
            exact Or.inl ⟨q, hroute, rfl⟩
          · have hlt : v.leastAt find keys < x :=
              lt_of_le_of_ne (hmin x hroute.reaches) (Ne.symm hx)
            refine Or.inr ⟨hc, fun z hz => List.mem_filter.2 ⟨hin z hz, ?_⟩⟩
            exact decide_eq_true (lt_of_lt_of_le hlt (hc.least x rfl z hz))

/-- The cycles are found in lexicographic order. -/
theorem circuitsFrom_pairwise (fuel : Nat) (keys : List NodeId) (hs : keys.Pairwise (· < ·))
    (hfuel : keys.length ≤ fuel) : (v.circuitsFrom find fuel keys).Pairwise (· < ·) := by
  induction fuel generalizing keys with
  | zero => exact List.Pairwise.nil
  | succ fuel ih =>
      rw [circuitsFrom]
      rcases leastAt_spec hfind v hv hr keys with ⟨hnegative, _⟩ | ⟨hnatural, hmem, _, _, _⟩
      · rw [if_pos hnegative]
        exact List.Pairwise.nil
      · have hshorter := length_filter_lt keys _ hmem
        rw [if_neg (not_lt.2 hnatural), tail_dropWhile_eq_filter keys hs _ hmem,
          List.pairwise_append]
        refine ⟨routes_pairwise _ _ _ [] _, ih _ (hs.filter _) (by omega), ?_⟩
        -- The cycles found later begin with a larger number.
        intro c hc d hd
        rcases (mem_circuitsAt_iff hfind v hv hr keys (not_lt.2 hnatural) c).1 hc with ⟨q, _, rfl⟩
        rcases (mem_circuitsFrom_iff hfind v hv hr fuel _ (hs.filter _) (by omega) d).1 hd with
          ⟨hcycle, hin⟩
        rcases (isElementaryCycle_iff v d).1 hcycle with ⟨x, r, rfl, _⟩
        have hlt := (List.mem_filter.1 (hin x List.mem_cons_self)).2
        exact List.cons_lt_cons_iff.2 (Or.inl (of_decide_eq_true hlt))

end

/-! ## The search of the library -/

theorem cyclesFrom_succ (find : Iterator → List (List NodeId)) (v : View) (limit : Int)
    (fuel : Nat) (keys : List NodeId) (found : Array (List NodeId)) :
    cyclesFrom find v limit (fuel + 1) keys found =
      if keys.isEmpty || (⟨∅, ∅, [], found⟩ : Circuits).isFull limit then found
      else if v.leastAt find keys < 0 then found
      else cyclesFrom find v limit fuel
        (keys.dropWhile (fun x => decide (x < v.leastAt find keys))).tail
        (Circuits.walk (v.partAt find keys) limit (v.leastAt find keys)
          ((v.partAt find keys).length + 1) (v.leastAt find keys) ⟨∅, ∅, [], found⟩).1.found := rfl

section

variable {find : Iterator → List (List NodeId)} (hfind : FindsComponents find) (v : View)
  (hv : v.WellFormed) (hr : v.InRange)
include hfind hv hr

/-- The walk through the chosen number finds what the plain search finds. -/
theorem found_walk_partAt (limit : Int) (keys : List NodeId) (hleast : ¬v.leastAt find keys < 0)
    (found : Array (List NodeId)) (hroom : (⟨∅, ∅, [], found⟩ : Circuits).isFull limit = false) :
    (Circuits.walk (v.partAt find keys) limit (v.leastAt find keys)
        ((v.partAt find keys).length + 1) (v.leastAt find keys)
        ⟨∅, ∅, [], found⟩).1.found.toList =
      upTo limit (found.toList ++ v.circuitsAt find keys) := by
  rcases leastAt_spec hfind v hv hr keys with hnone | ⟨_, _, hkey, _, _⟩
  · exact absurd hnone.1 hleast
  · exact (Circuits.walk_walked _ (partAt_wellFormed v hv keys) limit _ _ _ ⟨∅, ∅, [], found⟩
      (Circuits.start_disciplined _ _ found) hroom hkey (DistinctList.not_mem_empty _)
      (Nat.lt_succ_self _)).found

theorem circuitsFrom_nil (fuel : Nat) : v.circuitsFrom find fuel [] = [] := by
  cases fuel with
  | zero => rfl
  | succ fuel =>
      rcases leastAt_spec hfind v hv hr [] with ⟨hnegative, _⟩ | ⟨_, hmem, _⟩
      · rw [circuitsFrom, if_pos hnegative]
      · exact absurd hmem List.not_mem_nil

/-- With a limit, the search finds the beginning of what the plain search finds. -/
theorem cyclesFrom_eq (limit : Int) (fuel : Nat) (keys : List NodeId)
    (found : Array (List NodeId)) (hfound : upTo limit found.toList = found.toList) :
    (cyclesFrom find v limit fuel keys found).toList =
      upTo limit (found.toList ++ v.circuitsFrom find fuel keys) := by
  induction fuel generalizing keys found with
  | zero => rw [cyclesFrom, circuitsFrom, List.append_nil, hfound]
  | succ fuel ih =>
      rw [cyclesFrom_succ]
      by_cases hfull : (⟨∅, ∅, [], found⟩ : Circuits).isFull limit = true
      · rw [if_pos (by rw [hfull, Bool.or_true])]
        exact Circuits.upTo_append_of_isFull limit ⟨∅, ∅, [], found⟩ _ _ hfound.symm hfull
      · cases keys with
        | nil =>
            rw [circuitsFrom_nil hfind v hv hr, List.append_nil, hfound]
            rfl
        | cons k ks =>
            rw [if_neg (by simpa using hfull), circuitsFrom]
            by_cases hleast : v.leastAt find (k :: ks) < 0
            · rw [if_pos hleast, if_pos hleast, List.append_nil, hfound]
            · have hwalk := found_walk_partAt hfind v hv hr limit (k :: ks) hleast found
                (Bool.eq_false_iff.2 hfull)
              -- What the walk has found respects the limit, so the induction goes on with it.
              have hkept := upTo_append_upTo limit
                (found.toList ++ v.circuitsAt find (k :: ks)) []
              rw [List.append_nil, List.append_nil, ← hwalk] at hkept
              rw [if_neg hleast, if_neg hleast, ih _ _ hkept, hwalk, upTo_append_upTo,
                List.append_assoc]

/-- The search finds the beginning of the list of all elementary cycles. -/
theorem cyclesBy_eq_upTo (limit : Int) :
    v.cyclesBy find limit = upTo limit (v.circuitsFrom find v.length v.keys) := by
  have hnone : upTo limit (#[] : Array (List NodeId)).toList = (#[] : Array (List NodeId)).toList :=
    upTo_of_length_le limit [] (fun hpos => le_of_lt hpos)
  exact cyclesFrom_eq hfind v hv hr limit v.length v.keys #[] hnone

/-- All elementary cycles are found if nothing limits the search. -/
theorem mem_circuits_iff (c : List NodeId) :
    c ∈ v.circuitsFrom find v.length v.keys ↔ v.IsElementaryCycle c := by
  rw [mem_circuitsFrom_iff hfind v hv hr v.length v.keys hv.sorted (le_refl _)]
  refine ⟨fun h => h.1, fun h => ⟨h, fun z hz => ?_⟩⟩
  rcases (isElementaryCycle_iff v c).1 h with ⟨x, q, rfl, hq, _⟩
  exact hq.mem_keys hv z hz

theorem circuits_pairwise : (v.circuitsFrom find v.length v.keys).Pairwise (· < ·) :=
  circuitsFrom_pairwise hfind v hv hr v.length v.keys hv.sorted (le_refl _)

theorem circuits_nodup : (v.circuitsFrom find v.length v.keys).Nodup := by
  refine (circuits_pairwise hfind v hv hr).imp ?_
  rintro c d hlt rfl
  exact List.lt_irrefl c hlt

theorem cyclesBy_of_nonpos (limit : Int) (hlimit : limit ≤ 0) :
    v.cyclesBy find limit = v.circuitsFrom find v.length v.keys := by
  rw [cyclesBy_eq_upTo hfind v hv hr, upTo, if_neg (not_lt_of_ge hlimit)]

/-- What is found does not depend on the algorithm that finds components: the cycles are the same,
    and so is their order. -/
theorem cyclesBy_eq_cycles (limit : Int) : v.cyclesBy find limit = v.cycles limit := by
  have hperm : (v.circuitsFrom find v.length v.keys).Perm
      (v.circuitsFrom Iterator.components v.length v.keys) := by
    refine (List.perm_ext_iff_of_nodup (circuits_nodup hfind v hv hr)
      (circuits_nodup findsComponents v hv hr)).2 (fun c => ?_)
    rw [mem_circuits_iff hfind v hv hr, mem_circuits_iff findsComponents v hv hr]
  have hsame := hperm.eq_of_pairwise (fun c d _ _ hcd hdc => absurd hdc (List.lt_asymm hcd))
    (circuits_pairwise hfind v hv hr) (circuits_pairwise findsComponents v hv hr)
  rw [cycles, cyclesBy_eq_upTo hfind v hv hr, cyclesBy_eq_upTo findsComponents v hv hr, hsame]

end

/-- A walk through a view whose numbers are in range meets no other number. -/
theorem strayAhead?_eq_none (v : View) (hv : v.WellFormed) (hr : v.InRange) (fuel : Nat)
    (pending : List NodeId) (seen : DistinctList NodeId) (hpending : ∀ x ∈ pending, x ∈ v.keys) :
    v.strayAhead? fuel pending seen = none := by
  induction fuel generalizing pending seen with
  | zero => rfl
  | succ fuel ih =>
      cases pending with
      | nil => rfl
      | cons x xs =>
          -- Callees are numbers of the view again.
          have hrest : ∀ y ∈ xs, y ∈ v.keys := fun y hy => hpending y (List.mem_cons_of_mem x hy)
          rw [strayAhead?, hr x (hpending x List.mem_cons_self), if_neg (by simp)]
          split
          · exact ih xs seen hrest
          · refine ih _ _ (fun y hy => ?_)
            rcases List.mem_append.1 hy with hy | hy
            · exact hv.ends x y ((mem_succs_iff v x y).1 hy)
            · exact hrest y hy

/-- The search succeeds in every derived view if there is room for the numbers of its graph. -/
theorem cycles?_eq_ok (g : Graph) (v : View) (hv : v.DerivedFrom g) (limit : Int)
    (hroom : (g.size : Int) ≤ 2 ^ 45) : v.cycles? limit = .ok (v.cycles limit) := by
  have hw := hv.wellFormed
  have hstray := strayAhead?_eq_none v hw hv.inRange (v.length + v.size + 1) v.vertices ∅
    (fun x hx => (mem_distinctKeys v x).1 (List.mem_of_mem_filter hx))
  rw [cycles?, hv.hasRoom_eq_true hroom, hstray]
  split
  · rename_i hempty
    have hnil : v.keys = [] := List.isEmpty_iff.1 hempty
    rw [cycles, cyclesBy, length, hnil]
    rfl
  · rfl

/-- In a view that is derived from a call graph, the search without a limit finds every elementary
    cycle once and nothing else, whatever correct algorithm tells it the components. This is what
    the library finds if there is room for the numbers of the graph. -/
theorem cycles_exact (find : Iterator → List (List NodeId)) (hfind : FindsComponents find)
    (g : Graph) (v : View) (hv : v.DerivedFrom g) (limit : Int) (hlimit : limit ≤ 0) :
    ((g.size : Int) ≤ 2 ^ 45 → v.cycles? limit = .ok (v.cyclesBy find limit)) ∧
      (v.cyclesBy find limit).Nodup ∧ ∀ c, c ∈ v.cyclesBy find limit ↔ v.IsElementaryCycle c := by
  have hw := hv.wellFormed
  refine ⟨fun hroom => ?_, ?_, fun c => ?_⟩
  · rw [cyclesBy_eq_cycles hfind v hw hv.inRange, cycles?_eq_ok g v hv limit hroom]
  · rw [cyclesBy_of_nonpos hfind v hw hv.inRange limit hlimit]
    exact circuits_nodup hfind v hw hv.inRange
  · rw [cyclesBy_of_nonpos hfind v hw hv.inRange limit hlimit,
      mem_circuits_iff hfind v hw hv.inRange]

/-- In the sample a cycle through three nodes and a node that calls itself are found, and the first
    of them is found from its least number only. -/
theorem cycles_exact_callback :
    (ofGraph .callback).DerivedFrom .callback ∧ FindsComponents Iterator.components ∧
    (ofGraph .callback).cycles? 0 = .ok ((ofGraph .callback).cyclesBy Iterator.components 0) ∧
    ((ofGraph .callback).cyclesBy Iterator.components 0).Nodup ∧
    [0, 1, 2, 0] ∈ (ofGraph .callback).cyclesBy Iterator.components 0 ∧
    [1, 1] ∈ (ofGraph .callback).cyclesBy Iterator.components 0 ∧
    [1, 2, 0, 1] ∉ (ofGraph .callback).cyclesBy Iterator.components 0 := by
  have hv : (ofGraph .callback).DerivedFrom .callback := .whole Graph.callback_built (by decide)
  have h := cycles_exact _ findsComponents .callback (ofGraph .callback) hv 0 (le_refl 0)
  refine ⟨hv, findsComponents, h.1 (by decide), h.2.1, (h.2.2 _).2 ?_, (h.2.2 _).2 ?_,
    fun hc => ?_⟩
  · exact ⟨by decide, by decide, by decide, by decide, by decide⟩
  · exact ⟨by decide, by decide, by decide, by decide, by decide⟩
  · exact absurd (((h.2.2 _).1 hc).least 1 rfl 0 (by decide)) (by decide)

/-- In a view that is derived from a call graph, the elementary cycles are found in lexicographic
    order, and a limit cuts off all but the first of them, whatever correct algorithm tells the
    search the components. With any limit this is what the library finds if there is room for the
    numbers of the graph. -/
theorem cycles_ordered (find : Iterator → List (List NodeId)) (hfind : FindsComponents find)
    (g : Graph) (v : View) (hv : v.DerivedFrom g) :
    ((g.size : Int) ≤ 2 ^ 45 → ∀ limit, v.cycles? limit = .ok (v.cyclesBy find limit)) ∧
      (v.cyclesBy find 0).Pairwise (List.Lex (· < ·)) ∧
      (∀ c, c ∈ v.cyclesBy find 0 ↔ v.IsElementaryCycle c) ∧
      ∀ limit : Int, 0 < limit → v.cyclesBy find limit = (v.cyclesBy find 0).take limit.toNat := by
  have hw := hv.wellFormed
  have hall := cyclesBy_of_nonpos hfind v hw hv.inRange 0 (le_refl 0)
  refine ⟨fun hroom limit => ?_, ?_, fun c => ?_, fun limit hpos => ?_⟩
  · rw [cyclesBy_eq_cycles hfind v hw hv.inRange, cycles?_eq_ok g v hv limit hroom]
  · rw [hall]
    exact circuits_pairwise hfind v hw hv.inRange
  · rw [hall, mem_circuits_iff hfind v hw hv.inRange]
  · rw [cyclesBy_eq_upTo hfind v hw hv.inRange, hall, upTo, if_pos hpos]

/-- In the sample the cycle through three nodes comes before the node that calls itself. So a limit
    of one leaves a cycle, but not the latter. -/
theorem cycles_ordered_callback :
    (ofGraph .callback).DerivedFrom .callback ∧ FindsComponents Iterator.components ∧
    (ofGraph .callback).cycles? 1 =
      .ok (((ofGraph .callback).cyclesBy Iterator.components 0).take 1) ∧
    [1, 1] ∈ (ofGraph .callback).cyclesBy Iterator.components 0 ∧
    ((ofGraph .callback).cyclesBy Iterator.components 1).length = 1 ∧
    [1, 1] ∉ (ofGraph .callback).cyclesBy Iterator.components 1 := by
  have hv : (ofGraph .callback).DerivedFrom .callback := .whole Graph.callback_built (by decide)
  rcases cycles_ordered _ findsComponents .callback (ofGraph .callback) hv with
    ⟨hok, hsorted, hmem, hlimit⟩
  have hcircle : [0, 1, 2, 0] ∈ (ofGraph .callback).cyclesBy Iterator.components 0 :=
    (hmem _).2 ⟨by decide, by decide, by decide, by decide, by decide⟩
  have hloop : [1, 1] ∈ (ofGraph .callback).cyclesBy Iterator.components 0 :=
    (hmem _).2 ⟨by decide, by decide, by decide, by decide, by decide⟩
  have hone : (ofGraph .callback).cyclesBy Iterator.components 1 =
      ((ofGraph .callback).cyclesBy Iterator.components 0).take 1 := hlimit 1 (by decide)
  refine ⟨hv, findsComponents, by rw [hok (by decide) 1, hone], hloop, ?_⟩
  rw [hone]
  cases hall : (ofGraph .callback).cyclesBy Iterator.components 0 with
  | nil =>
      rw [hall] at hloop
      exact absurd hloop List.not_mem_nil
  | cons c rest =>
      rw [hall] at hsorted hcircle
      refine ⟨rfl, fun hc => ?_⟩
      -- If the loop were the first, the circle would have to be larger.
      have hfirst : [1, 1] = c := List.mem_singleton.1 hc
      subst hfirst
      rcases List.mem_cons.1 hcircle with heq | hrest
      · exact absurd heq (by decide)
      · have hlt : ([1, 1] : List NodeId) < [0, 1, 2, 0] := (List.pairwise_cons.1 hsorted).1 _ hrest
        exact absurd hlt (by decide)

end View

end TaintSeed
