import TaintSeed.Proofs.View.Release
import TaintSeed.Proofs.View.Routes
import TaintSeed.View.Cycles

/-!
# Blocking Loses No Cycle

The search for cycles enters a number only if it is not blocked. It must be
shown that what it leaves out would not have led home: it finds, from every
state that it can be in, the same routes in the same order as the search that
blocks nothing but the path.

`Disciplined` is the invariant that carries this. A number that is blocked
although it is not on the path is settled, so every way from it runs into the
path before it comes home, and `routes_eq_nil_of_settled` says that the plain
search finds nothing there either.

What a walk releases at its end became blocked during that walk: the number it
started from was not blocked before, so nothing waited for it, and the same
holds for each number in the chain. `Follows` keeps track of this along a walk.
It is why a release leaves the numbers on the path blocked.

With a limit the search stops early, and what it has found is the beginning of
what it would have found. After that only the found cycles matter, so the
invariant is kept only as long as the limit has not been reached.

## Main definitions

* `View.upTo`: The beginning of a list, if there is a limit.
* `View.Circuits.Disciplined`: The invariant of the search.
* `View.Circuits.Follows`: What a walk does to the state.
* `View.Circuits.Walked`: What a walk has done when it returns.
* `View.Circuits.Tried`: What has been done when some successors have been tried.

## Theorems

* `View.Circuits.routes_eq_nil_of_settled`: No way home is lost by blocking.
* `View.Circuits.release_follows`: A walk that came home leaves its number released.
* `View.Circuits.waitFor_follows`: Any other walk leaves its number blocked.
* `View.Circuits.tryNext_tried`: One more successor is tried.
* `View.Circuits.finish_walked`: A walk ends.
* `View.Circuits.walk_walked`: A walk finds what the plain search finds.
-/

namespace TaintSeed

namespace View

/-! ## Limits -/

/-- The first `limit` members of a list, or all if `limit` is not positive. -/
def upTo {α : Type} (limit : Int) (l : List α) : List α :=
  if 0 < limit then l.take limit.toNat else l

theorem upTo_of_length_le {α : Type} (limit : Int) (l : List α)
    (hlen : 0 < limit → (l.length : Int) ≤ limit) : upTo limit l = l := by
  unfold upTo
  split
  · rename_i hpos
    have := hlen hpos
    exact List.take_of_length_le (by omega)
  · rfl

theorem upTo_append_upTo {α : Type} (limit : Int) (l m : List α) :
    upTo limit (upTo limit l ++ m) = upTo limit (l ++ m) := by
  unfold upTo
  split
  · rw [List.take_append, List.take_append, List.take_take, Nat.min_self, List.length_take]
    congr 2
    omega
  · rfl

namespace Circuits

theorem isFull_iff (limit : Int) (s : Circuits) :
    s.isFull limit = true ↔ 0 < limit ∧ limit ≤ (s.found.toList.length : Int) := by
  rw [isFull, Bool.and_eq_true, decide_eq_true_iff, decide_eq_true_iff, Array.length_toList]

-- What has been found stays as it is once the limit has been reached.
theorem upTo_append_of_isFull (limit : Int) (s : Circuits) (l m : List (List NodeId))
    (hfound : s.found.toList = upTo limit l) (hfull : s.isFull limit = true) :
    s.found.toList = upTo limit (l ++ m) := by
  rw [isFull_iff, hfound] at hfull
  rw [hfound]
  unfold upTo at hfull ⊢
  rw [if_pos hfull.1] at hfull ⊢
  rw [if_pos hfull.1]
  have hlen : limit.toNat ≤ l.length := by
    have := hfull.2
    rw [List.length_take] at this
    omega
  exact (List.take_append_of_le_length hlen).symm

theorem length_lt_of_not_isFull (limit : Int) (s : Circuits) (hroom : s.isFull limit = false)
    (hpos : 0 < limit) : (s.found.toList.length : Int) < limit := by
  refine lt_of_not_ge (fun hc => ?_)
  rw [(isFull_iff limit s).2 ⟨hpos, hc⟩] at hroom
  cases hroom

theorem upTo_of_not_isFull (limit : Int) (s : Circuits) (hroom : s.isFull limit = false) :
    upTo limit s.found.toList = s.found.toList :=
  upTo_of_length_le limit _ (fun hpos => le_of_lt (length_lt_of_not_isFull limit s hroom hpos))

-- Before the limit has been reached there is room for one more.
theorem upTo_append_singleton (limit : Int) (s : Circuits) (c : List NodeId)
    (hroom : s.isFull limit = false) :
    upTo limit (s.found.toList ++ [c]) = s.found.toList ++ [c] := by
  refine upTo_of_length_le limit _ (fun hpos => ?_)
  have hlt := length_lt_of_not_isFull limit s hroom hpos
  rw [List.length_append, List.length_singleton]
  omega

/-! ## The invariant -/

/-- The invariant of the search for cycles through `start`. -/
structure Disciplined (v : View) (start : NodeId) (s : Circuits) : Prop where
  /-- The path holds no number twice. -/
  nodup : s.stack.Nodup
  /-- The numbers on the path are blocked. -/
  stack : ∀ x ∈ s.stack, x ∈ s.blocked
  /-- Only numbers of the view are blocked. -/
  keys : ∀ x ∈ s.blocked, x ∈ v.keys
  /-- A number waits only for blocked successors. -/
  linked : s.Linked v
  /-- The blocked numbers that are not on the path are settled. -/
  settled : s.Settled v start (fun u => u ∈ s.stack)

theorem Disciplined.size_le {v : View} {start : NodeId} {s : Circuits}
    (hs : s.Disciplined v start) : s.blocked.size ≤ v.length :=
  List.Nodup.length_le_of_subset s.blocked.nodup hs.keys

theorem Disciplined.length_stack_lt {v : View} {start : NodeId} {s : Circuits}
    (hs : s.Disciplined v start) {x : NodeId} (hkey : x ∈ v.keys) (hx : x ∉ s.blocked) :
    s.stack.length < v.length := by
  -- With the new number on it the path is still without repetition and inside the view.
  have hnodup : (x :: s.stack).Nodup :=
    List.nodup_cons.2 ⟨fun hc => hx (hs.stack x hc), hs.nodup⟩
  refine List.Nodup.length_le_of_subset hnodup (fun u hu => ?_)
  rcases List.mem_cons.1 hu with rfl | hu
  · exact hkey
  · exact hs.keys u (hs.stack u hu)

/-- From a blocked number that is not on the path there is no way home, whatever else may be
    passed: it would have to run into the path. -/
theorem routes_eq_nil_of_settled (v : View) (start : NodeId) (s : Circuits)
    (hs : s.Disciplined v start) (fuel : Nat) (path : List NodeId)
    (hpath : ∀ u ∈ s.stack, u ∈ path) (x : NodeId) (hx : x ∈ s.blocked) (hoff : x ∉ s.stack) :
    v.routes start fuel path x = [] := by
  induction fuel generalizing path x with
  | zero => rfl
  | succ fuel ih =>
      have hpath' : ∀ u ∈ s.stack, u ∈ x :: path := fun u hu => List.mem_cons_of_mem x (hpath u hu)
      rw [routes, List.flatMap_eq_nil_iff]
      intro y hy
      -- The successor is blocked as well: it is on the path or settled itself.
      rcases hs.settled x hx hoff y ((mem_succs_iff v x y).1 hy) with ⟨hstart, hblocked, _⟩
      rw [onward, if_neg hstart]
      split
      · rfl
      · rename_i hnew
        exact ih (x :: path) hpath' y hblocked (fun hc => hnew (hpath' y hc))

-- The state at the beginning of a search.
theorem start_disciplined (v : View) (start : NodeId) (found : Array (List NodeId)) :
    Disciplined v start ⟨∅, ∅, [], found⟩ where
  nodup := List.nodup_nil
  stack := fun _ hx => absurd hx List.not_mem_nil
  keys := fun x hx => absurd hx (DistinctList.not_mem_empty x)
  linked := fun _ u hu => absurd hu (DistinctList.not_mem_empty u)
  settled := fun u hu => absurd hu (DistinctList.not_mem_empty u)

theorem enter_disciplined (v : View) (start : NodeId) (s : Circuits)
    (hs : s.Disciplined v start) (x : NodeId) (hkey : x ∈ v.keys) (hx : x ∉ s.blocked) :
    (s.enter x).Disciplined v start where
  nodup := List.nodup_cons.2 ⟨fun hc => hx (hs.stack x hc), hs.nodup⟩
  stack := by
    intro u hu
    rcases List.mem_cons.1 hu with rfl | hu
    · exact DistinctList.mem_insert.2 (Or.inr rfl)
    · exact DistinctList.mem_insert.2 (Or.inl (hs.stack u hu))
  keys := by
    intro u hu
    rcases DistinctList.mem_insert.1 hu with hu | rfl
    · exact hs.keys u hu
    · exact hkey
  linked := by
    intro w u hu
    rcases hs.linked w u hu with ⟨hw, hedge⟩
    exact ⟨DistinctList.mem_insert.2 (Or.inl hw), hedge⟩
  settled := by
    intro u hu hoff y hy
    rcases DistinctList.mem_insert.1 hu with hu | rfl
    · rcases hs.settled u hu (fun hc => hoff (List.mem_cons_of_mem x hc)) y hy with
        ⟨hstart, hblocked, hwaits⟩
      exact ⟨hstart, DistinctList.mem_insert.2 (Or.inl hblocked), hwaits⟩
    · exact absurd List.mem_cons_self hoff

/-! ## What a walk does to the state -/

/-- The state `t` follows `s` on the same path: what was blocked is blocked, and whatever waits now
    and did not wait before was not blocked before. -/
structure Follows (v : View) (start : NodeId) (s t : Circuits) : Prop where
  /-- The invariant holds. -/
  disciplined : t.Disciplined v start
  /-- The path is the same. -/
  stack : t.stack = s.stack
  /-- What was blocked is blocked. -/
  blocked : ∀ u ∈ s.blocked, u ∈ t.blocked
  /-- What waits and did not wait before was not blocked before. -/
  fresh : ∀ w, ∀ u ∈ t.waiters w, u ∈ s.waiters w ∨ u ∉ s.blocked

theorem Follows.refl {v : View} {start : NodeId} {s : Circuits} (hs : s.Disciplined v start) :
    Follows v start s s :=
  ⟨hs, rfl, fun _ hu => hu, fun _ _ hu => Or.inl hu⟩

theorem Follows.trans {v : View} {start : NodeId} {s t r : Circuits} (h : Follows v start s t)
    (h' : Follows v start t r) : Follows v start s r where
  disciplined := h'.disciplined
  stack := h'.stack.trans h.stack
  blocked := fun u hu => h'.blocked u (h.blocked u hu)
  fresh := by
    intro w u hu
    rcases h'.fresh w u hu with hu | hu
    · exact h.fresh w u hu
    · exact Or.inr (fun hc => hu (h.blocked u hc))

-- The invariant does not look at what has been found.
theorem Follows.record {v : View} {start : NodeId} {s : Circuits} (hs : s.Disciplined v start) :
    Follows v start s (s.record start) :=
  ⟨⟨hs.nodup, hs.stack, hs.keys, hs.linked, hs.settled⟩, rfl, fun _ hu => hu,
    fun _ _ hu => Or.inl hu⟩

/-- What waits for a number that was not blocked before was itself not blocked before. -/
theorem Follows.not_mem_of_waits {v : View} {start : NodeId} {s t : Circuits} {x : NodeId}
    (hs : s.Disciplined v start) (h : Follows v start (s.enter x) t) (w : NodeId)
    (hw : w ∉ s.blocked) (u : NodeId) (hu : u ∈ t.waiters w) : u ∉ s.blocked := by
  intro hc
  rcases h.fresh w u hu with hold | hnew
  · exact hw (hs.linked w u hold).1
  · exact hnew (DistinctList.mem_insert.2 (Or.inl hc))

theorem mem_waiters_waitFor (s : Circuits) (x : NodeId) (ys : List NodeId) (w u : NodeId) :
    u ∈ (s.waitFor x ys).waiters w ↔ u ∈ s.waiters w ∨ u = x ∧ w ∈ ys :=
  mem_turn_members x ys s.waiting w u

/-- A number on a cycle is released when the walk leaves it. -/
theorem release_follows (v : View) (start : NodeId) (s t : Circuits)
    (hs : s.Disciplined v start) (x : NodeId) (hx : x ∉ s.blocked)
    (h : Follows v start (s.enter x) t) :
    Follows v start s (t.release (v.length + 1) x).leave := by
  have hless := release_relaxes (v.length + 1) x t
  have hstack : (t.release (v.length + 1) x).leave.stack = s.stack := by
    rw [leave, hless.stack, h.stack]
    rfl
  have hentered : x ∈ t.blocked := h.blocked x (DistinctList.mem_insert.2 (Or.inr rfl))
  -- What waits for a number that was free at the beginning was free itself, so the chain of
  -- releases does not get to what was blocked.
  have hkept : ∀ u ∈ s.blocked, u ∈ (t.release (v.length + 1) x).blocked := by
    intro u hu
    exact release_keeps (fun u => u ∈ s.blocked) _ x t hx (h.not_mem_of_waits hs) u hu
      (h.blocked u (DistinctList.mem_insert.2 (Or.inl hu)))
  rcases release_settled v start _ (v.length + 1) x t
    (Nat.le_succ_of_le h.disciplined.size_le) hentered h.disciplined.settled with
    ⟨hsettled, hfreed⟩
  refine ⟨⟨?_, ?_, ?_, ?_, ?_⟩, hstack, hkept, ?_⟩
  · rw [hstack]
    exact hs.nodup
  · rw [hstack]
    exact fun u hu => hkept u (hs.stack u hu)
  · exact fun u hu => h.disciplined.keys u (hless.blocked u hu)
  · exact release_linked v _ x t h.disciplined.linked
  · rw [hstack]
    intro u hu hoff
    refine hsettled u hu ?_
    rw [h.stack]
    intro hc
    rcases List.mem_cons.1 hc with rfl | hc
    · exact hfreed hu
    · exact hoff hc
  · intro w u hu
    rcases h.fresh w u (hless.waiters w u hu) with hold | hnew
    · exact Or.inl hold
    · exact Or.inr (fun hc => hnew (DistinctList.mem_insert.2 (Or.inl hc)))

/-- Any other number stays blocked and waits for its successors. -/
theorem waitFor_follows (v : View) (start : NodeId) (s t : Circuits)
    (hs : s.Disciplined v start) (x : NodeId) (hx : x ∉ s.blocked)
    (h : Follows v start (s.enter x) t)
    (hends : ∀ y ∈ v.succs x, y ≠ start ∧ y ∈ t.blocked) :
    Follows v start s (t.waitFor x (v.succs x)).leave := by
  have hstack : (t.waitFor x (v.succs x)).leave.stack = s.stack := by
    rw [leave, waitFor, h.stack]
    rfl
  have hkept : ∀ u ∈ s.blocked, u ∈ t.blocked :=
    fun u hu => h.blocked u (DistinctList.mem_insert.2 (Or.inl hu))
  refine ⟨⟨?_, ?_, h.disciplined.keys, ?_, ?_⟩, hstack, hkept, ?_⟩
  · rw [hstack]
    exact hs.nodup
  · rw [hstack]
    exact fun u hu => hkept u (hs.stack u hu)
  · intro w u hu
    rcases (mem_waiters_waitFor t x (v.succs x) w u).1 hu with hu | ⟨rfl, hw⟩
    · exact h.disciplined.linked w u hu
    · exact ⟨(hends w hw).2, (mem_succs_iff v u w).1 hw⟩
  · rw [hstack]
    intro u hu hoff y hy
    by_cases hux : u = x
    · -- The number itself is settled from now on: all its successors turned out to be blocked.
      subst hux
      have hsucc : y ∈ v.succs u := (mem_succs_iff v u y).2 hy
      exact ⟨(hends y hsucc).1, (hends y hsucc).2,
        (mem_waiters_waitFor t u (v.succs u) y u).2 (Or.inr ⟨rfl, hsucc⟩)⟩
    · have hoff' : u ∉ t.stack := by
        rw [h.stack]
        intro hc
        rcases List.mem_cons.1 hc with hc | hc
        · exact hux hc
        · exact hoff hc
      rcases h.disciplined.settled u hu hoff' y hy with ⟨hstart, hblocked, hwaits⟩
      exact ⟨hstart, hblocked,
        (mem_waiters_waitFor t x (v.succs x) y u).2 (Or.inl hwaits)⟩
  · intro w u hu
    rcases (mem_waiters_waitFor t x (v.succs x) w u).1 hu with hu | ⟨rfl, _⟩
    · rcases h.fresh w u hu with hold | hnew
      · exact Or.inl hold
      · exact Or.inr (fun hc => hnew (DistinctList.mem_insert.2 (Or.inl hc)))
    · exact Or.inr hx

/-! ## The walk -/

/-- One successor is tried, where `deeper` walks on from it. -/
def tryNext (limit : Int) (start : NodeId) (deeper : NodeId → Circuits → Circuits × Bool)
    (acc : Circuits × Bool) (y : NodeId) : Circuits × Bool :=
  if acc.1.isFull limit then acc
  else if y = start then (acc.1.record y, true)
  else if acc.1.blocked.contains y then acc
  else ((deeper y acc.1).1, acc.2 || (deeper y acc.1).2)

/-- The walk leaves a number when its successors have been tried. -/
def finish (v : View) (x : NodeId) (acc : Circuits × Bool) : Circuits × Bool :=
  ((if acc.2 then acc.1.release (v.length + 1) x else acc.1.waitFor x (v.succs x)).leave, acc.2)

/-- A walk enters a number, tries the successors one after the other, and leaves it. -/
theorem walk_succ (v : View) (limit : Int) (start : NodeId) (fuel : Nat) (x : NodeId)
    (s : Circuits) :
    walk v limit start (fuel + 1) x s =
      finish v x ((v.succs x).foldl (tryNext limit start (walk v limit start fuel))
        (s.enter x, false)) := rfl

/-- What has happened between `s` and the returned state: `new` has been found, as far as the
    limit allows. As long as it has not been reached, the invariant has been kept, and without a
    way home the numbers of `ends` are blocked. -/
structure Walked (v : View) (limit : Int) (start : NodeId) (s : Circuits)
    (new : List (List NodeId)) (ends : List NodeId) (r : Circuits × Bool) : Prop where
  /-- What has been found. -/
  found : r.1.found.toList = upTo limit (s.found.toList ++ new)
  /-- The invariant has been kept. -/
  follows : r.1.isFull limit = false → Follows v start s r.1
  /-- Without a way home the numbers are blocked. -/
  ends : r.1.isFull limit = false → r.2 = false → ∀ y ∈ ends, y ∈ r.1.blocked

/-- Walking on from a number, at most `fuel` numbers deep, finds the routes. -/
def Walks (v : View) (limit : Int) (start : NodeId) (fuel : Nat) : Prop :=
  ∀ (x : NodeId) (s : Circuits), s.Disciplined v start → s.isFull limit = false →
    x ∈ v.keys → x ∉ s.blocked → v.length < fuel + s.stack.length →
    Walked v limit start s (v.routes start fuel s.stack x) [x] (walk v limit start fuel x s)

/-- The successors `done` of the end of the path have been tried. -/
structure Tried (v : View) (limit : Int) (start : NodeId) (fuel : Nat) (s : Circuits)
    (done : List NodeId) (acc : Circuits × Bool) : Prop extends
    Walked v limit start s (done.flatMap (onward start s.stack (v.routes start fuel s.stack)))
      done acc where
  /-- Without a way home the start was not among them. -/
  home : acc.1.isFull limit = false → acc.2 = false → start ∉ done

section

variable {v : View} {limit : Int} {start : NodeId} {fuel : Nat} {s : Circuits}
  {done : List NodeId} {acc : Circuits × Bool} {y : NodeId}

-- What one more successor adds to the routes.
theorem flatMap_onward_concat :
    (done ++ [y]).flatMap (onward start s.stack (v.routes start fuel s.stack)) =
      done.flatMap (onward start s.stack (v.routes start fuel s.stack)) ++
        onward start s.stack (v.routes start fuel s.stack) y := by
  rw [List.flatMap_append, List.flatMap_singleton]

theorem not_mem_concat (hdone : start ∉ done) (hstart : y ≠ start) : start ∉ done ++ [y] := by
  intro hc
  rcases List.mem_append.1 hc with hc | hc
  · exact hdone hc
  · exact hstart (List.mem_singleton.1 hc).symm

-- Once the limit has been reached, nothing is added, and nothing else is claimed.
theorem Tried.of_isFull (h : Tried v limit start fuel s done acc)
    (hfull : acc.1.isFull limit = true) : Tried v limit start fuel s (done ++ [y]) acc := by
  have hroom : acc.1.isFull limit ≠ false := by
    rw [hfull]
    exact Bool.noConfusion
  refine ⟨⟨?_, fun hc => absurd hc hroom, fun hc => absurd hc hroom⟩, fun hc => absurd hc hroom⟩
  rw [flatMap_onward_concat, ← List.append_assoc]
  exact upTo_append_of_isFull limit acc.1 _ _ h.found hfull

/-- The start closes the path. -/
theorem Tried.record (h : Tried v limit start fuel s done acc)
    (hroom : acc.1.isFull limit = false) :
    Tried v limit start fuel s (done ++ [start]) (acc.1.record start, true) := by
  have hfollows := h.follows hroom
  refine ⟨⟨?_, fun _ => hfollows.trans (.record hfollows.disciplined),
    fun _ hc => absurd hc Bool.noConfusion⟩, fun _ hc => absurd hc Bool.noConfusion⟩
  rw [flatMap_onward_concat, onward, if_pos rfl, Circuits.record, Array.toList_push,
    ← List.append_assoc, ← upTo_append_upTo, ← h.found, hfollows.stack,
    upTo_append_singleton limit acc.1 _ hroom]

/-- A blocked number is passed over, and the plain search finds nothing behind it. -/
theorem Tried.of_blocked (h : Tried v limit start fuel s done acc)
    (hroom : acc.1.isFull limit = false) (hstart : y ≠ start) (hblocked : y ∈ acc.1.blocked) :
    Tried v limit start fuel s (done ++ [y]) acc := by
  have hfollows := h.follows hroom
  have hnone : onward start s.stack (v.routes start fuel s.stack) y = [] := by
    rw [onward, if_neg hstart, ← hfollows.stack]
    split
    · rfl
    · rename_i hoff
      exact routes_eq_nil_of_settled v start acc.1 hfollows.disciplined fuel _
        (fun _ hu => hu) y hblocked hoff
  refine ⟨⟨?_, h.follows, fun _ hc u hu => ?_⟩,
    fun _ hc => not_mem_concat (h.home hroom hc) hstart⟩
  · rw [flatMap_onward_concat, hnone, List.append_nil]
    exact h.found
  · rcases List.mem_append.1 hu with hu | hu
    · exact h.ends hroom hc u hu
    · rw [List.mem_singleton.1 hu]
      exact hblocked

/-- From any other number the walk goes on. -/
theorem Tried.walk (h : Tried v limit start fuel s done acc) (hwalks : Walks v limit start fuel)
    (hdepth : v.length < fuel + s.stack.length) (hroom : acc.1.isFull limit = false)
    (hy : y ∈ v.keys) (hstart : y ≠ start) (hblocked : y ∉ acc.1.blocked) :
    Tried v limit start fuel s (done ++ [y])
      ((Circuits.walk v limit start fuel y acc.1).1,
        acc.2 || (Circuits.walk v limit start fuel y acc.1).2) := by
  have hfollows := h.follows hroom
  have hoff : y ∉ s.stack := by
    rw [← hfollows.stack]
    exact fun hc => hblocked (hfollows.disciplined.stack y hc)
  have hwalked := hwalks y acc.1 hfollows.disciplined hroom hy hblocked
    (by rw [hfollows.stack]; exact hdepth)
  refine ⟨⟨?_, fun hr => hfollows.trans (hwalked.follows hr), fun hr hc u hu => ?_⟩,
    fun _ hc => not_mem_concat (h.home hroom (Bool.or_eq_false_iff.1 hc).1) hstart⟩
  · rw [flatMap_onward_concat, onward, if_neg hstart, if_neg hoff, ← List.append_assoc,
      ← upTo_append_upTo, ← h.found, ← hfollows.stack]
    exact hwalked.found
  · rcases Bool.or_eq_false_iff.1 hc with ⟨hbefore, hopen⟩
    rcases List.mem_append.1 hu with hu | hu
    · exact (hwalked.follows hr).blocked u (h.ends hroom hbefore u hu)
    · exact hwalked.ends hr hopen u hu

end

/-- One more successor is tried. -/
theorem tryNext_tried (v : View) (limit : Int) (start : NodeId) (fuel : Nat)
    (hwalks : Walks v limit start fuel) (s : Circuits) (hdepth : v.length < fuel + s.stack.length)
    (done : List NodeId) (acc : Circuits × Bool) (h : Tried v limit start fuel s done acc)
    (y : NodeId) (hy : y ∈ v.keys) :
    Tried v limit start fuel s (done ++ [y])
      (tryNext limit start (walk v limit start fuel) acc y) := by
  unfold tryNext
  by_cases hfull : acc.1.isFull limit = true
  · rw [if_pos hfull]
    exact h.of_isFull hfull
  · have hroom : acc.1.isFull limit = false := Bool.eq_false_iff.2 hfull
    rw [if_neg hfull]
    by_cases hstart : y = start
    · rw [if_pos hstart, hstart]
      exact h.record hroom
    · rw [if_neg hstart]
      by_cases hblocked : y ∈ acc.1.blocked
      · rw [if_pos (DistinctList.contains_iff.2 hblocked)]
        exact h.of_blocked hroom hstart hblocked
      · rw [if_neg (fun hc => hblocked (DistinctList.contains_iff.1 hc))]
        exact h.walk hwalks hdepth hroom hy hstart hblocked

/-- All successors are tried, one after the other. -/
theorem foldl_tried (v : View) (limit : Int) (start : NodeId) (fuel : Nat)
    (hwalks : Walks v limit start fuel) (s : Circuits) (hdepth : v.length < fuel + s.stack.length)
    (ys done : List NodeId) (acc : Circuits × Bool) (h : Tried v limit start fuel s done acc)
    (hys : ∀ y ∈ ys, y ∈ v.keys) :
    Tried v limit start fuel s (done ++ ys)
      (ys.foldl (tryNext limit start (walk v limit start fuel)) acc) := by
  induction ys generalizing done acc with
  | nil =>
      rw [List.append_nil]
      exact h
  | cons y ys ih =>
      have hstep := tryNext_tried v limit start fuel hwalks s hdepth done acc h y
        (hys y List.mem_cons_self)
      have hrest := ih (done ++ [y]) _ hstep (fun u hu => hys u (List.mem_cons_of_mem y hu))
      rw [List.append_assoc] at hrest
      exact hrest

-- Leaving a number finds nothing.
theorem found_finish (v : View) (x : NodeId) (acc : Circuits × Bool) :
    (finish v x acc).1.found = acc.1.found := by
  unfold finish
  split
  · exact (release_relaxes (v.length + 1) x acc.1).found
  · rfl

/-- When all successors have been tried, the walk from the number has been made. -/
theorem finish_walked (v : View) (limit : Int) (start : NodeId) (fuel : Nat) (s : Circuits)
    (hs : s.Disciplined v start) (x : NodeId) (hx : x ∉ s.blocked) (acc : Circuits × Bool)
    (h : Tried v limit start fuel (s.enter x) (v.succs x) acc) :
    Walked v limit start s (v.routes start (fuel + 1) s.stack x) [x] (finish v x acc) := by
  have hsame : (finish v x acc).1.isFull limit = acc.1.isFull limit := by
    rw [isFull, isFull, found_finish]
  refine ⟨?_, fun hr => ?_, fun hr hc u hu => ?_⟩
  · rw [found_finish]
    exact h.found
  · rw [hsame] at hr
    have hfollows := h.follows hr
    by_cases hclosed : acc.2 = true
    · rw [finish, if_pos hclosed]
      exact release_follows v start s acc.1 hs x hx hfollows
    · have hopen : acc.2 = false := Bool.eq_false_iff.2 hclosed
      rw [finish, if_neg hclosed]
      refine waitFor_follows v start s acc.1 hs x hx hfollows (fun y hy => ⟨?_, ?_⟩)
      · rintro rfl
        exact h.home hr hopen hy
      · exact h.ends hr hopen y hy
  · rw [hsame] at hr
    have hopen : ¬acc.2 = true := Bool.eq_false_iff.1 hc
    rw [List.mem_singleton.1 hu, finish, if_neg hopen]
    exact (h.follows hr).blocked x (DistinctList.mem_insert.2 (Or.inr rfl))

-- Before the first successor nothing has been found and nothing else has changed.
theorem enter_tried (v : View) (limit : Int) (start : NodeId) (fuel : Nat) (s : Circuits)
    (hs : s.Disciplined v start) (hroom : s.isFull limit = false) (x : NodeId) (hkey : x ∈ v.keys)
    (hx : x ∉ s.blocked) : Tried v limit start fuel (s.enter x) [] (s.enter x, false) := by
  refine ⟨⟨?_, fun _ => .refl (enter_disciplined v start s hs x hkey hx),
    fun _ _ u hu => absurd hu List.not_mem_nil⟩, fun _ _ => List.not_mem_nil⟩
  rw [List.flatMap_nil, List.append_nil]
  exact (upTo_of_not_isFull limit s hroom).symm

/-- A walk finds what the search finds that blocks nothing but the path, in the same order and as
    far as the limit allows. -/
theorem walk_walked (v : View) (hv : v.WellFormed) (limit : Int) (start : NodeId) (fuel : Nat) :
    Walks v limit start fuel := by
  induction fuel with
  | zero =>
      -- The path is shorter than the view, so it cannot come to this.
      intro x s hs _ hkey hx hdepth
      have := hs.length_stack_lt hkey hx
      omega
  | succ fuel ih =>
      intro x s hs hroom hkey hx hdepth
      -- The path has become longer by as much as the depth has become smaller.
      have hdepth' : v.length < fuel + (s.enter x).stack.length := by
        rw [enter, List.length_cons]
        omega
      rw [walk_succ]
      refine finish_walked v limit start fuel s hs x hx _ ?_
      exact foldl_tried v limit start fuel ih (s.enter x) hdepth' (v.succs x) [] _
        (enter_tried v limit start fuel s hs hroom x hkey hx)
        (fun y hy => hv.ends x y ((mem_succs_iff v x y).1 hy))

end Circuits

end View

end TaintSeed
