import Mathlib.Order.Basic
import TaintSeed.Proofs.View.WellFormed
import TaintSeed.View.Cycles

/-!
# Releasing Blocked Numbers

When the search for cycles has found one through a number, it releases the
number and, in a chain, the blocked numbers that wait for it. This module says
how far the chain goes.

It must go far enough. A blocked number that is not on the path is meant to be
settled: all its successors are blocked too, none is the start, and it waits
for each of them. Freeing a number breaks this for those that wait for it, and
they are just the ones that are released next. `Settled` therefore takes the
numbers that are exempt from it, and while a release is going on, those still
to be released are among them.

And it must not go too far. `release_keeps` is about a set of numbers that wait
for nothing outside of it: a release that starts outside never gets in.

Each release frees a number that was blocked, so their number bounds the chain.

## Main definitions

* `View.Circuits.waiters`: The numbers that wait for a number.
* `View.Circuits.free`: Unblocks one number.
* `View.Circuits.Relaxes`: Less is blocked and less waits.
* `View.Circuits.Linked`: A number waits only for blocked successors.
* `View.Circuits.Settled`: Blocked numbers have only blocked successors.

## Theorems

* `View.Circuits.release_induction`: What survives every freeing survives a release.
* `View.Circuits.release_relaxes`: A release blocks nothing and lets nothing wait.
* `View.Circuits.release_keeps`: A release keeps what waits for nothing outside.
* `View.Circuits.release_settled`: A release unblocks everything that it has to.
-/

namespace TaintSeed

namespace View

namespace Circuits

/-- The numbers that are released together with `w`. -/
def waiters (s : Circuits) (w : NodeId) : DistinctList NodeId := (s.waiting.get? w).getD ∅

/-- Unblocks a number and lets none wait for it. -/
def free (s : Circuits) (x : NodeId) : Circuits :=
  { s with
    blocked := s.blocked.filter (fun y => y != x)
    waiting := s.waiting.set x ∅ }

/-- Releases those of some numbers that are blocked, one after the other. -/
def releaseEach (fuel : Nat) (ys : List NodeId) (s : Circuits) : Circuits :=
  ys.foldl (fun s y => if s.blocked.contains y then release fuel y s else s) s

/-- A release frees the number and goes on with those that waited for it. -/
theorem release_succ (fuel : Nat) (x : NodeId) (s : Circuits) :
    release (fuel + 1) x s = releaseEach fuel (s.waiters x).toList (s.free x) := rfl

theorem releaseEach_cons (fuel : Nat) (y : NodeId) (ys : List NodeId) (s : Circuits) :
    releaseEach fuel (y :: ys) s =
      releaseEach fuel ys (if s.blocked.contains y then release fuel y s else s) := rfl

theorem mem_blocked_free (s : Circuits) (x u : NodeId) :
    u ∈ (s.free x).blocked ↔ u ∈ s.blocked ∧ u ≠ x := by
  rw [free, DistinctList.mem_filter, bne_iff_ne]

theorem mem_waiters_free (s : Circuits) (x w u : NodeId) :
    u ∈ (s.free x).waiters w ↔ w ≠ x ∧ u ∈ s.waiters w := by
  rw [waiters, waiters, free, Table.get?_set]
  by_cases hw : x = w
  · rw [if_pos hw, Option.getD_some]
    exact ⟨fun hc => absurd hc (DistinctList.not_mem_empty u), fun hc => absurd hw.symm hc.1⟩
  · rw [if_neg hw]
    exact ⟨fun hu => ⟨Ne.symm hw, hu⟩, fun hu => hu.2⟩

/-! ## What a release cannot do -/

-- What survives a release survives one release after the other.
theorem releaseEach_induction (P : Circuits → Prop) (fuel : Nat)
    (hrelease : ∀ y t, P t → P (release fuel y t)) (ys : List NodeId) (t : Circuits) (ht : P t) :
    P (releaseEach fuel ys t) := by
  induction ys generalizing t with
  | nil => exact ht
  | cons y ys ih =>
      rw [releaseEach_cons]
      refine ih _ ?_
      split
      · exact hrelease y t ht
      · exact ht

/-- What survives every freeing survives a release. -/
theorem release_induction (P : Circuits → Prop) (hfree : ∀ s x, P s → P (s.free x)) (fuel : Nat)
    (x : NodeId) (s : Circuits) (hs : P s) : P (release fuel x s) := by
  induction fuel generalizing x s with
  | zero => exact hs
  | succ fuel ih => exact releaseEach_induction P fuel ih _ _ (hfree s x hs)

/-- The second state has less that is blocked and less that waits, and is the same otherwise. -/
structure Relaxes (s t : Circuits) : Prop where
  /-- Nothing new is blocked. -/
  blocked : ∀ u ∈ t.blocked, u ∈ s.blocked
  /-- Nothing new waits. -/
  waiters : ∀ w, ∀ u ∈ t.waiters w, u ∈ s.waiters w
  /-- The path is the same. -/
  stack : t.stack = s.stack
  /-- What has been found is the same. -/
  found : t.found = s.found

theorem Relaxes.refl (s : Circuits) : s.Relaxes s :=
  ⟨fun _ hu => hu, fun _ _ hu => hu, rfl, rfl⟩

theorem Relaxes.trans {s t r : Circuits} (h : s.Relaxes t) (h' : t.Relaxes r) : s.Relaxes r :=
  ⟨fun u hu => h.blocked u (h'.blocked u hu), fun w u hu => h.waiters w u (h'.waiters w u hu),
    h'.stack.trans h.stack, h'.found.trans h.found⟩

theorem free_relaxes (s : Circuits) (x : NodeId) : s.Relaxes (s.free x) :=
  ⟨fun u hu => ((mem_blocked_free s x u).1 hu).1,
    fun w u hu => ((mem_waiters_free s x w u).1 hu).2, rfl, rfl⟩

theorem release_relaxes (fuel : Nat) (x : NodeId) (s : Circuits) :
    s.Relaxes (release fuel x s) :=
  release_induction s.Relaxes (fun t y ht => ht.trans (free_relaxes t y)) fuel x s (.refl s)

theorem releaseEach_relaxes (fuel : Nat) (ys : List NodeId) (s : Circuits) :
    s.Relaxes (releaseEach fuel ys s) :=
  releaseEach_induction s.Relaxes fuel (fun y t ht => ht.trans (release_relaxes fuel y t)) ys s
    (.refl s)

theorem Relaxes.size_le {s t : Circuits} (h : s.Relaxes t) : t.blocked.size ≤ s.blocked.size :=
  List.Nodup.length_le_of_subset t.blocked.nodup h.blocked

/-- A number waits only for blocked numbers that it has an edge to. -/
def Linked (v : View) (s : Circuits) : Prop :=
  ∀ w, ∀ u ∈ s.waiters w, w ∈ s.blocked ∧ v.hasEdge u w = true

theorem release_linked (v : View) (fuel : Nat) (x : NodeId) (s : Circuits) (hs : s.Linked v) :
    (release fuel x s).Linked v := by
  refine release_induction (fun t => t.Linked v) ?_ fuel x s hs
  intro t y ht w u hu
  rcases (mem_waiters_free t y w u).1 hu with ⟨hw, hu⟩
  exact ⟨(mem_blocked_free t y w).2 ⟨(ht w u hu).1, hw⟩, (ht w u hu).2⟩

-- What a release keeps is kept by one release after the other: each takes only waiting numbers
-- away, so those that wait for numbers outside of `B` stay outside.
theorem releaseEach_keeps (B : NodeId → Prop) (fuel : Nat) (z : NodeId)
    (hrelease : ∀ y t, ¬B y → (∀ w, ¬B w → ∀ u ∈ t.waiters w, ¬B u) → z ∈ t.blocked →
      z ∈ (release fuel y t).blocked)
    (ys : List NodeId) (t : Circuits) (hys : ∀ y ∈ ys, ¬B y)
    (hout : ∀ w, ¬B w → ∀ u ∈ t.waiters w, ¬B u) (ht : z ∈ t.blocked) :
    z ∈ (releaseEach fuel ys t).blocked := by
  induction ys generalizing t with
  | nil => exact ht
  | cons y ys ih =>
      have hrest : ∀ y ∈ ys, ¬B y := fun u hu => hys u (List.mem_cons_of_mem y hu)
      rw [releaseEach_cons]
      split
      · have hless := release_relaxes fuel y t
        exact ih _ hrest (fun w hw u hu => hout w hw u (hless.waiters w u hu))
          (hrelease y t (hys y List.mem_cons_self) hout ht)
      · exact ih t hrest hout ht

/-- If no number of `B` waits for a number outside of it, a release that starts outside of `B`
    keeps what is blocked in `B`. -/
theorem release_keeps (B : NodeId → Prop) (fuel : Nat) (x : NodeId) (s : Circuits) (hx : ¬B x)
    (hout : ∀ w, ¬B w → ∀ u ∈ s.waiters w, ¬B u) (z : NodeId) (hz : B z) (hb : z ∈ s.blocked) :
    z ∈ (release fuel x s).blocked := by
  induction fuel generalizing x s with
  | zero => exact hb
  | succ fuel ih =>
      -- The numbers that waited for `x` are outside of `B`, and so is all that waits for them.
      rw [release_succ]
      refine releaseEach_keeps B fuel z ih _ _ (fun y hy => hout x hx y hy) ?_ ?_
      · intro w hw u hu
        exact hout w hw u ((mem_waiters_free s x w u).1 hu).2
      · refine (mem_blocked_free s x z).2 ⟨hb, fun hc => hx ?_⟩
        rw [← hc]
        exact hz

/-! ## What a release has to do -/

/-- Apart from exempt numbers, a blocked number has only blocked successors, not the start among
    them, and waits for each of them. -/
def Settled (v : View) (start : NodeId) (exempt : NodeId → Prop) (s : Circuits) : Prop :=
  ∀ u ∈ s.blocked, ¬exempt u → ∀ y, v.hasEdge u y = true →
    y ≠ start ∧ y ∈ s.blocked ∧ u ∈ s.waiters y

-- A number that is not blocked need not be exempt.
theorem Settled.of_not_mem {v : View} {start : NodeId} {exempt : NodeId → Prop} {s : Circuits}
    {y : NodeId} {ys : List NodeId} (hs : s.Settled v start (fun u => exempt u ∨ u ∈ y :: ys))
    (hy : y ∉ s.blocked) : s.Settled v start (fun u => exempt u ∨ u ∈ ys) := by
  intro u hu hexempt
  refine hs u hu ?_
  rintro (hc | hc)
  · exact hexempt (Or.inl hc)
  · rcases List.mem_cons.1 hc with rfl | hc
    · exact hy hu
    · exact hexempt (Or.inr hc)

-- Freeing a number leaves those unsettled that waited for it.
theorem free_settled (v : View) (start : NodeId) (exempt : NodeId → Prop) (s : Circuits)
    (x : NodeId) (hs : s.Settled v start exempt) :
    (s.free x).Settled v start (fun u => exempt u ∨ u ∈ (s.waiters x).toList) := by
  intro u hu hexempt y hy
  rw [not_or] at hexempt
  rcases hs u ((mem_blocked_free s x u).1 hu).1 hexempt.1 y hy with ⟨hstart, hblocked, hwaits⟩
  -- A number with an edge to `x` waits for it and is exempt from now on.
  have hne : y ≠ x := by
    rintro rfl
    exact hexempt.2 hwaits
  exact ⟨hstart, (mem_blocked_free s x y).2 ⟨hblocked, hne⟩,
    (mem_waiters_free s x y u).2 ⟨hne, hwaits⟩⟩

theorem size_free_lt (s : Circuits) (x : NodeId) (hx : x ∈ s.blocked) :
    (s.free x).blocked.size < s.blocked.size := by
  refine List.length_filter_lt_length_iff_exists.2 ⟨x, hx, ?_⟩
  rw [bne_self_eq_false]
  exact Bool.false_ne_true

/-- A release with enough fuel unblocks the number and keeps the others settled. Each release in
    the chain frees a blocked number, so their number is enough. -/
theorem release_settled (v : View) (start : NodeId) (exempt : NodeId → Prop) (fuel : Nat)
    (x : NodeId) (s : Circuits) (hfuel : s.blocked.size ≤ fuel) (hx : x ∈ s.blocked)
    (hs : s.Settled v start exempt) :
    (release fuel x s).Settled v start exempt ∧ x ∉ (release fuel x s).blocked := by
  induction fuel generalizing exempt x s with
  | zero =>
      -- Something is blocked, so the fuel cannot be used up.
      have hnil : s.blocked.toList = [] := List.length_eq_zero_iff.1 (Nat.le_zero.1 hfuel)
      rw [← DistinctList.mem_toList, hnil] at hx
      exact absurd hx List.not_mem_nil
  | succ fuel ih =>
      -- Those that are still to be released are exempt until their turn has come.
      have heach : ∀ (ys : List NodeId) (t : Circuits), t.blocked.size ≤ fuel →
          t.Settled v start (fun u => exempt u ∨ u ∈ ys) →
          (releaseEach fuel ys t).Settled v start exempt := by
        intro ys
        induction ys with
        | nil =>
            intro t _ ht u hu hexempt
            refine ht u hu ?_
            rintro (hc | hc)
            · exact hexempt hc
            · exact absurd hc List.not_mem_nil
        | cons y ys ihys =>
            intro t hsize ht
            rw [releaseEach_cons]
            by_cases hy : y ∈ t.blocked
            · rw [if_pos (DistinctList.contains_iff.2 hy)]
              rcases ih _ y t hsize hy ht with ⟨hsettled, hfreed⟩
              exact ihys _ (le_trans (release_relaxes fuel y t).size_le hsize)
                (hsettled.of_not_mem hfreed)
            · rw [if_neg (fun hc => hy (DistinctList.contains_iff.1 hc))]
              exact ihys t hsize (ht.of_not_mem hy)
      have hlt := size_free_lt s x hx
      have hless := releaseEach_relaxes fuel (s.waiters x).toList (s.free x)
      rw [release_succ]
      refine ⟨heach _ _ (by omega) (free_settled v start exempt s x hs), fun hc => ?_⟩
      exact ((mem_blocked_free s x x).1 (hless.blocked x hc)).2 rfl

end Circuits

end View

end TaintSeed
