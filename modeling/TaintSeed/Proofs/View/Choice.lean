import TaintSeed.Proofs.View.Reach
import TaintSeed.View.Cycles

/-!
# The Number That a Search Starts From

The search for cycles is told the components of a part of a view, in any order
and each in any order, and looks for the least number that lies on a cycle. It
passes over components of one number that does not call itself, and remembers
the component with the least number among the others.

Whether a number lies on a cycle is the same for all members of a component: if
there are two, each leads to the other and back (`reaches_of_not_alone`), and if
there is one, a way around could only consist of a call of itself
(`not_reaches_of_alone`). So it is enough to look at the least number of each
component, and the loop needs no more than the components that it has seen so
far: `Chosen` is what holds of them.

## Main definitions

* `View.Chosen`: What is known when some components have been looked at.

## Theorems

* `View.not_reaches_of_alone`, `View.reaches_of_not_alone`: All members of a component lie on
  cycles or none does.
* `View.consider_chosen`: One more component is looked at.
* `View.choose_spec`: What the search starts from.
-/

namespace TaintSeed

namespace View

theorem mem_increasing_cons {c : List NodeId} {x : NodeId} {xs : List NodeId}
    (hsorted : increasing c = x :: xs) (y : NodeId) : y ∈ c ↔ y ∈ x :: xs := by
  rw [← hsorted, mem_increasing]

/-- What is known when the components `done` have been looked at: either none of their numbers lies
    on a cycle, or the least that does and its component. -/
inductive Chosen (v : View) (done : List (List NodeId)) (chosen : Choice) : Prop
  | none (negative : chosen.least < 0) (off : ∀ c ∈ done, ∀ x ∈ c, ¬v.Reaches x x)
  | some (c : List NodeId) (seen : c ∈ done) (members : ∀ y, y ∈ chosen.component ↔ y ∈ c)
      (least : chosen.least ∈ c) (natural : 0 ≤ chosen.least)
      (onCycle : v.Reaches chosen.least chosen.least)
      (le : ∀ c ∈ done, ∀ x ∈ c, v.Reaches x x → chosen.least ≤ x)

namespace Chosen

variable {v : View} {done : List (List NodeId)} {chosen : Choice} (h : v.Chosen done chosen)
include h

/-- The choice stays if nothing on a cycle of the next component is less. -/
theorem keep {c : List NodeId}
    (hkeep : ∀ y ∈ c, v.Reaches y y → 0 ≤ chosen.least ∧ chosen.least ≤ y) :
    v.Chosen (done ++ [c]) chosen := by
  cases h with
  | none negative off =>
      refine .none negative (List.forall_mem_append.2 ⟨off, List.forall_mem_singleton.2 ?_⟩)
      exact fun y hy hround => absurd (hkeep y hy hround).1 (not_le.2 negative)
  | some d seen members least natural onCycle le =>
      refine .some d (List.mem_append_left [c] seen) members least natural onCycle
        (List.forall_mem_append.2 ⟨le, List.forall_mem_singleton.2 ?_⟩)
      exact fun y hy hround => (hkeep y hy hround).2

-- A number that is taken in place of the choice is below what has been looked at.
theorem le_of_better {x : NodeId} (hbetter : chosen.least < 0 ∨ x < chosen.least) :
    ∀ c ∈ done, ∀ y ∈ c, v.Reaches y y → x ≤ y := by
  intro c hc y hy hround
  cases h with
  | none negative off => exact absurd hround (off c hc y hy)
  | some d seen members least natural onCycle le =>
      have hless := hbetter.resolve_left (not_lt.2 natural)
      exact le_of_lt (lt_of_lt_of_le hless (le c hc y hy hround))

end Chosen

section

variable {find : Iterator → List (List NodeId)} (hfind : FindsComponents find) {v : View}
  (hv : v.WellFormed) (hr : v.InRange)
include hfind hv hr

/-- A component of one number that does not call itself has no cycle. -/
theorem not_reaches_of_alone {c : List NodeId} (hc : c ∈ find v.iterator) {x : NodeId}
    (hsorted : increasing c = [x]) (hloop : v.hasEdge x x = false) :
    ∀ y ∈ c, ¬v.Reaches y y := by
  have hx : x ∈ c := (mem_increasing_cons hsorted x).2 List.mem_cons_self
  have honly : ∀ z ∈ c, z = x := fun z hz =>
    List.mem_singleton.1 ((mem_increasing_cons hsorted z).1 hz)
  intro y hy hround
  rw [honly y hy] at hround
  -- The first step of a way around leads to a member of the component, which is `x` again.
  rcases Relation.TransGen.head'_iff.1 hround with ⟨z, hedge, hback⟩
  have hz : z ∈ c := (hr.mem_component_iff hfind hv hc hx z).2
    ((connected_iff v x z).2 ⟨.single hedge, hback⟩)
  rw [honly z hz, hloop] at hedge
  cases hedge

/-- All members of any other component lie on cycles: either there is another member, or the only
    one calls itself. -/
theorem reaches_of_not_alone {c : List NodeId} (hc : c ∈ find v.iterator) {x : NodeId}
    {xs : List NodeId} (hsorted : increasing c = x :: xs)
    (hmore : ¬(xs = [] ∧ v.hasEdge x x = false)) : ∀ y ∈ c, v.Reaches y y := by
  intro y hy
  by_cases hother : ∃ z ∈ c, z ≠ y
  · rcases hother with ⟨z, hz, hne⟩
    rcases (hr.mem_component_iff hfind hv hc hy z).1 hz with heq | ⟨hyz, hzy⟩
    · exact absurd heq.symm hne
    · exact hyz.trans hzy
  · have honly : ∀ z ∈ c, z = y := by
      intro z hz
      by_contra hne
      exact hother ⟨z, hz, hne⟩
    have hx : x = y := honly x ((mem_increasing_cons hsorted x).2 List.mem_cons_self)
    have hnil : xs = [] := by
      have hnodup := increasing_pairwise c
        ((List.nodup_flatten.1 (hr.areComponents hfind hv).nodup).1 c hc)
      rw [hsorted, List.pairwise_cons] at hnodup
      refine List.eq_nil_iff_forall_not_mem.2 (fun z hz => ?_)
      have hzy := honly z ((mem_increasing_cons hsorted z).2 (List.mem_cons_of_mem x hz))
      exact absurd (hnodup.1 z hz) (by rw [hx, hzy]; exact lt_irrefl y)
    have hloop : v.hasEdge x x = true := by
      by_contra hno
      exact hmore ⟨hnil, Bool.eq_false_iff.2 hno⟩
    rw [← hx]
    exact .single hloop

-- The first number of a sorted component is its least, and numbers of components are not negative.
theorem least_component {c : List NodeId} (hc : c ∈ find v.iterator) {x : NodeId}
    {xs : List NodeId} (hsorted : increasing c = x :: xs) : 0 ≤ x ∧ ∀ y ∈ c, x ≤ y := by
  have hfound := hr.areComponents hfind hv
  have hx : x ∈ c := (mem_increasing_cons hsorted x).2 List.mem_cons_self
  refine ⟨((hfound.nodes x).1 ⟨c, hc, hx⟩).1, fun y hy => ?_⟩
  have hpairwise := increasing_pairwise c ((List.nodup_flatten.1 hfound.nodup).1 c hc)
  rw [hsorted, List.pairwise_cons] at hpairwise
  rcases List.mem_cons.1 ((mem_increasing_cons hsorted y).1 hy) with rfl | hy
  · exact le_refl y
  · exact le_of_lt (hpairwise.1 y hy)

/-- One more component is looked at. -/
theorem consider_chosen {done : List (List NodeId)} {chosen : Choice} (h : v.Chosen done chosen)
    {c : List NodeId} (hc : c ∈ find v.iterator) :
    v.Chosen (done ++ [c]) (chosen.consider v c) := by
  unfold Choice.consider
  cases hsorted : increasing c with
  | nil =>
      have hnil : c = [] := List.eq_nil_iff_forall_not_mem.2 (fun y hy => by
        rw [← mem_increasing, hsorted] at hy
        exact List.not_mem_nil hy)
      exact absurd hnil ((hr.areComponents hfind hv).nonempty c hc)
  | cons x xs =>
      rcases least_component hfind hv hr hc hsorted with ⟨hnatural, hleast⟩
      simp only []
      by_cases hskip : xs = [] ∧ v.hasEdge x x = false
      · -- A component without a cycle changes nothing.
        rw [if_pos (by simp [hskip.1, hskip.2])]
        rcases hskip with ⟨rfl, hloop⟩
        have hoff := not_reaches_of_alone hfind hv hr hc hsorted hloop
        exact h.keep (fun y hy hround => absurd hround (hoff y hy))
      · rw [if_neg (by simpa using hskip)]
        have hround := reaches_of_not_alone hfind hv hr hc hsorted hskip
        by_cases hbetter : chosen.least < 0 ∨ x < chosen.least
        · rw [if_pos (by simpa using hbetter)]
          have hx : x ∈ c := (mem_increasing_cons hsorted x).2 List.mem_cons_self
          refine .some c (List.mem_append_right done List.mem_cons_self) (fun y => ?_) hx hnatural
            (hround x hx) (List.forall_mem_append.2 ⟨h.le_of_better hbetter,
              List.forall_mem_singleton.2 (fun y hy _ => hleast y hy)⟩)
          rw [DistinctList.mem_ofList, mem_increasing_cons hsorted]
        · rw [if_neg (by simpa using hbetter)]
          rcases not_or.1 hbetter with ⟨hnonneg, hnotLess⟩
          exact h.keep (fun y hy _ =>
            ⟨not_lt.1 hnonneg, le_trans (not_lt.1 hnotLess) (hleast y hy)⟩)

theorem foldl_chosen (todo done : List (List NodeId)) (chosen : Choice) (h : v.Chosen done chosen)
    (htodo : ∀ c ∈ todo, c ∈ find v.iterator) :
    v.Chosen (done ++ todo) (todo.foldl (Choice.consider v) chosen) := by
  induction todo generalizing done chosen with
  | nil =>
      rw [List.append_nil]
      exact h
  | cons c todo ih =>
      have hstep := consider_chosen hfind hv hr h (htodo c List.mem_cons_self)
      have hrest := ih (done ++ [c]) _ hstep (fun d hd => htodo d (List.mem_cons_of_mem c hd))
      rw [List.append_assoc] at hrest
      exact hrest

/-- The search starts from the least number that lies on a cycle and is told its component, or
    there is no cycle. -/
theorem choose_spec :
    ((v.choose find).least < 0 ∧ ∀ x, ¬v.Reaches x x) ∨
      (0 ≤ (v.choose find).least ∧ v.Reaches (v.choose find).least (v.choose find).least ∧
        (∀ x, v.Reaches x x → (v.choose find).least ≤ x) ∧
        ∀ y, y ∈ (v.choose find).component ↔ v.Connected (v.choose find).least y) := by
  have hall : v.Chosen (find v.iterator) (v.choose find) :=
    foldl_chosen hfind hv hr (find v.iterator) [] .start
      (.none (by decide) (fun c hc => absurd hc List.not_mem_nil)) (fun _ hc => hc)
  have hlisted : ∀ x, v.Reaches x x → ∃ c ∈ find v.iterator, x ∈ c :=
    fun x hx => hr.exists_component hfind hv (hx.mem_keys hv).1
  cases hall with
  | none negative off =>
      refine Or.inl ⟨negative, fun x hx => ?_⟩
      rcases hlisted x hx with ⟨c, hc, hxc⟩
      exact off c hc x hxc hx
  | some c seen members least natural onCycle le =>
      refine Or.inr ⟨natural, onCycle, fun x hx => ?_, fun y => ?_⟩
      · rcases hlisted x hx with ⟨d, hd, hxd⟩
        exact le d hd x hxd hx
      · rw [members, hr.mem_component_iff hfind hv seen least]

end

end View

end TaintSeed
