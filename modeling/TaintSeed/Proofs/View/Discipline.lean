import TaintSeed.Proofs.View.Cycles

/-!
# The Blocking Discipline, Moment by Moment

The search for cycles and the release of blocked numbers are two recursions
that work on one state. A number can be released through one of its successors
and entered again while it still waits for another, so it has to be seen that a
release never gets to a number on the path: the path would repeat a number, and
nothing would bound the depth of the walk.

What a walk has done when it returns is known from `walk_walked`. Here the runs
themselves are looked at. `releaseTraced`, `walkTraced` and `cyclesTraced` are
the release, the walk and the search with a record of what happens: each time a
call of the walk begins or returns, and each time the state changes in between,
a `Moment` is noted, with the calls of the walk that are open. Otherwise they do
the same as the functions that they stand for, and the first component of what
they return is what those return.

`Begins` is what every call of the walk finds. It goes from a call to the calls
it makes because the successors that have been tried leave the invariant in
place. `Outside` is the same for releases: a release that starts outside of a
set which waits for nothing outside goes on to numbers outside only. The set is
here what was blocked when the walk began, which includes whatever was blocked
when one of the open calls began.

All recursions are written with a bound on their depth. A call that begins
properly has depth left, so the bound never ends one, and the open calls are as
many as the path has numbers, which is inside the searched part.

## Main definitions

* `View.Circuits.Call`: A call of the walk.
* `View.Circuits.Moment`: What happens at a moment, the open calls and the state.
* `View.Circuits.releaseTraced`, `View.Circuits.walkTraced`: A release and a walk with their moments.
* `View.cyclesTraced`: The search for cycles with its moments.
* `View.Circuits.Moment.Sound`: What holds at each moment.

## Theorems

* `View.Circuits.releaseTraced_fst`, `View.Circuits.walkTraced_fst`, `View.cyclesTraced_fst`: The
  record changes nothing.
* `View.Circuits.Begins.tried`: The state when some successors have been tried.
* `View.Circuits.Outside.releaseTraced`: Releases stay outside of what waits for nothing outside.
* `View.Circuits.Begins.sound`: Every moment of a call that begins properly is sound.
* `View.search_disciplined`: Every moment of a search is sound.
-/

namespace TaintSeed

namespace View

namespace Circuits

/-! ## Records of a search -/

/-- A call of the walk. -/
structure Call where
  /-- How many calls deep it may go. -/
  fuel : Nat
  /-- The number that is walked on from. -/
  number : NodeId
  /-- The state in which the call begins. -/
  state : Circuits

/-- What a call of the walk returns. -/
def Call.result (v : View) (limit : Int) (start : NodeId) (c : Call) : Circuits × Bool :=
  walk v limit start c.fuel c.number c.state

/-- What happens at a moment of a search. -/
inductive Event where
  /-- A call of the walk begins. -/
  | begins
  /-- The state has changed inside of a call. -/
  | changes
  /-- A call of the walk returns, and tells whether there was a way home. -/
  | returns (closed : Bool)
  /-- A call of the walk or of a release is ended by the bound on its depth. -/
  | ends

/-- A moment of a search. -/
structure Moment where
  /-- The part that is searched. -/
  part : View
  /-- The number that the cycles are to lead home to. -/
  start : NodeId
  /-- What happens. -/
  event : Event
  /-- The calls of the walk that are open, the last one first. -/
  calls : List Call
  /-- The state. -/
  state : Circuits

/-- Goes through a list, one step for each member, and puts the moments of the steps together. -/
def goThrough {σ : Type} (step : σ → NodeId → σ × List Moment) : List NodeId → σ → σ × List Moment
  | [], a => (a, [])
  | y :: ys, a =>
    let r := step a y
    let t := goThrough step ys r.1
    (t.1, r.2 ++ t.2)

section

variable (v : View) (limit : Int) (start : NodeId)

/-- A release, with its moments. -/
def releaseTraced (calls : List Call) : Nat → NodeId → Circuits → Circuits × List Moment
  | 0, _, s => (s, [⟨v, start, .ends, calls, s⟩])
  | fuel + 1, x, s =>
    let r := goThrough
      (fun s y => if s.blocked.contains y then releaseTraced calls fuel y s else (s, []))
      (s.waiters x).toList (s.free x)
    (r.1, ⟨v, start, .changes, calls, s.free x⟩ :: r.2)

/-- One successor is tried, with the moments, where `deeper` walks on from it. -/
def tryTraced (calls : List Call)
    (deeper : NodeId → Circuits → (Circuits × Bool) × List Moment) (acc : Circuits × Bool)
    (y : NodeId) : (Circuits × Bool) × List Moment :=
  if acc.1.isFull limit then (acc, [])
  else if y = start then
    ((acc.1.record y, true), [⟨v, start, .changes, calls, acc.1.record y⟩])
  else if acc.1.blocked.contains y then (acc, [])
  else
    let r := deeper y acc.1
    ((r.1.1, acc.2 || r.1.2), r.2)

/-- A call of the walk, with its moments; `calls` are the calls that are open already. -/
def walkTraced : Nat → List Call → NodeId → Circuits → (Circuits × Bool) × List Moment
  | 0, calls, x, s => ((s, false), [⟨v, start, .ends, ⟨0, x, s⟩ :: calls, s⟩])
  | fuel + 1, calls, x, s =>
    let open' := ⟨fuel + 1, x, s⟩ :: calls
    let tried := goThrough (tryTraced v limit start open' (walkTraced fuel open')) (v.succs x)
      (s.enter x, false)
    let ended :=
      if tried.1.2 then releaseTraced v start open' (v.length + 1) x tried.1.1
      else
        let t := tried.1.1.waitFor x (v.succs x)
        (t, [⟨v, start, .changes, open', t⟩])
    ((ended.1.leave, tried.1.2),
      [⟨v, start, .begins, open', s⟩, ⟨v, start, .changes, open', s.enter x⟩] ++ tried.2 ++
        ended.2 ++ [⟨v, start, .returns tried.1.2, open', ended.1.leave⟩])

end

/-! ## The record changes nothing -/

theorem goThrough_fst {σ : Type} (step : σ → NodeId → σ × List Moment) (ys : List NodeId) (a : σ) :
    (goThrough step ys a).1 = ys.foldl (fun a y => (step a y).1) a := by
  induction ys generalizing a with
  | nil => rfl
  | cons y ys ih => exact ih (step a y).1

/-- A moment of going through a list belongs to one of the steps, which begins where the steps
    before it have led. -/
theorem mem_goThrough {σ : Type} (step : σ → NodeId → σ × List Moment) (ys : List NodeId) (a : σ)
    (m : Moment) :
    m ∈ (goThrough step ys a).2 ↔ ∃ done y rest, ys = done ++ y :: rest ∧
      m ∈ (step (done.foldl (fun a y => (step a y).1) a) y).2 := by
  induction ys generalizing a with
  | nil =>
      refine ⟨fun hm => absurd hm List.not_mem_nil, ?_⟩
      rintro ⟨done, y, rest, hys, _⟩
      exact absurd hys (by simp)
  | cons z ys ih =>
      have hstep : (goThrough step (z :: ys) a).2
          = (step a z).2 ++ (goThrough step ys (step a z).1).2 := rfl
      rw [hstep, List.mem_append, ih]
      constructor
      · rintro (hm | ⟨done, y, rest, rfl, hm⟩)
        · exact ⟨[], z, ys, rfl, hm⟩
        · exact ⟨z :: done, y, rest, rfl, hm⟩
      · rintro ⟨done, y, rest, hys, hm⟩
        cases done with
        | nil =>
            rw [List.nil_append] at hys
            cases hys
            exact Or.inl hm
        | cons w done =>
            rw [List.cons_append] at hys
            cases hys
            exact Or.inr ⟨done, y, rest, rfl, hm⟩

theorem releaseTraced_fst (v : View) (start : NodeId) (calls : List Call) (fuel : Nat)
    (x : NodeId) (s : Circuits) : (releaseTraced v start calls fuel x s).1 = release fuel x s := by
  induction fuel generalizing x s with
  | zero => rfl
  | succ fuel ih =>
      have hstep : ∀ (t : Circuits) (y : NodeId),
          (if t.blocked.contains y then releaseTraced v start calls fuel y t else (t, [])).1
            = if t.blocked.contains y then release fuel y t else t := by
        intro t y
        split
        · exact ih y t
        · rfl
      rw [releaseTraced, release_succ, releaseEach, goThrough_fst]
      simp only [hstep]

section

variable (v : View) (limit : Int) (start : NodeId)

theorem tryTraced_fst (calls : List Call)
    (deeper : NodeId → Circuits → (Circuits × Bool) × List Moment) (acc : Circuits × Bool)
    (y : NodeId) :
    (tryTraced v limit start calls deeper acc y).1
      = tryNext limit start (fun y s => (deeper y s).1) acc y := by
  unfold tryTraced tryNext
  split
  · rfl
  · split
    · rfl
    · split
      · rfl
      · rfl

theorem mem_tryTraced (calls : List Call)
    (deeper : NodeId → Circuits → (Circuits × Bool) × List Moment) (acc : Circuits × Bool)
    (y : NodeId) (m : Moment) (hm : m ∈ (tryTraced v limit start calls deeper acc y).2) :
    m = ⟨v, start, .changes, calls, acc.1.record y⟩ ∨
      y ∉ acc.1.blocked ∧ m ∈ (deeper y acc.1).2 := by
  unfold tryTraced at hm
  split at hm
  · exact absurd hm List.not_mem_nil
  · split at hm
    · exact Or.inl (List.mem_singleton.1 hm)
    · split at hm
      · exact absurd hm List.not_mem_nil
      · rename_i hfree
        exact Or.inr ⟨fun hb => hfree (DistinctList.contains_iff.2 hb), hm⟩

/-- The state of a call from `x` when the successors `done` have been tried, and whether one of
    them led home. -/
def tried (fuel : Nat) (x : NodeId) (s : Circuits) (done : List NodeId) : Circuits × Bool :=
  done.foldl (tryNext limit start (walk v limit start fuel)) (s.enter x, false)

theorem walkTraced_fst (fuel : Nat) (calls : List Call) (x : NodeId) (s : Circuits) :
    (walkTraced v limit start fuel calls x s).1 = walk v limit start fuel x s := by
  induction fuel generalizing calls x s with
  | zero => rfl
  | succ fuel ih =>
      have htried : (goThrough (tryTraced v limit start (⟨fuel + 1, x, s⟩ :: calls)
          (walkTraced v limit start fuel (⟨fuel + 1, x, s⟩ :: calls))) (v.succs x)
          (s.enter x, false)).1 = tried v limit start fuel x s (v.succs x) := by
        rw [goThrough_fst, tried]
        simp only [tryTraced_fst, ih]
      have hwalk : walk v limit start (fuel + 1) x s
          = finish v x (tried v limit start fuel x s (v.succs x)) := walk_succ v limit start fuel x s
      rw [walkTraced, hwalk, finish, htried]
      split
      · rw [releaseTraced_fst]
      · rfl

/-- The moments of a call: it begins and enters its number, tries the successors, releases the
    number or lets it wait, and returns. -/
theorem mem_walkTraced (fuel : Nat) (calls : List Call) (x : NodeId) (s : Circuits) (m : Moment)
    (hm : m ∈ (walkTraced v limit start (fuel + 1) calls x s).2) :
    let now := ⟨fuel + 1, x, s⟩ :: calls
    m = ⟨v, start, .begins, now, s⟩ ∨ m = ⟨v, start, .changes, now, s.enter x⟩ ∨
      (∃ done y rest, v.succs x = done ++ y :: rest ∧
        m ∈ (tryTraced v limit start now (walkTraced v limit start fuel now)
          (tried v limit start fuel x s done) y).2) ∨
      ((tried v limit start fuel x s (v.succs x)).2 = true ∧
        m ∈ (releaseTraced v start now (v.length + 1) x
          (tried v limit start fuel x s (v.succs x)).1).2) ∨
      m = ⟨v, start, .changes, now,
        (tried v limit start fuel x s (v.succs x)).1.waitFor x (v.succs x)⟩ ∨
      ∃ closed, m = ⟨v, start, .returns closed, now,
        (walk v limit start (fuel + 1) x s).1⟩ ∧
        closed = (walk v limit start (fuel + 1) x s).2 := by
  have htried : ∀ done : List NodeId,
      done.foldl (fun acc y => (tryTraced v limit start (⟨fuel + 1, x, s⟩ :: calls)
        (walkTraced v limit start fuel (⟨fuel + 1, x, s⟩ :: calls)) acc y).1) (s.enter x, false)
        = tried v limit start fuel x s done := by
    intro done
    rw [tried]
    simp only [tryTraced_fst, walkTraced_fst]
  have hreturned := congrArg Prod.fst (walkTraced_fst v limit start (fuel + 1) calls x s)
  have hclosed := congrArg Prod.snd (walkTraced_fst v limit start (fuel + 1) calls x s)
  rw [walkTraced] at hm hreturned hclosed
  simp only [goThrough_fst, htried] at hm hreturned hclosed
  simp only [List.mem_append, List.mem_cons, List.not_mem_nil, or_false, mem_goThrough, htried]
    at hm
  rcases hm with (((hm | hm) | hm) | hm) | hm
  · exact Or.inl hm
  · exact Or.inr (Or.inl hm)
  · exact Or.inr (Or.inr (Or.inl hm))
  · split at hm
    · rename_i hc
      exact Or.inr (Or.inr (Or.inr (Or.inl ⟨hc, hm⟩)))
    · exact Or.inr (Or.inr (Or.inr (Or.inr (Or.inl (List.mem_singleton.1 hm)))))
  · refine Or.inr (Or.inr (Or.inr (Or.inr (Or.inr ⟨_, ?_, hclosed⟩))))
    rw [hm, hreturned]

end

/-! ## Releases -/

/-- The release is of a number outside of `B`, what waits for such numbers is outside of `B`, and
    the numbers of `B` are blocked. -/
structure Outside (B : NodeId → Prop) (x : NodeId) (s : Circuits) : Prop where
  /-- The number is outside. -/
  number : ¬B x
  /-- So is what waits for numbers outside. -/
  waiters : ∀ w, ¬B w → ∀ u ∈ s.waiters w, ¬B u
  /-- What is inside is blocked. -/
  blocked : ∀ z, B z → z ∈ s.blocked

theorem Outside.mem_blocked_free {B : NodeId → Prop} {x : NodeId} {s : Circuits}
    (hs : Outside B x s) (z : NodeId) (hz : B z) : z ∈ (s.free x).blocked := by
  refine (Circuits.mem_blocked_free s x z).2 ⟨hs.blocked z hz, fun hc => hs.number ?_⟩
  rw [← hc]
  exact hz

-- When some of the waiting numbers have been released, the next one is outside as well.
theorem Outside.releaseEach {B : NodeId → Prop} {x : NodeId} {s : Circuits} (hs : Outside B x s)
    (fuel : Nat) {done rest : List NodeId} {y : NodeId}
    (hwaits : (s.waiters x).toList = done ++ y :: rest) :
    Outside B y (Circuits.releaseEach fuel done (s.free x)) := by
  have hwaiting : ∀ u ∈ done ++ y :: rest, ¬B u := by
    intro u hu
    rw [← hwaits] at hu
    exact hs.waiters x hs.number u hu
  have hout : ∀ w, ¬B w → ∀ u ∈ (s.free x).waiters w, ¬B u := by
    intro w hw u hu
    exact hs.waiters w hw u ((mem_waiters_free s x w u).1 hu).2
  refine ⟨hwaiting y (List.mem_append_right _ List.mem_cons_self), fun w hw u hu => ?_,
    fun z hz => ?_⟩
  · exact hout w hw u ((releaseEach_relaxes fuel done (s.free x)).waiters w u hu)
  · refine releaseEach_keeps B fuel z (fun v t hv ht hb => ?_) done (s.free x)
      (fun u hu => hwaiting u (List.mem_append_left _ hu)) hout (hs.mem_blocked_free z hz)
    exact release_keeps B fuel v t hv ht z hz hb

/-- At no moment of a release from outside of `B` is a number of `B` unblocked. The release is not
    ended by the bound on its depth if as many calls may follow as there are blocked numbers. -/
theorem Outside.releaseTraced (v : View) (start : NodeId) (calls : List Call)
    {B : NodeId → Prop} (fuel : Nat) (x : NodeId) (s : Circuits) (hs : Outside B x s)
    (hx : x ∈ s.blocked) (hfuel : s.blocked.size ≤ fuel) (m : Moment)
    (hm : m ∈ (Circuits.releaseTraced v start calls fuel x s).2) :
    ∃ t, m = ⟨v, start, .changes, calls, t⟩ ∧ ∀ u, B u → u ∈ t.blocked := by
  induction fuel generalizing x s with
  | zero => exact absurd (List.length_pos_of_mem hx) (Nat.not_lt.2 hfuel)
  | succ fuel ih =>
      have heach : ∀ done : List NodeId, done.foldl (fun t y => (if t.blocked.contains y then
          Circuits.releaseTraced v start calls fuel y t else (t, [])).1) (s.free x)
            = Circuits.releaseEach fuel done (s.free x) := by
        intro done
        rw [Circuits.releaseEach]
        simp only [apply_ite Prod.fst, releaseTraced_fst]
      rw [Circuits.releaseTraced] at hm
      simp only [List.mem_cons, mem_goThrough, heach] at hm
      rcases hm with rfl | ⟨done, y, rest, hwaits, hm⟩
      · exact ⟨_, rfl, hs.mem_blocked_free⟩
      · split at hm
        · rename_i hy
          -- The number that has been freed is one less.
          have hfreed := size_free_lt s x hx
          have hless := (releaseEach_relaxes fuel done (s.free x)).size_le
          exact ih y _ (hs.releaseEach fuel hwaits) (DistinctList.contains_iff.1 hy) (by omega) hm
        · exact absurd hm List.not_mem_nil

/-! ## Calls of the walk -/

/-- What a call of the walk finds: the invariant holds, its number is in the view and not blocked,
    and it may go deeper than the view is large. -/
structure Begins (v : View) (limit : Int) (start : NodeId) (fuel : Nat) (x : NodeId)
    (s : Circuits) : Prop where
  /-- The invariant holds. -/
  disciplined : s.Disciplined v start
  /-- The limit has not been reached. -/
  room : s.isFull limit = false
  /-- The number is in the view. -/
  key : x ∈ v.keys
  /-- The number is not blocked. -/
  free : x ∉ s.blocked
  /-- With the path the depth is more than the view has numbers. -/
  depth : v.length < fuel + s.stack.length

-- Without a limit the search is never full.
theorem isFull_zero (s : Circuits) : s.isFull 0 = false := rfl

/-- What holds at a moment of a search without a limit. -/
structure Moment.Sound (m : Moment) : Prop where
  /-- No call is ended by the bound on its depth. -/
  lasts : m.event ≠ .ends
  /-- The invariant holds when a call begins, and it begins in the state that is noted for it. -/
  begins : m.event = .begins → m.state.Disciplined m.part m.start ∧
    ∃ c rest, m.calls = c :: rest ∧ c.state = m.state
  /-- The invariant holds when a call returns, and it returns what the walk returns. -/
  returns : ∀ closed, m.event = .returns closed → m.state.Disciplined m.part m.start ∧
    ∃ c rest, m.calls = c :: rest ∧ c.result m.part 0 m.start = (m.state, closed)
  /-- What was blocked when an open call began is blocked. -/
  kept : ∀ c ∈ m.calls, ∀ u ∈ c.state.blocked, u ∈ m.state.blocked
  /-- No more calls are open than the part has numbers. -/
  depth : m.calls.length ≤ m.part.length

-- A change of the state is sound if what was blocked when an open call began stays blocked.
theorem Moment.sound_changes {v : View} {start : NodeId} {calls : List Call} {s : Circuits}
    (hkept : ∀ c ∈ calls, ∀ u ∈ c.state.blocked, u ∈ s.blocked) (hdepth : calls.length ≤ v.length) :
    Moment.Sound ⟨v, start, .changes, calls, s⟩ where
  lasts := Event.noConfusion
  begins := fun h => Event.noConfusion h
  returns := fun _ h => Event.noConfusion h
  kept := hkept
  depth := hdepth

namespace Begins

variable {v : View} {start : NodeId} {fuel : Nat} {x : NodeId} {s : Circuits}

theorem length_stack_lt {limit : Int} (hc : Begins v limit start fuel x s) :
    s.stack.length < v.length :=
  hc.disciplined.length_stack_lt hc.key hc.free

variable (hv : v.WellFormed)
include hv

/-- The state when some successors have been tried follows the one in which the number has been
    entered. -/
theorem tried (hc : Begins v 0 start (fuel + 1) x s) {done rest : List NodeId}
    (hsuccs : v.succs x = done ++ rest) :
    Follows v start (s.enter x) (Circuits.tried v 0 start fuel x s done).1 := by
  have hdepth : v.length < fuel + (s.enter x).stack.length := by
    have := hc.depth
    rw [enter, List.length_cons]
    omega
  have hkeys : ∀ y ∈ done, y ∈ v.keys := by
    intro y hy
    have hmem : y ∈ v.succs x := by
      rw [hsuccs]
      exact List.mem_append_left rest hy
    exact hv.ends x y ((mem_succs_iff v x y).1 hmem)
  have hentered := enter_tried v 0 start fuel s hc.disciplined hc.room x hc.key hc.free
  exact (foldl_tried v 0 start fuel (walk_walked v hv 0 start fuel) (s.enter x) hdepth done
    [] _ hentered hkeys).follows (isFull_zero _)

-- Entering the number and trying successors unblocks nothing.
theorem mem_blocked_tried (hc : Begins v 0 start (fuel + 1) x s) {done rest : List NodeId}
    (hsuccs : v.succs x = done ++ rest) (u : NodeId) (hu : u ∈ s.blocked) :
    u ∈ (Circuits.tried v 0 start fuel x s done).1.blocked :=
  (hc.tried hv hsuccs).blocked u (DistinctList.mem_insert.2 (Or.inl hu))

/-- What a call finds, the calls it makes find too. -/
theorem deeper (hc : Begins v 0 start (fuel + 1) x s) {done rest : List NodeId} {y : NodeId}
    (hsuccs : v.succs x = done ++ y :: rest)
    (hfree : y ∉ (Circuits.tried v 0 start fuel x s done).1.blocked) :
    Begins v 0 start fuel y (Circuits.tried v 0 start fuel x s done).1 := by
  have hmem : y ∈ v.succs x := by
    rw [hsuccs]
    exact List.mem_append_right done List.mem_cons_self
  have hfollows := hc.tried hv hsuccs
  refine ⟨hfollows.disciplined, isFull_zero _, hv.ends x y ((mem_succs_iff v x y).1 hmem), hfree,
    ?_⟩
  -- The path has become longer by as much as the depth has become smaller.
  have hdepth := hc.depth
  rw [hfollows.stack, enter, List.length_cons]
  omega

theorem returns (hc : Begins v 0 start fuel x s) :
    Follows v start s (walk v 0 start fuel x s).1 :=
  (walk_walked v hv 0 start fuel x s hc.disciplined hc.room hc.key hc.free hc.depth).follows
    (isFull_zero _)

-- The release at the end of a call is outside of what was blocked when the call began, because what
-- waits for a number that was not blocked then was not blocked either.
theorem outside (hc : Begins v 0 start (fuel + 1) x s) :
    Outside (fun u => u ∈ s.blocked) x (Circuits.tried v 0 start fuel x s (v.succs x)).1 := by
  have hsuccs := (List.append_nil (v.succs x)).symm
  exact ⟨hc.free, (hc.tried hv hsuccs).not_mem_of_waits hc.disciplined,
    hc.mem_blocked_tried hv hsuccs⟩

/-- Every moment of a call that begins properly is sound. By induction on the depth: the moments of
    the calls that it makes are sound because these begin properly too, with one more open call and
    one more number on the path. -/
theorem sound (hc : Begins v 0 start fuel x s) (calls : List Call)
    (hcalls : ∀ c ∈ calls, ∀ u ∈ c.state.blocked, u ∈ s.blocked)
    (hlength : calls.length = s.stack.length) (m : Moment)
    (hm : m ∈ (walkTraced v 0 start fuel calls x s).2) : m.Sound := by
  induction fuel generalizing x s calls with
  | zero =>
      have hdepth := hc.depth
      have hpath := hc.length_stack_lt
      omega
  | succ fuel ih =>
      have hopen : ∀ c ∈ (⟨fuel + 1, x, s⟩ : Call) :: calls, ∀ u ∈ c.state.blocked,
          u ∈ s.blocked := by
        intro c hmem
        rcases List.mem_cons.1 hmem with rfl | hmem
        · exact fun _ hu => hu
        · exact hcalls c hmem
      have hdepth : ((⟨fuel + 1, x, s⟩ : Call) :: calls).length ≤ v.length := by
        rw [List.length_cons, hlength]
        exact hc.length_stack_lt
      have hchange : ∀ t : Circuits, (∀ u ∈ s.blocked, u ∈ t.blocked) →
          Moment.Sound ⟨v, start, .changes, ⟨fuel + 1, x, s⟩ :: calls, t⟩ :=
        fun t ht => Moment.sound_changes (fun c hmem u hu => ht u (hopen c hmem u hu)) hdepth
      have hall := (List.append_nil (v.succs x)).symm
      rcases mem_walkTraced v 0 start fuel calls x s m hm with
        rfl | rfl | ⟨done, y, rest, hsuccs, hm⟩ | ⟨hclosed, hm⟩ | rfl | ⟨closed, rfl, hclosed⟩
      · exact ⟨Event.noConfusion, fun _ => ⟨hc.disciplined, _, _, rfl, rfl⟩,
          fun _ h => Event.noConfusion h, hopen, hdepth⟩
      · exact hchange _ (fun u hu => DistinctList.mem_insert.2 (Or.inl hu))
      · have hkept := hc.mem_blocked_tried hv hsuccs
        rcases mem_tryTraced v 0 start _ _ _ y m hm with rfl | ⟨hfree, hm⟩
        · exact hchange _ hkept
        · refine ih (hc.deeper hv hsuccs hfree) _ (fun c hmem u hu => hkept u (hopen c hmem u hu)) ?_ hm
          rw [(hc.tried hv hsuccs).stack, enter, List.length_cons, List.length_cons, hlength]
      · have hfollows := hc.tried hv hall
        rcases (hc.outside hv).releaseTraced v start _ (v.length + 1) x _
          (hfollows.blocked x (DistinctList.mem_insert.2 (Or.inr rfl)))
          (Nat.le_succ_of_le hfollows.disciplined.size_le) m hm with ⟨t, rfl, hkept⟩
        exact hchange t hkept
      · exact hchange _ (hc.mem_blocked_tried hv hall)
      · have hreturn := hc.returns hv
        refine ⟨Event.noConfusion, fun h => Event.noConfusion h, fun closed' h => ?_,
          fun c hmem u hu => hreturn.blocked u (hopen c hmem u hu), hdepth⟩
        cases h
        exact ⟨hreturn.disciplined, _, _, rfl, Prod.ext rfl hclosed.symm⟩

end Begins

end Circuits

/-! ## The search for cycles -/

/-- The search for cycles, with its moments. -/
def cyclesTraced (find : Iterator → List (List NodeId)) (v : View) (limit : Int) :
    Nat → List NodeId → Array (List NodeId) → Array (List NodeId) × List Circuits.Moment
  | 0, _, found => (found, [])
  | fuel + 1, keys, found =>
    let s : Circuits := ⟨∅, ∅, [], found⟩
    if keys.isEmpty || s.isFull limit then (found, [])
    else
      let rest := v.restrict keys
      let chosen := rest.choose find
      if chosen.least < 0 then (found, [])
      else
        let part := rest.restrict chosen.component.toList
        let walked := Circuits.walkTraced part limit chosen.least (part.length + 1) []
          chosen.least s
        let later := cyclesTraced find v limit fuel
          (keys.dropWhile (fun x => decide (x < chosen.least))).tail walked.1.1.found
        (later.1, walked.2 ++ later.2)

theorem cyclesTraced_succ (find : Iterator → List (List NodeId)) (v : View) (limit : Int)
    (fuel : Nat) (keys : List NodeId) (found : Array (List NodeId)) :
    v.cyclesTraced find limit (fuel + 1) keys found =
      if keys.isEmpty || (⟨∅, ∅, [], found⟩ : Circuits).isFull limit then (found, [])
      else if v.leastAt find keys < 0 then (found, [])
      else
        let walked := Circuits.walkTraced (v.partAt find keys) limit (v.leastAt find keys)
          ((v.partAt find keys).length + 1) [] (v.leastAt find keys) ⟨∅, ∅, [], found⟩
        let later := v.cyclesTraced find limit fuel
          (keys.dropWhile (fun x => decide (x < v.leastAt find keys))).tail walked.1.1.found
        (later.1, walked.2 ++ later.2) := rfl

theorem cyclesTraced_fst (find : Iterator → List (List NodeId)) (v : View) (limit : Int)
    (fuel : Nat) (keys : List NodeId) (found : Array (List NodeId)) :
    (v.cyclesTraced find limit fuel keys found).1 = cyclesFrom find v limit fuel keys found := by
  induction fuel generalizing keys found with
  | zero => rfl
  | succ fuel ih =>
      rw [cyclesTraced_succ, cyclesFrom_succ]
      split
      · rfl
      · split
        · rfl
        · simp only [ih, Circuits.walkTraced_fst]

theorem cyclesTraced_sound {find : Iterator → List (List NodeId)} (hfind : FindsComponents find)
    (v : View) (hv : v.WellFormed) (hr : v.InRange) (fuel : Nat) (keys : List NodeId)
    (found : Array (List NodeId)) (m : Circuits.Moment)
    (hm : m ∈ (v.cyclesTraced find 0 fuel keys found).2) : m.Sound := by
  induction fuel generalizing keys found with
  | zero => exact absurd hm List.not_mem_nil
  | succ fuel ih =>
      rw [cyclesTraced_succ] at hm
      split at hm
      · exact absurd hm List.not_mem_nil
      · split at hm
        · exact absurd hm List.not_mem_nil
        · rename_i hleast
          rcases List.mem_append.1 hm with hm | hm
          · rcases leastAt_spec hfind v hv hr keys with hnone | ⟨_, _, hkey, _, _⟩
            · exact absurd hnone.1 hleast
            · have hbegins : Circuits.Begins (v.partAt find keys) 0 (v.leastAt find keys)
                  ((v.partAt find keys).length + 1) (v.leastAt find keys) ⟨∅, ∅, [], found⟩ :=
                ⟨Circuits.start_disciplined _ _ found, Circuits.isFull_zero _, hkey,
                  DistinctList.not_mem_empty _, Nat.lt_succ_self _⟩
              exact hbegins.sound (partAt_wellFormed v hv keys) []
                (fun c hc => absurd hc List.not_mem_nil) rfl m hm
          · exact ih _ _ hm

/-- The release, the walk and the search for cycles can be run with a record of their moments, which
    does not change what they do. At every moment of a search for all cycles of a derived view, the
    invariant holds if a call of the walk begins or returns, and every number is blocked that was
    blocked when one of the open calls began. No call of the walk or of a release is ended by the
    bound on its depth, and no more calls of the walk are open at once than the searched part has
    numbers. -/
theorem search_disciplined (find : Iterator → List (List NodeId)) (hfind : FindsComponents find)
    (g : Graph) (v : View) (hv : v.DerivedFrom g) :
    (∀ part start calls fuel x s,
      (Circuits.releaseTraced part start calls fuel x s).1 = Circuits.release fuel x s) ∧
    (∀ part start fuel calls x s,
      (Circuits.walkTraced part 0 start fuel calls x s).1 = Circuits.walk part 0 start fuel x s) ∧
    (v.cyclesTraced find 0 v.length v.keys #[]).1.toList = v.cyclesBy find 0 ∧
    ∀ m ∈ (v.cyclesTraced find 0 v.length v.keys #[]).2, m.Sound := by
  refine ⟨Circuits.releaseTraced_fst, fun part => Circuits.walkTraced_fst part 0, ?_, ?_⟩
  · rw [cyclesTraced_fst]
    rfl
  · exact cyclesTraced_sound hfind v hv.wellFormed hv.inRange v.length v.keys #[]

/-- The part of the sample that is searched first: the circle of the platform. -/
def callbackRing : View := (ofGraph .callback).partAt Iterator.components (ofGraph .callback).keys

/-- The walk from the first number of the sample. -/
def callbackWalk : Circuits.Call := ⟨callbackRing.length + 1, 0, ⟨∅, ∅, [], #[]⟩⟩

/-- The moment in which it goes on to the second number. -/
def callbackMoment : Circuits.Moment :=
  ⟨callbackRing, 0, .begins, [⟨callbackRing.length, 1, callbackWalk.state.enter 0⟩, callbackWalk],
    callbackWalk.state.enter 0⟩

-- The first number of the sample lies on a circle, so it is chosen, and it calls the second only.
theorem callbackRing_spec :
    (ofGraph .callback).leastAt Iterator.components (ofGraph .callback).keys = 0 ∧
      callbackRing.succs 0 = [1] ∧ ∃ k, callbackRing.length = k + 1 := by
  have hv : (ofGraph .callback).DerivedFrom .callback := .whole Graph.callback_built (by decide)
  have hw := hv.wellFormed
  have hrest := restrict_wellFormed (ofGraph .callback).keys hw
  have hedges : ((ofGraph .callback).restrict (ofGraph .callback).keys).hasEdge 0 1 = true ∧
      ((ofGraph .callback).restrict (ofGraph .callback).keys).hasEdge 1 2 = true ∧
      ((ofGraph .callback).restrict (ofGraph .callback).keys).hasEdge 2 0 = true ∧
      (ofGraph .callback).succs 0 = [1] := by
    refine ⟨?_, ?_, ?_, ?_⟩ <;> cbv
  rcases hedges with ⟨h01, h12, h20, honly⟩
  have hway : ((ofGraph .callback).restrict (ofGraph .callback).keys).Reaches 1 0 :=
    .tail (.single h12) h20
  have hround : ((ofGraph .callback).restrict (ofGraph .callback).keys).Reaches 0 0 :=
    .head h01 hway
  rcases leastAt_spec findsComponents _ hw hv.inRange (ofGraph .callback).keys with
    hnone | ⟨hnatural, _, hkey, hle, hmem⟩
  · exact absurd hround (hnone.2 0)
  · have hleast : (ofGraph .callback).leastAt Iterator.components (ofGraph .callback).keys = 0 :=
      le_antisymm (hle 0 hround) hnatural
    rw [hleast] at hkey hmem
    refine ⟨hleast, ?_, Nat.exists_eq_succ_of_ne_zero (List.length_pos_of_mem hkey).ne'⟩
    have hone : callbackRing.hasEdge 0 1 = true :=
      (hasEdge_restrict_iff _ hrest _ 0 1).2
        ⟨h01, (hmem 0).2 (Or.inl rfl), (hmem 1).2 (Or.inr ⟨.single h01, hway⟩)⟩
    have hsub : ∀ y ∈ callbackRing.succs 0, y = 1 := by
      intro y hy
      have hedge := ((hasEdge_restrict _ 0 y).1 ((mem_succs_iff _ 0 y).1 hy)).2.2
      have hedge' := ((hasEdge_restrict _ 0 y).1 hedge).2.2
      rw [← mem_succs_iff, honly] at hedge'
      exact List.mem_singleton.1 hedge'
    have hnodup := (succs_pairwise callbackRing 0).imp (fun hlt => ne_of_lt hlt)
    refine List.perm_singleton.1 ((List.perm_ext_iff_of_nodup hnodup (List.nodup_singleton 1)).2 ?_)
    intro y
    rw [List.mem_singleton]
    refine ⟨hsub y, ?_⟩
    rintro rfl
    exact (mem_succs_iff _ 0 1).2 hone

/-- In the sample there is a moment in which the walk goes on from the first number to the second.
    Two calls are open then, and the first number is blocked. -/
theorem search_disciplined_callback :
    (ofGraph .callback).DerivedFrom .callback ∧ FindsComponents Iterator.components ∧
    callbackMoment ∈ ((ofGraph .callback).cyclesTraced Iterator.components 0
      (ofGraph .callback).length (ofGraph .callback).keys #[]).2 ∧
    callbackMoment.calls.length = 2 ∧ 0 ∈ callbackMoment.state.blocked ∧
    callbackMoment.Sound := by
  have hv : (ofGraph .callback).DerivedFrom .callback := .whole Graph.callback_built (by decide)
  have hlength : (ofGraph .callback).length = 3 + 1 := by cbv
  have hkeys : (ofGraph .callback).keys.isEmpty = false := by cbv
  rcases callbackRing_spec with ⟨hleast, hsuccs, k, hring⟩
  have hmem : callbackMoment ∈ ((ofGraph .callback).cyclesTraced Iterator.components 0
      (ofGraph .callback).length (ofGraph .callback).keys #[]).2 := by
    rw [hlength, cyclesTraced_succ, Circuits.isFull_zero, hkeys, hleast]
    refine List.mem_append_left _ (List.mem_append_left _ (List.mem_append_left _
      (List.mem_append_right _ ?_)))
    refine (Circuits.mem_goThrough _ _ _ _).2 ⟨[], 1, [], hsuccs, ?_⟩
    change callbackMoment ∈ (Circuits.walkTraced callbackRing 0 0 callbackRing.length
      [callbackWalk] 1 (callbackWalk.state.enter 0)).2
    rw [callbackMoment, hring]
    exact List.mem_append_left _ (List.mem_append_left _ (List.mem_append_left _ List.mem_cons_self))
  rcases search_disciplined _ findsComponents .callback _ hv with ⟨_, _, _, hsound⟩
  exact ⟨hv, findsComponents, hmem, rfl, by decide, hsound _ hmem⟩

end View

end TaintSeed
