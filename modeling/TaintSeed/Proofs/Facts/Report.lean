import TaintSeed.Proofs.Facts.Triples
import TaintSeed.Proofs.Text.Order

/-!
# What a Report Depends On

The report of a map of facts lists points, flows and elements, each in the
order of what is written for them. Two maps with the same facts may have got
them in different orders, and the report is meant to hide that.

It does so for points, which have an order of their own, and for elements: two
elements with one text have one line. It does not do so for flows. The text of
a flow leaves out the context and the number of its node, so different flows at
one point may have one text; they keep the order in which they came, and what
is written for a flow includes the lines of its elements
(`report_ne_of_tie`). If flows with one text taint elements with the same
texts, the lines are the same too, and then the report depends on the facts
alone.

Texts are compared as lists of bytes, which is all that a reader of a report
sees of them.

## Main definitions

* `Facts.TiesAgree`: Flows with one text taint elements with the same texts.

## Theorems

* `Facts.points_eq`: The points of maps with the same facts.
* `Facts.flowLines_eq`: What is written for a flow depends on texts alone.
* `Facts.report_eq_of_same`: Where ties agree, the report depends on the facts alone.
* `Facts.report_ne_of_tie`: Two maps with the same facts and different reports.
-/

namespace TaintSeed

open Text.Bytes (ofText)

namespace Facts

/-- Flows that have one text taint, at one point, elements with the same texts. -/
def TiesAgree (f : Facts) : Prop :=
  ∀ p, ∀ t ∈ f.flowsAt p, ∀ u ∈ f.flowsAt p, ofText t.text = ofText u.text →
    ((f.elementsAt p t).toList.map (fun e => ofText e.text)).Perm
      ((f.elementsAt p u).toList.map (fun e => ofText e.text))

/-- What is written for an element is its text between blanks and the end of the line. -/
theorem bytes_elementLine (e : Element) (he : e ≠ .absent) :
    ofText (elementLine e) = ofText "    " ++ ofText e.text ++ ofText "\n" := by
  have hline : elementLine e = "    " ++ e.text ++ "\n" := by
    cases e with
    | absent => exact absurd rfl he
    | localValue node value => rfl
    | fieldOf owner field => rfl
    | object which => rfl
  rw [hline, Text.Bytes.ofText_append, Text.Bytes.ofText_append]

/-- The lines of elements depend on their texts alone. -/
theorem elementLines_eq (s u : ElementSet) (hs : Element.absent ∉ s) (hu : Element.absent ∉ u)
    (h : (s.toList.map (fun e => ofText e.text)).Perm (u.toList.map (fun e => ofText e.text))) :
    (ElementSet.sorted s).map (fun e => ofText (elementLine e))
      = (ElementSet.sorted u).map (fun e => ofText (elementLine e)) := by
  unfold ElementSet.sorted
  have hkeys := Text.Bytes.keys_mergeSort_eq Element.text s.toList u.toList h
  refine Text.Bytes.map_eq_of_keys_eq _ (fun e => ofText (elementLine e)) _ _ hkeys ?_
  intro a ha b hb hab
  rw [List.mem_mergeSort] at ha hb
  have hane : a ≠ .absent := fun hc => hs (hc ▸ ha)
  have hbne : b ≠ .absent := fun hc => hu (hc ▸ hb)
  rw [bytes_elementLine a hane, bytes_elementLine b hbne, hab]

/-- What is written for a flow depends on its text and on those of its elements. -/
theorem flowLines_eq (f g : Facts) (p : ProgramPoint) (t u : Flow)
    (hf : ¬ f.Holds p t .absent) (hg : ¬ g.Holds p u .absent) (htext : ofText t.text = ofText u.text)
    (h : ((f.elementsAt p t).toList.map (fun e => ofText e.text)).Perm
      ((g.elementsAt p u).toList.map (fun e => ofText e.text))) :
    ofText (f.flowLines p t) = ofText (g.flowLines p u) := by
  have helements := elementLines_eq (f.elementsAt p t) (g.elementsAt p u) hf hg h
  simp only [flowLines, Text.Bytes.ofText_append, Text.Bytes.ofText_join, List.map_map,
    Function.comp_def, htext, helements]

section SameFacts

variable {f g : Facts}

/-- Maps with the same facts list the same points, in one order. -/
theorem points_eq (hf : f.Proper) (hg : g.Proper)
    (h : ∀ p t e, f.Holds p t e ↔ g.Holds p t e) : f.points = g.points := by
  have hirrefl : ∀ p q : ProgramPoint, p.precedes q = true → q.precedes p = true → p = q := by
    intro p q hpq hqp
    rw [ProgramPoint.precedes_iff] at hpq hqp
    exact absurd hqp (lt_asymm hpq)
  have hnodup : ∀ f : Facts, f.Proper → f.points.Nodup := by
    intro f hf
    refine (points_pairwise f hf).imp ?_
    rintro p q hpq rfl
    rw [ProgramPoint.precedes_iff] at hpq
    exact lt_irrefl _ hpq
  refine List.Perm.eq_of_pairwise (fun p q _ _ => hirrefl p q) (points_pairwise f hf)
    (points_pairwise g hg) ?_
  rw [List.perm_ext_iff_of_nodup (hnodup f hf) (hnodup g hg)]
  intro p
  simp only [mem_points_iff f hf, mem_points_iff g hg, h]

/-- What is written for a point, apart from the order of flows with one text. -/
theorem flowsAt_lines_eq (hf : f.Proper) (hg : g.Proper)
    (h : ∀ p t e, f.Holds p t e ↔ g.Holds p t e) (hgap : ∀ p t, ¬ f.Holds p t .absent)
    (hties : f.TiesAgree) (p : ProgramPoint) :
    (f.flowsAt p).map (fun t => ofText (f.flowLines p t))
      = (g.flowsAt p).map (fun t => ofText (g.flowLines p t)) := by
  rcases mem_flowsAt_iff f hf p with ⟨hfnodup, hfmem⟩
  rcases mem_flowsAt_iff g hg p with ⟨hgnodup, hgmem⟩
  have hgap' : ∀ t, ¬ g.Holds p t .absent := fun t hc => hgap p t ((h p t .absent).2 hc)
  have hperm : (f.flowsAt p).Perm (g.flowsAt p) := by
    rw [List.perm_ext_iff_of_nodup hfnodup hgnodup]
    intro t
    simp only [hfmem, hgmem, h]
  -- One flow has the same lines in both maps.
  have hlines : ∀ t, ofText (g.flowLines p t) = ofText (f.flowLines p t) := by
    intro t
    refine flowLines_eq g f p t t (hgap' t) (hgap p t) rfl (List.Perm.map _ ?_)
    rw [List.perm_ext_iff_of_nodup (g.elementsAt p t).nodup (f.elementsAt p t).nodup]
    exact fun e => (h p t e).symm
  simp only [hlines]
  -- Sorting leaves the order of flows with one text open, and these have the same lines.
  unfold flowsAt
  refine Text.Bytes.map_mergeSort_eq Flow.text (fun t => ofText (f.flowLines p t)) _ _ ?_ ?_
  · exact ((List.mergeSort_perm _ _).symm.trans hperm).trans (List.mergeSort_perm _ _)
  · intro t ht u hu htu
    exact flowLines_eq f f p t u (hgap p t) (hgap p u) htu
      (hties p t (List.mem_mergeSort.2 ht) u (List.mem_mergeSort.2 hu) htu)

end SameFacts

/-- Of two maps that were built by any calls and hold the same facts, none of them about an absent
    element, the reports are the same byte by byte, if flows with one text at one point taint
    elements with the same texts. -/
theorem report_eq_of_same (f g : Facts) (hf : f.Built) (hg : g.Built)
    (hsame : f.same g = true) (hgap : ∀ p t, ¬ f.Holds p t .absent) (hties : f.TiesAgree) :
    ofText f.report = ofText g.report := by
  have hpf := built_proper f hf
  have hpg := built_proper g hg
  have h : ∀ p t e, f.Holds p t e ↔ g.Holds p t e := by
    intro p t e
    rw [← mem_triples, (same_iff f g hpf hpg).1 hsame, mem_triples]
  simp only [report, Text.Bytes.ofText_join, List.map_map, Function.comp_def,
    Text.Bytes.ofText_append, flowsAt_lines_eq hpf hpg h hgap hties, points_eq hpf hpg h]

/-- The flow of an argument of a callback, which has a node for each context. -/
def callbackFlow (id : NodeId) (context : String) : Flow :=
  .entryArg { (default : Node) with
    id? := some id, method := ⟨"", "", "onBind", ""⟩, context := context } 0

/-- The map of two facts at one point, each a flow with the value that it taints, in the order in
    which they are added. -/
def pairOf (x y : Flow × Int) : Facts :=
  ((Facts.empty.add ⟨0, 0⟩ (some x.1) (.localValue 0 x.2)).1.add ⟨0, 0⟩ (some y.1)
    (.localValue 0 y.2)).1

/-- The set of one value. -/
def onlyValue (v : Int) : ElementSet := .ofList [.localValue 0 v]

theorem pairOf_built (x y : Flow × Int) : (pairOf x y).Built := .add _ _ _ (.add _ _ _ .empty)

theorem holds_pairOf (x y : Flow × Int) (p : ProgramPoint) (t : Flow) (e : Element) :
    (pairOf x y).Holds p t e ↔ p = ⟨0, 0⟩ ∧
      (t = x.1 ∧ e = .localValue 0 x.2 ∨ t = y.1 ∧ e = .localValue 0 y.2) := by
  have hadd : ∀ (f : Facts) (q : ProgramPoint) (u : Flow) (v : Int),
      (f.add q (some u) (.localValue 0 v)).1 = f.insertAll q u [.localValue 0 v] :=
    fun _ _ _ _ => rfl
  have hempty : ¬ Facts.empty.Holds p t e := DistinctList.not_mem_empty e
  simp only [pairOf, hadd, holds_insertAll, List.mem_singleton, hempty, false_or, and_or_left]

theorem not_holds_pairOf_absent (x y : Flow × Int) (p : ProgramPoint) (t : Flow) :
    ¬ (pairOf x y).Holds p t .absent := by
  simp [holds_pairOf]

/-- The report of two facts that were added in the order of their flows. -/
theorem report_pairOf (x y : Flow × Int) (hne : x.1 ≠ y.1)
    (hle : Text.Bytes.le x.1.text y.1.text = true) :
    (pairOf x y).report = (ProgramPoint.mk 0 0).text ++ ":\n" ++
      String.join ([x, y].map (fun z =>
        "  " ++ z.1.text ++ ":\n" ++ ("    " ++ (Element.localValue 0 z.2).text ++ "\n"))) := by
  have htable : (pairOf x y).table = ⟨[(⟨0, 0⟩, ⟨[(x.1, onlyValue x.2), (y.1, onlyValue y.2)]⟩)]⟩ := by
    have hsecond : Table.change y.1 ∅ (fun s => s.insertAll [.localValue 0 y.2])
        [(x.1, onlyValue x.2)] = [(x.1, onlyValue x.2), (y.1, onlyValue y.2)] := by
      rw [Table.change, if_neg hne, Table.change]
      rfl
    exact congrArg (fun flows => Table.mk [(ProgramPoint.mk 0 0, Table.mk flows)]) hsecond
  have hpoints : (pairOf x y).points = [⟨0, 0⟩] := by
    rw [points, htable]
    exact List.mergeSort_singleton _
  have hflows : (pairOf x y).flowsAt ⟨0, 0⟩ = [x.1, y.1] := by
    rw [flowsAt, htable]
    exact List.mergeSort_of_pairwise (List.pairwise_pair.2 hle)
  have hlines : ∀ z ∈ [x, y], (pairOf x y).flowLines ⟨0, 0⟩ z.1
      = "  " ++ z.1.text ++ ":\n" ++ ("    " ++ (Element.localValue 0 z.2).text ++ "\n") := by
    intro z hz
    have hset : (pairOf x y).elementsAt ⟨0, 0⟩ z.1 = onlyValue z.2 := by
      rcases List.mem_pair.1 hz with rfl | rfl
      · simp [elementsAt, htable, Table.get?, Table.find?]
      · simp [elementsAt, htable, Table.get?, Table.find?, hne]
    have hsorted : ElementSet.sorted (onlyValue z.2) = [.localValue 0 z.2] :=
      List.mergeSort_singleton _
    rw [flowLines, hset, hsorted]
    rfl
  rw [report, hpoints, List.map_singleton, hflows, List.map_cons, List.map_singleton,
    hlines x (by simp), hlines y (by simp)]
  rfl

/-- Where both flows taint one value, it does not show which of them came first. -/
theorem report_eq_of_same_callback :
    (callbackFlow 0 "").text = (callbackFlow 1 "c1").text ∧
    (pairOf (callbackFlow 0 "", 1) (callbackFlow 1 "c1", 1)).same
      (pairOf (callbackFlow 1 "c1", 1) (callbackFlow 0 "", 1)) = true ∧
    ofText (pairOf (callbackFlow 0 "", 1) (callbackFlow 1 "c1", 1)).report
      = ofText (pairOf (callbackFlow 1 "c1", 1) (callbackFlow 0 "", 1)).report := by
  have hsame : (pairOf (callbackFlow 0 "", 1) (callbackFlow 1 "c1", 1)).same
      (pairOf (callbackFlow 1 "c1", 1) (callbackFlow 0 "", 1)) = true := by decide +kernel
  -- Every flow that taints something taints this value alone.
  have hone : ∀ p, ∀ t ∈ (pairOf (callbackFlow 0 "", 1) (callbackFlow 1 "c1", 1)).flowsAt p,
      ((pairOf (callbackFlow 0 "", 1) (callbackFlow 1 "c1", 1)).elementsAt p t).toList
        = [.localValue 0 1] := by
    intro p t ht
    rcases ((mem_flowsAt_iff _ (built_proper _ (pairOf_built _ _)) p).2 t).1 ht with ⟨e, he⟩
    rcases (holds_pairOf _ _ p t e).1 he with ⟨rfl, ⟨rfl, _⟩ | ⟨rfl, _⟩⟩
    · decide +kernel
    · decide +kernel
  refine ⟨rfl, hsame, report_eq_of_same _ _ (pairOf_built _ _) (pairOf_built _ _) hsame
    (not_holds_pairOf_absent _ _) ?_⟩
  intro p t ht u hu _
  rw [hone p t ht, hone p u hu]

/-- Where the two flows taint different values, the report tells which of them came first. -/
theorem report_ne_of_tie :
    ∃ f g : Facts, f.Built ∧ g.Built ∧ (∀ p t, ¬ f.Holds p t .absent) ∧ f.same g = true ∧
      ofText f.report ≠ ofText g.report := by
  refine ⟨pairOf (callbackFlow 0 "", 1) (callbackFlow 1 "c1", 2),
    pairOf (callbackFlow 1 "c1", 2) (callbackFlow 0 "", 1), pairOf_built _ _, pairOf_built _ _,
    not_holds_pairOf_absent _ _, by decide +kernel, ?_⟩
  rw [report_pairOf _ _ (by decide +kernel) (by decide +kernel),
    report_pairOf _ _ (by decide +kernel) (by decide +kernel)]
  decide +kernel

end Facts

end TaintSeed
