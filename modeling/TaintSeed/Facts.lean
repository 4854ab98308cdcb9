import TaintSeed.Collection.Table
import TaintSeed.Element
import TaintSeed.Flow
import TaintSeed.Text.Bytes

/-!
# Facts

A fact says that at a program point an element is tainted by a flow. A map of
facts keeps, for each point, the flows that reach it and, for each of these,
the elements that it taints. A point or a flow enters the map only together
with an element, so nothing in the map is empty.

Facts without a flow are refused, and so is the absent element when it is
given alone.

## Main definitions

* `Facts`: The elements by point and flow.
* `Facts.add`, `Facts.addAll`, `Facts.merge`: Adding one fact, several, or all of another map.
* `Facts.Refusal`: Why a fact is refused.
* `Facts.points`, `Facts.flowsAt`, `Facts.elementsAt`: What is in the map.
* `Facts.report`: The whole map as text.
-/

namespace TaintSeed

/-- The tainted elements by program point and flow. -/
structure Facts where
  /-- The flows at each point with the elements that they taint. -/
  table : Table ProgramPoint (Table Flow ElementSet)
deriving Inhabited

namespace Facts

/-- No facts. -/
def empty : Facts := ⟨∅⟩

/-- Why a fact is refused. -/
inductive Refusal where
  /-- A fact about an element has no flow. -/
  | noFlow (element : Element) (point : ProgramPoint)
  /-- A fact has no element. -/
  | noElement (flow : Flow) (point : ProgramPoint)
  /-- Facts about several elements have no flow. -/
  | noFlowForAll (point : ProgramPoint)
deriving DecidableEq

/-- The wording of the refusal. -/
def Refusal.message : Refusal → String
  | .noFlow element point =>
    "flow.Facts.Add: nil flow type for " ++ element.text ++ " at " ++ point.text
  | .noElement flow point =>
    "flow.Facts.Add: nil element for " ++ flow.text ++ " at " ++ point.text
  | .noFlowForAll point => "flow.Facts.AddAll: nil flow type at " ++ point.text

/-- The elements that a flow taints at a point. -/
def elementsAt (f : Facts) (p : ProgramPoint) (t : Flow) : ElementSet :=
  (((f.table.get? p).getD ∅).get? t).getD ∅

/-- Adds elements to those that a flow taints at a point, without any check. -/
def insertAll (f : Facts) (p : ProgramPoint) (t : Flow) (es : List Element) : Facts :=
  ⟨f.table.modify p ∅ (fun flows => flows.modify t ∅ (fun s => s.insertAll es))⟩

/-- Adds the elements of a set to those that a flow taints at a point. Nothing is recorded for
    the empty set. -/
def record (f : Facts) (p : ProgramPoint) (t : Flow) (s : ElementSet) : Facts :=
  if s.isEmpty then f else f.insertAll p t s.toList

/-- Adds a fact. Gives the map afterwards, and whether the fact is new or why it is refused. -/
def add (f : Facts) (p : ProgramPoint) (t : Option Flow) (e : Element) :
    Facts × Except Refusal Bool :=
  match t with
  | none => (f, .error (.noFlow e p))
  | some t =>
    if e = .absent then (f, .error (.noElement t p))
    else (f.insertAll p t [e], .ok (!(f.elementsAt p t).contains e))

/-- Adds facts about all the elements of a set. Gives the map afterwards, and how many facts are
    new or why they are refused. -/
def addAll (f : Facts) (p : ProgramPoint) (t : Option Flow) (s : ElementSet) :
    Facts × Except Refusal Nat :=
  match t with
  | none => (f, .error (.noFlowForAll p))
  | some t =>
    (f.record p t s, .ok (s.toList.filter (fun e => !(f.elementsAt p t).contains e)).length)

/-- Adds all the facts of `g` to those of `f`. -/
def merge (f g : Facts) : Facts :=
  g.table.entries.foldl (fun f e => e.2.entries.foldl (fun f x => f.record e.1 x.1 x.2) f) f

/-- The points with facts, by node and block. -/
def points (f : Facts) : List ProgramPoint :=
  f.table.keys.mergeSort (fun p q => !q.precedes p)

/-- The flows that taint something at a point, in the order of their texts. -/
def flowsAt (f : Facts) (p : ProgramPoint) : List Flow :=
  ((f.table.get? p).getD ∅).keys.mergeSort (fun s t => Text.Bytes.le s.text t.text)

/-- The number of facts. -/
def size (f : Facts) : Nat :=
  (f.table.entries.map (fun e =>
    (e.2.entries.map (fun x => x.2.size)).foldr (· + ·) 0)).foldr (· + ·) 0

/-- Whether the flows of `s` are those of `t`, with the same elements. -/
def sameFlows (s t : Table Flow ElementSet) : Bool :=
  s.size == t.size && s.entries.all (fun x => x.2.sameMembers ((t.get? x.1).getD ∅))

/-- Whether two maps hold the same facts. -/
def same (f g : Facts) : Bool :=
  f.table.size == g.table.size && f.table.entries.all (fun e =>
    match g.table.get? e.1 with
    | none => false
    | some flows => sameFlows e.2 flows)

/-- The line of an element in a report. -/
def elementLine : Element → String
  | .absent => "    %!s(<nil>)\n"
  | e => "    " ++ e.text ++ "\n"

/-- The lines of a flow in a report. -/
def flowLines (f : Facts) (p : ProgramPoint) (t : Flow) : String :=
  "  " ++ t.text ++ ":\n" ++
    String.join ((ElementSet.sorted (f.elementsAt p t)).map elementLine)

/-- All the facts as text: the points, at each the flows, for each the elements. -/
def report (f : Facts) : String :=
  String.join (f.points.map (fun p =>
    p.text ++ ":\n" ++ String.join ((f.flowsAt p).map (f.flowLines p))))

/-- Whether every set of elements can be put in the order of its texts: an absent element has
    none, so it can only stand alone. -/
def isReportable (f : Facts) : Bool :=
  f.table.entries.all (fun e => e.2.entries.all (fun x =>
    !ElementSet.hasGap x.2 || x.2.size == 1))

end Facts

end TaintSeed
