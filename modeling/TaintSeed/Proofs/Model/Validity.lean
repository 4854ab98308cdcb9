import TaintSeed.Proofs.Hierarchy.Acyclic
import TaintSeed.Proofs.Model.FieldEntries

/-!
# Which Models Give a Program

A model is read in one pass: classes, nodes, edges and points-to entries are
checked one after the other, each against what has been built so far, and the
first that fails ends the reading. What makes a model good does not depend on
that order. `Flawed` lists what can be wrong with a model in terms of its own
lists, and `Valid` says that nothing is.

Each part of the reading gets a lemma that says when it succeeds. A node is
compared with the nodes before it, by label and by method and context, so for a
list of nodes the comparisons add up to two lists without repetitions. Nodes
come before edges and both ends of an edge are looked up by label, so an edge
between known labels can always be drawn.

## Main definitions

* `Model.Flawed`: Something is wrong with the model.
* `Model.Valid`: Nothing is wrong with the model.

## Theorems

* `Model.hierarchy_isOk_iff`: When the classes of a model form a hierarchy.
* `Model.addNodes_isOk_iff`, `Model.addEdges_isOk_iff`: When nodes and edges are accepted.
* `Model.addSets_isOk_iff`: When points-to entries are accepted.
* `Model.program_isOk_iff`: A model gives a program when it is valid.
* `Model.program_eq_error_iff`: A model is refused when it has a flaw.
-/

namespace TaintSeed

namespace Model

/-- One step up, by canonical names: from a listed class to the superclass that it names. -/
def Extends (m : Model) (name above : String) : Prop :=
  ∃ c ∈ m.classes, (TypeRef.parse c.name).name = name ∧ c.super ≠ "" ∧
    (TypeRef.parse c.super).name = above

/-- A listed class has that canonical name, which is that of a class, and declares the field. -/
def Declares (m : Model) (owner name : String) : Prop :=
  (TypeRef.parse owner).kind = .reference ∧
    ∃ c ∈ m.classes, (TypeRef.parse c.name).name = (TypeRef.parse owner).name ∧
      ∃ f ∈ c.fields, f.name = name

/-- What no two nodes share. -/
def Node.key (n : Node) : Method × String := (n.method, n.context)

/-- The words for loaders, in lower case. -/
def loaderWords : List String := ["application", "app", "primordial", "library", ""]

/-- Something is wrong with the model. -/
inductive Flawed (m : Model) : Prop
  /-- A field of a class has no name or no type. -/
  | field {c : Class} {f : Field} (declared : c ∈ m.classes) (listed : f ∈ c.fields)
      (missing : f.name = "" ∨ f.type = "")
  /-- Two classes have one canonical name. -/
  | classTwice (repeated : ¬ (m.classes.map (fun c => (TypeRef.parse c.name).name)).Nodup)
  /-- The way up from a class comes back to it. -/
  | cycle {name : String} (returns : Relation.TransGen m.Extends name name)
  /-- A node has no label. -/
  | unlabelled {n : Node} (listed : n ∈ m.nodes) (missing : n.label = "")
  /-- Two nodes have one label. -/
  | labelTwice (repeated : ¬ (m.nodes.map Node.label).Nodup)
  /-- The word for the loader of a node is not known. -/
  | loader {n : Node} (listed : n ∈ m.nodes)
      (unknown : Text.Keyword.lower n.loader ∉ loaderWords)
  /-- The parameters of a node and their types differ in number. -/
  | paramCount {n : Node} (listed : n ∈ m.nodes) (given : n.paramTypes ≠ [])
      (differ : n.paramTypes.length ≠ n.params.length)
  /-- Two nodes have one method and one context. -/
  | nodeTwice (repeated : ¬ (m.nodes.map Node.key).Nodup)
  /-- An edge is not a pair. -/
  | notAPair {edge : List String} (listed : edge ∈ m.edges) (count : edge.length ≠ 2)
  /-- An edge has a label that no node has. -/
  | unknownEnd {edge : List String} {label : String} (listed : edge ∈ m.edges)
      (named : label ∈ edge) (unknown : label ∉ m.nodes.map Node.label)
  /-- A points-to entry is of a value and of a field, or of neither. -/
  | ambiguous {e : PointsToEntry} (listed : e ∈ m.pointsTo)
      (both : e.local?.isSome = e.field?.isSome)
  /-- A points-to entry is of a value of a node that is not there. -/
  | unknownLocal {e : PointsToEntry} {l : LocalRef} (listed : e ∈ m.pointsTo)
      (given : e.local? = some l) (unknown : l.node ∉ m.nodes.map Node.label)
  /-- A points-to entry is of a field that is not there. -/
  | unknownField {e : PointsToEntry} {f : FieldRef} (listed : e ∈ m.pointsTo)
      (given : e.field? = some f) (unknown : ¬ m.Declares f.owner f.name)

/-- The fields of the class have names and types. -/
def Class.IsComplete (c : Class) : Prop := ∀ f ∈ c.fields, f.name ≠ "" ∧ f.type ≠ ""

/-- Nothing is wrong with the node by itself. -/
structure Node.IsComplete (n : Node) : Prop where
  label : n.label ≠ ""
  loader : Text.Keyword.lower n.loader ∈ loaderWords
  paramTypes : n.paramTypes = [] ∨ n.paramTypes.length = n.params.length

/-- The points-to entry is of something: of a value of a listed node or of a declared field. -/
def IsPlaced (m : Model) (e : PointsToEntry) : Prop :=
  (∃ l, e.local? = some l ∧ e.field? = none ∧ l.node ∈ m.nodes.map Node.label) ∨
    ∃ f, e.local? = none ∧ e.field? = some f ∧ m.Declares f.owner f.name

/-- Nothing is wrong with the model. -/
structure Valid (m : Model) : Prop where
  fields : ∀ c ∈ m.classes, c.IsComplete
  names : (m.classes.map (fun c => (TypeRef.parse c.name).name)).Nodup
  acyclic : ∀ name, ¬ Relation.TransGen m.Extends name name
  nodes : ∀ n ∈ m.nodes, n.IsComplete
  labels : (m.nodes.map Node.label).Nodup
  keys : (m.nodes.map Node.key).Nodup
  edges : ∀ edge ∈ m.edges, edge.length = 2 ∧ ∀ label ∈ edge, label ∈ m.nodes.map Node.label
  pointsTo : ∀ e ∈ m.pointsTo, m.IsPlaced e

theorem isPlaced_or_flawed (m : Model) (e : PointsToEntry) (he : e ∈ m.pointsTo) :
    m.IsPlaced e ∨ m.Flawed := by
  cases hlocal : e.local? with
  | none =>
      cases hfield : e.field? with
      | none => exact Or.inr (.ambiguous he (by rw [hlocal, hfield]; rfl))
      | some f =>
          by_cases hf : m.Declares f.owner f.name
          · exact Or.inl (Or.inr ⟨f, hlocal, hfield, hf⟩)
          · exact Or.inr (.unknownField he hfield hf)
  | some l =>
      cases hfield : e.field? with
      | none =>
          by_cases hl : l.node ∈ m.nodes.map Node.label
          · exact Or.inl (Or.inl ⟨l, hlocal, hfield, hl⟩)
          · exact Or.inr (.unknownLocal he hlocal hl)
      | some f => exact Or.inr (.ambiguous he (by rw [hlocal, hfield]; rfl))

theorem valid_of_not_flawed (m : Model) (h : ¬ m.Flawed) : m.Valid where
  fields := fun c hc f hf =>
    ⟨fun hname => h (.field hc hf (Or.inl hname)), fun htype => h (.field hc hf (Or.inr htype))⟩
  names := Decidable.byContradiction fun hc => h (.classTwice hc)
  acyclic := fun _ hc => h (.cycle hc)
  nodes := fun n hn =>
    { label := fun hc => h (.unlabelled hn hc)
      loader := Decidable.byContradiction fun hc => h (.loader hn hc)
      paramTypes := by
        by_cases hgiven : n.paramTypes = []
        · exact Or.inl hgiven
        · exact Or.inr (Decidable.byContradiction fun hc => h (.paramCount hn hgiven hc)) }
  labels := Decidable.byContradiction fun hc => h (.labelTwice hc)
  keys := Decidable.byContradiction fun hc => h (.nodeTwice hc)
  edges := fun _ he =>
    ⟨Decidable.byContradiction fun hc => h (.notAPair he hc),
      fun _ hl => Decidable.byContradiction fun hc => h (.unknownEnd he hl hc)⟩
  pointsTo := fun e he => (m.isPlaced_or_flawed e he).resolve_right h

theorem Flawed.not_valid {m : Model} (h : m.Flawed) : ¬ m.Valid := by
  intro hv
  cases h with
  | field declared listed missing =>
      rcases missing with hname | htype
      · exact (hv.fields _ declared _ listed).1 hname
      · exact (hv.fields _ declared _ listed).2 htype
  | classTwice repeated => exact repeated hv.names
  | cycle returns => exact hv.acyclic _ returns
  | unlabelled listed missing => exact (hv.nodes _ listed).label missing
  | labelTwice repeated => exact repeated hv.labels
  | loader listed unknown => exact unknown (hv.nodes _ listed).loader
  | paramCount listed given differ =>
      rcases (hv.nodes _ listed).paramTypes with hnone | hsame
      · exact given hnone
      · exact differ hsame
  | nodeTwice repeated => exact repeated hv.keys
  | notAPair listed count => exact count (hv.edges _ listed).1
  | unknownEnd listed named unknown => exact unknown ((hv.edges _ listed).2 _ named)
  | ambiguous listed both =>
      rcases hv.pointsTo _ listed with ⟨l, hlocal, hfield, _⟩ | ⟨f, hlocal, hfield, _⟩
      · simp [hlocal, hfield] at both
      · simp [hlocal, hfield] at both
  | unknownLocal listed given unknown =>
      rcases hv.pointsTo _ listed with ⟨l, hlocal, _, hl⟩ | ⟨f, hlocal, _, _⟩
      · cases hlocal.symm.trans given
        exact unknown hl
      · cases hlocal.symm.trans given
  | unknownField listed given unknown =>
      rcases hv.pointsTo _ listed with ⟨l, _, hfield, _⟩ | ⟨f, _, hfield, hf⟩
      · cases hfield.symm.trans given
      · cases hfield.symm.trans given
        exact unknown hf

/-! ## Classes -/

theorem decl_isOk_iff (c : Class) : (∃ d, c.decl = .ok d) ↔ c.IsComplete := by
  have hany : c.fields.any (fun f => f.name == "" || f.type == "") = true ↔ ¬ c.IsComplete := by
    simp only [List.any_eq_true, Bool.or_eq_true, beq_iff_eq, Class.IsComplete, not_forall,
      exists_prop, not_and_or, not_not]
  unfold Class.decl
  by_cases hc : c.IsComplete
  · rw [if_neg (fun h => hany.1 h hc)]
    exact iff_of_true ⟨_, rfl⟩ hc
  · rw [if_pos (hany.2 hc)]
    simp [hc]

theorem decls_isOk_iff (cs : List Class) : (∃ ds, decls cs = .ok ds) ↔ ∀ c ∈ cs, c.IsComplete := by
  induction cs with
  | nil => simp [decls]
  | cons c cs ih =>
      rw [List.forall_mem_cons, ← decl_isOk_iff, ← ih, decls]
      cases hdecl : c.decl with
      | error e => simp
      | ok d =>
          cases hrest : decls cs with
          | error e => simp
          | ok ds => simp

/-- Where canonical names are not repeated, a step up in the declarations is one in the model. -/
theorem extends_canonical (m : Model)
    (hnames : (m.classes.map (fun c => (TypeRef.parse c.name).name)).Nodup) :
    ClassDecl.Extends (m.classes.map Class.canonical) = m.Extends := by
  funext name above
  apply propext
  constructor
  · rintro ⟨d, hfind, hgiven, rfl⟩
    rcases ClassDecl.name_of_find? _ name d hfind with ⟨hmem, hname⟩
    rcases List.mem_map.1 hmem with ⟨c, hc, rfl⟩
    by_cases hsuper : c.super = ""
    · exact absurd (if_pos hsuper) hgiven
    · exact ⟨c, hc, hname, hsuper, (if_neg hsuper).symm⟩
  · rintro ⟨c, hc, rfl, hsuper, rfl⟩
    have habove : c.canonical.super = (TypeRef.parse c.super).name := if_neg hsuper
    refine ⟨c.canonical, ?_, ?_, habove⟩
    · -- No other declaration has the name, so the search stops at this one.
      cases hfind : ClassDecl.find? (m.classes.map Class.canonical) (TypeRef.parse c.name).name with
      | none =>
          have hnone := List.find?_eq_none.1 hfind c.canonical (List.mem_map_of_mem hc)
          simp [Class.canonical] at hnone
      | some d =>
          rcases ClassDecl.name_of_find? _ _ d hfind with ⟨hmem, hname⟩
          rcases List.mem_map.1 hmem with ⟨c', hc', rfl⟩
          rw [List.inj_on_of_nodup_map hnames hc' hc hname]
    · rw [habove]
      exact TypeRef.name_parse_ne_empty c.super hsuper

/-- The classes form a hierarchy if their fields are complete, no canonical name is repeated and
    no class is above itself. -/
theorem hierarchy_isOk_iff (m : Model) :
    (∃ h, m.hierarchy = .ok h) ↔ (∀ c ∈ m.classes, c.IsComplete) ∧
      (m.classes.map (fun c => (TypeRef.parse c.name).name)).Nodup ∧
      ∀ name, ¬ Relation.TransGen m.Extends name name := by
  have haccepted : (∃ h, Hierarchy.ofClasses (m.classes.map Class.canonical) = .ok h) ↔
      (m.classes.map (fun c => (TypeRef.parse c.name).name)).Nodup ∧
        ∀ name, ¬ Relation.TransGen m.Extends name name := by
    rw [Hierarchy.ofClasses_isOk_iff, List.map_map]
    refine and_congr_right fun hnames => ?_
    rw [m.extends_canonical hnames]
  rw [← decls_isOk_iff, ← haccepted, hierarchy]
  cases hdecls : decls m.classes with
  | error e => simp
  | ok ds =>
      obtain rfl := decls_eq_ok m.classes ds hdecls
      cases hclasses : Hierarchy.ofClasses (m.classes.map Class.canonical) with
      | error e => simp [hclasses]
      | ok h => simp [hclasses]

/-! ## Nodes and edges -/

theorem loader?_isSome_iff (word : String) :
    (loader? word).isSome = true ↔ Text.Keyword.lower word ∈ loaderWords := by
  unfold loader? loaderWords
  generalize Text.Keyword.lower word = w
  simp only [Bool.or_eq_true, decide_eq_true_eq, List.mem_cons, List.not_mem_nil, or_false]
  grind

namespace Assembly

variable {ns : List Node} {es : List (List String)} {g : Graph} {labels : Labels}

/-- Every node of the graph is one that the model describes. -/
theorem describes_of_mem (ha : Assembly ns es g labels) (x : TaintSeed.Node) (hx : x ∈ g.nodes) :
    ∃ (i : Nat) (n : Node), ns[i]? = some n ∧ g.nodes[i]? = some x ∧ n.Describes x := by
  rcases List.getElem?_of_mem hx with ⟨i, hi⟩
  have hlt : i < ns.length := ha.length_eq ▸ (List.getElem?_eq_some_iff.1 hi).1
  have hn : ns[i]? = some ns[i] := List.getElem?_eq_getElem hlt
  rcases ha.describes_at i ns[i] hn with ⟨x', hx', hdescribes⟩
  cases hi.symm.trans hx'
  exact ⟨i, ns[i], hn, hi, hdescribes⟩

/-- What is found under a label is in the graph. -/
theorem mem_nodes_of_find? (ha : Assembly ns es g labels) (label : String) (x : TaintSeed.Node)
    (hfind : labels.find? label = some x) : x ∈ g.nodes := by
  rcases Option.map_eq_some_iff.1 hfind with ⟨e, he, rfl⟩
  have hlisted : e ∈ labels := List.mem_of_find?_eq_some he
  rw [ha.labels_eq] at hlisted
  rcases List.mem_map.1 hlisted with ⟨⟨n, x⟩, hpair, rfl⟩
  exact (List.of_mem_zip hpair).2

/-- The labels that are found are those of the nodes placed. -/
theorem find?_isSome_iff (ha : Assembly ns es g labels) (label : String) :
    (∃ x, labels.find? label = some x) ↔ label ∈ ns.map Node.label := by
  constructor
  · rintro ⟨x, hfind⟩
    rcases ha.labelledAt_of_find? label x hfind with ⟨i, ⟨n, hn, rfl⟩, _⟩
    exact List.mem_map_of_mem (List.mem_of_getElem? hn)
  · intro hmem
    rw [← Option.isSome_iff_exists, Option.isSome_iff_ne_none]
    exact fun hnone => ha.not_mem_of_find?_eq_none label hnone hmem

/-- The graph has no node with the method and the context if the nodes placed have none. -/
theorem find?_key_eq_none_iff (ha : Assembly ns es g labels) (n : Node) (loader : Loader) :
    g.find? (n.described loader).method (n.described loader).context = none ↔
      n.key ∉ ns.map Node.key := by
  have hkey : ∀ (n' : Node) (x : TaintSeed.Node), n'.Describes x →
      (Graph.SameKey x (n.described loader) ↔ n'.key = n.key) := by
    intro n' x hx
    unfold Graph.SameKey Node.described Node.key
    rw [hx.method, hx.context]
    cases hm : n.method
    cases hm' : n'.method
    simp
  rw [Graph.find?_eq_none_iff]
  constructor
  · intro hnone hmem
    rcases List.mem_map.1 hmem with ⟨n', hn', hsame⟩
    rcases List.getElem?_of_mem hn' with ⟨i, hi⟩
    rcases ha.describes_at i n' hi with ⟨x, hx, hdescribes⟩
    exact hnone x (List.mem_of_getElem? hx) ((hkey n' x hdescribes).2 hsame)
  · intro hnew x hx hsame
    rcases ha.describes_of_mem x hx with ⟨i, n', hn', _, hdescribes⟩
    exact hnew (List.mem_map.2 ⟨n', List.mem_of_getElem? hn', (hkey n' x hdescribes).1 hsame⟩)

/-- A node is accepted if nothing is wrong with it and it has a label and a key of its own. -/
theorem addNode_isOk_iff (ha : Assembly ns es g labels) (n : Node) :
    (∃ r, Model.addNode g labels n = .ok r) ↔
      n.IsComplete ∧ n.label ∉ ns.map Node.label ∧ n.key ∉ ns.map Node.key := by
  unfold Model.addNode
  by_cases hlabel : n.label = ""
  · rw [if_pos hlabel]
    exact iff_of_false (by simp) (fun h => h.1.label hlabel)
  rw [if_neg hlabel]
  cases hfind : labels.find? n.label with
  | some x =>
      have hused : n.label ∈ ns.map Node.label := (ha.find?_isSome_iff n.label).1 ⟨x, hfind⟩
      rw [Option.isSome_some, if_pos rfl]
      exact iff_of_false (by simp) (fun h => h.2.1 hused)
  | none =>
      have hfresh : n.label ∉ ns.map Node.label := ha.not_mem_of_find?_eq_none n.label hfind
      rw [if_neg (by simp)]
      cases hloader : loader? n.loader with
      | none =>
          have hunknown : Text.Keyword.lower n.loader ∉ loaderWords :=
            fun h => by simpa [hloader] using (loader?_isSome_iff n.loader).2 h
          exact iff_of_false (by simp) (fun h => hunknown h.1.loader)
      | some loader =>
          have hknown : Text.Keyword.lower n.loader ∈ loaderWords :=
            (loader?_isSome_iff n.loader).1 (by rw [hloader]; rfl)
          simp only [Bool.and_eq_true, Bool.not_eq_true', List.isEmpty_eq_false_iff,
            decide_eq_true_eq]
          by_cases hcount : n.paramTypes ≠ [] ∧ n.paramTypes.length ≠ n.params.length
          · rw [if_pos hcount]
            refine iff_of_false (by simp) (fun h => ?_)
            exact h.1.paramTypes.elim hcount.1 hcount.2
          · rw [if_neg hcount]
            rw [not_and_or, not_not, not_not] at hcount
            have hcomplete : n.IsComplete := ⟨hlabel, hknown, hcount⟩
            have hkey := ha.find?_key_eq_none_iff n loader
            cases hthere : g.find? (n.described loader).method (n.described loader).context with
            | some x =>
                rw [hthere] at hkey
                exact iff_of_false (by simp) (fun h => by simpa using hkey.2 h.2.2)
            | none => exact iff_of_true ⟨_, rfl⟩ ⟨hcomplete, hfresh, hkey.1 hthere⟩

/-- An edge is accepted if it is a pair of labels of nodes. -/
theorem addEdge_isOk_iff (ha : Assembly ns es g labels) (edge : List String) :
    (∃ g', Model.addEdge labels g edge = .ok g') ↔
      edge.length = 2 ∧ ∀ label ∈ edge, label ∈ ns.map Node.label := by
  constructor
  · rintro ⟨g', hok⟩
    rcases addEdge_eq_ok labels g g' edge hok with ⟨a, b, x, y, rfl, hx, hy, _⟩
    refine ⟨rfl, fun label hlabel => ?_⟩
    rcases List.mem_pair.1 hlabel with rfl | rfl
    · exact (ha.find?_isSome_iff label).1 ⟨x, hx⟩
    · exact (ha.find?_isSome_iff label).1 ⟨y, hy⟩
  · rintro ⟨hpair, hknown⟩
    rcases List.length_eq_two.1 hpair with ⟨a, b, rfl⟩
    rcases (ha.find?_isSome_iff a).2 (hknown a (by simp)) with ⟨x, hx⟩
    rcases (ha.find?_isSome_iff b).2 (hknown b (by simp)) with ⟨y, hy⟩
    have hends : x ∈ g.nodes ∧ y ∈ g.nodes :=
      ⟨ha.mem_nodes_of_find? a x hx, ha.mem_nodes_of_find? b y hy⟩
    unfold Model.addEdge
    simp only [hx, hy, ha.wellFormed.connect_eq, if_pos hends]
    exact ⟨_, rfl⟩

end Assembly

/-- Nodes are accepted if each is complete and, with those placed before, no label and no key is
    repeated. By induction on the nodes that are left. -/
theorem addNodes_isOk_iff (done ns : List Node) (g : Graph) (labels : Labels)
    (ha : Assembly done [] g labels) (hkeys : (done.map Node.key).Nodup) :
    (∃ r, addNodes ns g labels = .ok r) ↔ (∀ n ∈ ns, n.IsComplete) ∧
      ((done ++ ns).map Node.label).Nodup ∧ ((done ++ ns).map Node.key).Nodup := by
  induction ns generalizing done g labels with
  | nil =>
      rw [List.append_nil]
      exact iff_of_true ⟨_, rfl⟩ ⟨fun n hn => absurd hn List.not_mem_nil, ha.distinct, hkeys⟩
  | cons n ns ih =>
      have hsplit : done ++ n :: ns = (done ++ [n]) ++ ns := by simp
      -- A list without repetitions keeps its members apart from those before them.
      have hapart : ∀ {α : Type} (f : Node → α), ((done ++ n :: ns).map f).Nodup →
          f n ∉ done.map f := by
        intro α f hnodup hmem
        rw [List.map_append, List.map_cons] at hnodup
        exact (List.nodup_append.1 hnodup).2.2 _ hmem _ List.mem_cons_self rfl
      have hstep := ha.addNode_isOk_iff n
      rw [addNodes, List.forall_mem_cons]
      cases hadd : addNode g labels n with
      | error e =>
          rw [hadd] at hstep
          refine iff_of_false (by simp) (fun h => ?_)
          exact absurd (hstep.2 ⟨h.1.1, hapart _ h.2.1, hapart _ h.2.2⟩) (by simp)
      | ok r =>
          rcases hstep.1 ⟨r, hadd⟩ with ⟨hcomplete, _, hkey⟩
          have hkeys' : ((done ++ [n]).map Node.key).Nodup := by
            rw [List.map_append, List.nodup_append]
            refine ⟨hkeys, List.nodup_singleton _, ?_⟩
            intro a hold b hb hab
            rw [List.map_singleton, List.mem_singleton] at hb
            exact hkey (hb ▸ hab ▸ hold)
          have hrest := ih (done ++ [n]) r.1 r.2 (ha.addNode n r.1 r.2 hadd) hkeys'
          rw [← hsplit] at hrest
          exact hrest.trans (and_congr_left fun _ => (and_iff_right hcomplete).symm)

/-- Edges are accepted if each is a pair of labels of nodes. By induction on the edges left. -/
theorem addEdges_isOk_iff (ns : List Node) (done es : List (List String)) (g : Graph)
    (labels : Labels) (ha : Assembly ns done g labels) :
    (∃ g', addEdges labels es g = .ok g') ↔
      ∀ edge ∈ es, edge.length = 2 ∧ ∀ label ∈ edge, label ∈ ns.map Node.label := by
  induction es generalizing done g with
  | nil => exact iff_of_true ⟨g, rfl⟩ (fun e he => absurd he List.not_mem_nil)
  | cons e es ih =>
      rw [List.forall_mem_cons, ← ha.addEdge_isOk_iff e, addEdges]
      cases hadd : addEdge labels g e with
      | error e' => simp
      | ok mid =>
          rw [ih (done ++ [e]) mid (ha.addEdge e mid hadd)]
          simp

/-- The graph is built if nodes and edges are accepted. -/
theorem graph_isOk_iff (m : Model) :
    (∃ r, m.graph = .ok r) ↔
      ((∀ n ∈ m.nodes, n.IsComplete) ∧ (m.nodes.map Node.label).Nodup ∧
        (m.nodes.map Node.key).Nodup) ∧
      ∀ edge ∈ m.edges, edge.length = 2 ∧ ∀ label ∈ edge, label ∈ m.nodes.map Node.label := by
  have hnodes := addNodes_isOk_iff [] m.nodes .empty [] .empty List.nodup_nil
  rw [List.nil_append] at hnodes
  rw [← hnodes, graph]
  cases hplaced : addNodes m.nodes .empty [] with
  | error e => simp
  | ok r =>
      have ha : Assembly m.nodes [] r.1 r.2 :=
        addNodes_assembly [] m.nodes .empty r.1 [] r.2 .empty hplaced
      rw [← addEdges_isOk_iff m.nodes [] m.edges r.1 r.2 ha]
      cases hdrawn : addEdges r.2 m.edges r.1 with
      | error e => simp [hdrawn]
      | ok g => simp [hdrawn]

/-! ## Points-to entries -/

section Entries

variable {m : Model} {g : Graph} {labels : Labels} {h : Hierarchy}

/-- A field is found if the class that is meant declares one of that name. -/
theorem declaredField?_isSome_iff (hclasses : h.classes = m.classes.map Class.canonical)
    (owner name : String) :
    (∃ field, declaredField? h owner name = some field) ↔ m.Declares owner name := by
  have hreference : (TypeRef.parse owner).isReference = true ↔
      (TypeRef.parse owner).kind = .reference := by
    rw [TypeRef.isReference, beq_iff_eq]
  constructor
  · rintro ⟨field, hfield⟩
    rcases declaredField?_eq_some hclasses owner name field hfield with ⟨c, hc, hname, d, hd, _⟩
    refine ⟨?_, c, hc, hname, d, List.mem_of_find?_eq_some hd, by simpa using List.find?_some hd⟩
    by_contra hkind
    unfold declaredField? at hfield
    rw [Hierarchy.find?_instanceFields, if_neg (fun h => hkind (hreference.1 h))] at hfield
    cases hfield
  · rintro ⟨hkind, c, hc, hname, f, hf, rfl⟩
    have hfind : h.find? (TypeRef.parse owner).name = some c.canonical :=
      (h.find?_eq_some_iff _ _).2 ⟨hclasses ▸ List.mem_map_of_mem hc, hname⟩
    unfold declaredField?
    rw [Hierarchy.find?_instanceFields, if_pos (hreference.2 hkind), hfind, Option.bind_some]
    -- The field itself has the name, so the search among those of the class does not fail.
    have hsome : (c.canonical.fields.find? (fun d => d.name == f.name)).isSome = true := by
      rw [List.find?_isSome]
      exact ⟨⟨f.name, TypeRef.parse f.type⟩, List.mem_map.2 ⟨f, hf, rfl⟩, by simp⟩
    rcases Option.isSome_iff_exists.1 hsome with ⟨d, hd⟩
    exact ⟨_, by rw [hd]; rfl⟩

theorem key_isOk_iff (ha : Assembly m.nodes m.edges g labels)
    (hclasses : h.classes = m.classes.map Class.canonical) (position : Nat) (e : PointsToEntry) :
    (∃ k, key labels h position e = .ok k) ↔ m.IsPlaced e := by
  unfold key IsPlaced
  cases hlocal : e.local? with
  | none =>
      cases hfield : e.field? with
      | none => simp
      | some f =>
          simp only [reduceCtorEq, false_and, exists_false, false_or, true_and, Option.some.injEq,
            exists_eq_left', ← declaredField?_isSome_iff hclasses]
          cases declaredField? h f.owner f.name with
          | none => simp
          | some field => simp
  | some l =>
      cases hfield : e.field? with
      | none =>
          simp only [Option.some.injEq, true_and, exists_eq_left', reduceCtorEq, false_and,
            exists_false, or_false, ← ha.find?_isSome_iff]
          cases labels.find? l.node with
          | none => simp
          | some x => simp
      | some f => simp

/-- Entries are accepted if each is of something. By induction on the list, from any table. -/
theorem addSets_isOk_iff (ha : Assembly m.nodes m.edges g labels)
    (hclasses : h.classes = m.classes.map Class.canonical) (position : Nat)
    (es : List PointsToEntry) (t : PointsTo.Table) :
    (∃ t', addSets labels h position es t = .ok t') ↔ ∀ e ∈ es, m.IsPlaced e := by
  induction es generalizing position t with
  | nil => exact iff_of_true ⟨t, rfl⟩ (fun e he => absurd he List.not_mem_nil)
  | cons e es ih =>
      rw [List.forall_mem_cons, ← key_isOk_iff ha hclasses position e, addSets]
      cases hkey : key labels h position e with
      | error e' => simp
      | ok k =>
          simp only [ih]
          simp

end Entries

/-! ## The whole model -/

/-- A model gives a program when nothing is wrong with it. -/
theorem program_isOk_iff (m : Model) : (∃ p, m.program = .ok p) ↔ m.Valid := by
  have hclasses := m.hierarchy_isOk_iff
  have hgraph := m.graph_isOk_iff
  constructor
  · rintro ⟨p, hp⟩
    rcases program_eq_ok m p hp with ⟨h, g, labels, t, hh, hg, ht, rfl⟩
    rcases hclasses.1 ⟨h, hh⟩ with ⟨hfields, hnames, hacyclic⟩
    rcases hgraph.1 ⟨_, hg⟩ with ⟨⟨hnodes, hlabels, hkeys⟩, hedges⟩
    refine ⟨hfields, hnames, hacyclic, hnodes, hlabels, hkeys, hedges, ?_⟩
    exact (addSets_isOk_iff (graph_assembly m g labels hg) (hierarchy_eq_ok m h hh) 0 m.pointsTo
      ∅).1 ⟨t, ht⟩
  · intro hv
    rcases hclasses.2 ⟨hv.fields, hv.names, hv.acyclic⟩ with ⟨h, hh⟩
    rcases hgraph.2 ⟨⟨hv.nodes, hv.labels, hv.keys⟩, hv.edges⟩ with ⟨⟨g, labels⟩, hg⟩
    rcases (addSets_isOk_iff (graph_assembly m g labels hg) (hierarchy_eq_ok m h hh) 0 m.pointsTo
      ∅).2 hv.pointsTo with ⟨t, ht⟩
    unfold program table
    rw [hh, hg]
    simp only [ht]
    exact ⟨_, rfl⟩

/-- A model is refused exactly when it has a flaw, and otherwise it gives a program. -/
theorem program_eq_error_iff (m : Model) :
    ((∃ e, m.program = .error e) ↔ m.Flawed) ∧ (¬ m.Flawed → ∃ p, m.program = .ok p) := by
  have hok := m.program_isOk_iff
  refine ⟨⟨?_, ?_⟩, fun h => hok.2 (m.valid_of_not_flawed h)⟩
  · rintro ⟨e, he⟩
    by_contra hnone
    rcases hok.2 (m.valid_of_not_flawed hnone) with ⟨p, hp⟩
    cases he.symm.trans hp
  · intro hflawed
    cases hp : m.program with
    | error e => exact ⟨e, rfl⟩
    | ok p => exact absurd (hok.1 ⟨p, hp⟩) hflawed.not_valid

end Model

end TaintSeed
