import TaintSeed.Proofs.Model.Validity
import TaintSeed.Proofs.Session.Outcome

/-!
# What Is Seeded Passes the Checks

Elements that come from outside are made by constructors that check them. A
run does not use them, except for local values: objects are taken from the
points-to entries of the model or made up for a type, fields are taken from the
hierarchy, and both are tainted as they are. So it depends on what the model
was allowed to say whether the elements of a run would have passed.

A field always passes. Its class stands on the way up from the class of the
object, and no step up leads to an empty name; its name and its type are those
of a declaration, which a model has to give. An object passes too, unless a
points-to entry lists it without a type: nothing asks for one. Such an object
brings no fields with it, because its type is not that of a class
(`Vouches.name_ne_empty`).

It is the same with blocks. A node without listed entries starts at its first
block, if it has one. Listed entries are taken as they are, so they may name
blocks that the node does not have.

## Main definitions

* `Element.IsChecked`: The checking constructor makes the element.
* `Model.ListsUntyped`: A points-to entry lists the object without a type.
* `Model.Grounds`: What is known about objects comes from the model.

## Theorems

* `Model.Grounds.vouches_of_explored`: Every explored object is typed or listed without a type.
* `Model.Grounds.tainted_isChecked`: What is tainted with an object.
* `Model.seededBy_isChecked`, `Model.seededBy_block`: The elements and the blocks of seeded facts.
* `Session.run_seeds`: The facts of a run are those of its pairs.
* `Session.run_isChecked`: The facts of a run pass the checks, as far as the model lets them.
* `Session.run_unchecked_handler`: A run with an element that does not pass, at a block that is
  not there.
-/

namespace TaintSeed

namespace Element

/-- The checking constructor for elements of its kind makes the element. -/
def IsChecked : Element → Prop
  | .localValue node value => ofLocal node value = .ok (.localValue node value)
  | .fieldOf owner field => ofField owner field = .ok (.fieldOf owner field)
  | .object which => ofObject which = .ok (.object which)
  | .absent => False

theorem isChecked_localValue_iff (node : NodeId) (value : Int) :
    (localValue node value).IsChecked ↔ 0 ≤ node ∧ 0 ≤ value := by
  rw [IsChecked, ofLocal]
  by_cases hneg : node < 0 ∨ value < 0
  · rw [if_pos hneg]
    refine iff_of_false (by simp) ?_
    rw [not_and_or, Int.not_le, Int.not_le]
    exact hneg
  · rw [if_neg hneg]
    rw [not_or, Int.not_lt, Int.not_lt] at hneg
    exact iff_of_true rfl hneg

theorem isChecked_object_iff (which : Instance) :
    (object which).IsChecked ↔ which.type.name ≠ "" := by
  by_cases hname : which.type.name = ""
  · simp [IsChecked, ofObject, TypeRef.isNameless, hname]
  · simp [IsChecked, ofObject, TypeRef.isNameless, hname]

theorem isChecked_fieldOf_iff (owner : Instance) (field : FieldRef) :
    (fieldOf owner field).IsChecked ↔ owner.type.name ≠ "" ∧ field.owner ≠ "" ∧
      field.name ≠ "" ∧ field.type.name ≠ "" := by
  rw [IsChecked, ofField]
  by_cases howner : owner.type.name = ""
  · simp [TypeRef.isNameless, howner]
  · by_cases hfield : field.owner ≠ "" ∧ field.name ≠ "" ∧ field.type.name ≠ ""
    · simp [TypeRef.isNameless, FieldRef.isResolved, howner, hfield]
    · have hunresolved : field.isResolved = false := by
        rw [← Bool.not_eq_true]
        simpa [TypeRef.isNameless, FieldRef.isResolved, and_assoc] using hfield
      simp [TypeRef.isNameless, hunresolved, howner, hfield]

end Element

/-- A type of a known kind has a name. -/
theorem TypeRef.name_parse_of_kind (s : String) (hkind : (parse s).kind ≠ .unknown) :
    (parse s).name ≠ "" := by
  refine name_parse_ne_empty s ?_
  rintro rfl
  exact hkind (by decide +kernel)

/-- A type for which an object stands is that of an array or of a class. -/
theorem Hierarchy.kind_of_lookup (h : Hierarchy) (t : TypeRef) (o : Instance)
    (hl : h.lookup t = .ok o) : t.kind ≠ .unknown := by
  intro hkind
  rw [lookup, hkind] at hl
  cases hl

theorem ClassDecl.Ancestor.mem {classes : List ClassDecl} {name : String} {d : ClassDecl}
    (hd : Ancestor classes name d) : d ∈ classes := by
  induction hd with
  | self found => exact (name_of_find? classes _ _ found).1
  | above _ _ _ ih => exact ih

/-- No step up leads to an empty name. -/
theorem ClassDecl.Ancestor.name_ne_empty {classes : List ClassDecl} {name : String} {d : ClassDecl}
    (hd : Ancestor classes name d) (hname : name ≠ "") : d.name ≠ "" := by
  induction hd with
  | self found => exact (name_of_find? classes _ _ found).2 ▸ hname
  | above _ given _ ih => exact ih given

namespace Model

/-- A points-to entry lists the object, without a type. -/
def ListsUntyped (m : Model) (o : Instance) : Prop :=
  ∃ e ∈ m.pointsTo, ∃ x ∈ e.objects, x.type = "" ∧ x.described = o

/-- The object has a type, or the model lists it without one. -/
def Vouches (m : Model) (o : Instance) : Prop := o.type.name ≠ "" ∨ m.ListsUntyped o

/-- An object of a class has a type. -/
theorem Vouches.name_ne_empty {m : Model} {o : Instance} (ho : m.Vouches o)
    (hkind : o.type.kind = .reference) : o.type.name ≠ "" := by
  rcases ho with hname | ⟨e, _, x, _, _, rfl⟩
  · exact hname
  · refine TypeRef.name_parse_of_kind x.type fun hunknown => ?_
    cases hunknown.symm.trans hkind

/-- What is known about objects comes from the model. -/
structure Grounds (m : Model) (h : Heap) : Prop where
  /-- Objects are those of points-to entries. -/
  listed : ∀ k, ∀ o ∈ h.pointsTo.objects k, ∃ e ∈ m.pointsTo, ∃ x ∈ e.objects, o = x.described
  /-- Classes are those of the model, whose fields have names and types. -/
  classes : h.hierarchy.classes = m.classes.map Class.canonical
  complete : ∀ c ∈ m.classes, c.IsComplete

/-- The objects of a key are those of the entries that are of it. -/
theorem mem_heap_objects_iff (m : Model) (p : Program) (hp : m.program = .ok p)
    (policy : Log.Policy) (k : PointsTo.Key) (o : Instance) :
    o ∈ (p.heap policy).pointsTo.objects k ↔
      ∃ e ∈ m.pointsTo, m.Resolves e k ∧ ∃ x ∈ e.objects, o = x.described := by
  rcases program_eq_ok m p hp with ⟨h, g, labels, t, hh, hg, ht, rfl⟩
  have hobjects := (addSets_eq_ok (graph_assembly m g labels hg) (hierarchy_eq_ok m h hh) 0
    m.pointsTo ∅ t ht).2
  refine (hobjects k o).trans (or_iff_right ?_)
  simp [PointsTo.Table.objects]

theorem program_grounds (m : Model) (p : Program) (hp : m.program = .ok p) (policy : Log.Policy) :
    m.Grounds (p.heap policy) where
  listed := by
    intro k o ho
    rcases (m.mem_heap_objects_iff p hp policy k o).1 ho with ⟨e, he, _, x, hx, ho⟩
    exact ⟨e, he, x, hx, ho⟩
  classes := by
    rcases program_eq_ok m p hp with ⟨h, _, _, _, hh, _, _, rfl⟩
    exact hierarchy_eq_ok m h hh
  complete := (m.program_isOk_iff.1 ⟨p, hp⟩).fields

namespace Grounds

variable {m : Model} {h : Heap}

theorem vouches_of_listed (hm : m.Grounds h) (k : PointsTo.Key) (o : Instance)
    (ho : o ∈ h.pointsTo.objects k) : m.Vouches o := by
  rcases hm.listed k o ho with ⟨e, he, x, hx, rfl⟩
  by_cases htype : x.type = ""
  · exact Or.inr ⟨e, he, x, hx, htype, rfl⟩
  · exact Or.inl (TypeRef.name_parse_ne_empty x.type htype)

/-- A field of an object has a name and a type, and its class has a name. -/
theorem field_isComplete (hm : m.Grounds h) (owner : Instance) (ho : m.Vouches owner)
    (field : TaintSeed.FieldRef) (hf : field ∈ h.hierarchy.instanceFields owner.type) :
    owner.type.name ≠ "" ∧ field.owner ≠ "" ∧ field.name ≠ "" ∧ field.type.name ≠ "" := by
  rcases (h.hierarchy.mem_instanceFields_iff owner.type field).1 hf with
    ⟨hkind, d, hancestor, hd⟩
  have howner : owner.type.name ≠ "" := ho.name_ne_empty hkind
  have hmem : d ∈ m.classes.map Class.canonical := hm.classes ▸ hancestor.mem
  rcases List.mem_map.1 hmem with ⟨c, hc, rfl⟩
  rcases List.mem_map.1 hd with ⟨declared, hdeclared, rfl⟩
  rcases List.mem_map.1 hdeclared with ⟨f, hlisted, rfl⟩
  rcases hm.complete c hc f hlisted with ⟨hname, htype⟩
  exact ⟨howner, hancestor.name_ne_empty howner, hname, TypeRef.name_parse_ne_empty f.type htype⟩

/-- The object that stands for the type of a field has a type. -/
theorem vouches_of_field (hm : m.Grounds h) (owner o : Instance) (ho : m.Vouches owner)
    (field : TaintSeed.FieldRef) (hf : field ∈ h.hierarchy.instanceFields owner.type)
    (hl : h.hierarchy.lookup field.type = .ok o) : m.Vouches o := by
  rw [Heap.eq_ofType_of_lookup _ _ _ hl]
  exact Or.inl (hm.field_isComplete owner ho field hf).2.2.2

/-- Every explored object has a type or is listed without one, if the root has or is. -/
theorem vouches_of_explored (hm : m.Grounds h) (root o : Instance) (hroot : m.Vouches root)
    (ho : h.Explored root o) : m.Vouches o := by
  induction ho with
  | root => exact hroot
  | pointed _ _ _ _ points _ => exact hm.vouches_of_listed _ _ points
  | placed _ _ mem _ placed ih => exact hm.vouches_of_field _ _ ih _ mem placed.2.2

/-- Elements that are tainted with an object pass their checks, apart from objects that are listed
    without a type. -/
theorem tainted_isChecked (hm : m.Grounds h) (root : Instance) (hroot : m.Vouches root)
    (e : Element) (he : h.Tainted root e) :
    e.IsChecked ∨ ∃ o, m.ListsUntyped o ∧ e = .object o := by
  have hobject : ∀ o, m.Vouches o →
      (Element.object o).IsChecked ∨ ∃ o', m.ListsUntyped o' ∧ Element.object o = .object o' := by
    rintro o (hname | hlisted)
    · exact Or.inl ((Element.isChecked_object_iff o).2 hname)
    · exact Or.inr ⟨o, hlisted, rfl⟩
  cases he with
  | object explored => exact hobject _ (hm.vouches_of_explored root _ hroot explored)
  | @field owner field explored _ mem _ =>
      have howner : m.Vouches owner := hm.vouches_of_explored root owner hroot explored
      exact Or.inl ((Element.isChecked_fieldOf_iff owner field).2
        (hm.field_isComplete owner howner field mem))
  | array _ _ _ _ points => exact hobject _ (hm.vouches_of_listed _ _ points)
  | arrayPlaceholder explored _ mem _ _ lookup =>
      exact hobject _ (hm.vouches_of_field _ _ (hm.vouches_of_explored root _ hroot explored) _ mem
        lookup)

end Grounds

section Seeded

variable {m : Model} {p : Program} {policy : Log.Policy}

/-- The types of the parameters of a node are read from the model; what is missing is of no known
    kind. -/
theorem name_paramType (hp : m.program = .ok p) (n : TaintSeed.Node) (hn : n ∈ p.graph.nodes)
    (arg : Int) (hkind : (n.paramType arg).kind ≠ .unknown) : (n.paramType arg).name ≠ "" := by
  rcases program_eq_ok m p hp with ⟨_, g, labels, _, _, hg, _, rfl⟩
  rcases (graph_assembly m g labels hg).describes_of_mem n hn with ⟨_, n', _, _, hdescribes⟩
  unfold TaintSeed.Node.paramType TaintSeed.Node.nth? at hkind ⊢
  rw [hdescribes.paramTypes] at hkind ⊢
  split at hkind
  · exact absurd rfl hkind
  · rename_i hpos
    rw [if_neg hpos]
    rw [List.getElem?_map] at hkind ⊢
    cases htype : n'.paramTypes[arg.toNat]? with
    | none =>
        rw [htype] at hkind
        exact absurd rfl hkind
    | some s =>
        rw [htype] at hkind
        exact TypeRef.name_parse_of_kind s hkind

/-- Elements of facts that a source is resolved to pass their checks, apart from objects that are
    listed without a type. -/
theorem seededBy_isChecked (hp : m.program = .ok p) (s : Source) (n : TaintSeed.Node)
    (hn : n ∈ p.graph.nodes) (hs : Resolution.IsResolvableOn s n) (q : ProgramPoint) (t : Flow)
    (e : Element) (h : Resolution.SeededBy ⟨p.graph, p.heap policy⟩ s n q t e) :
    e.IsChecked ∨ ∃ o, m.ListsUntyped o ∧ e = .object o := by
  have hm : m.Grounds (p.heap policy) := m.program_grounds p hp policy
  rcases h with ⟨arg, harg, v, hv, hfact⟩
  -- The argument can be resolved, so its local value has passed the check.
  have hlocal : (Element.localValue n.id v).IsChecked := by
    rcases (Resolution.isResolvable_iff n arg).1 (hs.2 arg harg) with ⟨w, hw⟩
    rcases (Resolution.argument_eq_ok_iff n arg w).1 hw with ⟨hparam, hid, hvalue⟩
    obtain rfl : w = v := Option.some.inj (hparam.symm.trans hv)
    exact (Element.isChecked_localValue_iff n.id w).2 ⟨hid, hvalue⟩
  rcases hfact with ⟨_, _, _, hinput⟩ | ⟨_, _, root, hroot, _, hbinder⟩
  · rcases hinput with rfl | ⟨_, o, ho, rfl⟩
    · exact Or.inl hlocal
    · exact hm.tainted_isChecked o (hm.vouches_of_listed _ o ho) _ (.object .root)
  · rcases hbinder with rfl | hclosure
    · exact Or.inl hlocal
    · have hvouches : m.Vouches root := by
        rcases hroot with hlisted | ⟨_, _, hlookup⟩
        · exact hm.vouches_of_listed _ root hlisted
        · rw [Heap.eq_ofType_of_lookup _ _ _ hlookup]
          exact Or.inl (name_paramType hp n hn arg (Hierarchy.kind_of_lookup _ _ _ hlookup))
      rw [Heap.mem_closure_iff, ← Heap.tainted_iff] at hclosure
      exact hm.tainted_isChecked root hvouches e hclosure

/-- A fact stands at a block of a node of the model, which the node has or lists as an entry. -/
theorem seededBy_block (hp : m.program = .ok p) (s : Source) (x : TaintSeed.Node)
    (hx : x ∈ p.graph.nodes) (q : ProgramPoint) (t : Flow) (e : Element)
    (h : Resolution.SeededBy ⟨p.graph, p.heap policy⟩ s x q t e) :
    p.graph.byId? q.node = some x ∧ ∃ n, m.nodes[q.node.toNat]? = some n ∧
      (0 ≤ q.block ∧ q.block < x.blocks ∨ q.block ∈ n.entries) := by
  have hentry : q ∈ p.graph.entriesOf x := by
    rcases h with ⟨_, _, _, _, ⟨_, hq, _⟩ | ⟨_, hq, _⟩⟩
    · exact hq
    · exact hq
  rcases program_eq_ok m p hp with ⟨_, g, labels, _, _, hg, _, rfl⟩
  have ha : Assembly m.nodes m.edges g labels := graph_assembly m g labels hg
  rcases ha.describes_of_mem x hx with ⟨i, n, hi, hxi, hdescribes⟩
  have hnode : q.node = (i : NodeId) := h.node_eq.trans (ha.id_getElem i x hxi)
  rw [hnode]
  refine ⟨(Graph.byId?_natCast g i).trans hxi, n, hi, ?_⟩
  rw [ha.entriesOf_eq i n x hi hxi] at hentry
  split at hentry
  · -- The blocks are listed.
    rcases List.mem_map.1 hentry with ⟨b, hb, rfl⟩
    exact Or.inr hb
  · split at hentry
    · rename_i hblocks
      rw [List.mem_singleton.1 hentry, hdescribes.blocks]
      exact Or.inl ⟨Int.le_refl 0, hblocks⟩
    · exact absurd hentry List.not_mem_nil

end Seeded

end Model

namespace Session

section Runs

variable {M : Type → Type} [Monad M] [LawfulMonad M]

/-- The facts of a run on a model are those of its pairs, all of which can be resolved. -/
theorem run_seeds (now : M Nat) (c : Config) (m : Model) (p : Program) (hp : m.program = .ok p)
    (describe : Model.Invalid → String) (act : M (List Log.Entry)) :
    ∃ (o : Outcome) (log : M (List Log.Entry)),
      run now c (m.builder describe act) = (fun l => ⟨o, l⟩) <$> log ∧
      (¬ c.HasUnknownKind → ¬ p.HasBadArgument c → ∃ s f, o.result = .ok (s, f)) ∧
      ∀ s f, o.result = .ok (s, f) → ∃ sources,
        (∀ x ∈ Resolution.matchingPairs sources (ofProgram c p).seedNodes,
          Resolution.IsResolvableOn x.2 x.1) ∧
        (¬ c.HasUnknownKind → sources = c.entries.map Config.Entry.source) ∧
        ∀ q t e, f.Holds q t e ↔
          ∃ x ∈ Resolution.matchingPairs sources (ofProgram c p).seedNodes,
            Resolution.SeededBy ⟨p.graph, p.heap c.policy⟩ x.2 x.1 q t e := by
  cases hsources : Source.ofConfig c with
  | error e =>
      refine ⟨.unknownKind e, pure [], ?_, fun hknown => ?_, fun s f hok => ?_⟩
      · rw [run_eq_pure now c e hsources, map_pure]
      · rw [Source.ofConfig_eq_ok c hknown] at hsources
        cases hsources
      · cases hok
  | ok sources =>
      rcases run_eq_conclusion now c sources hsources
        (m.program.mapError (fun e => .failed (describe e))) act with ⟨log, hlog⟩
      have hunaided := (seed_unaided (ofProgram c p) (Closer.fresh_remembers _) sources).1
      have hw : p.graph.WellFormed :=
        Graph.built_wellFormed p.graph (m.program_graph_built p hp)
      have hmapped : m.program.mapError (fun e => Build.Failure.failed (describe e)) = .ok p := by
        rw [hp]
        rfl
      refine ⟨_, log, hlog, fun hknown hgood => ?_, fun s f hok => ?_⟩
      · obtain rfl : sources = c.entries.map Config.Entry.source :=
          Except.ok.inj (hsources.symm.trans (Source.ofConfig_eq_ok c hknown))
        rcases (seedUnaided_isOk_iff_arguments c p hw).2 hgood with ⟨f, count, hok⟩
        simp only [hmapped, conclusion, hunaided, hok]
        exact ⟨_, f, rfl⟩
      · have hknown : ¬ c.HasUnknownKind → sources = c.entries.map Config.Entry.source := by
          intro hknown
          rw [Source.ofConfig_eq_ok c hknown] at hsources
          exact (Except.ok.inj hsources).symm
        simp only [hmapped, conclusion] at hok
        cases hr : ((ofProgram c p).seed sources).result with
        | error e =>
            rw [hr] at hok
            cases hok
        | ok found =>
            rcases found with ⟨f', count⟩
            rw [hr] at hok
            cases hok
            rw [hunaided] at hr
            exact ⟨sources, (seedUnaided_isOk_iff _ sources).1 ⟨f, count, hr⟩, hknown,
              seedUnaided_facts _ sources f count hr⟩

/-- Every fact that a run on a model gives has an element that passes the check of its kind, unless
    it is an object that the model lists without a type, and stands at a block that its node has,
    unless the model lists the block as an entry of the node. -/
theorem run_isChecked (now : M Nat) (c : Config) (m : Model) (p : Program)
    (hp : m.program = .ok p) (describe : Model.Invalid → String) (act : M (List Log.Entry)) :
    ∃ (o : Outcome) (log : M (List Log.Entry)),
      run now c (m.builder describe act) = (fun l => ⟨o, l⟩) <$> log ∧
      ∀ s f, o.result = .ok (s, f) → ∀ q t e, f.Holds q t e →
        (e.IsChecked ∨ ∃ i, m.ListsUntyped i ∧ e = .object i) ∧
        ∃ x n, p.graph.byId? q.node = some x ∧ m.nodes[q.node.toNat]? = some n ∧
          (0 ≤ q.block ∧ q.block < x.blocks ∨ q.block ∈ n.entries) := by
  rcases run_seeds now c m p hp describe act with ⟨o, log, hrun, _, hfacts⟩
  have hw : p.graph.WellFormed := Graph.built_wellFormed p.graph (m.program_graph_built p hp)
  refine ⟨o, log, hrun, fun s f hok q t e hholds => ?_⟩
  rcases hfacts s f hok with ⟨sources, hresolvable, _, hpairs⟩
  rcases (hpairs q t e).1 hholds with ⟨x, hx, hseeded⟩
  have hmem : x.1 ∈ p.graph.nodes :=
    ((mem_seedNodes c p hw x.1).1 ((Resolution.mem_matchingPairs _ _ x).1 hx).1).1
  refine ⟨Model.seededBy_isChecked hp x.2 x.1 hmem (hresolvable x hx) q t e hseeded, ?_⟩
  rcases Model.seededBy_block hp x.2 x.1 hmem q t e hseeded with ⟨hid, n, hn, hblock⟩
  exact ⟨x.1, n, hid, hn, hblock⟩

end Runs

/-- A model that lists an object without a type and an entry behind the last block. -/
def handler : Model where
  classes := [⟨"app.Data", "", false, [⟨"size", "int"⟩]⟩]
  nodes :=
    [⟨"handle", ⟨"app", "Handler", "handle", "(Lapp/Data;)V"⟩, "", "app", false, true, [1],
      ["app.Data"], 2, [1, 7]⟩]
  edges := []
  pointsTo := [⟨some ⟨"handle", 1⟩, none, [⟨"app.Data", "new"⟩, ⟨"", "native"⟩]⟩]
  warnings := []

/-- The program of the sample model. -/
def handlerProgram : Program := handler.program.toOption.getD default

theorem program_handler : handler.program = .ok handlerProgram := by
  have hok : handler.program.isOk = true := by decide +kernel
  unfold handlerProgram
  cases hp : handler.program with
  | error e =>
      rw [hp] at hok
      cases hok
  | ok p => rfl

/-- A binder on the only method of the sample model. -/
def handlerConfig : Config :=
  { Config.usual with entries := [⟨.plain "app" "Handler" "" "", [0], "binder"⟩] }

/-- On the sample both objects are tainted at both entries. -/
theorem run_handler :
    ∃ (o : Outcome) (log : StateM Nat (List Log.Entry)) (s : Session) (f : Facts) (n : Node),
      run tick handlerConfig (handler.builder Model.Invalid.message (pure []))
        = (fun l => ⟨o, l⟩) <$> log ∧
      o.result = .ok (s, f) ∧ handlerProgram.graph.byId? 0 = some n ∧ n.blocks = 2 ∧
      ∀ block ∈ [1, 7], ∀ x ∈ [Model.Object.mk "app.Data" "new", ⟨"", "native"⟩],
        f.Holds ⟨0, block⟩ (.entryArgBinder x.described n 0) (.object x.described) := by
  have hw : handlerProgram.graph.WellFormed :=
    Graph.built_wellFormed _ (handler.program_graph_built _ program_handler)
  have hknown : ¬ handlerConfig.HasUnknownKind := by
    rintro ⟨e, he, hunknown⟩
    rw [List.mem_singleton.1 he] at hunknown
    exact absurd hunknown (by decide +kernel)
  rcases run_seeds tick handlerConfig handler handlerProgram program_handler
    Model.Invalid.message (pure []) with ⟨o, log, hrun, hends, hfacts⟩
  rcases hends hknown (by decide +kernel) with ⟨s, f, hok⟩
  rcases hfacts s f hok with ⟨sources, _, hsources, hpairs⟩
  obtain rfl := hsources hknown
  let first : Fin handlerProgram.graph.nodes.length := ⟨0, by decide +kernel⟩
  refine ⟨o, log, s, f, handlerProgram.graph.nodes.get first, hrun, hok, by decide +kernel,
    by decide +kernel, fun block hblock x hx => ?_⟩
  have hpair : (handlerProgram.graph.nodes.get first,
      Config.Entry.source ⟨.plain "app" "Handler" "" "", [0], "binder"⟩) ∈
      Resolution.matchingPairs (handlerConfig.entries.map Config.Entry.source)
        (ofProgram handlerConfig handlerProgram).seedNodes := by
    rw [Resolution.mem_matchingPairs, mem_seedNodes handlerConfig handlerProgram hw]
    exact ⟨⟨List.get_mem _ _, by decide +kernel⟩, List.mem_singleton.2 rfl, by decide +kernel⟩
  -- The object is one that the entry for the parameter lists, and the root of its own closure.
  have hobject : x.described ∈ (handlerProgram.heap handlerConfig.policy).pointsTo.objects
      (.localValue ((0 : Nat) : NodeId) (Model.LocalRef.mk "handle" 1).value) :=
    (handler.mem_heap_objects_iff _ program_handler _ _ _).2
      ⟨_, List.mem_singleton.2 rfl, .ofLocal rfl rfl ⟨_, rfl, rfl⟩, x, hx, rfl⟩
  have hclosure : .object x.described ∈
      ((handlerProgram.heap handlerConfig.policy).closure x.described).value := by
    rw [Heap.mem_closure_iff, ← Heap.tainted_iff]
    exact .object .root
  have hentry : ⟨0, block⟩ ∈ handlerProgram.graph.entriesOf
      (handlerProgram.graph.nodes.get first) := by
    revert block
    decide +kernel
  have hid : (handlerProgram.graph.nodes.get first).id = 0 := by decide +kernel
  refine (hpairs _ _ _).2 ⟨_, hpair, 0, by decide +kernel, 1, by decide +kernel, Or.inr ⟨rfl, ?_⟩⟩
  refine ⟨hentry, x.described, Or.inl ?_, rfl, Or.inr hclosure⟩
  rw [hid]
  exact hobject

/-- The facts of the sample are as good as its model, and there are some. -/
theorem run_isChecked_handler :
    ∃ (o : Outcome) (log : StateM Nat (List Log.Entry)) (s : Session) (f : Facts),
      run tick handlerConfig (handler.builder Model.Invalid.message (pure []))
        = (fun l => ⟨o, l⟩) <$> log ∧
      o.result = .ok (s, f) ∧ (∃ q t e, f.Holds q t e) ∧
      ∀ q t e, f.Holds q t e →
        (e.IsChecked ∨ ∃ i, handler.ListsUntyped i ∧ e = .object i) ∧
        ∃ x n, handlerProgram.graph.byId? q.node = some x ∧
          handler.nodes[q.node.toNat]? = some n ∧
          (0 ≤ q.block ∧ q.block < x.blocks ∨ q.block ∈ n.entries) := by
  rcases run_handler with ⟨o, log, s, f, n, hrun, hok, _, _, hholds⟩
  rcases run_isChecked tick handlerConfig handler handlerProgram program_handler
    Model.Invalid.message (pure []) with ⟨o', log', hrun', hchecked⟩
  -- Both speak of one run, which ends in one way.
  obtain rfl : o' = o := by
    have hsame := congrFun (hrun'.symm.trans hrun) 0
    exact congrArg (fun r => r.1.value) hsame
  exact ⟨o', log, s, f, hrun, hok,
    ⟨⟨0, 1⟩, _, _, hholds 1 (by simp) ⟨"app.Data", "new"⟩ (by simp)⟩, hchecked s f hok⟩

/-- The run on the sample gives a fact whose element does not pass its check, at a block that its
    node does not have. -/
theorem run_unchecked_handler :
    ∃ (o : Outcome) (log : StateM Nat (List Log.Entry)) (s : Session) (f : Facts),
      handler.program = .ok handlerProgram ∧
      run tick handlerConfig (handler.builder Model.Invalid.message (pure []))
        = (fun l => ⟨o, l⟩) <$> log ∧
      o.result = .ok (s, f) ∧
      ∃ q t e, f.Holds q t e ∧ ¬ e.IsChecked ∧
        ¬ ∃ x, handlerProgram.graph.byId? q.node = some x ∧ 0 ≤ q.block ∧ q.block < x.blocks := by
  rcases run_handler with ⟨o, log, s, f, n, hrun, hok, hn, hblocks, hholds⟩
  refine ⟨o, log, s, f, program_handler, hrun, hok, ⟨0, 7⟩, _, _,
    hholds 7 (by simp) ⟨"", "native"⟩ (by simp), ?_, ?_⟩
  · rw [Element.isChecked_object_iff]
    decide +kernel
  · rintro ⟨x, hx, _, hlt⟩
    cases hn.symm.trans hx
    rw [hblocks] at hlt
    exact absurd hlt (by decide)

end Session

end TaintSeed
