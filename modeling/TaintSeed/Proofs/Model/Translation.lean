import TaintSeed.Proofs.Hierarchy
import TaintSeed.Proofs.Model.Assembly
import TaintSeed.Proofs.PointsTo

/-!
# A Program Says What Its Model Says

A model is written with labels and with names of types in any spelling; a
program knows numbers and canonical names. `Translates` states what a faithful
program of a model is, in terms of the model's own lists: where a node stands,
which edges, roots and points-to entries are listed, which fields a class
declares. Every program that a model gives is faithful in that sense.

Points-to entries come in any order, and several may be of one key. What an
entry is of is said by `Resolves`, without the tables that the translation
uses: a label stands for the position of the node that has it, and the name of
a class for the class with the same canonical name. Recording an entry adds to
the set of its key and to no other, so the objects of a key are those of all
its entries together.

## Main definitions

* `Model.Class.canonical`: The declaration of a class in canonical names.
* `Model.Resolves`: The key that a points-to entry is of.
* `Model.Translates`: The program says what the model says.

## Theorems

* `Model.Resolves.unique`: An entry is of one key.
* `Model.key_resolves`: The key that is computed is the one that the entry is of.
* `Model.addSets_eq_ok`: Recording a list of entries.
* `Model.program_translates`: Every program of a model says what the model says.
-/

namespace TaintSeed

namespace Model

/-- The declaration of the class in a hierarchy, with all names in canonical form. -/
def Class.canonical (c : Class) : ClassDecl where
  name := (TypeRef.parse c.name).name
  super := if c.super = "" then "" else (TypeRef.parse c.super).name
  isInterface := c.isInterface
  fields := c.fields.map (fun f => ⟨f.name, TypeRef.parse f.type⟩)

/-- The key that a points-to entry is of. -/
inductive Resolves (m : Model) (e : PointsToEntry) : PointsTo.Key → Prop
  /-- A value of the node that has the label. -/
  | ofLocal {l : LocalRef} {i : Nat} (given : e.local? = some l) (alone : e.field? = none)
      (labelled : LabelledAt m.nodes l.node i) : Resolves m e (.localValue (i : NodeId) l.value)
  /-- A field that the class declares itself, the first of that name. -/
  | ofField {f : FieldRef} {c : Class} {d : Field} (given : e.field? = some f)
      (alone : e.local? = none) (declared : c ∈ m.classes)
      (named : (TypeRef.parse c.name).name = (TypeRef.parse f.owner).name)
      (field : c.fields.find? (fun d => d.name == f.name) = some d) :
      Resolves m e (.fieldOf ⟨TypeRef.parse f.object.type, f.object.site⟩
        ⟨(TypeRef.parse c.name).name, d.name, TypeRef.parse d.type⟩)

/-- The program says what the model says. -/
structure Translates (m : Model) (p : Program) : Prop where
  /-- The nodes are those of the model, numbered by position. -/
  size : p.graph.size = m.nodes.length
  node : ∀ (i : Nat) (n : Node), m.nodes[i]? = some n →
    ∃ x, p.graph.byId? i = some x ∧ x.id? = some (i : NodeId) ∧ n.Describes x
  /-- A label is that of one node. -/
  labels : (m.nodes.map Node.label).Nodup
  /-- There is an edge where the labels of its ends are listed as a pair. -/
  edge : ∀ (i j : Nat) (a b : Node) (x y : TaintSeed.Node),
    m.nodes[i]? = some a → m.nodes[j]? = some b →
    p.graph.byId? i = some x → p.graph.byId? j = some y →
    (p.graph.hasEdge x y = true ↔ [a.label, b.label] ∈ m.edges)
  /-- The roots are the nodes that are flagged, in order. -/
  roots : p.graph.roots = ((m.nodes.zip p.graph.nodes).filter (fun e => e.1.isRoot)).map Prod.snd
  /-- A node starts at its listed entries; where none is listed, at its first block if it has one. -/
  entries : ∀ (i : Nat) (n : Node) (x : TaintSeed.Node),
    m.nodes[i]? = some n → p.graph.byId? i = some x →
    p.graph.entriesOf x =
      if n.entries ≠ [] then n.entries.map (fun b => ⟨i, b⟩)
      else if 0 < n.blocks then [⟨i, 0⟩] else []
  /-- Every points-to entry is of exactly one key. -/
  resolved : ∀ e ∈ m.pointsTo, ∃! k, m.Resolves e k
  /-- The objects of a key are those of its entries, each once. -/
  pointsTo : ∃ oracle, p.pointsTo? = some oracle ∧ ∀ k, (oracle.objects k).Nodup ∧
    ∀ o, o ∈ oracle.objects k ↔
      ∃ e ∈ m.pointsTo, m.Resolves e k ∧ ∃ x ∈ e.objects, o = ⟨TypeRef.parse x.type, x.site⟩
  /-- The classes are those of the model, found under their canonical names. -/
  hierarchy : ∃ h, p.hierarchy? = some h ∧ h.classes = m.classes.map Class.canonical ∧
    ∀ c ∈ m.classes, h.find? (TypeRef.parse c.name).name = some c.canonical
  warnings : p.warnings = m.warnings

/-! ## Classes -/

theorem decl_eq_ok (c : Class) (d : ClassDecl) (h : c.decl = .ok d) : d = c.canonical := by
  unfold Class.decl at h
  split at h
  · cases h
  · cases h
    rfl

theorem decls_eq_ok (cs : List Class) (ds : List ClassDecl) (h : decls cs = .ok ds) :
    ds = cs.map Class.canonical := by
  induction cs generalizing ds with
  | nil =>
      cases h
      rfl
  | cons c cs ih =>
      rw [decls] at h
      cases hdecl : c.decl with
      | error e =>
          rw [hdecl] at h
          cases h
      | ok d =>
          simp only [hdecl] at h
          cases hrest : decls cs with
          | error e =>
              rw [hrest] at h
              cases h
          | ok rest =>
              rw [hrest] at h
              cases h
              rw [decl_eq_ok c d hdecl, ih rest hrest, List.map_cons]

theorem hierarchy_eq_ok (m : Model) (h : Hierarchy) (hok : m.hierarchy = .ok h) :
    h.classes = m.classes.map Class.canonical := by
  unfold hierarchy at hok
  split at hok
  · cases hok
  · rename_i ds hdecls
    split at hok
    · cases hok
    · rename_i hclasses
      cases hok
      rw [Hierarchy.classes_of_ofClasses ds _ hclasses, decls_eq_ok m.classes ds hdecls]

/-- A hierarchy of the model tells its classes apart by their canonical names. -/
theorem eq_of_canonical_name_eq (m : Model) (h : Hierarchy)
    (hclasses : h.classes = m.classes.map Class.canonical) (c d : Class) (hc : c ∈ m.classes)
    (hd : d ∈ m.classes) (hname : c.canonical.name = d.canonical.name) : c = d := by
  have hnodup := h.nodup_names
  rw [hclasses, List.map_map] at hnodup
  exact List.inj_on_of_nodup_map hnodup hc hd hname

/-! ## What an entry is of -/

section Keys

variable {m : Model} {g : Graph} {labels : Labels} {h : Hierarchy}

/-- An entry is of one key: labels and canonical names tell nodes and classes apart. -/
theorem Resolves.unique (ha : Assembly m.nodes m.edges g labels)
    (hclasses : h.classes = m.classes.map Class.canonical) {e : PointsToEntry}
    {k k' : PointsTo.Key} (hk : m.Resolves e k) (hk' : m.Resolves e k') : k = k' := by
  cases hk with
  | @ofLocal l i given alone labelled =>
      cases hk' with
      | @ofLocal l' j given' _ labelled' =>
          obtain rfl : l = l' := Option.some.inj (given.symm.trans given')
          rw [labelled.unique ha.distinct labelled']
      | ofField given' _ _ _ _ => cases alone.symm.trans given'
  | @ofField f c d given alone declared named field =>
      cases hk' with
      | ofLocal given' _ _ => cases alone.symm.trans given'
      | @ofField f' c' d' given' _ declared' named' field' =>
          obtain rfl : f = f' := Option.some.inj (given.symm.trans given')
          obtain rfl : c = c' :=
            eq_of_canonical_name_eq m h hclasses c c' declared declared' (named.trans named'.symm)
          obtain rfl : d = d' := Option.some.inj (field.symm.trans field')
          rfl

/-- The field that is found is the first of its name in the declaration of the class. -/
theorem declaredField?_eq_some (hclasses : h.classes = m.classes.map Class.canonical)
    (owner name : String) (field : TaintSeed.FieldRef)
    (hfield : declaredField? h owner name = some field) :
    ∃ c ∈ m.classes, (TypeRef.parse c.name).name = (TypeRef.parse owner).name ∧
      ∃ d, c.fields.find? (fun d => d.name == name) = some d ∧
        field = ⟨(TypeRef.parse c.name).name, d.name, TypeRef.parse d.type⟩ := by
  unfold declaredField? at hfield
  rw [Hierarchy.find?_instanceFields] at hfield
  split at hfield
  · rcases Option.bind_eq_some_iff.1 hfield with ⟨decl, hfind, hmap⟩
    rcases Option.map_eq_some_iff.1 hmap with ⟨d, hd, rfl⟩
    rcases (h.find?_eq_some_iff _ decl).1 hfind with ⟨hmem, hname⟩
    rw [hclasses] at hmem
    rcases List.mem_map.1 hmem with ⟨c, hc, rfl⟩
    -- The fields of the declaration are those of the class, with their types parsed.
    simp only [Class.canonical, List.find?_map, Option.map_eq_some_iff] at hd
    rcases hd with ⟨f, hf, rfl⟩
    exact ⟨c, hc, hname, f, hf, rfl⟩
  · cases hfield

/-- The key that is computed for an entry is the one that the entry is of. -/
theorem key_resolves (ha : Assembly m.nodes m.edges g labels)
    (hclasses : h.classes = m.classes.map Class.canonical) (position : Nat) (e : PointsToEntry)
    (k : PointsTo.Key) (hk : key labels h position e = .ok k) : m.Resolves e k := by
  unfold key at hk
  split at hk
  · rename_i l hlocal hfield
    split at hk
    · cases hk
    · rename_i x hfind
      cases hk
      rcases ha.labelledAt_of_find? l.node x hfind with ⟨i, hi, hid⟩
      rw [hid]
      exact .ofLocal hlocal hfield hi
  · rename_i f hlocal hfield
    split at hk
    · cases hk
    · rename_i field hfind
      cases hk
      rcases declaredField?_eq_some hclasses f.owner f.name field hfind with
        ⟨c, hc, hname, d, hd, rfl⟩
      exact .ofField hfield hlocal hc hname hd
  · cases hk

/-! ## Recording entries -/

theorem mem_objects_record (objects : List Object) (t : PointsTo.Table) (key k : PointsTo.Key)
    (o : Instance) :
    o ∈ PointsTo.Table.objects
        (objects.foldl (fun t o => PointsTo.Table.add t key [o.described]) t) k ↔
      o ∈ PointsTo.Table.objects t k ∨ key = k ∧ ∃ x ∈ objects, o = x.described := by
  induction objects generalizing t with
  | nil => simp
  | cons x objects ih =>
      rw [List.foldl_cons, ih, PointsTo.Table.mem_objects_add, List.mem_singleton]
      simp only [List.mem_cons, exists_eq_or_imp]
      grind

/-- Recording entries adds to the objects of a key those of its entries, and every entry that is
    recorded is of some key. By induction on the list, from any table. -/
theorem addSets_eq_ok (ha : Assembly m.nodes m.edges g labels)
    (hclasses : h.classes = m.classes.map Class.canonical) (position : Nat)
    (es : List PointsToEntry) (t t' : PointsTo.Table)
    (hok : addSets labels h position es t = .ok t') :
    (∀ e ∈ es, ∃ k, m.Resolves e k) ∧
      ∀ k o, o ∈ PointsTo.Table.objects t' k ↔ o ∈ PointsTo.Table.objects t k ∨
        ∃ e ∈ es, m.Resolves e k ∧ ∃ x ∈ e.objects, o = x.described := by
  induction es generalizing position t with
  | nil =>
      cases hok
      simp
  | cons e es ih =>
      rw [addSets] at hok
      cases hkey : key labels h position e with
      | error e' =>
          rw [hkey] at hok
          cases hok
      | ok k₀ =>
          rw [hkey] at hok
          have hk₀ : m.Resolves e k₀ := key_resolves ha hclasses position e k₀ hkey
          rcases ih (position + 1) _ hok with ⟨hall, hobjects⟩
          refine ⟨?_, fun k o => ?_⟩
          · intro e' he'
            rcases List.mem_cons.1 he' with rfl | he'
            · exact ⟨k₀, hk₀⟩
            · exact hall e' he'
          · -- The entry is of `k` exactly when `k` is the key that was computed.
            have hhead : k₀ = k ↔ m.Resolves e k :=
              ⟨fun heq => heq ▸ hk₀, fun hk => hk₀.unique ha hclasses hk⟩
            rw [hobjects, mem_objects_record, hhead]
            simp only [List.mem_cons, exists_eq_or_imp, or_assoc]

end Keys

/-! ## The whole translation -/

/-- The steps by which a model becomes a program. -/
theorem program_eq_ok (m : Model) (p : Program) (hok : m.program = .ok p) :
    ∃ h g labels t, m.hierarchy = .ok h ∧ m.graph = .ok (g, labels) ∧ m.table labels h = .ok t ∧
      p = ⟨g, some (.recorded t), some h, m.warnings⟩ := by
  unfold program at hok
  split at hok
  · cases hok
  · rename_i h hhierarchy
    split at hok
    · cases hok
    · rename_i g labels hgraph
      split at hok
      · cases hok
      · rename_i t htable
        cases hok
        exact ⟨h, g, labels, t, hhierarchy, hgraph, htable, rfl⟩

/-- Every program of a model says what the model says. -/
theorem program_translates (m : Model) (p : Program) (hok : m.program = .ok p) :
    m.Translates p := by
  rcases program_eq_ok m p hok with ⟨h, g, labels, t, hhierarchy, hgraph, htable, rfl⟩
  have ha : Assembly m.nodes m.edges g labels := graph_assembly m g labels hgraph
  have hclasses : h.classes = m.classes.map Class.canonical := hierarchy_eq_ok m h hhierarchy
  rcases addSets_eq_ok ha hclasses 0 m.pointsTo ∅ t htable with ⟨hresolved, hobjects⟩
  constructor
  case size => exact ha.length_eq.symm
  case node =>
    intro i n hn
    rcases ha.describes_at i n hn with ⟨x, hx, hdescribes⟩
    exact ⟨x, (Graph.byId?_natCast g i).trans hx, ha.wellFormed.id?_getElem i x hx, hdescribes⟩
  case labels => exact ha.distinct
  case edge =>
    intro i j a b x y hi hj hx hy
    rw [Graph.byId?_natCast] at hx hy
    exact ha.hasEdge_iff i j a b x y hi hj hx hy
  case roots => exact ha.roots
  case entries =>
    intro i n x hi hx
    rw [Graph.byId?_natCast] at hx
    exact ha.entriesOf_eq i n x hi hx
  case resolved =>
    intro e he
    rcases hresolved e he with ⟨k, hk⟩
    exact ⟨k, hk, fun k' hk' => hk'.unique ha hclasses hk⟩
  case pointsTo =>
    refine ⟨.recorded t, rfl, fun k => ⟨PointsTo.Table.nodup_objects t k, fun o => ?_⟩⟩
    have hnone : o ∉ PointsTo.Table.objects (∅ : PointsTo.Table) k := by
      simp [PointsTo.Table.objects]
    exact (hobjects k o).trans (or_iff_right hnone)
  case hierarchy =>
    refine ⟨h, rfl, hclasses, fun c hc => ?_⟩
    exact (h.find?_eq_some_iff _ _).2 ⟨hclasses ▸ List.mem_map_of_mem hc, rfl⟩
  case warnings => rfl

/-- A model in which an edge is listed twice, one class is written in both notations, and the
    objects of one field are spread over two entries, one of them listed again. -/
def receiver : Model where
  classes :=
    [⟨"android.os.BaseBundle", "", false, [⟨"map", "java.lang.Object[]"⟩]⟩,
     ⟨"Landroid/os/Bundle;", "android.os.BaseBundle", false, [⟨"map", "int"⟩, ⟨"size", "I"⟩]⟩]
  nodes :=
    [⟨"main", ⟨"app", "Main", "main", "()V"⟩, "", "", true, true, [], [], 1, [4, 2]⟩,
     ⟨"receive", ⟨"app", "Receiver", "onReceive", "(I)V"⟩, "main", "APP", false, true, [1, 2],
      ["app.Receiver", "int"], 3, []⟩,
     ⟨"stub", ⟨"os", "Stub", "call", "()V"⟩, "", "library", false, false, [], [], 0, []⟩]
  edges := [["main", "receive"], ["receive", "stub"], ["main", "receive"]]
  pointsTo :=
    [⟨none, some ⟨⟨"android.os.Bundle", "new"⟩, "android.os.Bundle", "map"⟩, [⟨"int[]", "a"⟩]⟩,
     ⟨some ⟨"receive", 2⟩, none, [⟨"android.os.Bundle", "new"⟩]⟩,
     ⟨none, some ⟨⟨"Landroid/os/Bundle;", "new"⟩, "Landroid/os/Bundle;", "map"⟩,
      [⟨"[I", "a"⟩, ⟨"[J", "b"⟩]⟩]
  warnings := ["reflection"]

/-- The sample model gives a program, which says what the model says. -/
theorem program_translates_receiver :
    ∃ p, receiver.program = .ok p ∧ receiver.Translates p := by
  have hok : receiver.program.isOk = true := by decide +kernel
  cases hp : receiver.program with
  | error e =>
      rw [hp] at hok
      cases hok
  | ok p => exact ⟨p, rfl, program_translates receiver p hp⟩

end Model

end TaintSeed
