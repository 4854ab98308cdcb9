import TaintSeed.Proofs.Hierarchy.Inheritance
import TaintSeed.Proofs.Model.Translation
import TaintSeed.Proofs.TypeRef.SourceText

/-!
# One Class Under All Its Spellings

A model may write the name of a class in any notation, and a different one each
time. Its hierarchy keeps canonical names only and forgets the kinds, while a
look-up comes with a name and a kind. A class can therefore be missed in two
ways: its name may be read differently the second time, or the name may be right
and the kind wrong.

Neither happens. The canonical name is the descriptor of the type wherever there
is one, so it is read as itself, and the kind can be read off it. Two spellings
with one canonical name are one type, and where the name in the declaration is
that of a class, every spelling of it finds the declaration.

## Main definitions

* `Hierarchy.Finds`: A type leads to the declaration of a class.

## Theorems

* `Hierarchy.finds_of_mem`: A declared class is found by its name and kind.
* `TypeRef.parse_eq_of_name_eq`: The canonical name determines the type.
* `TypeRef.spellings_agree`: Classes of a model are found under all their spellings.
-/

namespace TaintSeed

/-- The type leads to the declaration: the look-up of an object knows the class, the class is an
    interface if it is declared as one, and the fields are those that it inherits and declares. -/
structure Hierarchy.Finds (h : Hierarchy) (c : ClassDecl) (t : TypeRef) : Prop where
  lookup : h.lookup t = if c.isInterface then .error (.isInterface t) else .ok (.ofType t)
  isInterface : h.isInterface t = c.isInterface
  fields : h.instanceFields t = h.inherited c ++ c.fields.map (fun f => ⟨c.name, f.name, f.type⟩)

theorem Hierarchy.finds_of_mem (h : Hierarchy) (c : ClassDecl) (hc : c ∈ h.classes) (t : TypeRef)
    (hkind : t.kind = .reference) (hname : t.name = c.name) : h.Finds c t := by
  have hfind : h.find? t.name = some c := (h.find?_eq_some_iff t.name c).2 ⟨hc, hname.symm⟩
  constructor
  case lookup => simp only [Hierarchy.lookup, hkind, hfind]
  case isInterface => simp [Hierarchy.isInterface, hfind, TypeRef.isReference, hkind]
  case fields => exact h.instanceFields_eq_inherited_append t c hkind hfind

namespace TypeRef

theorem parse_eq_of_name_eq (s s' : String) (hname : (parse s).name = (parse s').name) :
    parse s = parse s' := by
  rw [← ofDescriptor_name_parse s, hname, ofDescriptor_name_parse]

/-- The canonical name of a type is read as the type, in either notation and as a descriptor. So
    two spellings with one canonical name are one type, and a class that a model declares in some
    spelling is found under each of them. -/
theorem spellings_agree :
    (∀ s, parse (parse s).name = parse s ∧ ofDescriptor (parse s).name = parse s) ∧
    (∀ s s', (parse s).name = (parse s').name → parse s = parse s') ∧
    ∀ (m : Model) (h : Hierarchy), m.hierarchy = .ok h →
      ∀ c ∈ m.classes, (parse c.name).kind = .reference →
        ∀ s, (parse s).name = (parse c.name).name → h.Finds c.canonical (parse s) := by
  refine ⟨fun s => ⟨parse_name_parse s, ofDescriptor_name_parse s⟩, parse_eq_of_name_eq, ?_⟩
  intro m h hok c hc hkind s hname
  have hmem : c.canonical ∈ h.classes := by
    rw [Model.hierarchy_eq_ok m h hok]
    exact List.mem_map_of_mem hc
  -- The kind comes from the declaration, through the name that both spellings share.
  have hreference : (parse s).kind = .reference := by
    rw [parse_eq_of_name_eq s c.name hname, hkind]
  exact h.finds_of_mem c.canonical hmem (parse s) hreference hname

/-- A model of an interface and a class, in two notations. -/
def carriers : Model where
  classes :=
    [⟨"Landroid/os/Parcelable;", "", true, []⟩,
     ⟨"android.os.Bundle", "Landroid/os/BaseBundle;", false, [⟨"map", "java/lang/Object[]"⟩]⟩]
  nodes := []
  edges := []
  pointsTo := []
  warnings := []

/-- In the sample the class is found in a spelling that mixes the notations, and the interface in
    the one it was not declared in. -/
theorem spellings_agree_carriers :
    ∃ h, carriers.hierarchy = .ok h ∧
      h.lookup (parse "android/os.Bundle") = .ok (.ofType (parse "android.os.Bundle")) ∧
      ⟨"Landroid/os/Bundle;", "map", parse "[Ljava/lang/Object;"⟩
        ∈ h.instanceFields (parse "android/os.Bundle") ∧
      h.isInterface (parse "android.os.Parcelable") = true := by
  have hok : carriers.hierarchy.isOk = true := by decide +kernel
  cases hh : carriers.hierarchy with
  | error e =>
      rw [hh] at hok
      cases hok
  | ok h =>
      rcases spellings_agree with ⟨_, hsame, hfound⟩
      have hbundle := hfound carriers h hh _ (List.get_mem carriers.classes ⟨1, by decide⟩)
        (by decide +kernel) "android/os.Bundle" (by decide +kernel)
      have hparcelable := hfound carriers h hh _ (List.get_mem carriers.classes ⟨0, by decide⟩)
        (by decide +kernel) "android.os.Parcelable" (by decide +kernel)
      have htype := hsame "android/os.Bundle" "android.os.Bundle" (by decide +kernel)
      refine ⟨h, rfl, ?_, ?_, hparcelable.isInterface⟩
      · rw [← htype]
        exact hbundle.lookup
      · rw [hbundle.fields]
        exact List.mem_append_right _ (by decide +kernel)

end TypeRef

end TaintSeed
