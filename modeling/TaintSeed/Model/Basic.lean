import TaintSeed.Yaml.Decode

/-!
# Program Models

A program as it is written down in a file: its classes, the nodes and edges of
its call graph, and points-to sets. Names of types may be descriptors or names
as in source text, and nodes are referred to by labels.

## Main definitions

* `Model`: A program model.
* `Model.parse`: Reads a model.
-/

namespace TaintSeed

namespace Model

/-- The declaration of a field. -/
structure Field where
  /-- The name of the field. -/
  name : String
  /-- The name of its type. -/
  type : String
deriving DecidableEq, Inhabited

/-- The declaration of a class or an interface. -/
structure Class where
  /-- The name of the class. -/
  name : String
  /-- The name of its superclass, empty if there is none. -/
  super : String
  /-- Whether it is an interface. -/
  isInterface : Bool
  /-- The fields that it declares. -/
  fields : List Field
deriving DecidableEq, Inhabited

/-- The name of a method. -/
structure Method where
  /-- The package. -/
  package : String
  /-- The class. -/
  owner : String
  /-- The name. -/
  name : String
  /-- The descriptor. -/
  descriptor : String
deriving DecidableEq, Inhabited

/-- A node of the call graph. -/
structure Node where
  /-- The label by which edges and points-to sets refer to the node. -/
  label : String
  /-- The method. -/
  method : Method
  /-- The calling context. -/
  context : String
  /-- The word for where the code comes from. -/
  loader : String
  /-- Whether the method is made up. -/
  isSynthetic : Bool
  /-- Whether the program starts here. -/
  isRoot : Bool
  /-- The value numbers of the parameters. -/
  params : List Int
  /-- The names of the types of the parameters. -/
  paramTypes : List String
  /-- The number of basic blocks. -/
  blocks : Int
  /-- The blocks where the execution starts. -/
  entries : List Int
deriving DecidableEq, Inhabited

/-- An abstract object. -/
structure Object where
  /-- The name of its type. -/
  type : String
  /-- The place of its allocation, perhaps empty. -/
  site : String
deriving DecidableEq, Inhabited

/-- A value of a node. -/
structure LocalRef where
  /-- The label of the node. -/
  node : String
  /-- The number of the value. -/
  value : Int
deriving DecidableEq, Inhabited

/-- A field of an object. -/
structure FieldRef where
  /-- The object. -/
  object : Object
  /-- The name of the class that declares the field. -/
  owner : String
  /-- The name of the field. -/
  name : String
deriving DecidableEq, Inhabited

/-- A points-to set, of a value or of a field. -/
structure PointsToEntry where
  /-- The value, if it is one. -/
  local? : Option LocalRef
  /-- The field, if it is one. -/
  field? : Option FieldRef
  /-- The objects. -/
  objects : List Object
deriving DecidableEq, Inhabited

end Model

/-- A program model. -/
structure Model where
  /-- The classes and interfaces. -/
  classes : List Model.Class
  /-- The nodes of the call graph. -/
  nodes : List Model.Node
  /-- The edges, each a list of two labels. -/
  edges : List (List String)
  /-- The points-to sets. -/
  pointsTo : List Model.PointsToEntry
  /-- What the maker of the model warns about. -/
  warnings : List String
deriving DecidableEq, Inhabited

namespace Model

section Reading

open Yaml.Decoder

/-- Reads a field. -/
def Field.decoder : Yaml.Decoder Field :=
  record "model.Field" default
    [field "name" string (·.name) (fun f v => { f with name := v }),
     field "type" string (·.type) (fun f v => { f with type := v })]

/-- Reads a class. -/
def Class.decoder : Yaml.Decoder Class :=
  record "model.Class" default
    [field "name" string (·.name) (fun c v => { c with name := v }),
     field "super" string (·.super) (fun c v => { c with super := v }),
     field "interface" truth (·.isInterface) (fun c v => { c with isInterface := v }),
     field "fields" (list Field.decoder) (·.fields) (fun c v => { c with fields := v })]

/-- Reads the name of a method. -/
def Method.decoder : Yaml.Decoder Method :=
  record "model.Method" default
    [field "package" string (·.package) (fun m v => { m with package := v }),
     field "class" string (·.owner) (fun m v => { m with owner := v }),
     field "name" string (·.name) (fun m v => { m with name := v }),
     field "descriptor" string (·.descriptor) (fun m v => { m with descriptor := v })]

/-- Reads a node. -/
def Node.decoder : Yaml.Decoder Node :=
  record "model.Node" default
    [field "label" string (·.label) (fun n v => { n with label := v }),
     field "method" Method.decoder (·.method) (fun n v => { n with method := v }),
     field "context" string (·.context) (fun n v => { n with context := v }),
     field "loader" string (·.loader) (fun n v => { n with loader := v }),
     field "synthetic" truth (·.isSynthetic) (fun n v => { n with isSynthetic := v }),
     field "root" truth (·.isRoot) (fun n v => { n with isRoot := v }),
     field "params" (list integer) (·.params) (fun n v => { n with params := v }),
     field "param-types" (list string) (·.paramTypes) (fun n v => { n with paramTypes := v }),
     field "blocks" integer (·.blocks) (fun n v => { n with blocks := v }),
     field "entries" (list integer) (·.entries) (fun n v => { n with entries := v })]

/-- Reads an object. -/
def Object.decoder : Yaml.Decoder Object :=
  record "model.Object" default
    [field "type" string (·.type) (fun o v => { o with type := v }),
     field "site" string (·.site) (fun o v => { o with site := v })]

/-- Reads a value of a node. -/
def LocalRef.decoder : Yaml.Decoder LocalRef :=
  record "model.LocalRef" default
    [field "node" string (·.node) (fun r v => { r with node := v }),
     field "value" integer (·.value) (fun r v => { r with value := v })]

/-- Reads a field of an object. -/
def FieldRef.decoder : Yaml.Decoder FieldRef :=
  record "model.FieldRef" default
    [field "object" Object.decoder (·.object) (fun r v => { r with object := v }),
     field "class" string (·.owner) (fun r v => { r with owner := v }),
     field "name" string (·.name) (fun r v => { r with name := v })]

/-- Reads a points-to set. -/
def PointsToEntry.decoder : Yaml.Decoder PointsToEntry :=
  record "model.PtsEntry" default
    [field "local" (optional LocalRef.decoder) (·.local?) (fun e v => { e with local? := v }),
     field "field" (optional FieldRef.decoder) (·.field?) (fun e v => { e with field? := v }),
     field "objects" (list Object.decoder) (·.objects) (fun e v => { e with objects := v })]

/-- Reads a model. -/
def decoder : Yaml.Decoder Model :=
  record "model.Model" default
    [field "classes" (list Class.decoder) (·.classes) (fun m v => { m with classes := v }),
     field "nodes" (list Node.decoder) (·.nodes) (fun m v => { m with nodes := v }),
     field "edges" (list (list string)) (·.edges) (fun m v => { m with edges := v }),
     field "points-to" (list PointsToEntry.decoder) (·.pointsTo)
       (fun m v => { m with pointsTo := v }),
     field "warnings" (list string) (·.warnings) (fun m v => { m with warnings := v })]

end Reading

/-- A text that is no model. -/
structure Unreadable where
  /-- Why it cannot be read. -/
  cause : Yaml.Failure
deriving DecidableEq

/-- The wording of the failure. -/
def Unreadable.message (e : Unreadable) : String := "could not unmarshal model: " ++ e.cause.message

/-- Reads a model. -/
def parse (text : String) : Except Unreadable Model :=
  match Yaml.decode decoder text with
  | .error e => .error ⟨e⟩
  | .ok m => .ok m

end Model

end TaintSeed
