import TaintSeed.CallGraph.Graph
import TaintSeed.CallGraph.Indexed
import TaintSeed.CallGraph.Node
import TaintSeed.Collection.DistinctList
import TaintSeed.Collection.Queue
import TaintSeed.Collection.Table
import TaintSeed.Command.Builder
import TaintSeed.Command.Flags
import TaintSeed.Command.Hint
import TaintSeed.Command.Host
import TaintSeed.Command.Line
import TaintSeed.Command.Options
import TaintSeed.Command.Report
import TaintSeed.Command.Seed
import TaintSeed.Command.Views
import TaintSeed.Config
import TaintSeed.Element
import TaintSeed.Facts
import TaintSeed.Flow
import TaintSeed.GoProgram.Classes
import TaintSeed.GoProgram.Code
import TaintSeed.GoProgram.Declaration
import TaintSeed.GoProgram.Inference
import TaintSeed.GoProgram.Mode
import TaintSeed.GoProgram.Package
import TaintSeed.GoProgram.Routine
import TaintSeed.GoProgram.Scope
import TaintSeed.GoProgram.Type
import TaintSeed.Heap.Closer
import TaintSeed.Heap.Closure
import TaintSeed.Hierarchy
import TaintSeed.Log
import TaintSeed.Main
import TaintSeed.Model.Basic
import TaintSeed.Model.Program
import TaintSeed.Path
import TaintSeed.Pattern
import TaintSeed.PointsTo
import TaintSeed.Program
import TaintSeed.Proofs.CallGraph.Built
import TaintSeed.Proofs.CallGraph.History
import TaintSeed.Proofs.CallGraph.InStep
import TaintSeed.Proofs.CallGraph.Lookup
import TaintSeed.Proofs.CallGraph.Refinement
import TaintSeed.Proofs.Collection.Table
import TaintSeed.Proofs.Command.Views
import TaintSeed.Proofs.Facts
import TaintSeed.Proofs.Facts.Gaps
import TaintSeed.Proofs.Facts.Report
import TaintSeed.Proofs.Facts.Triples
import TaintSeed.Proofs.GoProgram.Classes
import TaintSeed.Proofs.GoProgram.Quotient
import TaintSeed.Proofs.GoProgram.Walk
import TaintSeed.Proofs.Heap.Alike
import TaintSeed.Proofs.Heap.Closer
import TaintSeed.Proofs.Heap.Explored
import TaintSeed.Proofs.Heap.Printing
import TaintSeed.Proofs.Heap.Rounds
import TaintSeed.Proofs.Heap.Search
import TaintSeed.Proofs.Heap.Unfolding
import TaintSeed.Proofs.Hierarchy
import TaintSeed.Proofs.Hierarchy.Acyclic
import TaintSeed.Proofs.Hierarchy.Inheritance
import TaintSeed.Proofs.Log
import TaintSeed.Proofs.Model.Assembly
import TaintSeed.Proofs.Model.FieldEntries
import TaintSeed.Proofs.Model.Spelling
import TaintSeed.Proofs.Model.Translation
import TaintSeed.Proofs.Model.Validity
import TaintSeed.Proofs.Pattern
import TaintSeed.Proofs.PointsTo
import TaintSeed.Proofs.Regex.Literal
import TaintSeed.Proofs.Regex.Meaning
import TaintSeed.Proofs.Regex.Search
import TaintSeed.Proofs.Session.Checked
import TaintSeed.Proofs.Session.Logging
import TaintSeed.Proofs.Session.Memory
import TaintSeed.Proofs.Session.Outcome
import TaintSeed.Proofs.Session.Seeding
import TaintSeed.Proofs.Session.Transcript
import TaintSeed.Proofs.Source.Failure
import TaintSeed.Proofs.Source.OfConfig
import TaintSeed.Proofs.Source.Printing
import TaintSeed.Proofs.Source.Resolution
import TaintSeed.Proofs.Text.Order
import TaintSeed.Proofs.TypeRef.Descriptor
import TaintSeed.Proofs.TypeRef.Grammar
import TaintSeed.Proofs.TypeRef.SourceText
import TaintSeed.Proofs.View.Agreement
import TaintSeed.Proofs.View.Algorithms
import TaintSeed.Proofs.View.Choice
import TaintSeed.Proofs.View.Circuits
import TaintSeed.Proofs.View.Cycles
import TaintSeed.Proofs.View.Discipline
import TaintSeed.Proofs.View.Parts
import TaintSeed.Proofs.View.Reach
import TaintSeed.Proofs.View.Recursion
import TaintSeed.Proofs.View.Release
import TaintSeed.Proofs.View.Routes
import TaintSeed.Proofs.View.Slices
import TaintSeed.Proofs.View.Stats
import TaintSeed.Proofs.View.WellFormed
import TaintSeed.Reference
import TaintSeed.Regex.Basic
import TaintSeed.Regex.CharSet
import TaintSeed.Regex.Outline
import TaintSeed.Regex.Parse
import TaintSeed.Regex.Program
import TaintSeed.Sentinel
import TaintSeed.Session
import TaintSeed.Source.Basic
import TaintSeed.Source.OfConfig
import TaintSeed.Source.Resolve
import TaintSeed.Text.Bytes
import TaintSeed.Text.CaseFold
import TaintSeed.Text.Category
import TaintSeed.Text.Integer
import TaintSeed.Text.Keyword
import TaintSeed.Text.Operand
import TaintSeed.Text.PropertyName
import TaintSeed.Text.Quoted
import TaintSeed.Text.Script
import TaintSeed.TypeRef.Basic
import TaintSeed.TypeRef.Descriptor
import TaintSeed.TypeRef.SourceText
import TaintSeed.View.Algorithms
import TaintSeed.View.Basic
import TaintSeed.View.Cycles
import TaintSeed.View.Slices
import TaintSeed.View.Stats
import TaintSeed.Yaml.Binary
import TaintSeed.Yaml.Cursor
import TaintSeed.Yaml.Decode
import TaintSeed.Yaml.Node
import TaintSeed.Yaml.Plain
import TaintSeed.Yaml.ScalarText
import TaintSeed.Yaml.Scanner
import TaintSeed.Yaml.TagText
import TaintSeed.Yaml.Token
