import JavaScaffold.Accessor
import JavaScaffold.Decimal.Binary
import JavaScaffold.Decimal.Floating
import JavaScaffold.Decl.Accessors
import JavaScaffold.Decl.Basic
import JavaScaffold.Decl.Member
import JavaScaffold.File.Basic
import JavaScaffold.File.Map
import JavaScaffold.File.Tree
import JavaScaffold.Identifier
import JavaScaffold.KotlinType
import JavaScaffold.Layout.Body
import JavaScaffold.Layout.CodeBuilder
import JavaScaffold.Layout.Comment
import JavaScaffold.Layout.Indent
import JavaScaffold.Manifest.Basic
import JavaScaffold.Manifest.Checked
import JavaScaffold.Manifest.Diagnostic
import JavaScaffold.Manifest.Members
import JavaScaffold.Manifest.Plan
import JavaScaffold.Manifest.PlanSite
import JavaScaffold.Manifest.Schema
import JavaScaffold.Manifest.SchemaError
import JavaScaffold.Manifest.Shape
import JavaScaffold.Manifest.Units
import JavaScaffold.Path
import JavaScaffold.Primitive
import JavaScaffold.Proofs.Decl.Accessors
import JavaScaffold.Proofs.Identifier
import JavaScaffold.Proofs.Imports.Capture
import JavaScaffold.Proofs.Imports.Coherent
import JavaScaffold.Proofs.Imports.Display
import JavaScaffold.Proofs.Imports.FirstCome
import JavaScaffold.Proofs.Imports.Walk
import JavaScaffold.Proofs.Manifest.Lossless
import JavaScaffold.Proofs.Manifest.Members
import JavaScaffold.Proofs.Manifest.Outcome
import JavaScaffold.Proofs.Manifest.Problems
import JavaScaffold.Proofs.Manifest.Units
import JavaScaffold.Proofs.Nesting
import JavaScaffold.Proofs.Text.Split
import JavaScaffold.Proofs.Text.Trim
import JavaScaffold.Proofs.TypeRef.Accepted
import JavaScaffold.Proofs.TypeRef.Depth
import JavaScaffold.Proofs.TypeRef.Grammar
import JavaScaffold.Proofs.TypeRef.Names
import JavaScaffold.Proofs.TypeRef.Reading
import JavaScaffold.Proofs.TypeRef.RoundTrip
import JavaScaffold.Proofs.TypeRef.Tree
import JavaScaffold.Render.Decl
import JavaScaffold.Render.Member
import JavaScaffold.Render.Unit
import JavaScaffold.Text.Blank
import JavaScaffold.Text.Letter
import JavaScaffold.Text.LetterCase
import JavaScaffold.Text.Lines
import JavaScaffold.Text.Quoted
import JavaScaffold.Text.Ranges
import JavaScaffold.Text.Search
import JavaScaffold.Text.Split
import JavaScaffold.Text.Table.Alphabetic
import JavaScaffold.Text.Table.Capital
import JavaScaffold.Text.Table.Combining
import JavaScaffold.Text.Table.Invisible
import JavaScaffold.Text.Table.Lowercase
import JavaScaffold.Text.Table.Numeric
import JavaScaffold.Text.Table.Uppercase
import JavaScaffold.Toml.Document
import JavaScaffold.Toml.Gap
import JavaScaffold.Toml.Growth
import JavaScaffold.Toml.Moment
import JavaScaffold.Toml.Number
import JavaScaffold.Toml.Quoted
import JavaScaffold.Toml.Reader
import JavaScaffold.Toml.Sound
import JavaScaffold.Toml.Value
import JavaScaffold.TypeRef.Basic
import JavaScaffold.TypeRef.Bracketing
import JavaScaffold.TypeRef.Known
import JavaScaffold.TypeRef.Reader
import JavaScaffold.Unit.Basic
import JavaScaffold.Unit.Scope
import JavaScaffold.Proofs.Manifest.Passed
import JavaScaffold.Proofs.Accessor
import JavaScaffold.Proofs.Manifest.Names
import JavaScaffold.Proofs.Path
import JavaScaffold.Proofs.Manifest.Files
import JavaScaffold.Proofs.Render.Shown
import JavaScaffold.Proofs.Manifest.Methods
import JavaScaffold.Proofs.Layout.Lines
import JavaScaffold.Proofs.Render.Layout
import JavaScaffold.Proofs.Manifest.Sites
import JavaScaffold.Proofs.Manifest.Unitwise
import JavaScaffold.Proofs.Manifest.Written
import JavaScaffold.Proofs.Manifest.Imports
import JavaScaffold.Proofs.Render.Printed
import JavaScaffold.Proofs.Layout.Structured
import JavaScaffold.Proofs.Text.OneLine
import JavaScaffold.Proofs.Layout.FurtherIn
import JavaScaffold.Proofs.Render.Words
import JavaScaffold.Proofs.Render.Indentation
import JavaScaffold.Proofs.Render.Agreement
import JavaScaffold.Proofs.KotlinType
import JavaScaffold.Proofs.TypeRef.Commas
import JavaScaffold.Proofs.TypeRef.Arguments
import JavaScaffold.Proofs.TypeRef.Blanks
import JavaScaffold.Proofs.KotlinType.Counterpart
import JavaScaffold.Proofs.KotlinType.RoundTrip
import JavaScaffold.Proofs.KotlinType.Faithful
import JavaScaffold.Proofs.Imports.Nested
import JavaScaffold.Proofs.Layout.Draft
import JavaScaffold.Proofs.Text.Occurrence
import JavaScaffold.Proofs.Manifest.Spans
import JavaScaffold.Proofs.Manifest.Accessors
import JavaScaffold.Proofs.Accessor.Property
import JavaScaffold.Proofs.TypeRef.Segments
import JavaScaffold.Proofs.TypeRef.Assembled
import JavaScaffold.Proofs.Imports.Between
