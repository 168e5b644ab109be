import SchemaScaffold.Code.Builder
import SchemaScaffold.Code.Export
import SchemaScaffold.Code.Fragment
import SchemaScaffold.Code.Import
import SchemaScaffold.Code.SourceFile
import SchemaScaffold.Code.Statement
import SchemaScaffold.Collection
import SchemaScaffold.Config
import SchemaScaffold.Controller
import SchemaScaffold.Controller.Flow
import SchemaScaffold.Decimal.Shortest
import SchemaScaffold.Diagram
import SchemaScaffold.Diagram.Collections
import SchemaScaffold.Diagram.Source
import SchemaScaffold.Diagram.Storage
import SchemaScaffold.Emission
import SchemaScaffold.Feature
import SchemaScaffold.Json.Print
import SchemaScaffold.Json.Read
import SchemaScaffold.Json.Reader
import SchemaScaffold.Json.Reason
import SchemaScaffold.Json.Shape
import SchemaScaffold.Json.Shape.OfText
import SchemaScaffold.Json.Shape.OfValue
import SchemaScaffold.Json.Skip
import SchemaScaffold.Json.Value
import SchemaScaffold.Link
import SchemaScaffold.Link.Storage
import SchemaScaffold.Main
import SchemaScaffold.Model
import SchemaScaffold.Naming
import SchemaScaffold.Operation
import SchemaScaffold.Problem
import SchemaScaffold.Project
import SchemaScaffold.Project.App
import SchemaScaffold.Project.Container
import SchemaScaffold.Project.File
import SchemaScaffold.Project.Generation
import SchemaScaffold.Project.Manifest
import SchemaScaffold.Project.Middleware
import SchemaScaffold.Project.Readme
import SchemaScaffold.Project.Server
import SchemaScaffold.Project.Settings
import SchemaScaffold.Project.Testing
import SchemaScaffold.Project.Writing
import SchemaScaffold.Proofs.Code.Functions
import SchemaScaffold.Proofs.Code.Layout
import SchemaScaffold.Proofs.Code.Lines
import SchemaScaffold.Proofs.Code.Reading
import SchemaScaffold.Proofs.Code.Rereading
import SchemaScaffold.Proofs.Code.Statements
import SchemaScaffold.Proofs.Code.Texts
import SchemaScaffold.Proofs.Collection.Alike
import SchemaScaffold.Proofs.Collection.Names
import SchemaScaffold.Proofs.Collection.Repeats
import SchemaScaffold.Proofs.Collection.Scopes
import SchemaScaffold.Proofs.Controller.Answers
import SchemaScaffold.Proofs.Controller.Reading
import SchemaScaffold.Proofs.Controller.Scopes
import SchemaScaffold.Proofs.Controller.Sites
import SchemaScaffold.Proofs.Controller.Typing
import SchemaScaffold.Proofs.Diagram.Formats
import SchemaScaffold.Proofs.Diagram.Grammar
import SchemaScaffold.Proofs.Diagram.Handles
import SchemaScaffold.Proofs.Diagram.Rearrangement
import SchemaScaffold.Proofs.Diagram.Resolution
import SchemaScaffold.Proofs.Diagram.RoundTrip
import SchemaScaffold.Proofs.Diagram.Targets
import SchemaScaffold.Proofs.Json.Agreement
import SchemaScaffold.Proofs.Json.Contents
import SchemaScaffold.Proofs.Json.Delimiters
import SchemaScaffold.Proofs.Json.Layouts
import SchemaScaffold.Proofs.Json.Lists
import SchemaScaffold.Proofs.Json.Matching
import SchemaScaffold.Proofs.Json.Numbers
import SchemaScaffold.Proofs.Json.Outcome
import SchemaScaffold.Proofs.Json.Pretty
import SchemaScaffold.Proofs.Json.Results
import SchemaScaffold.Proofs.Json.ShapeResults
import SchemaScaffold.Proofs.Json.Strings
import SchemaScaffold.Proofs.Json.Values
import SchemaScaffold.Proofs.Json.Written
import SchemaScaffold.Proofs.Link.RoundTrip
import SchemaScaffold.Proofs.Naming.Compounds
import SchemaScaffold.Proofs.Naming.Separators
import SchemaScaffold.Proofs.Naming.Stability
import SchemaScaffold.Proofs.Problem.Places
import SchemaScaffold.Proofs.Project.Collisions
import SchemaScaffold.Proofs.Project.Confinement
import SchemaScaffold.Proofs.Project.FileNames
import SchemaScaffold.Proofs.Project.Interruption
import SchemaScaffold.Proofs.Project.Linkage
import SchemaScaffold.Proofs.Project.Mounts
import SchemaScaffold.Proofs.Project.Outcome
import SchemaScaffold.Proofs.Project.PlainSources
import SchemaScaffold.Proofs.Project.Plan
import SchemaScaffold.Proofs.Project.Protection
import SchemaScaffold.Proofs.Project.ReadManifest
import SchemaScaffold.Proofs.Project.ReadMounts
import SchemaScaffold.Proofs.Project.ReadSources
import SchemaScaffold.Proofs.Project.References
import SchemaScaffold.Proofs.Project.Regeneration
import SchemaScaffold.Proofs.Project.Saving
import SchemaScaffold.Proofs.Project.Switches
import SchemaScaffold.Proofs.Route.Documentation
import SchemaScaffold.Proofs.Schema.Entries
import SchemaScaffold.Proofs.Schema.Members
import SchemaScaffold.Proofs.Schema.ReferenceLists
import SchemaScaffold.Proofs.Schema.TypeReferences
import SchemaScaffold.Proofs.Selection.RoundTrip
import SchemaScaffold.Proofs.Sync.ModuleSystems
import SchemaScaffold.Proofs.Sync.References
import SchemaScaffold.Proofs.Sync.Saving
import SchemaScaffold.Proofs.Terminal.Refusal
import SchemaScaffold.Proofs.Text.Blanks
import SchemaScaffold.Proofs.Text.CharacterKinds
import SchemaScaffold.Proofs.Text.Identifiers
import SchemaScaffold.Proofs.Text.LatinLetters
import SchemaScaffold.Proofs.Text.Pieces
import SchemaScaffold.Proofs.Text.SmallForms
import SchemaScaffold.Proofs.Workspace.Access
import SchemaScaffold.Proofs.Workspace.Changes
import SchemaScaffold.Proofs.Workspace.Confinement
import SchemaScaffold.Proofs.Workspace.Joins
import SchemaScaffold.Proofs.Workspace.Names
import SchemaScaffold.Proofs.Workspace.Rewriting
import SchemaScaffold.Proofs.Workspace.Writing
import SchemaScaffold.Report
import SchemaScaffold.Route
import SchemaScaffold.Route.OpenApi
import SchemaScaffold.Schema.Declaration
import SchemaScaffold.Schema.Entry
import SchemaScaffold.Schema.FieldType
import SchemaScaffold.Selection
import SchemaScaffold.StandaloneSchema
import SchemaScaffold.Sync
import SchemaScaffold.Sync.Writing
import SchemaScaffold.Target
import SchemaScaffold.Terminal.Arguments
import SchemaScaffold.Terminal.Command
import SchemaScaffold.Terminal.Session
import SchemaScaffold.Text.Blank
import SchemaScaffold.Text.CaseContext
import SchemaScaffold.Text.CaseTable
import SchemaScaffold.Text.Casing
import SchemaScaffold.Text.CodeRange
import SchemaScaffold.Text.Lines
import SchemaScaffold.Text.Quoted
import SchemaScaffold.Text.Split
import SchemaScaffold.Text.Unprintable
import SchemaScaffold.Workspace.Disk
import SchemaScaffold.Workspace.Files
import SchemaScaffold.Workspace.OsError
import SchemaScaffold.Workspace.Path
import SchemaScaffold.Workspace.Script
