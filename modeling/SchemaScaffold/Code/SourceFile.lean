import SchemaScaffold.Code.Export
import SchemaScaffold.Code.Import
import SchemaScaffold.Code.Statement

/-! Source files: imports, statements and exports, in this order. -/

namespace SchemaScaffold.Code

structure SourceFile where
  imports : List Import := []
  statements : List Statement := []
  exports : List Export := []

namespace SourceFile

def isEmpty (file : SourceFile) : Bool :=
  file.imports.isEmpty && file.statements.isEmpty && file.exports.isEmpty

/-- All imports form one section, and so do all exports. Each statement is a
section of its own. -/
def sections (file : SourceFile) : List (List Fragment) :=
  (if file.imports.isEmpty then [] else [file.imports.flatMap Import.fragments])
    ++ file.statements.map Statement.fragments
    ++ (if file.exports.isEmpty then [] else [file.exports.flatMap Export.fragments])

/-- A blank line stands between two sections. -/
def fragments (file : SourceFile) : List Fragment :=
  [Fragment.blank].intercalate file.sections

def render (file : SourceFile) : String := Code.render file.fragments

example : render { statements := [.raw [.line "start();"]], exports := [{ default := some "app" }] }
    = "start();\n\nexport default app;\n" := by decide +kernel

end SourceFile

end SchemaScaffold.Code
