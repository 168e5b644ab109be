import SchemaScaffold.Json.Reason
import SchemaScaffold.Workspace.OsError

/-! What can be wrong with the files that a user provides, and how it is
explained. -/

namespace SchemaScaffold

/-- A text that was read, with the name under which it is shown. -/
structure Source where
  name : String
  text : String

namespace Source

/-- The bytes in the first lines of a text, with their line feeds. -/
def bytesOfLines : (count : Nat) → List Char → Nat
  | 0, _ => 0
  | _, [] => 0
  | count + 1, c :: rest =>
      c.utf8Size + (if c == '\n' then bytesOfLines count rest else bytesOfLines (count + 1) rest)

/-- The place in a text that a reported line and column, both counted from 1,
point at. It is never behind the end of the text. -/
def offsetAt (source : Source) (position : Json.Position) : Nat :=
  min (bytesOfLines (position.line - 1) source.text.toList + (position.column - 1))
    source.text.utf8ByteSize

end Source

/-- What was found wrong in a source, and where. -/
structure Complaint where
  source : Source
  offset : Option Nat
  detail : String

namespace Complaint

def ofFault (source : Source) (fault : Json.Fault) : Complaint :=
  let characters := source.text.toList
  ⟨source, some (source.offsetAt (fault.position characters)), fault.message characters⟩

end Complaint

inductive Problem where
  | unreadable (path : String) (cause : Workspace.OsError)
  | unwritable (path : String) (cause : Workspace.OsError)
  | badDiagram (complaint : Complaint)
  | badLink (complaint : Complaint)
  | notLinked (path : String)

namespace Problem

def message : Problem → String
  | unreadable path _ => s!"failed to read '{path}'"
  | unwritable path _ => s!"failed to write '{path}'"
  | badDiagram _ => "failed to convert schema graph"
  | badLink complaint => s!"invalid project link: {complaint.detail}"
  | notLinked path => s!"no project link found at '{path}'"

/-- The stable name of the kind of problem. -/
def code : Problem → String
  | unreadable _ _ => "dbdraw::io"
  | unwritable _ _ => "dbdraw::io"
  | badDiagram _ => "dbdraw::schema_conversion"
  | badLink _ => "dbdraw::invalid_link"
  | notLinked _ => "dbdraw::not_linked"

/-- What the user can do about it. -/
def help? : Problem → Option String
  | unreadable _ _ => none
  | unwritable _ _ => none
  | badDiagram _ =>
      some ("the graph needs `nodes` and `edges`; every node needs an `id` and "
        ++ "`data.label`/`data.fields`")
  | badLink _ => some "run 'dbdraw link' to link your project again"
  | notLinked _ => some "run 'dbdraw link' to link your project"

def cause? : Problem → Option Workspace.OsError
  | unreadable _ cause => some cause
  | unwritable _ cause => some cause
  | _ => none

def complaint? : Problem → Option Complaint
  | badDiagram complaint => some complaint
  | badLink complaint => some complaint
  | _ => none

def isBadDiagram : Problem → Bool
  | badDiagram _ => true
  | _ => false

end Problem

end SchemaScaffold
