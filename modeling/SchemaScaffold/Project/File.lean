import SchemaScaffold.Emission
import SchemaScaffold.Workspace.Path

/-! The files of a generated project, before they are written. -/

namespace SchemaScaffold

structure ProjectFile where
  /-- The path below the project's folder. -/
  segments : List String
  content : String
  /-- Whether an existing file is the user's and is kept. -/
  isCreatedOnce : Bool := false

namespace ProjectFile

def path (file : ProjectFile) (base : String) : String := Workspace.Path.joinAll base file.segments

/-- How a file is called in reports. -/
def name (file : ProjectFile) : String := Workspace.Path.normal (file.path "")

/-- A source file in a folder of the project's sources. -/
def ofArtifact (folder : String) (artifact : Artifact) : ProjectFile :=
  ⟨["src", folder, artifact.fileName], artifact.content, false⟩

end ProjectFile

/-- A text that consists of the given lines. -/
def textOfLines (lines : List String) : String := String.join (lines.map (· ++ "\n"))

end SchemaScaffold
