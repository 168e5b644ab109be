import SchemaScaffold.Code.Fragment

/-! Writing code step by step. A builder keeps the text written so far and the
level of indentation for the lines to come. -/

namespace SchemaScaffold.Code

structure Builder where
  level : Nat
  text : String

namespace Builder

def empty : Builder := ⟨0, ""⟩

def line (builder : Builder) (text : String) : Builder :=
  { builder with text := builder.text ++ (Row.text builder.level text).render }

def blank (builder : Builder) : Builder :=
  { builder with text := builder.text ++ Row.blank.render }

def indent (builder : Builder) : Builder := { builder with level := builder.level + 1 }

/-- The outermost level stays. -/
def dedent (builder : Builder) : Builder := { builder with level := builder.level - 1 }

def comment (builder : Builder) (text : String) : Builder := builder.line ("// " ++ text)

def remark (builder : Builder) (text : String) : Builder := builder.line (remarkText text)

def remarks (builder : Builder) (lines : List String) : Builder :=
  (lines.foldl (fun builder line => builder.line (remarkLine line)) (builder.line "/**")).line " */"

/-- A header, what `body` writes one level deeper, and a closing line. -/
def block (builder : Builder) (header close : String) (body : Builder → Builder) : Builder :=
  (body (builder.line header).indent).dedent.line close

mutual

def write (builder : Builder) : Fragment → Builder
  | .line text => builder.line text
  | .blank => builder.blank
  | .block header body close =>
      let written := (writeAll (builder.line header).indent body).dedent
      match close with
      | none => written
      | some close => written.line close
  | .indented body => (writeAll builder.indent body).dedent
  | .remark text => builder.remark text
  | .remarks lines => builder.remarks lines

def writeAll (builder : Builder) : List Fragment → Builder
  | [] => builder
  | fragment :: rest => writeAll (builder.write fragment) rest

end

end Builder

end SchemaScaffold.Code
