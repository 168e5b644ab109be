import SchemaScaffold.Text.Blank
import SchemaScaffold.Text.Lines

/-! Pieces of code before they are laid out. -/

namespace SchemaScaffold.Code

inductive Fragment where
  | line (text : String)
  /-- An empty line, which is never indented. -/
  | blank
  /-- A header, a body one level deeper and perhaps a closing line. -/
  | block (header : String) (body : List Fragment) (close : Option String)
  | indented (body : List Fragment)
  /-- A documentation comment on one line. -/
  | remark (text : String)
  /-- A documentation comment of several lines. -/
  | remarks (lines : List String)

namespace Fragment

/-- A block between curly brackets. `ending` follows the closing one. -/
def braced (header : String) (body : List Fragment) (ending : String := "") : Fragment :=
  .block (header ++ "\x7b") body (some ("\x7d" ++ ending))

/-- A fragment for each line of a text. A line of white space becomes blank. -/
def ofLine (line : List Char) : Fragment :=
  if line.all Text.isBlank then .blank else .line (String.ofList line)

def ofText (text : String) : List Fragment := (Text.lines text.toList).map ofLine

end Fragment

/-! ## Layout -/

/-- A line of a laid out text. -/
inductive Row where
  | blank
  | text (level : Nat) (content : String)

namespace Row

/-- The unit of indentation. -/
def unit : String := "  "

def indentation (level : Nat) : String := String.join (List.replicate level unit)

def render : Row → String
  | blank => "\n"
  | text level content => indentation level ++ content ++ "\n"

end Row

def remarkText (text : String) : String := "/** " ++ text ++ " */"

/-- A line inside a documentation comment. -/
def remarkLine (line : String) : String := if line.isEmpty then " *" else " * " ++ line

def remarkRows (level : Nat) (lines : List String) : List Row :=
  .text level "/**" :: lines.map (fun line => Row.text level (remarkLine line))
    ++ [.text level " */"]

mutual

def Fragment.rows (level : Nat) : Fragment → List Row
  | .line text => [.text level text]
  | .blank => [.blank]
  | .block header body close =>
      .text level header :: rowsOf (level + 1) body
        ++ close.toList.map (fun close => Row.text level close)
  | .indented body => rowsOf (level + 1) body
  | .remark text => [.text level (remarkText text)]
  | .remarks lines => remarkRows level lines

def rowsOf (level : Nat) : List Fragment → List Row
  | [] => []
  | fragment :: rest => fragment.rows level ++ rowsOf level rest

end

/-- The text of fragments whose lines start at the given level. -/
def renderAt (level : Nat) (fragments : List Fragment) : String :=
  String.join ((rowsOf level fragments).map Row.render)

def render (fragments : List Fragment) : String := renderAt 0 fragments

example : render [.braced "if (ready) " [.line "go();", .blank], .remark "end"]
    = "if (ready) \x7b\n  go();\n\n\x7d\n/** end */\n" := by decide +kernel

end SchemaScaffold.Code
