import SchemaScaffold.Code.Import

/-! What a module offers to others. -/

namespace SchemaScaffold.Code

structure Export where
  named : List String := []
  default : Option String := none
  /-- The value of a module that is loaded by a call. -/
  moduleValue : Option String := none

namespace Export

def lines (statement : Export) : List String :=
  (if statement.named.isEmpty then [] else ["export " ++ nameList statement.named ++ ";"])
    ++ statement.default.toList.map (fun value => "export default " ++ value ++ ";")
    ++ statement.moduleValue.toList.map (fun value => "module.exports = " ++ value ++ ";")

def fragments (statement : Export) : List Fragment := statement.lines.map .line

end Export

end SchemaScaffold.Code
