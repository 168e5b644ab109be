import SchemaScaffold.Text.Casing

/-! What code is generated for: the language of the sources and the way in
which they name other modules. -/

namespace SchemaScaffold

inductive Language where
  | typeScript
  | javaScript
deriving DecidableEq, Repr

namespace Language

def name : Language → String
  | typeScript => "typescript"
  | javaScript => "javascript"

/-- The name as it is written in running text. -/
def title : Language → String
  | typeScript => "TypeScript"
  | javaScript => "JavaScript"

/-- The file extension, without its dot. -/
def extension : Language → String
  | typeScript => "ts"
  | javaScript => "js"

def isTyped : Language → Bool
  | typeScript => true
  | javaScript => false

/-- Names and extensions are accepted in any letter case. -/
def ofText? (text : String) : Option Language :=
  let folded := Text.lowercase text
  if folded = "typescript" ∨ folded = "ts" then some typeScript
  else if folded = "javascript" ∨ folded = "js" then some javaScript
  else none

def unknownMessage (text : String) : String :=
  s!"unknown language '{text}', expected 'typescript' or 'javascript'"

end Language

/-! The two module systems: one loads modules by a call, the other by import
and export declarations. -/

inductive ModuleSystem where
  | commonJs
  | esModule
deriving DecidableEq, Repr

namespace ModuleSystem

def name : ModuleSystem → String
  | commonJs => "commonjs"
  | esModule => "module"

def ofText? (text : String) : Option ModuleSystem :=
  let folded := Text.lowercase text
  if folded = "commonjs" ∨ folded = "cjs" then some commonJs
  else if folded = "module" ∨ folded = "esm" then some esModule
  else none

def unknownMessage (text : String) : String :=
  s!"unknown module type '{text}', expected 'commonjs' or 'module'"

/-- Typed sources always use declarations. -/
def effective (language : Language) (requested : ModuleSystem) : ModuleSystem :=
  if language.isTyped then esModule else requested

example : effective .typeScript .commonJs = .esModule := rfl

example : effective .javaScript .commonJs = .commonJs := rfl

end ModuleSystem

end SchemaScaffold
