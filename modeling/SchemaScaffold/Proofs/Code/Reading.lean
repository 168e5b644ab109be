import SchemaScaffold.Proofs.Code.Lines

/-! Names are read back out of the lines of a file by the spaces between them.
That finds what was written exactly if no name has a space inside. -/

namespace SchemaScaffold.Code

/-! ## Parts of a line -/

/-- What follows a start. -/
def after? (start text : String) : Option String :=
  if start.toList.isPrefixOf text.toList then
    some (String.ofList (text.toList.drop start.toList.length))
  else none

/-- What precedes an end. -/
def before? (ending text : String) : Option String :=
  if ending.toList.isSuffixOf text.toList then
    some (String.ofList (text.toList.take (text.toList.length - ending.toList.length)))
  else none

@[simp] theorem after?_append (start rest : String) : after? start (start ++ rest) = some rest := by
  simp [after?]

@[simp] theorem before?_append (text ending : String) :
    before? ending (text ++ ending) = some text := by
  simp [before?]

theorem after?_eq_none {start text : String} (notStart : ¬ start.toList <+: text.toList) :
    after? start text = none := by
  rw [after?, if_neg]
  rwa [List.isPrefixOf_iff_prefix]

theorem before?_eq_none {ending text : String} {c : Char}
    (last : ending.toList.getLast? = some c) (different : text.toList.getLast? ≠ some c) :
    before? ending text = none := by
  rw [before?, if_neg]
  rw [List.isSuffixOf_iff_suffix]
  rintro ⟨front, whole⟩
  exact different (by rw [← whole, List.getLast?_append, last]; rfl)

def wordsOf (text : String) : List String := Text.pieces (· == ' ') text

theorem wordsOf_append (front behind : String) :
    wordsOf (front ++ " " ++ behind) = wordsOf front ++ wordsOf behind :=
  pieces_append rfl front behind

theorem wordsOf_of_lacks {word : String} (whole : Lacks ' ' word) : wordsOf word = [word] :=
  whole.pieces_eq

/-! ## Lists of names -/

/-- The items of a list, whose words end in commas except for the last. -/
def itemsOf : List String → List String
  | [] => []
  | [last] => [last]
  | word :: word' :: rest => (before? "," word).getD word :: itemsOf (word' :: rest)

theorem itemsOf_cons {word : String} {rest : List String} (more : rest ≠ []) :
    itemsOf ((word ++ ",") :: rest) = word :: itemsOf rest := by
  cases rest with
  | nil => exact absurd rfl more
  | cons word' rest => rw [itemsOf, before?_append, Option.getD_some]

theorem wordsOf_ne_nil (text : String) : wordsOf text ≠ [] := by
  simp [wordsOf, Text.pieces, Text.splitWhere_ne_nil]

theorem itemsOf_intercalate {names : List String} (some : names ≠ [])
    (whole : ∀ name ∈ names, Lacks ' ' name) :
    itemsOf (wordsOf (", ".intercalate names)) = names := by
  induction names with
  | nil => exact absurd rfl some
  | cons name rest induction =>
      rw [List.forall_mem_cons] at whole
      cases rest with
      | nil => rw [String.intercalate_singleton, wordsOf_of_lacks whole.1, itemsOf]
      | cons name' rest =>
          have split : ", ".intercalate (name :: name' :: rest)
              = (name ++ ",") ++ " " ++ ", ".intercalate (name' :: rest) := by
            rw [String.intercalate_cons_cons, ← String.toList_inj]
            simp
          rw [split, wordsOf_append, wordsOf_of_lacks (by simp [Lacks, whole.1]),
            List.singleton_append, itemsOf_cons (wordsOf_ne_nil _),
            induction (List.cons_ne_nil _ _) whole.2]

/-! ## Imports -/

def unquoted? (text : String) : Option String := (after? "\"" text).bind (before? "\";")

theorem unquoted?_quoted (text : String) : unquoted? ("\"" ++ text ++ "\";") = some text := by
  rw [unquoted?, String.append_assoc, after?_append, Option.bind_some, before?_append]

/-- The import on a line, of names between curly brackets or of a default. -/
def readImport? (line : String) : Option Import :=
  (after? "import " line).bind fun rest =>
    match wordsOf rest with
    | "\x7b" :: inner =>
        match inner.reverse with
        | quoted :: "from" :: "\x7d" :: names =>
            (unquoted? quoted).map fun source => { source, named := itemsOf names.reverse }
        | _ => none
    | [name, "from", quoted] =>
        (unquoted? quoted).map fun source => { source, default := some name }
    | _ => none

theorem wordsOf_opening : wordsOf "\x7b" = ["\x7b"] := wordsOf_of_lacks (by simp [Lacks])

theorem wordsOf_closing : wordsOf "\x7d" = ["\x7d"] := wordsOf_of_lacks (by simp [Lacks])

theorem wordsOf_from : wordsOf "from" = ["from"] := wordsOf_of_lacks (by simp [Lacks])

theorem readImport?_named {source : String} {named : List String} (some : named ≠ [])
    (whole : ∀ name ∈ named, Lacks ' ' name) (wholeSource : Lacks ' ' source) :
    readImport? (Import.declaration { source, named }) = .some { source, named } := by
  have declared : Import.declaration { source, named }
      = "import " ++ ("\x7b" ++ " " ++ ", ".intercalate named ++ " " ++ "\x7d" ++ " " ++ "from"
          ++ " " ++ ("\"" ++ source ++ "\";")) := by
    simp [Import.declaration, Import.bindings?, some, nameList, ← String.toList_inj]
  have wholeQuoted : Lacks ' ' ("\"" ++ source ++ "\";") := by simp [Lacks, wholeSource]
  rw [declared, readImport?, after?_append, Option.bind_some]
  simp only [wordsOf_append, wordsOf_of_lacks wholeQuoted]
  rw [wordsOf_opening, wordsOf_closing, wordsOf_from]
  simp [unquoted?_quoted, itemsOf_intercalate some whole]

theorem readImport?_default {source name : String} (whole : Lacks ' ' name)
    (notBrace : name ≠ "\x7b") (wholeSource : Lacks ' ' source) :
    readImport? (Import.declaration { source, default := some name })
      = some { source, default := some name } := by
  have declared : Import.declaration { source, default := some name }
      = "import " ++ (name ++ " " ++ "from" ++ " " ++ ("\"" ++ source ++ "\";")) := by
    simp [Import.declaration, Import.bindings?, ← String.toList_inj]
  have wholeQuoted : Lacks ' ' ("\"" ++ source ++ "\";") := by simp [Lacks, wholeSource]
  rw [declared, readImport?, after?_append, Option.bind_some]
  simp only [wordsOf_append, wordsOf_of_lacks wholeQuoted, wordsOf_of_lacks whole]
  rw [wordsOf_from]
  simp [unquoted?_quoted]

example :
    (readImport? "import \x7b list, show \x7d from \"./shop.js\";").map (fun found => found.named)
      = some ["list", "show"] := by decide +kernel

/-! ## Exported constants -/

/-- The name of the constant that is exported on a line. -/
def exportedName? (line : String) : Option String :=
  (after? "export const " line).map fun rest => (wordsOf rest).headD ""

theorem exportedName?_declared {name : String} (whole : Lacks ' ' name) (rest : String) :
    exportedName? ("export const " ++ name ++ " " ++ rest) = some name := by
  rw [exportedName?, String.append_assoc, String.append_assoc, after?_append, Option.map_some,
    ← String.append_assoc, wordsOf_append, wordsOf_of_lacks whole]
  rfl

/-! ## Routers -/

/-- A line that has to do with a router. -/
inductive RouterLine where
  | route (path : String)
  /-- The last argument is the handler, after those that let the request pass. -/
  | call (verb handler : String)
  | other (line : String)

/-- A call between its dot and the end of the line, with all its arguments. -/
def callOf (text : String) : Call :=
  let method := (Text.pieces (· == '(') text).headD ""
  let behind := (after? (method ++ "(") text).getD ""
  let unended := (before? ";" behind).getD behind
  ⟨method, itemsOf (wordsOf ((before? ")" unended).getD unended))⟩

/-- What a router does with a call. -/
def routerCall (call : Call) : RouterLine := .call call.method (call.arguments.getLastD "")

/-- The calls on a route are written below its line. -/
def routerLine? (line : String) : Option RouterLine :=
  match after? "router" line with
  | some rest =>
      match (after? ".route(\"" rest).bind (before? "\")") with
      | some path => some (.route path)
      | none => some (.other line)
  | none => (after? "  ." line).map fun text => routerCall (callOf text)

/-- The handler that a router calls for a verb on a path. -/
structure Wiring where
  path : String
  verb : String
  handler : String
deriving DecidableEq

/-- The wirings of a router, unless it has lines of another form. `path` is that
of the route above. -/
def wiringsOf (path : Option String) : List RouterLine → Option (List Wiring)
  | [] => some []
  | .route path :: rest => wiringsOf (some path) rest
  | .call verb handler :: rest =>
      path.bind fun above => (wiringsOf path rest).map (⟨above, verb, handler⟩ :: ·)
  | .other _ :: _ => none

theorem routerLine?_route (path : String) :
    routerLine? ("router.route(" ++ "\"" ++ path ++ "\"" ++ ")") = some (.route path) := by
  have parts : "router.route(" ++ "\"" ++ path ++ "\"" ++ ")"
      = "router" ++ (".route(\"" ++ (path ++ "\")")) := by
    simp [← String.toList_inj]
  rw [routerLine?, parts, after?_append]
  simp

theorem unended_closed (arguments ending : String) (isEnding : ending = "" ∨ ending = ";") :
    (before? ";" (arguments ++ ")" ++ ending)).getD (arguments ++ ")" ++ ending)
      = arguments ++ ")" := by
  rcases isEnding with rfl | rfl
  · rw [String.append_empty, before?_eq_none (c := ';') rfl (by simp), Option.getD_none]
  · rw [before?_append, Option.getD_some]

theorem callOf_text (call : Call) {ending : String} (isEnding : ending = "" ∨ ending = ";")
    (method : Lacks '(' call.method) (some : call.arguments ≠ [])
    (whole : ∀ argument ∈ call.arguments, Lacks ' ' argument) :
    callOf (call.method ++ "(" ++ (", ".intercalate call.arguments ++ ")" ++ ending)) = call := by
  let behind := ", ".intercalate call.arguments ++ ")" ++ ending
  have read : (Text.pieces (· == '(') (call.method ++ "(" ++ behind)).headD "" = call.method := by
    rw [pieces_append rfl, method.pieces_eq]
    rfl
  simp only [callOf, read, after?_append, Option.getD_some, behind, unended_closed _ _ isEnding,
    before?_append, itemsOf_intercalate some whole]

/-- The line of a call, up to the dot and behind it. -/
theorem callLine_eq (call : Call) (ending : String) :
    "  " ++ (call.text ++ ending)
      = "  ." ++ (call.method ++ "(" ++ (", ".intercalate call.arguments ++ ")" ++ ending)) := by
  simp [Call.text, ← String.toList_inj]

theorem routerLine?_call (call : Call) {ending : String} (isEnding : ending = "" ∨ ending = ";")
    (method : Lacks '(' call.method) (some : call.arguments ≠ [])
    (whole : ∀ argument ∈ call.arguments, Lacks ' ' argument) :
    routerLine? ("  " ++ (call.text ++ ending))
      = .some (.call call.method (call.arguments.getLastD "")) := by
  have notRouter (rest : String) : after? "router" ("  ." ++ rest) = none :=
    after?_eq_none (by simp)
  rw [callLine_eq, routerLine?, notRouter, after?_append]
  rw [Option.map_some, callOf_text call isEnding method some whole, routerCall]

/-- The call on a line below the start of its chain. -/
def chainedCall? (line : String) : Option Call := (after? "  ." line).map callOf

theorem chainedCall?_call (call : Call) {ending : String} (isEnding : ending = "" ∨ ending = ";")
    (method : Lacks '(' call.method) (some : call.arguments ≠ [])
    (whole : ∀ argument ∈ call.arguments, Lacks ' ' argument) :
    chainedCall? ("  " ++ (call.text ++ ending)) = .some call := by
  rw [callLine_eq, chainedCall?, after?_append, Option.map_some,
    callOf_text call isEnding method some whole]

/-! ## Paths in comments -/

/-- The path that a comment states for the routes below it, in either form of such
comments. -/
def statedPath? (line : String) : Option String :=
  match after? " * @route " line with
  | some path => some path
  | none => (after? " * /" line).bind fun rest => (before? ":" rest).map ("/" ++ ·)

theorem statedPath?_route (path : String) : statedPath? (" * @route " ++ path) = some path := by
  rw [statedPath?, after?_append]

theorem statedPath?_path (rest : String) : statedPath? (" * /" ++ (rest ++ ":")) = some ("/" ++ rest) := by
  rw [statedPath?, after?_eq_none (by simp), after?_append]
  simp

/-! ## Applications -/

/-- A line that puts something into use. -/
def useLine (arguments : List String) : String :=
  "app.use(" ++ (", ".intercalate arguments ++ ");")

/-- The arguments of a call that puts something into use. -/
def used? (line : String) : Option (List String) :=
  (after? "app.use(" line).bind fun rest =>
    (before? ");" rest).map fun arguments => itemsOf (wordsOf arguments)

theorem used?_useLine {arguments : List String} (some : arguments ≠ [])
    (whole : ∀ argument ∈ arguments, Lacks ' ' argument) :
    used? (useLine arguments) = .some arguments := by
  simp [used?, useLine, itemsOf_intercalate some whole]

theorem getLast?_useLine (arguments : List String) :
    (useLine arguments).toList.getLast? = some ';' := by
  rw [useLine, String.toList_append, String.toList_append, List.getLast?_append,
    List.getLast?_append]
  rfl

theorem lacks_useLine {cut : Char} (noJoint : Lacks cut "app.use(, );") {arguments : List String}
    (each : ∀ argument ∈ arguments, Lacks cut argument) : Lacks cut (useLine arguments) := by
  simp [Lacks] at noJoint
  simp +contextual [Lacks, useLine, noJoint, each]

end SchemaScaffold.Code
