import SchemaScaffold.Controller.Flow
import SchemaScaffold.Proofs.Code.Reading

/-! Reading the control flow of a handler out of its lines. Names and expressions
are not looked into. Lines are read from the last to the first, so a block is
complete when its header is met. -/

namespace SchemaScaffold.Controller

open Code

/-! ## Control flow -/

/-- A reply as its caller sees it. -/
structure Reply where
  status : Nat
  success : Bool
deriving DecidableEq

inductive Condition where
  /-- No record has been found for a name. -/
  | missing (name : String)
  /-- The error has fields with these literals. -/
  | errorHas (fields : List (String × String))
deriving DecidableEq

inductive Flow where
  | constant (name : String)
  /-- A call that is waited for. Its result gets a name. -/
  | call (name : String)
  | reply (reply : Reply)
  /-- Replies and ends the handler. -/
  | leave (reply : Reply)
  | provided (condition : Condition) (body : List Flow)
  | attempt (body rescue : List Flow)

/-! ## Its effect -/

/-- An error is known by the literals that its fields are equal to. -/
structure Error where
  field : String → Option String

/-- What comes of a call. -/
inductive Result where
  | value
  | nothing
  | error (error : Error)

/-- `record` is the name of the result. -/
def Condition.holds (record : String) : Condition → Result → Bool
  | missing name, .nothing => name == record
  | errorHas fields, .error error =>
      fields.all fun (name, literal) => error.field name == some literal
  | _, _ => false

mutual

/-- The names that the results of calls get. -/
def Flow.calls : Flow → List String
  | .call name => [name]
  | .provided _ body => callsOf body
  | .attempt body rescue => callsOf body ++ callsOf rescue
  | _ => []

def callsOf : List Flow → List String
  | [] => []
  | flow :: rest => flow.calls ++ callsOf rest

end

mutual

/-- The replies that are sent, in order, and how the statement ends. -/
def Flow.run (record : String) (result : Result) : Flow → List Reply × Ending
  | .constant _ => ([], .next)
  | .call _ =>
      match result with
      | .error _ => ([], .thrown)
      | _ => ([], .next)
  | .reply reply => ([reply], .next)
  | .leave reply => ([reply], .returned)
  | .provided condition body =>
      if condition.holds record result then runFlows record result body else ([], .next)
  | .attempt body rescue =>
      match runFlows record result body with
      | (sent, .thrown) =>
          let rescued := runFlows record result rescue
          (sent ++ rescued.1, rescued.2)
      | ended => ended

def runFlows (record : String) (result : Result) : List Flow → List Reply × Ending
  | [] => ([], .next)
  | flow :: rest =>
      match flow.run record result with
      | (sent, .next) =>
          let later := runFlows record result rest
          (sent ++ later.1, later.2)
      | ended => ended

end

/-- All replies to one request. -/
def replies (record : String) (result : Result) (flows : List Flow) : List Reply :=
  (runFlows record result flows).1

/-! ## Lines -/

def number? (text : String) : Option Nat :=
  if text ≠ "" ∧ text.toList.all Char.isDigit then some (Nat.ofDigitChars 10 text.toList 0) else none

def readStatus? (word : String) : Option Nat :=
  ((after? "res.status(" word).bind (before? ").json(\x7b")).bind number?

def readSuccess? : String → String → Option Bool
  | "true,", "data:" => some true
  | "false,", "error:" => some false
  | _, _ => none

/-- The reply that is sent with some value. -/
def readReply? : List String → Option Reply
  | head :: "success:" :: kind :: content :: value =>
      if value.getLast? = some "\x7d);" then
        (readStatus? head).bind fun status => (readSuccess? kind content).map (⟨status, ·⟩)
      else none
  | _ => none

def readComparisons? : List String → Option (List (String × String))
  | [field, "===", literal] => (after? "error." field).map fun name => [(name, literal)]
  | field :: "===" :: literal :: "&&" :: rest =>
      (after? "error." field).bind fun name => (readComparisons? rest).map ((name, literal) :: ·)
  | _ => none

def readCondition? (text : String) : Option Condition :=
  match after? "!" text with
  | some name => some (.missing name)
  | none => (readComparisons? (wordsOf text)).map .errorHas

inductive Line where
  /-- A whole statement. -/
  | whole (flow : Flow)
  /-- A statement whose last argument is written below. -/
  | starts (flow : Flow)
  | argument
  | ends
  | opens (condition : Condition)
  | tries
  | catches
  | closes

/-- A constant, or a call if it is waited for. -/
def readConstant? (name : String) (words : List String) : Option Line :=
  let flow := if words.head? = some "await" then Flow.call name else .constant name
  words.getLast?.bind fun last =>
    if last = "\x7b" then some (.starts flow) else (before? ";" last).map fun _ => .whole flow

def readWords? (line : String) : List String → Option Line
  | ["try", "\x7b"] => some .tries
  | ["\x7d", "catch", "(error)", "\x7b"] => some .catches
  | ["\x7d", "catch", "(error:", _, "\x7b"] => some .catches
  | ["\x7d"] => some .closes
  | ["\x7d);"] => some .ends
  | "const" :: name :: "=" :: words => readConstant? name words
  | "return" :: words => (readReply? words).map fun reply => .whole (.leave reply)
  | _ => (before? "," line).map fun _ => .argument

/-- What a line without its indentation has to do with the control flow. -/
def readLine? (line : String) : Option Line :=
  match readReply? (wordsOf line), after? "if (" line with
  | some reply, _ => some (.whole (.reply reply))
  | none, some rest => ((before? ") \x7b" rest).bind readCondition?).map .opens
  | none, none => readWords? line (wordsOf line)

/-! ## Blocks -/

/-- A block that is read to some line of it, or arguments. -/
inductive Frame where
  /-- `rescue` follows a failure, if the block is tried. -/
  | block (flows : List Flow) (rescue : Option (List Flow))
  | arguments

def push (flow : Flow) : List Frame → Option (List Frame)
  | .block flows rescue :: outer => some (.block (flow :: flows) rescue :: outer)
  | _ => none

/-- Goes on with the line above. The innermost block comes first. -/
def Line.read : Line → List Frame → Option (List Frame)
  | whole flow, frames => push flow frames
  | closes, frames => some (.block [] none :: frames)
  | opens condition, .block body none :: outer => push (.provided condition body) outer
  | catches, .block rescue none :: outer => some (.block [] (some rescue) :: outer)
  | tries, .block body (some rescue) :: outer => push (.attempt body rescue) outer
  | ends, frames => some (.arguments :: frames)
  | argument, .arguments :: outer => some (.arguments :: outer)
  | starts flow, .arguments :: outer => push flow outer
  | _, _ => none

def dedented (line : String) : String := String.ofList (line.toList.dropWhile (· == ' '))

def readLines : List String → Option (List Frame)
  | [] => some [.block [] none]
  | line :: rest =>
      (readLines rest).bind fun frames => (readLine? (dedented line)).bind (·.read frames)

/-- The control flow of the lines between the brackets of a handler. -/
def readFlow? (lines : List String) : Option (List Flow) :=
  match readLines lines with
  | some [.block flows none] => some flows
  | _ => none

/-! ## Printed lines -/

theorem number?_toString (number : Nat) : number? (toString number) = some number := by
  have digits : (toString number).toList = Nat.toDigits 10 number := by
    simp
  have isNumber : toString number ≠ "" ∧ (toString number).toList.all Char.isDigit := by
    refine ⟨fun empty => ?_, ?_⟩
    · rw [empty] at digits
      exact absurd digits.symm Nat.toDigits_ne_nil
    · rw [digits, List.all_eq_true]
      exact fun c isDigit => Nat.isDigit_of_mem_toDigits (by decide) (by decide) isDigit
  rw [number?, if_pos isNumber, digits, Nat.ofDigitChars_ten_toDigits]

theorem lacks_toString (number : Nat) : Lacks ' ' (toString number) := by
  rw [Lacks, Nat.toString_eq_ofList_toDigits, String.toList_ofList]
  intro isDigit
  exact absurd (Nat.isDigit_of_mem_toDigits (by decide) (by decide) isDigit) (by decide)

theorem readStatus?_head (status : Nat) :
    readStatus? ("res.status(" ++ toString status ++ ").json(\x7b") = some status := by
  rw [readStatus?, String.append_assoc, after?_append, Option.bind_some, before?_append,
    Option.bind_some, number?_toString]

theorem wordsOf_sent (status : Nat) {start kind : String} (opened : start = "\x7b " ++ kind ++ " ")
    (expression : String) :
    wordsOf ("res.status(" ++ toString status ++ ").json(" ++ (start ++ expression ++ " \x7d") ++ ");")
      = ("res.status(" ++ toString status ++ ").json(\x7b")
        :: (wordsOf kind ++ (wordsOf expression ++ ["\x7d);"])) := by
  let head := "res.status(" ++ toString status ++ ").json(\x7b"
  have opening : ").json(" ++ "\x7b " = ").json(\x7b" ++ " " := by simp
  have closing : " \x7d" ++ ");" = " " ++ "\x7d);" := by simp
  have parts :
      "res.status(" ++ toString status ++ ").json(" ++ (start ++ expression ++ " \x7d") ++ ");"
        = head ++ " " ++ kind ++ " " ++ expression ++ " " ++ "\x7d);" := by
    calc
      _ = "res.status(" ++ toString status ++ (").json(" ++ "\x7b ") ++ kind ++ " " ++ expression
          ++ (" \x7d" ++ ");") := by simp only [opened, String.append_assoc]
      _ = _ := by simp only [opening, closing, head, String.append_assoc]
  have whole : Lacks ' ' head :=
    (Lacks.append (by simp [Lacks]) (lacks_toString status)).append (by simp [Lacks])
  have ending : wordsOf "\x7d);" = ["\x7d);"] := wordsOf_of_lacks (by simp [Lacks])
  rw [parts]
  simp only [wordsOf_append, wordsOf_of_lacks whole, ending, List.append_assoc,
    List.singleton_append]
  rfl

def Response.reply (response : Response) : Reply := ⟨response.status, response.body.isSuccess⟩

theorem readReply?_sent (status : Nat) {start kind first second : String} {success : Bool}
    (opened : start = "\x7b " ++ kind ++ " ") (words : wordsOf kind = ["success:", first, second])
    (known : readSuccess? first second = some success) (expression : String) :
    readReply? (wordsOf
        ("res.status(" ++ toString status ++ ").json(" ++ (start ++ expression ++ " \x7d") ++ ");"))
      = some ⟨status, success⟩ := by
  rw [wordsOf_sent status opened, words, List.cons_append, List.cons_append, List.cons_append,
    List.nil_append, readReply?, if_pos List.getLast?_concat, readStatus?_head, Option.bind_some,
    known, Option.map_some]

theorem readReply?_response (response : Response) :
    readReply? (wordsOf response.text) = some response.reply := by
  rcases response with ⟨status, expression | expression⟩
  · have words : wordsOf "success: true, data:" = ["success:", "true,", "data:"] := by
      decide +kernel
    exact readReply?_sent status (by simp) words rfl expression
  · have words : wordsOf "success: false, error:" = ["success:", "false,", "error:"] := by
      decide +kernel
    exact readReply?_sent status (by simp) words rfl expression

theorem readReply?_eq_none {head : String} (notSent : readStatus? head = none)
    (words : List String) : readReply? (head :: words) = none := by
  rw [readReply?.eq_def]
  split
  · next same =>
      cases same
      rw [notSent]
      exact ite_self none
  · rfl

theorem readLine?_respond (response : Response) :
    readLine? response.text = some (.whole (.reply response.reply)) := by
  rw [readLine?, readReply?_response]

/-- A line that is known by its first word. -/
theorem readLine?_of_words {line head : String} {words : List String}
    (isLine : wordsOf line = head :: words) (notSent : readStatus? head = none)
    (noCondition : ¬ "if (".toList <+: line.toList) :
    readLine? line = readWords? line (head :: words) := by
  rw [readLine?, isLine, readReply?_eq_none notSent, after?_eq_none noCondition]

theorem wordsOf_cons (word : String) {start : String} (isWord : start = word ++ " ")
    (whole : Lacks ' ' word) (rest : String) : wordsOf (start ++ rest) = word :: wordsOf rest := by
  rw [isWord, wordsOf_append, wordsOf_of_lacks whole, List.singleton_append]

theorem readLine?_leave (response : Response) :
    readLine? ("return " ++ response.text) = some (.whole (.leave response.reply)) := by
  have words : wordsOf ("return " ++ response.text) = "return" :: wordsOf response.text :=
    wordsOf_cons "return" (by simp) (by simp [Lacks]) response.text
  rw [readLine?_of_words words (by decide +kernel) (by simp), readWords?, readReply?_response,
    Option.map_some]

theorem readLine?_constant {name : String} (whole : Lacks ' ' name) (value : String) :
    readLine? ("const " ++ name ++ " = " ++ value) = readConstant? name (wordsOf value) := by
  have parts : "const " ++ name ++ " = " ++ value = "const " ++ (name ++ " " ++ ("= " ++ value)) := by
    have equals : " = " = " " ++ "= " := by simp
    simp only [equals, String.append_assoc]
  have words : wordsOf ("const " ++ name ++ " = " ++ value)
      = "const" :: name :: "=" :: wordsOf value := by
    rw [parts, wordsOf_cons "const" (by simp) (by simp [Lacks]),
      wordsOf_cons name rfl whole, wordsOf_cons "=" (by simp) (by simp [Lacks])]
  rw [readLine?_of_words words (by decide +kernel) (by simp), readWords?]

theorem readLine?_condition {text : String} {condition : Condition}
    (read : readCondition? text = some condition) :
    readLine? ("if (" ++ text ++ ") " ++ "\x7b") = some (.opens condition) := by
  have brace : ") " ++ "\x7b" = ") \x7b" := by simp
  have opened : "if (" = "if " ++ "(" := by simp
  have words : wordsOf ("if (" ++ (text ++ ") \x7b")) = "if" :: wordsOf ("(" ++ (text ++ ") \x7b")) := by
    rw [opened, String.append_assoc, wordsOf_cons "if" (by simp) (by simp [Lacks])]
  rw [String.append_assoc, String.append_assoc, brace, readLine?, words,
    readReply?_eq_none (by decide +kernel), after?_append]
  simp only [before?_append, Option.bind_some, read, Option.map_some]

/-- A constant that ends on its line. -/
theorem readConstant?_ended (name value : String) :
    readConstant? name (wordsOf (value ++ ";"))
      = some (.whole (if (wordsOf (value ++ ";")).head? = some "await" then .call name
          else .constant name)) := by
  have noCut : ∀ c ∈ ";".toList, (c == ' ') = false := by simp
  rcases Text.exists_last_piece noCut value.toList with ⟨pieces, last, _, split⟩
  have words : (wordsOf (value ++ ";")).getLast? = some (String.ofList last ++ ";") := by
    rw [wordsOf, Text.pieces, String.toList_append, split, List.map_append, List.map_singleton,
      List.getLast?_concat, String.ofList_append]
    rfl
  have different : String.ofList last ++ ";" ≠ "\x7b" := by
    intro equal
    have ends := congrArg (fun text => text.toList.getLast?) equal
    simp at ends
  rw [readConstant?, words, Option.bind_some, if_neg different, before?_append, Option.map_some]

/-! ## Printed statements -/

theorem dedented_line (level : Nat) {content : String} (starts : content.toList.head? ≠ some ' ') :
    dedented (Row.line (.text level content)) = content := by
  have blank : ∀ c ∈ (Row.indentation level).toList, (c == ' ') = true := by
    simp [Row.indentation, Row.unit, String.toList_join]
  have stays : content.toList.dropWhile (· == ' ') = content.toList := by
    cases chars : content.toList with
    | nil => rfl
    | cons c rest =>
        have different : c ≠ ' ' := fun equal => starts (by rw [chars, equal]; rfl)
        rw [List.dropWhile_cons_of_neg (by simpa using different)]
  rw [dedented, Row.line, String.toList_append, List.dropWhile_append_of_pos blank, stays,
    String.ofList_toList]

/-- At any level, the fragments are read in front of the rest of their block. -/
def Reads (fragments : List Fragment) (flows : List Flow) : Prop :=
  ∀ level rest inner rescue outer, readLines rest = some (.block inner rescue :: outer) →
    readLines ((rowsOf level fragments).map Row.line ++ rest)
      = some (.block (flows ++ inner) rescue :: outer)

namespace Reads

variable {fragments : List Fragment} {flows : List Flow}

theorem nil : Reads [] [] := fun _ _ _ _ _ read => read

theorem append {others : List Fragment} {later : List Flow} (reads : Reads fragments flows)
    (readsOthers : Reads others later) : Reads (fragments ++ others) (flows ++ later) := by
  intro level rest inner rescue outer read
  rw [rowsOf_append, List.map_append, List.append_assoc, List.append_assoc]
  exact reads level _ _ rescue outer (readsOthers level rest inner rescue outer read)

theorem line {text : String} {flow : Flow} (starts : text.toList.head? ≠ some ' ')
    (isLine : readLine? text = some (.whole flow)) : Reads [.line text] [flow] := by
  intro level rest inner rescue outer read
  have rows : (rowsOf level [.line text]).map Row.line = [Row.line (.text level text)] := rfl
  rw [rows, List.singleton_append, readLines, read, Option.bind_some, dedented_line level starts,
    isLine]
  rfl

theorem readLines_cons (level : Nat) {text : String} {kind : Line} {rest : List String}
    {frames : List Frame} (starts : text.toList.head? ≠ some ' ')
    (isLine : readLine? text = some kind) (read : readLines rest = some frames) :
    readLines (Row.line (.text level text) :: rest) = kind.read frames := by
  rw [readLines, read, Option.bind_some, dedented_line level starts, isLine, Option.bind_some]

/-- The lines of a block up to its bracket. -/
theorem closed (reads : Reads fragments flows) (level : Nat) {rest : List String}
    {frames : List Frame} (read : readLines rest = some frames) :
    readLines ((rowsOf (level + 1) fragments).map Row.line ++ Row.line (.text level "\x7d") :: rest)
      = some (.block flows none :: frames) := by
  have isLine : readLine? "\x7d" = some .closes :=
    readLine?_of_words (by decide +kernel : _ = ["\x7d"]) (by decide +kernel) (by simp)
  have closing := readLines_cons level (by decide) isLine read
  have all := reads (level + 1) _ [] none frames closing
  rwa [List.append_nil] at all

theorem provided {header : String} {condition : Condition}
    (starts : (header ++ "\x7b").toList.head? ≠ some ' ')
    (isLine : readLine? (header ++ "\x7b") = some (.opens condition))
    (reads : Reads fragments flows) :
    Reads [.braced header fragments] [.provided condition flows] := by
  intro level rest inner rescue outer read
  have rows : (rowsOf level [.braced header fragments]).map Row.line
      = Row.line (.text level (header ++ "\x7b"))
        :: ((rowsOf (level + 1) fragments).map Row.line ++ [Row.line (.text level "\x7d")]) := by
    simp [rowsOf, Fragment.braced, Fragment.rows]
  rw [rows, List.cons_append, List.append_assoc]
  exact readLines_cons level starts isLine (reads.closed level read)

theorem attempt {header : String} (starts : (header ++ "\x7b").toList.head? ≠ some ' ')
    (isLine : readLine? (header ++ "\x7b") = some .catches) {handling : List Fragment}
    {rescue : List Flow} (reads : Reads fragments flows) (rescues : Reads handling rescue) :
    Reads [.block "try \x7b" fragments none, .braced header handling] [.attempt flows rescue] := by
  intro level rest inner outerRescue outer read
  have rows :
      (rowsOf level [.block "try \x7b" fragments none, .braced header handling]).map Row.line
        = Row.line (.text level "try \x7b") :: ((rowsOf (level + 1) fragments).map Row.line
          ++ Row.line (.text level (header ++ "\x7b"))
            :: ((rowsOf (level + 1) handling).map Row.line ++ [Row.line (.text level "\x7d")])) := by
    simp [rowsOf, Fragment.braced, Fragment.rows]
  have catching := readLines_cons level starts isLine (rescues.closed level read)
  have body := reads (level + 1) _ [] (some rescue) _ catching
  have tried : readLine? "try \x7b" = some .tries :=
    readLine?_of_words (by decide +kernel : _ = ["try", "\x7b"]) (by decide +kernel) (by simp)
  rw [List.append_nil] at body
  rw [rows, List.cons_append, List.append_assoc, List.cons_append, List.append_assoc]
  exact readLines_cons level (by decide) tried body

/-- A statement whose last argument takes some lines. -/
theorem spread {header : String} {flow : Flow} (starts : (header ++ "\x7b").toList.head? ≠ some ' ')
    (isLine : readLine? (header ++ "\x7b") = some (.starts flow)) {arguments : List String}
    (areArguments : ∀ argument ∈ arguments,
      argument.toList.head? ≠ some ' ' ∧ readLine? argument = some .argument) :
    Reads [.braced header (arguments.map .line) ");"] [flow] := by
  intro level rest inner rescue outer read
  have rows : (rowsOf level [.braced header (arguments.map .line) ");"]).map Row.line
      = Row.line (.text level (header ++ "\x7b"))
        :: ((arguments.map fun argument => Row.line (.text (level + 1) argument))
          ++ [Row.line (.text level "\x7d);")]) := by
    have ending : "\x7d" ++ ");" = "\x7d);" := by simp
    simp [rowsOf, Fragment.braced, Fragment.rows, rowsOf_lines, ending]
  have ended : readLine? "\x7d);" = some .ends :=
    readLine?_of_words (by decide +kernel : _ = ["\x7d);"]) (by decide +kernel) (by simp)
  have closing := readLines_cons level (by decide) ended read
  have inside :
      readLines ((arguments.map fun argument => Row.line (.text (level + 1) argument))
          ++ Row.line (.text level "\x7d);") :: rest)
        = some (.arguments :: .block inner rescue :: outer) := by
    clear rows
    induction arguments with
    | nil => exact closing
    | cons argument others induction =>
        rw [List.forall_mem_cons] at areArguments
        exact readLines_cons (level + 1) areArguments.1.1 areArguments.1.2 (induction areArguments.2)
  rw [rows, List.cons_append, List.append_assoc]
  exact readLines_cons level starts isLine inside

theorem readFlow?_eq (reads : Reads fragments flows) (level : Nat) :
    readFlow? ((rowsOf level fragments).map Row.line) = some flows := by
  have read := reads level [] [] none [] rfl
  rw [List.append_nil, List.append_nil] at read
  rw [readFlow?, read]

end Reads

end SchemaScaffold.Controller
