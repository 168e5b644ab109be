/-! The arguments of a command line: options, which may take a value, and free
arguments. An option has a long name and perhaps a letter; letters can be
written together, and a value follows its option or is part of it. -/

namespace SchemaScaffold.Terminal

structure OptionForm where
  long : String
  letter : Option Char := none
  takesValue : Bool := false
  isRepeatable : Bool := false
  /-- Whether the arguments behind it do not matter. -/
  isFinal : Bool := false
deriving DecidableEq

/-- An option that was given. A flag has an empty value. -/
structure Given where
  form : OptionForm
  value : String

/-- The options up to the first free argument, and what begins there. -/
structure Scanned where
  given : List Given
  rest : List String

/-- A lone hyphen is no option. -/
def isOption (argument : String) : Bool := argument.startsWith "-" && argument != "-"

/-- What a single argument gives, and the option that still waits for its value. -/
structure Reading where
  given : List Given
  waiting : Option OptionForm := none

def Reading.isFinal (reading : Reading) : Bool := reading.given.any fun given => given.form.isFinal

/-- The text before the first equals sign and the one behind it. -/
def splitValue (argument : List Char) : String × Option String :=
  let name := argument.takeWhile (· != '=')
  match argument.dropWhile (· != '=') with
  | [] => (String.ofList name, none)
  | _ :: value => (String.ofList name, some (String.ofList value))

/-- Reads an argument behind its two hyphens. -/
def readLong (forms : List OptionForm) (argument : List Char) : Option Reading :=
  let (name, value) := splitValue argument
  match forms.find? fun form => form.long == name, value with
  | none, _ => none
  | some form, none =>
      if form.takesValue then some ⟨[], some form⟩ else some ⟨[⟨form, ""⟩], none⟩
  | some form, some value => if form.takesValue then some ⟨[⟨form, value⟩], none⟩ else none

/-- The value in the same argument may follow an equals sign. -/
def attachedValue : List Char → String
  | '=' :: value => String.ofList value
  | value => String.ofList value

/-- Reads letters behind their hyphen. -/
def readLetters (forms : List OptionForm) : List Char → Option Reading
  | [] => some ⟨[], none⟩
  | letter :: rest =>
      match forms.find? fun form => form.letter == some letter with
      | none => none
      | some form =>
          if form.takesValue then
            if rest.isEmpty then some ⟨[], some form⟩
            else some ⟨[⟨form, attachedValue rest⟩], none⟩
          else if form.isFinal then some ⟨[⟨form, ""⟩], none⟩
          else
            (readLetters forms rest).map fun reading =>
              { reading with given := ⟨form, ""⟩ :: reading.given }

def readOption (forms : List OptionForm) (argument : String) : Option Reading :=
  match argument.toList with
  | '-' :: '-' :: name => readLong forms name
  | _ :: letters => readLetters forms letters
  | [] => none

def Scanned.add (given : List Given) (scanned : Scanned) : Scanned :=
  { scanned with given := given ++ scanned.given }

/-- Reads arguments from left to right. `waiting` is the option whose value comes
next. Two hyphens end the options. -/
def scan (forms : List OptionForm) : (waiting : Option OptionForm) → List String → Option Scanned
  | none, [] => some ⟨[], []⟩
  | some _, [] => none
  | some form, argument :: rest =>
      if isOption argument then none
      else (scan forms none rest).map (Scanned.add [⟨form, argument⟩])
  | none, argument :: rest =>
      if argument == "--" then
        if rest.isEmpty then some ⟨[], []⟩ else none
      else if isOption argument then
        match readOption forms argument with
        | none => none
        | some reading =>
            if reading.isFinal then some ⟨reading.given, []⟩
            else (scan forms reading.waiting rest).map (Scanned.add reading.given)
      else
        some ⟨[], argument :: rest⟩

/-- The other options are given once at most. -/
def isUnambiguous (given : List Given) : Bool :=
  ((given.map Given.form).filter fun form => !form.isRepeatable).Nodup

/-- The options of a command, if all arguments are in order. -/
def scanOptions (forms : List OptionForm) (arguments : List String) : Option Scanned :=
  match scan forms none arguments with
  | none => none
  | some scanned => if isUnambiguous scanned.given then some scanned else none

namespace Scanned

def values (scanned : Scanned) (long : String) : List String :=
  (scanned.given.filter fun given => given.form.long == long).map Given.value

def value? (scanned : Scanned) (long : String) : Option String := (scanned.values long).head?

def has (scanned : Scanned) (long : String) : Bool := !(scanned.values long).isEmpty

end Scanned

example :
    (scanOptions [{ long := "yes", letter := some 'y' },
        { long := "input", letter := some 'i', takesValue := true }] ["-yi", "file"]).map
      (Scanned.value? · "input") = some (some "file") := by decide +kernel

end SchemaScaffold.Terminal
