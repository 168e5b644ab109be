import SchemaScaffold.Proofs.Code.Reading
import SchemaScaffold.Proofs.Json.Delimiters
import SchemaScaffold.Proofs.Json.Values
import SchemaScaffold.Schema.Entry

/-! Everything that an entry states is read back out of its line. A reference and a
default may hold any text, also one that looks like the options behind them, so the
options are read from left to right: where a string literal ends is for the reader
of literals to say, and the default, of which no end is marked, stands last. -/

namespace SchemaScaffold.Schema

open Code

/-! ## Options -/

/-- What an entry states of a field. -/
structure EntryOptions where
  type : String
  /-- The name that is referred to. -/
  reference : Option String
  required : Bool
  unique : Bool
  /-- The literal. -/
  default : Option String
deriving DecidableEq

/-- An option that is left out if there is nothing to state. -/
def optionText (mark : String) : Option String → String
  | some value => mark ++ value
  | none => ""

def flagText (mark : String) (isSet : Bool) : String := if isSet then mark else ""

namespace EntryOptions

/-- The options between the mark of the first and the end of the entry. -/
def text (options : EntryOptions) : String :=
  options.type ++ (optionText ", ref: " (options.reference.map Json.stringLiteral)
    ++ (flagText ", required: true" options.required
    ++ (flagText ", unique: true" options.unique
    ++ optionText ", default: " options.default)))

end EntryOptions

def Dialect.written (dialect : Dialect) (field : Field) : EntryOptions where
  type := dialect.idToken.fieldType field
  reference := dialect.reference? field
  required := field.required
  unique := field.unique
  default := field.defaultLiteral?

theorem join_optionText (separator mark : String) (value : Option String) :
    String.join ((value.toList.map (mark ++ ·)).map (separator ++ ·))
      = optionText (separator ++ mark) value := by
  cases value <;> simp [optionText, String.append_assoc]

theorem join_flagText (separator mark : String) (isSet : Bool) :
    String.join ((if isSet then [mark] else []).map (separator ++ ·))
      = flagText (separator ++ mark) isSet := by
  cases isSet <;> simp [flagText]

theorem Dialect.entry_eq (dialect : Dialect) (field : Field) :
    dialect.entry field
      = field.name ++ ": \x7b type: " ++ ((dialect.written field).text ++ " \x7d,") := by
  have reference :
      (dialect.reference? field).toList.map (fun name => "ref: " ++ Json.stringLiteral name)
        = ((dialect.reference? field).map Json.stringLiteral).toList.map ("ref: " ++ ·) := by
    rw [Option.toList_map, List.map_map]
    rfl
  have opening : ": \x7b type: " = ": \x7b " ++ "type: " := rfl
  rw [entry, options, reference, List.append_assoc, List.append_assoc, List.append_assoc,
    List.singleton_append, intercalate_cons, List.map_append, List.map_append, List.map_append,
    String.join_append, String.join_append, String.join_append, join_optionText, join_flagText,
    join_flagText, join_optionText]
  simp only [written, EntryOptions.text, String.append_assoc, String.reduceAppend]
  rw [opening, String.append_assoc]

/-! ## Readers -/

/-- A string literal and what stands behind it. -/
def readLiteral? (text : String) : Option (String × String) :=
  (after? "\"" text).bind fun body =>
    match Json.Reader.string (body.toList.length + 1) ⟨body.toList, 0⟩ with
    | .ok read => some (read.1, String.ofList read.2.rest)
    | .error _ => none

/-- The name that is referred to, if there is a reference, and what follows. -/
def readReference? (text : String) : Option (Option String × String) :=
  match after? ", ref: " text with
  | some behind => (readLiteral? behind).map fun read => (some read.1, read.2)
  | none => some (none, text)

/-- Whether a flag is set, and what follows. -/
def readFlag (mark text : String) : Bool × String :=
  match after? mark text with
  | some behind => (true, behind)
  | none => (false, text)

def readOptions? (text : String) : Option EntryOptions :=
  let type := text.toList.takeWhile (· != ',')
  (readReference? (String.ofList (text.toList.drop type.length))).map fun reference =>
    let required := readFlag ", required: true" reference.2
    let unique := readFlag ", unique: true" required.2
    { type := String.ofList type
      reference := reference.1
      required := required.1
      unique := unique.1
      default := after? ", default: " unique.2 }

/-- The options of the entry on a line, for the field of this name. -/
def entryOptions? (name line : String) : Option EntryOptions :=
  (after? (name ++ ": \x7b type: ") line).bind fun rest => (before? " \x7d," rest).bind readOptions?

theorem readLiteral?_append (value rest : String) :
    readLiteral? (Json.stringLiteral value ++ rest) = some (value, rest) := by
  let body := value.toList.flatMap Json.escapedChar ++ '"' :: rest.toList
  have opened : Json.stringLiteral value ++ rest = "\"" ++ String.ofList body := by
    simp [body, Json.stringLiteral, Json.literalChars, ← String.toList_inj]
  have long : value.toList.length < body.length + 1 := by
    have escaped := Json.Value.length_le_escaped value.toList
    rw [List.length_append]
    omega
  have reads : (Json.Reader.string (body.length + 1)).Reads body value rest.toList :=
    Json.Reader.reads_string long
  rcases reads 0 with ⟨consumed, read⟩
  rw [opened, readLiteral?, after?_append, Option.bind_some, String.toList_ofList, read]
  simp

/-- No mark of an option is the start of what follows it. -/
theorem readFlag_flagText {mark rest : String} (apart : ¬ mark.toList <+: rest.toList)
    (isSet : Bool) : readFlag mark (flagText mark isSet ++ rest) = (isSet, rest) := by
  cases isSet with
  | false => simp [flagText, readFlag, after?_eq_none apart]
  | true => simp [flagText, readFlag]

theorem readReference?_optionText {rest : String} (apart : ¬ ", ref: ".toList <+: rest.toList)
    (reference : Option String) :
    readReference? (optionText ", ref: " (reference.map Json.stringLiteral) ++ rest)
      = some (reference, rest) := by
  cases reference with
  | none => simp [optionText, readReference?, after?_eq_none apart]
  | some name =>
      simp only [Option.map_some, optionText, String.append_assoc, readReference?, after?_append,
        readLiteral?_append]

theorem after?_optionText {mark : String} (some : mark ≠ "") (value : Option String) :
    after? mark (optionText mark value) = value := by
  cases value with
  | none =>
      apply after?_eq_none
      simpa [optionText] using some
  | some value => exact after?_append mark value

/-- Behind the type stands nothing, or a comma and an option. -/
theorem takeWhile_type {type behind : String} (whole : Lacks ',' type)
    (next : ∀ c ∈ behind.toList.head?, c = ',') :
    (type ++ behind).toList.takeWhile (· != ',') = type.toList := by
  rw [String.toList_append, List.takeWhile_append_of_pos]
  · cases chars : behind.toList with
    | nil => simp
    | cons c others => simp [next c (by simp [chars])]
  · intro c isChar
    simpa using fun isComma : c = ',' => whole (isComma ▸ isChar)

theorem readOptions?_text {options : EntryOptions} (whole : Lacks ',' options.type) :
    readOptions? options.text = some options := by
  rcases options with ⟨type, reference, required, unique, default⟩
  let unread := optionText ", default: " default
  let flags := flagText ", required: true" required ++ (flagText ", unique: true" unique ++ unread)
  have notReference : ¬ ", ref: ".toList <+: flags.toList := by
    cases required <;> cases unique <;> cases default <;> simp [flags, unread, flagText, optionText]
  have notRequired :
      ¬ ", required: true".toList <+: (flagText ", unique: true" unique ++ unread).toList := by
    cases unique <;> cases default <;> simp [unread, flagText, optionText]
  have notUnique : ¬ ", unique: true".toList <+: unread.toList := by
    cases default <;> simp [unread, optionText]
  have literalMark : ", default: " ≠ "" := by decide
  let text := EntryOptions.text ⟨type, reference, required, unique, default⟩
  have typeChars : text.toList.takeWhile (· != ',') = type.toList := by
    apply takeWhile_type whole
    cases reference <;> cases required <;> cases unique <;> cases default <;>
      simp [flagText, optionText]
  have behind : String.ofList (text.toList.drop type.toList.length)
      = optionText ", ref: " (reference.map Json.stringLiteral) ++ flags := by
    simp [text, EntryOptions.text, flags, unread]
  change readOptions? text = _
  simp only [readOptions?, typeChars, behind, readReference?_optionText notReference,
    Option.map_some, flags, readFlag_flagText notRequired, readFlag_flagText notUnique, unread,
    after?_optionText literalMark, String.ofList_toList]

/-! ## Types -/

theorem IdToken.lacks_comma_fieldType (token : IdToken) (field : Field) :
    Lacks ',' (token.fieldType field) := by
  have item : Lacks ',' (token.itemType field) := by
    rw [itemType]
    cases field.kind <;> cases token <;> simp [Lacks, text, idType]
  rw [fieldType]
  split
  · simp [Lacks, item]
  · exact item

theorem entryOptions?_entry (dialect : Dialect) (field : Field) :
    entryOptions? field.name (dialect.entry field) = some (dialect.written field) := by
  rw [dialect.entry_eq, entryOptions?, after?_append, Option.bind_some, before?_append,
    Option.bind_some, readOptions?_text (dialect.idToken.lacks_comma_fieldType field)]

/-! ## Entries that are alike -/

/-- Targets that are referred to in one way: as they were drawn, or capitalized. -/
def ReferenceSpelling.SameTarget : ReferenceSpelling → Option String → Option String → Prop
  | label, target, other => target = other
  | pascal, target, other => target.map Naming.pascal = other.map Naming.pascal

/-- Fields of which the entries state the same. -/
structure Dialect.StatesSame (dialect : Dialect) (field other : Field) : Prop where
  type : dialect.idToken.fieldType field = dialect.idToken.fieldType other
  target : dialect.spelling.SameTarget field.target? other.target?
  required : field.required = other.required
  unique : field.unique = other.unique
  default : field.default = other.default

namespace Dialect

theorem reference?_eq_iff {dialect : Dialect} {field other : Field} :
    dialect.reference? field = dialect.reference? other ↔
      dialect.spelling.SameTarget field.target? other.target? := by
  rw [reference?, reference?]
  cases dialect.spelling with
  | pascal => rfl
  | label => simp [ReferenceSpelling.spell, ReferenceSpelling.SameTarget]

theorem defaultLiteral?_eq_iff {field other : Field}
    (noFloat : ∀ value ∈ field.default, value.HasNoFloat)
    (noFloat' : ∀ value ∈ other.default, value.HasNoFloat) :
    field.defaultLiteral? = other.defaultLiteral? ↔ field.default = other.default := by
  constructor
  · rw [Field.defaultLiteral?, Field.defaultLiteral?]
    cases given : field.default with
    | none => cases other.default <;> simp
    | some value =>
        cases given' : other.default with
        | none => simp
        | some value' =>
            intro literals
            exact congrArg some (Json.Value.compact_injective (noFloat value given)
              (noFloat' value' given') (Option.some.inj literals))
  · intro same
    rw [Field.defaultLiteral?, Field.defaultLiteral?, same]

/-- The entry of a field loses nothing that it states: fields of one name have the same
entry exactly if their types, targets, flags and defaults are the same. Floats are left
out because two of them may have one written form. -/
theorem entry_eq_iff {dialect : Dialect} {field other : Field} (sameName : field.name = other.name)
    (noFloat : ∀ value ∈ field.default, value.HasNoFloat)
    (noFloat' : ∀ value ∈ other.default, value.HasNoFloat) :
    dialect.entry field = dialect.entry other ↔ dialect.StatesSame field other := by
  constructor
  · intro same
    have read := entryOptions?_entry dialect field
    rw [same, sameName, entryOptions?_entry, Option.some.injEq] at read
    exact {
      type := (congrArg EntryOptions.type read).symm
      target := reference?_eq_iff.mp (congrArg EntryOptions.reference read).symm
      required := (congrArg EntryOptions.required read).symm
      unique := (congrArg EntryOptions.unique read).symm
      default := (defaultLiteral?_eq_iff noFloat noFloat').mp
        (congrArg EntryOptions.default read).symm }
  · intro same
    have options : dialect.written field = dialect.written other := by
      rw [written, written, same.type, reference?_eq_iff.mpr same.target, same.required,
        same.unique, (defaultLiteral?_eq_iff noFloat noFloat').mpr same.default]
    rw [dialect.entry_eq, dialect.entry_eq, options, sameName]

/-- A default that reads like the options of an entry. -/
def ownerAsDrawn : Field :=
  { name := "owner", typeTag := "ref", reference := some "app_user",
    default := some (.string ", required: true \x7d,") }

/-- The same up to the case of its tag and the spelling of its target. -/
def ownerRespelled : Field :=
  { ownerAsDrawn with typeTag := "REF", reference := some "App User", id := some "2" }

theorem entry_eq_ownerRespelled :
    ownerAsDrawn.name = ownerRespelled.name ∧
      (∀ value ∈ ownerAsDrawn.default, value.HasNoFloat) ∧
      (∀ value ∈ ownerRespelled.default, value.HasNoFloat) ∧
      (mk .ofTypes .pascal).entry ownerAsDrawn = (mk .ofTypes .pascal).entry ownerRespelled ∧
      (mk .ofTypes .label).entry ownerAsDrawn ≠ (mk .ofTypes .label).entry ownerRespelled := by
  have isText : ∀ value ∈ ownerAsDrawn.default, value.HasNoFloat := by
    intro value isDefault
    cases isDefault
    exact .intro trivial nofun
  have sameDefault : ownerRespelled.default = ownerAsDrawn.default := rfl
  have isText' : ∀ value ∈ ownerRespelled.default, value.HasNoFloat := sameDefault ▸ isText
  have drawn : ownerAsDrawn.target? = some "app_user" := by decide +kernel
  have capitalized : ownerRespelled.target? = some "App User" := by decide +kernel
  have sameType : IdToken.ofTypes.fieldType ownerAsDrawn
      = IdToken.ofTypes.fieldType ownerRespelled := by decide +kernel
  have samePascal : Naming.pascal "app_user" = Naming.pascal "App User" := by decide +kernel
  have same : (mk .ofTypes .pascal).StatesSame ownerAsDrawn ownerRespelled :=
    { type := sameType
      target := by
        rw [drawn, capitalized]
        exact congrArg some samePascal
      required := rfl
      unique := rfl
      default := rfl }
  have sameName : ownerAsDrawn.name = ownerRespelled.name := rfl
  refine ⟨sameName, isText, isText', (entry_eq_iff sameName isText isText').mpr same, ?_⟩
  intro sameLine
  have target := ((entry_eq_iff sameName isText isText').mp sameLine).target
  rw [drawn, capitalized] at target
  exact absurd (Option.some.inj target) (by decide)

end Dialect

end SchemaScaffold.Schema
