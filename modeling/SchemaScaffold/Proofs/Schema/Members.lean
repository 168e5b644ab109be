import SchemaScaffold.Proofs.Code.Rereading
import SchemaScaffold.Proofs.Schema.Entries
import SchemaScaffold.Proofs.Schema.TypeReferences

/-! The members of an interface beside the entries of a schema. For each declared
field there is one of both, and what is read from the two is the same field: the
member is optional where the entry does not require a value, and a list is one on
either side. -/

namespace SchemaScaffold

open Code

namespace Code

/-! ## Members -/

/-- What a member states of a field. -/
structure MemberParts where
  isOptional : Bool
  type : String
deriving DecidableEq

/-- The mark and the type of the member on a line, for the field of this name. -/
def readMember? (name line : String) : Option MemberParts :=
  (after? name line).bind fun rest =>
    match after? "?: " rest with
    | some type => (before? ";" type).map (MemberParts.mk true)
    | none => ((after? ": " rest).bind (before? ";")).map (MemberParts.mk false)

theorem readMember?_text (member : InterfaceMember) :
    readMember? member.name member.text = some ⟨!member.required, member.type⟩ := by
  rcases member with ⟨name, type, required⟩
  cases required with
  | true =>
      have text : InterfaceMember.text ⟨name, type, true⟩ = name ++ (": " ++ (type ++ ";")) := by
        simp [InterfaceMember.text, ← String.toList_inj]
      have unmarked : after? "?: " (": " ++ (type ++ ";")) = none := after?_eq_none (by simp)
      simp [text, readMember?, unmarked]
  | false =>
      have text : InterfaceMember.text ⟨name, type, false⟩ = name ++ ("?: " ++ (type ++ ";")) := by
        simp [InterfaceMember.text, ← String.toList_inj]
      simp [text, readMember?]

end Code

namespace Schema

/-! ## Schemas -/

theorem isEnded_entry (dialect : Dialect) (field : Field) : IsEnded (dialect.entry field) := by
  rw [Dialect.entry_eq]
  exact .append _ (.append _ (.of_last rfl (by decide)))

theorem linesAt_declarationFragment_some (name constructor : String) (entries : List String)
    (settings : String) :
    linesAt 0 [declarationFragment name constructor entries (some settings)]
      = ["const " ++ name ++ " = new " ++ constructor ++ "("]
        ++ linesAt 1 [.braced "" (entries.map .line) ","]
        ++ [Row.indentation 1 ++ (settings ++ ","), ");"] := by
  simp [declarationFragment, linesAt, rowsOf, Fragment.rows, Row.line, Row.indentation]

/-- Entries of one line are printed as they are, whether they are all that a schema is
made of or the first of two arguments. -/
theorem render_declaration {name constructor : String} {entries : List String}
    {settings : Option String} (plainName : Lacks '\n' name)
    (plainConstructor : Lacks '\n' constructor) (plain : ∀ entry ∈ entries, Lacks '\n' entry)
    (ended : ∀ entry ∈ entries, IsEnded entry)
    (plainSettings : ∀ text ∈ settings, Lacks '\n' text) :
    Code.render (declaration name constructor entries settings).fragments
      = Code.render [declarationFragment name constructor entries settings] := by
  have braced (level : Nat) {header ending : String} (endedClose : IsEnded ("\x7d" ++ ending)) :
      ∀ line ∈ linesAt level [.braced header (entries.map .line) ending], IsEnded line := by
    rw [linesAt_braced, linesAt_lines, List.forall_mem_append, List.forall_mem_append,
      List.forall_mem_singleton, List.forall_mem_singleton, List.forall_mem_map]
    refine ⟨⟨?_, fun entry isEntry => .append _ (ended entry isEntry)⟩, .append _ endedClose⟩
    exact .append _ (.append _ (.of_last rfl (by decide)))
  have plainLines := arePlain_lines plain
  apply render_ofText
  · cases settings with
    | none => simp [declarationFragment, ArePlain, isPlain_braced, Lacks, plainName,
        plainConstructor, plainLines]
    | some settings =>
        have plainText := plainSettings settings rfl
        simp [declarationFragment, ArePlain, Fragment.IsPlain, isPlain_braced, Lacks, plainName,
          plainConstructor, plainLines, plainText]
  · cases settings with
    | none => exact braced 0 (.of_last rfl (by decide))
    | some settings =>
        rw [linesAt_declarationFragment_some, List.forall_mem_append, List.forall_mem_append,
          List.forall_mem_singleton, List.forall_mem_cons, List.forall_mem_singleton]
        refine ⟨⟨.append _ (.of_last rfl (by decide)), braced 1 (.of_last rfl (by decide))⟩, ?_, ?_⟩
        · exact .append _ (.append _ (.of_last rfl (by decide)))
        · exact .of_last rfl (by decide)

/-- A file declares a schema of these entries, which it prints as they are if each of
them is one line. -/
def DeclaresSchema (entries : List String) (file : SourceFile) : Prop :=
  ∃ name constructor settings,
    declaration name constructor entries settings ∈ file.statements ∧
      ((∀ entry ∈ entries, Lacks '\n' entry) → ∃ front behind, file.render
        = front ++ Code.render [declarationFragment name constructor entries settings] ++ behind)

theorem declaresSchema_of_mem {dialect : Dialect} {collection : Collection} {file : SourceFile}
    {name constructor : String} {settings : Option String} (plainName : Lacks '\n' name)
    (plainConstructor : Lacks '\n' constructor) (plainSettings : ∀ text ∈ settings, Lacks '\n' text)
    (isStatement : declaration name constructor (dialect.entries collection) settings
      ∈ file.statements) :
    DeclaresSchema (dialect.entries collection) file := by
  refine ⟨name, constructor, settings, isStatement, fun plain => ?_⟩
  have ended : ∀ entry ∈ dialect.entries collection, IsEnded entry :=
    List.forall_mem_map.mpr fun field _ => isEnded_entry dialect field
  rw [← render_declaration plainName plainConstructor plain ended plainSettings]
  apply exists_render_section
  rw [SourceFile.sections, List.mem_append, List.mem_append]
  exact .inl (.inr (List.mem_map_of_mem isStatement))

/-! ## Fields -/

/-- A type with alternatives. -/
def IsUnion (type : String) : Prop := ∃ first others, type = first ++ " | " ++ others

theorem isUnion_iff {type : String} : IsUnion type ↔ hasAlternatives type = true := by
  rw [hasAlternatives_iff]
  constructor
  · rintro ⟨first, others, rfl⟩
    exact ⟨first.toList, others.toList, by simp⟩
  · rintro ⟨first, others, equal⟩
    exact ⟨.ofList first, .ofList others, by simp [← String.toList_inj, ← equal]⟩

end Schema

/-- A field for one value of a list. -/
def Field.item (field : Field) : Field := { field with list := false }

namespace Schema

/-- What is declared for a field, on either side. -/
structure Declared where
  member : MemberParts
  options : EntryOptions

def readDeclared? (name member entry : String) : Option Declared :=
  (readMember? name member).bind fun parts => (entryOptions? name entry).map (Declared.mk parts)

/-- Lists of what is declared for an item. Nothing but the types is changed, and the
whole type of the item is the type of each value. -/
structure Declared.IsListOf (list item : Declared) : Prop where
  optional : list.member.isOptional = item.member.isOptional
  options : list.options = { item.options with type := "[" ++ item.options.type ++ "]" }
  union : IsUnion item.member.type → list.member.type = "(" ++ item.member.type ++ ")[]"
  single : ¬ IsUnion item.member.type → list.member.type = item.member.type ++ "[]"

/-- The member and the entry declare the same field. `item` is what they would declare
for one value of it. -/
structure Declared.Matches (declared item : Declared) (field : Field) : Prop where
  optional_iff : declared.member.isOptional = true ↔ declared.options.required = false
  union_iff : IsUnion item.member.type ↔ ∃ target, field.target? = some target
  list : field.list = true → declared.IsListOf item
  single : field.list = false → declared = item

def written (owner : Owner) (dialect : Dialect) (field : Field) : Declared :=
  ⟨⟨!field.required, (owner.memberType field).text⟩, dialect.written field⟩

theorem readDeclared?_written (owner : Owner) (dialect : Dialect) (field : Field) :
    readDeclared? field.name (interfaceMember owner field).text (dialect.entry field)
      = some (written owner dialect field) := by
  have member := readMember?_text (interfaceMember owner field)
  rw [readDeclared?, entryOptions?_entry]
  change readMember? field.name _ = _ at member
  rw [member]
  rfl

theorem isUnion_itemType_iff (owner : Owner) (field : Field) :
    IsUnion (owner.itemType field).text ↔ ∃ target, field.target? = some target := by
  rw [isUnion_iff]
  rcases owner.itemType_cases field with
    ⟨target, isTarget, isItem⟩ | ⟨noTarget, name, single, isItem⟩
  · simp [isItem, isTarget, hasAlternatives_idOr]
  · simp [isItem, noTarget, MemberType.text, hasAlternatives_of_lacks single]

theorem matches_written (owner : Owner) (dialect : Dialect) (field : Field) :
    (written owner dialect field).Matches (written owner dialect field.item) field where
  optional_iff := by simp [written, Dialect.written]
  union_iff := isUnion_itemType_iff owner field
  list := by
    intro isList
    have memberType : (owner.memberType field).text = listType (owner.itemType field).text := by
      rw [Owner.memberType, isList, if_pos rfl, MemberType.text]
    exact {
      optional := rfl
      options := by
        have type : dialect.idToken.fieldType field
            = "[" ++ dialect.idToken.fieldType field.item ++ "]" := by
          rw [IdToken.fieldType, isList, if_pos rfl]
          rfl
        change dialect.written field = _
        rw [Dialect.written, type]
        rfl
      union := fun isUnion => memberType.trans (if_pos (isUnion_iff.mp isUnion))
      single := fun notUnion => memberType.trans (if_neg (notUnion ∘ isUnion_iff.mpr)) }
  single := by
    intro isItem
    have same : field.item = field := by
      rw [Field.item, ← isItem]
    rw [same]

/-- An interface and a schema of the same fields, in their order. -/
structure SameFields (owner : Owner) (dialect : Dialect) (collection : Collection)
    (members entries : List String) : Prop where
  members_length : members.length = collection.declared.length
  entries_length : entries.length = collection.declared.length
  same : ∀ (k : Nat) (field : Field), collection.declared[k]? = some field →
    ∃ member entry declared item, members[k]? = some member ∧ entries[k]? = some entry ∧
      readDeclared? field.name member entry = some declared ∧
      readDeclared? field.name (interfaceMember owner field.item).text (dialect.entry field.item)
        = some item ∧
      declared.Matches item field

theorem sameFields (owner : Owner) (dialect : Dialect) (collection : Collection) :
    SameFields owner dialect collection
      ((interface owner collection).members.map InterfaceMember.text)
      (dialect.entries collection) where
  members_length := by simp [interface]
  entries_length := by simp [Dialect.entries]
  same k field isField := by
    refine ⟨(interfaceMember owner field).text, dialect.entry field, _, _, ?_, ?_,
      readDeclared?_written owner dialect field, readDeclared?_written owner dialect field.item,
      matches_written owner dialect field⟩
    · simp [interface, isField]
    · simp [Dialect.entries, isField]

end Schema

/-! ## The files of a collection -/

namespace Model

theorem declaresSchema (collection : Collection) (language : Language) :
    Schema.DeclaresSchema ((dialect language).entries collection)
      (sourceFile collection language) := by
  have interface : Lacks '\n' (interfaceName collection.label) :=
    lacks_of_isSolid (isSolid_interfaceName collection.label) (by decide)
  have plainSettings : ∀ text ∈ some Schema.timestamps, Lacks '\n' text := by
    simp [Schema.timestamps, Lacks]
  have isStatement :
      declaration collection language ∈ (sourceFile collection language).statements := by
    simp [sourceFile]
  apply Schema.declaresSchema_of_mem _ _ plainSettings isStatement
  · simp [schemaName, Lacks]
  · cases language <;> simp [Lacks, interface]

end Model

namespace StandaloneSchema

theorem declaresSchema (collection : Collection) (moduleSystem : ModuleSystem)
    (language : Language) :
    Schema.DeclaresSchema ((dialect language).entries collection)
      (sourceFile collection moduleSystem language) := by
  have plainName : Lacks '\n' (schemaName collection) := by simp [schemaName, Lacks]
  have noSettings : ∀ text ∈ (none : Option String), Lacks '\n' text := by simp
  cases language with
  | typeScript =>
      have isStatement : declaration collection .typeScript ("Schema<" ++ collection.pascal ++ ">")
          ∈ (typedFile collection).statements := by simp [typedFile]
      exact Schema.declaresSchema_of_mem plainName (by simp [Lacks]) noSettings isStatement
  | javaScript =>
      have isStatement : declaration collection .javaScript "mongoose.Schema"
          ∈ (untypedFile collection moduleSystem).statements := by simp [untypedFile]
      exact Schema.declaresSchema_of_mem plainName (by simp [Lacks]) noSettings isStatement

end StandaloneSchema

namespace Schema

/-- The interface of one file and the schema of another have the same fields. -/
def FilesAgree (owner : Owner) (dialect : Dialect) (collection : Collection)
    (typed file : SourceFile) : Prop :=
  ∃ interface entries, IsInterfaceOf interface typed ∧ DeclaresSchema entries file ∧
    SameFields owner dialect collection (interface.members.map InterfaceMember.text) entries

/-- The interface of a collection agrees with its schema in every language, in a project
of its own and for an existing one. -/
theorem interface_agrees (collection : Collection) (moduleSystem : ModuleSystem)
    (language : Language) :
    FilesAgree (Model.owner collection) (Model.dialect language) collection
        (Model.sourceFile collection .typeScript) (Model.sourceFile collection language) ∧
      FilesAgree (StandaloneSchema.owner collection) (StandaloneSchema.dialect language) collection
        (StandaloneSchema.sourceFile collection moduleSystem .typeScript)
        (StandaloneSchema.sourceFile collection moduleSystem language) := by
  constructor
  · refine ⟨interface (Model.owner collection) collection, _, .of_only rfl, ?_, sameFields ..⟩
    exact Model.declaresSchema collection language
  · refine ⟨interface (StandaloneSchema.owner collection) collection, _, .of_only rfl, ?_,
      sameFields ..⟩
    exact StandaloneSchema.declaresSchema collection moduleSystem language

end Schema

end SchemaScaffold
