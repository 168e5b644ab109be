import Mathlib.Data.List.Basic
import SchemaScaffold.Proofs.Project.Mounts
import SchemaScaffold.Proofs.Project.PlainSources
import SchemaScaffold.StandaloneSchema

/-! The types of documents that a typed file refers to. The members of its
interface name them, and its imports of types bring them in, apart from the
file's own. Both are read back out of what is printed: the members one by one,
since names of fields may hold anything, and the imports in the lines that open
the file. What the file takes from the driver is no type of a document and is
passed over, even if a collection has the same name. -/

namespace SchemaScaffold

open Code

namespace Schema

/-! ## Lists -/

theorem hasAlternatives_iff {type : String} :
    hasAlternatives type = true ↔ " | ".toList <:+: type.toList :=
  Text.isSome_around?_iff

theorem hasAlternatives_idOr (document : String) :
    hasAlternatives (MemberType.idOr document).text = true :=
  hasAlternatives_iff.mpr ⟨idType.toList, document.toList, by simp [MemberType.text]⟩

theorem listType_idOr (document : String) :
    listType (MemberType.idOr document).text = "(" ++ (MemberType.idOr document).text ++ ")[]" :=
  if_pos (hasAlternatives_idOr document)

theorem hasAlternatives_of_lacks {type : String} (single : Lacks ' ' type) :
    hasAlternatives type = false := by
  rw [Bool.eq_false_iff, ne_eq, hasAlternatives_iff]
  intro inside
  exact single (inside.subset (by simp))

theorem listType_of_lacks {type : String} (single : Lacks ' ' type) :
    listType type = type ++ "[]" :=
  if_neg (Bool.eq_false_iff.mp (hasAlternatives_of_lacks single))

end Schema

namespace Code

/-! ## Names on a line -/

/-- The name that a line imports a type under. -/
def importedType? (line : String) : Option String :=
  (after? "import type " line).bind fun rest =>
    match wordsOf rest with
    | ["\x7b", _, "as", name, "\x7d", "from", _] => some name
    | ["\x7b", name, "\x7d", "from", _] => some name
    | _ => none

/-- The type of documents at the end of a member of an interface, where an id can be
instead. -/
def documentName? (member : String) : Option String :=
  match (wordsOf member).reverse with
  | last :: "|" :: "Types.ObjectId" :: _ => before? ";" last
  | last :: "|" :: "(Types.ObjectId" :: _ => before? ")[];" last
  | _ => none

example : documentName? "owners?: (Types.ObjectId | IUser)[];" = some "IUser" := by decide +kernel

theorem typeDeclaration_eq (source binding : String) :
    Import.declaration { source, named := [binding], typeOnly := true }
      = "import type " ++ ("\x7b" ++ " " ++ binding ++ " " ++ "\x7d" ++ " " ++ "from" ++ " "
        ++ ("\"" ++ source ++ "\";")) := by
  simp [Import.declaration, Import.bindings?, nameList, ← String.toList_inj]

theorem importedType?_renamed {source original name : String} (wholeSource : Lacks ' ' source)
    (wholeOriginal : Lacks ' ' original) (whole : Lacks ' ' name) :
    importedType? (Import.declaration
      { source, named := [original ++ " as " ++ name], typeOnly := true }) = some name := by
  have words : original ++ " as " ++ name = original ++ " " ++ "as" ++ " " ++ name := by
    simp [← String.toList_inj]
  have wordsOf_as : wordsOf "as" = ["as"] := wordsOf_of_lacks (by simp [Lacks])
  have wholeQuoted : Lacks ' ' ("\"" ++ source ++ "\";") := by simp [Lacks, wholeSource]
  rw [typeDeclaration_eq, importedType?, after?_append, Option.bind_some, words]
  simp only [wordsOf_append, wordsOf_of_lacks wholeQuoted, wordsOf_of_lacks wholeOriginal,
    wordsOf_of_lacks whole, wordsOf_opening, wordsOf_closing, wordsOf_from, wordsOf_as]
  rfl

theorem importedType?_plain {source name : String} (wholeSource : Lacks ' ' source)
    (whole : Lacks ' ' name) :
    importedType? (Import.declaration { source, named := [name], typeOnly := true })
      = some name := by
  have wholeQuoted : Lacks ' ' ("\"" ++ source ++ "\";") := by simp [Lacks, wholeSource]
  rw [typeDeclaration_eq, importedType?, after?_append, Option.bind_some]
  simp only [wordsOf_append, wordsOf_of_lacks wholeQuoted, wordsOf_of_lacks whole,
    wordsOf_opening, wordsOf_closing, wordsOf_from]
  rfl

/-! ## Members of interfaces -/

/-- A member is a name with its mark, and then its type. -/
theorem InterfaceMember.exists_text_eq (member : InterfaceMember) :
    ∃ front, member.text = (front ++ ":") ++ " " ++ (member.type ++ ";") :=
  ⟨member.name ++ if member.required then "" else "?", by
    simp [InterfaceMember.text, ← String.toList_inj]⟩

theorem exists_wordsOf_colon (front : String) :
    ∃ words word, wordsOf (front ++ ":") = words ++ [word ++ ":"] := by
  have noCut : ∀ c ∈ [':'], (c == ' ') = false := by simp
  rcases Text.exists_last_piece noCut front.toList with ⟨pieces, last, -, split⟩
  refine ⟨pieces.map String.ofList, String.ofList last, ?_⟩
  rw [wordsOf, Text.pieces, String.toList_append]
  change (Text.splitWhere (· == ' ') (front.toList ++ [':'])).map String.ofList = _
  rw [split]
  simp

/-- A type without spaces stands right behind the name, which ends in a colon. -/
theorem documentName?_single {member : InterfaceMember} (whole : Lacks ' ' member.type) :
    documentName? member.text = none := by
  rcases member.exists_text_eq with ⟨front, equal⟩
  rcases exists_wordsOf_colon front with ⟨words, word, split⟩
  have notBar : word ++ ":" ≠ "|" := by
    intro isBar
    have last := congrArg (fun text => text.toList.getLast?) isBar
    simp at last
  have wholeEnd : Lacks ' ' (member.type ++ ";") := by simp [Lacks, whole]
  rw [documentName?, equal, wordsOf_append, split, wordsOf_of_lacks wholeEnd]
  simp [notBar]

theorem wordsOf_bar : wordsOf "|" = ["|"] := wordsOf_of_lacks (by simp [Lacks])

/-- The words of a union, with what stands in front of it and behind it. -/
theorem wordsOf_union {opening name ending : String} (wholeOpening : Lacks ' ' opening)
    (whole : Lacks ' ' name) (wholeEnding : Lacks ' ' ending) :
    wordsOf (opening ++ " | " ++ name ++ ending) = [opening, "|", name ++ ending] := by
  have words : opening ++ " | " ++ name ++ ending
      = opening ++ " " ++ "|" ++ " " ++ (name ++ ending) := by
    simp [← String.toList_inj]
  have wholeEnd : Lacks ' ' (name ++ ending) := whole.append wholeEnding
  rw [words, wordsOf_append, wordsOf_append, wordsOf_of_lacks wholeOpening, wordsOf_bar,
    wordsOf_of_lacks wholeEnd]
  rfl

theorem documentName?_union {member : InterfaceMember} {name : String} (whole : Lacks ' ' name)
    (isUnion : member.type = (Schema.MemberType.idOr name).text) :
    documentName? member.text = some name := by
  rcases member.exists_text_eq with ⟨front, equal⟩
  have words : wordsOf (member.type ++ ";") = ["Types.ObjectId", "|", name ++ ";"] := by
    rw [isUnion]
    exact wordsOf_union (by decide) whole (by decide)
  rw [documentName?, equal, wordsOf_append, words]
  simp

theorem documentName?_unionList {member : InterfaceMember} {name : String} (whole : Lacks ' ' name)
    (isList : member.type = (Schema.MemberType.listOf (.idOr name)).text) :
    documentName? member.text = some name := by
  rcases member.exists_text_eq with ⟨front, equal⟩
  have parts : member.type ++ ";" = "(Types.ObjectId" ++ " | " ++ name ++ ")[];" := by
    rw [isList, Schema.MemberType.text, Schema.listType_idOr]
    simp [Schema.MemberType.text, Schema.idType, ← String.toList_inj]
  have words : wordsOf (member.type ++ ";") = ["(Types.ObjectId", "|", name ++ ")[];"] := by
    rw [parts]
    exact wordsOf_union (by decide) whole (by decide)
  rw [documentName?, equal, wordsOf_append, words]
  simp

end Code

namespace Schema

/-! ## Targets -/

/-- The labels that the declared fields refer to, in their order. -/
def targets (collection : Collection) : List String := collection.declared.filterMap Field.target?

/-- A collection refers to a label that is made into its own name. -/
def RefersToItself (collection : Collection) : Prop :=
  ∃ target ∈ targets collection, Naming.pascal target = collection.pascal

/-- The capitalized names of the other collections, where each is referred to first. -/
def foreignNames (collection : Collection) : List String :=
  (((targets collection).map Naming.pascal).filter (· != collection.pascal)).eraseDups

/-- The targets that are added have the names that are new. -/
theorem map_pascal_foldl_addTarget (own : String) (added seen : List String) :
    (added.foldl (addTarget own) seen).map Naming.pascal
      = ((added.map Naming.pascal).filter (· != own)).foldl
          (fun names name => if names.contains name then names else names ++ [name])
          (seen.map Naming.pascal) := by
  induction added generalizing seen with
  | nil => rfl
  | cons target rest induction =>
      rw [List.foldl_cons, induction, List.map_cons]
      cases isOwn : Naming.pascal target == own with
      | true => simp [addTarget, isOwn, bne]
      | false =>
          have added : (addTarget own seen target).map Naming.pascal
              = if (seen.map Naming.pascal).contains (Naming.pascal target) then
                  seen.map Naming.pascal
                else seen.map Naming.pascal ++ [Naming.pascal target] := by
            simp only [addTarget, isOwn, Bool.false_or]
            split
            · rfl
            · exact List.map_append
          rw [List.filter_cons_of_pos (by simp [bne, isOwn]), List.foldl_cons, added]

theorem map_pascal_foreignTargets (collection : Collection) :
    (foreignTargets collection).map Naming.pascal = foreignNames collection := by
  have allNew (names : List String) :
      names.filter (fun name => !([] : List String).contains name) = names :=
    List.filter_eq_self.mpr fun _ _ => rfl
  rw [foreignTargets, map_pascal_foldl_addTarget, List.map_nil, Project.foldl_add_new, allNew,
    List.nil_append]
  rfl

theorem mem_foreignNames {collection : Collection} {name : String} :
    name ∈ foreignNames collection ↔
      name ≠ collection.pascal ∧ ∃ target ∈ targets collection, Naming.pascal target = name := by
  simp [foreignNames, List.mem_eraseDups, and_comm]

/-! ## Interfaces -/

variable {owner : Owner} {collection : Collection}

/-- Only a reference with a target has a union for its items. -/
theorem Owner.itemType_cases (owner : Owner) (field : Field) :
    (∃ target, field.target? = some target ∧
        owner.itemType field = .idOr (owner.documentType target)) ∨
      field.target? = none ∧ ∃ name, Lacks ' ' name ∧ owner.itemType field = .named name := by
  rw [Field.target?, itemType]
  cases isKind : field.kind with
  | ref =>
      simp only [Field.target?, isKind, beq_self_eq_true, if_true]
      cases field.reference with
      | some target => exact .inl ⟨target, rfl, rfl⟩
      | none => exact .inr ⟨rfl, idType, by decide, rfl⟩
  | _ => exact .inr ⟨rfl, _, by decide, rfl⟩

/-- What is read from a member is the type of the documents that its field refers
to. -/
theorem documentName?_interfaceMember (whole : ∀ target, Lacks ' ' (owner.documentType target))
    (field : Field) :
    documentName? (interfaceMember owner field).text = field.target?.map owner.documentType := by
  have isType : (interfaceMember owner field).type = (owner.memberType field).text := rfl
  rw [Owner.memberType] at isType
  rcases owner.itemType_cases field with ⟨target, isTarget, isItem⟩ | ⟨noTarget, name, single, isItem⟩
  · rw [isTarget, Option.map_some]
    rw [isItem] at isType
    cases isList : field.list with
    | true => exact documentName?_unionList (whole target) (by simpa [isList] using isType)
    | false => exact documentName?_union (whole target) (by simpa [isList] using isType)
  · rw [noTarget, Option.map_none]
    rw [isItem] at isType
    apply documentName?_single
    rw [isType]
    cases field.list <;> simp [MemberType.text, listType_of_lacks single, Lacks, single]

/-- The types of documents that the members of an interface name. -/
def documentNames (interface : Interface) : List String :=
  interface.members.filterMap fun member => documentName? member.text

theorem documentNames_interface (whole : ∀ target, Lacks ' ' (owner.documentType target)) :
    documentNames (interface owner collection)
      = (targets collection).map owner.documentType := by
  rw [documentNames, interface, List.filterMap_map, targets, List.map_filterMap]
  exact List.filterMap_congr fun field _ => documentName?_interfaceMember whole field

/-! ## Files -/

/-- The types that a file imports, by the names that it gives them. -/
def importedTypes (content : String) : List String :=
  (openingLines content).filterMap importedType?

def interfacesOf (file : SourceFile) : List Interface :=
  file.statements.filterMap fun statement =>
    match statement with
    | .interface interface => some interface
    | _ => none

/-- The only interface that a file declares, as it is printed. -/
structure IsInterfaceOf (interface : Interface) (file : SourceFile) : Prop where
  only : interfacesOf file = [interface]
  printed : ∃ front behind, file.render = front ++ Code.render interface.fragments ++ behind

theorem IsInterfaceOf.of_only {interface : Interface} {file : SourceFile}
    (only : interfacesOf file = [interface]) : IsInterfaceOf interface file where
  only := only
  printed := by
    have isOne : interface ∈ interfacesOf file := by simp [only]
    rcases List.mem_filterMap.mp isOne with ⟨statement, isStatement, isInterface⟩
    split at isInterface
    · cases isInterface
      apply exists_render_section
      rw [SourceFile.sections, List.mem_append, List.mem_append]
      exact .inl (.inr (List.mem_map_of_mem isStatement))
    · cases isInterface

/-- The types that an interface names are those that its file imports, and its own
where the collection refers to itself. -/
structure TypesAgree (collection : Collection) (interface : Interface) (content : String) :
    Prop where
  named_iff : ∀ name, name ∈ documentNames interface ↔
    name ∈ importedTypes content ∨ name = interface.name ∧ RefersToItself collection
  distinct : (importedTypes content).Nodup
  foreign : collection.pascal ∉ importedTypes content
  /-- The imports are in the order in which their targets are first referred to. -/
  ordered : importedTypes content = foreignNames collection

theorem Owner.documentType_own {target : String} (named : owner.pascal ≠ "")
    (own : Naming.pascal target = owner.pascal) : owner.documentType target = owner.typeName := by
  simp [documentType, owns, named, own]

theorem Owner.documentType_foreign {target : String} (foreign : Naming.pascal target ≠ owner.pascal) :
    owner.documentType target = Naming.pascal target := by
  simp [documentType, owns, foreign]

theorem lacks_pascal_space (label : String) : Lacks ' ' (Naming.pascal label) :=
  lacks_of_isSolid (Naming.isSolid_pascal label) (by decide)

/-- Types agree in a file that imports the foreign targets, if its interface has a name
of its own for the documents of the collection. -/
theorem typesAgree_of_imported (isOwner : owner.pascal = collection.pascal)
    (named : collection.pascal ≠ "") (whole : Lacks ' ' owner.typeName) {content : String}
    (imported : importedTypes content = foreignNames collection) :
    TypesAgree collection (interface owner collection) content where
  named_iff := by
    rw [← isOwner] at named
    have wholeType (target : String) : Lacks ' ' (owner.documentType target) := by
      rw [Owner.documentType]
      split
      · exact whole
      · exact lacks_pascal_space target
    intro name
    rw [documentNames_interface wholeType, imported, mem_foreignNames, ← isOwner, List.mem_map]
    constructor
    · rintro ⟨target, isTarget, rfl⟩
      by_cases own : Naming.pascal target = owner.pascal
      · exact .inr ⟨Owner.documentType_own named own, target, isTarget, own.trans isOwner⟩
      · rw [Owner.documentType_foreign own]
        exact .inl ⟨own, target, isTarget, rfl⟩
    · rintro (⟨foreign, target, isTarget, rfl⟩ | ⟨rfl, target, isTarget, own⟩)
      · exact ⟨target, isTarget, Owner.documentType_foreign foreign⟩
      · exact ⟨target, isTarget, Owner.documentType_own named (own.trans isOwner.symm)⟩
  distinct := by
    rw [imported]
    exact Project.nodup_eraseDups _
  foreign := by
    rw [imported, mem_foreignNames]
    exact fun isForeign => isForeign.1 rfl
  ordered := imported

/-- An import that is printed on a line of its own, from which this type is read. -/
structure PrintsType (statement : Import) (type : Option String) : Prop where
  declared : statement.moduleSystem = .esModule
  plain : Lacks '\n' statement.declaration
  some : statement.declaration ≠ ""
  read : importedType? statement.declaration = type

theorem PrintsType.lines_eq {statement : Import} {type : Option String}
    (prints : PrintsType statement type) : statement.lines = [statement.declaration] := by
  rw [Import.lines, prints.declared]

/-- A file opens with the import of the driver, and then with those of types. -/
theorem importedTypes_render {file : SourceFile} {driver : Import} {typeImport : String → Import}
    (imports : file.imports = driver :: (foreignTargets collection).map typeImport)
    (isDriver : PrintsType driver none)
    (isType : ∀ target, PrintsType (typeImport target) (some (Naming.pascal target))) :
    importedTypes file.render = foreignNames collection := by
  have lines : file.imports.flatMap Import.lines
      = driver.declaration
        :: (foreignTargets collection).map fun target => (typeImport target).declaration := by
    rw [imports, List.flatMap_cons, isDriver.lines_eq, List.singleton_append, List.flatMap_map,
      List.map_eq_flatMap]
    simp only [(isType _).lines_eq]
  have opening : openingLines file.render = file.imports.flatMap Import.lines := by
    apply openingLines_render (by simp [imports])
    rw [lines, List.forall_mem_cons, List.forall_mem_map]
    exact ⟨⟨isDriver.plain, isDriver.some⟩, fun target _ =>
      ⟨(isType target).plain, (isType target).some⟩⟩
  rw [importedTypes, opening, lines, List.filterMap_cons_none isDriver.read, List.filterMap_map,
    ← map_pascal_foreignTargets, ← List.filterMap_eq_map]
  exact List.filterMap_congr fun target _ => (isType target).read

theorem printsType_named {source binding : String} {type : Option String}
    (plainSource : Lacks '\n' source) (plain : Lacks '\n' binding)
    (read : importedType? (Import.declaration { source, named := [binding], typeOnly := true })
      = type) :
    PrintsType { source, named := [binding], typeOnly := true } type where
  declared := rfl
  plain := by simp [typeDeclaration_eq, Lacks, plainSource, plain]
  some := by
    rw [typeDeclaration_eq]
    intro isEmpty
    have lengths := congrArg (fun text => text.toList.length) isEmpty
    simp at lengths
  read := read

end Schema

/-! ## The typed files of a collection -/

namespace Model

theorem isSolid_interfaceName (label : String) : Text.IsSolid (interfaceName label) :=
  Text.IsSolid.append (.of_all (by decide)) (Naming.isSolid_pascal label)

theorem printsType_typeImport (target : String) :
    Schema.PrintsType (typeImport target) (some (Naming.pascal target)) := by
  have source : Text.IsSolid ("./" ++ Naming.camel target ++ ".model.js") :=
    (Text.IsSolid.append (.of_all (by decide)) (Naming.isSolid_camel target)).append
      (.of_all (by decide))
  have interface := isSolid_interfaceName target
  have pascal := Naming.isSolid_pascal target
  apply Schema.printsType_named (lacks_of_isSolid source (by decide))
  · have plainInterface : Lacks '\n' (interfaceName target) :=
      lacks_of_isSolid interface (by decide)
    have plainPascal : Lacks '\n' (Naming.pascal target) := lacks_of_isSolid pascal (by decide)
    simp [Lacks, plainInterface, plainPascal]
  · exact importedType?_renamed (lacks_of_isSolid source (by decide))
      (lacks_of_isSolid interface (by decide)) (lacks_of_isSolid pascal (by decide))

theorem importedTypes_artifact (collection : Collection) :
    Schema.importedTypes (artifact collection .typeScript).content
      = Schema.foreignNames collection := by
  have driver : Schema.PrintsType
      { source := "mongoose", named := ["Schema", "model", "Document", "Types"] } none :=
    ⟨rfl, by decide, by decide, by decide +kernel⟩
  exact Schema.importedTypes_render rfl driver printsType_typeImport

end Model

namespace StandaloneSchema

theorem printsType_typeImport (target : String) :
    Schema.PrintsType (typeImport target) (some (Naming.pascal target)) := by
  have source : Text.IsSolid ("./" ++ Naming.pascal target ++ ".js") :=
    (Text.IsSolid.append (.of_all (by decide)) (Naming.isSolid_pascal target)).append
      (.of_all (by decide))
  have pascal := Naming.isSolid_pascal target
  exact Schema.printsType_named (lacks_of_isSolid source (by decide))
    (lacks_of_isSolid pascal (by decide))
    (importedType?_plain (lacks_of_isSolid source (by decide))
      (lacks_of_isSolid pascal (by decide)))

theorem importedTypes_artifact (collection : Collection) (moduleSystem : ModuleSystem) :
    Schema.importedTypes (artifact collection moduleSystem .typeScript).content
      = Schema.foreignNames collection := by
  have driver : Schema.PrintsType
      { source := "mongoose", default := some "mongoose",
        named := ["Document", "Schema", "Types"] } none :=
    ⟨rfl, by decide, by decide, by decide +kernel⟩
  exact Schema.importedTypes_render rfl driver printsType_typeImport

end StandaloneSchema

namespace Schema

/-- In both typed files of a collection that has a name, the interface and the imports
agree on the types that are referred to. -/
theorem types_agree {collection : Collection} (named : collection.pascal ≠ "")
    (moduleSystem : ModuleSystem) :
    (∃ interface,
      IsInterfaceOf interface (Model.sourceFile collection .typeScript) ∧
      interface.name = Model.interfaceName collection.label ∧
      TypesAgree collection interface (Model.artifact collection .typeScript).content) ∧
    ∃ interface,
      IsInterfaceOf interface (StandaloneSchema.sourceFile collection moduleSystem .typeScript) ∧
      interface.name = collection.pascal ∧
      TypesAgree collection interface
        (StandaloneSchema.artifact collection moduleSystem .typeScript).content := by
  have modelOwner : (Model.owner collection).pascal = collection.pascal := rfl
  have standaloneOwner : (StandaloneSchema.owner collection).pascal = collection.pascal := rfl
  have wholeInterface : Lacks ' ' (Model.owner collection).typeName :=
    lacks_of_isSolid (Model.isSolid_interfaceName _) (by decide)
  have wholePascal : Lacks ' ' (StandaloneSchema.owner collection).typeName :=
    lacks_pascal_space collection.label
  constructor
  · refine ⟨interface (Model.owner collection) collection, .of_only rfl, rfl, ?_⟩
    exact typesAgree_of_imported modelOwner named wholeInterface
      (Model.importedTypes_artifact collection)
  · refine ⟨interface (StandaloneSchema.owner collection) collection, .of_only rfl, rfl, ?_⟩
    exact typesAgree_of_imported standaloneOwner named wholePascal
      (StandaloneSchema.importedTypes_artifact collection moduleSystem)

/-- Two spellings of one target, and a reference of the collection to itself. -/
def teamUser : Collection :=
  ⟨"user",
    [{ name := "team", typeTag := "ref", reference := some "Team" },
     { name := "manager", typeTag := "ref", reference := some "User" },
     { name := "roles", typeTag := "ref", list := true, reference := some "access role" },
     { name := "backup", typeTag := "ref", reference := some "team" }]⟩

theorem types_agree_teamUser :
    teamUser.pascal ≠ "" ∧
      importedTypes (Model.artifact teamUser .typeScript).content = ["Team", "AccessRole"] ∧
      ∃ interface, IsInterfaceOf interface (Model.sourceFile teamUser .typeScript) ∧
        "IUser" ∈ documentNames interface := by
  have named : teamUser.pascal ≠ "" := by decide +kernel
  have names : foreignNames teamUser = ["Team", "AccessRole"] := by decide +kernel
  have ownName : Model.interfaceName teamUser.label = "IUser" := by decide +kernel
  have refers : RefersToItself teamUser := ⟨"User", by decide +kernel, by decide +kernel⟩
  obtain ⟨⟨interface, isInterface, isName, agree⟩, -⟩ := types_agree named .esModule
  refine ⟨named, agree.ordered.trans names, interface, isInterface, ?_⟩
  exact (agree.named_iff _).mpr (.inr ⟨(isName.trans ownName).symm, refers⟩)

end Schema

end SchemaScaffold
