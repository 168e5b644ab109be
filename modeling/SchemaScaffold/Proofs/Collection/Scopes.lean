import SchemaScaffold.Proofs.Code.Texts
import SchemaScaffold.Proofs.Controller.Scopes
import SchemaScaffold.Proofs.Schema.TypeReferences

/-! The names that the files of a collection declare. Those of a model stand in its
imports and on the first lines of its statements, since no statement of a model has
documentation in front. The other lines may hold anything: names of fields are not
restricted. -/

namespace SchemaScaffold

open Code

namespace Code

/-! ## Names on a line -/

/-- The names that a line imports, under the names they get. -/
def importedNames (line : String) : List String :=
  match readImport? line with
  | some statement => statement.default.toList ++ statement.named
  | none => (importedType? line).toList

/-- The constants that a line declares: one, or several that are taken out of a value. -/
def constantNames (line : String) : List String :=
  match (after? "const " line).map wordsOf with
  | some ("\x7b" :: words) => itemsOf (words.takeWhile (· != "\x7d"))
  | some (name :: _) => [name]
  | _ => []

def namesOn (line : String) : List String :=
  importedNames line ++ (exportedName? line).toList ++ constantNames line

theorem importedNames_eq_nil {line : String} (notImport : ¬ "import ".toList <+: line.toList) :
    importedNames line = [] := by
  have notType : ¬ "import type ".toList <+: line.toList := fun starts =>
    notImport ((by decide : "import ".toList <+: "import type ".toList).trans starts)
  rw [importedNames, readImport?_eq_none notImport, importedType?, after?_eq_none notType]
  rfl

theorem constantNames_eq_nil {line : String} (notConstant : ¬ "const ".toList <+: line.toList) :
    constantNames line = [] := by
  rw [constantNames, after?_eq_none notConstant]
  rfl

/-- A line that starts like no declaration. -/
theorem namesOn_eq_nil {line : String} {first : Char} {rest : List Char}
    (literal : line = String.ofList (first :: rest)) (other : first ∉ ['i', 'e', 'c']) :
    namesOn line = [] := by
  have different : 'i' ≠ first ∧ 'e' ≠ first ∧ 'c' ≠ first := by simpa [eq_comm] using other
  rcases different with ⟨notImport, notExport, notConstant⟩
  rw [namesOn, importedNames_eq_nil (by simp [literal, notImport]),
    exportedName?_eq_none (by simp [literal, notExport]),
    constantNames_eq_nil (by simp [literal, notConstant])]
  rfl

theorem namesOn_import {statement : Import} (solid : IsSolidImport statement) :
    namesOn statement.declaration = statement.default.toList ++ statement.named := by
  rcases solid.exists_declaration_eq with ⟨rest, declared⟩
  rw [namesOn, importedNames, solid.readImport?_declaration, declared,
    exportedName?_eq_none (by simp), constantNames_eq_nil (by simp), Option.toList_none,
    List.append_nil, List.append_nil]

theorem namesOn_exported {name : String} (whole : Lacks ' ' name) (rest : String) :
    namesOn ("export const " ++ name ++ " " ++ rest) = [name] := by
  rw [namesOn, importedNames_eq_nil (by simp), constantNames_eq_nil (by simp),
    exportedName?_declared whole]
  rfl

theorem namesOn_constant {name : String} (whole : Lacks ' ' name) (notBrace : name ≠ "\x7b")
    (rest : String) : namesOn ("const " ++ name ++ " " ++ rest) = [name] := by
  have words : wordsOf (name ++ " " ++ rest) = name :: wordsOf rest := by
    rw [wordsOf_append, wordsOf_of_lacks whole, List.singleton_append]
  rw [namesOn, importedNames_eq_nil (by simp), exportedName?_eq_none (by simp), constantNames,
    String.append_assoc, String.append_assoc, after?_append, Option.map_some, ← String.append_assoc,
    words]
  simp

/-- A constant that is taken out of a value. -/
theorem namesOn_taken {name : String} (whole : Lacks ' ' name) (notBrace : name ≠ "\x7d")
    (value : String) :
    namesOn ("const " ++ ("\x7b" ++ " " ++ name ++ " " ++ "\x7d" ++ " " ++ value)) = [name] := by
  rw [namesOn, importedNames_eq_nil (by simp), exportedName?_eq_none (by simp), constantNames,
    after?_append, Option.map_some]
  simp only [wordsOf_append, wordsOf_of_lacks whole, wordsOf_opening, wordsOf_closing,
    List.cons_append, List.nil_append]
  have names : (name :: "\x7d" :: wordsOf value).takeWhile (· != "\x7d") = [name] := by
    rw [List.takeWhile_cons_of_pos (by simpa using notBrace), List.takeWhile_cons_of_neg (by simp)]
  rw [names]
  rfl

theorem Interface.header_eq (interface : Interface) :
    interface.header = "export interface " ++ interface.name
      ++ interface.parent.elim "" (" extends " ++ ·) ++ " " := by
  rcases interface with ⟨name, _ | parent, members⟩ <;> rfl

theorem namesOn_interface (interface : Interface) (rest : String) :
    namesOn (interface.header ++ rest) = [] := by
  rw [Interface.header_eq, String.append_assoc, String.append_assoc, String.append_assoc, namesOn,
    importedNames_eq_nil (by simp), exportedName?_eq_none (by simp), constantNames_eq_nil (by simp)]
  rfl

theorem lacks_header {interface : Interface} (name : Lacks '\n' interface.name)
    (parent : ∀ parent ∈ interface.parent, Lacks '\n' parent) : Lacks '\n' interface.header := by
  have parent : Lacks '\n' (interface.parent.elim "" (" extends " ++ ·)) := by
    cases isParent : interface.parent with
    | none => simp [Lacks]
    | some other => simp [Lacks, parent other isParent]
  rw [Interface.header_eq]
  simp [Lacks, name, parent]

/-- A type counts under the name that it gets. -/
theorem namesOn_typeImport {source binding name : String}
    (read : importedType? (Import.declaration { source, named := [binding], typeOnly := true })
      = some name) :
    namesOn (Import.declaration { source, named := [binding], typeOnly := true }) = [name] := by
  have parts : Import.declaration { source, named := [binding], typeOnly := true }
      = "import " ++ ("type" ++ " " ++ "\x7b" ++ " " ++ (binding ++ " \x7d from \"" ++ source ++ "\";")) := by
    simp [typeDeclaration_eq, ← String.toList_inj]
  have wordsOf_type : wordsOf "type" = ["type"] := wordsOf_of_lacks (by simp [Lacks])
  have noImport : readImport? (Import.declaration { source, named := [binding], typeOnly := true })
      = none := by
    rw [parts, readImport?, after?_append, Option.bind_some, wordsOf_append, wordsOf_append,
      wordsOf_type, wordsOf_opening]
    simp
  rw [namesOn, importedNames, noImport, read, parts, exportedName?_eq_none (by simp),
    constantNames_eq_nil (by simp)]
  rfl

/-! ## First lines -/

def firstLine? (fragments : List Fragment) : Option String := (linesIn fragments).head?

theorem firstLine?_of_rows {fragments : List Fragment} {text : String} (plain : Lacks '\n' text)
    {rows : List Row} (starts : rowsOf 0 fragments = .text 0 text :: rows) :
    firstLine? fragments = some text := by
  rw [firstLine?, linesIn, starts, List.flatMap_cons, Row.line_atStart, linesOf, plain.pieces_eq]
  rfl

theorem firstLine?_line {text : String} (plain : Lacks '\n' text) (rest : List Fragment) :
    firstLine? (.line text :: rest) = some text :=
  firstLine?_of_rows plain rfl

theorem firstLine?_block {header : String} (plain : Lacks '\n' header) (body : List Fragment)
    (close : Option String) : firstLine? [.block header body close] = some header :=
  firstLine?_of_rows plain rfl

/-- A text is cut into lines, the first of which has something on it. -/
theorem firstLine?_ofText {first : String} (plain : Lacks '\n' first) (ended : IsEnded first)
    (rest : String) : firstLine? (Fragment.ofText (first ++ "\n" ++ rest)) = some first := by
  have parts : (first ++ "\n" ++ rest).toList = first.toList ++ '\n' :: rest.toList := by simp
  rw [Fragment.ofText, parts, lines_ended plain, List.map_cons,
    dropReturn_of_getLast? ended.noReturn, ofLine_of_visible ended.all_isBlank_eq_false]
  exact firstLine?_line plain _

theorem linesIn_imports {statements : List Import}
    (printed : ∀ statement ∈ statements,
      statement.moduleSystem = .esModule ∧ Lacks '\n' statement.declaration) :
    linesIn (statements.flatMap Import.fragments) = statements.map Import.declaration := by
  induction statements with
  | nil => rfl
  | cons statement rest induction =>
      rw [List.forall_mem_cons] at printed
      have single : linesIn statement.fragments = [statement.declaration] := by
        rw [Import.fragments, Import.lines, printed.1.1, linesIn]
        simp [rowsOf, Fragment.rows, Row.line_atStart, linesOf, printed.1.2.pieces_eq]
      rw [List.flatMap_cons, linesIn_append, single, induction printed.2]
      rfl

end Code

/-! ## Models -/

namespace Model

/-- The lines of the imports, and the first line of each statement. -/
def openings (file : SourceFile) : List String :=
  linesIn (file.imports.flatMap Import.fragments)
    ++ file.statements.filterMap fun statement => firstLine? statement.fragments

/-- The names that are declared at the outermost level. -/
def moduleNames (file : SourceFile) : List String := (openings file).flatMap namesOn

def driverImport : Language → Import
  | .javaScript => { source := "mongoose", default := some "mongoose" }
  | .typeScript => { source := "mongoose", named := ["Schema", "model", "Document", "Types"] }

/-- What every model takes from the driver. -/
def driverNames : Language → List String
  | .javaScript => ["mongoose", "Schema"]
  | .typeScript => ["Schema", "model", "Document", "Types"]

/-- The names of other collections that a model declares. -/
def typeNames (collection : Collection) : Language → List String
  | .javaScript => []
  | .typeScript => Schema.foreignNames collection

variable (collection : Collection) (language : Language)

theorem lacks_interfaceName : Lacks '\n' (interfaceName collection.label) :=
  lacks_of_isSolid (isSolid_interfaceName collection.label) (by decide)

/-- The first line declares these names. -/
def OpensWith (fragments : List Fragment) (names : List String) : Prop :=
  ∃ line, firstLine? fragments = some line ∧ namesOn line = names

theorem OpensWith.of_interface {interface : Interface} (plain : Lacks '\n' interface.header) :
    OpensWith interface.fragments [] := by
  rw [Interface.fragments]
  split
  · exact ⟨_, firstLine?_line (plain.append (by simp [Lacks])) [], namesOn_interface interface _⟩
  · exact ⟨_, firstLine?_block (plain.append (by simp [Lacks])) _ _, namesOn_interface interface _⟩

/-- The constant of the driver, in sources without types. -/
def preambleNames : Language → List String
  | .typeScript => []
  | .javaScript => ["Schema"]

theorem opensWith_preamble :
    OpensWith (preamble collection language).fragments (preambleNames language) := by
  cases language with
  | javaScript =>
      have parts : "const \x7b Schema \x7d = mongoose;"
          = "const " ++ ("\x7b" ++ " " ++ "Schema" ++ " " ++ "\x7d" ++ " " ++ "= mongoose;") := by
        simp
      refine ⟨"const \x7b Schema \x7d = mongoose;", firstLine?_line (.of_literal rfl rfl) [], ?_⟩
      rw [parts]
      exact namesOn_taken (by simp [Lacks]) (by simp) "= mongoose;"
  | typeScript =>
      refine .of_interface (lacks_header (lacks_interfaceName collection) fun parent isParent => ?_)
      rw [Option.mem_some.mp isParent |>.symm]
      simp [Lacks]

theorem firstLine?_declaration {name constructor : String} (plainName : Lacks '\n' name)
    (plainConstructor : Lacks '\n' constructor) (entries : List String) (settings : String) :
    firstLine? (Schema.declaration name constructor entries (some settings)).fragments
      = some ("const " ++ name ++ " = new " ++ constructor ++ "(") := by
  let header := "const " ++ name ++ " = new " ++ constructor ++ "("
  have plain : Lacks '\n' header := by simp [header, Lacks, plainName, plainConstructor]
  have ends : header.toList.getLast? = some '(' := by
    rw [String.toList_append]
    exact List.getLast?_concat
  have printed : ∃ rest, Code.render [Schema.declarationFragment name constructor entries
      (some settings)] = header ++ "\n" ++ rest := by
    rw [render_eq_join, linesAt, Schema.declarationFragment, rowsOf, Fragment.rows, List.cons_append,
      List.cons_append, List.map_cons, List.map_cons, String.join_cons, Row.line_atStart]
    exact ⟨_, rfl⟩
  rcases printed with ⟨rest, printed⟩
  have text : (Schema.declaration name constructor entries (some settings)).fragments
      = Fragment.ofText (header ++ "\n" ++ rest) :=
    congrArg Fragment.ofText printed
  rw [text]
  exact firstLine?_ofText plain (.of_last ends (by decide)) rest

theorem isSolid_schemaName : Text.IsSolid (schemaName collection) :=
  (Naming.isSolid_pascal collection.label).append (.of_all (by decide))

theorem opensWith_declaration :
    OpensWith (declaration collection language).fragments [schemaName collection] := by
  have solid : Text.IsSolid (schemaName collection) := isSolid_schemaName collection
  have notBrace : schemaName collection ≠ "\x7b" := by
    intro equal
    have last := congrArg (fun text => text.toList.getLast?) equal
    simp [schemaName] at last
  have opens {constructor : String} (plain : Lacks '\n' constructor) (entries : List String) :
      OpensWith (Schema.declaration (schemaName collection) constructor entries
        (some Schema.timestamps)).fragments [schemaName collection] := by
    refine ⟨_, firstLine?_declaration (lacks_of_isSolid solid (by decide)) plain _ _, ?_⟩
    have parts : "const " ++ schemaName collection ++ " = new " ++ constructor ++ "("
        = "const " ++ schemaName collection ++ " " ++ ("= new " ++ constructor ++ "(") := by
      simp [← String.toList_inj]
    rw [parts]
    exact namesOn_constant (lacks_of_isSolid solid (by decide)) notBrace _
  cases language with
  | javaScript => exact opens (by simp [Lacks]) _
  | typeScript => exact opens (by simp [Lacks, lacks_interfaceName collection]) _

theorem opensWith_hook :
    OpensWith (Schema.hook (schemaName collection) collection language.isTyped) [] :=
  ⟨_, firstLine?_line (.of_literal rfl rfl) _, namesOn_eq_nil rfl (by decide)⟩

theorem opensWith_constant {name value : String} (solid : Text.IsSolid name)
    (plainValue : Lacks '\n' value) (some : value ≠ "") :
    OpensWith (Constant.fragments { name, value, exported := true }) [name] := by
  have plainName : Lacks '\n' name := lacks_of_isSolid solid (by decide)
  have fragments : Constant.fragments { name, value, exported := true }
      = [.line ("export const " ++ name ++ " " ++ ("= " ++ value ++ ";"))] := by
    have parts : Constant.head { name, value, exported := true } value ++ ";"
        = "export const " ++ name ++ " " ++ ("= " ++ value ++ ";") := by
      simp [Constant.head, exportWord, annotated, ← String.toList_inj]
    rw [Constant.fragments, Constant.lines, lines_of_plain plainValue some]
    exact congrArg (fun line => [Fragment.line line]) parts
  rw [fragments]
  exact ⟨_, firstLine?_line (by simp [Lacks, plainName, plainValue]) [],
    namesOn_exported (lacks_of_isSolid solid (by decide)) _⟩

theorem isSolid_driverImport : IsSolidImport (driverImport language) := by
  have source : Text.IsSolid "mongoose" := .of_all (by decide)
  cases language with
  | javaScript => exact .default source (by decide) source
  | typeScript =>
      refine .named (List.cons_ne_nil _ _) ?_ source
      simp only [List.forall_mem_cons]
      exact ⟨.of_all (by decide), .of_all (by decide), .of_all (by decide), .of_all (by decide),
        List.forall_mem_nil _⟩

theorem namesOn_imports :
    (linesIn ((imports collection language).flatMap Import.fragments)).flatMap namesOn
      = (driverImport language).default.toList ++ (driverImport language).named
        ++ typeNames collection language := by
  obtain ⟨targets, isImports, areNames⟩ : ∃ targets : List String,
      imports collection language = driverImport language :: targets.map typeImport ∧
        targets.map Naming.pascal = typeNames collection language := by
    cases language with
    | javaScript => exact ⟨[], rfl, rfl⟩
    | typeScript => exact ⟨_, rfl, Schema.map_pascal_foreignTargets collection⟩
  have driver : IsSolidImport (driverImport language) := isSolid_driverImport language
  have printed : ∀ statement ∈ driverImport language :: targets.map typeImport,
      statement.moduleSystem = .esModule ∧ Lacks '\n' statement.declaration := by
    refine List.forall_mem_cons.mpr ⟨⟨driver.isDeclared, driver.lacks_declaration⟩, ?_⟩
    exact List.forall_mem_map.mpr fun target _ => ⟨rfl, (printsType_typeImport target).plain⟩
  have types : ((targets.map typeImport).map Import.declaration).flatMap namesOn
      = targets.map Naming.pascal := by
    clear isImports areNames printed
    induction targets with
    | nil => rfl
    | cons target rest induction =>
        rw [List.map_cons, List.map_cons, List.flatMap_cons, induction, typeImport,
          namesOn_typeImport (printsType_typeImport target).read]
        rfl
  rw [isImports, linesIn_imports printed, List.map_cons, List.flatMap_cons, types, areNames,
    namesOn_import driver]

theorem moduleNames_sourceFile :
    moduleNames (sourceFile collection language)
      = driverNames language ++ typeNames collection language
        ++ [schemaName collection, collection.pascal] := by
  obtain ⟨preambleLine, isPreamble, preambleNames⟩ := opensWith_preamble collection language
  obtain ⟨declarationLine, isDeclaration, declarationNames⟩ :=
    opensWith_declaration collection language
  obtain ⟨hookLine, isHook, hookNames⟩ := opensWith_hook collection language
  obtain ⟨modelLine, isModel, modelNames⟩ :=
    opensWith_constant (Naming.isSolid_pascal collection.label)
      (lacks_registration collection language) (registration_ne_empty collection language)
  have statements : ((sourceFile collection language).statements.filterMap fun statement =>
        firstLine? statement.fragments)
      = [preambleLine, declarationLine, hookLine, modelLine] := by
    simp only [sourceFile, List.filterMap_cons, List.filterMap_nil, isPreamble, isDeclaration]
    simp only [Statement.fragments, isHook, Collection.pascal, isModel]
  rw [moduleNames, openings, List.flatMap_append, statements, sourceFile, namesOn_imports]
  simp only [List.flatMap_cons, List.flatMap_nil, preambleNames, declarationNames, hookNames,
    modelNames]
  cases language with
  | javaScript => rfl
  | typeScript => rfl

theorem schemaName_mem_iff :
    schemaName collection ∈ driverNames language ↔ collection.pascal = "" := by
  have other {name : String} (last : name.toList.getLast? ≠ some 'a') :
      schemaName collection ≠ name := by
    rintro rfl
    simp [schemaName] at last
  have own : schemaName collection = "Schema" ↔ collection.pascal = "" := by
    have cancelled : collection.pascal ++ "Schema" = "" ++ "Schema" ↔ collection.pascal = "" :=
      String.append_left_inj "Schema"
    rwa [String.empty_append] at cancelled
  cases language with
  | javaScript =>
      rw [driverNames, List.mem_pair, own]
      exact or_iff_right (other (by decide))
  | typeScript =>
      rw [driverNames, List.mem_cons, own]
      refine or_iff_left fun isOther => ?_
      have others : ∀ name ∈ ["model", "Document", "Types"], name.toList.getLast? ≠ some 'a' := by
        decide
      exact other (others _ isOther) rfl

theorem nodup_driverNames : (driverNames language).Nodup := by
  cases language <;> decide

theorem nodup_typeNames : (typeNames collection language).Nodup := by
  cases language with
  | javaScript => exact List.nodup_nil
  | typeScript => exact Project.nodup_eraseDups _

/-- A module does not import its own type. -/
theorem pascal_not_mem_typeNames : collection.pascal ∉ typeNames collection language := by
  cases language with
  | javaScript => exact List.not_mem_nil
  | typeScript => exact fun isForeign => (Schema.mem_foreignNames.mp isForeign).1 rfl

theorem schemaName_ne_pascal : schemaName collection ≠ collection.pascal := by
  intro equal
  have lengths := congrArg String.length equal
  rw [schemaName, String.length_append] at lengths
  exact absurd lengths (Nat.ne_of_gt (Nat.lt_add_of_pos_right (by decide)))

theorem nodup_moduleNames_iff :
    (moduleNames (sourceFile collection language)).Nodup ↔
      collection.pascal ∉ "" :: driverNames language ∧
        ∀ name ∈ typeNames collection language,
          name ∉ driverNames language ∧ name ≠ schemaName collection := by
  have own : [schemaName collection, collection.pascal].Nodup := by
    simpa using schemaName_ne_pascal collection
  rw [moduleNames_sourceFile, List.nodup_append, List.nodup_append, List.mem_cons, not_or]
  constructor
  · rintro ⟨⟨-, -, driverApart⟩, -, ownApart⟩
    have driverFree {name : String} (isDriver : name ∈ driverNames language) :
        name ≠ schemaName collection ∧ name ≠ collection.pascal :=
      ⟨ownApart name (List.mem_append_left _ isDriver) _ (by simp),
        ownApart name (List.mem_append_left _ isDriver) _ (by simp)⟩
    refine ⟨⟨fun empty => ?_, fun isDriver => (driverFree isDriver).2 rfl⟩, fun name isType => ?_⟩
    · exact (driverFree ((schemaName_mem_iff collection language).mpr empty)).1 rfl
    · exact ⟨fun isDriver => driverApart name isDriver name isType rfl,
        ownApart name (List.mem_append_right _ isType) _ (by simp)⟩
  · rintro ⟨⟨named, notDriver⟩, typesFree⟩
    have schemaFree : schemaName collection ∉ driverNames language :=
      fun isDriver => named ((schemaName_mem_iff collection language).mp isDriver)
    have noType := pascal_not_mem_typeNames collection language
    refine ⟨⟨nodup_driverNames language, nodup_typeNames collection language, ?_⟩, own, ?_⟩
    · rintro name isDriver _ isType rfl
      exact (typesFree name isType).1 isDriver
    · rintro name isOther _ isOwn rfl
      rcases List.mem_append.mp isOther with isDriver | isType
      · rcases List.mem_pair.mp isOwn with rfl | rfl
        · exact schemaFree isDriver
        · exact notDriver isDriver
      · rcases List.mem_pair.mp isOwn with rfl | rfl
        · exact (typesFree _ isType).2 rfl
        · exact noType isType

end Model

/-! ## Both files -/

/-- The names in the controller and in the model of a collection are apart exactly if
neither its own name nor that of another collection is one that the files use anyway. -/
theorem names_apart_iff {collection : Collection} (declares : collection.hasDeclared = true)
    (config : Config) :
    ∃ controller model,
      Controller.emit collection config = .file controller ∧
      Model.emit collection config = .file model ∧
      (Controller.scopedHandlers controller.content).length = Operation.all.length ∧
      (Controller.RecordsApart controller.content ↔
        collection.camel ≠ collection.pascal ∧
          collection.camel ∉ ["re", "req", "res", "payload"]) ∧
      model.content = (Model.sourceFile collection config.language).render ∧
      ((Model.moduleNames (Model.sourceFile collection config.language)).Nodup ↔
        collection.pascal ∉ "" :: Model.driverNames config.language ∧
          ∀ name ∈ Model.typeNames collection config.language,
            name ∉ Model.driverNames config.language ∧ name ≠ Model.schemaName collection) := by
  refine ⟨_, _, if_pos declares, if_pos declares, ?_,
    Controller.recordsApart_iff collection config.language, rfl,
    Model.nodup_moduleNames_iff collection config.language⟩
  rw [Controller.scopedHandlers_artifact, List.length_map]

theorem names_apart_teamUser :
    Schema.teamUser.hasDeclared = true ∧ ∃ controller model,
      Controller.emit Schema.teamUser Project.shop = .file controller ∧
      Controller.RecordsApart controller.content ∧
      Model.emit Schema.teamUser Project.shop = .file model ∧
      (Model.moduleNames (Model.sourceFile Schema.teamUser .typeScript)).Nodup := by
  have declares : Schema.teamUser.hasDeclared = true := by decide +kernel
  obtain ⟨controller, model, isController, isModel, -, recordsApart, -, namesApart⟩ :=
    names_apart_iff declares Project.shop
  have records : Schema.teamUser.camel ≠ Schema.teamUser.pascal ∧
      Schema.teamUser.camel ∉ ["re", "req", "res", "payload"] := by decide +kernel
  have names : Schema.teamUser.pascal ∉ "" :: Model.driverNames .typeScript ∧
      ∀ name ∈ Model.typeNames Schema.teamUser .typeScript,
        name ∉ Model.driverNames .typeScript ∧ name ≠ Model.schemaName Schema.teamUser := by
    decide +kernel
  exact ⟨declares, controller, model, isController, recordsApart.mpr records, isModel,
    namesApart.mpr names⟩

/-- A collection with no field but a title. -/
def titled (label : String) : Collection := ⟨label, [{ name := "title", typeTag := "string" }]⟩

/-- The record of a payload is declared next to the payload of the request, and the model
of a schema next to the schemas of the driver. -/
theorem names_clash :
    (titled "payload").hasDeclared = true ∧ (titled "schema").hasDeclared = true ∧
      ¬ Controller.RecordsApart (Controller.artifact (titled "payload") .javaScript).content ∧
      ¬ (Model.moduleNames (Model.sourceFile (titled "schema") .javaScript)).Nodup := by
  rw [Controller.recordsApart_iff, Model.nodup_moduleNames_iff]
  decide +kernel

end SchemaScaffold
