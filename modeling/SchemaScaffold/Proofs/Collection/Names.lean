import SchemaScaffold.Controller
import SchemaScaffold.Project.App
import SchemaScaffold.Proofs.Text.Identifiers

/-! The names of a collection in source code. They are made of the label, whatever
it is, and so some labels give texts that are no names. -/

namespace SchemaScaffold

open Text

namespace Naming

/-! ## Characters of names -/

theorem flatten_splitWhere (isCut : Char → Bool) (label : List Char) :
    (splitWhere isCut label).flatten = label.filter fun c => !isCut c := by
  induction label with
  | nil => rfl
  | cons c rest induction =>
      rw [splitWhere, List.filter_cons]
      cases isCut c with
      | true => simpa using induction
      | false =>
          cases pieces : splitWhere isCut rest with
          | nil => exact absurd pieces (splitWhere_ne_nil isCut rest)
          | cons piece others =>
              rw [pieces] at induction
              simp [← induction]

/-- The words hold all characters but the separators. -/
theorem flatten_words (label : List Char) :
    (words label).flatten = label.filter fun c => !isSeparator c := by
  rw [← flatten_splitWhere, words]
  induction splitWhere isSeparator label with
  | nil => rfl
  | cons piece rest induction =>
      cases piece with
      | nil => simpa using induction
      | cons c others => simp [induction]

theorem parts_capitalize (word : List Char) :
    (∀ c ∈ capitalize word, isPart c = true) ↔ ∀ c ∈ word, isPart c = true := by
  cases word with
  | nil => rfl
  | cons head rest =>
      rw [capitalize, List.forall_mem_append, List.forall_mem_cons, parts_upper]
      simp only [List.forall_mem_flatMap, (isAlike_lower _).parts]

theorem parts_pascalChars (label : List Char) :
    (∀ c ∈ pascalChars label, isPart c = true) ↔ ∀ c ∈ (words label).flatten, isPart c = true := by
  simp only [pascalChars, List.forall_mem_flatMap, parts_capitalize, List.mem_flatten]
  constructor
  · rintro parts c ⟨word, isWord, isChar⟩
    exact parts word isWord c isChar
  · exact fun parts word isWord c isChar => parts c ⟨word, isWord, isChar⟩

theorem first_pascalChars (label : List Char) :
    (∃ first, (pascalChars label).head? = some first ∧ isStart first = true) ↔
      ∃ first, (words label).flatten.head? = some first ∧
        (isStart first = true ∨ first = iotaBelow) := by
  have some : ∀ word ∈ words label, word ≠ [] := fun _ => ne_nil_of_mem_words
  rw [pascalChars]
  cases parts : words label with
  | nil => simp
  | cons word others =>
      rw [parts, List.forall_mem_cons] at some
      cases word with
      | nil => exact absurd rfl some.1
      | cons c rest =>
          rcases first_upper c with ⟨first, isFirst, starts⟩
          have head : ((c :: rest) :: others).flatMap capitalize
              = upper c ++ (rest.flatMap lower ++ others.flatMap capitalize) := by
            rw [List.flatMap_cons, capitalize, List.append_assoc]
          rw [head, List.head?_append, isFirst]
          simp [starts]

theorem uncapitalize_alike (name : List Char) :
    ((∀ c ∈ uncapitalize name, isPart c = true) ↔ ∀ c ∈ name, isPart c = true) ∧
      ((∃ first, (uncapitalize name).head? = some first ∧ isStart first = true) ↔
        ∃ first, name.head? = some first ∧ isStart first = true) := by
  cases name with
  | nil => exact ⟨Iff.rfl, Iff.rfl⟩
  | cons head rest =>
      rcases isAlike_lower head with ⟨⟨first, isFirst, same⟩, parts⟩
      constructor
      · rw [uncapitalize, List.forall_mem_append, List.forall_mem_cons, parts]
      · rw [uncapitalize, List.head?_append, isFirst]
        simp [same]

/-! ## Labels -/

/-- The characters that the names of a label are made of. -/
def nameChars (label : String) : List Char := label.toList.filter fun c => !isSeparator c

/-- Of the characters that are no separators the first can start a name, or its capital
form can, and all of them can be in names. -/
def FormsNames (label : String) : Prop :=
  (∃ first, (nameChars label).head? = some first ∧ (isStart first = true ∨ first = iotaBelow)) ∧
    ∀ c ∈ nameChars label, isPart c = true

theorem isIdentifier_pascal (label : String) :
    isIdentifier (pascal label) = true ↔ FormsNames label := by
  rw [isIdentifier_iff, pascal, String.toList_ofList, first_pascalChars, parts_pascalChars,
    flatten_words]
  rfl

theorem isIdentifier_camel (label : String) :
    isIdentifier (camel label) = true ↔ FormsNames label := by
  rcases uncapitalize_alike (pascalChars label.toList) with ⟨parts, first⟩
  rw [← isIdentifier_pascal, isIdentifier_iff, isIdentifier_iff, camel, pascal,
    String.toList_ofList, String.toList_ofList, camelChars, parts, first]

end Naming

/-! ## Collections -/

/-- What is declared in the name of a collection. -/
def declaredNames (collection : Collection) : List String :=
  [collection.pascal, collection.camel, Model.interfaceName collection.label,
    Model.schemaName collection, (Project.Mount.ofCollection collection).binding]
    ++ handlerNames collection
    ++ Operation.all.map (Controller.recordName collection)

theorem isIdentifier_of_mem_declaredNames {collection : Collection}
    (pascal : isIdentifier collection.pascal = true) (camel : isIdentifier collection.camel = true) :
    ∀ name ∈ declaredNames collection, isIdentifier name = true := by
  have behind (start : String) (starts : isIdentifier start = true) :
      isIdentifier (start ++ collection.pascal) = true :=
    isIdentifier_append starts (List.all_eq_true.mpr (isIdentifier_iff.mp pascal).2)
  have plural : isIdentifier (collection.camel ++ "s") = true :=
    isIdentifier_append camel (by decide +kernel)
  have handlers : ∀ name ∈ handlerNames collection, isIdentifier name = true := by
    refine List.forall_mem_map.mpr fun operation _ => ?_
    cases operation with
    | listAll =>
        exact isIdentifier_append (behind "getAll" (by decide +kernel))
          (by decide +kernel)
    | getOne => exact behind "get" (by decide +kernel)
    | create => exact behind "create" (by decide +kernel)
    | update => exact behind "update" (by decide +kernel)
    | delete => exact behind "delete" (by decide +kernel)
  have records : ∀ name ∈ Operation.all.map (Controller.recordName collection),
      isIdentifier name = true := by
    refine List.forall_mem_map.mpr fun operation _ => ?_
    cases operation with
    | listAll => exact plural
    | _ => exact camel
  simp only [declaredNames, List.forall_mem_append, List.forall_mem_cons]
  refine ⟨⟨⟨pascal, camel, behind "I" (by decide +kernel), ?_, ?_,
    List.forall_mem_nil _⟩, handlers⟩, records⟩
  · exact isIdentifier_append pascal (by decide +kernel)
  · exact isIdentifier_append camel (by decide +kernel)

/-- Labels that do not form names give neither of the two compounds, and labels that do
give all names of a collection. -/
theorem names_are_identifiers_iff (collection : Collection) :
    (isIdentifier collection.pascal = true ↔ Naming.FormsNames collection.label) ∧
    (isIdentifier collection.camel = true ↔ Naming.FormsNames collection.label) ∧
    (Naming.FormsNames collection.label →
      ∀ name ∈ declaredNames collection, isIdentifier name = true) := by
  have pascal : isIdentifier collection.pascal = true ↔ Naming.FormsNames collection.label :=
    Naming.isIdentifier_pascal collection.label
  have camel : isIdentifier collection.camel = true ↔ Naming.FormsNames collection.label :=
    Naming.isIdentifier_camel collection.label
  exact ⟨pascal, camel, fun forms =>
    isIdentifier_of_mem_declaredNames (pascal.mpr forms) (camel.mpr forms)⟩

/-- A label may start with a digit. -/
theorem label_forms_no_identifier :
    ∃ label : String, (∃ c ∈ label.toList, Naming.isSeparator c = false) ∧
      isIdentifier (Naming.pascal label) = false ∧ isIdentifier (Naming.camel label) = false :=
  ⟨"2fa", ⟨'2', by decide, by decide +kernel⟩, by decide +kernel⟩

end SchemaScaffold
