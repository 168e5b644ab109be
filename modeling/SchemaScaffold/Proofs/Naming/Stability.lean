import SchemaScaffold.Proofs.Naming.Separators
import SchemaScaffold.Proofs.Text.Identifiers
import SchemaScaffold.Proofs.Text.SmallForms

/-! Names of names. A name is capitalized if it starts with a capital and goes on with
small letters, and capitalizing it again changes nothing. What is made of a word is a
capitalized name unless the capital form of its first character has several letters,
of which only the first stays a capital the next time. -/

namespace SchemaScaffold.Naming

open Text

/-! ## Capitalized names -/

/-- A capital in front, and no further capital behind it. -/
inductive IsCapitalized : List Char → Prop
  | nil : IsCapitalized []
  | cons {first : Char} {rest : List Char} (capital : upper first = [first])
      (small : ∀ c ∈ rest, lower c = [c]) : IsCapitalized (first :: rest)

theorem flatMap_lower_eq_self_iff {characters : List Char} :
    characters.flatMap lower = characters ↔ ∀ c ∈ characters, lower c = [c] := by
  constructor
  · intro same c isChar
    rw [← same] at isChar
    rcases List.mem_flatMap.mp isChar with ⟨_, _, isLower⟩
    exact lower_of_mem_lower isLower
  · intro small
    induction characters with
    | nil => rfl
    | cons c rest induction =>
        rw [List.forall_mem_cons] at small
        rw [List.flatMap_cons, small.1, induction small.2]
        rfl

theorem small_flatMap_lower (characters : List Char) :
    ∀ c ∈ characters.flatMap lower, lower c = [c] :=
  List.forall_mem_flatMap.mpr fun _ _ _ isLower => lower_of_mem_lower isLower

/-- The first character of a capital form is its own capital form. -/
theorem exists_upper_eq (c : Char) :
    ∃ first further, upper c = first :: further ∧ upper first = [first] := by
  rcases first_upper c with ⟨first, isFirst, _⟩
  rcases List.head?_eq_some_iff.mp isFirst with ⟨further, form⟩
  exact ⟨first, further, form, upper_of_mem_upper (form ▸ List.mem_cons_self)⟩

theorem IsCapitalized.capitalize_eq {name : List Char} (isName : IsCapitalized name) :
    capitalize name = name := by
  cases isName with
  | nil => rfl
  | cons capital small =>
      rw [capitalize, capital, flatMap_lower_eq_self_iff.mpr small]
      rfl

theorem capitalize_eq_self_iff {name : List Char} :
    capitalize name = name ↔ IsCapitalized name := by
  refine ⟨fun same => ?_, IsCapitalized.capitalize_eq⟩
  cases name with
  | nil => exact .nil
  | cons head rest =>
      rcases exists_upper_eq head with ⟨first, further, form, isCapital⟩
      have sameHead : first = head := by
        rw [capitalize, form, List.cons_append, List.cons.injEq] at same
        exact same.1
      have capital : upper head = [head] := sameHead ▸ isCapital
      rw [capitalize, capital, List.singleton_append, List.cons.injEq] at same
      exact .cons capital (flatMap_lower_eq_self_iff.mp same.2)

/-- Behind its first character a capital form may hold marks, but no other capitals. -/
def hasOneCapital (form : List Char) : Bool := form.tail.all fun c => lower c == [c]

/-- Whether the first character of a word has a capital form with one capital. -/
def startsWithOneCapital (word : List Char) : Bool :=
  word.head?.all fun head => hasOneCapital (upper head)

theorem isCapitalized_capitalize_iff {word : List Char} :
    IsCapitalized (capitalize word) ↔ startsWithOneCapital word = true := by
  cases word with
  | nil => exact iff_of_true .nil rfl
  | cons head rest =>
      rcases exists_upper_eq head with ⟨first, further, form, isCapital⟩
      simp only [startsWithOneCapital, List.head?_cons, Option.all_some, hasOneCapital, form,
        List.tail_cons, List.all_eq_true, beq_iff_eq]
      rw [capitalize, form, List.cons_append]
      constructor
      · rintro (_ | ⟨_, small⟩)
        exact (List.forall_mem_append.mp small).1
      · exact fun small =>
          .cons isCapital (List.forall_mem_append.mpr ⟨small, small_flatMap_lower rest⟩)

/-! ## Names of labels -/

theorem pascalChars_of_noSeparator {label : List Char}
    (single : ∀ c ∈ label, isSeparator c = false) : pascalChars label = capitalize label := by
  rw [pascalChars, words, splitWhere_of_no_cut single]
  cases label with
  | nil => rfl
  | cons head rest => exact List.append_nil _

theorem pascal_of_noSeparator {label : String}
    (single : ∀ c ∈ label.toList, isSeparator c = false) :
    pascal label = String.ofList (capitalize label.toList) := by
  rw [pascal, pascalChars_of_noSeparator single]

/-- A name is one word. -/
theorem pascal_pascal (label : String) :
    pascal (pascal label) = String.ofList (capitalize (pascal label).toList) :=
  pascal_of_noSeparator (noSeparator_names label).1

theorem upper_head_pascal (label : String) :
    ∀ first ∈ (pascal label).toList.head?, upper first = [first] := by
  intro first isFirst
  rcases exists_word_of_head_pascal isFirst with ⟨word, _, isFirst⟩
  cases word with
  | nil => cases isFirst
  | cons head rest =>
      rcases exists_upper_eq head with ⟨capital, further, form, isCapital⟩
      rw [capitalize, form] at isFirst
      have same : capital = first := Option.mem_some_iff.mp isFirst
      exact same ▸ isCapital

/-- The name of a name is capitalized. -/
theorem isCapitalized_pascal_pascal (label : String) :
    IsCapitalized (pascal (pascal label)).toList := by
  rw [pascal_pascal, String.toList_ofList, isCapitalized_capitalize_iff, startsWithOneCapital,
    Option.all_eq_true]
  intro first isFirst
  rw [upper_head_pascal label first isFirst]
  rfl

/-- The name of a label without separators stays as it is just if the capital form of its
first character has one capital. From the second time on every name stays. -/
theorem pascal_pascal_eq_iff {label : String}
    (single : ∀ c ∈ label.toList, isSeparator c = false) :
    (pascal (pascal label) = pascal label ↔ startsWithOneCapital label.toList = true) ∧
    pascal (pascal (pascal label)) = pascal (pascal label) := by
  constructor
  · rw [← isCapitalized_capitalize_iff, ← capitalize_eq_self_iff, pascal_pascal,
      pascal_of_noSeparator single, String.toList_ofList, String.ofList_inj]
  · rw [pascal_pascal (pascal label), (isCapitalized_pascal_pascal label).capitalize_eq,
      String.ofList_toList]

/-- A small form may have two characters. -/
theorem pascal_pascal_eq_iff_dotted :
    (∀ c ∈ "DİYARBAKIR".toList, isSeparator c = false) ∧
      pascal (pascal "DİYARBAKIR") = pascal "DİYARBAKIR" := by
  have single : ∀ c ∈ "DİYARBAKIR".toList, isSeparator c = false :=
    noSeparator_of_all (by decide +kernel)
  exact ⟨single, (pascal_pascal_eq_iff single).1.mpr (by decide +kernel)⟩

/-- The capital form of the sharp s has two letters, and so has that of the capital alpha
that is written with an iota. -/
theorem pascal_not_stable :
    ((∀ c ∈ "ß".toList, isSeparator c = false) ∧ pascal (pascal "ß") ≠ pascal "ß") ∧
      (∀ c ∈ "ᾼ".toList, isSeparator c = false) ∧ pascal (pascal "ᾼ") ≠ pascal "ᾼ" :=
  ⟨⟨noSeparator_of_all (by decide +kernel), by decide +kernel⟩,
    noSeparator_of_all (by decide +kernel), by decide +kernel⟩

end SchemaScaffold.Naming
