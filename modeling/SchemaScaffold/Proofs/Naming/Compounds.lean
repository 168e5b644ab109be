import Mathlib.Data.List.SplitBy
import Mathlib.Tactic.TFAE
import SchemaScaffold.Controller
import SchemaScaffold.Model
import SchemaScaffold.Proofs.Text.Blanks
import SchemaScaffold.Route
import SchemaScaffold.StandaloneSchema

/-! Words that start with Latin letters can be read back from the compound that is made
of them: each capital letter begins a word. So two labels of such words share a name, or
a file, just if they have the same words in any letter case. -/

namespace SchemaScaffold.Naming

open Text

/-! ## Latin characters

Kinds and forms of characters by their codes. The library's own lemmas on letter case
come with the whole of Mathlib only. -/

theorem val_between_iff {first last c : Char} : first.val ≤ c.val ∧ c.val ≤ last.val ↔
    first.toNat ≤ c.toNat ∧ c.toNat ≤ last.toNat :=
  and_congr UInt32.le_iff_toNat_le UInt32.le_iff_toNat_le

theorem isUpper_iff {c : Char} : c.isUpper = true ↔ 65 ≤ c.toNat ∧ c.toNat ≤ 90 :=
  decide_eq_true_iff.trans val_between_iff

theorem isLower_iff {c : Char} : c.isLower = true ↔ 97 ≤ c.toNat ∧ c.toNat ≤ 122 := by
  change (decide ('a'.val ≤ c.val) && decide (c.val ≤ 'z'.val)) = true ↔ _
  rw [Bool.and_eq_true_iff, decide_eq_true_iff, decide_eq_true_iff]
  exact val_between_iff

theorem isAlpha_iff {c : Char} : c.isAlpha = true ↔
    (65 ≤ c.toNat ∧ c.toNat ≤ 90) ∨ (97 ≤ c.toNat ∧ c.toNat ≤ 122) := by
  change (c.isUpper || c.isLower) = true ↔ _
  rw [Bool.or_eq_true_iff, isUpper_iff, isLower_iff]

theorem isAlphanum_iff {c : Char} : c.isAlphanum = true ↔
    c.isAlpha = true ∨ (48 ≤ c.toNat ∧ c.toNat ≤ 57) := by
  change (c.isAlpha || c.isDigit) = true ↔ _
  rw [Bool.or_eq_true_iff, Char.isDigit_iff_toNat]
  rfl

theorem toNat_lt_of_isAlphanum {c : Char} (latin : c.isAlphanum = true) : c.toNat < 128 := by
  rw [isAlphanum_iff, isAlpha_iff] at latin
  omega

/-- Small letters move to their capital forms, and all other characters stay. -/
theorem toNat_toUpper (c : Char) :
    (97 ≤ c.toNat ∧ c.toNat ≤ 122) ∧ c.toUpper.toNat + 32 = c.toNat ∨
      ¬ (97 ≤ c.toNat ∧ c.toNat ≤ 122) ∧ c.toUpper.toNat = c.toNat := by
  have small : 'a'.val ≤ c.val ∧ c.val ≤ 'z'.val ↔ 97 ≤ c.toNat ∧ c.toNat ≤ 122 :=
    val_between_iff
  delta Char.toUpper
  split
  · next isSmall =>
      -- The codes go down because the sum overflows.
      have shifted : (c.val + ('A'.val - 'a'.val)).toNat = (c.toNat + (2 ^ 32 - 32)) % 2 ^ 32 :=
        UInt32.toNat_add c.val ('A'.val - 'a'.val)
      have bounds := small.mp isSmall
      refine .inl ⟨bounds, ?_⟩
      change (c.val + ('A'.val - 'a'.val)).toNat + 32 = c.toNat
      omega
  · next isOther => exact .inr ⟨mt small.mpr isOther, rfl⟩

theorem toNat_toLower (c : Char) :
    (65 ≤ c.toNat ∧ c.toNat ≤ 90) ∧ c.toLower.toNat = c.toNat + 32 ∨
      ¬ (65 ≤ c.toNat ∧ c.toNat ≤ 90) ∧ c.toLower.toNat = c.toNat := by
  have capital : 'A'.val ≤ c.val ∧ c.val ≤ 'Z'.val ↔ 65 ≤ c.toNat ∧ c.toNat ≤ 90 :=
    val_between_iff
  delta Char.toLower
  split
  · next isCapital =>
      have shifted : (c.val + ('a'.val - 'A'.val)).toNat = (c.toNat + 32) % 2 ^ 32 :=
        UInt32.toNat_add c.val ('a'.val - 'A'.val)
      have bounds := capital.mp isCapital
      refine .inl ⟨bounds, ?_⟩
      change (c.val + ('a'.val - 'A'.val)).toNat = c.toNat + 32
      omega
  · next isOther => exact .inr ⟨mt capital.mpr isOther, rfl⟩

@[simp] theorem toLower_toLower (c : Char) : c.toLower.toLower = c.toLower := by
  have once := toNat_toLower c
  have twice := toNat_toLower c.toLower
  rw [← Char.toNat_inj]
  omega

@[simp] theorem toLower_toUpper (c : Char) : c.toUpper.toLower = c.toLower := by
  have upper := toNat_toUpper c
  have lower := toNat_toLower c
  have back := toNat_toLower c.toUpper
  rw [← Char.toNat_inj]
  omega

@[simp] theorem toUpper_toLower (c : Char) : c.toLower.toUpper = c.toUpper := by
  have lower := toNat_toLower c
  have upper := toNat_toUpper c
  have back := toNat_toUpper c.toLower
  rw [← Char.toNat_inj]
  omega

theorem isUpper_toLower (c : Char) : c.toLower.isUpper = false := by
  have lower := toNat_toLower c
  rw [Bool.eq_false_iff, ne_eq, isUpper_iff]
  omega

theorem isUpper_toUpper {c : Char} (isLetter : c.isAlpha = true) : c.toUpper.isUpper = true := by
  have upper := toNat_toUpper c
  rw [isAlpha_iff] at isLetter
  rw [isUpper_iff]
  omega

theorem isAlpha_toUpper {c : Char} (isLetter : c.isAlpha = true) : c.toUpper.isAlpha = true := by
  have upper := toNat_toUpper c
  rw [isAlpha_iff] at isLetter ⊢
  omega

theorem isAlpha_toLower {c : Char} (isLetter : c.isAlpha = true) : c.toLower.isAlpha = true := by
  have lower := toNat_toLower c
  rw [isAlpha_iff] at isLetter ⊢
  omega

theorem isAlphanum_toLower {c : Char} (latin : c.isAlphanum = true) :
    c.toLower.isAlphanum = true := by
  have lower := toNat_toLower c
  rw [isAlphanum_iff, isAlpha_iff] at latin ⊢
  omega

theorem toUpper_of_isUpper {c : Char} (isCapital : c.isUpper = true) : c.toUpper = c := by
  have upper := toNat_toUpper c
  rw [isUpper_iff] at isCapital
  rw [← Char.toNat_inj]
  omega

/-- In front of the code where all other entries of a table begin, only the run on top
of it counts. -/
theorem mapped_of_first_run {expansions : List (Nat × List Nat)} {runs : List CaseRun}
    {first last : Nat} {shift : Int} {c moved : Char}
    (expansionsBehind : ∀ expansion ∈ expansions, 128 ≤ expansion.1)
    (runsBehind : ∀ run ∈ runs, 128 ≤ run.first) (inFront : c.toNat < 128)
    (isMoved : (first ≤ c.toNat ∧ c.toNat ≤ last) ∧ (moved.toNat : Int) = c.toNat + shift ∨
      ¬ (first ≤ c.toNat ∧ c.toNat ≤ last) ∧ moved.toNat = c.toNat) :
    mapped expansions (⟨first, last, 1, shift⟩ :: runs) c = [moved] := by
  have noExpansion : expansions.find? (fun expansion => expansion.1 == c.toNat) = none := by
    refine List.find?_eq_none.mpr fun expansion isExpansion isCode => ?_
    have behind := expansionsBehind expansion isExpansion
    rw [beq_iff_eq] at isCode
    omega
  have noRun : runs.find? (fun run => run.covers c.toNat) = none := by
    refine List.find?_eq_none.mpr fun run isRun covers => ?_
    have behind := runsBehind run isRun
    simp only [CaseRun.covers, Bool.and_eq_true, decide_eq_true_eq] at covers
    omega
  have covers_iff : CaseRun.covers ⟨first, last, 1, shift⟩ c.toNat = true ↔
      first ≤ c.toNat ∧ c.toNat ≤ last := by
    simp [CaseRun.covers, Nat.mod_one]
  rw [mapped, noExpansion, List.find?_cons, noRun]
  rcases isMoved with ⟨isCovered, isShifted⟩ | ⟨isOther, stays⟩
  · have shifted : CaseRun.apply ⟨first, last, 1, shift⟩ c.toNat = moved.toNat := by
      rw [CaseRun.apply, ← isShifted, Int.toNat_natCast]
    simp only [covers_iff.mpr isCovered, shifted, Char.ofNat_toNat]
  · simp only [Bool.eq_false_iff.mpr (mt covers_iff.mp isOther), Char.toNat_inj.mp stays]

theorem upper_of_isAlphanum {c : Char} (latin : c.isAlphanum = true) : upper c = [c.toUpper] := by
  have expansions : ∀ expansion ∈ upperExpansions, 128 ≤ expansion.1 := by decide +kernel
  have runs : ∀ run ∈ upperRuns.tail, 128 ≤ run.first := by decide +kernel
  have table : upperRuns = ⟨0x61, 0x7A, 1, -32⟩ :: upperRuns.tail := rfl
  have moves := toNat_toUpper c
  rw [upper, table]
  exact mapped_of_first_run expansions runs (toNat_lt_of_isAlphanum latin) (by omega)

theorem lower_of_isAlphanum {c : Char} (latin : c.isAlphanum = true) : lower c = [c.toLower] := by
  have expansions : ∀ expansion ∈ lowerExpansions, 128 ≤ expansion.1 := by decide +kernel
  have runs : ∀ run ∈ lowerRuns.tail, 128 ≤ run.first := by decide +kernel
  have table : lowerRuns = ⟨0x41, 0x5A, 1, 32⟩ :: lowerRuns.tail := rfl
  have moves := toNat_toLower c
  rw [lower, table]
  exact mapped_of_first_run expansions runs (toNat_lt_of_isAlphanum latin) (by omega)

/-! ## Latin words -/

/-- Letters and digits of the Latin alphabet, a letter in front. -/
structure IsLatinWord (word : List Char) : Prop where
  starts : word.head?.any Char.isAlpha = true
  latin : ∀ c ∈ word, c.isAlphanum = true

namespace IsLatinWord

variable {word : List Char}

theorem exists_eq (isLatin : IsLatinWord word) : ∃ first rest, word = first :: rest ∧
    first.isAlpha = true ∧ capitalize word = first.toUpper :: rest.map Char.toLower := by
  have flatMap_lower {characters : List Char} (latin : ∀ c ∈ characters, c.isAlphanum = true) :
      characters.flatMap lower = characters.map Char.toLower := by
    induction characters with
    | nil => rfl
    | cons c rest induction =>
        rw [List.forall_mem_cons] at latin
        rw [List.flatMap_cons, lower_of_isAlphanum latin.1, induction latin.2]
        rfl
  cases word with
  | nil => cases isLatin.starts
  | cons first rest =>
      have latin := List.forall_mem_cons.mp isLatin.latin
      refine ⟨first, rest, rfl, isLatin.starts, ?_⟩
      rw [capitalize, upper_of_isAlphanum latin.1, flatMap_lower latin.2]
      rfl

theorem map_toLower (isLatin : IsLatinWord word) : IsLatinWord (word.map Char.toLower) := by
  refine ⟨?_, List.forall_mem_map.mpr fun c isChar => isAlphanum_toLower (isLatin.latin c isChar)⟩
  cases word with
  | nil => exact isLatin.starts
  | cons first rest => exact isAlpha_toLower isLatin.starts

/-- The small letters of a word can be read from its capitalized form. -/
theorem map_toLower_capitalize (isLatin : IsLatinWord word) :
    (capitalize word).map Char.toLower = word.map Char.toLower := by
  rcases isLatin.exists_eq with ⟨first, rest, rfl, _, capitalized⟩
  simp [capitalized]

theorem capitalize_map_toLower (isLatin : IsLatinWord word) :
    capitalize (word.map Char.toLower) = capitalize word := by
  rcases isLatin.exists_eq with ⟨first, rest, rfl, _, capitalized⟩
  rcases isLatin.map_toLower.exists_eq with ⟨_, _, small, _, capitalizedSmall⟩
  rw [List.map_cons, List.cons.injEq] at small
  rw [capitalizedSmall, capitalized, ← small.1, ← small.2]
  simp

end IsLatinWord

/-! ## Compounds -/

/-- Every character but a capital letter goes on with the word in front of it. -/
def goesOn (_ next : Char) : Bool := !next.isUpper

/-- Cutting a compound in front of its capital letters gives the words it is made of. -/
theorem splitBy_compound {labelWords : List (List Char)}
    (latin : ∀ word ∈ labelWords, IsLatinWord word) :
    (labelWords.flatMap capitalize).splitBy goesOn = labelWords.map capitalize := by
  have parts : ∀ part ∈ labelWords.map capitalize,
      ∃ first rest, part = first :: rest ∧ first.isUpper = true ∧
        ∀ c ∈ rest, c.isUpper = false := by
    refine List.forall_mem_map.mpr fun word isWord => ?_
    rcases (latin word isWord).exists_eq with ⟨first, rest, _, isLetter, capitalized⟩
    exact ⟨_, _, capitalized, isUpper_toUpper isLetter,
      List.forall_mem_map.mpr fun c _ => isUpper_toLower c⟩
  have some : ∀ part ∈ labelWords.map capitalize, part ≠ [] := by
    intro part isPart
    rcases parts part isPart with ⟨first, rest, rfl, _⟩
    exact List.cons_ne_nil first rest
  rw [List.flatMap_def]
  refine List.splitBy_flatten (fun isPart => some [] isPart rfl) (fun part isPart => ?_) ?_
  · rcases parts part isPart with ⟨first, rest, rfl, _, small⟩
    refine List.isChain_iff_getElem.mpr fun i bound => ?_
    rw [goesOn, List.getElem_cons_succ, small _ (List.getElem_mem _)]
    rfl
  · refine List.isChain_iff_getElem.mpr fun i bound => ?_
    refine ⟨some _ (List.getElem_mem _), some _ (List.getElem_mem _), ?_⟩
    rcases parts _ (List.getElem_mem bound) with ⟨first, rest, next, isCapital, _⟩
    simp [goesOn, next, isCapital]

/-! ## Labels -/

/-- A label of Latin letters and digits, spaces and underscores, whose words all start
with a letter. -/
structure IsLatinLabel (label : String) : Prop where
  characters : ∀ c ∈ label.toList, c.isAlphanum = true ∨ c = '_' ∨ c = ' '
  starts : ∀ word ∈ words label.toList, word.head?.any Char.isAlpha = true

/-- A literal is checked character by character. -/
theorem IsLatinLabel.of_all {label : String}
    (characters : (label.toList.all fun c => c.isAlphanum || c == '_' || c == ' ') = true)
    (starts : ((words label.toList).all fun word => word.head?.any Char.isAlpha) = true) :
    IsLatinLabel label := by
  refine ⟨fun c isChar => ?_, List.all_eq_true.mp starts⟩
  have allowed := List.all_eq_true.mp characters c isChar
  simpa only [Bool.or_eq_true, beq_iff_eq, or_assoc] using allowed

/-- The words of a label, whatever their letter case. -/
def foldedWords (label : String) : List (List Char) :=
  (words label.toList).map (List.map Char.toLower)

section Labels

variable {label other : String} (isLatin : IsLatinLabel label) (isLatinOther : IsLatinLabel other)

include isLatin

theorem isLatinWord_of_mem_words : ∀ word ∈ words label.toList, IsLatinWord word := by
  intro word isWord
  refine ⟨isLatin.starts word isWord, fun c isChar => ?_⟩
  rcases mem_of_mem_words isWord c isChar with ⟨inLabel, noCut⟩
  rcases isLatin.characters c inLabel with latin | rfl | rfl
  · exact latin
  · cases noCut
  · cases noCut

theorem capitalize_foldedWords :
    (foldedWords label).map capitalize = (words label.toList).map capitalize := by
  rw [foldedWords, List.map_map]
  exact List.map_congr_left fun word isWord =>
    (isLatinWord_of_mem_words isLatin word isWord).capitalize_map_toLower

theorem foldedWords_eq :
    foldedWords label = ((pascal label).toList.splitBy goesOn).map (List.map Char.toLower) := by
  rw [pascal, String.toList_ofList, pascalChars,
    splitBy_compound (isLatinWord_of_mem_words isLatin), List.map_map, foldedWords]
  exact (List.map_congr_left fun word isWord =>
    (isLatinWord_of_mem_words isLatin word isWord).map_toLower_capitalize).symm

theorem pascal_eq_of_foldedWords_eq (isLatinOther : IsLatinLabel other)
    (same : foldedWords label = foldedWords other) : pascal label = pascal other := by
  rw [pascal, pascal, pascalChars, pascalChars, List.flatMap_def, List.flatMap_def,
    ← capitalize_foldedWords isLatin, same, capitalize_foldedWords isLatinOther]

theorem isAlphanum_of_mem_pascal : ∀ c ∈ (pascal label).toList, c.isAlphanum = true := by
  rw [pascal, String.toList_ofList]
  refine List.forall_mem_flatMap.mpr fun word isWord => ?_
  have latin := isLatinWord_of_mem_words isLatin word isWord
  rcases latin.exists_eq with ⟨first, rest, rfl, isLetter, capitalized⟩
  rw [capitalized, List.forall_mem_cons, List.forall_mem_map]
  refine ⟨?_, fun c isChar => isAlphanum_toLower (latin.latin c (List.mem_cons_of_mem _ isChar))⟩
  exact isAlphanum_iff.mpr (.inl (isAlpha_toUpper isLetter))

theorem isUpper_head_pascal : ∀ first ∈ (pascal label).toList.head?, first.isUpper = true := by
  intro first isFirst
  rcases exists_word_of_head_pascal isFirst with ⟨word, isWord, isFirst⟩
  have latin := isLatinWord_of_mem_words isLatin word isWord
  rcases latin.exists_eq with ⟨letter, rest, _, isLetter, capitalized⟩
  rw [capitalized] at isFirst
  rw [← Option.mem_some_iff.mp isFirst]
  exact isUpper_toUpper isLetter

theorem toList_camel : (camel label).toList = (pascal label).toList.modifyHead Char.toLower := by
  have latin := isAlphanum_of_mem_pascal isLatin
  rw [pascal, String.toList_ofList] at latin ⊢
  rw [camel, String.toList_ofList, camelChars]
  cases parts : pascalChars label.toList with
  | nil => rfl
  | cons first rest =>
      rw [parts, List.forall_mem_cons] at latin
      rw [uncapitalize, lower_of_isAlphanum latin.1]
      rfl

theorem isAlphanum_of_mem_camel : ∀ c ∈ (camel label).toList, c.isAlphanum = true := by
  have latin := isAlphanum_of_mem_pascal isLatin
  rw [toList_camel isLatin]
  cases name : (pascal label).toList with
  | nil => exact List.forall_mem_nil _
  | cons first rest =>
      rw [name, List.forall_mem_cons] at latin
      exact List.forall_mem_cons.mpr ⟨isAlphanum_toLower latin.1, latin.2⟩

/-- With a capital in front both compounds are the same. -/
theorem modifyHead_toUpper :
    (pascal label).toList.modifyHead Char.toUpper = (pascal label).toList ∧
      (camel label).toList.modifyHead Char.toUpper = (pascal label).toList := by
  have capitals := isUpper_head_pascal isLatin
  rw [toList_camel isLatin]
  cases name : (pascal label).toList with
  | nil => exact ⟨rfl, rfl⟩
  | cons first rest =>
      have isCapital : first.isUpper = true := capitals first (by rw [name]; rfl)
      simp [toUpper_of_isUpper isCapital]

end Labels

/-! ## Files -/

/-- What a file is named after, in capitalized form: what stands in front of the first
dot of its name. -/
def namedAfter (fileName : String) : List Char :=
  (fileName.toList.takeWhile (· != '.')).modifyHead Char.toUpper

theorem namedAfter_append {stem suffix : String} (latin : ∀ c ∈ stem.toList, c.isAlphanum = true)
    (dotted : suffix.toList.head? = some '.') :
    namedAfter (stem ++ suffix) = stem.toList.modifyHead Char.toUpper := by
  have noDot : ∀ c ∈ stem.toList, (c != '.') = true := by
    intro c isChar
    rw [bne_iff_ne]
    rintro rfl
    cases latin '.' isChar
  rcases List.head?_eq_some_iff.mp dotted with ⟨behind, text⟩
  rw [namedAfter, String.toList_append, text, List.takeWhile_append_of_pos noDot]
  exact congrArg _ (List.append_nil _)

end Naming

open Naming

/-- The files that are named after a collection. -/
def fileNames (collection : Collection) (language : Language) : List String :=
  [Model.fileName collection language, Controller.fileName collection language,
   Route.fileName collection language, StandaloneSchema.fileName collection language]

variable {collection other : Collection}

theorem namedAfter_of_mem_fileNames (isLatin : IsLatinLabel collection.label) {language : Language}
    {name : String} (isName : name ∈ fileNames collection language) :
    namedAfter name = collection.pascal.toList := by
  rcases modifyHead_toUpper isLatin with ⟨ofPascal, ofCamel⟩
  have afterCamel {suffix : String} (dotted : suffix.toList.head? = some '.') :
      namedAfter (collection.camel ++ suffix) = collection.pascal.toList :=
    (namedAfter_append (isAlphanum_of_mem_camel isLatin) dotted).trans ofCamel
  have afterPascal {suffix : String} (dotted : suffix.toList.head? = some '.') :
      namedAfter (collection.pascal ++ suffix) = collection.pascal.toList :=
    (namedAfter_append (isAlphanum_of_mem_pascal isLatin) dotted).trans ofPascal
  simp only [fileNames, Model.fileName, Controller.fileName, Route.fileName,
    StandaloneSchema.fileName, String.append_assoc, List.mem_cons, List.not_mem_nil, or_false]
    at isName
  rcases isName with rfl | rfl | rfl | rfl
  · exact afterCamel (by cases language <;> rfl)
  · exact afterCamel (by cases language <;> rfl)
  · exact afterCamel (by cases language <;> rfl)
  · exact afterPascal (by cases language <;> rfl)

/-- Labels of Latin words share one of their names, or a file, just if their words are
the same in any letter case, and then they share all. -/
theorem names_coincide_iff (isLatin : IsLatinLabel collection.label)
    (isLatinOther : IsLatinLabel other.label) (language : Language) :
    List.TFAE
      [foldedWords collection.label = foldedWords other.label,
       collection.pascal = other.pascal,
       collection.camel = other.camel,
       fileNames collection language = fileNames other language,
       ∃ name ∈ fileNames collection language, name ∈ fileNames other language] := by
  have words_of_pascal (same : collection.pascal.toList = other.pascal.toList) :
      foldedWords collection.label = foldedWords other.label := by
    rw [foldedWords_eq isLatin, foldedWords_eq isLatinOther]
    exact congrArg (fun name => (List.splitBy goesOn name).map (List.map Char.toLower)) same
  tfae_have 1 → 2 := pascal_eq_of_foldedWords_eq isLatin isLatinOther
  tfae_have 2 → 3 := camel_eq_of_pascal_eq
  tfae_have 3 → 1 := by
    intro same
    apply words_of_pascal
    calc collection.pascal.toList
        = collection.camel.toList.modifyHead Char.toUpper := (modifyHead_toUpper isLatin).2.symm
      _ = other.camel.toList.modifyHead Char.toUpper := by rw [same]
      _ = other.pascal.toList := (modifyHead_toUpper isLatinOther).2
  tfae_have 2 → 4 := by
    intro same
    have sameCamel : collection.camel = other.camel := camel_eq_of_pascal_eq same
    simp only [fileNames, Model.fileName, Controller.fileName, Route.fileName,
      StandaloneSchema.fileName, same, sameCamel]
  tfae_have 4 → 5 := fun same => ⟨_, List.mem_cons_self, same ▸ List.mem_cons_self⟩
  tfae_have 5 → 1 := by
    rintro ⟨name, isName, isOtherName⟩
    apply words_of_pascal
    rw [← namedAfter_of_mem_fileNames isLatin isName,
      namedAfter_of_mem_fileNames isLatinOther isOtherName]
  tfae_finish

/-- The same letters with and without a gap are two labels that share no file. -/
theorem names_coincide_iff_orderItem :
    IsLatinLabel "OrderItem" ∧ IsLatinLabel "order_ ITEM" ∧
      ¬ ∃ name ∈ fileNames ⟨"OrderItem", []⟩ .typeScript,
        name ∈ fileNames ⟨"order_ ITEM", []⟩ .typeScript := by
  have isLatin : IsLatinLabel "OrderItem" := .of_all (by decide +kernel) (by decide +kernel)
  have isLatinOther : IsLatinLabel "order_ ITEM" := .of_all (by decide +kernel) (by decide +kernel)
  have shared_iff :=
    (@names_coincide_iff ⟨"OrderItem", []⟩ ⟨"order_ ITEM", []⟩ isLatin isLatinOther
      .typeScript).out 0 4
  exact ⟨isLatin, isLatinOther, shared_iff.not.mp (by decide +kernel)⟩

end SchemaScaffold
