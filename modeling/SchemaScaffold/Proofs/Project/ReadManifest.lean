import SchemaScaffold.Project.Manifest
import SchemaScaffold.Proofs.Json.Layouts
import SchemaScaffold.Proofs.Json.Pretty

/-! The manifest of a project is glued together from lines, without escaping anything.
As long as nothing has to be escaped it is read back as what it was made of, whatever
the lengths of its three lists. -/

namespace SchemaScaffold

/-- A line feed ends each line, so one stands in front of each but the first. -/
theorem toList_textOfLines (first : String) (rest : List String) :
    (textOfLines (first :: rest)).toList
      = first.toList ++ ((rest.flatMap fun line => '\n' :: line.toList) ++ ['\n']) := by
  induction rest generalizing first with
  | nil => simp [textOfLines]
  | cons second rest induction =>
      have later := induction second
      rw [textOfLines, List.map_cons, String.join_cons, String.toList_append, ← textOfLines, later]
      simp

namespace Project.Manifest

open Json

/-! ## Lists of entries -/

/-- An empty list leaves an empty line behind. -/
def gapBehind : List (String × String) → List Char
  | [] => ['\n', '\n', ' ', ' ']
  | _ :: _ => ['\n', ' ', ' ']

theorem isBlankText_gapBehind (entries : List (String × String)) :
    Reader.IsBlankText (gapBehind entries) := by
  cases entries <;> simp [gapBehind, Reader.IsBlankText, Cursor.isBlank]

/-- A line of its own, two levels in. -/
def gapInFront : List Char := ['\n', ' ', ' ', ' ', ' ']

theorem isBlankText_gapInFront : Reader.IsBlankText gapInFront := by
  simp [gapInFront, Reader.IsBlankText, Cursor.isBlank]

def entrySpacing (entries : List (String × String)) : Spacing where
  beforeKey := gapInFront
  beforeValue := [' ']
  beforeEnd := gapBehind entries
  blankKey := isBlankText_gapInFront
  blankValue := Spacing.lines.blankValue
  blankEnd := isBlankText_gapBehind entries

def writtenEntry (entry : String × String) : WrittenMember :=
  .compact (entry.1, .string entry.2)

def groupText (entries : List (String × String)) : List Char :=
  (entrySpacing entries).objectText (entries.map writtenEntry)

/-- The entries as members of an object. -/
def entryMembers (entries : List (String × String)) : List (String × Value) :=
  entries.map fun entry => (entry.1, .string entry.2)

theorem writtenAs_groupText (depth : Nat) (entries : List (String × String)) :
    (Value.ofMembers (entryMembers entries)).WrittenAs (depth + 1) (groupText entries) := by
  have same : (entries.map writtenEntry).map WrittenMember.entry = entryMembers entries :=
    List.map_map
  have each : ∀ member ∈ entries.map writtenEntry, member.value.WrittenAs depth member.text := by
    rw [List.forall_mem_map]
    exact fun entry _ => Value.writtenAs_compact depth entry.1 entry.2
  rw [← same]
  exact (entrySpacing entries).writtenAs_objectText each

def AreVerbatim (entries : List (String × String)) : Prop :=
  ∀ entry ∈ entries, Json.IsVerbatim entry.1 ∧ Json.IsVerbatim entry.2

instance (entries : List (String × String)) : Decidable (AreVerbatim entries) :=
  decidable_of_iff
    (entries.all fun entry => decide (Json.IsVerbatim entry.1 ∧ Json.IsVerbatim entry.2))
    (by simp [AreVerbatim])

theorem memberText_writtenEntry {key value : String} (verbatimKey : Json.IsVerbatim key)
    (verbatimValue : Json.IsVerbatim value) (entries : List (String × String)) :
    (entrySpacing entries).memberText (writtenEntry (key, value))
      = '\n' :: ("    \"" ++ key ++ "\": \"" ++ value ++ "\"").toList := by
  simp [Spacing.memberText, entrySpacing, gapInFront, writtenEntry, WrittenMember.compact,
    literalChars_of_verbatim verbatimKey, chars_string_of_verbatim verbatimValue]

theorem toList_intercalate_lines (first : String) (rest : List String) :
    (",\n".intercalate (first :: rest)).toList
      = first.toList ++ listed false (rest.map fun text => '\n' :: text.toList) := by
  induction rest generalizing first with
  | nil => simp [listed]
  | cons second rest induction =>
      rw [String.intercalate_cons_cons, String.toList_append, String.toList_append, induction,
        List.map_cons, listed]
      simp

/-- What stands between the brackets of a group, with the line feeds around it. -/
theorem toList_entryLines {entries : List (String × String)} (verbatim : AreVerbatim entries) :
    '\n' :: ((entryLines entries).toList ++ ['\n', ' ', ' '])
      = listed true ((entries.map writtenEntry).map (entrySpacing entries).memberText)
          ++ (entrySpacing entries).beforeEnd := by
  have texts : (entries.map writtenEntry).map (entrySpacing entries).memberText
      = (entries.map fun entry => "    \"" ++ entry.1 ++ "\": \"" ++ entry.2 ++ "\"").map
          fun text => '\n' :: text.toList := by
    rw [List.map_map, List.map_map]
    exact List.map_congr_left fun entry isEntry =>
      memberText_writtenEntry (verbatim entry isEntry).1 (verbatim entry isEntry).2 entries
  rw [texts]
  cases entries with
  | nil => rfl
  | cons first rest =>
      rw [entryLines, List.map_cons, toList_intercalate_lines]
      simp [listed, entrySpacing, gapBehind]

/-! ## Lines of the manifest -/

theorem toList_member {name value : String} (verbatimName : Json.IsVerbatim name)
    (verbatimValue : Json.IsVerbatim value) :
    '\n' :: (member name value).toList
      = Spacing.lines.memberText (.compact (name, .string value)) ++ [','] := by
  simp [member, Spacing.memberText, Spacing.lines, WrittenMember.compact,
    literalChars_of_verbatim verbatimName, chars_string_of_verbatim verbatimValue]

def writtenGroup (name : String) (entries : List (String × String)) : WrittenMember :=
  ⟨name, groupText entries, .ofMembers (entryMembers entries)⟩

theorem toList_group {name : String} {entries : List (String × String)}
    (verbatimName : Json.IsVerbatim name) (verbatim : AreVerbatim entries) (ending : String) :
    ((group name entries ending).flatMap fun line => '\n' :: line.toList)
      = Spacing.lines.memberText (writtenGroup name entries) ++ ending.toList := by
  have printed : ((group name entries ending).flatMap fun line => '\n' :: line.toList)
      = '\n' :: ' ' :: ' ' :: '"' :: (name.toList ++ '"' :: ':' :: ' ' :: '\x7b' ::
          ('\n' :: ((entryLines entries).toList ++ ['\n', ' ', ' '])
            ++ '\x7d' :: ending.toList)) := by
    simp [group]
  rw [printed, toList_entryLines verbatim]
  simp [Spacing.memberText, Spacing.lines, writtenGroup, groupText, Spacing.objectText,
    literalChars_of_verbatim verbatimName]

/-! ## The whole text -/

/-- Nothing that the manifest is made of has to be escaped. -/
structure IsVerbatim (manifest : Manifest) : Prop where
  name : Json.IsVerbatim manifest.name
  version : Json.IsVerbatim manifest.version
  description : Json.IsVerbatim manifest.description
  scripts : AreVerbatim manifest.scripts
  dependencies : AreVerbatim manifest.dependencies
  devDependencies : AreVerbatim manifest.devDependencies

def writtenMembers (manifest : Manifest) : List WrittenMember :=
  [.compact ("name", .string manifest.name),
   .compact ("version", .string manifest.version),
   .compact ("description", .string manifest.description),
   .compact ("type", .string "module"),
   writtenGroup "scripts" manifest.scripts,
   writtenGroup "dependencies" manifest.dependencies,
   writtenGroup "devDependencies" manifest.devDependencies]

theorem toList_text {manifest : Manifest} (verbatim : manifest.IsVerbatim) :
    manifest.text.toList = Spacing.lines.objectText manifest.writtenMembers ++ ['\n'] := by
  have name := toList_member (by decide : Json.IsVerbatim "name") verbatim.name
  have version := toList_member (by decide : Json.IsVerbatim "version") verbatim.version
  have description :=
    toList_member (by decide : Json.IsVerbatim "description") verbatim.description
  have moduleType :=
    toList_member (by decide : Json.IsVerbatim "type") (by decide : Json.IsVerbatim "module")
  have scripts := toList_group (by decide : Json.IsVerbatim "scripts") verbatim.scripts ","
  have dependencies :=
    toList_group (by decide : Json.IsVerbatim "dependencies") verbatim.dependencies ","
  have devDependencies :=
    toList_group (by decide : Json.IsVerbatim "devDependencies") verbatim.devDependencies ""
  rw [text, List.cons_append, List.cons_append, List.cons_append, List.cons_append,
    toList_textOfLines]
  simp only [List.flatMap_append, List.flatMap_cons, name, version, description, moduleType,
    scripts, dependencies, devDependencies]
  simp [Spacing.objectText, writtenMembers, listed, Spacing.lines]

def value (manifest : Manifest) : Value :=
  .ofMembers (manifest.writtenMembers.map WrittenMember.entry)

theorem writtenAs_writtenMembers (depth : Nat) (manifest : Manifest) :
    ∀ member ∈ manifest.writtenMembers, member.value.WrittenAs (depth + 1) member.text := by
  have text := Value.writtenAs_compact (depth + 1)
  have entries (name : String) (entries : List (String × String)) :
      (writtenGroup name entries).value.WrittenAs (depth + 1) (writtenGroup name entries).text :=
    writtenAs_groupText depth entries
  simp only [writtenMembers, List.forall_mem_cons]
  exact ⟨text _ _, text _ _, text _ _, text _ _, entries _ _, entries _ _, entries _ _,
    List.forall_mem_nil _⟩

theorem ofText_text {manifest : Manifest} (verbatim : manifest.IsVerbatim) :
    Value.ofText manifest.text = .ok manifest.value :=
  Value.ofText_of_writtenAs
    (Spacing.lines.writtenAs_objectText (writtenAs_writtenMembers 125 manifest))
    (by simp [Reader.IsBlankText, Cursor.isBlank]) (toList_text verbatim)

/-! ## What is read -/

/-- An object with exactly the members of a manifest, and three objects among them that
have exactly the entries listed. Of several entries with one name the last one wins. -/
def IsCarriedBy (manifest : Manifest) (value : Value) : Prop :=
  ∃ scripts dependencies devDependencies : Value,
    value.IsObjectOf
        [("name", .string manifest.name), ("version", .string manifest.version),
         ("description", .string manifest.description), ("type", .string "module"),
         ("scripts", scripts), ("dependencies", dependencies),
         ("devDependencies", devDependencies)] ∧
      scripts.IsObjectOf (entryMembers manifest.scripts) ∧
      dependencies.IsObjectOf (entryMembers manifest.dependencies) ∧
      devDependencies.IsObjectOf (entryMembers manifest.devDependencies)

theorem isCarriedBy_value (manifest : Manifest) : manifest.IsCarriedBy manifest.value :=
  ⟨_, _, _, Value.isObjectOf_ofMembers _, Value.isObjectOf_ofMembers _,
    Value.isObjectOf_ofMembers _, Value.isObjectOf_ofMembers _⟩

theorem text_is_read_back {manifest : Manifest} (verbatim : manifest.IsVerbatim) :
    ∃ value, Value.ofText manifest.text = .ok value ∧ manifest.IsCarriedBy value :=
  ⟨manifest.value, ofText_text verbatim, manifest.isCarriedBy_value⟩

/-- A list that names an entry twice, and an empty one. -/
def repeating : Manifest :=
  { name := "shop-api"
    version := "1.0.0"
    description := "Orders & customers"
    scripts := [("dev", "nodemon"), ("test", "jest"), ("dev", "nodemon src/index.js")]
    dependencies := []
    devDependencies := [("jest", "^29.6.4")] }

theorem text_is_read_back_repeating :
    ∃ value scripts dependencies : Value, Value.ofText repeating.text = .ok value ∧
      value.member? "scripts" = some scripts ∧
      scripts.member? "dev" = some (.string "nodemon src/index.js") ∧
      value.member? "dependencies" = some dependencies ∧
      dependencies.member? "express" = none := by
  have verbatim : repeating.IsVerbatim :=
    { name := by decide
      version := by decide
      description := by decide
      scripts := by decide
      dependencies := by decide
      devDependencies := by decide }
  rcases text_is_read_back verbatim with
    ⟨value, isRead, scripts, dependencies, _, whole, areScripts, areDependencies, _⟩
  refine ⟨value, scripts, dependencies, isRead, ?_, ?_, ?_, ?_⟩
  · simp [whole.member?_eq, lastFor?]
  · simp [areScripts.member?_eq, lastFor?, entryMembers, repeating]
  · simp [whole.member?_eq, lastFor?]
  · simp [areDependencies.member?_eq, lastFor?, entryMembers, repeating]

/-! ## Generated manifests -/

theorem AreVerbatim.append {entries others : List (String × String)}
    (verbatim : AreVerbatim entries) (verbatimOthers : AreVerbatim others) :
    AreVerbatim (entries ++ others) :=
  List.forall_mem_append.mpr ⟨verbatim, verbatimOthers⟩

theorem isVerbatim_basic {name : String} (verbatim : Json.IsVerbatim name) :
    (basic name).IsVerbatim where
  name := verbatim
  version := (by decide : Json.IsVerbatim "1.0.0")
  description := (by decide : Json.IsVerbatim "Express + Mongoose API")
  scripts := List.forall_mem_nil _
  dependencies := (by decide : AreVerbatim (basic "").dependencies)
  devDependencies := List.forall_mem_nil _

theorem IsVerbatim.withLanguage {manifest : Manifest} (verbatim : manifest.IsVerbatim)
    (language : Language) : (manifest.withLanguage language).IsVerbatim := by
  cases language with
  | typeScript =>
      exact { verbatim with
        scripts := verbatim.scripts.append (by decide)
        devDependencies := verbatim.devDependencies.append (by decide) }
  | javaScript =>
      exact { verbatim with
        scripts := verbatim.scripts.append (by decide)
        devDependencies := verbatim.devDependencies.append (by decide) }

theorem IsVerbatim.require {manifest : Manifest} (verbatim : manifest.IsVerbatim)
    (isTyped : Bool) (feature : Feature) :
    (require isTyped manifest (requirements feature)).IsVerbatim :=
  { verbatim with
    scripts := verbatim.scripts.append (by cases feature <;> decide)
    dependencies := verbatim.dependencies.append (by cases feature <;> decide)
    devDependencies :=
      verbatim.devDependencies.append (by cases feature <;> cases isTyped <;> decide) }

/-- Whatever is configured, only the project's name can hold something to escape. -/
theorem isVerbatim_ofConfig {config : Config} (verbatim : Json.IsVerbatim config.projectName) :
    (ofConfig config).IsVerbatim := by
  have extended (features : List Feature) : ∀ manifest : Manifest, manifest.IsVerbatim →
      ((features.map requirements).foldl (Manifest.require config.isTyped)
        manifest).IsVerbatim := by
    induction features with
    | nil => exact fun _ verbatim => verbatim
    | cons feature rest induction =>
        exact fun manifest verbatim => induction _ (verbatim.require config.isTyped feature)
  have basic := isVerbatim_basic verbatim
  rw [ofConfig]
  exact extended _ _ (basic.withLanguage config.language)

/-- The manifest of every project whose name is verbatim can be read. -/
theorem ofText_ofConfig {config : Config} (verbatim : Json.IsVerbatim config.projectName) :
    Value.ofText (ofConfig config).text = .ok (ofConfig config).value :=
  ofText_text (isVerbatim_ofConfig verbatim)

end Project.Manifest

end SchemaScaffold
