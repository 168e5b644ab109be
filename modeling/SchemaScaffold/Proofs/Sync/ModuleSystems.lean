import SchemaScaffold.Proofs.Link.RoundTrip
import SchemaScaffold.Proofs.Project.PlainSources
import SchemaScaffold.Sync.Writing

/-! What the module system decides in schema files. An untyped file loads the driver in
its first line and offers its model in its last one, and only these two lines are
different in the two systems. Typed files do not know the module system. -/

namespace SchemaScaffold

open Code

namespace Code

/-- The first and the last line of a layout, whatever stands between them. -/
theorem linesOf_render_framed {first last : String} (plainFirst : Lacks '\n' first)
    (plainLast : Lacks '\n' last) (middle : List Fragment) :
    linesOf (Code.render (.line first :: middle ++ [.line last]))
      = first :: ((rowsOf 0 middle).flatMap fun row => linesOf row.line) ++ [last, ""] := by
  have single {text : String} (plain : Lacks '\n' text) :
      ((rowsOf 0 [.line text]).flatMap fun row => linesOf row.line) = [text] := by
    rw [rowsOf, Fragment.rows, rowsOf, List.append_nil, List.flatMap_singleton, Row.line_atStart,
      linesOf, plain.pieces_eq]
  rw [← List.singleton_append, Code.render, renderAt, linesOf_rows, rowsOf_append, rowsOf_append,
    List.flatMap_append, List.flatMap_append, single plainFirst, single plainLast]
  simp

end Code

namespace StandaloneSchema

/-- How the driver is loaded. -/
def firstLine : ModuleSystem → String
  | .commonJs => "const mongoose = require(\"mongoose\");"
  | .esModule => "import mongoose from \"mongoose\";"

/-- How a file offers its model to others. -/
def lastLine (collection : Collection) : ModuleSystem → String
  | .commonJs => "module.exports = " ++ registration collection ++ ";"
  | .esModule => "export default " ++ registration collection ++ ";"

/-- The fragments between the first and the last line, with the blank lines around them. -/
def innerFragments (collection : Collection) : List Fragment :=
  .blank :: (declaration collection .javaScript "mongoose.Schema").fragments
    ++ .blank :: (hook collection .javaScript).fragments ++ [.blank]

theorem fragments_untypedFile (collection : Collection) (moduleSystem : ModuleSystem) :
    (untypedFile collection moduleSystem).fragments
      = .line (firstLine moduleSystem) :: innerFragments collection
          ++ [.line (lastLine collection moduleSystem)] := by
  have sections : (untypedFile collection moduleSystem).sections
      = [[.line (firstLine moduleSystem)],
          (declaration collection .javaScript "mongoose.Schema").fragments,
          (hook collection .javaScript).fragments,
          [.line (lastLine collection moduleSystem)]] := by
    cases moduleSystem <;> rfl
  rw [SourceFile.fragments, sections, innerFragments]
  simp

theorem lacks_firstLine (moduleSystem : ModuleSystem) : Lacks '\n' (firstLine moduleSystem) := by
  cases moduleSystem <;> decide

theorem lacks_lastLine (collection : Collection) (moduleSystem : ModuleSystem) :
    Lacks '\n' (lastLine collection moduleSystem) := by
  have plain : Lacks '\n' (registration collection) :=
    Lacks.append (.of_literal rfl rfl) (lacks_registrationArguments collection)
  have closed {start : String} (plainStart : Lacks '\n' start) :
      Lacks '\n' (start ++ registration collection ++ ";") :=
    (plainStart.append plain).append (.of_literal rfl rfl)
  cases moduleSystem with
  | commonJs => exact closed (.of_literal rfl rfl)
  | esModule => exact closed (.of_literal rfl rfl)

/-- An untyped file of a collection, line by line. Behind the line feed of its last line
nothing follows. -/
structure IsFramed (collection : Collection) (moduleSystem : ModuleSystem) (body : List String)
    (file : Artifact) : Prop where
  name : file.fileName = fileName collection .javaScript
  lines : linesOf file.content
    = firstLine moduleSystem :: body ++ [lastLine collection moduleSystem, ""]

/-- The lines between the first and the last one. -/
def innerLines (collection : Collection) : List String :=
  (rowsOf 0 (innerFragments collection)).flatMap fun row => linesOf row.line

theorem isFramed_artifact (collection : Collection) (moduleSystem : ModuleSystem) :
    IsFramed collection moduleSystem (innerLines collection)
      (artifact collection moduleSystem .javaScript) where
  name := rfl
  lines := by
    change linesOf (untypedFile collection moduleSystem).render = _
    rw [SourceFile.render, fragments_untypedFile,
      linesOf_render_framed (lacks_firstLine moduleSystem) (lacks_lastLine collection moduleSystem)]
    rfl

end StandaloneSchema

namespace Sync

/-- What two syncs show is the same: the files, each with its content, and the collections
that have none. -/
structure ShowsSame (sync other : Sync) : Prop where
  files : sync.files = other.files
  skipped : sync.skipped = other.skipped

theorem showsSame_of_emissions {sync other : Sync} (same : sync.emissions = other.emissions) :
    ShowsSame sync other where
  files := by rw [Sync.files, Sync.files, same]
  skipped := by rw [Sync.skipped, Sync.skipped, same]

variable (collections : List Collection) (selection : Selection)

theorem ofLink_typed {link : Link} (typed : link.language = .typeScript)
    (moduleSystem : ModuleSystem) :
    ofLink collections link selection = make collections .typeScript moduleSystem selection := by
  rw [ofLink, Link.effectiveModuleSystem, typed]
  rfl

theorem showsSame_ofLink {link : Link} (typed : link.language = .typeScript)
    (moduleSystem : ModuleSystem) :
    ShowsSame (ofLink collections link selection)
      (make collections .typeScript moduleSystem selection) :=
  showsSame_of_emissions (by rw [ofLink_typed collections selection typed moduleSystem])

/-- What the module system has to do with typed files: nothing, wherever it comes from. -/
structure IgnoresModuleSystem (collections : List Collection) (selection : Selection) : Prop where
  /-- It is not looked at when files are shown. -/
  stored : ∀ moduleSystem other : ModuleSystem,
    ShowsSame ⟨collections, .typeScript, moduleSystem, selection⟩
      ⟨collections, .typeScript, other, selection⟩
  made : ∀ moduleSystem other : ModuleSystem,
    ShowsSame (make collections .typeScript moduleSystem selection)
      (make collections .typeScript other selection)
  linked : ∀ (link : Link) (moduleSystem : ModuleSystem), link.language = .typeScript →
    ShowsSame (ofLink collections link selection)
      (make collections .typeScript moduleSystem selection)
  /-- A link keeps its module system on the disk, and still it is not looked at. -/
  saved : ∀ (link : Link) (name : String), link.language = .typeScript → link.isValid = true →
    link.updatedAt < Nat.pow 2 64 →
      ∃ loaded, Link.read ⟨name, link.text⟩ = .ok loaded ∧
        loaded.moduleSystem = link.moduleSystem ∧
        ∀ moduleSystem, ShowsSame (ofLink collections loaded selection)
          (make collections .typeScript moduleSystem selection)
  /-- The same files are written to the same places, and the same is reported. -/
  written : ∀ (link : Link) (moduleSystem : ModuleSystem) (base title : String),
    link.language = .typeScript →
      run collections { link with moduleSystem := moduleSystem } base selection title
        = run collections link base selection title

theorem ignoresModuleSystem : IgnoresModuleSystem collections selection where
  stored moduleSystem other := showsSame_of_emissions rfl
  made moduleSystem other := showsSame_of_emissions rfl
  linked link moduleSystem typed := showsSame_ofLink collections selection typed moduleSystem
  saved link name typed valid fits := by
    have loaded : Link.read ⟨name, link.text⟩ = .ok link := by
      rw [Link.read_text fits, Link.checked_of_isValid valid]
    exact ⟨link, loaded, rfl, showsSame_ofLink collections selection typed⟩
  written link moduleSystem base title typed := by
    have same : ofLink collections { link with moduleSystem := moduleSystem } selection
        = ofLink collections link selection := by
      rw [ofLink_typed collections selection typed .esModule, ofLink_typed]
      exact typed
    rw [run, run, same]
    rfl

theorem module_systems_only_frame :
    (∀ collection, ∃ body, ∀ moduleSystem,
        StandaloneSchema.IsFramed collection moduleSystem body
          (StandaloneSchema.artifact collection moduleSystem .javaScript)) ∧
      ∀ collections selection, IgnoresModuleSystem collections selection :=
  ⟨fun collection =>
      ⟨StandaloneSchema.innerLines collection, StandaloneSchema.isFramed_artifact collection⟩,
    ignoresModuleSystem⟩

/-- A link to a typed project that carries the other module system. -/
def typedLink : Link :=
  ⟨"prj-65f0c2a1b3d4e5f601234567", Link.defaultPath, .typeScript, .commonJs, 0⟩

def orders : Collection := ⟨"Order", [{ name := "total", typeTag := "Number" }]⟩

theorem module_systems_only_frame_typedLink :
    ∃ loaded, Link.read ⟨"config.json", typedLink.text⟩ = .ok loaded ∧
      loaded.moduleSystem = .commonJs ∧
      ShowsSame (ofLink [orders] loaded .all) (make [orders] .typeScript .esModule .all) := by
  have saved := (module_systems_only_frame.2 [orders] .all).saved typedLink "config.json" rfl
  rcases saved (by decide +kernel) (by decide) with ⟨loaded, isLoaded, kept, same⟩
  exact ⟨loaded, isLoaded, kept, same .esModule⟩

end Sync

end SchemaScaffold
