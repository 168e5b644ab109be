import SchemaScaffold.Link.Storage
import SchemaScaffold.Proofs.Json.Pretty
import SchemaScaffold.Proofs.Json.ShapeResults
import SchemaScaffold.Proofs.Workspace.Rewriting

/-! A link that was saved is loaded again as it was, unless its project id is not
valid; then it is refused for that. -/

namespace SchemaScaffold.Link

open Workspace

/-! ## Contents -/

/-- What the written form carries: no member is left out. -/
def contents (link : Link) : shape.Denote :=
  (link.projectId, some link.path, some link.language.name, some link.moduleSystem.name,
    some link.updatedAt, ())

theorem ofShape_contents (link : Link) : ofShape link.contents = link := by
  have language : Language.ofText? link.language.name = some link.language := by
    cases link.language <;> decide +kernel
  have moduleSystem : ModuleSystem.ofText? link.moduleSystem.name = some link.moduleSystem := by
    cases link.moduleSystem <;> decide +kernel
  simp [ofShape, contents, language, moduleSystem]

theorem ofValue_toValue (link : Link) : shape.ofValue link.toValue = .ok link.contents := by
  rcases link with ⟨projectId, path, language, moduleSystem, updatedAt⟩
  cases language <;> cases moduleSystem <;> rfl

/-! ## Reading -/

/-- The link if it is accepted, and otherwise the problem with its id. -/
def checked (link : Link) (source : Source) : Except Problem Link :=
  if link.isValid then .ok link
  else .error (.badLink ⟨source, none, invalidIdMessage link.projectId⟩)

theorem checked_of_isValid {link : Link} (valid : link.isValid = true) (source : Source) :
    link.checked source = .ok link :=
  if_pos valid

/-- What the text of a link carries, if the time can be stored. -/
theorem ofText_text {link : Link} (fits : link.updatedAt < Nat.pow 2 64) :
    shape.ofText link.text = .ok link.contents := by
  have stored : Json.Value.HasStoredNumber (.ofNat link.updatedAt) :=
    ⟨Int.le_trans (by decide) (Int.natCast_nonneg _), Int.ofNat_lt.mpr fits⟩
  have same : (shape.ofText link.text).toOption = (shape.ofValue link.toValue).toOption := by
    apply Json.Shape.ofText_pretty
    · simp [Json.Members.All, Json.Shape.HasNoInnerChoice, Json.Shape.HasNoChoice]
    · simp [Json.Value.IsScalar, Json.Value.ofNat]
    · simpa [Json.Value.HasStoredNumber] using stored
    · change ["projectID", "path", "language", "type", "updatedAt"].Nodup
      decide
  rw [ofValue_toValue] at same
  cases carried : shape.ofText link.text with
  | error fault =>
      rw [carried] at same
      cases same
  | ok contents =>
      rw [carried] at same
      exact congrArg Except.ok (Option.some.inj same)

theorem read_text {link : Link} (fits : link.updatedAt < Nat.pow 2 64) (name : String) :
    read ⟨name, link.text⟩ = link.checked ⟨name, link.text⟩ := by
  rw [read, ofText_text fits]
  simp only [ofShape_contents]
  rfl

/-- Only valid links are read, and their times can be stored. -/
theorem read_eq_ok {source : Source} {link : Link} (isLink : read source = .ok link) :
    link.isValid = true ∧ link.updatedAt < Nat.pow 2 64 := by
  rw [read] at isLink
  split at isLink
  · cases isLink
  · next carried isCarried =>
      rcases carried with ⟨projectId, path, language, moduleSystem, updatedAt, ⟨⟩⟩
      obtain ⟨-, -, -, -, fits, -⟩ := Json.Shape.isRead_ofText isCarried
      dsimp only at isLink
      split at isLink
      · next valid =>
          cases isLink
          refine ⟨valid, ?_⟩
          cases updatedAt with
          | none => exact Nat.two_pow_pos 64
          | some time => exact fits time rfl
      · cases isLink

/-! ## Saving and loading -/

theorem run_load_of_save {link : Link} {path : String} {disk after : Disk}
    (saved : (link.save path).run disk = (.ok (), after)) :
    (load path).run after = (read ⟨path, link.text⟩, after) := by
  have written : ∃ middle : Disk, middle.write path link.text = .ok after := by
    rw [save, Script.run_bind] at saved
    rcases ran : (writeFile path link.text).run disk with ⟨result, reached⟩
    rw [ran] at saved
    cases result with
    | error fault => cases saved
    | ok done =>
        cases saved
        rcases run_writeFile_eq_ok ran with ⟨middle, _, written⟩
        exact ⟨middle, written⟩
  rcases written with ⟨middle, written⟩
  rw [load, Script.run_bind, Script.run_isThere, Disk.examine_of_write written,
    Option.isSome_some, if_pos rfl, Script.run_bind, Script.run_textOf,
    Disk.read_of_write written]
  rfl

/-- What was written of the link is read as the link, or refused for its id, from a
text as well as from a disk that it was saved on. -/
structure RoundTrips (link : Link) : Prop where
  read : ∀ name, read ⟨name, link.text⟩ = link.checked ⟨name, link.text⟩
  load : ∀ path disk after, (link.save path).run disk = (.ok (), after) →
    (load path).run after = (link.checked ⟨path, link.text⟩, after)

theorem roundTrips_of_fits {link : Link} (fits : link.updatedAt < Nat.pow 2 64) :
    link.RoundTrips where
  read := read_text fits
  load path disk after saved := by rw [run_load_of_save saved, read_text fits]

/-- Every link whose time can be stored makes the round trip. Every link that is read
from anywhere does so too, and is not refused. -/
theorem saved_link_is_loaded (link : Link) :
    (link.updatedAt < Nat.pow 2 64 → link.RoundTrips) ∧
      ∀ source, Link.read source = .ok link →
        link.isValid = true ∧ link.RoundTrips ∧
          ∀ name, Link.read ⟨name, link.text⟩ = .ok link := by
  refine ⟨roundTrips_of_fits, fun source isLink => ?_⟩
  obtain ⟨valid, fits⟩ := read_eq_ok isLink
  refine ⟨valid, roundTrips_of_fits fits, fun name => ?_⟩
  rw [read_text fits, checked_of_isValid valid]

/-- The latest time that can be stored, and a path that has to be escaped. -/
def lastLink : Link :=
  ⟨"prj-65f0c2a1b3d4e5f601234567", "./modèles \"v2\"", .javaScript, .commonJs, Nat.pow 2 64 - 1⟩

theorem saved_link_is_loaded_lastLink :
    lastLink.RoundTrips ∧ Link.read ⟨"config.json", lastLink.text⟩ = .ok lastLink := by
  have kept : lastLink.RoundTrips := (saved_link_is_loaded lastLink).1 (by decide)
  have isLink : Link.read ⟨"config.json", lastLink.text⟩ = .ok lastLink :=
    (kept.read _).trans (checked_of_isValid (by decide +kernel) _)
  exact ⟨kept, ((saved_link_is_loaded lastLink).2 _ isLink).2.2 "config.json"⟩

end SchemaScaffold.Link
