import SchemaScaffold.Collection

/-! What is generated for one collection: a file, or nothing. -/

namespace SchemaScaffold

/-- A generated source file, named relative to the folder that it belongs to. -/
structure Artifact where
  fileName : String
  content : String
deriving DecidableEq

inductive SkipReason where
  /-- Nothing but the identity field was drawn. -/
  | noFields
deriving DecidableEq

def SkipReason.message : SkipReason → String
  | noFields => "no fields besides _id"

/-- A collection for which nothing was generated. -/
structure Skipped where
  label : String
  reason : SkipReason
deriving DecidableEq

def Skipped.text (skipped : Skipped) : String :=
  skipped.label ++ " (" ++ skipped.reason.message ++ ")"

inductive Emission where
  | file (artifact : Artifact)
  | skipped (skipped : Skipped)
deriving DecidableEq

namespace Emission

/-- Only a collection that declares fields has files. -/
def ofCollection (collection : Collection) (artifact : Artifact) : Emission :=
  if collection.hasDeclared then file artifact else skipped ⟨collection.label, .noFields⟩

def artifact? : Emission → Option Artifact
  | file artifact => some artifact
  | skipped _ => none

def skipped? : Emission → Option Skipped
  | file _ => none
  | skipped reported => some reported

/-! ## All collections -/

variable (artifactOf : Collection → Artifact) (collections : List Collection)

theorem artifacts_ofCollection :
    (collections.filterMap fun collection =>
        (ofCollection collection (artifactOf collection)).artifact?)
      = (collections.filter Collection.hasDeclared).map artifactOf := by
  induction collections with
  | nil => rfl
  | cons collection rest induction =>
      rw [List.filterMap_cons, List.filter_cons, induction, ofCollection]
      cases collection.hasDeclared <;> rfl

theorem skipped_ofCollection :
    (collections.filterMap fun collection =>
        (ofCollection collection (artifactOf collection)).skipped?)
      = (collections.filter fun collection => !collection.hasDeclared).map fun collection =>
          ⟨collection.label, .noFields⟩ := by
  induction collections with
  | nil => rfl
  | cons collection rest induction =>
      rw [List.filterMap_cons, List.filter_cons, induction, ofCollection]
      cases collection.hasDeclared <;> rfl

end Emission

end SchemaScaffold
