import SchemaScaffold.Link
import SchemaScaffold.Selection
import SchemaScaffold.StandaloneSchema

/-! The schema files that are written into an existing project. -/

namespace SchemaScaffold

structure Sync where
  collections : List Collection
  language : Language
  moduleSystem : ModuleSystem
  selection : Selection

namespace Sync

def make (collections : List Collection) (language : Language) (moduleSystem : ModuleSystem)
    (selection : Selection) : Sync :=
  ⟨collections, language, .effective language moduleSystem, selection⟩

def ofLink (collections : List Collection) (link : Link) (selection : Selection) : Sync :=
  make collections link.language link.effectiveModuleSystem selection

/-- The selected collections, in the order of the diagram. -/
def selected (sync : Sync) : List Collection :=
  sync.collections.filter fun collection => sync.selection.includes collection

def emissions (sync : Sync) : List Emission :=
  sync.selected.map fun collection =>
    StandaloneSchema.emit collection sync.moduleSystem sync.language

def files (sync : Sync) : List Artifact := sync.emissions.filterMap Emission.artifact?

def skipped (sync : Sync) : List Skipped := sync.emissions.filterMap Emission.skipped?

end Sync

end SchemaScaffold
