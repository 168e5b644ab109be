import SchemaScaffold.Emission

/-! What a command tells its user. -/

namespace SchemaScaffold

/-- A line of a report. -/
inductive ReportLine where
  | heading (title : String)
  | property (name value : String)
  | item (text : String)
  /-- A file that was written. -/
  | added (name : String)
  | warning (text : String)
  | success (text : String)
  | divider (title : String)
  /-- A text as it is, which may be several lines long. -/
  | text (text : String)
  | blank
deriving DecidableEq

namespace ReportLine

def render : ReportLine → String
  | .heading title => title ++ ":"
  | .property name value => name ++ ": " ++ value
  | .item content => "  - " ++ content
  | .added name => "  + " ++ name
  | .warning content => "warning: " ++ content
  | .success content => "✓ " ++ content
  | .divider title => "── " ++ title ++ " ──"
  | .text content => content
  | .blank => ""

/-- Warnings are kept apart from what a command prints. -/
def isWarning : ReportLine → Bool
  | .warning _ => true
  | _ => false

end ReportLine

def skippedLines (skipped : List Skipped) : List ReportLine :=
  if skipped.isEmpty then []
  else .blank :: .heading "Skipped collections" :: skipped.map fun skipped => .item skipped.text

/-- Collections of one label write the same files. -/
def duplicateWarnings (collections : List Collection) : List String :=
  (repeatedLabels collections).map fun label =>
    s!"Collection '{label}' appears more than once; later files overwrite earlier ones"

/-! ## Generating a project -/

inductive GenerationResult where
  /-- The names of the written files and of those that were left alone. -/
  | written (folder : String) (written kept : List String)
  /-- The names and contents of the files that would be written. -/
  | preview (files : List (String × String))

structure GenerationReport where
  projectName : String
  language : String
  /-- The features as one line of text. -/
  features : String
  warnings : List String
  skipped : List Skipped
  result : GenerationResult

namespace GenerationReport

def headLines (report : GenerationReport) : List ReportLine :=
  [.property "Project" report.projectName, .property "Language" report.language]
    ++ if report.features.isEmpty then [] else [.property "Features" report.features]

def keptLines (kept : List String) : List ReportLine :=
  if kept.isEmpty then [] else .blank :: .heading "Kept existing" :: kept.map .item

def nextLines (folder : String) : List ReportLine :=
  [.blank, .success ("API project generated in " ++ folder), .blank, .heading "Next steps",
   .text ("  cd " ++ folder), .text "  npm install", .text "  npm run dev"]

def resultLines (report : GenerationReport) : List ReportLine :=
  match report.result with
  | .written folder written kept =>
      report.headLines
        ++ .blank :: .heading ("Generated (" ++ toString written.length ++ ")")
        :: written.map .added
        ++ keptLines kept
        ++ skippedLines report.skipped
        ++ nextLines folder
  | .preview files =>
      files.flatMap (fun (name, content) => [.divider name, .text content])
        ++ [.divider "Summary", .text (toString files.length ++ " files would be generated")]
        ++ skippedLines report.skipped

def lines (report : GenerationReport) : List ReportLine :=
  report.warnings.map .warning ++ report.resultLines

end GenerationReport

/-! ## Writing schemas into a project -/

structure SyncReport where
  title : String
  folder : String
  warnings : List String
  written : List String
  skipped : List Skipped

def SyncReport.lines (report : SyncReport) : List ReportLine :=
  report.warnings.map .warning
    ++ .heading
        ("Schemas written to " ++ report.folder ++ " (" ++ toString report.written.length ++ ")")
    :: report.written.map .added
    ++ skippedLines report.skipped
    ++ [.blank, .success ("Project synced successfully: " ++ report.title)]

end SchemaScaffold
