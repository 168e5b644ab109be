import SchemaScaffold.Feature
import SchemaScaffold.Target

/-! The settings of one project generation. -/

namespace SchemaScaffold

structure Config where
  projectName : String
  language : Language
  features : FeatureSet
  /-- Where the project is written, as the user gave it. -/
  outputFolder : String

namespace Config

def has (config : Config) (feature : Feature) : Bool := config.features.has feature

def isTyped (config : Config) : Bool := config.language.isTyped

/-- The extension of source files, without its dot. -/
def extension (config : Config) : String := config.language.extension

end Config

def isProjectNameChar (c : Char) : Bool :=
  ('a' ≤ c && c ≤ 'z') || ('0' ≤ c && c ≤ '9') || c == '-'

/-- A project name consists of small Latin letters, digits and hyphens. -/
def isProjectName (name : String) : Bool :=
  !name.isEmpty && name.toList.all isProjectNameChar

end SchemaScaffold
