import SchemaScaffold.Text.Casing

/-! Optional parts of a generated project. -/

namespace SchemaScaffold

inductive Feature where
  | auth
  | swagger
  | docker
  | tests
deriving DecidableEq, Repr

namespace Feature

def all : List Feature := [auth, swagger, docker, tests]

def name : Feature → String
  | auth => "auth"
  | swagger => "swagger"
  | docker => "docker"
  | tests => "tests"

/-- What a feature is called where a reader chooses or sees it. -/
def label : Feature → String
  | auth => "Authentication (JWT-based auth)"
  | swagger => "Swagger Documentation (API docs)"
  | docker => "Docker Setup (Containerization)"
  | tests => "Unit Tests (Jest testing setup)"

def ofText? (text : String) : Option Feature :=
  all.find? fun feature => feature.name == Text.lowercase text

def unknownMessage (text : String) : String :=
  s!"unknown feature '{text}', expected one of: auth, swagger, docker, tests"

end Feature

/-! The enabled features, each once, in the order in which they were enabled. -/

structure FeatureSet where
  members : List Feature
  nodup : members.Nodup

namespace FeatureSet

def empty : FeatureSet := ⟨[], .nil⟩

def has (features : FeatureSet) (feature : Feature) : Bool :=
  features.members.contains feature

/-- Enabling a feature again changes nothing. -/
def insert (features : FeatureSet) (feature : Feature) : FeatureSet :=
  if member : feature ∈ features.members then
    features
  else
    ⟨features.members ++ [feature], by
      rw [List.nodup_append]
      refine ⟨features.nodup, by simp, ?_⟩
      intro first firstMember second secondMember equal
      simp only [List.mem_singleton] at secondMember
      exact member (secondMember ▸ equal ▸ firstMember)⟩

def ofList (features : List Feature) : FeatureSet :=
  features.foldl insert empty

def isEmpty (features : FeatureSet) : Bool := features.members.isEmpty

example : (ofList [.docker, .auth, .docker]).members = [.docker, .auth] := rfl

/-- The features as one line of text. -/
def display (features : FeatureSet) : String :=
  if features.isEmpty then
    "none"
  else
    ", ".intercalate (features.members.map Feature.name)

@[simp] theorem has_insert (features : FeatureSet) (added feature : Feature) :
    (features.insert added).has feature = (features.has feature || decide (feature = added)) := by
  unfold insert
  split
  · next member =>
      by_cases equal : feature = added
      · subst equal
        simp [has, member]
      · simp [equal]
  · simp [has]

end FeatureSet

end SchemaScaffold
