/-! JSON values as they are held in memory. A number is an integer when it was
written as one and fits in 64 bits, and a float otherwise. The members of an
object are kept sorted by key. -/

namespace SchemaScaffold.Json

inductive Number where
  | integer (value : Int)
  | float (value : Float)

inductive Value where
  | null
  | bool (value : Bool)
  | number (number : Number)
  | string (text : String)
  | array (items : List Value)
  | object (members : List (String × Value))

instance : Inhabited Value := ⟨.null⟩

/-- Put a member in its place. The last value for a key wins. -/
def insertMember (key : String) (value : Value) :
    List (String × Value) → List (String × Value)
  | [] => [(key, value)]
  | (other, current) :: rest =>
      if key < other then (key, value) :: (other, current) :: rest
      else if key = other then (key, value) :: rest
      else (other, current) :: insertMember key value rest

def sortMembers (members : List (String × Value)) : List (String × Value) :=
  members.foldl (fun sorted (key, value) => insertMember key value sorted) []

namespace Value

/-- The object with these members. -/
def ofMembers (members : List (String × Value)) : Value := .object (sortMembers members)

def ofNat (n : Nat) : Value := .number (.integer n)

/-- The member of an object with this key. -/
def member? (value : Value) (key : String) : Option Value :=
  match value with
  | .object members => (members.find? fun (other, _) => other == key).map (·.2)
  | _ => none

end Value

end SchemaScaffold.Json
