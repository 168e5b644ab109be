import SchemaScaffold.Json.Value

/-! What is inside a value: properties that hold of a value and of all values in
it, and how deep its brackets are nested. -/

namespace SchemaScaffold.Json

namespace Value

/-- The values directly inside a value. -/
def children : Value → List Value
  | .array items => items
  | .object members => members.map Prod.snd
  | _ => []

def keys : Value → List String
  | .object members => members.map Prod.fst
  | _ => []

theorem sizeOf_child_lt {value child : Value} (inside : child ∈ value.children) :
    sizeOf child < sizeOf value := by
  cases value with
  | null | bool | number | string => simp [children] at inside
  | array items =>
      have smaller := List.sizeOf_lt_of_mem (show child ∈ items from inside)
      simp only [array.sizeOf_spec]
      omega
  | object members =>
      rcases List.mem_map.mp inside with ⟨member, isMember, rfl⟩
      have smaller := List.sizeOf_lt_of_mem isMember
      rcases member with ⟨key, value⟩
      simp only [object.sizeOf_spec, Prod.mk.sizeOf_spec] at smaller ⊢
      omega

/-- A property that passes from the values directly inside a value to the value
itself holds of all values. -/
theorem induction_on_children {motive : Value → Prop}
    (step : ∀ value : Value, (∀ child ∈ value.children, motive child) → motive value)
    (value : Value) : motive value :=
  step value fun child inside =>
    have := sizeOf_child_lt inside
    induction_on_children step child
termination_by sizeOf value

/-- Of a value and of everything in it. -/
inductive Everywhere (holds : Value → Prop) : Value → Prop
  | intro {value : Value} (here : holds value)
      (inside : ∀ child ∈ value.children, Everywhere holds child) : Everywhere holds value

namespace Everywhere

variable {holds : Value → Prop} {value : Value}

theorem here (everywhere : Everywhere holds value) : holds value := by
  cases everywhere with
  | intro here _ => exact here

theorem child {inner : Value} (everywhere : Everywhere holds value)
    (inside : inner ∈ value.children) : Everywhere holds inner := by
  cases everywhere with
  | intro _ below => exact below inner inside

theorem item {items : List Value} {item : Value} (everywhere : Everywhere holds (.array items))
    (isItem : item ∈ items) : Everywhere holds item :=
  everywhere.child isItem

theorem member {members : List (String × Value)} {key : String} {value : Value}
    (everywhere : Everywhere holds (.object members)) (isMember : (key, value) ∈ members) :
    Everywhere holds value :=
  everywhere.child (List.mem_map.mpr ⟨(key, value), isMember, rfl⟩)

theorem mono {other : Value → Prop} (weaker : ∀ value, holds value → other value)
    (everywhere : Everywhere holds value) : Everywhere other value := by
  induction everywhere with
  | intro here _ induction => exact .intro (weaker _ here) induction

theorem and {other : Value → Prop} (everywhere : Everywhere holds value)
    (everywhere' : Everywhere other value) :
    Everywhere (fun value => holds value ∧ other value) value := by
  induction everywhere with
  | intro here _ induction =>
      exact .intro ⟨here, everywhere'.here⟩ fun child inside =>
        induction child inside (everywhere'.child inside)

private theorem scalar_iff (scalar : value.children = []) :
    Everywhere holds value ↔ holds value := by
  refine ⟨here, fun holds => .intro holds fun child inside => ?_⟩
  rw [scalar] at inside
  cases inside

theorem null_iff : Everywhere holds .null ↔ holds .null :=
  scalar_iff rfl

theorem bool_iff {flag : Bool} : Everywhere holds (.bool flag) ↔ holds (.bool flag) :=
  scalar_iff rfl

theorem number_iff {number : Number} :
    Everywhere holds (.number number) ↔ holds (.number number) :=
  scalar_iff rfl

theorem string_iff {text : String} : Everywhere holds (.string text) ↔ holds (.string text) :=
  scalar_iff rfl

theorem array_iff {items : List Value} :
    Everywhere holds (.array items) ↔
      holds (.array items) ∧ ∀ item ∈ items, Everywhere holds item :=
  ⟨fun everywhere => ⟨everywhere.here, fun _ isItem => everywhere.item isItem⟩,
    fun ⟨here, inside⟩ => .intro here inside⟩

theorem object_iff {members : List (String × Value)} :
    Everywhere holds (.object members) ↔
      holds (.object members) ∧ ∀ member ∈ members, Everywhere holds member.2 := by
  refine ⟨fun everywhere => ⟨everywhere.here, fun _ isMember => everywhere.member isMember⟩,
    fun ⟨here, inside⟩ => .intro here fun child isChild => ?_⟩
  rcases List.mem_map.mp isChild with ⟨member, isMember, rfl⟩
  exact inside member isMember

end Everywhere

/-! ## How values are stored -/

/-- In no object a key occurs twice. -/
def Distinct : Value → Prop := Everywhere fun value => value.keys.Nodup

/-- The members of every object are in the order of their keys. -/
def Sorted : Value → Prop := Everywhere fun value => value.keys.Pairwise (· < ·)

theorem Sorted.distinct {value : Value} (sorted : value.Sorted) : value.Distinct := by
  apply Everywhere.mono _ sorted
  intro value ordered
  apply ordered.imp
  intro left right smaller equal
  exact String.lt_irrefl _ (equal ▸ smaller)

/-- An integer that fits in 64 bits, with or without a sign. -/
def IsStoredInteger (value : Int) : Prop := -Int.pow 2 63 ≤ value ∧ value < Int.pow 2 64

def HasStoredNumber : Value → Prop
  | .number (.integer value) => IsStoredInteger value
  | .number (.float _) => False
  | _ => True

/-- Every number is a stored integer. -/
def Integral : Value → Prop := Everywhere HasStoredNumber

/-- This is no number that is kept as a float. -/
def IsNoFloat : Value → Prop
  | .number (.float _) => False
  | _ => True

/-- Nowhere in the value a number is kept as a float. -/
def HasNoFloat : Value → Prop := Everywhere IsNoFloat

theorem HasStoredNumber.isNoFloat {value : Value} (stored : value.HasStoredNumber) :
    value.IsNoFloat := by
  cases value with
  | number number =>
      cases number with
      | integer value => trivial
      | float value => exact stored
  | _ => trivial

/-! ## Nesting -/

mutual

/-- How many brackets are open at a time. -/
def nesting : Value → Nat
  | .array items => nestingOfItems items + 1
  | .object members => nestingOfMembers members + 1
  | _ => 0

def nestingOfItems : List Value → Nat
  | [] => 0
  | item :: rest => max item.nesting (nestingOfItems rest)

def nestingOfMembers : List (String × Value) → Nat
  | [] => 0
  | (_, value) :: rest => max value.nesting (nestingOfMembers rest)

end

theorem nesting_le_of_item {item : Value} {items : List Value} (isItem : item ∈ items) :
    item.nesting ≤ nestingOfItems items := by
  induction items with
  | nil => cases isItem
  | cons head rest induction =>
      rw [nestingOfItems]
      rcases List.mem_cons.mp isItem with equal | later
      · subst equal
        exact Nat.le_max_left _ _
      · exact Nat.le_trans (induction later) (Nat.le_max_right _ _)

theorem nesting_le_of_member {key : String} {value : Value} {members : List (String × Value)}
    (isMember : (key, value) ∈ members) : value.nesting ≤ nestingOfMembers members := by
  induction members with
  | nil => cases isMember
  | cons head rest induction =>
      rcases head with ⟨headKey, headValue⟩
      rw [nestingOfMembers]
      rcases List.mem_cons.mp isMember with equal | later
      · cases equal
        exact Nat.le_max_left _ _
      · exact Nat.le_trans (induction later) (Nat.le_max_right _ _)

theorem nestingOfItems_le {bound : Nat} {items : List Value}
    (bounded : ∀ item ∈ items, item.nesting ≤ bound) : nestingOfItems items ≤ bound := by
  induction items with
  | nil => exact Nat.zero_le _
  | cons head rest induction =>
      rw [nestingOfItems]
      exact Nat.max_le.mpr ⟨bounded head (List.mem_cons_self ..),
        induction fun item isItem => bounded item (List.mem_cons_of_mem _ isItem)⟩

theorem nestingOfMembers_le {bound : Nat} {members : List (String × Value)}
    (bounded : ∀ member ∈ members, member.2.nesting ≤ bound) :
    nestingOfMembers members ≤ bound := by
  induction members with
  | nil => exact Nat.zero_le _
  | cons head rest induction =>
      rw [nestingOfMembers]
      exact Nat.max_le.mpr ⟨bounded head (List.mem_cons_self ..),
        induction fun member isMember => bounded member (List.mem_cons_of_mem _ isMember)⟩

/-- A property that holds everywhere in a value whose brackets are nested no deeper
than given. -/
structure Bounded (holds : Value → Prop) (depth : Nat) (value : Value) : Prop where
  everywhere : Everywhere holds value
  shallow : value.nesting ≤ depth

namespace Bounded

variable {holds : Value → Prop} {depth : Nat}

theorem scalar {value : Value} (leaf : value.children = []) (flat : value.nesting = 0)
    (here : holds value) : value.Bounded holds depth where
  everywhere := .intro here (by simp [leaf])
  shallow := by omega

theorem array {items : List Value} (here : holds (.array items))
    (inside : ∀ item ∈ items, item.Bounded holds depth) :
    Bounded holds (depth + 1) (.array items) where
  everywhere := Everywhere.array_iff.mpr
    ⟨here, fun item isItem => (inside item isItem).everywhere⟩
  shallow := Nat.succ_le_succ (nestingOfItems_le fun item isItem => (inside item isItem).shallow)

theorem object {members : List (String × Value)} (here : holds (.object members))
    (inside : ∀ member ∈ members, member.2.Bounded holds depth) :
    Bounded holds (depth + 1) (.object members) where
  everywhere := Everywhere.object_iff.mpr
    ⟨here, fun member isMember => (inside member isMember).everywhere⟩
  shallow := Nat.succ_le_succ
    (nestingOfMembers_le fun member isMember => (inside member isMember).shallow)

end Bounded

end Value

/-! ## Members in order -/

theorem insertMember_of_greatest {key : String} {value : Value}
    {members : List (String × Value)} (greatest : ∀ member ∈ members, member.1 < key) :
    insertMember key value members = members ++ [(key, value)] := by
  induction members with
  | nil => rfl
  | cons head rest induction =>
      rcases head with ⟨other, current⟩
      have smaller : other < key := greatest (other, current) (List.mem_cons_self ..)
      have notGreater : ¬ key < other := String.lt_asymm smaller
      have different : key ≠ other := fun equal => String.lt_irrefl _ (equal ▸ smaller)
      rw [insertMember, if_neg notGreater, if_neg different,
        induction fun member isMember => greatest member (List.mem_cons_of_mem _ isMember)]
      rfl

private theorem foldl_insertMember {members sorted : List (String × Value)}
    (ordered : ((sorted ++ members).map Prod.fst).Pairwise (· < ·)) :
    members.foldl (fun sorted (key, value) => insertMember key value sorted) sorted
      = sorted ++ members := by
  induction members generalizing sorted with
  | nil => simp
  | cons head rest induction =>
      rcases head with ⟨key, value⟩
      have greatest : ∀ member ∈ sorted, member.1 < key := by
        intro member isMember
        rw [List.map_append, List.pairwise_append] at ordered
        exact ordered.2.2 member.1 (List.mem_map_of_mem isMember) key (by simp)
      change rest.foldl _ (insertMember key value sorted) = _
      rw [insertMember_of_greatest greatest, induction (by simpa using ordered)]
      simp

/-- Members that are in order stay as they are. -/
theorem sortMembers_of_ordered {members : List (String × Value)}
    (ordered : (members.map Prod.fst).Pairwise (· < ·)) : sortMembers members = members :=
  @foldl_insertMember members [] ordered

end SchemaScaffold.Json
