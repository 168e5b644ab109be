import SchemaScaffold.Json.Shape.OfValue
import SchemaScaffold.Proofs.Json.Contents

/-! What a value must look like to be taken as a shape, and what is taken from
it. For a record this is stated by the value that it has for each member, no
matter whether it is written as an object or as a list. -/

namespace SchemaScaffold.Json

variable {α β σ : Type}

theorem bind_eq_ok {result : Except ε α} {next : α → Except ε β} {final : β} :
    (result >>= next) = .ok final ↔ ∃ value, result = .ok value ∧ next value = .ok final := by
  cases result with
  | error fault =>
      constructor
      · intro equal
        cases equal
      · intro steps
        rcases steps with ⟨_, equal, _⟩
        cases equal
  | ok value =>
      constructor
      · exact fun equal => ⟨value, rfl, equal⟩
      · intro steps
        rcases steps with ⟨_, equal, continued⟩
        cases equal
        exact continued

theorem pure_eq_ok {value final : α} :
    (pure value : Except ε α) = .ok final ↔ value = final :=
  ⟨Except.ok.inj, congrArg Except.ok⟩

/-! ## The values of a record -/

/-- The value under a key. -/
def valueOf? (key : String) (entries : List (String × Value)) : Option Value :=
  (entries.find? fun entry => entry.1 == key).map Prod.snd

namespace Value

/-- The values that an object has under these keys, or that a list has at their
positions. A list may end early but not have more items than there are keys. -/
def slots? (keys : List String) : Value → Option (List (Option Value))
  | .object entries => some (keys.map fun key => valueOf? key entries)
  | .array items =>
      if items.length ≤ keys.length then
        some (items.map some ++ List.replicate (keys.length - items.length) none)
      else none
  | _ => none

end Value

example : (Value.array [.null]).slots? ["name", "type"] = some [some .null, none] := rfl

namespace Members

def keys : Members → List String
  | .nil => []
  | .required key _ rest => key :: rest.keys
  | .optional key _ rest => key :: rest.keys

theorem length_keys : (members : Members) → members.keys.length = members.size
  | .nil => rfl
  | .required _ _ rest => congrArg (· + 1) rest.length_keys
  | .optional _ _ rest => congrArg (· + 1) rest.length_keys

end Members

/-- A missing value gives nothing, and one that is there must be converted. -/
def TakesOptional (convert : Value → Except Reason α) : Option Value → Option α → Prop
  | none, contents => contents = none
  | some value, contents => ∃ converted, convert value = .ok converted ∧ contents = some converted

theorem takesOptional_some {convert : Value → Except Reason α} {value? : Option Value}
    {contents : α} :
    TakesOptional convert value? (some contents) ↔
      ∃ value, value? = some value ∧ convert value = .ok contents := by
  cases value? <;> simp [TakesOptional]

namespace Members

/-- The contents come from these values, one for each member. -/
def Takes : (members : Members) → List (Option Value) → members.Denote → Prop
  | .nil, values, () => values = []
  | .required _ shape rest, values, (head, tail) =>
      ∃ value others, values = some value :: others ∧ shape.ofValue value = .ok head ∧
        rest.Takes others tail
  | .optional _ shape rest, values, (head, tail) =>
      ∃ value? others, values = value? :: others ∧
        TakesOptional (fun value => shape.ofValue value) value? head ∧ rest.Takes others tail

end Members

/-! ## Lists -/

theorem Members.ofItems_eq_ok (expected : String) (length : Nat) :
    (members : Members) → (index : Nat) → (items : List Value) → (contents : members.Denote) →
    (members.ofItems expected length index items = .ok contents ↔
      items.length ≤ members.size ∧
        members.Takes (items.map some ++ List.replicate (members.size - items.length) none)
          contents)
  | .nil, _, [], () => by simp [ofItems, Takes, size]
  | .nil, _, _ :: _, () => by simp [ofItems, size]
  | .required _ shape rest, _, [], (head, tail) => by
      simp [ofItems, Takes, size, List.replicate_succ]
  | .required _ shape rest, index, item :: items, (head, tail) => by
      have later := rest.ofItems_eq_ok expected length (index + 1) items
      simp only [ofItems, bind_eq_ok, pure_eq_ok, later]
      simp only [Takes, size, List.map_cons, List.length_cons, Nat.add_sub_add_right,
        Nat.add_le_add_iff_right, List.cons_append]
      constructor
      · intro converts
        rcases converts with ⟨_, converted, _, ⟨short, taken⟩, equal⟩
        cases equal
        exact ⟨short, item, _, rfl, converted, taken⟩
      · intro takes
        rcases takes with ⟨short, _, _, equal, converted, taken⟩
        cases equal
        exact ⟨_, converted, _, ⟨short, taken⟩, rfl⟩
  | .optional _ shape rest, index, [], (head, tail) => by
      have later := rest.ofItems_eq_ok expected length (index + 1) []
      simp only [ofItems, bind_eq_ok, pure_eq_ok, later]
      simp only [Takes, size, List.length_nil, List.map_nil, List.nil_append, Nat.sub_zero,
        Nat.zero_le, true_and, List.replicate_succ]
      constructor
      · intro converted
        rcases converted with ⟨_, taken, equal⟩
        cases equal
        exact ⟨none, _, rfl, rfl, taken⟩
      · intro taken
        rcases taken with ⟨_, _, equal, missing, taken⟩
        cases equal
        cases missing
        exact ⟨tail, taken, rfl⟩
  | .optional _ shape rest, index, item :: items, (head, tail) => by
      have later := rest.ofItems_eq_ok expected length (index + 1) items
      simp only [ofItems, bind_eq_ok, pure_eq_ok, later]
      simp only [Takes, size, List.map_cons, List.length_cons, Nat.add_sub_add_right,
        Nat.add_le_add_iff_right, List.cons_append]
      constructor
      · intro converts
        rcases converts with ⟨value, converted, _, ⟨short, taken⟩, equal⟩
        cases equal
        exact ⟨short, some item, _, rfl, ⟨value, converted, rfl⟩, taken⟩
      · intro takes
        rcases takes with ⟨short, _, _, equal, here, taken⟩
        cases equal
        rcases here with ⟨value, converted, rfl⟩
        exact ⟨value, converted, _, ⟨short, taken⟩, rfl⟩

/-! ## Objects

Each member only has to do with the entries under its own key, so the entries of
an object are split between the first member and the others. -/

theorem absorbAll_ok {absorb : (key : String) → Value → σ → Except Reason σ} {key : String}
    {value : Value} {rest : List (String × Value)} {filled filled' : σ}
    (absorbed : absorb key value filled = .ok filled') :
    absorbAll absorb ((key, value) :: rest) filled = absorbAll absorb rest filled' := by
  rw [absorbAll, absorbed]
  rfl

theorem absorbAll_error {absorb : (key : String) → Value → σ → Except Reason σ} {key : String}
    {value : Value} {rest : List (String × Value)} {filled : σ} {reason : Reason}
    (absorbed : absorb key value filled = .error reason) :
    absorbAll absorb ((key, value) :: rest) filled = .error reason := by
  rw [absorbAll, absorbed]
  rfl

def under (key : String) (entries : List (String × Value)) : List (String × Value) :=
  entries.filter fun entry => entry.1 == key

def notUnder (key : String) (entries : List (String × Value)) : List (String × Value) :=
  entries.filter fun entry => entry.1 != key

theorem under_cons (key : String) (entry : String × Value) (rest : List (String × Value)) :
    under key (entry :: rest)
      = if entry.1 == key then entry :: under key rest else under key rest :=
  List.filter_cons

theorem notUnder_cons (key : String) (entry : String × Value) (rest : List (String × Value)) :
    notUnder key (entry :: rest)
      = if entry.1 == key then notUnder key rest else entry :: notUnder key rest := by
  cases isKey : entry.1 == key <;> simp [notUnder, isKey, bne]

/-- Put a value that is for this member into its slot. -/
def fill (convert : Value → Except Reason α) (_ : String) (value : Value) (_ : Option α) :
    Except Reason (Option α) := do
  let converted ← convert value
  pure (some converted)

/-- Put a value into the first slot or into the others. -/
def fillOr (name : String) (convert : Value → Except Reason α)
    (absorb : (key : String) → Value → β → Except Reason β) (key : String) (value : Value)
    (filled : Option α × β) : Except Reason (Option α × β) :=
  if key == name then do
    let converted ← convert value
    pure (some converted, filled.2)
  else do
    let others ← absorb key value filled.2
    pure (filled.1, others)

theorem fillOr_of_eq {name key : String} {convert : Value → Except Reason α}
    {absorb : (key : String) → Value → β → Except Reason β} {value : Value} {slot : Option α}
    {others : β} (isName : (key == name) = true) :
    fillOr name convert absorb key value (slot, others)
      = (fill convert key value slot).map fun slot => (slot, others) := by
  rw [fillOr, if_pos isName, fill]
  cases convert value <;> rfl

theorem fillOr_of_ne {name key : String} {convert : Value → Except Reason α}
    {absorb : (key : String) → Value → β → Except Reason β} {value : Value} {slot : Option α}
    {others : β} (isOther : (key == name) = false) :
    fillOr name convert absorb key value (slot, others)
      = (absorb key value others).map fun others => (slot, others) := by
  rw [fillOr, isOther, if_neg Bool.false_ne_true]
  cases absorb key value others <;> rfl

theorem absorbAll_fillOr {name : String} {convert : Value → Except Reason α}
    {absorb : (key : String) → Value → β → Except Reason β} {entries : List (String × Value)}
    {slot final : Option α} {others finalOthers : β} :
    absorbAll (fillOr name convert absorb) entries (slot, others) = .ok (final, finalOthers) ↔
      absorbAll (fill convert) (under name entries) slot = .ok final ∧
        absorbAll absorb (notUnder name entries) others = .ok finalOthers := by
  induction entries generalizing slot others with
  | nil => simp [absorbAll, under, notUnder]
  | cons entry rest induction =>
      rcases entry with ⟨key, value⟩
      cases isName : key == name with
      | true =>
          have both : fillOr name convert absorb key value (slot, others)
              = (fill convert key value slot).map fun slot => (slot, others) := fillOr_of_eq isName
          rw [under_cons, notUnder_cons, if_pos isName, if_pos isName]
          cases filled : fill convert key value slot with
          | error reason =>
              rw [filled] at both
              rw [absorbAll_error filled, absorbAll_error both]
              simp
          | ok slot' =>
              rw [filled] at both
              rw [absorbAll_ok filled, absorbAll_ok both]
              exact induction
      | false =>
          have both : fillOr name convert absorb key value (slot, others)
              = (absorb key value others).map fun others => (slot, others) := fillOr_of_ne isName
          rw [under_cons, notUnder_cons, isName, if_neg Bool.false_ne_true,
            if_neg Bool.false_ne_true]
          cases absorbed : absorb key value others with
          | error reason =>
              rw [absorbed] at both
              rw [absorbAll_error absorbed, absorbAll_error both]
              simp
          | ok others' =>
              rw [absorbed] at both
              rw [absorbAll_ok absorbed, absorbAll_ok both]
              exact induction

/-- The slot of a member is filled from the one entry under its key, if there is
one. -/
theorem absorbAll_fill {convert : Value → Except Reason α} {key : String}
    {entries : List (String × Value)} {slot : Option α}
    (distinct : (entries.map Prod.fst).Nodup) :
    absorbAll (fill convert) (under key entries) none = .ok slot ↔
      TakesOptional convert (valueOf? key entries) slot := by
  induction entries with
  | nil =>
      exact ⟨fun equal => (Except.ok.inj equal).symm, fun equal => congrArg Except.ok equal.symm⟩
  | cons entry rest induction =>
      rcases entry with ⟨other, value⟩
      rcases List.nodup_cons.mp distinct with ⟨fresh, distinct⟩
      cases isKey : other == key with
      | true =>
          have noOther : under key rest = [] := by
            rw [under, List.filter_eq_nil_iff]
            intro entry isEntry same
            apply fresh
            have member : entry.1 ∈ rest.map Prod.fst := List.mem_map_of_mem isEntry
            rwa [eq_of_beq same, ← eq_of_beq isKey] at member
          have found : valueOf? key ((other, value) :: rest) = some value := by
            simp [valueOf?, isKey]
          rw [under_cons, if_pos isKey, noOther, found, absorbAll, fill]
          simp only [absorbAll, bind_eq_ok, pure_eq_ok]
          constructor
          · intro filled
            rcases filled with ⟨_, ⟨converted, equal, rfl⟩, last⟩
            cases last
            exact ⟨converted, equal, rfl⟩
          · intro takes
            rcases takes with ⟨converted, equal, rfl⟩
            exact ⟨_, ⟨converted, equal, rfl⟩, rfl⟩
      | false =>
          have found : valueOf? key ((other, value) :: rest) = valueOf? key rest := by
            simp [valueOf?, isKey]
          rw [under_cons, isKey, if_neg Bool.false_ne_true, found]
          exact induction distinct

/-- Entries under another key make no difference. -/
theorem valueOf?_notUnder {key name : String} {entries : List (String × Value)}
    (different : key ≠ name) : valueOf? key (notUnder name entries) = valueOf? key entries := by
  rw [valueOf?, valueOf?, notUnder, List.find?_filter]
  congr 2
  funext entry
  cases isKey : entry.1 == key with
  | true => simp [eq_of_beq isKey, different]
  | false => simp

theorem nodup_notUnder {name : String} {entries : List (String × Value)}
    (distinct : (entries.map Prod.fst).Nodup) : ((notUnder name entries).map Prod.fst).Nodup :=
  distinct.sublist (List.filter_sublist.map Prod.fst)

namespace Members

theorem absorb_required (name : String) (shape : Shape) (rest : Members) :
    (fun key value filled => (required name shape rest).absorb key value filled)
      = fillOr name (fun value => shape.ofValue value)
          (fun key value filled => rest.absorb key value filled) := by
  funext key value ⟨slot, others⟩
  rfl

theorem absorb_optional (name : String) (shape : Shape) (rest : Members) :
    (fun key value filled => (optional name shape rest).absorb key value filled)
      = fillOr name (fun value => shape.ofValue value)
          (fun key value filled => rest.absorb key value filled) := by
  funext key value ⟨slot, others⟩
  rfl

theorem map_valueOf?_notUnder {name : String} {keys : List String}
    (entries : List (String × Value)) (fresh : name ∉ keys) :
    (keys.map fun key => valueOf? key (notUnder name entries))
      = keys.map fun key => valueOf? key entries := by
  apply List.map_congr_left
  intro key isKey
  apply valueOf?_notUnder
  intro equal
  rw [equal] at isKey
  exact fresh isKey

theorem complete_required {name : String} {shape : Shape} {rest : Members}
    {slot : Option shape.Denote} {others : rest.Slots} {head : shape.Denote} {tail : rest.Denote} :
    (required name shape rest).complete (slot, others) = .ok (head, tail) ↔
      slot = some head ∧ rest.complete others = .ok tail := by
  cases slot with
  | none => simp [complete]
  | some value =>
      simp only [complete, bind_eq_ok, pure_eq_ok, Option.some.injEq]
      constructor
      · intro completes
        rcases completes with ⟨_, completed, equal⟩
        cases equal
        exact ⟨rfl, completed⟩
      · intro parts
        rcases parts with ⟨rfl, completed⟩
        exact ⟨tail, completed, rfl⟩

theorem complete_optional {name : String} {shape : Shape} {rest : Members}
    {slot head : Option shape.Denote} {others : rest.Slots} {tail : rest.Denote} :
    (optional name shape rest).complete (slot, others) = .ok (head, tail) ↔
      slot = head ∧ rest.complete others = .ok tail := by
  simp only [complete, bind_eq_ok, pure_eq_ok]
  constructor
  · intro completes
    rcases completes with ⟨_, completed, equal⟩
    cases equal
    exact ⟨rfl, completed⟩
  · intro parts
    rcases parts with ⟨rfl, completed⟩
    exact ⟨tail, completed, rfl⟩

/-- Without members every entry is passed over. -/
theorem absorbAll_nil (entries : List (String × Value)) :
    absorbAll (fun key value filled => nil.absorb key value filled) entries nil.emptySlots
      = .ok () := by
  induction entries with
  | nil => rfl
  | cons entry rest induction => exact (absorbAll_ok rfl).trans induction

/-- Going through the entries of an object and completing the slots takes the
values that are under the keys of the members. -/
theorem absorbAll_eq_ok : (members : Members) → members.keys.Nodup →
    (entries : List (String × Value)) → (entries.map Prod.fst).Nodup →
    (contents : members.Denote) →
    ((∃ filled, absorbAll (fun key value filled => members.absorb key value filled) entries
        members.emptySlots = .ok filled ∧ members.complete filled = .ok contents) ↔
      members.Takes (members.keys.map fun key => valueOf? key entries) contents)
  | .nil, _, entries, _, () =>
      ⟨fun _ => rfl, fun _ => ⟨(), absorbAll_nil entries, rfl⟩⟩
  | .required name shape rest, names, entries, distinct, (head, tail) => by
      rcases List.nodup_cons.mp names with ⟨fresh, names⟩
      have later := rest.absorbAll_eq_ok names (notUnder name entries) (nodup_notUnder distinct)
        tail
      rw [map_valueOf?_notUnder entries fresh] at later
      rw [absorb_required, emptySlots]
      constructor
      · intro absorbs
        rcases absorbs with ⟨⟨slot, others⟩, absorbed, completed⟩
        rw [absorbAll_fillOr, absorbAll_fill distinct] at absorbed
        rcases complete_required.mp completed with ⟨rfl, behind⟩
        rcases takesOptional_some.mp absorbed.1 with ⟨value, found, converted⟩
        exact ⟨value, _, by rw [← found]; rfl, converted, later.mp ⟨others, absorbed.2, behind⟩⟩
      · intro takes
        rcases takes with ⟨value, _, equal, converted, taken⟩
        rcases List.cons.inj equal with ⟨found, rfl⟩
        rcases later.mpr taken with ⟨others, absorbed, completed⟩
        refine ⟨(some head, others), ?_, complete_required.mpr ⟨rfl, completed⟩⟩
        rw [absorbAll_fillOr, absorbAll_fill distinct]
        exact ⟨takesOptional_some.mpr ⟨value, found, converted⟩, absorbed⟩
  | .optional name shape rest, names, entries, distinct, (head, tail) => by
      rcases List.nodup_cons.mp names with ⟨fresh, names⟩
      have later := rest.absorbAll_eq_ok names (notUnder name entries) (nodup_notUnder distinct)
        tail
      rw [map_valueOf?_notUnder entries fresh] at later
      rw [absorb_optional, emptySlots]
      constructor
      · intro absorbs
        rcases absorbs with ⟨⟨slot, others⟩, absorbed, completed⟩
        rw [absorbAll_fillOr, absorbAll_fill distinct] at absorbed
        rcases complete_optional.mp completed with ⟨rfl, behind⟩
        exact ⟨_, _, rfl, absorbed.1, later.mp ⟨others, absorbed.2, behind⟩⟩
      · intro takes
        rcases takes with ⟨_, _, equal, taken, takenBehind⟩
        rcases List.cons.inj equal with ⟨rfl, rfl⟩
        rcases later.mpr takenBehind with ⟨others, absorbed, completed⟩
        refine ⟨(head, others), ?_, complete_optional.mpr ⟨rfl, completed⟩⟩
        rw [absorbAll_fillOr, absorbAll_fill distinct]
        exact ⟨taken, absorbed⟩

end Members

/-! ## Records -/

/-- What a record takes from a value depends on the values of its members only. -/
theorem Shape.ofValue_record_eq_ok {name : String} {members : Members} {value : Value}
    {contents : members.Denote} (names : members.keys.Nodup) (distinct : value.keys.Nodup) :
    (Shape.record name members).ofValue value = .ok contents ↔
      ∃ values, value.slots? members.keys = some values ∧ members.Takes values contents := by
  cases value with
  | array items =>
      rw [ofValue, members.ofItems_eq_ok, Value.slots?, members.length_keys]
      constructor
      · intro fits
        rcases fits with ⟨short, taken⟩
        exact ⟨_, if_pos short, taken⟩
      · intro hasSlots
        rcases hasSlots with ⟨values, equal, taken⟩
        split at equal
        · next short =>
            cases equal
            exact ⟨short, taken⟩
        · cases equal
  | object entries =>
      rw [ofValue, bind_eq_ok, members.absorbAll_eq_ok names entries distinct]
      simp [Value.slots?]
  | _ => simp [ofValue, Shape.wrong, Value.slots?]

end SchemaScaffold.Json
