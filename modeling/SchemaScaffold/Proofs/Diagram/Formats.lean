import SchemaScaffold.Proofs.Diagram.Grammar
import SchemaScaffold.Proofs.Json.Agreement

/-! A diagram can be given as a text or as a decoded value. Both ways lead to the
same diagram, and so to the same collections. -/

namespace SchemaScaffold

namespace Json.Shape

/-- The compact form of a value carries what the value carries. Its members may
be written in any order, except where a value is taken whole. -/
theorem ofText_compact {shape : Shape} {value : Value} (noChoice : shape.HasNoChoice)
    (distinct : value.Distinct) (takesSorted : shape.TakesSorted value)
    (integral : value.Integral) (shallow : value.nesting ≤ Reader.deepest) :
    (shape.ofText value.compact).toOption = (shape.ofValue value).toOption := by
  have readable : value.Readable (value.compact.toList.length + 1) Reader.deepest :=
    ⟨distinct, integral, shallow, Nat.lt_succ_self _⟩
  have answers := shape.answers_read noChoice readable takesSorted delimited_nil
  rw [List.append_nil] at answers
  exact toOption_ofText answers

end Json.Shape

namespace Diagram

open Json.Value.Everywhere

theorem hasNoChoice_shape : shape.HasNoChoice := by
  simp [Json.Shape.HasNoChoice, Json.Members.HasNoChoice]

/-- Reading and converting have the same outcome, up to the problem they report. -/
theorem read_or_convert {value : Json.Value} (name : String) (sorted : value.Sorted)
    (integral : value.Integral) (shallow : value.nesting ≤ 127) :
    (∃ diagram, read ⟨name, value.compact⟩ = .ok diagram ∧ convert value = .ok diagram) ∨
      ((∃ fault, read ⟨name, value.compact⟩ = .error (.badDiagram fault)) ∧
        ∃ fault, convert value = .error (.badDiagram fault)) := by
  have same := Json.Shape.ofText_compact hasNoChoice_shape sorted.distinct
    (shape.takesSorted_of_sorted sorted) integral shallow
  rw [read, convert, ofText, ofValue]
  cases converted : shape.ofValue value with
  | ok contents =>
      cases fromText : shape.ofText value.compact with
      | ok contents' =>
          rw [converted, fromText] at same
          cases same
          exact .inl ⟨ofShape contents, rfl, rfl⟩
      | error fault =>
          rw [converted, fromText] at same
          cases same
  | error reason =>
      cases fromText : shape.ofText value.compact with
      | ok contents =>
          rw [converted, fromText] at same
          cases same
      | error fault => exact .inr ⟨⟨_, rfl⟩, ⟨_, rfl⟩⟩

theorem readCollections_compact {value : Json.Value} (name : String) (sorted : value.Sorted)
    (integral : value.Integral) (shallow : value.nesting ≤ 127) {diagram : Diagram}
    (converted : convert value = .ok diagram) :
    readCollections ⟨name, value.compact⟩ = .ok diagram.collections := by
  rcases read_or_convert name sorted integral shallow with
    ⟨_, fromText, fromValue⟩ | ⟨_, _, fromValue⟩
  · rw [converted] at fromValue
    cases fromValue
    rw [readCollections, fromText]
    rfl
  · rw [converted] at fromValue
    cases fromValue

/-- The compact form of a value is accepted if and only if the value is, and
gives the same diagram and the same collections. The value is any that is held
in memory, as long as its numbers are integers and its brackets are not nested
deeper than a text may have them. -/
theorem read_compact_agrees {value : Json.Value} (name : String) (sorted : value.Sorted)
    (integral : value.Integral) (shallow : value.nesting ≤ 127) :
    (∀ diagram, read ⟨name, value.compact⟩ = .ok diagram ↔ convert value = .ok diagram) ∧
      ((∃ collections, readCollections ⟨name, value.compact⟩ = .ok collections ∧
          convertCollections value = .ok collections) ∨
        ((∃ fault, readCollections ⟨name, value.compact⟩ = .error (.badDiagram fault)) ∧
          ∃ fault, convertCollections value = .error (.badDiagram fault))) := by
  rw [readCollections, convertCollections]
  rcases read_or_convert name sorted integral shallow with
    ⟨diagram, fromText, fromValue⟩ | ⟨⟨fault, fromText⟩, fault', fromValue⟩
  · rw [fromText, fromValue]
    exact ⟨fun _ => Iff.rfl, .inl ⟨_, rfl, rfl⟩⟩
  · rw [fromText, fromValue]
    exact ⟨fun _ => ⟨fun equal => (nomatch equal), fun equal => (nomatch equal)⟩,
      .inr ⟨⟨_, rfl⟩, ⟨_, rfl⟩⟩⟩

theorem integral_mixedForms : mixedForms.Integral := by
  simp [Json.Value.Integral, mixedForms, null_iff, bool_iff, number_iff, string_iff, array_iff,
    object_iff, Json.Value.HasStoredNumber, Json.Value.IsStoredInteger, Int.pow]

theorem read_compact_mixedForms :
    mixedForms.Sorted ∧ mixedForms.Integral ∧ mixedForms.nesting ≤ 127 ∧
      ∃ diagram, read ⟨"diagram.json", mixedForms.compact⟩ = .ok diagram ∧
        diagram.nodes.map Node.label = ["Post"] := by
  have sorted := sorted_mixedForms
  have integral := integral_mixedForms
  have shallow : mixedForms.nesting ≤ 127 := by decide
  exact ⟨sorted, integral, shallow, _,
    ((read_compact_agrees "diagram.json" sorted integral shallow).1 _).mpr rfl, rfl⟩

end Diagram

end SchemaScaffold
