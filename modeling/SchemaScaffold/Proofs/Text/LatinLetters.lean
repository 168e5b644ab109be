import Mathlib.Data.List.Forall2
import SchemaScaffold.Text.Casing

/-! Words that are known in capital and in small Latin letters: a text is such a word
if its small form is. -/

namespace SchemaScaffold.Text

/-- The small and the capital form of a Latin letter. -/
structure LatinLetter where
  small : Char
  capital : Char
  isSmall : 97 ≤ small.toNat ∧ small.toNat ≤ 122
  isCapital : capital.toNat + 32 = small.toNat

theorem lowerLatin_of_capital : ∀ code < 128, 65 ≤ code → code ≤ 90 →
    (Char.ofNat (code + 32)).toNat = code + 32 := by
  decide

/-- Only a small letter and its capital have this small form. -/
theorem lowerLatin_eq_iff {c letter : Char} (small : 97 ≤ letter.toNat ∧ letter.toNat ≤ 122) :
    lowerLatin c = letter ↔ c = letter ∨ c.toNat + 32 = letter.toNat := by
  have capital : ('A' ≤ c ∧ c ≤ 'Z') ↔ 65 ≤ c.toNat ∧ c.toNat ≤ 90 := by
    simp [Char.le_def, UInt32.le_iff_toNat_le]
  rw [lowerLatin]
  simp only [← Char.toNat_inj]
  split
  · next isCapital =>
      have bounds := capital.mp isCapital
      rw [lowerLatin_of_capital _ (by omega) bounds.1 bounds.2]
      omega
  · next isOther =>
      rw [capital] at isOther
      omega

theorem LatinLetter.mem_forms_iff (letter : LatinLetter) (c : Char) :
    c ∈ [letter.small, letter.capital] ↔ lowerLatin c = letter.small := by
  have capital := letter.isCapital
  rw [lowerLatin_eq_iff letter.isSmall]
  simp only [List.mem_cons, List.not_mem_nil, or_false, ← Char.toNat_inj]
  omega

/-- Each character is one of the two forms of a letter. -/
def IsSpelledIn (letters : List LatinLetter) (text : String) : Prop :=
  List.Forall₂ (fun c letter => c ∈ [letter.small, letter.capital]) text.toList letters

theorem isSpelledIn_iff {letters : List LatinLetter} {text : String} :
    IsSpelledIn letters text ↔
      lowercaseLatin text = String.ofList (letters.map LatinLetter.small) := by
  have forms : List.Forall₂ (· = ·) (text.toList.map lowerLatin)
      (letters.map LatinLetter.small) ↔ IsSpelledIn letters text := by
    rw [List.forall₂_map_left_iff, List.forall₂_map_right_iff, IsSpelledIn]
    simp only [LatinLetter.mem_forms_iff]
  rw [← forms, List.forall₂_eq_eq_eq, lowercaseLatin, String.ofList_inj]

end SchemaScaffold.Text
