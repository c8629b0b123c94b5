import CallMarkup.Text
import CallMarkup.Unicode.Property

/-!
# Identifiers

Parameters are named by identifiers: one word character that is no decimal
digit, then any word characters.  What has no name of its own goes by its number,
which is no identifier.
-/

namespace CallMarkup

def isIdentifier : Text → Bool
  | [] => false
  | first :: rest =>
    Unicode.isWord first && !Unicode.isDecimalDigit first && rest.all Unicode.isWord

theorem isWord_of_mem_identifier {text : Text} (identifier : isIdentifier text = true)
    {c : Char} (member : c ∈ text) : Unicode.isWord c = true := by
  cases text with
  | nil => simp at member
  | cons first rest =>
      simp only [isIdentifier, Bool.and_eq_true, List.all_eq_true] at identifier
      rcases List.mem_cons.mp member with rfl | member
      · exact identifier.1.1
      · exact identifier.2 c member

theorem isIdentifier_toDigits (number : Nat) : isIdentifier (Nat.toDigits 10 number) = false := by
  cases digits : Nat.toDigits 10 number with
  | nil => rfl
  | cons first rest =>
      have member : first ∈ Nat.toDigits 10 number := by simp [digits]
      have digit := Nat.isDigit_of_mem_toDigits (by decide) (by decide) member
      simp [isIdentifier, Unicode.isDecimalDigit_of_isDigit digit]

theorem toDigits_injective : Function.Injective (Nat.toDigits 10) :=
  Function.LeftInverse.injective (g := (Nat.ofDigitChars 10 · 0)) fun _ =>
    Nat.ofDigitChars_ten_toDigits

end CallMarkup
