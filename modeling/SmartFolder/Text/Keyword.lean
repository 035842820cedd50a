/-!
# Keywords

A keyword is an ASCII word that matches whatever the case of its letters. Besides the ASCII
capitals only the Kelvin sign has an ASCII letter as its lower case, so `lower` need not know the
other letters: they match no keyword in either case.
-/

namespace SmartFolder.Text

/-- The lower case of `c` as far as it is an ASCII letter; any other character stands for itself. -/
def lowerChar (c : Char) : Char :=
  if c = '\u212a' then 'k' else c.toLower

theorem lowerChar_of_isDigit {c : Char} (digit : c.isDigit = true) : lowerChar c = c := by
  have range : 48 ≤ c.toNat ∧ c.toNat ≤ 57 := Char.isDigit_iff_toNat.mp digit
  have other : c ≠ '\u212a' := by
    rintro rfl
    cases digit
  have notUpper : ¬ (c.val ≥ 'A'.val ∧ c.val ≤ 'Z'.val) := by
    simp [UInt32.le_iff_toNat_le]
    omega
  rw [lowerChar, if_neg other]
  exact dif_neg notUpper

def lower (s : String) : String :=
  String.ofList (s.toList.map lowerChar)

/-- `s` is one of the lower-case ASCII words `words`, in any case. -/
def isKeyword (words : List String) (s : String) : Bool :=
  words.contains (lower s)

end SmartFolder.Text
