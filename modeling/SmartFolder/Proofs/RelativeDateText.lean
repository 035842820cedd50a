import SmartFolder.Proofs.RelativeDate

/-!
# How relative dates are written

A written date decodes to itself (`decode_text`), so a date is determined by its text. Of all values
that stand for a date `text` writes the one in `IsSpelled`: the numeral of the count, one space, and
the word that goes with the count.
-/

namespace SmartFolder.RelativeDate

/-! ### Numerals -/

/-- Digits that write a number, with no zero in front unless the number is zero. -/
def IsNumeral (digits : List Char) (n : Nat) : Prop :=
  digits ≠ [] ∧ (∀ c ∈ digits, c.isDigit = true) ∧ (digits.head? = some '0' → digits = ['0']) ∧
    Nat.ofDigitChars 10 digits 0 = n

theorem digitChar_of_isDigit {c : Char} (digit : c.isDigit = true) :
    c.toNat - 48 < 10 ∧ (c.toNat - 48).digitChar = c := by
  have range : 48 ≤ c.toNat ∧ c.toNat ≤ 57 := Char.isDigit_iff_toNat.mp digit
  have small : c.toNat - 48 < 10 := by omega
  refine ⟨small, Char.toNat_inj.mp ?_⟩
  rw [Nat.toNat_digitChar_of_lt_ten small]
  omega

theorem toDigits_ofDigitChars_of_pos {cs : List Char} {n : Nat} (positive : 0 < n)
    (each : ∀ c ∈ cs, c.isDigit = true) :
    Nat.toDigits 10 (Nat.ofDigitChars 10 cs n) = Nat.toDigits 10 n ++ cs := by
  induction cs generalizing n with
  | nil => simp
  | cons c cs ih =>
    obtain ⟨small, same⟩ := digitChar_of_isDigit (each c List.mem_cons_self)
    have next : Nat.toDigits 10 (10 * n + (c.toNat - 48)) = Nat.toDigits 10 n ++ [c] := by
      rw [← Nat.toDigits_append_toDigits (by decide) positive small, Nat.toDigits_of_lt_base small,
        same]
    have rest := ih (n := 10 * n + (c.toNat - 48)) (by omega)
      fun c member => each c (List.mem_cons_of_mem _ member)
    rw [Nat.ofDigitChars_cons]
    show Nat.toDigits 10 (Nat.ofDigitChars 10 cs (10 * n + (c.toNat - 48))) = _
    rw [rest, next, List.append_assoc, List.singleton_append]

theorem toDigits_ofDigitChars_of_ne {c : Char} {cs : List Char} (other : c ≠ '0')
    (each : ∀ d ∈ c :: cs, d.isDigit = true) :
    Nat.toDigits 10 (Nat.ofDigitChars 10 (c :: cs) 0) = c :: cs := by
  have digit := each c List.mem_cons_self
  have range : 48 ≤ c.toNat ∧ c.toNat ≤ 57 := Char.isDigit_iff_toNat.mp digit
  obtain ⟨small, same⟩ := digitChar_of_isDigit digit
  have positive : 0 < c.toNat - 48 := by
    have : c.toNat ≠ 48 := fun h => other (Char.toNat_inj.mp h)
    omega
  have rest := toDigits_ofDigitChars_of_pos positive
    fun d member => each d (List.mem_cons_of_mem c member)
  rw [Nat.ofDigitChars_cons]
  show Nat.toDigits 10 (Nat.ofDigitChars 10 cs (10 * 0 + (c.toNat - 48))) = _
  rw [Nat.mul_zero, Nat.zero_add, rest, Nat.toDigits_of_lt_base small, same, List.singleton_append]

theorem length_toDigits_le {cs : List Char} (nonempty : cs ≠ [])
    (each : ∀ c ∈ cs, c.isDigit = true) :
    (Nat.toDigits 10 (Nat.ofDigitChars 10 cs 0)).length ≤ cs.length := by
  induction cs with
  | nil => exact absurd rfl nonempty
  | cons c cs ih =>
    by_cases zero : c = '0'
    · subst zero
      have dropped : Nat.ofDigitChars 10 ('0' :: cs) 0 = Nat.ofDigitChars 10 cs 0 := rfl
      rw [dropped]
      by_cases last : cs = []
      · subst last
        decide
      · have shorter := ih last fun c member => each c (List.mem_cons_of_mem _ member)
        exact Nat.le_succ_of_le shorter
    · exact Nat.le_of_eq (congrArg List.length (toDigits_ofDigitChars_of_ne zero each))

theorem isNumeral_toDigits (n : Nat) : IsNumeral (Nat.toDigits 10 n) n := by
  have nonempty : Nat.toDigits 10 n ≠ [] := Nat.toDigits_ne_nil
  have each : ∀ c ∈ Nat.toDigits 10 n, c.isDigit = true := fun c member =>
    Nat.isDigit_of_mem_toDigits (by decide) (by decide) member
  refine ⟨nonempty, each, fun zero => ?_, Nat.ofDigitChars_ten_toDigits⟩
  obtain ⟨cs, split⟩ := List.head?_eq_some_iff.mp zero
  -- Without its zero the numeral would be a shorter one of the same number.
  have value : Nat.ofDigitChars 10 cs 0 = n := by
    rw [← Nat.ofDigitChars_ten_toDigits (n := n), split]
    rfl
  by_cases last : cs = []
  · rw [split, last]
  · have shorter := length_toDigits_le last fun c member =>
      each c (split ▸ List.mem_cons_of_mem _ member)
    rw [value, split, List.length_cons] at shorter
    omega

theorem isNumeral_iff {digits : List Char} {n : Nat} :
    IsNumeral digits n ↔ digits = Nat.toDigits 10 n := by
  constructor
  · rintro ⟨nonempty, each, front, rfl⟩
    obtain ⟨c, cs, rfl⟩ := List.exists_cons_of_ne_nil nonempty
    by_cases zero : c = '0'
    · subst zero
      rw [front rfl]
      rfl
    · exact (toDigits_ofDigitChars_of_ne zero each).symm
  · rintro rfl
    exact isNumeral_toDigits n

/-! ### Dates -/

/-- The spelling of a date with one space and neither zeros in front nor a wrong number of its
unit. -/
def IsSpelled (value : String) (d : RelativeDate) : Prop :=
  ∃ digits, IsNumeral digits d.count ∧
    value.toList = digits ++ ' ' :: (if d.count = 1 then d.unit.singular else d.unit.plural).toList

theorem word_count (d : RelativeDate) :
    d.unit.word d.count = if d.count = 1 then d.unit.singular else d.unit.plural := by
  have one : (d.count : Int) = 1 ↔ d.count = 1 := by omega
  simp only [CalendarUnit.word, one]

theorem toList_text (d : RelativeDate) :
    d.text.toList = Nat.toDigits 10 d.count ++ ' ' :: (d.unit.word d.count).toList := by
  simp [text, Nat.toList_repr]

theorem text_eq_iff {value : String} {d : RelativeDate} : d.text = value ↔ IsSpelled value d := by
  rw [← String.toList_inj, toList_text, word_count]
  constructor
  · intro same
    exact ⟨_, isNumeral_toDigits d.count, same.symm⟩
  · rintro ⟨digits, numeral, same⟩
    rw [same, isNumeral_iff.mp numeral]

theorem word_mem_unitWords (unit : CalendarUnit) (count : Int) :
    ((unit.word count).toList, unit) ∈ unitWords := by
  rw [CalendarUnit.word]
  split <;> cases unit <;> decide

theorem hasCount_text (d : RelativeDate) : HasCount d.text (Nat.toDigits 10 d.count) d.unit := by
  obtain ⟨nonempty, each, -⟩ := isNumeral_toDigits d.count
  refine ⟨[], [' '], (d.unit.word d.count).toList, ?_, word_mem_unitWords _ _, ?_, ?_, nonempty, each⟩
  · simp [toList_text]
  · simp
  · simp [show Text.isBlank ' ' = true by decide]

theorem decode_text {d : RelativeDate} (short : (Nat.toDigits 10 d.count).length ≤ maxDigits) :
    decode d.text = .ok (some d) :=
  decode_eq_some_iff.mpr ⟨_, hasCount_text d, short, Nat.ofDigitChars_ten_toDigits.symm⟩

theorem text_inj {d e : RelativeDate} (same : d.text = e.text) : d = e := by
  obtain ⟨digits, unit⟩ := (hasCount_text d).unique (same ▸ hasCount_text e)
  have count : d.count = e.count := by
    rw [← Nat.ofDigitChars_ten_toDigits (n := d.count), digits, Nat.ofDigitChars_ten_toDigits]
  cases d
  cases e
  simp_all

theorem length_toDigits_of_decode {value : String} {d : RelativeDate}
    (read : decode value = .ok (some d)) : (Nat.toDigits 10 d.count).length ≤ maxDigits := by
  obtain ⟨digits, count, short, same⟩ := decode_eq_some_iff.mp read
  obtain ⟨left, right, word, -, -, -, -, nonempty, each⟩ := count
  rw [same]
  exact Nat.le_trans (length_toDigits_le nonempty each) short

theorem encode_eq_ok_iff {count : Int} {unit : CalendarUnit} {value : String} :
    encode count unit = .ok value ↔ ∃ n : Nat, count = n ∧ (RelativeDate.mk n unit).text = value := by
  cases count with
  | ofNat n =>
    constructor
    · intro written
      exact ⟨n, rfl, Except.ok.inj written⟩
    · rintro ⟨m, same, rfl⟩
      cases Int.ofNat.inj same
      rfl
  | negSucc n => simp [encode]

theorem encode_eq_error_iff {count : Int} {unit : CalendarUnit} {f : Failure} :
    encode count unit = .error f ↔ count < 0 ∧ f = .negativeCount count := by
  cases count with
  | ofNat n =>
    have natural : ¬ Int.ofNat n < 0 := Int.not_lt.mpr (Int.natCast_nonneg n)
    exact iff_of_false (fun failed => by cases failed) (fun negative => natural negative.1)
  | negSucc n => simp [encode, eq_comm, Int.negSucc_lt_zero]

/-- What is written decodes to the date it was written for, so no two dates are written alike. A
value that decodes is rewritten as the one `IsSpelled` value of its date, which decodes as before.
Only a negative count cannot be written. -/
theorem decode_encode :
    (∀ (n : Nat) unit, (Nat.toDigits 10 n).length ≤ maxDigits →
      ∃ value, encode n unit = .ok value ∧ decode value = .ok (some ⟨n, unit⟩)) ∧
    (∀ count count' unit unit' value, encode count unit = .ok value →
      encode count' unit' = .ok value → count = count' ∧ unit = unit') ∧
    (∀ value d, decode value = .ok (some d) →
      decode d.text = .ok (some d) ∧ (d.text = value ↔ IsSpelled value d)) ∧
    ∀ count unit f, encode count unit = .error f ↔ count < 0 ∧ f = .negativeCount count := by
  refine ⟨?_, ?_, ?_, fun _ _ _ => encode_eq_error_iff⟩
  · intro n unit short
    exact ⟨_, rfl, decode_text (d := ⟨n, unit⟩) short⟩
  · intro count count' unit unit' value written written'
    obtain ⟨n, rfl, text⟩ := encode_eq_ok_iff.mp written
    obtain ⟨n', rfl, text'⟩ := encode_eq_ok_iff.mp written'
    cases text_inj (text.trans text'.symm)
    exact ⟨rfl, rfl⟩
  · intro value d read
    exact ⟨decode_text (length_toDigits_of_decode read), text_eq_iff⟩

theorem decode_encode_padded :
    (Nat.toDigits 10 12).length ≤ maxDigits ∧ decode "\t007 weeks" = .ok (some ⟨7, .week⟩) ∧
      (∃ value, encode (12 : Nat) .month = .ok value ∧ decode value = .ok (some ⟨12, .month⟩)) ∧
      decode (RelativeDate.mk 7 .week).text = .ok (some ⟨7, .week⟩) ∧
      ¬ IsSpelled "\t007 weeks" ⟨7, .week⟩ := by
  have read : decode "\t007 weeks" = .ok (some ⟨7, .week⟩) := rfl
  obtain ⟨again, spelled⟩ := decode_encode.2.2.1 _ _ read
  refine ⟨by decide, read, decode_encode.1 12 .month (by decide), again, fun same => ?_⟩
  exact absurd (spelled.mpr same) (by decide)

end SmartFolder.RelativeDate
