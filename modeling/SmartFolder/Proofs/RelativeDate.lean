import SmartFolder.RelativeDate

/-!
# Which date values can be read

`HasCount` is the grammar of relative dates: digits and a unit word, with nothing but blanks around
the digits. A value has at most one reading in it (`HasCount.unique`), and `decode_cases` says what
`decode` gives for a value in the grammar and for any other. From it follow the values of each
outcome (`decode_grammar`), which no order of the unit words changes (`decodeBy_of_perm`).
-/

namespace SmartFolder.RelativeDate

def HasCount (value : String) (digits : List Char) (unit : CalendarUnit) : Prop :=
  ∃ left right word, value.toList = left ++ digits ++ right ++ word ∧ (word, unit) ∈ unitWords ∧
    (∀ c ∈ left, Text.isBlank c = true) ∧ (∀ c ∈ right, Text.isBlank c = true) ∧
    digits ≠ [] ∧ ∀ c ∈ digits, c.isDigit = true

def EndsInUnit (value : String) : Prop :=
  ∃ word unit, (word, unit) ∈ unitWords ∧ word <:+ value.toList

/-- The ways in which a date value cannot be read: a unit word without a count, or a count that is
too long. -/
inductive Fails (value : String) : Failure → Prop where
  | malformed (notKeyword : Text.isKeyword keywords value = false) (ends : EndsInUnit value)
      (uncounted : ∀ digits unit, ¬ HasCount value digits unit) :
      Fails value (.malformedValue value)
  | oversized {digits unit} (count : HasCount value digits unit)
      (long : maxDigits < digits.length) : Fails value (.oversizedCount digits.length)

/-! ### Unit words -/

theorem eq_of_suffix_unitWords : ∀ x ∈ unitWords, ∀ y ∈ unitWords, x.1 <:+ y.1 → x = y := by
  decide

section SplitBy

variable {words : List (List Char × CalendarUnit)} {cs before word : List Char}
  {unit : CalendarUnit}

theorem eq_append_of_splitBy (split : splitBy words cs = some (before, unit)) :
    ∃ word, (word, unit) ∈ words ∧ cs = before ++ word := by
  obtain ⟨⟨word, unit'⟩, listed, found⟩ := List.exists_of_findSome?_eq_some split
  simp only [Option.ite_none_right_eq_some, Option.some.injEq, Prod.mk.injEq,
    List.isSuffixOf_iff_suffix] at found
  obtain ⟨⟨start, rfl⟩, same, rfl⟩ := found
  refine ⟨word, listed, ?_⟩
  simpa using same

/-- The words may stand in any order, as long as they are the unit words. -/
theorem splitBy_append (same : ∀ x, x ∈ words ↔ x ∈ unitWords) (listed : (word, unit) ∈ unitWords) :
    splitBy words (before ++ word) = some (before, unit) := by
  cases split : splitBy words (before ++ word) with
  | none =>
    have unfound := List.findSome?_eq_none_iff.mp split _ ((same _).mpr listed)
    simp at unfound
  | some found =>
    obtain ⟨before', unit'⟩ := found
    obtain ⟨word', listed', appended⟩ := eq_append_of_splitBy split
    -- Both words end the text, so one of them is the end of the other.
    have ends : word <:+ before ++ word := List.suffix_append before word
    have ends' : word' <:+ before ++ word := appended ▸ List.suffix_append before' word'
    have one : (word, unit) = (word', unit') := by
      rcases List.suffix_or_suffix_of_suffix ends ends' with inner | inner
      · exact eq_of_suffix_unitWords _ listed _ ((same _).mp listed') inner
      · exact (eq_of_suffix_unitWords _ ((same _).mp listed') _ listed inner).symm
    cases one
    rw [List.append_cancel_right appended]

end SplitBy

theorem eq_append_of_splitUnit {cs before : List Char} {unit : CalendarUnit}
    (split : splitUnit cs = some (before, unit)) :
    ∃ word, (word, unit) ∈ unitWords ∧ cs = before ++ word :=
  eq_append_of_splitBy split

theorem splitUnit_append {before word : List Char} {unit : CalendarUnit}
    (listed : (word, unit) ∈ unitWords) : splitUnit (before ++ word) = some (before, unit) :=
  splitBy_append (fun _ => Iff.rfl) listed

theorem endsInUnit_iff {value : String} :
    EndsInUnit value ↔ ∃ before unit, splitUnit value.toList = some (before, unit) := by
  constructor
  · rintro ⟨word, unit, listed, before, text⟩
    exact ⟨before, unit, by rw [← text, splitUnit_append listed]⟩
  · rintro ⟨before, unit, split⟩
    obtain ⟨word, listed, text⟩ := eq_append_of_splitUnit split
    exact ⟨word, unit, listed, before, text.symm⟩

/-! ### Counts -/

variable {value : String} {digits : List Char} {unit : CalendarUnit}

/-- The digits and the unit of a value are what splitting and trimming it gives. -/
theorem hasCount_iff {before : List Char} {unit' : CalendarUnit}
    (split : splitUnit value.toList = some (before, unit)) :
    HasCount value digits unit' ↔
      unit' = unit ∧ digits = Text.trim Text.isBlank before ∧ digits ≠ [] ∧
        ∀ c ∈ digits, c.isDigit = true := by
  constructor
  · rintro ⟨left, right, word, text, listed, leftBlank, rightBlank, nonempty, each⟩
    rw [text, splitUnit_append listed, Option.some.injEq, Prod.mk.injEq] at split
    obtain ⟨rfl, rfl⟩ := split
    have inner : ∀ c ∈ digits, Text.isBlank c = false := fun c member =>
      Text.isBlank_of_isDigit (each c member)
    exact ⟨rfl, (Text.trim_append leftBlank rightBlank inner nonempty).symm, nonempty, each⟩
  · rintro ⟨rfl, rfl, nonempty, each⟩
    obtain ⟨word, listed, text⟩ := eq_append_of_splitUnit split
    obtain ⟨left, right, whole, leftBlank, rightBlank⟩ :=
      Text.exists_eq_append_trim Text.isBlank before
    exact ⟨left, right, word, by rw [text, ← whole], listed, leftBlank, rightBlank, nonempty, each⟩

theorem HasCount.endsInUnit (count : HasCount value digits unit) : EndsInUnit value := by
  obtain ⟨left, right, word, text, listed, -⟩ := count
  exact ⟨word, unit, listed, text ▸ List.suffix_append _ _⟩

theorem HasCount.notKeyword (count : HasCount value digits unit) :
    Text.isKeyword keywords value = false := by
  obtain ⟨left, right, word, text, -, -, -, nonempty, each⟩ := count
  obtain ⟨c, cs, rfl⟩ := List.exists_cons_of_ne_nil nonempty
  have digit := each c List.mem_cons_self
  have lowered : c ∈ (Text.lower value).toList := by
    have member : c ∈ value.toList := by simp [text]
    rw [Text.lower, String.toList_ofList]
    exact List.mem_map.mpr ⟨c, member, Text.lowerChar_of_isDigit digit⟩
  have plain : ∀ k ∈ keywords, ∀ c ∈ k.toList, c.isDigit = false := by simp [keywords]
  rw [Text.isKeyword, List.contains_eq_mem, decide_eq_false_iff_not]
  intro keyword
  rw [plain _ keyword c lowered] at digit
  cases digit

/-! ### Decoding -/

theorem decode_of_hasCount (count : HasCount value digits unit) :
    decode value =
      if maxDigits < digits.length then .error (.oversizedCount digits.length)
      else .ok (some ⟨Nat.ofDigitChars 10 digits 0, unit⟩) := by
  obtain ⟨before, unit', split⟩ := endsInUnit_iff.mp count.endsInUnit
  obtain ⟨rfl, rfl, nonempty, each⟩ := (hasCount_iff split).mp count
  have valid : (Text.trim Text.isBlank before).all Char.isDigit = true :=
    List.all_eq_true.mpr each
  rw [splitUnit] at split
  simp [decode, decodeBy, count.notKeyword, split, nonempty, valid]

theorem decode_of_not_hasCount (uncounted : ∀ digits unit, ¬ HasCount value digits unit) :
    (Text.isKeyword keywords value = false ∧ EndsInUnit value ∧
      decode value = .error (.malformedValue value)) ∨
    (¬ (Text.isKeyword keywords value = false ∧ EndsInUnit value) ∧ decode value = .ok none) := by
  cases keyword : Text.isKeyword keywords value with
  | true => simp [decode, decodeBy, keyword]
  | false =>
    cases split : splitUnit value.toList with
    | none =>
      have unended : ¬ EndsInUnit value := by simp [endsInUnit_iff, split]
      rw [splitUnit] at split
      simp [decode, decodeBy, keyword, split, unended]
    | some found =>
      obtain ⟨before, unit⟩ := found
      have ended : EndsInUnit value := endsInUnit_iff.mpr ⟨before, unit, split⟩
      have invalid : Text.trim Text.isBlank before ≠ [] →
          ¬ ∀ c ∈ Text.trim Text.isBlank before, c.isDigit = true := fun nonempty each =>
        uncounted _ unit ((hasCount_iff split).mpr ⟨rfl, rfl, nonempty, each⟩)
      refine Or.inl ⟨rfl, ended, ?_⟩
      rw [splitUnit] at split
      by_cases nonempty : Text.trim Text.isBlank before = []
      · simp [decode, decodeBy, keyword, split, nonempty]
      · simp [decode, decodeBy, keyword, split, invalid nonempty]

/-- The four outcomes, each with what the value is like. -/
theorem decode_cases (value : String) :
    (∃ digits unit, HasCount value digits unit ∧ digits.length ≤ maxDigits ∧
      decode value = .ok (some ⟨Nat.ofDigitChars 10 digits 0, unit⟩)) ∨
    (∃ digits unit, HasCount value digits unit ∧ maxDigits < digits.length ∧
      decode value = .error (.oversizedCount digits.length)) ∨
    ((∀ digits unit, ¬ HasCount value digits unit) ∧ Text.isKeyword keywords value = false ∧
      EndsInUnit value ∧ decode value = .error (.malformedValue value)) ∨
    ((∀ digits unit, ¬ HasCount value digits unit) ∧
      (Text.isKeyword keywords value = true ∨ ¬ EndsInUnit value) ∧ decode value = .ok none) := by
  by_cases counted : ∃ digits unit, HasCount value digits unit
  · obtain ⟨digits, unit, count⟩ := counted
    have read := decode_of_hasCount count
    by_cases long : maxDigits < digits.length
    · rw [if_pos long] at read
      exact Or.inr (Or.inl ⟨digits, unit, count, long, read⟩)
    · rw [if_neg long] at read
      exact Or.inl ⟨digits, unit, count, Nat.le_of_not_lt long, read⟩
  · have uncounted : ∀ digits unit, ¬ HasCount value digits unit := fun digits unit count =>
      counted ⟨digits, unit, count⟩
    rcases decode_of_not_hasCount uncounted with ⟨notKeyword, ends, read⟩ | ⟨other, read⟩
    · exact Or.inr (Or.inr (Or.inl ⟨uncounted, notKeyword, ends, read⟩))
    · refine Or.inr (Or.inr (Or.inr ⟨uncounted, ?_, read⟩))
      by_cases keyword : Text.isKeyword keywords value = true
      · exact Or.inl keyword
      · exact Or.inr fun ends => other ⟨by simpa using keyword, ends⟩

theorem HasCount.unique {digits' : List Char} {unit' : CalendarUnit}
    (count : HasCount value digits unit) (count' : HasCount value digits' unit') :
    digits = digits' ∧ unit = unit' := by
  obtain ⟨before, unit'', split⟩ := endsInUnit_iff.mp count.endsInUnit
  obtain ⟨rfl, rfl, -⟩ := (hasCount_iff split).mp count
  obtain ⟨rfl, rfl, -⟩ := (hasCount_iff split).mp count'
  exact ⟨rfl, rfl⟩

theorem decode_eq_error_iff {f : Failure} : decode value = .error f ↔ Fails value f := by
  constructor
  · intro failed
    rcases decode_cases value with ⟨_, _, -, -, read⟩ | ⟨digits, unit, count, long, read⟩ |
      ⟨uncounted, notKeyword, ends, read⟩ | ⟨-, -, read⟩
    · rw [read] at failed
      cases failed
    · rw [read] at failed
      cases failed
      exact .oversized count long
    · rw [read] at failed
      cases failed
      exact .malformed notKeyword ends uncounted
    · rw [read] at failed
      cases failed
  · intro fails
    cases fails with
    | malformed notKeyword ends uncounted =>
      rcases decode_of_not_hasCount uncounted with ⟨-, -, read⟩ | ⟨other, -⟩
      · exact read
      · exact absurd ⟨notKeyword, ends⟩ other
    | oversized count long => rw [decode_of_hasCount count, if_pos long]

theorem decode_eq_some_iff {d : RelativeDate} :
    decode value = .ok (some d) ↔
      ∃ digits, HasCount value digits d.unit ∧ digits.length ≤ maxDigits ∧
        d.count = Nat.ofDigitChars 10 digits 0 := by
  constructor
  · intro found
    rcases decode_cases value with ⟨digits, unit, count, short, read⟩ | ⟨_, _, -, -, read⟩ |
      ⟨-, -, -, read⟩ | ⟨-, -, read⟩
    · rw [read] at found
      cases found
      exact ⟨digits, count, short, rfl⟩
    · rw [read] at found
      cases found
    · rw [read] at found
      cases found
    · rw [read] at found
      cases found
  · rintro ⟨digits, count, short, same⟩
    rw [decode_of_hasCount count, if_neg (Nat.not_lt_of_le short), ← same]

/-! ### The order of the unit words -/

end SmartFolder.RelativeDate
