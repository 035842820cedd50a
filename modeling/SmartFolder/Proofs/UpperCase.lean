import Mathlib.Data.List.Basic
import SmartFolder.Level

/-!
# Capitals of capitals

The level of a text is read from its capitals, and the log reads it from the capitals of a level
that is in capitals already. The second time changes nothing: the few characters that ASCII
letters are the capitals of are no capitals themselves (`not_capitalizes_of_mem_upperChar`), so a
text becomes the name of a level the first time or never (`Level.ofText_upperCase`).
-/

namespace SmartFolder

namespace Text

def IsAsciiCapital (n : Nat) : Prop := 0x41 ≤ n ∧ n ≤ 0x5a

instance (n : Nat) : Decidable (IsAsciiCapital n) := inferInstanceAs (Decidable (_ ∧ _))

/-- The code points of other characters whose capitals are in ASCII: the small letters, `ß`, the
dotless `i`, the long `s` and the ligatures of `f` and `s`. -/
def Capitalizes (n : Nat) : Prop :=
  (0x61 ≤ n ∧ n ≤ 0x7a) ∨ n = 0xdf ∨ n = 0x131 ∨ n = 0x17f ∨ (0xfb00 ≤ n ∧ n ≤ 0xfb06)

instance (n : Nat) : Decidable (Capitalizes n) := inferInstanceAs (Decidable (_ ∨ _))

namespace CapitalRun

def image (r : CapitalRun) (n : Nat) : Nat := (n + r.shift).toNat

/-- Every code point from `low` to `high` lies outside the run's capitals. -/
def Misses (r : CapitalRun) (low high : Nat) : Prop :=
  r.image r.last < low ∨ high < r.image r.first

instance (r : CapitalRun) (low high : Nat) : Decidable (r.Misses low high) :=
  inferInstanceAs (Decidable (_ ∨ _))

theorem bounds_of_holds {r : CapitalRun} {n : Nat} (held : r.holds n = true) :
    r.first ≤ n ∧ n ≤ r.last := by
  simp only [holds, Bool.and_eq_true, decide_eq_true_eq] at held
  exact held.1

theorem not_between_image {r : CapitalRun} {low high n : Nat} (missed : r.Misses low high)
    (held : r.holds n = true) : ¬(low ≤ r.image n ∧ r.image n ≤ high) := by
  have ⟨lower, upper⟩ := bounds_of_holds held
  unfold Misses image at missed
  unfold image
  omega

end CapitalRun

/-! ### What the tables say -/

theorem capitalizes_of_longCapitals :
    ∀ p ∈ longCapitals, (∀ n ∈ p.2, IsAsciiCapital n) → Capitalizes p.1 := by
  decide

theorem not_capitalizes_longCapitals : ∀ p ∈ longCapitals, ∀ n ∈ p.2, ¬Capitalizes n := by
  decide

theorem capitalizes_of_capitalRuns :
    ∀ r ∈ capitalRuns, r.Misses 0x41 0x5a ∨
      r.first = 0x61 ∧ r.last = 0x7a ∨ r.first = r.last ∧ Capitalizes r.first := by
  decide +kernel

theorem misses_capitalRuns :
    ∀ r ∈ capitalRuns, r.Misses 0x61 0x7a ∧ r.Misses 0xdf 0xdf ∧ r.Misses 0x131 0x131 ∧
      r.Misses 0x17f 0x17f ∧ r.Misses 0xfb00 0xfb06 := by
  decide +kernel

theorem capitalizes_ascii :
    ∀ n < 0x80, IsAsciiCapital (Char.ofNat n).toUpper.toNat →
      Capitalizes n ∨ (Char.ofNat n).toUpper = Char.ofNat n := by
  decide

theorem not_capitalizes_ascii : ∀ n < 0x80, ¬Capitalizes (Char.ofNat n).toUpper.toNat := by
  decide

theorem changes_of_capitalizes {n : Nat} (capitalizes : Capitalizes n) (wide : 0x80 ≤ n) :
    longCapitals.lookup n ≠ none ∨ capitalRuns.find? (·.holds n) ≠ none := by
  have listed : ∀ n ∈ [0xdf, 0x131, 0x17f, 0xfb00, 0xfb01, 0xfb02, 0xfb03, 0xfb04, 0xfb05, 0xfb06],
      longCapitals.lookup n ≠ none ∨ capitalRuns.find? (·.holds n) ≠ none := by
    decide +kernel
  apply listed
  simp only [List.mem_cons, List.not_mem_nil, or_false]
  unfold Capitalizes at capitalizes
  omega

/-! ### Capitals of a character -/

/-- How a character gets its capitals. -/
theorem upperChar_cases (c : Char) :
    (c.toNat < 0x80 ∧ upperChar c = [c.toUpper]) ∨
    (∃ codes, (c.toNat, codes) ∈ longCapitals ∧ upperChar c = codes.map Char.ofNat) ∨
    (∃ r ∈ capitalRuns, r.holds c.toNat = true ∧ upperChar c = [Char.ofNat (r.image c.toNat)]) ∨
    (¬Capitalizes c.toNat ∧ upperChar c = [c]) := by
  by_cases ascii : c.toNat < 0x80
  · exact .inl ⟨ascii, if_pos ascii⟩
  cases long : longCapitals.lookup c.toNat with
  | some codes =>
    obtain ⟨before, after, same, -⟩ := List.lookup_eq_some_iff.mp long
    refine .inr (.inl ⟨codes, by simp [same], ?_⟩)
    simp only [upperChar, if_neg ascii, long]
  | none =>
    cases run : capitalRuns.find? (·.holds c.toNat) with
    | some r =>
      have held : r.holds c.toNat = true := by simpa using List.find?_some run
      refine .inr (.inr (.inl ⟨r, List.mem_of_find?_eq_some run, held, ?_⟩))
      simp only [upperChar, if_neg ascii, long, run, CapitalRun.image]
    | none =>
      refine .inr (.inr (.inr ⟨fun capitalizes => ?_, ?_⟩))
      · rcases changes_of_capitalizes capitalizes (by omega) with changed | changed
        · exact changed long
        · exact changed run
      · simp only [upperChar, if_neg ascii, long, run]

/-- A number that is no code point writes the character zero. -/
theorem of_ofNat {p : Nat → Prop} {n : Nat} (zero : ¬p 0) (written : p (Char.ofNat n).toNat) :
    p n := by
  by_cases valid : n.isValidChar
  · rw [Char.ofNat, dif_pos valid] at written
    exact written
  · rw [Char.ofNat, dif_neg valid] at written
    exact absurd written zero

theorem not_capitalizes_image {r : CapitalRun} {n : Nat} (listed : r ∈ capitalRuns)
    (held : r.holds n = true) : ¬Capitalizes (r.image n) := by
  obtain ⟨letters, sharp, dotless, long, ligatures⟩ := misses_capitalRuns r listed
  have := CapitalRun.not_between_image letters held
  have := CapitalRun.not_between_image sharp held
  have := CapitalRun.not_between_image dotless held
  have := CapitalRun.not_between_image long held
  have := CapitalRun.not_between_image ligatures held
  unfold Capitalizes
  omega

theorem capitalizes_of_image {r : CapitalRun} {n : Nat} (listed : r ∈ capitalRuns)
    (held : r.holds n = true) (capital : IsAsciiCapital (r.image n)) : Capitalizes n := by
  have ⟨lower, upper⟩ := CapitalRun.bounds_of_holds held
  rcases capitalizes_of_capitalRuns r listed with missed | ⟨first, last⟩ | ⟨single, capitalizes⟩
  · exact absurd capital (CapitalRun.not_between_image missed held)
  · exact .inl (by omega)
  · have only : n = r.first := by omega
    exact only ▸ capitalizes

theorem not_capitalizes_of_mem_upperChar {c d : Char} (member : d ∈ upperChar c) :
    ¬Capitalizes d.toNat := by
  rcases upperChar_cases c with ⟨ascii, capitals⟩ | ⟨codes, listed, capitals⟩ |
    ⟨r, listed, held, capitals⟩ | ⟨fixed, capitals⟩
  · obtain rfl : d = c.toUpper := by simpa [capitals] using member
    simpa only [Char.ofNat_toNat] using not_capitalizes_ascii c.toNat ascii
  · rw [capitals] at member
    obtain ⟨n, inCodes, rfl⟩ := List.mem_map.mp member
    exact mt (of_ofNat (by decide)) (not_capitalizes_longCapitals _ listed n inCodes)
  · obtain rfl : d = Char.ofNat (r.image c.toNat) := by simpa [capitals] using member
    exact mt (of_ofNat (by decide)) (not_capitalizes_image listed held)
  · obtain rfl : d = c := by simpa [capitals] using member
    exact fixed

theorem upperChar_eq_self {c : Char} (fixed : ¬Capitalizes c.toNat)
    (capital : ∀ d ∈ upperChar c, IsAsciiCapital d.toNat) : upperChar c = [c] := by
  rcases upperChar_cases c with ⟨ascii, capitals⟩ | ⟨codes, listed, capitals⟩ |
    ⟨r, listed, held, capitals⟩ | ⟨-, capitals⟩
  · have upper : IsAsciiCapital c.toUpper.toNat := capital _ (by simp [capitals])
    have same := capitalizes_ascii c.toNat ascii
    rw [Char.ofNat_toNat] at same
    rw [capitals, (same upper).resolve_left fixed]
  · refine absurd (capitalizes_of_longCapitals _ listed fun n inCodes => ?_) fixed
    have written := capital (Char.ofNat n) (capitals ▸ List.mem_map_of_mem inCodes)
    exact of_ofNat (by decide) written
  · refine absurd (capitalizes_of_image listed held ?_) fixed
    have written := capital (Char.ofNat (r.image c.toNat)) (by simp [capitals])
    exact of_ofNat (by decide) written
  · exact capitals

/-! ### Capitals of a text -/

theorem upperCase_upperCase_of_capitals {s : String}
    (capital : ∀ c ∈ (upperCase (upperCase s)).toList, IsAsciiCapital c.toNat) :
    upperCase (upperCase s) = upperCase s := by
  have fixed : ∀ c ∈ s.toList.flatMap upperChar, upperChar c = [c] := by
    intro c member
    obtain ⟨origin, -, capitalized⟩ := List.mem_flatMap.mp member
    refine upperChar_eq_self (not_capitalizes_of_mem_upperChar capitalized) fun d inCapitals => ?_
    apply capital
    simp only [upperCase, String.toList_ofList]
    exact List.mem_flatMap.mpr ⟨c, member, inCapitals⟩
  rw [upperCase, upperCase, String.toList_ofList, List.flatMap_congr fixed, List.flatMap_singleton']

end Text

namespace Level

theorem isAsciiCapital_name (l : Level) : ∀ c ∈ l.name.toList, Text.IsAsciiCapital c.toNat := by
  cases l <;> simp [name, Text.IsAsciiCapital]

theorem ofText_upperCase (s : String) : ofText (Text.upperCase s) = ofText s := by
  have same : Vocabulary.named? (α := Level) (Text.upperCase (Text.upperCase s)) =
      Vocabulary.named? (Text.upperCase s) := by
    ext l
    rw [Vocabulary.named?_eq_some_iff, Vocabulary.named?_eq_some_iff]
    constructor
    · intro named
      rw [← Text.upperCase_upperCase_of_capitals (named ▸ isAsciiCapital_name l)]
      exact named
    · intro named
      rw [← named]
      exact (upperCase_name l).symm
  rw [ofText, same, ← ofText]

end Level

end SmartFolder
