import Mathlib.Algebra.Group.Nat.Defs
import SmartFolder.Proofs.JsonText
import SmartFolder.Text.Quoted

/-!
# Reading quoted text

A reader takes a quoted text apart from the left, one character at a time, and gives back each
character and what follows it (`readChar_quoteChar`). So a quoted text ends at one place only, and
different texts have different quotations, whichever quotes they are in (`quoteChars_append_inj`).
-/

namespace SmartFolder.Text

/-! ### Codes -/

/-- The number that hexadecimal digits write. -/
def hexCode (cs : List Char) : Nat :=
  cs.foldl (fun n c => 16 * n + (Json.hexValue? c).getD 0) 0

theorem hexCode_append_digitChar (cs : List Char) {n : Nat} (small : n < 16) :
    hexCode (cs ++ [n.digitChar]) = 16 * hexCode cs + n := by
  rw [hexCode, List.foldl_append, List.foldl_cons, List.foldl_nil,
    Json.hexValue?_digitChar n small, Option.getD_some, hexCode]

theorem hexCode_toDigits (n : Nat) : hexCode (Nat.toDigits 16 n) = n := by
  induction n using Nat.base_induction 16 (by decide) with
  | single n small =>
    have digit := hexCode_append_digitChar [] small
    rw [Nat.toDigits_of_lt_base small]
    simpa [hexCode] using digit
  | digit n k small positive ih =>
    have last : Nat.toDigits 16 k = [k.digitChar] := Nat.toDigits_of_lt_base small
    rw [← Nat.toDigits_append_toDigits (by decide) positive small, last,
      hexCode_append_digitChar _ small, ih]

theorem hexCode_replicate_append (k : Nat) (cs : List Char) :
    hexCode (List.replicate k '0' ++ cs) = hexCode cs := by
  have zero : (Json.hexValue? '0').getD 0 = 0 := by decide
  induction k with
  | zero => rfl
  | succ k ih =>
    rw [List.replicate_succ, List.cons_append, ← ih, hexCode, List.foldl_cons, zero]
    rfl

theorem hexCode_hexDigits (width n : Nat) : hexCode (hexDigits width n) = n := by
  rw [hexDigits, List.leftpad, hexCode_replicate_append, hexCode_toDigits]

theorem length_hexDigits {width n : Nat} (positive : 0 < width) (fits : n < 16 ^ width) :
    (hexDigits width n).length = width := by
  rw [hexDigits, List.length_leftpad]
  exact Nat.max_eq_left ((Nat.length_toDigits_le_iff (by decide) positive).mpr fits)

/-! ### Characters -/

/-- The width of the code that a letter after a backslash announces. -/
def codeWidth? : Char → Option Nat
  | 'x' => some 2
  | 'u' => some 4
  | 'U' => some 8
  | _ => none

/-- The character that stands after a backslash for another one, or for itself. -/
def escaped : Char → Char
  | 'n' => '\n'
  | 'r' => '\r'
  | 't' => '\t'
  | c => c

/-- The first character of what stands between quotes, and what follows it. -/
def readChar : List Char → Option (Char × List Char)
  | '\\' :: e :: rest =>
    match codeWidth? e with
    | some width => some (Char.ofNat (hexCode (rest.take width)), rest.drop width)
    | none => some (escaped e, rest)
  | c :: rest => some (c, rest)
  | [] => none

theorem readChar_code {mark : Char} {width : Nat} {c : Char}
    (announced : codeWidth? mark = some width) (positive : 0 < width)
    (fits : c.toNat < 16 ^ width) (rest : List Char) :
    readChar ('\\' :: mark :: (hexDigits width c.toNat ++ rest)) = some (c, rest) := by
  have length := length_hexDigits positive fits
  have digits : (hexDigits width c.toNat ++ rest).take width = hexDigits width c.toNat :=
    List.take_left' length
  have after : (hexDigits width c.toNat ++ rest).drop width = rest := List.drop_left' length
  rw [readChar, announced]
  dsimp only
  rw [digits, after, hexCode_hexDigits, Char.ofNat_toNat]

theorem readChar_codeEscape (c : Char) (rest : List Char) :
    readChar (codeEscape c.toNat ++ rest) = some (c, rest) := by
  have bound : c.toNat < 0x110000 := by
    have valid := c.valid
    simp only [UInt32.isValidChar, Nat.isValidChar] at valid
    simp only [Char.toNat]
    omega
  rw [codeEscape]
  split
  · exact readChar_code rfl (by decide) (by omega) rest
  split
  · exact readChar_code rfl (by decide) (by omega) rest
  · exact readChar_code rfl (by decide) (by omega) rest

/-- The two quotes. -/
def IsQuote (d : Char) : Prop := d = '\x27' ∨ d = '\x22'

theorem isQuote_delimiter (cs : List Char) : IsQuote (delimiter cs) := by
  unfold delimiter
  split
  · exact Or.inr rfl
  · exact Or.inl rfl

theorem readChar_quoteChar {d : Char} (quote : IsQuote d) (c : Char) (rest : List Char) :
    readChar (quoteChar d c ++ rest) = some (c, rest) := by
  fun_cases quoteChar d c
  case case1 same =>
    rcases same with rfl | rfl
    · rcases quote with rfl | rfl <;> rfl
    · rfl
  case case2 same | case3 same | case4 same =>
    subst same
    rfl
  case case5 special _ _ _ _ =>
    rw [List.singleton_append, readChar]
    intro e rest' backslash
    exact absurd backslash fun same => special (Or.inr same)
  case case6 => exact readChar_codeEscape c rest

/-! ### Texts -/

/-- No character between quotes starts with the closing quote. -/
theorem cons_ne_quoteChar_append {d : Char} (quote : IsQuote d) (c : Char)
    (rest rest' : List Char) :
    d :: rest ≠ quoteChar d c ++ rest' := by
  intro same
  have closing : readChar (d :: rest) = some (d, rest) := by
    rcases quote with rfl | rfl <;> rfl
  -- The reader would give back the quote itself, but that is written with a backslash.
  rw [same, readChar_quoteChar quote] at closing
  obtain ⟨rfl, rfl⟩ := Prod.mk.inj (Option.some.inj closing)
  have escape : quoteChar c c = ['\\', c] := if_pos (Or.inl rfl)
  rw [escape] at same
  rcases quote with rfl | rfl <;> cases same

theorem quoteChar_append_inj {d c c' : Char} {rest rest' : List Char} (quote : IsQuote d)
    (same : quoteChar d c ++ rest = quoteChar d c' ++ rest') : c = c' ∧ rest = rest' := by
  have read := readChar_quoteChar quote c rest
  rw [same, readChar_quoteChar quote] at read
  obtain ⟨rfl, rfl⟩ := Prod.mk.inj (Option.some.inj read)
  exact ⟨rfl, rfl⟩

theorem flatMap_quoteChar_inj {d : Char} {cs cs' rest rest' : List Char} (quote : IsQuote d)
    (same : cs.flatMap (quoteChar d) ++ d :: rest = cs'.flatMap (quoteChar d) ++ d :: rest') :
    cs = cs' ∧ rest = rest' := by
  induction cs generalizing cs' with
  | nil =>
    cases cs' with
    | nil => exact ⟨rfl, List.tail_eq_of_cons_eq same⟩
    | cons c' cs' =>
      rw [List.flatMap_cons, List.append_assoc] at same
      exact absurd same (cons_ne_quoteChar_append quote c' _ _)
  | cons c cs ih =>
    cases cs' with
    | nil =>
      rw [List.flatMap_cons, List.append_assoc] at same
      exact absurd same.symm (cons_ne_quoteChar_append quote c _ _)
    | cons c' cs' =>
      rw [List.flatMap_cons, List.flatMap_cons, List.append_assoc, List.append_assoc] at same
      obtain ⟨rfl, others⟩ := quoteChar_append_inj quote same
      obtain ⟨rfl, rfl⟩ := ih others
      exact ⟨rfl, rfl⟩

theorem quoteChars_append_inj {cs cs' rest rest' : List Char}
    (same : quoteChars cs ++ rest = quoteChars cs' ++ rest') : cs = cs' ∧ rest = rest' := by
  rw [quoteChars, quoteChars, List.cons_append, List.cons_append, List.append_assoc,
    List.append_assoc] at same
  obtain ⟨delimiters, inner⟩ := List.cons_eq_cons.mp same
  rw [← delimiters] at inner
  exact flatMap_quoteChar_inj (isQuote_delimiter cs) inner

end SmartFolder.Text
