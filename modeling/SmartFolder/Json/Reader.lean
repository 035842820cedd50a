import SmartFolder.Json
import SmartFolder.Table

/-!
# Reading JSON

`read` accepts the JSON grammar and the three words for numbers that no digits write. Where an
object repeats a key, the last member counts and stands in the place of the first. `readWithin`
also keeps to limits on the size of numbers and on nesting.
-/

namespace SmartFolder.Json

structure Limits where
  /-- How many characters the whole part of a number may have, its minus sign included. -/
  wholeLength : Nat
  /-- How deep arrays and objects may lie in each other, those without content not counted. -/
  depth : Nat
  deriving DecidableEq, Repr

def Limits.document : Limits := ⟨4300, 200⟩

/-! ### Texts -/

def hexValue? (c : Char) : Option Nat :=
  if c.isDigit then some (c.toNat - '0'.toNat)
  else if 'a' ≤ c ∧ c ≤ 'f' then some (c.toNat - 'a'.toNat + 10)
  else if 'A' ≤ c ∧ c ≤ 'F' then some (c.toNat - 'A'.toNat + 10)
  else none

def code? (a b c d : Char) : Option Nat := do
  let a ← hexValue? a
  let b ← hexValue? b
  let c ← hexValue? c
  let d ← hexValue? d
  return ((a * 16 + b) * 16 + c) * 16 + d

/-- The character that a one-letter escape stands for. -/
def shortEscape? : Char → Option Char
  | '\x22' => some '\x22'
  | '\\' => some '\\'
  | '/' => some '/'
  | 'b' => some '\x08'
  | 'f' => some '\x0c'
  | 'n' => some '\n'
  | 'r' => some '\r'
  | 't' => some '\t'
  | _ => none

/-- The text up to the closing quote, and what follows it. A code of the upper surrogate half must
have one of the lower half after it, and the two write one character. -/
def readText : List Char → Option (List Char × List Char)
  | [] => none
  | '\x22' :: rest => some ([], rest)
  | '\\' :: 'u' :: a :: b :: c :: d :: rest =>
    match code? a b c d with
    | none => none
    | some high =>
      if high < 0xd800 ∨ 0xdfff < high then
        (readText rest).map fun (cs, rest) => (Char.ofNat high :: cs, rest)
      else if high < 0xdc00 then
        match rest with
        | '\\' :: 'u' :: e :: f :: g :: h :: rest =>
          match code? e f g h with
          | none => none
          | some low =>
            if low < 0xdc00 ∨ 0xdfff < low then none
            else (readText rest).map fun (cs, rest) =>
              (Char.ofNat (0x10000 + (high - 0xd800) * 0x400 + (low - 0xdc00)) :: cs, rest)
        | _ => none
      else none
  | '\\' :: e :: rest =>
    match shortEscape? e with
    | none => none
    | some c => (readText rest).map fun (cs, rest) => (c :: cs, rest)
  | c :: rest =>
    if c.toNat < 0x20 ∨ c = '\\' then none
    else (readText rest).map fun (cs, rest) => (c :: cs, rest)

/-! ### Numbers -/

def readDigits (cs : List Char) : List Char × List Char :=
  (cs.takeWhile Char.isDigit, cs.dropWhile Char.isDigit)

/-- The digits after a point, if there is a point. A point needs a digit after it. -/
def readFraction : List Char → Option (Option (List Char) × List Char)
  | '.' :: rest =>
    match readDigits rest with
    | ([], _) => none
    | (digits, rest) => some (some digits, rest)
  | cs => some (none, cs)

def readExponent : List Char → Option (Option Int × List Char)
  | c :: rest =>
    if c = 'e' ∨ c = 'E' then
      let (negative, rest) := match rest with
        | '-' :: rest => (true, rest)
        | '+' :: rest => (false, rest)
        | rest => (false, rest)
      match readDigits rest with
      | ([], _) => none
      | (digits, rest) =>
        let n := Nat.ofDigitChars 10 digits 0
        some (some (if negative then -n else n), rest)
    else some (none, c :: rest)
  | [] => some (none, [])

/-- A number without its sign: no zero before another digit, then a fraction and an exponent. At
most `wholeLength` digits stand before them. -/
def readUnsigned (wholeLength : Nat) (negative : Bool) (cs : List Char) :
    Option (Json × List Char) :=
  match readDigits cs with
  | ([], _) => none
  | ('0' :: _ :: _, _) => none
  | (whole, rest) =>
    if wholeLength < whole.length then none
    else match readFraction rest with
    | none => none
    | some (fraction, rest) =>
      match readExponent rest with
      | none => none
      | some (exponent, rest) =>
        match fraction, exponent with
        | none, none =>
          let n := Nat.ofDigitChars 10 whole 0
          some (.int (if negative then -n else n), rest)
        | fraction, exponent =>
          let digits := fraction.getD []
          some (.decimal (.finite negative (Nat.ofDigitChars 10 (whole ++ digits) 0)
            (exponent.getD 0 - digits.length)), rest)

/-- The rest of `cs` after the word, if `cs` starts with it. -/
def afterWord? (word : String) (cs : List Char) : Option (List Char) :=
  if word.toList.isPrefixOf cs then some (cs.drop word.length) else none

def readNumber (wholeLength : Nat) : List Char → Option (Json × List Char)
  | '-' :: rest =>
    match afterWord? "Infinity" rest with
    | some rest => some (.decimal (.infinite true), rest)
    | none => readUnsigned (wholeLength - 1) true rest
  | cs => readUnsigned wholeLength false cs

def words : List (String × Json) := [
  ("null", .null),
  ("true", .bool true),
  ("false", .bool false),
  ("NaN", .decimal .notANumber),
  ("Infinity", .decimal (.infinite false))]

def readWord (cs : List Char) : Option (Json × List Char) :=
  words.findSome? fun (word, v) => (afterWord? word cs).map (v, ·)

/-! ### Values -/

def isSpace (c : Char) : Bool :=
  c = ' ' || c = '\t' || c = '\n' || c = '\r'

def skipSpace (cs : List Char) : List Char := cs.dropWhile isSpace

def ofMembers (members : List (String × Json)) : Json :=
  .object (Table.ofPairs members)

def readKey (cs : List Char) : Option (String × List Char) :=
  match skipSpace cs with
  | '\x22' :: rest =>
    match readText rest with
    | none => none
    | some (key, rest) =>
      match skipSpace rest with
      | ':' :: rest => some (String.ofList key, rest)
      | _ => none
  | _ => none

mutual

/-- A value and what follows it. The first number bounds the calls that are under way at once. -/
def readValue : Nat → Limits → List Char → Option (Json × List Char)
  | 0, _, _ => none
  | fuel + 1, limits, cs =>
    match skipSpace cs with
    | '\x22' :: rest =>
      (readText rest).map fun (s, rest) => (.text (String.ofList s), rest)
    | '[' :: rest =>
      match skipSpace rest with
      | ']' :: rest => some (.array [], rest)
      | rest =>
        match limits with
        | ⟨_, 0⟩ => none
        | ⟨wholeLength, depth + 1⟩ =>
          (readItems fuel ⟨wholeLength, depth⟩ rest).map fun (vs, rest) => (.array vs, rest)
    | '\x7b' :: rest =>
      match skipSpace rest with
      | '\x7d' :: rest => some (.object [], rest)
      | rest =>
        match limits with
        | ⟨_, 0⟩ => none
        | ⟨wholeLength, depth + 1⟩ =>
          (readMembers fuel ⟨wholeLength, depth⟩ rest).map fun (ms, rest) => (ofMembers ms, rest)
    | c :: rest =>
      if c = '-' || c.isDigit then readNumber limits.wholeLength (c :: rest)
      else readWord (c :: rest)
    | [] => none

def readItems : Nat → Limits → List Char → Option (List Json × List Char)
  | 0, _, _ => none
  | fuel + 1, limits, cs =>
    match readValue fuel limits cs with
    | none => none
    | some (v, rest) =>
      match skipSpace rest with
      | ',' :: rest => (readItems fuel limits rest).map fun (vs, rest) => (v :: vs, rest)
      | ']' :: rest => some ([v], rest)
      | _ => none

def readMembers : Nat → Limits → List Char → Option (List (String × Json) × List Char)
  | 0, _, _ => none
  | fuel + 1, limits, cs =>
    match readKey cs with
    | none => none
    | some (key, rest) =>
      match readValue fuel limits rest with
      | none => none
      | some (v, rest) =>
        match skipSpace rest with
        | ',' :: rest =>
          (readMembers fuel limits rest).map fun (ms, rest) => ((key, v) :: ms, rest)
        | '\x7d' :: rest => some ([(key, v)], rest)
        | _ => none

end

/-- The value that the whole text writes. Each character opens at most two calls, so twice the
length bounds them. -/
def readChars (limits : Limits) (cs : List Char) : Option Json :=
  match readValue (2 * cs.length + 2) limits cs with
  | some (v, rest) => if (skipSpace rest).isEmpty then some v else none
  | none => none

def readWithin (limits : Limits) (s : String) : Option Json := readChars limits s.toList

/-- The value of a text of any size: no number and no nesting is longer than the text. -/
def read (s : String) : Option Json := readWithin ⟨s.length, s.length⟩ s

end SmartFolder.Json
