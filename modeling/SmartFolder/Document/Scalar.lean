import SmartFolder.Document.Checked
import SmartFolder.Json.Double
import SmartFolder.Json.Reader
import SmartFolder.Text.Blank

/-!
# Whole numbers and truth values in documents

A whole number may also be written as a truth value, as a number without a fraction, or as a text.
A truth value may also be written as a number or as one of a few words.
-/

namespace SmartFolder

/-! ### Whole numbers -/

/-- The digits of a text in which single underscores may stand between digits. -/
def groupedDigits? : List Char → Option (List Char)
  | [] => none
  | [c] => if c.isDigit then some [c] else none
  | c :: '_' :: rest => if c.isDigit then (groupedDigits? rest).map (c :: ·) else none
  | c :: rest => if c.isDigit then (groupedDigits? rest).map (c :: ·) else none

/-- The text before a point that only zeros follow, at least one. -/
def dropZeroFraction (cs : List Char) : List Char :=
  match cs.span (· ≠ '.') with
  | (whole, '.' :: '0' :: zeros) => if zeros.all (· = '0') then whole else cs
  | _ => cs

/-- Digits that are too long for a number in a document. -/
def isOversized (negative : Bool) (digits : List Char) : Bool :=
  Json.Limits.document.wholeLength < if negative then digits.length + 1 else digits.length

/-- The text from the first character on that is no zero and no underscore. Unless it is a digit or
a minus sign, the character before it stays; at the start that is `last`. -/
def skipZeros (last : Char) : List Char → List Char
  | [] => [last]
  | c :: rest =>
    if c = '0' || c = '_' then skipZeros c rest
    else if c.isDigit || c = '-' then c :: rest
    else last :: c :: rest

/-- A text without the zeros in front and the underscores among them. Of zeros alone one stays. -/
def dropZeros : List Char → List Char
  | '0' :: rest => skipZeros '0' rest
  | cs => cs

/-- Whether a text has a minus sign at its front, and what follows it. No zeros may come between
the sign and other digits. -/
def splitMinus : List Char → Bool × List Char
  | '-' :: rest => if dropZeros rest = rest then (true, rest) else (false, '-' :: rest)
  | cs => (false, cs)

/-- Whether a text has a minus sign, and what follows its sign without the zeros in front. Zeros
may also come before a minus sign, but no plus sign right before it: then it stays. -/
def splitSign : List Char → Bool × List Char
  | '-' :: rest => (true, dropZeros rest)
  | '+' :: '-' :: rest => (false, '-' :: rest)
  | '+' :: rest => splitMinus (dropZeros rest)
  | cs => splitMinus (dropZeros cs)

/-- A whole number in a text. Digits that are too long come before any other fault. -/
def wholeNumber (s : String) : Checked Int :=
  let (negative, cs) := splitSign (Text.trim Text.isWhiteSpace s.toList)
  if isOversized negative (cs.takeWhile Char.isDigit) then .fault .oversizedInteger
  else match groupedDigits? (dropZeroFraction cs) with
    | none => .fault .unreadableInteger
    | some digits =>
      if isOversized negative digits then .fault .oversizedInteger
      else
        let n : Int := Nat.ofDigitChars 10 digits 0
        .ok (if negative then -n else n)

namespace Json

def checkInteger : Json → Checked Int
  | .int n => .ok n
  | .bool b => .ok (if b then 1 else 0)
  | .decimal x =>
    match x.whole with
    | .exact n => .ok n
    | .fractional => .fault .fractional
    | .oversized => .fault .oversizedInteger
    | .notFinite => .fault .notFinite
  | .text s => wholeNumber s
  | .null | .array _ | .object _ => .fault .notInteger

def checkCount (v : Json) : Checked Nat :=
  match checkInteger v with
  | .ok n => if n < 0 then .fault .negative else .ok n.toNat
  | .error fs => .error fs

/-! ### Truth values -/

def falseWords : List String := ["0", "off", "f", "false", "n", "no"]

def trueWords : List String := ["1", "on", "t", "true", "y", "yes"]

/-- A truth value in a text, in any case of its ASCII letters. -/
def truthOfText (s : String) : Checked Bool :=
  let word := String.ofList (s.toList.map Char.toLower)
  if trueWords.contains word then .ok true
  else if falseWords.contains word then .ok false
  else .fault .unreadableBool

def fitsWord (n : Int) : Bool := -0x8000000000000000 ≤ n && n < 0x8000000000000000

/-- A truth value in a whole number that fits a word. -/
def truthOfWord (n : Int) : Checked Bool :=
  if n = 0 then .ok false
  else if n = 1 then .ok true
  else .fault .unreadableBool

/-- A number that is not whole, or that does not fit a word, is no truth value at all. -/
def checkBool : Json → Checked Bool
  | .bool b => .ok b
  | .int n => if fitsWord n then truthOfWord n else .fault .notBool
  | .decimal x =>
    match x.whole with
    | .exact n => truthOfWord n
    | _ => .fault .notBool
  | .text s => truthOfText s
  | .null | .array _ | .object _ => .fault .notBool

end Json

end SmartFolder
