import SmartFolder.Failure
import SmartFolder.Text.Blank
import SmartFolder.Text.Keyword

/-!
# Relative dates

A date value is a keyword, an absolute date, or a relative date such as `3 days`. `decode` finds
the relative dates; `encode` writes one.
-/

namespace SmartFolder

inductive CalendarUnit where
  | day
  | week
  | month
  | year
  deriving DecidableEq, Repr

namespace CalendarUnit

def singular : CalendarUnit → String
  | day => "day"
  | week => "week"
  | month => "month"
  | year => "year"

def plural (u : CalendarUnit) : String := u.singular ++ "s"

def word (u : CalendarUnit) (count : Int) : String :=
  if count = 1 then u.singular else u.plural

instance : Vocabulary CalendarUnit where
  all := [day, week, month, year]
  name := singular
  mem_all a := by cases a <;> simp
  name_inj a b h := by cases a <;> cases b <;> simp [singular] at h ⊢

end CalendarUnit

/-- So many units of the calendar before now. -/
structure RelativeDate where
  count : Nat
  unit : CalendarUnit
  deriving DecidableEq, Repr

namespace RelativeDate

def keywords : List String := ["today", "yesterday", "last week"]

/-- The words that end a relative date, each with its unit. No word is the end of another. -/
def unitWords : List (List Char × CalendarUnit) :=
  (Vocabulary.all (α := CalendarUnit)).flatMap fun u =>
    [(u.plural.toList, u), (u.singular.toList, u)]

/-- The text before the first of the words that ends `cs`, and the unit of that word. -/
def splitBy (words : List (List Char × CalendarUnit)) (cs : List Char) :
    Option (List Char × CalendarUnit) :=
  words.findSome? fun (word, u) =>
    if word.isSuffixOf cs then some (cs.take (cs.length - word.length), u) else none

def splitUnit : List Char → Option (List Char × CalendarUnit) :=
  splitBy unitWords

/-- A count has at most this many digits. -/
def maxDigits : Nat := 4300

/-- The relative date a date value stands for, if it is one. A value that ends in one of the unit
words must have a count before it, and nothing but blanks around the count. -/
def decodeBy (words : List (List Char × CalendarUnit)) (value : String) :
    Except Failure (Option RelativeDate) :=
  if Text.isKeyword keywords value then .ok none
  else match splitBy words value.toList with
    | none => .ok none
    | some (before, unit) =>
      let digits := Text.trim Text.isBlank before
      if digits.isEmpty || !digits.all Char.isDigit then .error (.malformedValue value)
      else if maxDigits < digits.length then .error (.oversizedCount digits.length)
      else .ok (some ⟨Nat.ofDigitChars 10 digits 0, unit⟩)

def decode : String → Except Failure (Option RelativeDate) :=
  decodeBy unitWords

def encode (count : Int) (unit : CalendarUnit) : Except Failure String :=
  match count with
  | .ofNat n => .ok (n.repr ++ " " ++ unit.word n)
  | .negSucc _ => .error (.negativeCount count)

def text (d : RelativeDate) : String :=
  d.count.repr ++ " " ++ d.unit.word d.count

end RelativeDate

end SmartFolder
