import SmartFolder.Json.Double

/-!
# Writing JSON

The compact text of a value: members in their order, no blanks, and only those characters escaped
that must be. A number that JSON has no text for is written as `null`. `print` writes any value;
`printWithin` gives up on a value that is too deep.
-/

namespace SmartFolder.Json

/-- A character inside a JSON string. Quotes, backslashes and the controls below the space are
escaped; everything else stands for itself. -/
def escapeChar (c : Char) : List Char :=
  if c = '\x22' then ['\\', '\x22']
  else if c = '\\' then ['\\', '\\']
  else if c = '\x08' then ['\\', 'b']
  else if c = '\t' then ['\\', 't']
  else if c = '\n' then ['\\', 'n']
  else if c = '\x0c' then ['\\', 'f']
  else if c = '\r' then ['\\', 'r']
  else if c.toNat < 0x20 then
    ['\\', 'u', '0', '0', (c.toNat / 16).digitChar, (c.toNat % 16).digitChar]
  else [c]

def printText (s : String) : List Char :=
  '\x22' :: (s.toList.flatMap escapeChar ++ ['\x22'])

def printInt : Int → List Char
  | .ofNat n => Nat.toDigits 10 n
  | .negSucc n => '-' :: Nat.toDigits 10 (n + 1)

def printDecimal (x : Decimal) : List Char :=
  match x, x.isFinite with
  | .finite negative digits exponent, true =>
    (if negative then ['-'] else []) ++ Nat.toDigits 10 digits ++ 'e' :: printInt exponent
  | _, _ => "null".toList

mutual

def printChars : Json → List Char
  | .null => "null".toList
  | .bool true => "true".toList
  | .bool false => "false".toList
  | .int n => printInt n
  | .decimal x => printDecimal x
  | .text s => printText s
  | .array [] => ['[', ']']
  | .array (v :: vs) => '[' :: (printChars v ++ printItems vs)
  | .object [] => ['\x7b', '\x7d']
  | .object ((k, v) :: ms) =>
    '\x7b' :: (printText k ++ ':' :: (printChars v ++ printMembers ms))

/-- The items after the first, and the closing bracket. -/
def printItems : List Json → List Char
  | [] => [']']
  | v :: vs => ',' :: (printChars v ++ printItems vs)

/-- The members after the first, and the closing brace. -/
def printMembers : List (String × Json) → List Char
  | [] => ['\x7d']
  | (k, v) :: ms => ',' :: (printText k ++ ':' :: (printChars v ++ printMembers ms))

end

def print (v : Json) : String :=
  String.ofList (printChars v)

/-! ### Levels -/

mutual

/-- How many values lie in each other, the value itself and the innermost included. -/
def height : Json → Nat
  | .array vs => heightItems vs + 1
  | .object ms => heightMembers ms + 1
  | _ => 1

def heightItems : List Json → Nat
  | [] => 0
  | v :: vs => max (height v) (heightItems vs)

def heightMembers : List (String × Json) → Nat
  | [] => 0
  | (_, v) :: ms => max (height v) (heightMembers ms)

end

/-- The text of a value that has at most so many values in each other. -/
def printWithin (levels : Nat) (v : Json) : Option String :=
  if v.height ≤ levels then some v.print else none

theorem isSome_printWithin_iff {levels : Nat} {v : Json} :
    (v.printWithin levels).isSome ↔ v.height ≤ levels := by
  rw [printWithin, Option.isSome_ite]

theorem print_of_printWithin {levels : Nat} {v : Json} {s : String}
    (written : v.printWithin levels = some s) : v.print = s := by
  rw [printWithin, Option.ite_none_right_eq_some] at written
  exact Option.some.inj written.2

end SmartFolder.Json
