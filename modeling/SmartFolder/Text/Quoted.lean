import SmartFolder.Text.Printable

/-!
# Quoted text

Text as messages show it: between quotes, with escapes for the quote, the backslash, the line
breaks, the tab and every character that is not printable.
-/

namespace SmartFolder.Text

/-- Single quotes, unless the text has one and has no double quote. -/
def delimiter (cs : List Char) : Char :=
  if cs.contains '\x27' && !cs.contains '\x22' then '\x22' else '\x27'

/-- `n` in hexadecimal with at least `width` digits. -/
def hexDigits (width n : Nat) : List Char :=
  (Nat.toDigits 16 n).leftpad width '0'

/-- The escape of a character by its code: two, four or eight digits, the fewest that hold it. -/
def codeEscape (n : Nat) : List Char :=
  if n < 0x100 then '\\' :: 'x' :: hexDigits 2 n
  else if n < 0x10000 then '\\' :: 'u' :: hexDigits 4 n
  else '\\' :: 'U' :: hexDigits 8 n

/-- A character as it stands between the quotes `d`. -/
def quoteChar (d c : Char) : List Char :=
  if c = d ∨ c = '\\' then ['\\', c]
  else if c = '\n' then ['\\', 'n']
  else if c = '\r' then ['\\', 'r']
  else if c = '\t' then ['\\', 't']
  else if isPrintable c then [c]
  else codeEscape c.toNat

def quoteChars (cs : List Char) : List Char :=
  delimiter cs :: (cs.flatMap (quoteChar (delimiter cs)) ++ [delimiter cs])

def quote (s : String) : String :=
  String.ofList (quoteChars s.toList)

end SmartFolder.Text
