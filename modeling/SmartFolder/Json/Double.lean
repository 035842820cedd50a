import SmartFolder.Json

/-!
# Decimals as doubles

A decimal is worth the double nearest to it, and an exact half goes to the even neighbour. From
the double follow whether a number is whole and the shortest text that reads back as it.
-/

namespace SmartFolder

/-- The non-negative number `mantissa * 2 ^ exponent`. -/
structure Double where
  mantissa : Nat
  exponent : Int
  deriving DecidableEq, Repr

/-- The whole number nearest to a quotient; a half goes to the even neighbour. -/
def roundDiv (num den : Nat) : Nat :=
  let q := num / den
  let twice := 2 * (num % den)
  if twice < den ∨ (twice = den ∧ q % 2 = 0) then q else q + 1

namespace Double

def minExponent : Int := -1074

def maxExponent : Int := 971

/-- `num / (den * base ^ k)` as a pair of whole numbers. -/
def scaled (base num den : Nat) (k : Int) : Nat × Nat :=
  if 0 ≤ k then (num, den * base.pow k.toNat) else (num * base.pow (-k).toNat, den)

/-- The double nearest to a positive quotient, unless it is beyond the largest. -/
def ofRatio? (num den : Nat) : Option Double :=
  let guess : Int := (num.log2 : Int) - den.log2 - 52
  let (n, d) := scaled 2 num den guess
  let exponent := max minExponent (if n < Nat.pow 2 52 * d then guess - 1 else guess)
  let (n, d) := scaled 2 num den exponent
  let mantissa := roundDiv n d
  let rounded : Double :=
    if mantissa = Nat.pow 2 53 then ⟨Nat.pow 2 52, exponent + 1⟩ else ⟨mantissa, exponent⟩
  if maxExponent < rounded.exponent then none else some rounded

/-- The double nearest to `digits * 10 ^ exponent`, unless it is beyond the largest. -/
def ofDigits? (digits : Nat) (exponent : Int) : Option Double :=
  let magnitude : Int := (Nat.toDigits 10 digits).length + exponent
  if digits = 0 ∨ magnitude < -330 then some ⟨0, minExponent⟩
  else if 330 < magnitude then none
  else
    let (num, den) := scaled 10 digits 1 (-exponent)
    ofRatio? num den

/-- The number as a pair of whole numbers. -/
def ratio (x : Double) : Nat × Nat := scaled 2 x.mantissa 1 (-x.exponent)

/-- The number, if it is whole. -/
def whole? (x : Double) : Option Nat :=
  let (num, den) := x.ratio
  if num % den = 0 then some (num / den) else none

/-- How many digits the number has before the point; a number below one has none, less the zeros
after the point. -/
def pointPlace (x : Double) : Int :=
  let (num, den) := x.ratio
  if den ≤ num then (Nat.toDigits 10 (num / den)).length
  else 1 - (Nat.toDigits 10 ((den - 1) / num)).length

/-- The digits of the nearer one of the two decimals with `count` digits around the number, if one
of them reads back as the number. -/
def readsBack? (x : Double) (place : Int) (count : Nat) : Option Nat :=
  let (num, den) := scaled 10 x.ratio.1 x.ratio.2 (place - count)
  let near := roundDiv num den
  let far := if near * den ≤ num then near + 1 else near - 1
  [near, far].find? fun digits => ofDigits? digits (place - count) == some x

/-- The fewest digits that read back as the number, and the place of the point. -/
def shortest (x : Double) : List Char × Int :=
  let place := x.pointPlace
  match (List.range 17).findSome? fun n => (x.readsBack? place (n + 1)).map (·, n + 1) with
  | some (digits, count) =>
    let cs := Nat.toDigits 10 digits
    ((cs.reverse.dropWhile (· = '0')).reverse, place + (cs.length - count))
  | none => (['0'], 1)

end Double

/-- What whole number a decimal is worth. -/
inductive Whole where
  | exact (n : Int)
  | fractional
  /-- The number has no fraction but does not fit a word of 64 bits. -/
  | oversized
  | notFinite
  deriving DecidableEq, Repr

namespace Decimal

def whole : Decimal → Whole
  | finite negative digits exponent =>
    match Double.ofDigits? digits exponent with
    | none => .notFinite
    | some x =>
      match x.whole? with
      | none => .fractional
      | some n => if n < 0x8000000000000000 then .exact (if negative then -n else n) else .oversized
  | _ => .notFinite

/-- Whether the number is a double, neither beyond the largest one nor no number at all. -/
def isFinite : Decimal → Bool
  | finite _ digits exponent => (Double.ofDigits? digits exponent).isSome
  | _ => false

def wholePart? : Decimal → Option Int
  | finite negative digits exponent =>
    (Double.ofDigits? digits exponent).map fun x =>
      let n : Int := x.ratio.1 / x.ratio.2
      if negative then -n else n
  | _ => none

/-- The digits of a number at the point: positional from four zeros after the point to sixteen
digits before it, with an exponent elsewhere. -/
def layout (digits : List Char) (place : Int) : List Char :=
  if -4 < place ∧ place ≤ 16 then
    if place ≤ 0 then '0' :: '.' :: (List.replicate (-place).toNat '0' ++ digits)
    else if digits.length ≤ place.toNat then
      digits ++ List.replicate (place.toNat - digits.length) '0' ++ ['.', '0']
    else digits.take place.toNat ++ '.' :: digits.drop place.toNat
  else
    let exponent := place - 1
    let fraction := match digits.drop 1 with
      | [] => []
      | rest => '.' :: rest
    digits.take 1 ++ fraction ++ 'e' :: (if exponent < 0 then '-' else '+') ::
      (Nat.toDigits 10 exponent.natAbs).leftpad 2 '0'

def text : Decimal → String
  | finite negative digits exponent =>
    let sign := if negative then "-" else ""
    match Double.ofDigits? digits exponent with
    | none => sign ++ "inf"
    | some x =>
      if x.mantissa = 0 then sign ++ "0.0"
      else
        let (digits, place) := x.shortest
        sign ++ String.ofList (layout digits place)
  | infinite negative => if negative then "-inf" else "inf"
  | notANumber => "nan"

end Decimal

/-- The whole part of a number; a truth value counts as one or zero. -/
def Json.wholePart? : Json → Option Int
  | .int n => some n
  | .bool b => some (if b then 1 else 0)
  | .decimal x => x.wholePart?
  | _ => none

end SmartFolder
