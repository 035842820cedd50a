/-!
# JSON values

Objects keep the order of their members. Whole numbers are told apart from numbers written with a
fraction or an exponent, which stay exact.
-/

namespace SmartFolder

/-- A number with a fraction or an exponent: a sign, the digits as one number, and the power of
ten to scale by; or one of the values no digits write. -/
inductive Decimal where
  | finite (negative : Bool) (digits : Nat) (exponent : Int)
  | infinite (negative : Bool)
  | notANumber
  deriving DecidableEq, Repr

inductive Json where
  | null
  | bool (value : Bool)
  | int (value : Int)
  | decimal (value : Decimal)
  | text (value : String)
  | array (items : List Json)
  | object (members : List (String × Json))

namespace Json

/-! ### Equality -/

mutual

def decEq (a b : Json) : Decidable (a = b) :=
  match a, b with
  | .null, .null => isTrue rfl
  | .bool x, .bool y => decidable_of_iff (x = y) (by simp)
  | .int x, .int y => decidable_of_iff (x = y) (by simp)
  | .decimal x, .decimal y => decidable_of_iff (x = y) (by simp)
  | .text x, .text y => decidable_of_iff (x = y) (by simp)
  | .array xs, .array ys =>
    haveI := decEqItems xs ys
    decidable_of_iff (xs = ys) (by simp)
  | .object xs, .object ys =>
    haveI := decEqMembers xs ys
    decidable_of_iff (xs = ys) (by simp)
  | .null, .bool _ | .null, .int _ | .null, .decimal _ | .null, .text _ | .null, .array _
  | .null, .object _ | .bool _, .null | .bool _, .int _ | .bool _, .decimal _
  | .bool _, .text _ | .bool _, .array _ | .bool _, .object _ | .int _, .null
  | .int _, .bool _ | .int _, .decimal _ | .int _, .text _ | .int _, .array _
  | .int _, .object _ | .decimal _, .null | .decimal _, .bool _ | .decimal _, .int _
  | .decimal _, .text _ | .decimal _, .array _ | .decimal _, .object _ | .text _, .null
  | .text _, .bool _ | .text _, .int _ | .text _, .decimal _ | .text _, .array _
  | .text _, .object _ | .array _, .null | .array _, .bool _ | .array _, .int _
  | .array _, .decimal _ | .array _, .text _ | .array _, .object _ | .object _, .null
  | .object _, .bool _ | .object _, .int _ | .object _, .decimal _ | .object _, .text _
  | .object _, .array _ => isFalse (by intro h; cases h)

def decEqItems (xs ys : List Json) : Decidable (xs = ys) :=
  match xs, ys with
  | [], [] => isTrue rfl
  | x :: xs, y :: ys =>
    haveI := decEq x y
    haveI := decEqItems xs ys
    decidable_of_iff (x = y ∧ xs = ys) (by simp)
  | [], _ :: _ | _ :: _, [] => isFalse (by intro h; cases h)

def decEqMembers (xs ys : List (String × Json)) : Decidable (xs = ys) :=
  match xs, ys with
  | [], [] => isTrue rfl
  | (k, x) :: xs, (l, y) :: ys =>
    haveI := decEq x y
    haveI := decEqMembers xs ys
    decidable_of_iff (k = l ∧ x = y ∧ xs = ys) (by simp [and_assoc])
  | [], _ :: _ | _ :: _, [] => isFalse (by intro h; cases h)

end

instance : DecidableEq Json := decEq

/-! ### Access -/

/-- The member of an object by name; nothing else has members. -/
def member? (key : String) : Json → Option Json
  | object members => members.lookup key
  | _ => none

def texts (ss : List String) : Json := array (ss.map text)

end Json

end SmartFolder
