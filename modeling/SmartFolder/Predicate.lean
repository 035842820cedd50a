import SmartFolder.Json
import SmartFolder.Operator
import SmartFolder.RelativeDate

/-!
# Predicates

A native predicate is a comparison of two operands, a connective over predicates, or a constant.
A comparison with a relative date keeps the date's text as its right operand, so that reading it
back loses nothing.
-/

namespace SmartFolder

inductive Operand where
  | constant (value : String)
  | keyPath (path : String)
  deriving DecidableEq, Repr

structure Comparison where
  left : Operand
  relation : Relation
  right : Operand
  /-- The date that the right operand stands for, where the comparison is with a relative one. -/
  date : Option RelativeDate := none
  deriving DecidableEq, Repr

inductive Predicate where
  | comparison (c : Comparison)
  | compound (connective : Connective) (parts : List Predicate)
  | constant (value : Bool)
  deriving Repr

namespace Operand

def text : Operand → String
  | constant value => value
  | keyPath path => path

end Operand

namespace Comparison

def ofConstants (left : String) (relation : Relation) (right : String) : Comparison :=
  { left := .constant left, relation := relation, right := .constant right }

end Comparison

namespace Predicate

/-! ### Equality -/

mutual

def decEq (a b : Predicate) : Decidable (a = b) :=
  match a, b with
  | .comparison c, .comparison d => decidable_of_iff (c = d) (by simp)
  | .constant x, .constant y => decidable_of_iff (x = y) (by simp)
  | .compound j xs, .compound k ys =>
    haveI := decEqParts xs ys
    decidable_of_iff (j = k ∧ xs = ys) (by simp)
  | .comparison _, .compound _ _ | .comparison _, .constant _ | .compound _ _, .comparison _
  | .compound _ _, .constant _ | .constant _, .comparison _ | .constant _, .compound _ _ =>
    isFalse (by intro h; cases h)

def decEqParts (xs ys : List Predicate) : Decidable (xs = ys) :=
  match xs, ys with
  | [], [] => isTrue rfl
  | x :: xs, y :: ys =>
    haveI := decEq x y
    haveI := decEqParts xs ys
    decidable_of_iff (x = y ∧ xs = ys) (by simp)
  | [], _ :: _ | _ :: _, [] => isFalse (by intro h; cases h)

end

instance : DecidableEq Predicate := decEq

/-! ### Comparisons -/

mutual

def comparisons : Predicate → List Comparison
  | .comparison c => [c]
  | .compound _ parts => comparisonsOf parts
  | .constant _ => []

def comparisonsOf : List Predicate → List Comparison
  | [] => []
  | p :: ps => comparisons p ++ comparisonsOf ps

end

theorem comparisonsOf_eq_flatMap (ps : List Predicate) :
    comparisonsOf ps = ps.flatMap comparisons := by
  induction ps with
  | nil => rfl
  | cons p ps ih => simp [comparisonsOf, ih]

/-! ### Combination -/

def and (p q : Predicate) : Predicate := .compound .and [p, q]

def or (p q : Predicate) : Predicate := .compound .or [p, q]

def not (p : Predicate) : Predicate := .compound .not [p]

end Predicate

end SmartFolder
