import SmartFolder.Json
import SmartFolder.Operator
import SmartFolder.Text.Quoted

/-!
# Filters

A filter is a clause about one field, or a group that joins filters by a condition. Groups nest
without bound and keep the order of their members.
-/

namespace SmartFolder

/-- A single clause: a field, an operator and the value to compare with. -/
structure Clause where
  field : String
  operator : Operator := .equalTo
  value : String := ""
  deriving DecidableEq, Repr

inductive Filter where
  | clause (c : Clause)
  | group (condition : Condition) (members : List Filter)
  deriving Repr

structure Group where
  condition : Condition := .all
  members : List Filter := []
  deriving Repr

namespace Clause

def text (c : Clause) : String :=
  c.field ++ " " ++ c.operator.name ++ " " ++ Text.quote c.value

def toJson (c : Clause) : Json :=
  .object [("kind", .text "criteria"), ("field", .text c.field),
    ("operator_type", .text c.operator.name), ("value", .text c.value)]

end Clause

namespace Filter

/-! ### Equality -/

mutual

def decEq (a b : Filter) : Decidable (a = b) :=
  match a, b with
  | .clause c, .clause d => decidable_of_iff (c = d) (by simp)
  | .group c xs, .group d ys =>
    haveI := decEqMembers xs ys
    decidable_of_iff (c = d ∧ xs = ys) (by simp)
  | .clause _, .group _ _ | .group _ _, .clause _ => isFalse (by intro h; cases h)

def decEqMembers (xs ys : List Filter) : Decidable (xs = ys) :=
  match xs, ys with
  | [], [] => isTrue rfl
  | x :: xs, y :: ys =>
    haveI := decEq x y
    haveI := decEqMembers xs ys
    decidable_of_iff (x = y ∧ xs = ys) (by simp)
  | [], _ :: _ | _ :: _, [] => isFalse (by intro h; cases h)

end

instance : DecidableEq Filter := decEq

/-! ### Texts and documents -/

mutual

/-- The filter in one line: a group is its condition over its members. -/
def text : Filter → String
  | .clause c => c.text
  | .group condition members =>
    condition.name ++ "(" ++ ", ".intercalate (texts members) ++ ")"

def texts : List Filter → List String
  | [] => []
  | f :: fs => text f :: texts fs

end

mutual

def toJson : Filter → Json
  | .clause c => c.toJson
  | .group condition members =>
    .object [("kind", .text "tree"), ("condition", .text condition.name),
      ("criteria_tree", .array (toJsons members))]

def toJsons : List Filter → List Json
  | [] => []
  | f :: fs => toJson f :: toJsons fs

end

/-! ### Clauses -/

mutual

def clauses : Filter → List Clause
  | .clause c => [c]
  | .group _ members => clausesOf members

def clausesOf : List Filter → List Clause
  | [] => []
  | f :: fs => clauses f ++ clausesOf fs

end

theorem texts_eq_map (fs : List Filter) : texts fs = fs.map text := by
  induction fs with
  | nil => rfl
  | cons f fs ih => simp [texts, ih]

theorem toJsons_eq_map (fs : List Filter) : toJsons fs = fs.map toJson := by
  induction fs with
  | nil => rfl
  | cons f fs ih => simp [toJsons, ih]

theorem clausesOf_eq_flatMap (fs : List Filter) : clausesOf fs = fs.flatMap clauses := by
  induction fs with
  | nil => rfl
  | cons f fs ih => simp [clausesOf, ih]

end Filter

namespace Group

instance : DecidableEq Group := fun a b =>
  decidable_of_iff (a.condition = b.condition ∧ a.members = b.members) (by
    cases a; cases b; simp)

def filter (g : Group) : Filter := .group g.condition g.members

def text (g : Group) : String := g.filter.text

def toJson (g : Group) : Json := g.filter.toJson

def clauses (g : Group) : List Clause := g.filter.clauses

/-- The group with one more member at its end. -/
def append (g : Group) (f : Filter) : Group := { g with members := g.members ++ [f] }

/-- The group as the only member of a new one. -/
def nest (g : Group) (condition : Condition) : Group := ⟨condition, [g.filter]⟩

end Group

end SmartFolder
