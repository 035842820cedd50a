import SmartFolder.Field
import SmartFolder.Filter
import SmartFolder.Report

/-!
# Lowering filters

`lower` turns a filter into the predicate that selects the same articles. Clauses that say the
same thing in two ways are lowered to one: a date after yesterday is today, and what is not yes is
no. "Does not contain" is a negated comparison, and "none of" a negated disjunction.
-/

namespace SmartFolder

/-- What lowering does with a date value that ends in a unit word but has no count. -/
inductive MalformedPolicy where
  /-- It gives up. -/
  | raise
  /-- It gives a notice and compares the value as it stands. -/
  | fallback
  deriving DecidableEq, Repr

namespace MalformedPolicy

def name : MalformedPolicy → String
  | raise => "raise"
  | fallback => "fallback"

instance : Vocabulary MalformedPolicy where
  all := [raise, fallback]
  name := name
  mem_all a := by cases a <;> simp
  name_inj a b h := by cases a <;> cases b <;> simp [name] at h ⊢

/-- The policy that a text names. Any other text asks for no fallback. -/
def ofText (s : String) : MalformedPolicy :=
  if s = fallback.name then fallback else raise

end MalformedPolicy

structure Lowering where
  policy : MalformedPolicy := .raise
  unmapped : List Operator := []

def opposite? (value : String) : Option String :=
  if value = "Yes" then some "No" else if value = "No" then some "Yes" else none

def Condition.join : Condition → List Predicate → Predicate
  | .all, ps | .invalid, ps => .compound .and ps
  | .any, ps => .compound .or ps
  | .none, ps => .not (.compound .or ps)

namespace Lowering

/-- The relation for an operator, or equality and a notice that names the operator by `label`. -/
def relationOr (o : Lowering) (label : String) (op : Option Operator) : Report Relation :=
  match op.filter (!o.unmapped.contains ·) with
  | some op => .done op.relation
  | none => .noticed (.noRelation label) .equal

def relation (o : Lowering) (op : Operator) : Report Relation :=
  o.relationOr op.label (some op)

def relationNamed (o : Lowering) (s : String) : Report Relation :=
  o.relationOr s (Vocabulary.named? s)

def date (o : Lowering) (c : Clause) : Report (Option RelativeDate) :=
  if c.field = "Date" then
    match RelativeDate.decode c.value with
    | .ok d => .done d
    | .error (.malformedValue value) =>
      match o.policy with
      | .raise => .failed (.malformedValue value)
      | .fallback => .noticed (.malformedValue c.field c.value) none
    | .error f => .failed f
  else .done none

end Lowering

/-- The comparison for a clause, given its relation and the date its value stands for. -/
def Clause.comparison (c : Clause) (relation : Relation) : Option RelativeDate → Comparison
  | some d => { Comparison.ofConstants c.field relation c.value with date := some d }
  | none =>
    if c.field = "Date" ∧ c.operator = .after ∧ c.value = "yesterday" then
      .ofConstants c.field .equal "today"
    else match c.operator, opposite? c.value with
      | .notEqualTo, some value => .ofConstants c.field .equal value
      | _, _ => .ofConstants c.field relation c.value

/-- The comparison as a predicate, negated where the operator is. -/
def Clause.predicate (c : Clause) (comparison : Comparison) : Predicate :=
  if c.operator = .containsNot then .not (.comparison comparison) else .comparison comparison

def Clause.lower (o : Lowering) (c : Clause) : Report Predicate := do
  let relation ← o.relation c.operator
  let date ← o.date c
  return c.predicate (c.comparison relation date)

namespace Filter

mutual

def lower (o : Lowering) : Filter → Report Predicate
  | .clause c => c.lower o
  | .group condition members => do return condition.join (← lowerAll o members)

/-- Lowers members from left to right, up to the first that fails. -/
def lowerAll (o : Lowering) : List Filter → Report (List Predicate)
  | [] => .done []
  | f :: fs => do
    let p ← lower o f
    let ps ← lowerAll o fs
    return p :: ps

end

end Filter

def Group.lower (o : Lowering) (g : Group) : Report Predicate := g.filter.lower o

end SmartFolder
