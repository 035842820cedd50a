import Mathlib.Data.List.Forall2
import SmartFolder.Proofs.Occurrences

/-!
# Polarity

A negation around a comparison is read as a group "none of" or as part of the clause's operator.
Recognition keeps the number of negations around each comparison modulo two, but for a negated
`contains` that does not suit its field (`Predicate.polarity_group?`).
-/

namespace SmartFolder

def Predicate.isNegation : Predicate → Bool
  | .compound .not _ => true
  | _ => false

namespace Occurrence

def around : Occurrence → List Predicate
  | comparison around _ | constant around _ => around

def isComparison : Occurrence → Bool
  | comparison _ _ => true
  | constant _ _ => false

def negations (o : Occurrence) : Nat :=
  o.around.countP Predicate.isNegation

/-- The negation around a comparison by `contains` is read as part of an operator that the field
does not have. -/
def losesNegation : Occurrence → Bool
  | comparison around c =>
    aloneInNegation around && c.relation = .contains &&
      !((fieldKind c.left.text).operator? .contains).isSome
  | constant _ _ => false

end Occurrence

namespace Filter

/-- A clause with the conditions of the groups around it, the innermost first. -/
structure Leaf where
  around : List Condition
  clause : Clause

def Leaf.negations (l : Leaf) : Nat :=
  l.around.count .none + if l.clause.operator = .containsNot then 1 else 0

mutual

/-- The clauses from left to right, `around` being the conditions around the whole. -/
def leaves (around : List Condition) : Filter → List Leaf
  | .clause c => [⟨around, c⟩]
  | .group condition members => leavesOf (condition :: around) members

def leavesOf (around : List Condition) : List Filter → List Leaf
  | [] => []
  | f :: fs => leaves around f ++ leavesOf around fs

end

theorem leavesOf_eq_flatMap (around : List Condition) (fs : List Filter) :
    leavesOf around fs = fs.flatMap (leaves around) := by
  induction fs with
  | nil => rfl
  | cons f fs ih => simp [leavesOf, ih]

theorem clause_leaves (f : Filter) (around : List Condition) :
    (f.leaves around).map Leaf.clause = f.clauses := by
  induction f generalizing around with
  | clause c => rfl
  | group condition members ih =>
    rw [leaves, leavesOf_eq_flatMap, clauses, clausesOf_eq_flatMap, List.map_flatMap]
    exact List.flatMap_congr fun f member => ih f member (condition :: around)

end Filter

def Group.leaves (g : Group) : List Filter.Leaf := g.filter.leaves []

/-- The leaf of the filter that an occurrence becomes: it has the clause of the occurrence, and as
many negations around it modulo two unless one is lost. -/
def Occurrence.Becomes (o : Occurrence) (l : Filter.Leaf) : Prop :=
  o.clause? = some l.clause ∧ (o.negations % 2 = l.negations % 2 ↔ o.losesNegation = false)

namespace Predicate

open Occurrence (aloneInNegation)

theorem countP_aroundMembers (around : List Predicate) (k : Connective) (parts : List Predicate) :
    (aroundMembers around k parts).countP isNegation =
      around.countP isNegation + if k = .not then 1 else 0 := by
  rcases members_cases k parts with ⟨inner, rfl, rfl, -⟩ | ⟨other, -⟩
  · rw [aroundMembers, List.countP_cons, List.countP_cons]
    rfl
  · rw [aroundMembers_of_other other, List.countP_cons]
    cases k <;> rfl

theorem count_condition (k : Connective) (conditions : List Condition) :
    (k.condition :: conditions).count .none = conditions.count .none + if k = .not then 1 else 0 := by
  rw [List.count_cons]
  cases k <;> rfl

/-! ### One comparison -/

theorem becomes_clause {around : List Predicate} {conditions : List Condition} {c : Comparison}
    (plain : c.relation = .contains → aloneInNegation around = false)
    (same : around.countP isNegation % 2 = conditions.count .none % 2) :
    (Occurrence.comparison around c).Becomes ⟨conditions, c.clause false⟩ := by
  have kept : (Occurrence.comparison around c).losesNegation = false := by
    by_cases relation : c.relation = .contains
    · simp [Occurrence.losesNegation, plain relation]
    · simp [Occurrence.losesNegation, relation]
  have positive : (c.clause false).operator ≠ .containsNot := by
    simp [Comparison.operator_clause_eq_containsNot_iff]
  refine ⟨by rw [Occurrence.clause?_comparison, clause_aloneInNegation plain], ?_⟩
  simp [kept, Occurrence.negations, Occurrence.around, Filter.Leaf.negations, positive, same]

theorem becomes_negatedClause {around : List Predicate} {conditions : List Condition}
    {c : Comparison} (inside : around ≠ []) (relation : c.relation = .contains)
    (same : around.countP isNegation % 2 = conditions.count .none % 2) :
    (Occurrence.comparison (.compound .not [.comparison c] :: around) c).Becomes
      ⟨conditions, c.clause true⟩ := by
  have alone : aloneInNegation (.compound .not [.comparison c] :: around) = true := by
    obtain ⟨whole, rest, rfl⟩ := List.exists_cons_of_ne_nil inside
    rfl
  refine ⟨by rw [Occurrence.clause?_comparison, alone], ?_⟩
  have negative : (c.clause true).operator = .containsNot ↔
      ((fieldKind c.left.text).operator? .contains).isSome = true := by
    rw [Comparison.operator_clause_eq_containsNot_iff, Comparison.operator?_eq_contains_iff]
    simp [relation, Comparison.field]
  simp only [Occurrence.negations, Occurrence.around, Filter.Leaf.negations,
    Occurrence.losesNegation, alone, relation, negative, List.countP_cons]
  cases ((fieldKind c.left.text).operator? .contains).isSome <;> simp [isNegation] <;> omega

/-! ### Whole predicates -/

theorem leavesOf_filters (conditions : List Condition) (ps : List Predicate) :
    Filter.leavesOf conditions (filters ps) =
      ps.flatMap fun p => Filter.leavesOf conditions p.filter?.toList := by
  induction ps with
  | nil => rfl
  | cons p ps ih =>
    rw [List.flatMap_cons, ← ih]
    simp [filters, Filter.leavesOf_eq_flatMap]

theorem becomes_members {around : List Predicate} {conditions : List Condition} {k : Connective}
    {parts : List Predicate}
    (each : ∀ p ∈ members k parts, List.Forall₂ Occurrence.Becomes
      ((p.occurrences (aroundMembers around k parts)).filter Occurrence.isComparison)
      (Filter.leavesOf (k.condition :: conditions) p.filter?.toList)) :
    List.Forall₂ Occurrence.Becomes
      (((Predicate.compound k parts).occurrences around).filter Occurrence.isComparison)
      (Filter.leavesOf (k.condition :: conditions) (filters (members k parts))) := by
  rw [occurrences_compound, List.filter_flatMap, leavesOf_filters]
  have same : List.Forall₂ (fun p q => p = q ∧ p ∈ members k parts) (members k parts)
      (members k parts) := List.forall₂_same.mpr fun p member => ⟨rfl, member⟩
  refine List.rel_flatMap same ?_
  rintro p _ ⟨rfl, member⟩
  exact each p member

theorem becomes_occurrences {p : Predicate} {around : List Predicate} {conditions : List Condition}
    (inside : around ≠ [])
    (plain : ∀ c, p = .comparison c → c.relation = .contains → aloneInNegation around = false)
    (same : around.countP isNegation % 2 = conditions.count .none % 2) :
    List.Forall₂ Occurrence.Becomes ((p.occurrences around).filter Occurrence.isComparison)
      (Filter.leavesOf conditions p.filter?.toList) := by
  induction p using induction_members generalizing around conditions with
  | comparison c => exact .cons (becomes_clause (plain c rfl) same) .nil
  | constant value => exact .nil
  | compound k parts ih =>
    rcases filter?_compound_cases k parts with ⟨c, rfl, rfl, relation, read⟩ | ⟨shape, read⟩
    · rw [read]
      exact .cons (becomes_negatedClause inside relation same) .nil
    · rw [read, Option.toList_some, Filter.leavesOf_eq_flatMap, List.flatMap_singleton, Filter.leaves]
      refine becomes_members fun p member => ih p member (aroundMembers_ne_nil _ _ _) ?_ ?_
      · rintro c rfl relation
        exact aloneInNegation_aroundMembers shape member relation
      · rw [countP_aroundMembers, count_condition]
        omega

/-- The comparisons of a compound become the clauses of its group one by one. Around each stand as
many negations modulo two as around its clause, unless the negation of a `contains` is lost. -/
theorem polarity_group? (k : Connective) (parts : List Predicate) :
    let p := Predicate.compound k parts
    ∃ g, p.group? = some g ∧ g.leaves.map Filter.Leaf.clause = g.clauses ∧
      List.Forall₂ (fun o l => o.clause? = some l.clause ∧
          (o.negations % 2 = l.negations % 2 ↔ o.losesNegation = false))
        ((p.occurrences []).filter Occurrence.isComparison) g.leaves := by
  refine ⟨⟨k.condition, filters (members k parts)⟩, rfl, Filter.clause_leaves _ _, ?_⟩
  refine becomes_members fun p member => becomes_occurrences (aroundMembers_ne_nil _ _ _) ?_ ?_
  · exact fun _ _ _ => aloneInNegation_aroundMembers_nil k parts
  · rw [countP_aroundMembers, count_condition]
    rfl

def negatedContains : Predicate :=
  .compound .and [.not (.comparison (.ofConstants "Date" .contains "2024"))]

/-- The clause is not negated although the comparison is. -/
theorem polarity_negatedContains :
    (negatedContains.occurrences []).map Occurrence.negations = [1] ∧
      ∃ g, negatedContains.group? = some g ∧ g.leaves.map Filter.Leaf.negations = [0] :=
  ⟨rfl, _, rfl, by decide⟩

end Predicate

end SmartFolder
