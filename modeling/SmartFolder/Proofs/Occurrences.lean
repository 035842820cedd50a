import Mathlib.Data.List.Basic
import SmartFolder.Proofs.Recognition

/-!
# What becomes of each leaf of a predicate

The leaves of a predicate are its comparisons and constants, each with the compounds around it.
Recognition makes one clause of each comparison and gives the notices of each leaf, in the order
of the leaves and nothing besides (`Predicate.group?_eq_occurrences`).
-/

namespace SmartFolder

/-- A leaf of a predicate with the compounds around it, the innermost first. -/
inductive Occurrence where
  | comparison (around : List Predicate) (c : Comparison)
  | constant (around : List Predicate) (value : Bool)

namespace Predicate

mutual

/-- The leaves from left to right, `around` being the compounds around the whole. -/
def occurrences (around : List Predicate) : Predicate → List Occurrence
  | .comparison c => [.comparison around c]
  | .constant value => [.constant around value]
  | .compound k parts => occurrencesOf (.compound k parts :: around) parts

def occurrencesOf (around : List Predicate) : List Predicate → List Occurrence
  | [] => []
  | p :: ps => occurrences around p ++ occurrencesOf around ps

end

theorem occurrencesOf_eq_flatMap (around ps : List Predicate) :
    occurrencesOf around ps = ps.flatMap (occurrences around) := by
  induction ps with
  | nil => rfl
  | cons p ps ih => simp [occurrencesOf, ih]

end Predicate

namespace Occurrence

/-- Whether the innermost compound is a negation of nothing else and is not itself the root. -/
def aloneInNegation : List Predicate → Bool
  | .compound .not [_] :: _ :: _ => true
  | _ => false

/-- The compound that a notice names: the innermost, but for a disjunction alone in a negation the
negation. -/
def named : List Predicate → Option Predicate
  | .compound .or _ :: .compound .not [p] :: _ => some (.compound .not [p])
  | whole :: _ => some whole
  | [] => none

def comparison? : Occurrence → Option Comparison
  | .comparison _ c => some c
  | .constant _ _ => none

/-- The clause for a comparison: the operator is the table's, if the table has one. -/
def clause? : Occurrence → Option Clause
  | .comparison around c => some {
      field := c.left.held
      operator :=
        if c.relation = .contains ∧ ((fieldKind c.left.held).operator? .contains).isSome ∧
            aloneInNegation around then .containsNot
        else ((fieldKind c.left.held).operator? c.relation).getD .equalTo
      value := c.right.held }
  | .constant _ _ => none

def notices : Occurrence → List Notice
  | .comparison _ c =>
    (if isKnownField c.left.held then [] else [.unknownField c.left.held]) ++
      (if ((fieldKind c.left.held).operator? c.relation).isSome then []
      else [.unsuitable c.left.held c.relation])
  | .constant around value => (named around).toList.map (.corrupted (.constant value))

theorem clause?_comparison (around : List Predicate) (c : Comparison) :
    clause? (.comparison around c) = some (c.clause (aloneInNegation around)) := by
  have operator : (c.clause (aloneInNegation around)).operator =
      if c.relation = .contains ∧ ((fieldKind c.left.text).operator? .contains).isSome ∧
          aloneInNegation around then .containsNot
      else ((fieldKind c.left.text).operator? c.relation).getD .equalTo := by
    rw [Comparison.operator_clause]
    refine if_congr ?_ rfl rfl
    rw [Comparison.operator?_eq_contains_iff, and_comm, and_assoc]
    rfl
  rw [clause?, ← Operand.text_eq_held, ← Operand.text_eq_held, ← operator]
  rfl

theorem notices_comparison (around : List Predicate) (c : Comparison) :
    notices (.comparison around c) = c.notices := by
  rw [notices, ← Operand.text_eq_held]
  rfl

theorem texts_filterMap_clause? (os : List Occurrence) :
    (os.filterMap clause?).map (fun c => (c.field, c.value)) =
      (os.filterMap comparison?).map (fun c => (c.left.held, c.right.held)) := by
  induction os with
  | nil => rfl
  | cons o os ih =>
    cases o with
    | comparison around c =>
      have found : comparison? (.comparison around c) = some c := rfl
      rw [List.filterMap_cons_some (clause?_comparison around c), List.filterMap_cons_some found,
        List.map_cons, List.map_cons, ih, ← Operand.text_eq_held, ← Operand.text_eq_held]
      rfl
    | constant around value =>
      have noClause : clause? (.constant around value) = none := rfl
      have noComparison : comparison? (.constant around value) = none := rfl
      rw [List.filterMap_cons_none noClause, List.filterMap_cons_none noComparison, ih]

end Occurrence

namespace Predicate

open Occurrence (aloneInNegation named)

theorem comparisons_occurrences (p : Predicate) (around : List Predicate) :
    (p.occurrences around).filterMap Occurrence.comparison? = p.comparisons := by
  induction p generalizing around with
  | comparison c => rfl
  | constant value => rfl
  | compound k parts ih =>
    rw [occurrences, occurrencesOf_eq_flatMap, comparisons, comparisonsOf_eq_flatMap,
      List.filterMap_flatMap]
    exact List.flatMap_congr fun p member => ih p member (.compound k parts :: around)

/-! ### Leaves of members -/

def aroundMembers (around : List Predicate) (k : Connective) (parts : List Predicate) :
    List Predicate :=
  match k, parts with
  | .not, [.compound .or inner] => .compound .or inner :: .compound .not [.compound .or inner] :: around
  | k, parts => .compound k parts :: around

theorem aroundMembers_of_other {around : List Predicate} {k : Connective} {parts : List Predicate}
    (other : ∀ inner, k = .not → parts ≠ [.compound .or inner]) :
    aroundMembers around k parts = .compound k parts :: around := by
  unfold aroundMembers
  split
  · rename_i inner
    exact absurd rfl (other inner rfl)
  · rfl

theorem occurrences_compound (around : List Predicate) (k : Connective) (parts : List Predicate) :
    occurrences around (.compound k parts) =
      (members k parts).flatMap (occurrences (aroundMembers around k parts)) := by
  rcases members_cases k parts with ⟨inner, rfl, rfl, same⟩ | ⟨other, same⟩
  · simp [same, aroundMembers, occurrences, occurrencesOf, occurrencesOf_eq_flatMap]
  · rw [same, aroundMembers_of_other other, occurrences, occurrencesOf_eq_flatMap]

/-- Members that stand directly in a negation are its only part, and no disjunction. -/
theorem aroundMembers_eq_not {around rest : List Predicate} {k : Connective}
    {parts : List Predicate} {q : Predicate}
    (same : aroundMembers around k parts = .compound .not [q] :: rest) :
    k = .not ∧ parts = [q] ∧ members k parts = [q] ∧ ∀ inner, q ≠ .compound .or inner := by
  rcases members_cases k parts with ⟨inner, rfl, rfl, -⟩ | ⟨other, read⟩
  · cases same
  · rw [aroundMembers_of_other other] at same
    cases same
    exact ⟨rfl, rfl, read, fun inner disjunction => other inner rfl (by rw [disjunction])⟩

theorem eq_not_of_aloneInNegation {around : List Predicate} (alone : aloneInNegation around = true) :
    ∃ q whole rest, around = .compound .not [q] :: whole :: rest := by
  unfold aloneInNegation at alone
  split at alone
  · exact ⟨_, _, _, rfl⟩
  · cases alone

/-- A negation at the root is not taken into an operator. -/
theorem aloneInNegation_aroundMembers_nil (k : Connective) (parts : List Predicate) :
    aloneInNegation (aroundMembers [] k parts) = false := by
  by_contra alone
  obtain ⟨q, whole, rest, path⟩ := eq_not_of_aloneInNegation (by simpa using alone)
  unfold aroundMembers at path
  split at path <;> simp at path

/-- A comparison by `contains` alone in a negation is no member of it: the negation is read as a
clause. -/
theorem aloneInNegation_aroundMembers {around : List Predicate} {k : Connective}
    {parts : List Predicate} {c : Comparison}
    (shape : (Predicate.compound k parts).isContainsNot = false)
    (member : .comparison c ∈ members k parts) (relation : c.relation = .contains) :
    aloneInNegation (aroundMembers around k parts) = false := by
  by_contra alone
  obtain ⟨q, _, rest, path⟩ := eq_not_of_aloneInNegation (by simpa using alone)
  obtain ⟨rfl, rfl, single, -⟩ := aroundMembers_eq_not path
  rw [single, List.mem_singleton] at member
  simp [isContainsNot, ← member, relation] at shape

theorem aroundMembers_ne_nil (around : List Predicate) (k : Connective) (parts : List Predicate) :
    aroundMembers around k parts ≠ [] := by
  unfold aroundMembers
  split <;> simp

/-! ### Clauses -/

def readClauses (p : Predicate) : List Clause :=
  Filter.clausesOf p.filter?.toList

theorem clausesOf_filters (ps : List Predicate) :
    Filter.clausesOf (filters ps) = ps.flatMap readClauses := by
  induction ps with
  | nil => rfl
  | cons p ps ih =>
    rw [List.flatMap_cons, ← ih]
    simp [filters, readClauses, Filter.clausesOf_eq_flatMap]

theorem clause_aloneInNegation {around : List Predicate} {c : Comparison}
    (plain : c.relation = .contains → aloneInNegation around = false) :
    c.clause (aloneInNegation around) = c.clause false := by
  by_cases relation : c.relation = .contains
  · rw [plain relation]
  · cases aloneInNegation around with
    | true => exact Comparison.clause_true_of_relation_ne relation
    | false => rfl

theorem clauses_occurrences {p : Predicate} {around : List Predicate} (inside : around ≠ [])
    (plain : ∀ c, p = .comparison c → c.relation = .contains → aloneInNegation around = false) :
    (p.occurrences around).filterMap Occurrence.clause? = p.readClauses := by
  induction p using induction_members generalizing around with
  | comparison c =>
    have same := clause_aloneInNegation (plain c rfl)
    simp [occurrences, Occurrence.clause?_comparison, same, readClauses, filter?, Filter.clausesOf,
      Filter.clauses]
  | constant value => rfl
  | compound k parts ih =>
    rcases filter?_compound_cases k parts with ⟨c, rfl, rfl, -, read⟩ | ⟨shape, read⟩
    · have alone : aloneInNegation (.compound .not [.comparison c] :: around) = true := by
        cases around with
        | nil => exact absurd rfl inside
        | cons whole rest => rfl
      simp [occurrences, occurrencesOf, Occurrence.clause?_comparison, alone, readClauses, read,
        Filter.clausesOf, Filter.clauses]
    · have whole : readClauses (.compound k parts) = (members k parts).flatMap readClauses := by
        rw [← clausesOf_filters]
        simp [readClauses, read, Filter.clausesOf, Filter.clauses]
      rw [occurrences_compound, List.filterMap_flatMap, whole]
      refine List.flatMap_congr fun p member => ih p member (aroundMembers_ne_nil _ _ _) ?_
      rintro c rfl relation
      exact aloneInNegation_aroundMembers shape member relation

/-! ### Notices -/

theorem named_aroundMembers {around : List Predicate} {k : Connective} {parts : List Predicate}
    (apart : k = .or → ∀ q rest, around ≠ .compound .not [q] :: rest) :
    named (aroundMembers around k parts) = some (.compound k parts) := by
  rcases members_cases k parts with ⟨inner, rfl, rfl, -⟩ | ⟨other, -⟩
  · rfl
  · rw [aroundMembers_of_other other]
    unfold named
    split
    · rename_i same
      cases same
      exact absurd rfl (apart rfl _ _)
    · rename_i same
      cases same
      rfl
    · rename_i same
      cases same

/-- The leaves of a part give the notices on it, unless it is the disjunction of a "none of". -/
theorem notices_occurrences {p : Predicate} {around : List Predicate}
    (apart : ∀ inner, p = .compound .or inner → ∀ q rest, around ≠ .compound .not [q] :: rest) :
    (p.occurrences around).flatMap Occurrence.notices =
      (named around).elim p.notices (noticesIn · p) := by
  induction p using induction_members generalizing around with
  | comparison c =>
    rw [occurrences, List.flatMap_singleton, Occurrence.notices_comparison]
    cases named around <;> rfl
  | constant value =>
    rw [occurrences, List.flatMap_singleton, Occurrence.notices]
    cases named around <;> rfl
  | compound k parts ih =>
    have own : named (aroundMembers around k parts) = some (.compound k parts) :=
      named_aroundMembers fun disjunction => apart parts (by rw [disjunction])
    have whole : (named around).elim (notices (.compound k parts)) (noticesIn · (.compound k parts)) =
        (members k parts).flatMap (noticesIn (.compound k parts)) := by
      rw [← noticesOf_eq_flatMap, ← notices_compound]
      cases named around <;> rfl
    rw [occurrences_compound, List.flatMap_assoc, whole]
    refine List.flatMap_congr fun p member => ?_
    rw [ih p member, own, Option.elim_some]
    -- A disjunction alone in a negation is no member: its parts are.
    intro inner disjunction q rest path
    obtain ⟨-, -, single, other⟩ := aroundMembers_eq_not path
    rw [single, List.mem_singleton] at member
    exact other inner (member ▸ disjunction)

theorem notices_warning {p : Predicate} {n : Notice} (h : n ∈ p.notices) : n.level = .warning := by
  induction p using induction_members with
  | comparison c =>
    simp only [notices, Comparison.notices, List.mem_append] at h
    rcases h with h | h <;> split at h <;> simp at h <;> rw [h] <;> rfl
  | constant value => cases h
  | compound k parts ih =>
    rw [notices_compound, noticesOf_eq_flatMap] at h
    obtain ⟨p, member, h⟩ := List.mem_flatMap.mp h
    unfold noticesIn at h
    split at h
    · rw [List.mem_singleton.mp h]
      rfl
    · exact ih p member h

/-- Recognition loses, repeats and reorders nothing but constants, and says exactly what it
changes: each comparison becomes the clause of its occurrence, and each leaf gives its notices. -/
theorem group?_eq_occurrences (k : Connective) (parts : List Predicate) :
    let p := Predicate.compound k parts
    ∃ g, p.group? = some g ∧
      g.clauses = (p.occurrences []).filterMap Occurrence.clause? ∧
      g.clauses.map (fun c => (c.field, c.value)) =
        p.comparisons.map (fun c => (c.left.held, c.right.held)) ∧
      p.groupNotices = (p.occurrences []).flatMap Occurrence.notices ∧
      ∀ n ∈ p.groupNotices, n.level = .warning := by
  intro p
  have clauses : Filter.clausesOf (filters (members k parts)) =
      (p.occurrences []).filterMap Occurrence.clause? := by
    rw [occurrences_compound, List.filterMap_flatMap, clausesOf_filters]
    refine (List.flatMap_congr fun q member => ?_).symm
    exact clauses_occurrences (aroundMembers_ne_nil _ _ _) fun _ _ _ =>
      aloneInNegation_aroundMembers_nil k parts
  have notices : p.groupNotices = (p.occurrences []).flatMap Occurrence.notices := by
    rw [notices_occurrences fun _ _ _ _ h => by cases h]
    rfl
  refine ⟨⟨k.condition, filters (members k parts)⟩, rfl, clauses, ?_, notices, ?_⟩
  · rw [← comparisons_occurrences p [], ← Occurrence.texts_filterMap_clause?, ← clauses]
    rfl
  · exact fun n member => notices_warning member

end Predicate

end SmartFolder
