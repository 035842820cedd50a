import SmartFolder.Proofs.Field
import SmartFolder.Proofs.Induction

/-!
# How predicates are read

What recognition does with one predicate, so that other proofs need not open it: the operator of a
clause (`operator_clause`), the two ways to read a compound (`filter?_compound_cases`), and the
notices on the members of a compound (`notices_compound`, `noticesOf_eq_flatMap`).
-/

namespace SmartFolder

namespace Operand

/-- What an operand holds, whichever kind it is: a constant its value, a key path its path. -/
def held : Operand → String
  | constant value => value
  | keyPath path => path

theorem text_eq_held (o : Operand) : o.text = o.held := by
  cases o <;> rfl

end Operand

namespace Comparison

theorem operator_clause (c : Comparison) (negated : Bool) :
    (c.clause negated).operator =
      if negated = true ∧ c.operator? = some .contains then .containsNot
      else c.operator?.getD .equalTo := by
  unfold clause
  cases read : c.operator? with
  | none => simp
  | some op => cases op <;> cases negated <;> simp

theorem operator?_eq_contains_iff {c : Comparison} :
    c.operator? = some .contains ↔
      c.relation = .contains ∧ ((fieldKind c.field).operator? .contains).isSome :=
  FieldKind.operator?_eq_contains_iff

theorem relation_operator_clause {c : Comparison} (suits : c.operator?.isSome)
    (negated : Bool) :
    (c.clause negated).operator.relation = c.relation := by
  rw [operator_clause]
  split
  · rename_i contains
    exact (operator?_eq_contains_iff.mp contains.2).1.symm
  · obtain ⟨op, read⟩ := Option.isSome_iff_exists.mp suits
    rw [read, Option.getD_some]
    exact FieldKind.relation_of_operator? read

theorem operator_clause_eq_containsNot_iff {c : Comparison} {negated : Bool} :
    (c.clause negated).operator = .containsNot ↔ negated = true ∧ c.operator? = some .contains := by
  rw [operator_clause]
  split
  · rename_i contains
    exact iff_of_true rfl contains
  · rename_i other
    refine iff_of_false (fun same => ?_) other
    cases read : c.operator? with
    | none => rw [read, Option.getD_none] at same; cases same
    | some op =>
      rw [read, Option.getD_some] at same
      rw [same] at read
      exact FieldKind.operator?_ne_containsNot _ _ read

/-- A negation only matters to a comparison by `contains`. -/
theorem clause_true_of_relation_ne {c : Comparison} (other : c.relation ≠ .contains) :
    c.clause true = c.clause false := by
  have plain : c.operator? ≠ some .contains := fun h => other (operator?_eq_contains_iff.mp h).1
  have same : (c.clause true).operator = (c.clause false).operator := by
    simp [operator_clause, plain]
  simp only [clause] at same ⊢
  rw [same]

end Comparison

namespace Predicate

theorem isContainsNot_iff {p : Predicate} :
    p.isContainsNot = true ↔ ∃ c, p = .compound .not [.comparison c] ∧ c.relation = .contains := by
  constructor
  · intro h
    unfold isContainsNot at h
    split at h
    · rename_i c
      exact ⟨c, rfl, by simpa using h⟩
    · cases h
  · rintro ⟨c, rfl, relation⟩
    simpa [isContainsNot] using relation

/-- A compound is read as the clause of its only part, with the negation taken into the operator,
or as the group of its members. -/
theorem filter?_compound_cases (k : Connective) (parts : List Predicate) :
    (∃ c, k = .not ∧ parts = [.comparison c] ∧ c.relation = .contains ∧
      filter? (.compound k parts) = some (.clause (c.clause true))) ∨
    ((Predicate.compound k parts).isContainsNot = false ∧
      filter? (.compound k parts) = some (.group k.condition (filters (members k parts)))) := by
  cases shape : (Predicate.compound k parts).isContainsNot with
  | true =>
    obtain ⟨c, same, relation⟩ := isContainsNot_iff.mp shape
    cases same
    exact Or.inl ⟨c, rfl, rfl, relation, by simp [filter?, relation]⟩
  | false => exact Or.inr ⟨rfl, filter?_compound k parts shape⟩

theorem filter?_eq_none_iff {p : Predicate} : p.filter? = none ↔ ∃ value, p = .constant value := by
  cases p with
  | comparison c => simp [filter?]
  | constant value => simp [filter?]
  | compound k parts =>
    rcases filter?_compound_cases k parts with ⟨c, -, -, -, read⟩ | ⟨-, read⟩ <;> simp [read]

/-! ### Notices -/

def noticesIn (whole : Predicate) : Predicate → List Notice
  | .constant value => [.corrupted (.constant value) whole]
  | p => p.notices

theorem noticesOf_eq_flatMap (whole : Predicate) (ps : List Predicate) :
    noticesOf whole ps = ps.flatMap (noticesIn whole) := by
  induction ps with
  | nil => simp [noticesOf]
  | cons p ps ih => cases p <;> simp [noticesOf, noticesIn, ih]

theorem notices_compound (k : Connective) (parts : List Predicate) :
    notices (.compound k parts) = noticesOf (.compound k parts) (members k parts) := by
  rcases members_cases k parts with ⟨inner, rfl, rfl, same⟩ | ⟨other, same⟩
  · rw [same, notices]
  · rw [same, notices]
    exact other

end Predicate

end SmartFolder
