import SmartFolder.Field

/-!
# Which operators suit a field

The table of a field never lists `containsNot`, and what it lists for a relation is expressed by
that relation.
-/

namespace SmartFolder.FieldKind

theorem operator?_equal (k : FieldKind) : k.operator? .equal = some .equalTo := by
  cases k <;> rfl

theorem relation_of_operator? {k : FieldKind} {r : Relation} {op : Operator}
    (h : k.operator? r = some op) : op.relation = r := by
  cases k <;> cases r <;> cases h <;> rfl

theorem operator?_ne_containsNot (k : FieldKind) (r : Relation) :
    k.operator? r ≠ some .containsNot := by
  cases k <;> cases r <;> simp [operator?]

theorem operator?_contains {k : FieldKind} (suits : (k.operator? .contains).isSome) :
    k.operator? .contains = some .contains := by
  cases k <;> simp [operator?] at suits ⊢

theorem operator?_eq_contains_iff {k : FieldKind} {r : Relation} :
    k.operator? r = some .contains ↔ r = .contains ∧ (k.operator? .contains).isSome := by
  constructor
  · intro h
    obtain rfl : Relation.contains = r := relation_of_operator? h
    simp [h]
  · rintro ⟨rfl, suits⟩
    exact operator?_contains suits

end SmartFolder.FieldKind
