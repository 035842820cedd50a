import SmartFolder.Proofs.Canonical

/-!
# Which groups can be read

Whatever predicate is read, the group is a supported one: no operator in it is unknown to its field
and no condition is `invalid`. Every supported group is read from some predicate, also where
lowering would spell a clause in another way (`Group.exists_group?_iff_isSupported`).
-/

namespace SmartFolder

namespace Filter

/-- Every field in the filter supports its operator, and no group is `invalid`. -/
def IsSupported (f : Filter) : Prop :=
  .invalid ∉ f.conditions ∧ ∀ c ∈ f.clauses, isValidOperator c.field c.operator = true

theorem isSupported_clause_iff {c : Clause} :
    (Filter.clause c).IsSupported ↔ isValidOperator c.field c.operator = true := by
  simp [IsSupported, conditions, clauses]

theorem isSupported_group_iff {condition : Condition} {members : List Filter} :
    (Filter.group condition members).IsSupported ↔
      condition ≠ .invalid ∧ ∀ f ∈ members, f.IsSupported :=
  valid_group_iff

end Filter

/-! ### What is read is supported -/

theorem FieldKind.isValid_of_operator? {k : FieldKind} {r : Relation} {op : Operator}
    (read : k.operator? r = some op) : k.isValid op = true := by
  cases k <;> cases r <;> cases read <;> rfl

theorem FieldKind.isValid_containsNot {k : FieldKind}
    (suits : k.operator? .contains = some .contains) : k.isValid .containsNot = true := by
  cases k <;> cases suits
  rfl

theorem Comparison.isValidOperator_clause (c : Comparison) (negated : Bool) :
    isValidOperator (c.clause negated).field (c.clause negated).operator = true := by
  rw [operator_clause]
  split
  · rename_i contains
    have relation : c.relation = .contains := (operator?_eq_contains_iff.mp contains.2).1
    have read := contains.2
    rw [operator?, relation] at read
    exact FieldKind.isValid_containsNot read
  · cases read : c.operator? with
    | some op => exact FieldKind.isValid_of_operator? read
    | none => exact FieldKind.isValid_of_operator? (FieldKind.operator?_equal _)

namespace Predicate

theorem condition_ne_invalid (k : Connective) : k.condition ≠ .invalid := by
  cases k <;> decide

theorem isSupported_filters {condition : Condition} {ps : List Predicate}
    (valid : condition ≠ .invalid)
    (each : ∀ p ∈ ps, ∀ {f : Filter}, p.filter? = some f → f.IsSupported) :
    (Filter.group condition (filters ps)).IsSupported := by
  refine Filter.isSupported_group_iff.mpr ⟨valid, fun f member => ?_⟩
  rw [filters_eq_filterMap] at member
  obtain ⟨p, part, read⟩ := List.mem_filterMap.mp member
  exact each p part read

theorem isSupported_of_filter? {p : Predicate} {f : Filter} (read : p.filter? = some f) :
    f.IsSupported := by
  induction p using induction_members generalizing f with
  | comparison c =>
    cases read
    exact Filter.isSupported_clause_iff.mpr (c.isValidOperator_clause false)
  | constant value => cases read
  | compound k parts ih =>
    rcases filter?_compound_cases k parts with ⟨c, -, -, -, asClause⟩ | ⟨-, asGroup⟩
    · rw [asClause] at read
      cases read
      exact Filter.isSupported_clause_iff.mpr (c.isValidOperator_clause true)
    · rw [asGroup] at read
      cases read
      exact isSupported_filters (condition_ne_invalid k) ih

theorem isSupported_of_group? {p : Predicate} {g : Group} (read : p.group? = some g) :
    g.filter.IsSupported := by
  cases p with
  | compound k parts =>
    cases read
    exact isSupported_filters (condition_ne_invalid k) fun _ _ _ => isSupported_of_filter?
  | comparison c => cases read
  | constant value => cases read

end Predicate

/-! ### What is supported is read -/

/-- The comparison that says what the clause says, in the clause's own spelling. -/
def Clause.verbatim (c : Clause) : Predicate :=
  c.predicate (.ofConstants c.field c.operator.relation c.value)

theorem Clause.filter?_verbatim {c : Clause} (valid : isValidOperator c.field c.operator = true) :
    c.verbatim.filter? = some (.clause c) := by
  have kept : (fieldKind c.field).canonicalOperator c.operator = c.operator :=
    FieldKind.canonicalOperator_eq_self_iff.mpr valid
  rw [verbatim, filter?_predicate rfl, clause_ofConstants c.operator rfl rfl rfl, kept]

namespace Filter

mutual

/-- The predicate that says what the filter says, clause by clause in the clause's own spelling. -/
def verbatim : Filter → Predicate
  | .clause c => c.verbatim
  | .group condition members => condition.join (verbatimAll members)

def verbatimAll : List Filter → List Predicate
  | [] => []
  | f :: fs => verbatim f :: verbatimAll fs

end

theorem filters_verbatimAll {fs : List Filter}
    (each : ∀ f ∈ fs, f.verbatim.filter? = some f) : Predicate.filters (verbatimAll fs) = fs := by
  induction fs with
  | nil => rfl
  | cons f fs ih =>
    have rest := ih fun f member => each f (List.mem_cons_of_mem _ member)
    simp [verbatimAll, Predicate.filters, each f List.mem_cons_self, rest]

theorem filter?_verbatim {f : Filter} (supported : f.IsSupported) :
    f.verbatim.filter? = some f := by
  induction f with
  | clause c => exact Clause.filter?_verbatim (isSupported_clause_iff.mp supported)
  | group condition members ih =>
    obtain ⟨valid, each⟩ := isSupported_group_iff.mp supported
    rw [verbatim, Condition.filter?_join, Condition.canonical_eq_self_iff.mpr valid,
      filters_verbatimAll fun f member => ih f member (each f member)]

end Filter

theorem Group.group?_verbatim {g : Group} (supported : g.filter.IsSupported) :
    g.filter.verbatim.group? = some g := by
  obtain ⟨valid, each⟩ := Filter.isSupported_group_iff.mp supported
  rw [Group.filter, Filter.verbatim, Condition.group?_join,
    Condition.canonical_eq_self_iff.mpr valid,
    Filter.filters_verbatimAll fun f member => Filter.filter?_verbatim (each f member)]

/-- The groups that reading gives are the supported ones. -/
theorem Group.exists_group?_iff_isSupported (g : Group) :
    (∃ p : Predicate, p.group? = some g) ↔
      .invalid ∉ g.filter.conditions ∧
        ∀ c ∈ g.clauses, isValidOperator c.field c.operator = true :=
  ⟨fun ⟨_, read⟩ => Predicate.isSupported_of_group? read,
    fun supported => ⟨g.filter.verbatim, Group.group?_verbatim supported⟩⟩

end SmartFolder
