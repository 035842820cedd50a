import SmartFolder.Proofs.Canonical

/-!
# Canonical predicates

Reading a predicate and lowering the group gives the predicate again exactly if it is canonical
(`Predicate.lower_group?_eq_self_iff`). A canonical predicate has no constants, its comparisons say
what lowering writes and nothing else, and a negation stands only around a disjunction or around
one comparison by `contains` inside a compound.
-/

namespace SmartFolder

structure Comparison.IsCanonical (policy : MalformedPolicy) (c : Comparison) : Prop where
  constants : ∃ left right, c.left = .constant left ∧ c.right = .constant right
  suitable : ((fieldKind c.left.text).operator? c.relation).isSome
  notAfterYesterday :
    ¬ (c.left.text = "Date" ∧ c.relation = .greater ∧ c.right.text = "yesterday")
  notBoolean : ¬ (c.relation = .notEqual ∧ (c.right.text = "Yes" ∨ c.right.text = "No"))
  dated : ∀ d, c.date = some d ↔
    c.left.text = "Date" ∧ RelativeDate.decode c.right.text = .ok (some d)
  readable : c.left.text = "Date" →
    (∃ d, RelativeDate.decode c.right.text = .ok d) ∨
      (policy = .fallback ∧ ∃ value, RelativeDate.decode c.right.text = .error (.malformedValue value))

namespace Predicate

mutual

/-- A compound as lowering writes it. -/
inductive IsCanonical (policy : MalformedPolicy) : Predicate → Prop where
  | all {parts} (each : ∀ p ∈ parts, IsCanonicalPart policy p) :
      IsCanonical policy (.compound .and parts)
  | any {parts} (each : ∀ p ∈ parts, IsCanonicalPart policy p) :
      IsCanonical policy (.compound .or parts)
  | noneOf {parts} (each : ∀ p ∈ parts, IsCanonicalPart policy p) :
      IsCanonical policy (.compound .not [.compound .or parts])

/-- A part of a compound as lowering writes it. -/
inductive IsCanonicalPart (policy : MalformedPolicy) : Predicate → Prop where
  | comparison {c} (canonical : c.IsCanonical policy) : IsCanonicalPart policy (.comparison c)
  | notContains {c} (canonical : c.IsCanonical policy) (relation : c.relation = .contains) :
      IsCanonicalPart policy (.compound .not [.comparison c])
  | compound {p} (canonical : IsCanonical policy p) : IsCanonicalPart policy p

end

end Predicate

/-! ### Comparisons -/

namespace Comparison

variable {policy : MalformedPolicy} {c : Comparison} {negated : Bool}

theorem respelled?_clause_eq_none_iff (suits : c.operator?.isSome) (negated : Bool) :
    (c.clause negated).respelled? = none ↔
      ¬ (c.left.text = "Date" ∧ c.relation = .greater ∧ c.right.text = "yesterday") ∧
      ¬ (c.relation = .notEqual ∧ (c.right.text = "Yes" ∨ c.right.text = "No")) := by
  have relation := relation_operator_clause suits negated
  have after : c.left.text = "Date" →
      ((c.clause negated).operator = .after ↔ c.relation = .greater) := by
    intro date
    constructor
    · intro same
      rw [← relation, same]
      rfl
    · intro same
      have read : c.operator? = some .after := by
        rw [operator?, field, date, same]
        rfl
      simp [operator_clause, read]
  have unequal : (c.clause negated).operator = .notEqualTo ↔ c.relation = .notEqual := by
    rw [← relation, Operator.relation_eq_notEqual_iff]
  rw [Clause.respelled?_eq_none_iff, unequal]
  refine and_congr_left' (not_congr ?_)
  exact and_congr_right fun date => and_congr_left' (after date)

theorem suits_of_relation_eq (same : (c.clause negated).operator.relation = c.relation) :
    c.operator?.isSome := by
  cases read : c.operator? with
  | some op => rfl
  | none =>
    have fallback : (c.clause negated).operator = .equalTo := by simp [operator_clause, read]
    have equal : c.relation = .equal := by rw [← same, fallback]; rfl
    rw [operator?, equal, FieldKind.operator?_equal] at read
    cases read

theorem respelled?_clause_of_comparison_eq {d : Option RelativeDate} {r : Relation}
    (date : (Lowering.date { policy } (c.clause negated)).result = .ok d)
    (same : (c.clause negated).comparison r d = c) : (c.clause negated).respelled? = none := by
  cases spelling : (c.clause negated).respelled? with
  | none => rfl
  | some c' =>
    obtain rfl := Clause.undated_of_respelled spelling date
    rw [Clause.comparison_none, spelling] at same
    have equal : c.relation = .equal := by rw [← same]; rfl
    have read : c.operator? = some .equalTo := by
      rw [operator?, equal, FieldKind.operator?_equal]
    have operator : (c.clause negated).operator = .equalTo := by simp [operator_clause, read]
    obtain ⟨-, -, other⟩ := Clause.respelled?_eq_some spelling
    rw [operator] at other
    rcases other with other | other <;> cases other

theorem date_clause_eq_ok_iff :
    (Lowering.date { policy } (c.clause negated)).result = .ok c.date ↔
      (∀ d, c.date = some d ↔
        c.left.text = "Date" ∧ RelativeDate.decode c.right.text = .ok (some d)) ∧
      (c.left.text = "Date" →
        (∃ d, RelativeDate.decode c.right.text = .ok d) ∨
        (policy = .fallback ∧
          ∃ value, RelativeDate.decode c.right.text = .error (.malformedValue value))) := by
  rw [Lowering.date_eq_ok_iff]
  change (c.left.text ≠ "Date" ∧ _) ∨ (c.left.text = "Date" ∧ RelativeDate.decode c.right.text = _) ∨
    (c.left.text = "Date" ∧ _ ∧ _ ∧ ∃ value, RelativeDate.decode c.right.text = _) ↔ _
  by_cases field : c.left.text = "Date"
  · cases read : RelativeDate.decode c.right.text with
    | ok found =>
      have same : found = c.date ↔ ∀ d, c.date = some d ↔ found = some d :=
        eq_comm.trans Option.ext_iff
      simp [field, same]
    | error f => simp [field, Option.eq_none_iff_forall_ne_some]
  · simp [field, Option.eq_none_iff_forall_ne_some]

theorem comparison_clause_eq_iff (negated : Bool) :
    (∃ d, (Lowering.date { policy } (c.clause negated)).result = .ok d ∧
      (c.clause negated).comparison (c.clause negated).operator.relation d = c) ↔
    c.IsCanonical policy := by
  constructor
  · rintro ⟨d, date, same⟩
    have spelling := respelled?_clause_of_comparison_eq date same
    rw [Clause.comparison_of_respelled_none spelling] at same
    have relation : (c.clause negated).operator.relation = c.relation := congrArg relation same
    have suits := suits_of_relation_eq relation
    obtain ⟨notAfterYesterday, notBoolean⟩ := (respelled?_clause_eq_none_iff suits negated).mp spelling
    obtain rfl : d = c.date := congrArg Comparison.date same
    obtain ⟨dated, readable⟩ := date_clause_eq_ok_iff.mp date
    exact {
      constants := ⟨_, _, (congrArg left same).symm, (congrArg right same).symm⟩
      suitable := suits
      notAfterYesterday, notBoolean, dated, readable }
  · intro canonical
    have suits : c.operator?.isSome := canonical.suitable
    have spelling := (respelled?_clause_eq_none_iff suits negated).mpr
      ⟨canonical.notAfterYesterday, canonical.notBoolean⟩
    refine ⟨c.date, date_clause_eq_ok_iff.mpr ⟨canonical.dated, canonical.readable⟩, ?_⟩
    rw [Clause.comparison_of_respelled_none spelling, relation_operator_clause suits negated]
    obtain ⟨left, right, sameLeft, sameRight⟩ := canonical.constants
    obtain ⟨l, r, k, d⟩ := c
    simp only at sameLeft sameRight
    subst sameLeft sameRight
    rfl

theorem lower_clause_eq_comparison_iff :
    ((c.clause false).lower { policy }).result = .ok (.comparison c) ↔ c.IsCanonical policy := by
  have positive : (c.clause false).operator ≠ .containsNot := by
    simp [operator_clause_eq_containsNot_iff]
  rw [Clause.lower_eq_ok_iff, ← comparison_clause_eq_iff false]
  simp only [Clause.predicate, if_neg positive, Predicate.comparison.injEq, eq_comm (a := c)]

theorem lower_clause_eq_not_iff (relation : c.relation = .contains) :
    ((c.clause true).lower { policy }).result = .ok (.not (.comparison c)) ↔
      c.IsCanonical policy := by
  rw [Clause.lower_eq_ok_iff]
  by_cases suits : c.operator? = some .contains
  · have negative : (c.clause true).operator = .containsNot :=
      operator_clause_eq_containsNot_iff.mpr ⟨rfl, suits⟩
    rw [← comparison_clause_eq_iff true]
    simp [Clause.predicate, negative, Predicate.not, eq_comm]
  · have positive : (c.clause true).operator ≠ .containsNot := by
      simp [operator_clause_eq_containsNot_iff, suits]
    constructor
    · rintro ⟨d, -, same⟩
      rw [Clause.predicate, if_neg positive] at same
      cases same
    · intro canonical
      have suitable := canonical.suitable
      rw [relation] at suitable
      exact absurd (operator?_eq_contains_iff.mpr ⟨relation, suitable⟩) suits

end Comparison

/-! ### Compounds -/

namespace Predicate

variable {policy : MalformedPolicy}

/-- Reading a part and lowering the filter gives the part again. -/
def Returns (policy : MalformedPolicy) (p : Predicate) : Prop :=
  ∃ f, p.filter? = some f ∧ (f.lower { policy }).result = .ok p

theorem isCanonicalPart_comparison_iff {c : Comparison} :
    IsCanonicalPart policy (.comparison c) ↔ c.IsCanonical policy := by
  constructor
  · intro h
    cases h with
    | comparison canonical => exact canonical
    | compound canonical => cases canonical
  · exact .comparison

theorem isCanonicalPart_not_comparison_iff {c : Comparison} (relation : c.relation = .contains) :
    IsCanonicalPart policy (.compound .not [.comparison c]) ↔ c.IsCanonical policy := by
  constructor
  · intro h
    cases h with
    | notContains canonical _ => exact canonical
    | compound canonical => cases canonical
  · exact fun canonical => .notContains canonical relation

theorem isCanonicalPart_compound_iff {k : Connective} {parts : List Predicate}
    (shape : (Predicate.compound k parts).isContainsNot = false) :
    IsCanonicalPart policy (.compound k parts) ↔ IsCanonical policy (.compound k parts) := by
  constructor
  · intro h
    cases h with
    | notContains canonical relation => simp [isContainsNot, relation] at shape
    | compound canonical => exact canonical
  · exact .compound

theorem length_filters_le (ps : List Predicate) : (filters ps).length ≤ ps.length := by
  rw [filters_eq_filterMap]
  exact List.length_filterMap_le filter? ps

/-- Parts are all given again only if each is: one that has no filter would be missing. -/
theorem lowerAll_filters_eq_self_iff {ps : List Predicate} :
    (Filter.lowerAll { policy } (filters ps)).result = .ok ps ↔ ∀ p ∈ ps, Returns policy p := by
  rw [Filter.lowerAll_eq_ok_iff]
  induction ps with
  | nil => simp [filters]
  | cons p ps ih =>
    cases read : filter? p with
    | none =>
      refine iff_of_false (fun lowered => ?_) (fun each => ?_)
      -- The filters are fewer than the parts, and as many as what they are lowered to.
      · have sameLength := lowered.length_eq
        have shorter := length_filters_le ps
        simp only [filters, read, Option.toList_none, List.nil_append, List.length_cons] at sameLength
        omega
      · obtain ⟨f, found, -⟩ := each p List.mem_cons_self
        rw [read] at found
        cases found
    | some f =>
      simp only [filters, read, Option.toList_some, List.singleton_append, List.forall₂_cons, ih,
        List.forall_mem_cons, Returns, Option.some.injEq, exists_eq_left']

theorem lower_members_eq_self_iff {k : Connective} {parts : List Predicate}
    (each : ∀ p ∈ members k parts, (Returns policy p ↔ IsCanonicalPart policy p)) :
    ((Filter.group k.condition (filters (members k parts))).lower { policy }).result =
        .ok (.compound k parts) ↔
      IsCanonical policy (.compound k parts) := by
  rw [Filter.lower_group_eq_ok_iff]
  constructor
  · rintro ⟨ps, lowered, same⟩
    cases k with
    | and =>
      obtain rfl : parts = ps := by simpa [Connective.condition, Condition.join] using same
      exact .all fun p member => (each p member).mp (lowerAll_filters_eq_self_iff.mp lowered p member)
    | or =>
      obtain rfl : parts = ps := by simpa [Connective.condition, Condition.join] using same
      exact .any fun p member => (each p member).mp (lowerAll_filters_eq_self_iff.mp lowered p member)
    | not =>
      obtain rfl : parts = [.compound .or ps] := by
        simpa [Connective.condition, Condition.join, Predicate.not] using same
      exact .noneOf fun p member =>
        (each p member).mp (lowerAll_filters_eq_self_iff.mp lowered p member)
  · intro canonical
    cases canonical with
    | all canonical =>
      exact ⟨parts, lowerAll_filters_eq_self_iff.mpr fun p member =>
        (each p member).mpr (canonical p member), rfl⟩
    | any canonical =>
      exact ⟨parts, lowerAll_filters_eq_self_iff.mpr fun p member =>
        (each p member).mpr (canonical p member), rfl⟩
    | noneOf canonical =>
      rename_i inner
      exact ⟨inner, lowerAll_filters_eq_self_iff.mpr fun p member =>
        (each p member).mpr (canonical p member), rfl⟩

theorem returns_iff {p : Predicate} : Returns policy p ↔ IsCanonicalPart policy p := by
  induction p using induction_members with
  | comparison c =>
    rw [isCanonicalPart_comparison_iff, ← Comparison.lower_clause_eq_comparison_iff]
    simp [Returns, filter?, Filter.lower]
  | constant value =>
    refine iff_of_false (fun h => ?_) (fun h => ?_)
    · obtain ⟨f, read, -⟩ := h
      cases read
    · cases h with
      | compound canonical => cases canonical
  | compound k parts ih =>
    rcases filter?_compound_cases k parts with ⟨c, rfl, rfl, relation, read⟩ | ⟨shape, read⟩
    · rw [isCanonicalPart_not_comparison_iff relation,
        ← Comparison.lower_clause_eq_not_iff relation]
      simp [Returns, read, Filter.lower, Predicate.not]
    · rw [isCanonicalPart_compound_iff shape, ← lower_members_eq_self_iff ih]
      simp [Returns, read]

/-- Reading a predicate and lowering the group gives the predicate again if and only if the
predicate is a canonical compound. -/
theorem lower_group?_eq_self_iff (policy : MalformedPolicy) (q : Predicate) :
    (∃ g, q.group? = some g ∧ (g.lower { policy }).result = .ok q) ↔ IsCanonical policy q := by
  cases q with
  | comparison c => exact iff_of_false (by simp [group?]) (fun h => by cases h)
  | constant value => exact iff_of_false (by simp [group?]) (fun h => by cases h)
  | compound k parts =>
    rw [← lower_members_eq_self_iff fun p _ => returns_iff]
    simp [group?, Group.lower, Group.filter]

end Predicate

end SmartFolder
