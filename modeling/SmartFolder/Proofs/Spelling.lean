import SmartFolder.Proofs.Canonical

/-!
# Spellings

Some clauses say the same as another clause, and lowering writes the other one. What this does to a
clause that is lowered and read back is `Group.group?_lower_single`. The spellings that lowering
replaces do not occur in what it gives, but for a date that is `greaterThan` yesterday
(`Group.spellings_lower`).
-/

namespace SmartFolder

/-! ### In a lowered group -/

namespace Clause

variable {policy : MalformedPolicy} {c : Clause} {r : Comparison}

/-- The comparison for a clause with a second spelling is an equality, that for any other clause
says what the clause says. -/
theorem comparison_cases (lowered : (c.lower { policy }).result = .ok (c.predicate r)) :
    (c.respelled?.isSome ∧ r.relation = .equal) ∨
      (c.respelled? = none ∧ r.left.text = c.field ∧ r.relation = c.operator.relation ∧
        r.right.text = c.value) := by
  obtain ⟨d, date, same⟩ := lower_eq_ok_iff.mp lowered
  rw [predicate_inj] at same
  subst same
  cases spelling : c.respelled? with
  | some c' =>
    obtain rfl := undated_of_respelled spelling date
    rw [comparison_none, spelling]
    exact Or.inl ⟨rfl, rfl⟩
  | none =>
    rw [comparison_of_respelled_none spelling]
    exact Or.inr ⟨rfl, rfl, rfl, rfl⟩

theorem notBoolean_of_lower (lowered : (c.lower { policy }).result = .ok (c.predicate r)) :
    ¬ (r.relation = .notEqual ∧ (r.right.text = "Yes" ∨ r.right.text = "No")) := by
  rintro ⟨unequal, boolean⟩
  rcases comparison_cases lowered with ⟨-, equal⟩ | ⟨spelling, -, relation, value⟩
  · rw [equal] at unequal
    cases unequal
  · rw [relation, Operator.relation_eq_notEqual_iff] at unequal
    rw [value] at boolean
    exact (respelled?_eq_none_iff.mp spelling).2 ⟨unequal, boolean⟩

theorem afterYesterday_iff_of_lower
    (lowered : (c.lower { policy }).result = .ok (c.predicate r)) :
    (r.left.text = "Date" ∧ r.relation = .greater ∧ r.right.text = "yesterday") ↔
      c = ⟨"Date", .greaterThan, "yesterday"⟩ := by
  rcases comparison_cases lowered with ⟨spelling, equal⟩ | ⟨spelling, field, relation, value⟩
  · refine iff_of_false ?_ ?_
    · rintro ⟨-, greater, -⟩
      rw [equal] at greater
      cases greater
    · rintro rfl
      cases spelling
  · rw [field, relation, value, Operator.relation_eq_greater_iff]
    constructor
    · rintro ⟨date, greater | after, yesterday⟩
      · rw [← date, ← greater, ← yesterday]
      · exact absurd ⟨date, after, yesterday⟩ (respelled?_eq_none_iff.mp spelling).1
    · rintro rfl
      exact ⟨rfl, Or.inl rfl, rfl⟩

end Clause

/-- The comparisons of a lowered group are those of its clauses, one by one. None is "not equal to
yes" or "no", and a date is after yesterday in no other place than where the clause says
`greaterThan`. -/
theorem Group.spellings_lower (policy : MalformedPolicy) (g : Group) (p : Predicate)
    (lowered : (g.lower { policy }).result = .ok p) :
    List.Forall₂ (fun c r =>
        ¬ (r.relation = .notEqual ∧ (r.right.text = "Yes" ∨ r.right.text = "No")) ∧
        ((r.left.text = "Date" ∧ r.relation = .greater ∧ r.right.text = "yesterday") ↔
          c = ⟨"Date", .greaterThan, "yesterday"⟩))
      g.clauses p.comparisons :=
  (Filter.comparisons_of_lower lowered).imp fun _ _ lowered =>
    ⟨Clause.notBoolean_of_lower lowered, Clause.afterYesterday_iff_of_lower lowered⟩

/-- Both ways to say that a date is after yesterday, and values of more than one kind that are not
yes or no. -/
def Group.spelledTwice : Group where
  condition := .none
  members := [
    .clause ⟨"Date", .after, "yesterday"⟩,
    .clause ⟨"Date", .greaterThan, "yesterday"⟩,
    .group .any [.clause ⟨"Subject", .notEqualTo, "No"⟩, .clause ⟨"Date", .notEqualTo, "2 weeks"⟩]]

def Predicate.spelledOnce : Predicate :=
  .not (.compound .or [
    .comparison (.ofConstants "Date" .equal "today"),
    .comparison (.ofConstants "Date" .greater "yesterday"),
    .compound .or [
      .comparison (.ofConstants "Subject" .equal "Yes"),
      .comparison { Comparison.ofConstants "Date" .notEqual "2 weeks" with
        date := some ⟨2, .week⟩ }]])

theorem Group.spellings_lower_spelledTwice :
    (spelledTwice.lower { policy := .raise }).result = .ok .spelledOnce ∧
      List.Forall₂ (fun c r =>
          ¬ (r.relation = .notEqual ∧ (r.right.text = "Yes" ∨ r.right.text = "No")) ∧
          ((r.left.text = "Date" ∧ r.relation = .greater ∧ r.right.text = "yesterday") ↔
            c = ⟨"Date", .greaterThan, "yesterday"⟩))
        spelledTwice.clauses Predicate.spelledOnce.comparisons :=
  have lowered : (spelledTwice.lower { policy := .raise }).result = .ok .spelledOnce := rfl
  ⟨lowered, spellings_lower .raise spelledTwice .spelledOnce lowered⟩

/-- A date after yesterday that lowering does not write as today. -/
theorem Group.lower_greaterThan_yesterday :
    ((Group.mk .all [.clause ⟨"Date", .greaterThan, "yesterday"⟩]).lower { policy := .raise }).result =
      .ok (.compound .and [.comparison (.ofConstants "Date" .greater "yesterday")]) := rfl

/-! ### Read back -/

theorem Clause.canonical_of_isValidOperator {c : Clause}
    (valid : isValidOperator c.field c.operator = true) : c.canonical = c.respelled?.getD c := by
  rw [isValidOperator, ← FieldKind.canonicalOperator_eq_self_iff] at valid
  rw [canonical, valid]

/-- On every field, boolean or not, a clause with a valid operator that is lowered and read back
is itself or its second spelling. -/
theorem Group.group?_lower_single (policy : MalformedPolicy) (c : Clause) (p : Predicate)
    (valid : isValidOperator c.field c.operator = true)
    (lowered : ((Group.mk .all [.clause c]).lower { policy }).result = .ok p) :
    p.group? = some ⟨.all, [.clause (c.respelled?.getD c)]⟩ ∧
      (p.group? = some ⟨.all, [.clause c]⟩ ↔
        ¬ (c.field = "Date" ∧ c.operator = .after ∧ c.value = "yesterday") ∧
        ¬ (c.operator = .notEqualTo ∧ (c.value = "Yes" ∨ c.value = "No"))) := by
  have read : p.group? = some ⟨.all, [.clause c.canonical]⟩ := group?_of_lower lowered
  have same : c.canonical = c ↔ c.respelled? = none := by
    rw [Clause.canonical_eq_self_iff, and_iff_right valid]
  refine ⟨by rw [read, Clause.canonical_of_isValidOperator valid], ?_⟩
  rw [read, ← Clause.respelled?_eq_none_iff, ← same]
  simp

theorem Group.group?_lower_single_date :
    let c : Clause := ⟨"Date", .onOrAfter, " 3days"⟩
    let p : Predicate := .compound .and [.comparison
      { Comparison.ofConstants "Date" .greaterOrEqual " 3days" with date := some ⟨3, .day⟩ }]
    isValidOperator c.field c.operator = true ∧
      ((Group.mk .all [.clause c]).lower { policy := .fallback }).result = .ok p ∧
      p.group? = some ⟨.all, [.clause (c.respelled?.getD c)]⟩ ∧
      (p.group? = some ⟨.all, [.clause c]⟩ ↔
        ¬ (c.field = "Date" ∧ c.operator = .after ∧ c.value = "yesterday") ∧
        ¬ (c.operator = .notEqualTo ∧ (c.value = "Yes" ∨ c.value = "No"))) :=
  ⟨by decide, rfl, group?_lower_single .fallback ⟨"Date", .onOrAfter, " 3days"⟩ _ (by decide) rfl⟩

/-- A subject that is not `Yes` becomes a subject that is `No`. -/
theorem Group.group?_lower_subject :
    fieldKind "Subject" ≠ .boolean ∧ isValidOperator "Subject" .notEqualTo = true ∧
      ∃ p, ((Group.mk .all [.clause ⟨"Subject", .notEqualTo, "Yes"⟩]).lower
          { policy := .raise }).result = .ok p ∧
        p.group? = some ⟨.all, [.clause ⟨"Subject", .equalTo, "No"⟩]⟩ :=
  ⟨by decide, by decide, _, rfl, rfl⟩

end SmartFolder
