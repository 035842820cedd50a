import SmartFolder.Proofs.Lowering
import SmartFolder.Proofs.Recognition

/-!
# Canonical filters

Lowering a group and reading the predicate back does not give the group, but its canonical form
(`Group.group?_lower`). The form keeps the groups, their order and their number, and changes only
what lowering spells in one way, what the field cannot tell apart, and the condition `invalid`.
-/

namespace SmartFolder

namespace FieldKind

/-- The operator that lowering `op` and reading the comparison back gives. -/
def canonicalOperator (k : FieldKind) (op : Operator) : Operator :=
  if op = .containsNot ∧ (k.operator? .contains).isSome then .containsNot
  else (k.operator? op.relation).getD .equalTo

theorem canonicalOperator_equalTo (k : FieldKind) : k.canonicalOperator .equalTo = .equalTo := by
  cases k <;> rfl

theorem canonicalOperator_eq_self_iff {k : FieldKind} {op : Operator} :
    k.canonicalOperator op = op ↔ k.isValid op = true := by
  cases k <;> cases op <;> decide

end FieldKind

namespace Clause

/-- The clause in place of one that has a second spelling: a date after yesterday is today, and
what is not yes is no. -/
def respelled? (c : Clause) : Option Clause :=
  if c.field = "Date" ∧ c.operator = .after ∧ c.value = "yesterday" then
    some ⟨"Date", .equalTo, "today"⟩
  else if c.operator = .notEqualTo ∧ c.value = "Yes" then some ⟨c.field, .equalTo, "No"⟩
  else if c.operator = .notEqualTo ∧ c.value = "No" then some ⟨c.field, .equalTo, "Yes"⟩
  else none

def canonical (c : Clause) : Clause :=
  c.respelled?.getD { c with operator := (fieldKind c.field).canonicalOperator c.operator }

theorem respelled?_eq_some {c c' : Clause} (h : c.respelled? = some c') :
    c'.field = c.field ∧ c'.operator = .equalTo ∧ (c.operator = .after ∨ c.operator = .notEqualTo) := by
  unfold respelled? at h
  split at h
  · rename_i date
    cases h
    exact ⟨date.1.symm, rfl, Or.inl date.2.1⟩
  · split at h
    · rename_i boolean
      cases h
      exact ⟨rfl, rfl, Or.inr boolean.1⟩
    · split at h
      · rename_i boolean
        cases h
        exact ⟨rfl, rfl, Or.inr boolean.1⟩
      · cases h

theorem respelled?_eq_none_iff {c : Clause} :
    c.respelled? = none ↔
      ¬ (c.field = "Date" ∧ c.operator = .after ∧ c.value = "yesterday") ∧
      ¬ (c.operator = .notEqualTo ∧ (c.value = "Yes" ∨ c.value = "No")) := by
  unfold respelled?
  split
  · rename_i date
    simp [date]
  · rename_i notDate
    rw [and_iff_right notDate]
    split
    · rename_i boolean
      simp [boolean]
    · rename_i notYes
      split
      · rename_i boolean
        simp [boolean]
      · rename_i notNo
        simp only [true_iff]
        rintro ⟨negated, yes | no⟩
        · exact notYes ⟨negated, yes⟩
        · exact notNo ⟨negated, no⟩

/-- Neither the values that are respelled nor those in their place are relative dates. -/
theorem decode_of_respelled {c c' : Clause} (h : c.respelled? = some c') :
    RelativeDate.decode c.value = .ok none ∧ RelativeDate.decode c'.value = .ok none := by
  have yesterday : RelativeDate.decode "yesterday" = .ok none := by decide
  have today : RelativeDate.decode "today" = .ok none := by decide
  have yes : RelativeDate.decode "Yes" = .ok none := by decide
  have no : RelativeDate.decode "No" = .ok none := by decide
  unfold respelled? at h
  split at h
  · rename_i date
    cases h
    exact ⟨date.2.2 ▸ yesterday, today⟩
  · split at h
    · rename_i boolean
      cases h
      exact ⟨boolean.2 ▸ yes, no⟩
    · split at h
      · rename_i boolean
        cases h
        exact ⟨boolean.2 ▸ no, yes⟩
      · cases h

theorem respelled?_eq_none_of_decode {c : Clause} (read : RelativeDate.decode c.value ≠ .ok none) :
    c.respelled? = none :=
  Option.eq_none_iff_forall_ne_some.mpr fun _ spelling => read (decode_of_respelled spelling).1

theorem canonical_eq_self_iff {c : Clause} :
    c.canonical = c ↔ isValidOperator c.field c.operator = true ∧ c.respelled? = none := by
  unfold canonical
  cases spelling : c.respelled? with
  | some c' =>
    obtain ⟨-, equal, other⟩ := respelled?_eq_some spelling
    have differs : c' ≠ c := by
      rintro rfl
      rcases other with other | other <;> rw [equal] at other <;> cases other
    simp [differs]
  | none =>
    rw [Option.getD_none, and_iff_left rfl, isValidOperator, ← FieldKind.canonicalOperator_eq_self_iff]
    constructor
    · intro same
      exact congrArg Clause.operator same
    · intro same
      rw [same]

/-! ### Lowered and read back -/

theorem comparison_some (c : Clause) (r : Relation) (d : RelativeDate) :
    c.comparison r (some d) = { Comparison.ofConstants c.field r c.value with date := some d } := rfl

theorem comparison_none (c : Clause) (r : Relation) :
    c.comparison r none =
      match c.respelled? with
      | some c' => .ofConstants c'.field .equal c'.value
      | none => .ofConstants c.field r c.value := by
  unfold respelled?
  by_cases date : c.field = "Date" ∧ c.operator = .after ∧ c.value = "yesterday"
  · rw [if_pos date, comparison, if_pos date, date.1]
  · simp only [comparison, if_neg date]
    by_cases negated : c.operator = .notEqualTo
    · by_cases yes : c.value = "Yes"
      · simp [negated, yes, opposite?]
      · by_cases no : c.value = "No" <;> simp [negated, yes, no, opposite?]
    · simp [negated]

theorem comparison_of_respelled_none {c : Clause} (spelling : c.respelled? = none) (r : Relation)
    (d : Option RelativeDate) :
    c.comparison r d = { Comparison.ofConstants c.field r c.value with date := d } := by
  cases d with
  | none => rw [comparison_none, spelling]; rfl
  | some d => exact comparison_some c r d

theorem undated_of_respelled {o : Lowering} {c c' : Clause} {d : Option RelativeDate}
    (spelling : c.respelled? = some c') (date : (o.date c).result = .ok d) : d = none := by
  rcases Lowering.date_eq_ok_iff.mp date with ⟨-, undated⟩ | ⟨-, read⟩ | ⟨-, undated, -⟩
  · exact undated
  · cases d with
    | none => rfl
    | some d => rw [respelled?_eq_none_of_decode (by simp [read])] at spelling; cases spelling
  · exact undated

theorem clause_ofConstants {c : Comparison} (op : Operator) {field value : String}
    (left : c.left = .constant field) (right : c.right = .constant value)
    (relation : c.relation = op.relation) :
    c.clause (op = .containsNot) = ⟨field, (fieldKind field).canonicalOperator op, value⟩ := by
  have sameField : c.field = field := by simp [Comparison.field, left, Operand.text]
  have sameOperator : (c.clause (op = .containsNot)).operator =
      (fieldKind field).canonicalOperator op := by
    rw [Comparison.operator_clause, FieldKind.canonicalOperator, Comparison.operator?, sameField,
      relation]
    by_cases negated : op = .containsNot
    · subst negated
      simp only [decide_true, true_and, Operator.relation, FieldKind.operator?_eq_contains_iff]
    · simp only [negated, decide_false, Bool.false_eq_true, false_and, if_false]
  have sameValue : c.right.text = value := by simp [right, Operand.text]
  rw [← sameOperator, ← sameField, ← sameValue]
  rfl

theorem filter?_predicate {c : Clause} {r : Comparison} (relation : r.relation = c.operator.relation) :
    (c.predicate r).filter? = some (.clause (r.clause (c.operator = .containsNot))) := by
  unfold predicate
  by_cases negated : c.operator = .containsNot
  · have contains : r.relation = .contains := by rw [relation, negated]; rfl
    simp [negated, Predicate.not, Predicate.filter?, contains]
  · simp [negated, Predicate.filter?]

/-- A lowered clause is read back as its canonical form. -/
theorem filter?_of_lower {policy : MalformedPolicy} {c : Clause} {p : Predicate}
    (h : (c.lower { policy }).result = .ok p) : p.filter? = some (.clause c.canonical) := by
  obtain ⟨d, date, rfl⟩ := lower_eq_ok_iff.mp h
  cases spelling : c.respelled? with
  | none =>
    have compared := comparison_of_respelled_none spelling c.operator.relation d
    rw [compared, filter?_predicate rfl, clause_ofConstants c.operator rfl rfl rfl, canonical, spelling]
    rfl
  | some c' =>
    obtain ⟨field, equal, other⟩ := respelled?_eq_some spelling
    have positive : c.operator ≠ .containsNot := by
      rcases other with other | other <;> rw [other] <;> decide
    obtain rfl := undated_of_respelled spelling date
    rw [comparison_none, spelling]
    simp only [predicate, if_neg positive, Predicate.filter?, Option.some.injEq, Filter.clause.injEq]
    rw [canonical, spelling]
    calc (Comparison.ofConstants c'.field .equal c'.value).clause false
        = ⟨c'.field, (fieldKind c'.field).canonicalOperator .equalTo, c'.value⟩ :=
          clause_ofConstants .equalTo rfl rfl rfl
      _ = c' := by rw [FieldKind.canonicalOperator_equalTo, ← equal]

end Clause

/-! ### Groups -/

def Condition.canonical : Condition → Condition
  | .invalid => .all
  | condition => condition

theorem Condition.canonical_eq_self_iff {condition : Condition} :
    condition.canonical = condition ↔ condition ≠ .invalid := by
  cases condition <;> decide

namespace Filter

mutual

def canonical : Filter → Filter
  | .clause c => .clause c.canonical
  | .group condition members => .group condition.canonical (canonicalAll members)

def canonicalAll : List Filter → List Filter
  | [] => []
  | f :: fs => canonical f :: canonicalAll fs

end

mutual

def conditions : Filter → List Condition
  | .clause _ => []
  | .group condition members => condition :: conditionsOf members

def conditionsOf : List Filter → List Condition
  | [] => []
  | f :: fs => conditions f ++ conditionsOf fs

end

theorem canonicalAll_eq_map (fs : List Filter) : canonicalAll fs = fs.map canonical := by
  induction fs with
  | nil => rfl
  | cons f fs ih => simp [canonicalAll, ih]

theorem conditionsOf_eq_flatMap (fs : List Filter) : conditionsOf fs = fs.flatMap conditions := by
  induction fs with
  | nil => rfl
  | cons f fs ih => simp [conditionsOf, ih]

/-- What is asked of every condition and every clause of a group is asked of its own condition and
of each member. -/
theorem valid_group_iff {P : Clause → Prop} {condition : Condition} {members : List Filter} :
    (.invalid ∉ (Filter.group condition members).conditions ∧
        ∀ c ∈ (Filter.group condition members).clauses, P c) ↔
      condition ≠ .invalid ∧
        ∀ f ∈ members, .invalid ∉ f.conditions ∧ ∀ c ∈ f.clauses, P c := by
  simp only [conditions, conditionsOf_eq_flatMap, clauses, clausesOf_eq_flatMap, List.mem_cons,
    List.mem_flatMap]
  constructor
  · rintro ⟨valid, each⟩
    refine ⟨fun same => valid (Or.inl same.symm), fun f member => ⟨?_, ?_⟩⟩
    · exact fun found => valid (Or.inr ⟨f, member, found⟩)
    · exact fun c found => each c ⟨f, member, found⟩
  · rintro ⟨valid, each⟩
    refine ⟨?_, ?_⟩
    · rintro (rfl | ⟨f, member, found⟩)
      · exact valid rfl
      · exact (each f member).1 found
    · rintro c ⟨f, member, found⟩
      exact (each f member).2 c found

theorem canonical_eq_self_iff {f : Filter} :
    f.canonical = f ↔
      .invalid ∉ f.conditions ∧
      ∀ c ∈ f.clauses, isValidOperator c.field c.operator = true ∧ c.respelled? = none := by
  induction f with
  | clause c => simp [canonical, conditions, clauses, Clause.canonical_eq_self_iff]
  | group condition members ih =>
    have membersSame : members.map canonical = members ↔ ∀ f ∈ members, f.canonical = f := by
      simpa using List.map_eq_map_iff (f := canonical) (g := id) (l := members)
    rw [valid_group_iff, ← forall₂_congr ih, canonical, canonicalAll_eq_map, group.injEq,
      Condition.canonical_eq_self_iff, membersSame]

end Filter

/-! ### Lowered groups read back -/

theorem Condition.group?_join (condition : Condition) (ps : List Predicate) :
    (condition.join ps).group? = some ⟨condition.canonical, Predicate.filters ps⟩ := by
  cases condition <;> rfl

theorem Condition.filter?_join (condition : Condition) (ps : List Predicate) :
    (condition.join ps).filter? = some (.group condition.canonical (Predicate.filters ps)) := by
  cases condition <;> simp [join, canonical, Predicate.not, Predicate.filter?, Connective.condition]

namespace Filter

theorem filters_of_forall₂ {fs : List Filter} {ps : List Predicate}
    (read : List.Forall₂ (fun f p => p.filter? = some f.canonical) fs ps) :
    Predicate.filters ps = fs.map canonical := by
  induction read with
  | nil => rfl
  | cons first rest ih => simp [Predicate.filters, first, ih]

theorem filter?_of_lower {policy : MalformedPolicy} {f : Filter} {p : Predicate}
    (h : (f.lower { policy }).result = .ok p) : p.filter? = some f.canonical := by
  induction f generalizing p with
  | clause c => exact Clause.filter?_of_lower h
  | group condition members ih =>
    obtain ⟨ps, lowered, rfl⟩ := lower_group_eq_ok_iff.mp h
    rw [Condition.filter?_join, filters_of_forall₂ (forall₂_of_lowerAll ih lowered), canonical,
      canonicalAll_eq_map]

end Filter

namespace Group

def canonical (g : Group) : Group := ⟨g.condition.canonical, Filter.canonicalAll g.members⟩

/-- Whether lowering the group and reading it back gives the group again: no group in it is
`invalid`, every operator is valid on its field, and no clause has a second spelling. -/
def IsCanonical (g : Group) : Prop :=
  .invalid ∉ g.filter.conditions ∧
    ∀ c ∈ g.clauses, isValidOperator c.field c.operator = true ∧ c.respelled? = none

theorem canonical_eq_self_iff {g : Group} : g.canonical = g ↔ g.IsCanonical := by
  have same : g.canonical = g ↔ g.filter.canonical = g.filter := by
    obtain ⟨condition, members⟩ := g
    simp [canonical, filter, Filter.canonical]
  rw [same, Filter.canonical_eq_self_iff]
  rfl

theorem group?_of_lower {policy : MalformedPolicy} {g : Group} {p : Predicate}
    (h : (g.lower { policy }).result = .ok p) : p.group? = some g.canonical := by
  have whole := Filter.filter?_of_lower (f := g.filter) h
  obtain ⟨ps, -, rfl⟩ := Filter.lower_group_eq_ok_iff.mp h
  rw [Condition.filter?_join, filter, Filter.canonical, Option.some.injEq,
    Filter.group.injEq] at whole
  rw [Condition.group?_join, whole.2]
  rfl

/-- A lowered group is read back as its canonical form, so as itself only if it is canonical. -/
theorem group?_lower (policy : MalformedPolicy) (g : Group) (p : Predicate)
    (h : (g.lower { policy }).result = .ok p) :
    p.group? = some g.canonical ∧ (p.group? = some g ↔ g.IsCanonical) := by
  refine ⟨group?_of_lower h, ?_⟩
  rw [group?_of_lower h, Option.some.injEq, canonical_eq_self_iff]

/-- A group with both spellings, an `invalid` group and operators that their fields do not know. -/
def sample : Group where
  condition := .none
  members := [
    .clause ⟨"Subject", .containsNot, "spam"⟩,
    .group .invalid [.clause ⟨"Date", .lessThan, "3 days"⟩, .clause ⟨"Read", .notEqualTo, "Yes"⟩],
    .clause ⟨"Date", .after, "yesterday"⟩,
    .clause ⟨"Size", .notUnder, "10"⟩]

def samplePredicate : Predicate :=
  .not (.compound .or [
    .not (.comparison (.ofConstants "Subject" .contains "spam")),
    .compound .and [
      .comparison { Comparison.ofConstants "Date" .less "3 days" with date := some ⟨3, .day⟩ },
      .comparison (.ofConstants "Read" .equal "No")],
    .comparison (.ofConstants "Date" .equal "today"),
    .comparison (.ofConstants "Size" .greaterOrEqual "10")])

theorem group?_lower_sample :
    (sample.lower { policy := .raise }).result = .ok samplePredicate ∧
      samplePredicate.group? = some sample.canonical ∧
      (samplePredicate.group? = some sample ↔ sample.IsCanonical) :=
  have lowered : (sample.lower { policy := .raise }).result = .ok samplePredicate := rfl
  ⟨lowered, group?_lower .raise sample samplePredicate lowered⟩

end Group

end SmartFolder
