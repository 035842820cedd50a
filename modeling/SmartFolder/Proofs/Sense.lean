import SmartFolder.Proofs.Canonical

/-!
# Which filters lowering tells apart

The sense of a filter is what is left of it without its spelling. Two groups are lowered to the same
predicate exactly if they have the same sense, and no clause to the predicate of a group
(`Group.lower_eq_iff_sense_eq`).
-/

namespace SmartFolder

/-- A clause without its spelling. -/
structure Assertion where
  field : String
  negated : Bool
  relation : Relation
  value : String
  deriving DecidableEq, Repr

/-- What a clause asserts: a date after yesterday is today, what is not yes is no, and any other
clause relates its field to its value as it says. -/
def Clause.assertion (c : Clause) : Assertion :=
  let spelled := c.respelled?.getD c
  ⟨spelled.field, spelled.operator = .containsNot, spelled.operator.relation, spelled.value⟩

inductive Sense where
  | assertion (a : Assertion)
  | group (condition : Condition) (members : List Sense)

namespace Filter

mutual

/-- The filter with `all` for `invalid` and an assertion for each clause. -/
def sense : Filter → Sense
  | .clause c => .assertion c.assertion
  | .group condition members => .group condition.canonical (senses members)

def senses : List Filter → List Sense
  | [] => []
  | f :: fs => sense f :: senses fs

end

end Filter

/-! ### Clauses -/

namespace Assertion

/-- The predicate of an assertion, given the date its value stands for. -/
def predicate (a : Assertion) (date : Option RelativeDate) : Predicate :=
  let c : Comparison := { Comparison.ofConstants a.field a.relation a.value with date := date }
  if a.negated then .not (.comparison c) else .comparison c

theorem predicate_inj {a b : Assertion} {d e : Option RelativeDate} :
    a.predicate d = b.predicate e ↔ a = b ∧ d = e := by
  obtain ⟨field, negated, relation, value⟩ := a
  obtain ⟨field', negated', relation', value'⟩ := b
  cases negated <;> cases negated' <;>
    simp [predicate, Predicate.not, Comparison.ofConstants, and_assoc]

theorem predicate_ne_join (a : Assertion) (d : Option RelativeDate) (condition : Condition)
    (ps : List Predicate) : a.predicate d ≠ condition.join ps := by
  obtain ⟨field, negated, relation, value⟩ := a
  cases negated <;> cases condition <;> simp [predicate, Predicate.not, Condition.join]

end Assertion

namespace Clause

theorem date_of_respelled {policy : MalformedPolicy} {c c' : Clause}
    (spelling : c.respelled? = some c') : (Lowering.date { policy } c').result = .ok none := by
  have read := (decode_of_respelled spelling).2
  refine Lowering.date_eq_ok_iff.mpr ?_
  by_cases field : c'.field = "Date"
  · exact Or.inr (Or.inl ⟨field, read⟩)
  · exact Or.inl ⟨field, rfl⟩

/-- A lowered clause is the predicate of what it asserts, and the date is found from the field and
the value of the assertion. -/
theorem lower_eq_assertion {policy : MalformedPolicy} {c : Clause} {p : Predicate}
    (lowered : (c.lower { policy }).result = .ok p) :
    let a := c.assertion
    ∃ d, (Lowering.date { policy } ⟨a.field, .equalTo, a.value⟩).result = .ok d ∧
      p = a.predicate d := by
  obtain ⟨d, date, rfl⟩ := lower_eq_ok_iff.mp lowered
  cases spelling : c.respelled? with
  | none =>
    have sameAssertion : c.assertion =
        ⟨c.field, c.operator = .containsNot, c.operator.relation, c.value⟩ := by
      simp [assertion, spelling]
    refine ⟨d, ?_, ?_⟩
    · rw [sameAssertion]
      exact date
    · rw [sameAssertion, comparison_of_respelled_none spelling]
      simp [predicate, Assertion.predicate]
  | some c' =>
    obtain ⟨-, equal, other⟩ := respelled?_eq_some spelling
    have positive : c.operator ≠ .containsNot := by
      rcases other with other | other <;> rw [other] <;> decide
    obtain rfl := undated_of_respelled spelling date
    have sameAssertion : c.assertion = ⟨c'.field, false, .equal, c'.value⟩ := by
      simp [assertion, spelling, equal, Operator.relation]
    have date' : (Lowering.date { policy } c').result = .ok none := date_of_respelled spelling
    refine ⟨none, ?_, ?_⟩
    · rw [sameAssertion]
      exact date'
    · rw [sameAssertion, comparison_none, spelling, predicate, if_neg positive]
      rfl

theorem lower_eq_lower_iff {policy : MalformedPolicy} {c c' : Clause} {p p' : Predicate}
    (lowered : (c.lower { policy }).result = .ok p)
    (lowered' : (c'.lower { policy }).result = .ok p') :
    p = p' ↔ c.assertion = c'.assertion := by
  obtain ⟨d, date, rfl⟩ := lower_eq_assertion lowered
  obtain ⟨d', date', rfl⟩ := lower_eq_assertion lowered'
  rw [Assertion.predicate_inj, and_iff_left_iff_imp]
  intro same
  rw [same, date'] at date
  exact (Except.ok.inj date).symm

end Clause

/-! ### Groups -/

theorem Condition.join_inj {k k' : Condition} {ps ps' : List Predicate} :
    k.join ps = k'.join ps' ↔ k.canonical = k'.canonical ∧ ps = ps' := by
  cases k <;> cases k' <;> simp [join, canonical, Predicate.not]

theorem Clause.lower_ne_join {policy : MalformedPolicy} {c : Clause} {p : Predicate}
    (lowered : (c.lower { policy }).result = .ok p) (condition : Condition) (ps : List Predicate) :
    p ≠ condition.join ps := by
  obtain ⟨d, -, rfl⟩ := lower_eq_assertion lowered
  exact Assertion.predicate_ne_join _ d condition ps

namespace Filter

theorem lowerAll_eq_lowerAll_iff {policy : MalformedPolicy} {fs fs' : List Filter}
    {ps ps' : List Predicate}
    (each : ∀ f ∈ fs, ∀ {f' : Filter} {p p' : Predicate}, (f.lower { policy }).result = .ok p →
      (f'.lower { policy }).result = .ok p' → (p = p' ↔ f.sense = f'.sense))
    (lowered : List.Forall₂ (fun f p => (f.lower { policy }).result = .ok p) fs ps)
    (lowered' : List.Forall₂ (fun f p => (f.lower { policy }).result = .ok p) fs' ps') :
    ps = ps' ↔ senses fs = senses fs' := by
  induction lowered generalizing fs' ps' with
  | nil => cases lowered' <;> simp [senses]
  | cons first rest ih =>
    cases lowered' with
    | nil => simp [senses]
    | cons first' rest' =>
      have rest := ih (fun f member => each f (List.mem_cons_of_mem _ member)) rest'
      rw [List.cons.injEq, each _ List.mem_cons_self first first', rest, senses, senses,
        List.cons.injEq]

theorem lower_eq_lower_iff {policy : MalformedPolicy} {f f' : Filter} {p p' : Predicate}
    (lowered : (f.lower { policy }).result = .ok p)
    (lowered' : (f'.lower { policy }).result = .ok p') : p = p' ↔ f.sense = f'.sense := by
  induction f generalizing f' p p' with
  | clause c =>
    cases f' with
    | clause c' =>
      rw [sense, sense, Sense.assertion.injEq]
      exact Clause.lower_eq_lower_iff lowered lowered'
    | group condition members =>
      obtain ⟨ps, -, rfl⟩ := lower_group_eq_ok_iff.mp lowered'
      exact iff_of_false (Clause.lower_ne_join lowered _ _) (by simp [sense])
  | group condition members ih =>
    obtain ⟨ps, all, rfl⟩ := lower_group_eq_ok_iff.mp lowered
    cases f' with
    | clause c' => exact iff_of_false (Clause.lower_ne_join lowered' _ _).symm (by simp [sense])
    | group condition' members' =>
      obtain ⟨ps', all', rfl⟩ := lower_group_eq_ok_iff.mp lowered'
      rw [sense, sense, Sense.group.injEq, Condition.join_inj,
        lowerAll_eq_lowerAll_iff (fun f member _ _ _ => ih f member)
          (lowerAll_eq_ok_iff.mp all) (lowerAll_eq_ok_iff.mp all')]

end Filter

namespace Group

/-- Lowering tells groups apart that differ in more than their spelling, and groups from clauses. -/
theorem lower_eq_iff_sense_eq (policy : MalformedPolicy) (g g' : Group) (p p' : Predicate)
    (lowered : (g.lower { policy }).result = .ok p)
    (lowered' : (g'.lower { policy }).result = .ok p') :
    (p = p' ↔ g.filter.sense = g'.filter.sense) ∧
      ∀ c : Clause, (c.lower { policy }).result ≠ .ok p := by
  refine ⟨Filter.lower_eq_lower_iff lowered lowered', ?_⟩
  intro c same
  obtain ⟨ps, -, rfl⟩ := Filter.lower_group_eq_ok_iff.mp lowered
  exact Clause.lower_ne_join same _ _ rfl

def roundabout : Group where
  condition := .none
  members := [
    .clause ⟨"Date", .after, "yesterday"⟩,
    .clause ⟨"Text", .containsNot, "offer"⟩,
    .group .invalid [.clause ⟨"Read", .notEqualTo, "Yes"⟩, .clause ⟨"Date", .under, "3 days"⟩]]

def straight : Group where
  condition := .none
  members := [
    .clause ⟨"Date", .equalTo, "today"⟩,
    .clause ⟨"Text", .containsNot, "offer"⟩,
    .group .all [.clause ⟨"Read", .equalTo, "No"⟩, .clause ⟨"Date", .before, "3 days"⟩]]

def straightPredicate : Predicate :=
  .not (.compound .or [
    .comparison (.ofConstants "Date" .equal "today"),
    .not (.comparison (.ofConstants "Text" .contains "offer")),
    .compound .and [
      .comparison (.ofConstants "Read" .equal "No"),
      .comparison { Comparison.ofConstants "Date" .less "3 days" with date := some ⟨3, .day⟩ }]])

theorem lower_eq_iff_sense_eq_straight :
    (roundabout.lower { policy := .raise }).result = .ok straightPredicate ∧
      (straight.lower { policy := .raise }).result = .ok straightPredicate ∧
      (straightPredicate = straightPredicate ↔ roundabout.filter.sense = straight.filter.sense) ∧
      ∀ c : Clause, (c.lower { policy := .raise }).result ≠ .ok straightPredicate :=
  ⟨rfl, rfl, lower_eq_iff_sense_eq .raise roundabout straight straightPredicate straightPredicate
    rfl rfl⟩

end Group

end SmartFolder
