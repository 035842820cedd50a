import SmartFolder.Proofs.Canonical
import SmartFolder.Proofs.Meaning

/-!
# What lowering means

Lowering keeps the truth value of a group under every valuation that agrees with the two spellings
it replaces, and every negation that it writes has one part (`Group.holds_lower`).
-/

namespace SmartFolder

/-- Both spellings of a clause have one truth value: what is not yes is no, and a date after
yesterday is today. -/
structure Valuation.AgreesOnSpellings (v : Valuation) : Prop where
  notYes (field : String) : v field .notEqual "Yes" = v field .equal "No"
  notNo (field : String) : v field .notEqual "No" = v field .equal "Yes"
  afterYesterday : v "Date" .greater "yesterday" = v "Date" .equal "today"

/-! ### Clauses -/

namespace Clause

variable {v : Valuation} {c : Clause}

theorem holds_of_respelled (agrees : v.AgreesOnSpellings) {c' : Clause}
    (spelling : c.respelled? = some c') : c'.holds v = c.holds v := by
  obtain ⟨field, operator, value⟩ := c
  unfold respelled? at spelling
  split at spelling
  · rename_i date
    obtain ⟨rfl, rfl, rfl⟩ := date
    cases spelling
    exact agrees.afterYesterday.symm
  · split at spelling
    · rename_i boolean
      obtain ⟨rfl, rfl⟩ := boolean
      cases spelling
      exact (agrees.notYes field).symm
    · split at spelling
      · rename_i boolean
        obtain ⟨rfl, rfl⟩ := boolean
        cases spelling
        exact (agrees.notNo field).symm
      · cases spelling

theorem holds_predicate (v : Valuation) (c : Clause) (r : Comparison) :
    (c.predicate r).holds v = if c.operator = .containsNot then !r.holds v else r.holds v := by
  unfold predicate
  split
  · simp [Predicate.not, Predicate.holds, Predicate.truths, Connective.truth]
  · rfl

theorem holds_of_lower {policy : MalformedPolicy} {p : Predicate} (agrees : v.AgreesOnSpellings)
    (lowered : (c.lower { policy }).result = .ok p) : p.holds v = c.holds v := by
  obtain ⟨d, date, rfl⟩ := lower_eq_ok_iff.mp lowered
  rw [holds_predicate]
  cases spelling : c.respelled? with
  | none =>
    rw [comparison_of_respelled_none spelling, holds]
    split
    · rename_i negated
      rw [negated]
      rfl
    · rfl
  | some c' =>
    obtain ⟨-, equal, other⟩ := respelled?_eq_some spelling
    have positive : c.operator ≠ .containsNot := by
      rcases other with other | other <;> rw [other] <;> decide
    obtain rfl := undated_of_respelled spelling date
    rw [if_neg positive, comparison_none, spelling, ← holds_of_respelled agrees spelling, holds,
      equal]
    rfl

theorem negatesOne_predicate (c : Clause) (r : Comparison) : (c.predicate r).NegatesOne := by
  unfold predicate
  split <;> simp [Predicate.not, Predicate.NegatesOne, Predicate.nodes, Predicate.nodesOf,
    Predicate.isSingle]

end Clause

/-! ### Groups -/

namespace Condition

theorem holds_join (v : Valuation) (condition : Condition) (ps : List Predicate) :
    (condition.join ps).holds v = condition.truth (ps.map (Predicate.holds v)) := by
  cases condition <;>
    simp [join, Predicate.not, Predicate.holds, Predicate.truths, Predicate.truths_eq_map,
      Connective.truth, truth]

theorem negatesOne_join (condition : Condition) {ps : List Predicate}
    (each : ∀ p ∈ ps, p.NegatesOne) : (condition.join ps).NegatesOne := by
  have inside : ∀ q ∈ Predicate.nodesOf ps, q.isSingle = true := by
    intro q found
    rw [Predicate.nodesOf_eq_flatMap] at found
    obtain ⟨p, member, node⟩ := List.mem_flatMap.mp found
    exact each p member q node
  intro q found
  cases condition <;>
    simp only [join, Predicate.not, Predicate.nodes, Predicate.nodesOf, List.append_nil,
      List.mem_cons] at found
  case none =>
    rcases found with rfl | rfl | found
    · rfl
    · rfl
    · exact inside q found
  all_goals
    rcases found with rfl | found
    · rfl
    · exact inside q found

end Condition

namespace Filter

theorem map_holds_of_forall₂ {v : Valuation} {fs : List Filter} {ps : List Predicate}
    (same : List.Forall₂ (fun f p => p.holds v = f.holds v) fs ps) :
    ps.map (Predicate.holds v) = fs.map (holds v) := by
  induction same with
  | nil => rfl
  | cons first rest ih => rw [List.map_cons, List.map_cons, first, ih]

theorem holds_of_lower {v : Valuation} {policy : MalformedPolicy} {f : Filter} {p : Predicate}
    (agrees : v.AgreesOnSpellings) (lowered : (f.lower { policy }).result = .ok p) :
    p.holds v = f.holds v := by
  induction f generalizing p with
  | clause c => exact Clause.holds_of_lower agrees lowered
  | group condition members ih =>
    obtain ⟨ps, all, rfl⟩ := lower_group_eq_ok_iff.mp lowered
    rw [Condition.holds_join, map_holds_of_forall₂ (forall₂_of_lowerAll ih all), holds,
      truths_eq_map]

theorem negatesOne_of_lower {policy : MalformedPolicy} {f : Filter} {p : Predicate}
    (lowered : (f.lower { policy }).result = .ok p) : p.NegatesOne := by
  induction f generalizing p with
  | clause c =>
    obtain ⟨r, rfl⟩ := Clause.exists_comparison_of_lower lowered
    exact Clause.negatesOne_predicate c r
  | group condition members ih =>
    obtain ⟨ps, all, rfl⟩ := lower_group_eq_ok_iff.mp lowered
    refine Condition.negatesOne_join condition fun p part => ?_
    obtain ⟨f, member, lowered⟩ := exists_of_mem_lowerAll all part
    exact ih f member lowered

end Filter

namespace Group

/-- A lowered group means what the group means, wherever the two spellings of a clause mean the
same. -/
theorem holds_lower (policy : MalformedPolicy) (g : Group) (p : Predicate)
    (lowered : (g.lower { policy }).result = .ok p) :
    p.NegatesOne ∧ ∀ v : Valuation, v.AgreesOnSpellings → p.holds v = g.holds v :=
  ⟨Filter.negatesOne_of_lower lowered, fun _ agrees => Filter.holds_of_lower agrees lowered⟩

/-- "None of" around "none of", one of them empty, with both spellings, a date and a negated
comparison inside. -/
def noneOfNone : Group where
  condition := .none
  members := [
    .group .none [.clause ⟨"Subject", .containsNot, "offer"⟩, .group .none []],
    .group .invalid [.clause ⟨"Read", .notEqualTo, "Yes"⟩, .clause ⟨"Date", .before, "3 days"⟩],
    .clause ⟨"Date", .after, "yesterday"⟩]

def noneOfNonePredicate : Predicate :=
  .not (.compound .or [
    .not (.compound .or [
      .not (.comparison (.ofConstants "Subject" .contains "offer")),
      .not (.compound .or [])]),
    .compound .and [
      .comparison (.ofConstants "Read" .equal "No"),
      .comparison { Comparison.ofConstants "Date" .less "3 days" with date := some ⟨3, .day⟩ }],
    .comparison (.ofConstants "Date" .equal "today")])

/-- Every answer is no, the date lies before the last three days, and nothing else holds. -/
def unreadBefore : Valuation := fun field relation value =>
  match relation, value with
  | .equal, "No" | .notEqual, "Yes" => true
  | .less, "3 days" => field = "Date"
  | _, _ => false

theorem holds_lower_noneOfNone :
    (noneOfNone.lower { policy := .raise }).result = .ok noneOfNonePredicate ∧
      unreadBefore.AgreesOnSpellings ∧
      noneOfNonePredicate.NegatesOne ∧
      noneOfNonePredicate.holds unreadBefore = noneOfNone.holds unreadBefore :=
  have agrees : unreadBefore.AgreesOnSpellings := ⟨fun _ => rfl, fun _ => rfl, rfl⟩
  have means := holds_lower .raise noneOfNone noneOfNonePredicate rfl
  ⟨rfl, agrees, means.1, means.2 unreadBefore agrees⟩

end Group

end SmartFolder
