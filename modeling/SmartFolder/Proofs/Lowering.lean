import Mathlib.Data.List.Forall2
import SmartFolder.Lowering
import SmartFolder.Proofs.Induction

/-!
# What lowering gives

When lowering succeeds, and with what: `Clause.lower_eq_ok_iff` for a clause, `lower_group_eq_ok_iff`
and `lowerAll_eq_ok_iff` for groups. Lowered members stand in the order of the members, and so do
the comparisons of the clauses (`Filter.comparisons_of_lower`).
-/

namespace SmartFolder

namespace Lowering

/-- A date value that is no relative date is compared as it stands: a keyword, an absolute date,
or under `fallback` a malformed one. Fields other than the date have no relative dates. -/
theorem date_eq_ok_iff {o : Lowering} {c : Clause} {d : Option RelativeDate} :
    (o.date c).result = .ok d ↔
      (c.field ≠ "Date" ∧ d = none) ∨
      (c.field = "Date" ∧ RelativeDate.decode c.value = .ok d) ∨
      (c.field = "Date" ∧ d = none ∧ o.policy = .fallback ∧
        ∃ value, RelativeDate.decode c.value = .error (.malformedValue value)) := by
  unfold date
  by_cases field : c.field = "Date"
  · rw [if_pos field]
    cases read : RelativeDate.decode c.value with
    | ok found => simp [Report.done, field]
    | error f =>
      cases f <;> cases o.policy <;>
        simp [Report.failed, Report.noticed, field, eq_comm]
  · simp [field, Report.done, eq_comm]

theorem relation_eq_done (policy : MalformedPolicy) (op : Operator) :
    ({ policy } : Lowering).relation op = .done op.relation := rfl

end Lowering

theorem Clause.lower_eq_ok_iff {policy : MalformedPolicy} {c : Clause} {p : Predicate} :
    (c.lower { policy }).result = .ok p ↔
      ∃ d, (Lowering.date { policy } c).result = .ok d ∧
        p = c.predicate (c.comparison c.operator.relation d) := by
  simp only [Clause.lower, Lowering.relation_eq_done, Report.bind_eq, Report.pure_eq,
    Report.done_andThen, Report.result_andThen_eq_ok_iff]
  simp only [Report.done, Except.ok.injEq, eq_comm]

namespace Filter

theorem lower_group_eq_ok_iff {o : Lowering} {condition : Condition} {members : List Filter}
    {p : Predicate} :
    ((Filter.group condition members).lower o).result = .ok p ↔
      ∃ ps, (lowerAll o members).result = .ok ps ∧ p = condition.join ps := by
  simp only [lower, Report.bind_eq, Report.pure_eq, Report.result_andThen_eq_ok_iff]
  simp only [Report.done, Except.ok.injEq, eq_comm]

theorem lowerAll_eq_ok_iff {o : Lowering} {fs : List Filter} {ps : List Predicate} :
    (lowerAll o fs).result = .ok ps ↔
      List.Forall₂ (fun f p => (f.lower o).result = .ok p) fs ps := by
  induction fs generalizing ps with
  | nil => simp [lowerAll, Report.done, eq_comm]
  | cons f fs ih =>
    simp only [lowerAll, Report.bind_eq, Report.pure_eq, Report.result_andThen_eq_ok_iff, ih,
      List.forall₂_cons_left_iff]
    constructor
    · rintro ⟨p, first, qs, rest, same⟩
      exact ⟨p, qs, first, rest, by simpa [Report.done] using same.symm⟩
    · rintro ⟨p, qs, first, rest, rfl⟩
      exact ⟨p, first, qs, rest, rfl⟩

/-- What holds of each member and its predicate holds of the members and theirs, one by one. -/
theorem forall₂_of_lowerAll {o : Lowering} {fs : List Filter} {ps : List Predicate}
    {R : Filter → Predicate → Prop} (each : ∀ f ∈ fs, ∀ {p}, (f.lower o).result = .ok p → R f p)
    (lowered : (lowerAll o fs).result = .ok ps) : List.Forall₂ R fs ps := by
  have both := (List.forall₂_and_left fs ps).mpr
    ⟨fun f member p => each f member (p := p), lowerAll_eq_ok_iff.mp lowered⟩
  exact both.imp fun f p ⟨holds, lowered⟩ => holds p lowered

theorem exists_of_mem_lowerAll {o : Lowering} {fs : List Filter} {ps : List Predicate}
    {p : Predicate} (lowered : (lowerAll o fs).result = .ok ps) (member : p ∈ ps) :
    ∃ f ∈ fs, (f.lower o).result = .ok p := by
  rw [lowerAll_eq_ok_iff] at lowered
  induction lowered with
  | nil => cases member
  | cons first rest ih =>
    rcases List.mem_cons.mp member with rfl | member
    · exact ⟨_, List.mem_cons_self, first⟩
    · obtain ⟨f, listed, found⟩ := ih member
      exact ⟨f, List.mem_cons_of_mem _ listed, found⟩

end Filter

/-! ### Comparisons -/

theorem Clause.comparisons_predicate (c : Clause) (r : Comparison) :
    (c.predicate r).comparisons = [r] := by
  unfold predicate
  split <;> rfl

theorem Clause.predicate_inj {c : Clause} {r r' : Comparison} :
    c.predicate r = c.predicate r' ↔ r = r' := by
  unfold predicate
  split <;> simp [Predicate.not]

theorem Clause.exists_comparison_of_lower {o : Lowering} {c : Clause} {p : Predicate}
    (h : (c.lower o).result = .ok p) : ∃ r, p = c.predicate r := by
  simp only [lower, Report.bind_eq, Report.pure_eq, Report.result_andThen_eq_ok_iff] at h
  obtain ⟨relation, -, d, -, same⟩ := h
  exact ⟨c.comparison relation d, by simpa [Report.done] using same.symm⟩

theorem Condition.comparisons_join (condition : Condition) (ps : List Predicate) :
    (condition.join ps).comparisons = Predicate.comparisonsOf ps := by
  cases condition <;>
    simp [join, Predicate.not, Predicate.comparisons, Predicate.comparisonsOf]

/-- The comparisons of a lowered filter are those of its clauses. -/
theorem Filter.comparisons_of_lower {o : Lowering} {f : Filter} {p : Predicate}
    (h : (f.lower o).result = .ok p) :
    List.Forall₂ (fun c r => (c.lower o).result = .ok (c.predicate r)) f.clauses p.comparisons := by
  induction f generalizing p with
  | clause c =>
    obtain ⟨r, rfl⟩ := Clause.exists_comparison_of_lower h
    rw [Clause.comparisons_predicate]
    exact .cons h .nil
  | group condition members ih =>
    obtain ⟨ps, lowered, rfl⟩ := lower_group_eq_ok_iff.mp h
    rw [Condition.comparisons_join, Predicate.comparisonsOf_eq_flatMap, clauses,
      clausesOf_eq_flatMap]
    exact List.rel_flatMap (forall₂_of_lowerAll ih lowered) fun _ _ each => each

end SmartFolder
