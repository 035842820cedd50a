import SmartFolder.Journal
import SmartFolder.Proofs.LoweringFailure

/-!
# What lowering reports

Lowering visits the clauses of a filter in their order and stops at the first that fails. A clause
contributes a notice for an operator without a relation, then one for a malformed date value where
that is no failure. A journal gains the contributions of the clauses visited and nothing else
(`Group.lower_reports`).
-/

namespace SmartFolder

/-! ### Up to the first failure -/

namespace Clause

theorem notices_lowerEach_append {o : Lowering} {before : List Clause}
    (lowered : ∀ c ∈ before, (c.lower o).failure? = none) (cs : List Clause) :
    (lowerEach o (before ++ cs)).notices =
      before.flatMap (fun c => (c.lower o).notices) ++ (lowerEach o cs).notices := by
  induction before with
  | nil => rfl
  | cons c before ih =>
    obtain ⟨p, first⟩ := Report.failure?_eq_none_iff.mp (lowered c List.mem_cons_self)
    rw [List.cons_append, lowerEach, Report.notices_andThen first,
      ih fun d member => lowered d (List.mem_cons_of_mem c member), List.flatMap_cons,
      List.append_assoc]

theorem notices_lowerEach_cons {o : Lowering} {c : Clause} {f : Failure}
    (failed : (c.lower o).failure? = some f) (cs : List Clause) :
    (lowerEach o (c :: cs)).notices = (c.lower o).notices :=
  Report.notices_andThen_of_failure failed _

end Clause

/-! ### Contributions -/

theorem flatMap_if {α β : Type} (p : α → Prop) [DecidablePred p] (h : α → β) (as : List α) :
    (as.flatMap fun a => if p a then [h a] else []) = (as.filter p).map h := by
  induction as with
  | nil => rfl
  | cons a as ih => by_cases holds : p a <;> simp [holds, ih]

instance (value : String) (f : Failure) : Decidable (RelativeDate.Fails value f) :=
  decidable_of_iff (RelativeDate.decode value = .error f) RelativeDate.decode_eq_error_iff

namespace Clause

/-- The clause is about the date, and its value ends in a unit word without a count. The keywords
for dates are no such values. -/
def Malformed (c : Clause) : Prop :=
  c.field = "Date" ∧ RelativeDate.Fails c.value (.malformedValue c.value)

instance (c : Clause) : Decidable c.Malformed :=
  inferInstanceAs (Decidable (c.field = "Date" ∧ RelativeDate.Fails c.value _))

theorem malformed_iff {c : Clause} :
    c.Malformed ↔ c.field = "Date" ∧
      RelativeDate.decode c.value = .error (.malformedValue c.value) := by
  rw [Malformed, RelativeDate.decode_eq_error_iff]

theorem fails_malformedValue_iff {c : Clause} {value : String} :
    c.Fails .raise (.malformedValue value) ↔ c.Malformed ∧ value = c.value := by
  constructor
  · rintro ⟨date, unreadable, -⟩
    cases unreadable with
    | malformed notKeyword ends uncounted =>
      exact ⟨⟨date, .malformed notKeyword ends uncounted⟩, rfl⟩
  · rintro ⟨⟨date, unreadable⟩, rfl⟩
    exact ⟨date, unreadable, nofun⟩

theorem malformed_iff_fails {c : Clause} :
    c.Malformed ↔ ∃ value, c.Fails .raise (.malformedValue value) := by
  simp only [fails_malformedValue_iff, exists_and_left, exists_eq, and_true]

/-- The notices that a clause contributes. -/
def contribution (o : Lowering) (c : Clause) : List Notice :=
  (if c.operator ∈ o.unmapped then [.noRelation c.operator.label] else []) ++
    (if c.Malformed ∧ o.policy = .fallback then [.malformedValue c.field c.value] else [])

end Clause

namespace Lowering

theorem notices_relation (o : Lowering) (op : Operator) :
    (o.relation op).notices = if op ∈ o.unmapped then [.noRelation op.label] else [] := by
  by_cases unmapped : op ∈ o.unmapped <;>
    simp [relation, relationOr, Option.filter, unmapped, Report.done, Report.noticed]

theorem notices_date (o : Lowering) (c : Clause) :
    (o.date c).notices =
      if c.Malformed ∧ o.policy = .fallback then [.malformedValue c.field c.value] else [] := by
  simp only [date, Clause.malformed_iff]
  by_cases field : c.field = "Date"
  · rw [if_pos field]
    cases read : RelativeDate.decode c.value with
    | ok d => simp [Report.done]
    | error f =>
      cases RelativeDate.decode_eq_error_iff.mp read with
      | malformed => cases o.policy <;> simp [Report.failed, Report.noticed, field]
      | oversized => simp [Report.failed]
  · simp [field, Report.done]

end Lowering

theorem Clause.notices_lower (o : Lowering) (c : Clause) :
    (c.lower o).notices = c.contribution o := by
  obtain ⟨r, related⟩ := Report.failure?_eq_none_iff.mp (Lowering.failure?_relation o c.operator)
  have rest : (do let d ← o.date c; return c.predicate (c.comparison r d) :
      Report Predicate).notices = (o.date c).notices := Report.notices_andThen_done _ _
  rw [lower, Report.bind_eq, Report.notices_andThen related, rest, Lowering.notices_relation,
    Lowering.notices_date]
  rfl

namespace Group

theorem notices_lower_of_ok {o : Lowering} {g : Group} {p : Predicate}
    (lowered : (g.lower o).result = .ok p) :
    (g.lower o).notices = g.clauses.flatMap (·.contribution o) := by
  have each := lower_eq_ok_iff.mp ⟨p, lowered⟩
  have whole := Clause.notices_lowerEach_append
    (fun c member => Clause.failure?_lower_eq_none_iff.mpr (each c member)) []
  rw [List.append_nil] at whole
  rw [lower, Filter.notices_lower]
  refine whole.trans ?_
  simp [Clause.notices_lower, Clause.lowerEach, Report.done]

/-- Where every operator has a relation, the only notices are on malformed values. -/
theorem notices_lower_of_ok_malformed {policy : MalformedPolicy} {g : Group} {p : Predicate}
    (lowered : (g.lower { policy }).result = .ok p) :
    (g.lower { policy }).notices =
      if policy = .fallback then
        (g.clauses.filter (·.Malformed)).map fun c => .malformedValue c.field c.value
      else [] := by
  rw [notices_lower_of_ok lowered]
  cases policy with
  | raise => simp [Clause.contribution]
  | fallback => simp [Clause.contribution, flatMap_if]

theorem notices_lower_of_fails {o : Lowering} {g : Group} {before after : List Clause} {c : Clause}
    {f : Failure} (clauses : g.clauses = before ++ c :: after)
    (earlier : ∀ d ∈ before, ∀ e, ¬ d.Fails o.policy e) (fails : c.Fails o.policy f) :
    (g.lower o).notices = (before ++ [c]).flatMap (·.contribution o) := by
  have lowered : ∀ d ∈ before, (d.lower o).failure? = none := fun d member =>
    Clause.failure?_lower_eq_none_iff.mpr (earlier d member)
  have failed : (c.lower o).failure? = some f := Clause.failure?_lower_eq_some_iff.mpr fails
  calc (g.lower o).notices
      = (Clause.lowerEach o (before ++ c :: after)).notices := by
        rw [← clauses]; exact Filter.notices_lower o g.filter
    _ = before.flatMap (fun d => (d.lower o).notices) ++ (c.lower o).notices := by
        rw [Clause.notices_lowerEach_append lowered, Clause.notices_lowerEach_cons failed]
    _ = (before ++ [c]).flatMap (·.contribution o) := by
        simp [Clause.notices_lower]

/-- Lowering fails if and only if a clause does, with the failure of the first that does. A journal
then gains the contributions of the clauses up to that one; on success it gains those of all
clauses, and the comparisons of the result are those of the clauses. -/
theorem lower_reports (o : Lowering) (outlets : Outlets) (j : Journal) (g : Group) :
    let entries := (j.add outlets (g.lower o).notices).entries
    ((∃ f, (g.lower o).result = .error f) ↔ ∃ c ∈ g.clauses, ∃ f, c.Fails o.policy f) ∧
    (∀ before c after f, g.clauses = before ++ c :: after →
      (∀ d ∈ before, ∀ e, ¬ d.Fails o.policy e) → c.Fails o.policy f →
        (g.lower o).result = .error f ∧
        entries = j.entries ++ ((before ++ [c]).flatMap (·.contribution o)).map Notice.entry) ∧
    ∀ p, (g.lower o).result = .ok p →
      entries = j.entries ++ (g.clauses.flatMap (·.contribution o)).map Notice.entry ∧
      List.Forall₂ (fun c r => (c.lower o).result = .ok (c.predicate r))
        g.clauses p.comparisons := by
  intro entries
  have gained : entries = j.entries ++ (g.lower o).notices.map Notice.entry :=
    Journal.entries_add outlets j _
  refine ⟨?_, ?_, ?_⟩
  · have success := lower_eq_ok_iff (o := o) (g := g)
    cases lowered : (g.lower o).result with
    | ok p =>
      have each := success.mp ⟨p, lowered⟩
      refine iff_of_false (by simp) ?_
      rintro ⟨c, member, f, fails⟩
      exact each c member f fails
    | error f =>
      obtain ⟨before, c, after, clauses, -, fails⟩ := lower_eq_error_iff.mp lowered
      exact iff_of_true ⟨f, rfl⟩ ⟨c, by simp [clauses], f, fails⟩
  · intro before c after f clauses earlier fails
    refine ⟨lower_eq_error_iff.mpr ⟨before, c, after, clauses, earlier, fails⟩, ?_⟩
    rw [gained, notices_lower_of_fails clauses earlier fails]
  · intro p lowered
    refine ⟨?_, Filter.comparisons_of_lower lowered⟩
    rw [gained, notices_lower_of_ok lowered]

/-- Two clauses with malformed dates, one with a date, and one about a text. -/
def mixed : Group where
  condition := .any
  members := [
    .clause ⟨"Text", .contains, "x days"⟩,
    .group .none [.clause ⟨"Date", .contains, "x days"⟩, .clause ⟨"Date", .before, "3 days"⟩],
    .clause ⟨"Date", .before, " weeks"⟩]

theorem lower_reports_mixed :
    let o : Lowering := { policy := .raise, unmapped := [.contains] }
    let j : Journal := { entries := [⟨"INFO", "opened", []⟩] }
    (mixed.lower o).result = .error (.malformedValue "x days") ∧
      (j.add {} (mixed.lower o).notices).entries = j.entries ++
        [Notice.noRelation "CriteriaOperator.CONTAINS",
          Notice.noRelation "CriteriaOperator.CONTAINS"].map Notice.entry :=
  (lower_reports { policy := .raise, unmapped := [.contains] } {} _ mixed).2.1
    [⟨"Text", .contains, "x days"⟩] ⟨"Date", .contains, "x days"⟩
    [⟨"Date", .before, "3 days"⟩, ⟨"Date", .before, " weeks"⟩] _ rfl (by simp [Clause.Fails])
    ⟨rfl, by decide, nofun⟩

end Group

end SmartFolder
