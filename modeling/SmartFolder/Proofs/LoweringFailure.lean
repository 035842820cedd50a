import SmartFolder.Proofs.LoweringOrder
import SmartFolder.Proofs.RelativeDate

/-!
# When lowering gives up

Lowering fails at the first clause whose date value cannot be read, and at nothing else
(`Group.lower_failure`). Under `fallback` only a count that is too long is left to fail at.
-/

namespace SmartFolder

/-! ### Clauses -/

/-- The clause is about the date and its value cannot be read. Under `fallback` a value without a
count is compared as it stands, and only a count that is too long is a failure. -/
def Clause.Fails (policy : MalformedPolicy) (c : Clause) (f : Failure) : Prop :=
  c.field = "Date" ∧ RelativeDate.Fails c.value f ∧
    (policy = .fallback → ∃ digits, f = .oversizedCount digits)

namespace Lowering

theorem date_eq_error_iff {o : Lowering} {c : Clause} {f : Failure} :
    (o.date c).result = .error f ↔ c.Fails o.policy f := by
  unfold date Clause.Fails
  rw [← RelativeDate.decode_eq_error_iff]
  by_cases field : c.field = "Date"
  · rw [if_pos field]
    cases read : RelativeDate.decode c.value with
    | ok d => simp [Report.done]
    | error e =>
      cases RelativeDate.decode_eq_error_iff.mp read with
      | malformed =>
        cases o.policy with
        | raise => simp [Report.failed, field]
        | fallback =>
          refine iff_of_false (by simp [Report.noticed]) ?_
          rintro ⟨-, same, oversized⟩
          obtain ⟨digits, other⟩ := oversized rfl
          rw [other] at same
          cases same
      | oversized =>
        simp only [Report.failed, field, true_and, Except.error.injEq]
        constructor
        · rintro rfl
          exact ⟨rfl, fun _ => ⟨_, rfl⟩⟩
        · exact fun fails => fails.1
  · simp [field, Report.done]

theorem failure?_relation (o : Lowering) (op : Operator) : (o.relation op).failure? = none := by
  unfold relation relationOr
  split <;> rfl

end Lowering

namespace Clause

theorem failure?_lower (o : Lowering) (c : Clause) :
    (c.lower o).failure? = (o.date c).failure? := by
  have rest (r : Relation) : (do let d ← o.date c; return c.predicate (c.comparison r d) :
      Report Predicate).failure? = (o.date c).failure? := Report.failure?_andThen_done _ _
  rw [lower, Report.bind_eq, Report.failure?_andThen rest, Lowering.failure?_relation,
    Option.none_or]

theorem failure?_lowerEach (o : Lowering) (cs : List Clause) :
    (lowerEach o cs).failure? = cs.findSome? fun c => (c.lower o).failure? := by
  induction cs with
  | nil => rfl
  | cons c cs ih =>
    rw [lowerEach, Report.failure?_andThen fun _ => ih, List.findSome?_cons]
    cases (c.lower o).failure? <;> rfl

theorem failure?_lower_eq_some_iff {o : Lowering} {c : Clause} {f : Failure} :
    (c.lower o).failure? = some f ↔ c.Fails o.policy f := by
  rw [failure?_lower, Report.failure?_eq_some_iff, Lowering.date_eq_error_iff]

theorem failure?_lower_eq_none_iff {o : Lowering} {c : Clause} :
    (c.lower o).failure? = none ↔ ∀ f, ¬ c.Fails o.policy f := by
  simp only [Option.eq_none_iff_forall_ne_some, ne_eq, failure?_lower_eq_some_iff]

theorem lower_eq_error_iff {o : Lowering} {c : Clause} {f : Failure} :
    (c.lower o).result = .error f ↔ c.Fails o.policy f := by
  rw [← Report.failure?_eq_some_iff, failure?_lower_eq_some_iff]

theorem fails_fallback_iff {c : Clause} {f : Failure} :
    c.Fails .fallback f ↔
      c.field = "Date" ∧ ∃ digits unit, RelativeDate.HasCount c.value digits unit ∧
        RelativeDate.maxDigits < digits.length ∧ f = .oversizedCount digits.length := by
  constructor
  · rintro ⟨date, unreadable, oversized⟩
    obtain ⟨n, rfl⟩ := oversized rfl
    cases unreadable with
    | oversized count long => exact ⟨date, _, _, count, long, rfl⟩
  · rintro ⟨date, digits, unit, count, long, rfl⟩
    exact ⟨date, .oversized count long, fun _ => ⟨_, rfl⟩⟩

end Clause

/-! ### Groups -/

/-- A filter fails as the first of its clauses that fails. -/
theorem Filter.failure?_lower (o : Lowering) (f : Filter) :
    (f.lower o).failure? = f.clauses.findSome? fun c => (c.lower o).failure? := by
  rw [← Report.failure?_forget, forget_lower, Clause.failure?_lowerEach]

namespace Group

theorem lower_eq_error_iff {o : Lowering} {g : Group} {f : Failure} :
    (g.lower o).result = .error f ↔
      ∃ before c after, g.clauses = before ++ c :: after ∧
        (∀ d ∈ before, ∀ e, ¬ d.Fails o.policy e) ∧ c.Fails o.policy f := by
  rw [← Report.failure?_eq_some_iff, lower, Filter.failure?_lower, List.findSome?_eq_some_iff]
  simp only [Clause.failure?_lower_eq_some_iff, Clause.failure?_lower_eq_none_iff]
  constructor
  · rintro ⟨before, c, after, clauses, fails, earlier⟩
    exact ⟨before, c, after, clauses, earlier, fails⟩
  · rintro ⟨before, c, after, clauses, earlier, fails⟩
    exact ⟨before, c, after, clauses, fails, earlier⟩

theorem lower_eq_ok_iff {o : Lowering} {g : Group} :
    (∃ p, (g.lower o).result = .ok p) ↔ ∀ c ∈ g.clauses, ∀ f, ¬ c.Fails o.policy f := by
  rw [← Report.failure?_eq_none_iff, lower, Filter.failure?_lower, List.findSome?_eq_none_iff]
  simp only [Clause.failure?_lower_eq_none_iff]
  rfl

/-- Under `fallback` lowering succeeds unless a count is too long. -/
theorem lower_fallback_eq_ok_iff {o : Lowering} {g : Group} :
    (∃ p, (g.lower { o with policy := .fallback }).result = .ok p) ↔
      ∀ c ∈ g.clauses, c.field = "Date" → ∀ digits unit,
        RelativeDate.HasCount c.value digits unit → digits.length ≤ RelativeDate.maxDigits := by
  rw [lower_eq_ok_iff]
  simp only [Clause.fails_fallback_iff]
  refine forall₂_congr fun c _ => ?_
  constructor
  · intro readable date digits unit count
    by_contra long
    exact readable _ ⟨date, digits, unit, count, Nat.lt_of_not_le long, rfl⟩
  · rintro short f ⟨date, digits, unit, count, long, -⟩
    exact absurd (short date digits unit count) (Nat.not_le_of_lt long)

end Group

/-- What reading a date value, lowering a clause and lowering a group fail with, and exactly when: a
group at the first clause that fails, and under `fallback` only at a count that is too long. -/
theorem Group.lower_failure (o : Lowering) :
    (∀ value f, RelativeDate.decode value = .error f ↔ RelativeDate.Fails value f) ∧
    (∀ (c : Clause) f, (c.lower o).result = .error f ↔ c.Fails o.policy f) ∧
    (∀ (g : Group) f, (g.lower o).result = .error f ↔
      ∃ before c after, g.clauses = before ++ c :: after ∧
        (∀ d ∈ before, ∀ e, ¬ d.Fails o.policy e) ∧ c.Fails o.policy f) ∧
    ∀ g : Group, (∃ p, (g.lower { o with policy := .fallback }).result = .ok p) ↔
      ∀ c ∈ g.clauses, c.field = "Date" → ∀ digits unit,
        RelativeDate.HasCount c.value digits unit → digits.length ≤ RelativeDate.maxDigits :=
  ⟨fun _ _ => RelativeDate.decode_eq_error_iff, fun _ _ => Clause.lower_eq_error_iff,
    fun _ _ => Group.lower_eq_error_iff, fun _ => Group.lower_fallback_eq_ok_iff⟩

def RelativeDate.nines (n : Nat) : String :=
  String.ofList (List.replicate n '9' ++ " days".toList)

theorem RelativeDate.hasCount_nines {n : Nat} (nonzero : n ≠ 0) :
    HasCount (nines n) (List.replicate n '9') .day := by
  refine ⟨[], [' '], "days".toList, ?_, by decide, by simp, List.forall_mem_singleton.mpr rfl,
    by simpa using nonzero, ?_⟩
  · simp [nines]
  · intro c member
    rw [List.eq_of_mem_replicate member]
    decide

/-- Under `fallback` too there are values that lowering fails at. -/
theorem Group.lower_nines :
    ((Group.mk .all [.clause ⟨"Date", .before, RelativeDate.nines 4301⟩]).lower
      { policy := .fallback }).result = .error (.oversizedCount 4301) := by
  have long : RelativeDate.maxDigits < (List.replicate 4301 '9').length := by
    rw [List.length_replicate]
    decide
  have unreadable := RelativeDate.Fails.oversized (RelativeDate.hasCount_nines (by decide)) long
  rw [List.length_replicate] at unreadable
  exact Group.lower_eq_error_iff.mpr
    ⟨[], _, [], rfl, by simp, rfl, unreadable, fun _ => ⟨4301, rfl⟩⟩

end SmartFolder
