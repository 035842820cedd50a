import SmartFolder.Proofs.Lowering

/-!
# Lowering one clause after the other

But for its result, lowering a filter is lowering its clauses from left to right up to the first
that fails (`Filter.forget_lower`). How lowering fails and what it reports is found on the list of
the clauses from there.
-/

namespace SmartFolder

namespace Report

variable {α β : Type}

def failure? (r : Report α) : Option Failure :=
  match r.result with
  | .ok _ => none
  | .error f => some f

theorem failure?_eq_some_iff {r : Report α} {f : Failure} :
    r.failure? = some f ↔ r.result = .error f := by
  unfold failure?
  cases r.result <;> simp

theorem failure?_eq_none_iff {r : Report α} : r.failure? = none ↔ ∃ a, r.result = .ok a := by
  unfold failure?
  cases r.result <;> simp

/-- Work that goes on fails as its first part does, or else as the rest does. -/
theorem failure?_andThen {r : Report α} {next : α → Report β} {later : Option Failure}
    (same : ∀ a, (next a).failure? = later) : (r.andThen next).failure? = r.failure?.or later := by
  unfold andThen failure? at *
  cases r.result with
  | ok a => simpa using same a
  | error f => rfl

theorem failure?_andThen_done (r : Report α) (g : α → β) :
    (r.andThen fun a => done (g a)).failure? = r.failure? := by
  have last (a : α) : (done (g a)).failure? = none := rfl
  rw [failure?_andThen last, Option.or_none]

/-- The notices and the failure of a report. -/
def forget (r : Report α) : Report Unit := r.andThen fun _ => done ()

theorem failure?_forget (r : Report α) : r.forget.failure? = r.failure? :=
  failure?_andThen_done r _

theorem notices_forget (r : Report α) : r.forget.notices = r.notices := by
  obtain ⟨ns, result⟩ := r
  cases result <;> simp [forget, andThen, done]

theorem forget_andThen {r : Report α} {next : α → Report β} {rest : Report Unit}
    (same : ∀ a, (next a).forget = rest) :
    (r.andThen next).forget = r.forget.andThen fun _ => rest := by
  unfold forget at *
  simp only [andThen_andThen, done_andThen, same]

theorem forget_andThen_done (r : Report α) (g : α → β) :
    (r.andThen fun a => done (g a)).forget = r.forget := by
  unfold forget
  simp only [andThen_andThen, done_andThen]

theorem notices_andThen_done (r : Report α) (g : α → β) :
    (r.andThen fun a => done (g a)).notices = r.notices := by
  rw [← notices_forget, forget_andThen_done, notices_forget]

theorem notices_andThen_of_failure {r : Report α} {f : Failure} (failed : r.failure? = some f)
    (next : α → Report β) : (r.andThen next).notices = r.notices := by
  simp [andThen, failure?_eq_some_iff.mp failed]

end Report

/-! ### Filters as lists of clauses -/

/-- Lowers clauses for their notices, up to the first that fails. -/
def Clause.lowerEach (o : Lowering) : List Clause → Report Unit
  | [] => .done ()
  | c :: cs => (c.lower o).andThen fun _ => lowerEach o cs

namespace Clause

theorem lowerEach_append (o : Lowering) (cs ds : List Clause) :
    lowerEach o (cs ++ ds) = (lowerEach o cs).andThen fun _ => lowerEach o ds := by
  induction cs with
  | nil => simp [lowerEach]
  | cons c cs ih => rw [List.cons_append, lowerEach, lowerEach, ih, Report.andThen_andThen]

end Clause

namespace Filter

theorem forget_lowerAll (o : Lowering) {fs : List Filter}
    (each : ∀ f ∈ fs, (f.lower o).forget = Clause.lowerEach o f.clauses) :
    (lowerAll o fs).forget = Clause.lowerEach o (clausesOf fs) := by
  induction fs with
  | nil => rfl
  | cons f fs ih =>
    have first := each f List.mem_cons_self
    have rest := ih fun g member => each g (List.mem_cons_of_mem f member)
    have later (p : Predicate) : (do let ps ← lowerAll o fs; return p :: ps :
        Report (List Predicate)).forget = (lowerAll o fs).forget := Report.forget_andThen_done _ _
    rw [lowerAll, Report.bind_eq, Report.forget_andThen later, first, rest, clausesOf,
      Clause.lowerEach_append]

/-- But for its result, lowering a filter is lowering its clauses from left to right. -/
theorem forget_lower (o : Lowering) (f : Filter) :
    (f.lower o).forget = Clause.lowerEach o f.clauses := by
  induction f with
  | clause c => rfl
  | group condition members ih =>
    rw [lower, Report.bind_eq, clauses, ← forget_lowerAll o ih]
    exact Report.forget_andThen_done _ _

theorem notices_lower (o : Lowering) (f : Filter) :
    (f.lower o).notices = (Clause.lowerEach o f.clauses).notices := by
  rw [← forget_lower, Report.notices_forget]

end Filter

end SmartFolder
