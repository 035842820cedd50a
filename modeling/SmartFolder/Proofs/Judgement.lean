import SmartFolder.Document.Checked

/-!
# What a check decides

A check judges a value: it accepts what stands for something and otherwise lists each fault at its
place, in the order in which the parts of a document are declared (`Checked.Judges`). Checks of
parts are put together without opening them: below a step of the path, in a row, as a member of an
object.
-/

namespace SmartFolder

/-! ### The order of faults -/

namespace PathStep

/-- The members of clauses and groups in the order in which they are declared. -/
def declared : List String :=
  ["kind", "field", "operator_type", "value", "condition", "criteria_tree"]

def Before : PathStep → PathStep → Prop
  | .key a, .key b => declared.idxOf a < declared.idxOf b
  | .index i, .index j => i < j
  | _, _ => False

instance : DecidableRel Before
  | .key a, .key b => inferInstanceAs (Decidable (declared.idxOf a < declared.idxOf b))
  | .index i, .index j => inferInstanceAs (Decidable (i < j))
  | .key _, .index _ | .index _, .key _ => inferInstanceAs (Decidable False)

theorem not_before_self (s : PathStep) : ¬ Before s s := by
  cases s <;> exact Nat.lt_irrefl _

end PathStep

namespace Fault

def below (step : PathStep) (f : Fault) : Fault := { f with path := step :: f.path }

/-- The place of one fault comes before the place of the other. -/
def Before (f g : Fault) : Prop := List.Lex PathStep.Before f.path g.path

theorem before_below {f g : Fault} (step : PathStep) (before : f.Before g) :
    (f.below step).Before (g.below step) :=
  .cons before

theorem exists_below_iff {p : Prop} {cause : Cause} {step : PathStep} {f : Fault} :
    (∃ g : Fault, (p ∧ ⟨[], cause⟩ = g) ∧ g.below step = f) ↔ p ∧ ⟨[step], cause⟩ = f := by
  constructor
  · rintro ⟨g, ⟨holds, rfl⟩, rfl⟩
    exact ⟨holds, rfl⟩
  · rintro ⟨holds, rfl⟩
    exact ⟨_, ⟨holds, rfl⟩, rfl⟩

theorem before_of_steps {f g : Fault} {s t : PathStep} {path path' : List PathStep}
    (first : f.path = s :: path) (second : g.path = t :: path') (before : s.Before t) :
    f.Before g := by
  rw [Before, first, second]
  exact .rel before

theorem path_ne_of_before {f g : Fault} (before : f.Before g) : f.path ≠ g.path := by
  intro same
  rw [Before, same] at before
  exact List.lex_irrefl PathStep.not_before_self _ before

end Fault

/-! ### Judging -/

namespace Checked

variable {α β : Type}

/-- The check accepts what stands for `a`, as `a`, and nothing else; of the rest it lists every
fault once, each before those at later places. -/
structure Judges (c : Checked α) (stands : α → Prop) (faulty : Fault → Prop) : Prop where
  ok_iff : ∀ a, c = .ok a ↔ stands a
  mem_faults_iff : ∀ f, f ∈ c.faults ↔ faulty f
  ordered : c.faults.Pairwise Fault.Before
  /-- A refusal names a fault. -/
  ne_nil : c ≠ .error []

theorem Judges.congr {c : Checked α} {stands stands' : α → Prop} {faulty faulty' : Fault → Prop}
    (judges : Judges c stands faulty) (same : ∀ a, stands a ↔ stands' a)
    (same' : ∀ f, faulty f ↔ faulty' f) : Judges c stands' faulty' where
  ok_iff a := (judges.ok_iff a).trans (same a)
  mem_faults_iff f := (judges.mem_faults_iff f).trans (same' f)
  ordered := judges.ordered
  ne_nil := judges.ne_nil

theorem judges_ok (a : α) : Judges (.ok a) (a = ·) fun _ => False where
  ok_iff b := by rw [Except.ok.injEq]
  mem_faults_iff f := by simp [faults]
  ordered := .nil
  ne_nil := nofun

theorem judges_fault (cause : Cause) :
    Judges (fault cause : Checked α) (fun _ => False) (⟨[], cause⟩ = ·) where
  ok_iff a := by simp [fault]
  mem_faults_iff f := by simp [fault, faults, eq_comm]
  ordered := List.pairwise_singleton _ _
  ne_nil := nofun

theorem Judges.below {c : Checked α} {stands : α → Prop} {faulty : Fault → Prop}
    (judges : Judges c stands faulty) (step : PathStep) :
    Judges (c.below step) stands fun f => ∃ g, faulty g ∧ g.below step = f where
  ok_iff a := by
    rw [← judges.ok_iff]
    cases c <;> simp [Checked.below]
  mem_faults_iff f := by
    rw [faults_below, List.mem_map]
    simp only [judges.mem_faults_iff]
    rfl
  ordered := by
    rw [faults_below, List.pairwise_map]
    exact judges.ordered.imp (Fault.before_below step)
  ne_nil := by
    have inner := judges.ne_nil
    cases c <;> simp_all [Checked.below]

theorem Judges.map {c : Checked α} {stands : α → Prop} {faulty : Fault → Prop}
    (judges : Judges c stands faulty) (g : α → β) :
    Judges (c.map g) (fun b => ∃ a, stands a ∧ g a = b) faulty where
  ok_iff b := by
    simp only [← judges.ok_iff]
    cases c <;> simp [Checked.map]
  mem_faults_iff f := by
    rw [← judges.mem_faults_iff]
    cases c <;> rfl
  ordered := by
    have ordered := judges.ordered
    cases c <;> exact ordered
  ne_nil := by
    have inner := judges.ne_nil
    cases c <;> simp_all [Checked.map]

theorem make_apply (g : α → β) (a : Checked α) : (make g).apply a = a.map g := by
  cases a <;> rfl

/-- One more check in a row, whose places all come later. -/
theorem Judges.apply {f : Checked (α → β)} {a : Checked α} {stands : (α → β) → Prop}
    {stands' : α → Prop} {faulty faulty' : Fault → Prop} (first : Judges f stands faulty)
    (second : Judges a stands' faulty') (later : ∀ x y, faulty x → faulty' y → x.Before y) :
    Judges (f.apply a) (fun b => ∃ g x, stands g ∧ stands' x ∧ g x = b)
      fun x => faulty x ∨ faulty' x where
  ok_iff b := by
    rw [apply_eq_ok_iff]
    simp only [first.ok_iff, second.ok_iff]
  mem_faults_iff x := by
    rw [faults_apply, List.mem_append, first.mem_faults_iff, second.mem_faults_iff]
  ordered := by
    rw [faults_apply, List.pairwise_append]
    refine ⟨first.ordered, second.ordered, fun x left y right => ?_⟩
    exact later x y ((first.mem_faults_iff x).mp left) ((second.mem_faults_iff y).mp right)
  ne_nil := by
    have inner := first.ne_nil
    have inner' := second.ne_nil
    cases f <;> cases a <;> simp_all [Checked.apply, faults]

theorem Judges.nodup_paths {c : Checked α} {stands : α → Prop} {faulty : Fault → Prop}
    (judges : Judges c stands faulty) : (c.faults.map Fault.path).Nodup :=
  List.pairwise_map.mpr (judges.ordered.imp Fault.path_ne_of_before)

theorem Judges.exists_ok_iff {c : Checked α} {stands : α → Prop} {faulty : Fault → Prop}
    (judges : Judges c stands faulty) : (∃ a, c = .ok a) ↔ ∀ f, ¬ faulty f := by
  simp only [← judges.mem_faults_iff]
  cases c with
  | ok a => simp [faults]
  | error fs =>
    obtain ⟨f, rest, rfl⟩ := List.exists_cons_of_ne_nil fun empty => judges.ne_nil (empty ▸ rfl)
    exact iff_of_false nofun fun none => none f List.mem_cons_self

end Checked

/-! ### Members of objects -/

namespace Members

variable {α : Type}

/-- The member is written as `a`, or it is absent and `a` is the default. -/
def Gives (ms : Members) (key : String) (written : α → Json) (default a : α) : Prop :=
  ms.lookup key = some (written a) ∨ ms.lookup key = none ∧ default = a

/-- The member is there, but nothing is written like that. -/
def Garbles (ms : Members) (key : String) (written : α → Json) : Prop :=
  ∃ v, ms.lookup key = some v ∧ ∀ a, v ≠ written a

end Members

namespace Checked

variable {α : Type}

theorem judges_optional {check : Json → Checked α} {stands : Json → α → Prop}
    {faulty : Json → Fault → Prop} {ms : Members} {key : String} {default : α}
    (judges : ∀ v, ms.lookup key = some v → Judges (check v) (stands v) (faulty v)) :
    Judges (ms.optional key default check)
      (fun a => (∃ v, ms.lookup key = some v ∧ stands v a) ∨ ms.lookup key = none ∧ default = a)
      fun f => ∃ v, ms.lookup key = some v ∧ ∃ g, faulty v g ∧ g.below (.key key) = f := by
  rw [Members.optional]
  cases found : ms.lookup key with
  | none => exact (judges_ok default).congr (by simp) (by simp)
  | some v => exact ((judges v found).below (.key key)).congr (by simp) (by simp)

/-- A check of a single value, which finds what is written there or one and the same cause. -/
structure Reads (check : Json → Checked α) (written : α → Json) (cause : Cause) : Prop where
  ok_written : ∀ a, check (written a) = .ok a
  fault_garbled : ∀ v, (∀ a, v ≠ written a) → check v = .fault cause

namespace Reads

variable {check : Json → Checked α} {written : α → Json} {cause : Cause}

theorem judges (reads : Reads check written cause) (v : Json) :
    Judges (check v) (v = written ·) fun f => (∀ a, v ≠ written a) ∧ ⟨[], cause⟩ = f := by
  by_cases form : ∃ a, v = written a
  · obtain ⟨a, rfl⟩ := form
    have inj (b : α) : a = b ↔ written a = written b := by
      refine ⟨fun same => same ▸ rfl, fun same => ?_⟩
      have read := reads.ok_written a
      rw [same, reads.ok_written] at read
      exact (Except.ok.inj read).symm
    rw [reads.ok_written]
    exact (judges_ok a).congr inj fun f => iff_of_false id fun h => h.1 a rfl
  · have other : ∀ a, v ≠ written a := not_exists.mp form
    rw [reads.fault_garbled v other]
    exact (judges_fault cause).congr (fun a => iff_of_false id (other a)) fun f => by simp [other]

theorem judges_optional (reads : Reads check written cause) (ms : Members) (key : String)
    (default : α) :
    Judges (ms.optional key default check) (ms.Gives key written default)
      fun f => ms.Garbles key written ∧ ⟨[.key key], cause⟩ = f := by
  refine (Checked.judges_optional fun v _ => reads.judges v).congr (fun a => ?_) fun f => ?_
  · simp [Members.Gives]
  · simp only [Fault.exists_below_iff, Members.Garbles, ← and_assoc, exists_and_right]

theorem judges_required (reads : Reads check written cause) (ms : Members) (key : String) :
    Judges (ms.required key check) (fun a => ms.lookup key = some (written a))
      fun f => ms.lookup key = none ∧ ⟨[.key key], .missing⟩ = f ∨
        ms.Garbles key written ∧ ⟨[.key key], cause⟩ = f := by
  rw [Members.required]
  cases found : ms.lookup key with
  | none =>
    exact ((judges_fault .missing).below (.key key)).congr (by simp)
      (by simp [Members.Garbles, found, Fault.below])
  | some v =>
    refine ((reads.judges v).below (.key key)).congr (by simp) fun f => ?_
    rw [Fault.exists_below_iff]
    simp [Members.Garbles, found]

end Reads

end Checked

namespace Json

open Checked

theorem reads_checkText : Reads checkText .text .notText where
  ok_written _ := rfl
  fault_garbled v other := by
    cases v with
    | text s => exact absurd rfl (other s)
    | _ => rfl

theorem reads_checkNamed {α : Type} [Vocabulary α] :
    Reads checkNamed (fun a : α => .text (Vocabulary.name a)) (.notNamed (Vocabulary.names α)) where
  ok_written := checkNamed_name
  fault_garbled v other := by
    cases v with
    | text s =>
      have unknown : (Vocabulary.named? s : Option α) = none := by
        refine Option.eq_none_iff_forall_ne_some.mpr fun a named => ?_
        exact other a (congrArg Json.text (Vocabulary.named?_eq_some_iff.mp named).symm)
      rw [checkNamed, checkOneOf, unknown]
    | _ => rfl

theorem reads_checkLiteral (s : String) :
    Reads (checkLiteral s) (fun _ => .text s) (.notLiteral [s]) where
  ok_written _ := checkLiteral_self s
  fault_garbled _ other := if_neg (other ())

end Json

end SmartFolder
