import SmartFolder.Failure
import SmartFolder.Notice

/-!
# Reports

The outcome of work that gives notices on its way and may fail. A failure ends the work and keeps
the notices given before it.
-/

namespace SmartFolder

structure Report (α : Type) where
  notices : List Notice
  result : Except Failure α

namespace Report

variable {α β : Type}

def done (a : α) : Report α := ⟨[], .ok a⟩

def failed (f : Failure) : Report α := ⟨[], .error f⟩

def noticed (n : Notice) (a : α) : Report α := ⟨[n], .ok a⟩

/-- Goes on with the result, if there is one. -/
def andThen (r : Report α) (next : α → Report β) : Report β :=
  match r.result with
  | .error f => ⟨r.notices, .error f⟩
  | .ok a => ⟨r.notices ++ (next a).notices, (next a).result⟩

instance : Monad Report where
  pure := done
  bind := andThen

@[simp] theorem pure_eq (a : α) : (pure a : Report α) = done a := rfl

@[simp] theorem bind_eq (r : Report α) (next : α → Report β) : r >>= next = r.andThen next := rfl

@[simp] theorem done_andThen (a : α) (next : α → Report β) : (done a).andThen next = next a := by
  simp [done, andThen]

theorem result_andThen_eq_ok_iff {r : Report α} {next : α → Report β} {b : β} :
    (r.andThen next).result = .ok b ↔ ∃ a, r.result = .ok a ∧ (next a).result = .ok b := by
  obtain ⟨ns, result⟩ := r
  cases result <;> simp [andThen]

theorem notices_andThen {r : Report α} {a : α} (h : r.result = .ok a) (next : α → Report β) :
    (r.andThen next).notices = r.notices ++ (next a).notices := by
  simp [andThen, h]

theorem result_andThen_of_ok {r : Report α} {a : α} (done : r.result = .ok a)
    (next : α → Report β) : (r.andThen next).result = (next a).result := by
  simp [andThen, done]

theorem andThen_andThen {γ : Type} (r : Report α) (next : α → Report β) (last : β → Report γ) :
    (r.andThen next).andThen last = r.andThen fun a => (next a).andThen last := by
  obtain ⟨ns, result⟩ := r
  cases result with
  | error f => simp [andThen]
  | ok a => cases h : (next a).result <;> simp [andThen, h]

end Report

end SmartFolder
