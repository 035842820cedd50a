import SmartFolder.Text.UpperCase
import SmartFolder.Vocabulary

/-!
# Log levels

Five levels in rising order. Any text names a level: its capitals are looked up, and what is no
level's name counts as `info`.
-/

namespace SmartFolder

inductive Level where
  | debug
  | info
  | warning
  | error
  | critical
  deriving DecidableEq, Repr

namespace Level

def name : Level → String
  | debug => "DEBUG"
  | info => "INFO"
  | warning => "WARNING"
  | error => "ERROR"
  | critical => "CRITICAL"

instance : Vocabulary Level where
  all := [debug, info, warning, error, critical]
  name := name
  mem_all a := by cases a <;> simp
  name_inj a b h := by cases a <;> cases b <;> simp [name] at h ⊢

def rank : Level → Nat
  | debug => 0
  | info => 1
  | warning => 2
  | error => 3
  | critical => 4

instance : LE Level := ⟨fun a b => a.rank ≤ b.rank⟩

instance (a b : Level) : Decidable (a ≤ b) := inferInstanceAs (Decidable (a.rank ≤ b.rank))

/-- The level that a text names, in any case of its letters. -/
def ofText (s : String) : Level :=
  (Vocabulary.named? (Text.upperCase s)).getD info

theorem upperCase_name (l : Level) : Text.upperCase l.name = l.name := by
  cases l <;> decide

end Level

end SmartFolder
