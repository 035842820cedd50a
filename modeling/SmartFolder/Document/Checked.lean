import SmartFolder.Document.Fault
import SmartFolder.Json

/-!
# Checks

A check turns a value into what it stands for or lists all its faults. Checks in a row keep the
faults of all of them, so no fault hides another (`faults_apply`).
-/

namespace SmartFolder

abbrev Checked (α : Type) := Except (List Fault) α

namespace Checked

variable {α β : Type}

def fault (cause : Cause) : Checked α := .error [⟨[], cause⟩]

def faults : Checked α → List Fault
  | .ok _ => []
  | .error fs => fs

/-- The check of a part, whose faults lie below `step`. -/
def below (step : PathStep) : Checked α → Checked α
  | .ok a => .ok a
  | .error fs => .error (fs.map fun f => { f with path := step :: f.path })

/-- The start of a row of checks: what to make of their results. -/
def make (f : α) : Checked α := .ok f

def map (f : α → β) : Checked α → Checked β
  | .ok a => .ok (f a)
  | .error fs => .error fs

/-- One more check in a row; its faults come after those of the checks before it. -/
def apply : Checked (α → β) → Checked α → Checked β
  | .ok f, .ok a => .ok (f a)
  | f, a => .error (faults f ++ faults a)

theorem faults_below (step : PathStep) (a : Checked α) :
    faults (below step a) = (faults a).map fun f => { f with path := step :: f.path } := by
  cases a <;> rfl

theorem apply_eq_ok_iff {f : Checked (α → β)} {a : Checked α} {b : β} :
    apply f a = .ok b ↔ ∃ g x, f = .ok g ∧ a = .ok x ∧ g x = b := by
  cases f <;> cases a <;> simp [apply]

theorem faults_apply (f : Checked (α → β)) (a : Checked α) :
    faults (apply f a) = faults f ++ faults a := by
  cases f <;> cases a <;> rfl

/-- As a document of a model. -/
def asModel (model : String) : Checked α → Except Refusal α
  | .ok a => .ok a
  | .error fs => .error ⟨model, fs⟩

end Checked

abbrev Members := List (String × Json)

namespace Members

variable {α : Type}

def required (key : String) (check : Json → Checked α) (ms : Members) : Checked α :=
  match ms.lookup key with
  | some v => (check v).below (.key key)
  | none => .below (.key key) (.fault .missing)

def optional (key : String) (default : α) (check : Json → Checked α) (ms : Members) : Checked α :=
  match ms.lookup key with
  | some v => (check v).below (.key key)
  | none => .ok default

end Members

namespace Json

def checkText : Json → Checked String
  | .text s => .ok s
  | _ => .fault .notText

def checkTextOrNull : Json → Checked (Option String)
  | .text s => .ok (some s)
  | .null => .ok none
  | _ => .fault .notText

def checkObject (origin : Origin) : Json → Checked Members
  | .object ms => .ok ms
  | _ => .fault (.notObject origin)

def checkOneOf {α : Type} [Vocabulary α] (cause : List String → Cause) (v : Json) : Checked α :=
  match v with
  | .text s =>
    match Vocabulary.named? s with
    | some a => .ok a
    | none => .fault (cause (Vocabulary.names α))
  | _ => .fault (cause (Vocabulary.names α))

def checkNamed {α : Type} [Vocabulary α] : Json → Checked α :=
  checkOneOf .notNamed

theorem checkNamed_name {α : Type} [Vocabulary α] (a : α) :
    checkNamed (.text (Vocabulary.name a)) = .ok a := by
  rw [checkNamed, checkOneOf, Vocabulary.named?_name]

def checkLiteral (s : String) (v : Json) : Checked Unit :=
  if v = .text s then .ok () else .fault (.notLiteral [s])

theorem checkLiteral_self (s : String) : checkLiteral s (.text s) = .ok () :=
  if_pos rfl

/-- A document of a model, which has to be an object. -/
def checkModel {α : Type} (origin : Origin) (model : String) (check : Members → Checked α) :
    Json → Checked α
  | .object ms => check ms
  | _ => .fault (.notModel origin model)

end Json

end SmartFolder
