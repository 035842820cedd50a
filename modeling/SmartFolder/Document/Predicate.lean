import SmartFolder.Document.Scalar
import SmartFolder.Predicate

/-!
# Predicate documents

An operand is a text, or an object with either a constant or a key path. A predicate is an object
of one of seven types. Its parts are built before it, from left to right, and the first part or
predicate with faults stands for all.
-/

namespace SmartFolder

/-! ### Operands and dates -/

namespace Operand

def model : String := "Expression"

/-- An operand of two optional texts, of which exactly one has to be there. -/
def ofOptions : Option String × Option String → Checked Operand
  | (some value, none) => .ok (.constant value)
  | (none, some path) => .ok (.keyPath path)
  | _ => .fault .ambiguousOperand

def ofMembers (ms : Members) : Checked Operand := do
  let options ← Checked.make Prod.mk
    |>.apply (ms.optional "constant_value" none Json.checkTextOrNull)
    |>.apply (ms.optional "key_path" none Json.checkTextOrNull)
  ofOptions options

def check (origin : Origin) : Json → Checked Operand :=
  Json.checkModel origin model ofMembers

def ofJson : Json → Except Refusal Operand
  | .text s => .ok (.constant s)
  | v => (check .value v).asModel model

end Operand

namespace RelativeDate

def model : String := "RelativeDate"

def ofMembers (ms : Members) : Checked RelativeDate :=
  Checked.make RelativeDate.mk
    |>.apply (ms.required "count" Json.checkCount)
    |>.apply (ms.required "unit" Json.checkNamed)

def check (origin : Origin) : Json → Checked RelativeDate :=
  Json.checkModel origin model ofMembers

end RelativeDate

/-! ### Predicates -/

namespace Predicate

def constantModel : String := "ConstantPredicate"

def checkConstant (origin : Origin) : Json → Checked Bool :=
  Json.checkModel origin constantModel fun ms => ms.optional "value" true Json.checkBool

/-- A part that has been built before, if it is there. -/
def presence {α : Type} (key : String) : Option α → Checked α
  | some a => .ok a
  | none => .below (.key key) (.fault .missing)

def operand? (key : String) (ms : Members) : Except Refusal (Option Operand) :=
  match ms.lookup key with
  | some v => (Operand.ofJson v).map some
  | none => .ok none

/-- A comparison, given the check of its date. Both operands are built before its other members
are looked at. -/
def ofComparison (model : String) (date : Checked (Option RelativeDate)) (ms : Members) :
    Except Refusal Predicate := do
  let left ← operand? "left" ms
  let right ← operand? "right" ms
  (Checked.make (fun left relation right date => Predicate.comparison ⟨left, relation, right, date⟩)
    |>.apply (presence "left" left)
    |>.apply (ms.required "operator" Json.checkNamed)
    |>.apply (presence "right" right)
    |>.apply date).asModel model

def ofCompound (parts : List Predicate) (ms : Members) : Except Refusal Predicate :=
  ((ms.required "logical_type" Json.checkNamed).map (compound · parts)).asModel "CompoundPredicate"

/-- What a member of an object would be as a part of a predicate. -/
structure Part where
  key : String
  single : Except Refusal Predicate
  several : Except Refusal (List Predicate)

def part (key : String) (parts : List Part) : Except Refusal Predicate :=
  match parts.find? (·.key = key) with
  | some p => p.single
  | none => .error ⟨"Predicate", [⟨[.key key], .missing⟩]⟩

/-- The predicates under a key, none if there is no such key. -/
def partList (key : String) (parts : List Part) : Except Refusal (List Predicate) :=
  match parts.find? (·.key = key) with
  | some p => p.several
  | none => .ok []

/-- A predicate of a type, from its members and from what they are as parts. -/
def ofType (type : String) (ms : Members) (parts : List Part) : Except Refusal Predicate :=
  match type with
  | "comparison" => ofComparison "ComparisonPredicate" (.ok none) ms
  | "relative" => ofComparison "RelativeDateComparison" ((RelativeDate.ofMembers ms).map some) ms
  | "constant" => ((checkConstant .value (.object ms)).map Predicate.constant).asModel constantModel
  | "compound" => do ofCompound (← partList "subpredicates" parts) ms
  | "and" => do return .and (← part "left" parts) (← part "right" parts)
  | "or" => do return .or (← part "left" parts) (← part "right" parts)
  | "not" => do return .not (← part "operand" parts)
  | _ => .error ⟨"Predicate", [⟨[.key "type"], .notLiteral
      ["comparison", "relative", "constant", "compound", "and", "or", "not"]⟩]⟩

mutual

def ofJson : Json → Except Refusal Predicate
  | .object ms =>
    match ms.lookup "type" with
    | some (.text type) => ofType type ms (partsOf ms)
    | _ => ofType "" ms []
  | _ => .error ⟨"Predicate", [⟨[], .notModel .value "Predicate"⟩]⟩

def partsOf : List (String × Json) → List Part
  | [] => []
  | (key, v) :: rest => ⟨key, ofJson v, severalOf v⟩ :: partsOf rest

def severalOf : Json → Except Refusal (List Predicate)
  | .array vs => ofItems vs
  | _ => .error ⟨"Predicate", [⟨[], .notList .value⟩]⟩

def ofItems : List Json → Except Refusal (List Predicate)
  | [] => .ok []
  | v :: vs => do return (← ofJson v) :: (← ofItems vs)

end

end Predicate

end SmartFolder
