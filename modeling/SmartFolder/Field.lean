import SmartFolder.Operator

/-!
# Fields

What a clause may say about a field depends on the kind of the field. One table per kind gives the
operator each relation is read as; an unlisted relation does not suit the field. Every other part
of the library that asks whether an operator suits a field asks this table.
-/

namespace SmartFolder

inductive FieldKind where
  | folder
  | text
  | date
  | boolean
  | unknown
  deriving DecidableEq, Repr

def knownFields : List (String × FieldKind) := [
  ("Folder", .folder),
  ("Date", .date),
  ("Subject", .text),
  ("Author", .text),
  ("Text", .text),
  ("Read", .boolean),
  ("Flagged", .boolean),
  ("HasEnclosure", .boolean),
  ("Deleted", .boolean)]

def isKnownField (field : String) : Bool :=
  (knownFields.lookup field).isSome

def fieldKind (field : String) : FieldKind :=
  (knownFields.lookup field).getD .unknown

namespace FieldKind

/-- The operator that a relation on such a field is read as. -/
def operator? : FieldKind → Relation → Option Operator
  | _, .equal => some .equalTo
  | folder, .notEqual | text, .notEqual | date, .notEqual | boolean, .notEqual => some .notEqualTo
  | text, .contains => some .contains
  | date, .less => some .before
  | date, .lessOrEqual => some .onOrBefore
  | date, .greater => some .after
  | date, .greaterOrEqual => some .onOrAfter
  | _, _ => none

/-- The relations that suit the field, each with its operator. -/
def operators (k : FieldKind) : List (Relation × Operator) :=
  (Vocabulary.all (α := Relation)).filterMap fun r => (k.operator? r).map (r, ·)

/-- The operators that compiling and reading back preserve. `containsNot` is one of them wherever
`contains` is, since it is a negated `contains`. -/
def validOperators (k : FieldKind) : List Operator :=
  let listed := k.operators.map (·.2)
  if listed.contains .contains then listed ++ [.containsNot] else listed

def isValid (k : FieldKind) (op : Operator) : Bool :=
  k.validOperators.contains op

end FieldKind

def isValidOperator (field : String) (op : Operator) : Bool :=
  (fieldKind field).isValid op

end SmartFolder
