import SmartFolder.Json.Literal
import SmartFolder.Table
import SmartFolder.Vocabulary

/-!
# Problems

A problem is a message with named details, each name once.
-/

namespace SmartFolder

inductive ProblemKind where
  /-- Any error of the library. -/
  | general
  /-- A stored value is damaged beyond repair. -/
  | malformedValue
  deriving DecidableEq, Repr

namespace ProblemKind

def name : ProblemKind → String
  | general => "CriteriaError"
  | malformedValue => "MalformedCriteriaValueError"

instance : Vocabulary ProblemKind where
  all := [general, malformedValue]
  name := name
  mem_all a := by cases a <;> simp
  name_inj a b h := by cases a <;> cases b <;> simp [name] at h ⊢

end ProblemKind

structure Problem where
  kind : ProblemKind
  message : String
  details : List (String × Json)

namespace Problem

/-- The problem with details given in order; a later one takes the place of an earlier one of its
name. -/
def ofPairs (kind : ProblemKind) (message : String) (details : List (String × Json)) : Problem :=
  ⟨kind, message, Table.ofPairs details⟩

/-- The message, with the details in parentheses; the details alone if the message is empty. -/
def text (p : Problem) : String :=
  let details := ", ".intercalate (p.details.map fun (k, v) => k ++ "=" ++ v.literal)
  if p.details.isEmpty then p.message
  else if p.message.isEmpty then details
  else p.message ++ " (" ++ details ++ ")"

def literal (p : Problem) : String :=
  p.kind.name ++ "(message=" ++ Text.quote p.message ++ ", details=" ++
    (Json.object p.details).literal ++ ")"

end Problem

end SmartFolder
