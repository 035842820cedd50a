import SmartFolder.Predicate

/-!
# Predicates as text

The readable form of a predicate. Constants stand in double quotes with only the quote escaped,
key paths stand bare, and every part of a compound has its own parentheses.
-/

namespace SmartFolder

/-- A double quote inside a constant has a backslash before it. -/
def Operand.escapeQuotes (cs : List Char) : List Char :=
  cs.flatMap fun c => if c = '\x22' then ['\\', '\x22'] else [c]

def Operand.display : Operand → String
  | .constant value => "\x22" ++ String.ofList (escapeQuotes value.toList) ++ "\x22"
  | .keyPath path => path

def Comparison.display (c : Comparison) : String :=
  c.left.display ++ " " ++ c.relation.symbol ++ " " ++ c.right.display

namespace Predicate

/-- The parts of a compound under its connective. Several parts under `NOT` read as a negated
conjunction. -/
def displayCompound (connective : Connective) (parts : List String) : String :=
  let enclosed := parts.map fun s => "(" ++ s ++ ")"
  match connective, enclosed with
  | .not, [s] => "NOT " ++ s
  | .not, enclosed => "NOT (" ++ " AND ".intercalate enclosed ++ ")"
  | connective, [] => connective.name ++ " ()"
  | connective, enclosed => (" " ++ connective.name ++ " ").intercalate enclosed

mutual

def display : Predicate → String
  | .comparison c => c.display
  | .compound connective parts => displayCompound connective (displays parts)
  | .constant true => "TRUEPREDICATE"
  | .constant false => "FALSEPREDICATE"

def displays : List Predicate → List String
  | [] => []
  | p :: ps => display p :: displays ps

end

theorem displays_eq_map (ps : List Predicate) : displays ps = ps.map display := by
  induction ps with
  | nil => rfl
  | cons p ps ih => simp [displays, ih]

def kindName : Predicate → String
  | .comparison { date := none, .. } => "ComparisonPredicate"
  | .comparison { date := some _, .. } => "RelativeDateComparison"
  | .compound _ _ => "CompoundPredicate"
  | .constant _ => "ConstantPredicate"

def marked (p : Predicate) : String :=
  "<" ++ p.kindName ++ ": " ++ p.display ++ ">"

end Predicate

end SmartFolder
