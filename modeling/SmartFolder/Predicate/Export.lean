import SmartFolder.Predicate

/-!
# Predicates as query objects

The query object of a predicate. A comparison is the object of its left text over the object of
its relation; operands lose whether they were constants, and relative dates lose their count.
-/

namespace SmartFolder

def Relation.key : Relation → String
  | equal => "$eq"
  | notEqual => "$ne"
  | less => "$lt"
  | greater => "$gt"
  | lessOrEqual => "$lte"
  | greaterOrEqual => "$gte"
  | contains => "$contains"
  | beginsWith => "$beginswith"
  | endsWith => "$endswith"
  | like => "$like"
  | matching => "$matches"
  | within => "$in"

def Connective.key : Connective → String
  | and => "$and"
  | or => "$or"
  | not => "$not"

def Json.single (key : String) (value : Json) : Json := .object [(key, value)]

def Comparison.query (c : Comparison) : Json :=
  .single c.left.text (.single c.relation.key (.text c.right.text))

namespace Predicate

/-- The queries of the parts under a connective; a single part under `$not` stands alone. -/
def queryCompound (connective : Connective) (parts : List Json) : Json :=
  match connective, parts with
  | .not, [q] => .single connective.key q
  | _, qs => .single connective.key (.array qs)

mutual

def query : Predicate → Json
  | .comparison c => c.query
  | .compound connective parts => queryCompound connective (queries parts)
  | .constant value => .single "$const" (.bool value)

def queries : List Predicate → List Json
  | [] => []
  | p :: ps => query p :: queries ps

end

theorem queries_eq_map (ps : List Predicate) : queries ps = ps.map query := by
  induction ps with
  | nil => rfl
  | cons p ps ih => simp [queries, ih]

end Predicate

end SmartFolder
