import SmartFolder.Field
import SmartFolder.Filter
import SmartFolder.Notice

/-!
# Recognizing predicates

`filter?` and `group?` read a predicate back as a filter, and `notices` says what they had to
change or leave out. Every comparison becomes a clause, whatever its field and relation; only
constants have no filter.
-/

namespace SmartFolder

namespace Comparison

def field (c : Comparison) : String := c.left.text

/-- The operator of the relation on this field, if the relation suits the field. -/
def operator? (c : Comparison) : Option Operator :=
  (fieldKind c.field).operator? c.relation

/-- The clause for a comparison. A negation in front of `contains` is taken into the operator. -/
def clause (c : Comparison) (negated : Bool) : Clause where
  field := c.field
  operator :=
    match c.operator? with
    | some .contains => if negated then .containsNot else .contains
    | some op => op
    | none => .equalTo
  value := c.right.text

def notices (c : Comparison) : List Notice :=
  (if isKnownField c.field then [] else [.unknownField c.field]) ++
    (if c.operator?.isSome then [] else [.unsuitable c.field c.relation])

end Comparison

inductive Shape where
  | clause
  | group
  | negatedClause
  | unrecognized
  deriving DecidableEq, Repr

def Shape.name : Shape → String
  | clause => "leaf"
  | group => "subtree"
  | negatedClause => "contains_not_leaf"
  | unrecognized => "unrecognized"

namespace Predicate

/-- A negation of a single comparison by `contains`. -/
def isContainsNot : Predicate → Bool
  | .compound .not [.comparison c] => c.relation = .contains
  | _ => false

def shape : Predicate → Shape
  | .comparison _ => .clause
  | .constant _ => .unrecognized
  | .compound k parts =>
    if (Predicate.compound k parts).isContainsNot then .negatedClause else .group

/-- The parts of a compound that become members: a negated disjunction is "none of" its parts. -/
def members (k : Connective) (parts : List Predicate) : List Predicate :=
  match k, parts with
  | .not, [.compound .or inner] => inner
  | _, parts => parts

mutual

def filter? : Predicate → Option Filter
  | .comparison c => some (.clause (c.clause false))
  | .constant _ => none
  | .compound .not [.comparison c] =>
    if c.relation = .contains then some (.clause (c.clause true))
    else some (.group .none [.clause (c.clause false)])
  | .compound .not [.compound .or inner] => some (.group .none (filters inner))
  | .compound k parts => some (.group k.condition (filters parts))

def filters : List Predicate → List Filter
  | [] => []
  | p :: ps => (filter? p).toList ++ filters ps

end

mutual

/-- The notices on reading a part of a compound, or a whole predicate. -/
def notices : Predicate → List Notice
  | .comparison c => c.notices
  | .constant _ => []
  | .compound .not [.compound .or inner] =>
    noticesOf (.compound .not [.compound .or inner]) inner
  | .compound k parts => noticesOf (.compound k parts) parts

def noticesOf (whole : Predicate) : List Predicate → List Notice
  | [] => []
  | .constant value :: ps => .corrupted (.constant value) whole :: noticesOf whole ps
  | p :: ps => notices p ++ noticesOf whole ps

end

/-- The group for a whole predicate, if it is a compound. -/
def group? : Predicate → Option Group
  | .compound k parts => some ⟨k.condition, filters (members k parts)⟩
  | _ => none

def clause? (p : Predicate) (negated : Bool) : Option Clause :=
  match p with
  | .comparison c => some (c.clause negated)
  | _ => none

def groupNotices (p : Predicate) : List Notice :=
  if p.group?.isSome then p.notices else []

def clauseNotices (p : Predicate) : List Notice :=
  if (p.clause? false).isSome then p.notices else []

theorem filters_eq_filterMap (ps : List Predicate) : filters ps = ps.filterMap filter? := by
  induction ps with
  | nil => rfl
  | cons p ps ih => cases h : filter? p <;> simp [filters, ih, h]

/-- A compound is read as a group of its members, a negated `contains` apart. -/
theorem filter?_compound (k : Connective) (parts : List Predicate)
    (h : (Predicate.compound k parts).isContainsNot = false) :
    filter? (.compound k parts) = some (.group k.condition (filters (members k parts))) := by
  unfold filter? members
  split <;> simp_all [isContainsNot, Connective.condition, filters, filter?]

end Predicate

end SmartFolder
