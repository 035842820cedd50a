import SmartFolder.Document.Checked
import SmartFolder.Filter
import SmartFolder.Json.Literal
import SmartFolder.Json.Printer
import SmartFolder.Json.Reader

/-!
# Filter documents

A clause is an object tagged `criteria`, a group one tagged `tree`. Members that are absent take
their defaults, members of other names are ignored. A check lists the faults of the whole document
in the order in which its parts are declared. A document that is too deep has no text.
-/

namespace SmartFolder

namespace Members

def clause (ms : Members) : Checked Clause :=
  Checked.make (fun _ field operator value => ⟨field, operator, value⟩)
    |>.apply (ms.optional "kind" () (Json.checkLiteral "criteria"))
    |>.apply (ms.required "field" Json.checkText)
    |>.apply (ms.optional "operator_type" .equalTo Json.checkNamed)
    |>.apply (ms.optional "value" "" Json.checkText)

/-- A group, given the check of its members. -/
def group (members : Checked (List Filter)) (ms : Members) : Checked Group :=
  Checked.make (fun _ condition members => ⟨condition, members⟩)
    |>.apply (ms.optional "kind" () (Json.checkLiteral "tree"))
    |>.apply (ms.optional "condition" .all Json.checkNamed)
    |>.apply members

end Members

namespace Filter

def tags : List String := ["criteria", "tree"]

/-- A filter by its tag, given the check of what would be its members. -/
def ofTag (tag : Json) (members : Checked (List Filter)) (ms : Members) : Checked Filter :=
  if tag = .text "criteria" then
    .below (.key "criteria") (ms.clause.map .clause)
  else if tag = .text "tree" then
    .below (.key "tree") ((ms.group members).map Group.filter)
  else .fault (.wrongTag tag.plain tags)

mutual

def check (origin : Origin) : Json → Checked Filter
  | .object ms =>
    match ms.lookup "kind" with
    | some tag => ofTag tag (checkMembers origin ms) ms
    | none => .fault .untagged
  | _ => .fault (.notElement origin)

/-- The member `criteria_tree` among the members of an object. -/
def checkMembers (origin : Origin) : List (String × Json) → Checked (List Filter)
  | [] => .ok []
  | (key, v) :: rest =>
    if key = "criteria_tree" then .below (.key key) (checkList origin v)
    else checkMembers origin rest

def checkList (origin : Origin) : Json → Checked (List Filter)
  | .array vs => checkItems origin 0 vs
  | _ => .fault (.notList origin)

/-- Items of a list, from the one at the given index. -/
def checkItems (origin : Origin) (i : Nat) : List Json → Checked (List Filter)
  | [] => .ok []
  | v :: vs =>
    Checked.make List.cons
      |>.apply (.below (.index i) (check origin v))
      |>.apply (checkItems origin (i + 1) vs)

end

end Filter

/-! ### Documents -/

/-- How many values in each other the writer of documents follows. -/
def Json.writtenLevels : Nat := 255

/-- The text of the document of a known model. Its own object is not counted as a level. -/
def Json.writeModel (v : Json) : Option String := v.printWithin (writtenLevels + 1)

namespace Clause

def model : String := "Criteria"

def check (origin : Origin) : Json → Checked Clause :=
  Json.checkModel origin model Members.clause

def write (c : Clause) : Option String := c.toJson.writeModel

end Clause

namespace Group

def model : String := "CriteriaTree"

def check (origin : Origin) : Json → Checked Group :=
  Json.checkModel origin model fun ms => ms.group (Filter.checkMembers origin ms)

def write (g : Group) : Option String := g.toJson.writeModel

end Group

namespace Filter

def model : String := "tagged-union[Criteria,CriteriaTree]"

/-- The text of a filter as one of the two kinds. The object that tells which is a level. -/
def write (f : Filter) : Option String := f.toJson.printWithin Json.writtenLevels

end Filter

/-- Reads a JSON text within the limits of documents and checks the value it writes. -/
def Checked.ofText {α : Type} (check : Origin → Json → Checked α) (s : String) : Checked α :=
  match Json.readWithin .document s with
  | some v => check .text v
  | none => .fault .notJson

end SmartFolder
