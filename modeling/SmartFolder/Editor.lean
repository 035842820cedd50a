import SmartFolder.Document.Filter
import SmartFolder.Document.Predicate
import SmartFolder.Lowering
import SmartFolder.Predicate.Export
import SmartFolder.Recognition

/-!
# The editor

An editor holds one group and one predicate. A command may change either; a command that fails
changes neither.
-/

namespace SmartFolder

structure Editor where
  group : Group := {}
  predicate : Option Predicate := none
  lowering : Lowering := {}

inductive Command where
  | loadGroup (document : Json)
  | loadPredicate (document : Json)
  /-- Adds a filter to the group. -/
  | append (document : Json)
  /-- Makes the group the only member of a new one. -/
  | nest (condition : Json)
  | listClauses
  | showGroup
  | writeGroup
  /-- Lowers the group to the predicate. -/
  | lower
  /-- Reads the predicate back as the group. -/
  | recognize
  | recognizeClause (negated : Bool)
  | and (document : Json)
  | or (document : Json)
  | not
  /-- Goes to a part of the predicate; a negative index counts from the last. -/
  | child (index : Int)
  | query
  | classify
  | setPolicy (policy : MalformedPolicy)
  /-- Groups cannot be changed in place, so this always fails. -/
  | setCondition (condition : Json)

inductive Answer where
  | done
  /-- There is nothing to answer with. -/
  | nothing
  | before (g : Group)
  | clauses (cs : List Clause)
  | group (g : Group)
  | written (s : String)
  | clause (c : Clause)
  | query (q : Json)
  | shape (s : Shape)

inductive Trouble where
  | refused (r : Refusal)
  | failed (f : Failure)
  /-- The group has too many levels to be written. -/
  | tooDeep

structure Outcome where
  editor : Editor
  notices : List Notice := []
  answer : Except Trouble Answer := .ok .done

namespace Editor

def partAt? (index : Int) : Predicate → Option Predicate
  | .compound _ parts =>
    let i := if index < 0 then parts.length + index else index
    if i < 0 then none else parts[i.toNat]?
  | _ => none

/-- Goes on with what was built from a document, if it was built. -/
def withBuilt {α : Type} (e : Editor) (built : Except Refusal α) (next : α → Outcome) : Outcome :=
  match built with
  | .ok a => next a
  | .error r => { editor := e, answer := .error (.refused r) }

/-- Goes on with the predicate, if there is one. -/
def withPredicate (e : Editor) (next : Predicate → Outcome) : Outcome :=
  match e.predicate with
  | some p => next p
  | none => { editor := e, answer := .ok .nothing }

def setPredicate (e : Editor) (p : Predicate) : Outcome :=
  { editor := { e with predicate := some p } }

/-- An answer that changes nothing. -/
def reply (e : Editor) (a : Answer) : Outcome := { editor := e, answer := .ok a }

def run (e : Editor) : Command → Outcome
  | .loadGroup d =>
    e.withBuilt ((Group.check .value d).asModel Group.model) fun g =>
      { editor := { e with group := g } }
  | .loadPredicate d => e.withBuilt (Predicate.ofJson d) e.setPredicate
  | .append d =>
    e.withBuilt ((Filter.check .value d).asModel Filter.model) fun f =>
      { editor := { e with group := e.group.append f }, answer := .ok (.before e.group) }
  | .nest d =>
    e.withBuilt ((Checked.below (.key "condition") d.checkNamed).asModel Group.model) fun c =>
      { editor := { e with group := e.group.nest c } }
  | .listClauses => e.reply (.clauses e.group.clauses)
  | .showGroup => e.reply (.group e.group)
  | .writeGroup =>
    match e.group.write with
    | some s => e.reply (.written s)
    | none => { editor := e, answer := .error .tooDeep }
  | .lower =>
    let report := e.group.lower e.lowering
    match report.result with
    | .ok p => { e.setPredicate p with notices := report.notices }
    | .error f => { editor := e, notices := report.notices, answer := .error (.failed f) }
  | .recognize =>
    match e.predicate.bind Predicate.group? with
    | some g =>
      { editor := { e with group := g }
        notices := (e.predicate.map Predicate.groupNotices).getD [] }
    | none => e.reply .nothing
  | .recognizeClause negated =>
    match e.predicate.bind (Predicate.clause? · negated) with
    | some c =>
      { e.reply (.clause c) with notices := (e.predicate.map Predicate.clauseNotices).getD [] }
    | none => e.reply .nothing
  | .and d =>
    e.withBuilt (Predicate.ofJson d) fun q => e.withPredicate fun p => e.setPredicate (p.and q)
  | .or d =>
    e.withBuilt (Predicate.ofJson d) fun q => e.withPredicate fun p => e.setPredicate (p.or q)
  | .not => e.withPredicate fun p => e.setPredicate p.not
  | .child index => e.withPredicate fun p =>
    match partAt? index p with
    | some q => e.setPredicate q
    | none => e.reply .nothing
  | .query => e.withPredicate fun p => e.reply (.query p.query)
  | .classify => e.reply (.shape ((e.predicate.map Predicate.shape).getD .unrecognized))
  | .setPolicy policy => { editor := { e with lowering := { e.lowering with policy := policy } } }
  | .setCondition _ =>
    { editor := e
      answer := .error (.refused ⟨Group.model, [⟨[.key "condition"], .frozen⟩]⟩) }

end Editor

end SmartFolder
