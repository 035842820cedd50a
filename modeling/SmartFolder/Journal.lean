import SmartFolder.Failure
import SmartFolder.Log
import SmartFolder.Notice

/-!
# The journal

A journal keeps every entry reported to it, hands each to a listener and forwards it to the log.
The entry is kept before the listener sees it and forwarded after, so an entry that the listener
refuses is kept and heard but not logged. A call whose details are taken for arguments is no entry
at all.
-/

namespace SmartFolder

structure Entry where
  level : String
  message : String
  details : List (String × Json)
  deriving DecidableEq

def Notice.entry (n : Notice) : Entry := ⟨n.level.name, n.message, n.details⟩

/-- The ways to report something: at the level that a text names, or at one of two levels. -/
inductive Call where
  | report (level message : String) (details : List (String × Json))
  | warning (message : String) (details : List (String × Json))
  | error (message : String) (details : List (String × Json))

structure Outlets where
  /-- The messages that the listener refuses, if there is a listener. -/
  listener : Option (String → Bool) := none
  forwards : Bool := true
  threshold : Level := .info

/-- All that has been reported so far, and who learnt of it. -/
structure Journal where
  entries : List Entry := []
  heard : List Entry := []
  log : List LogLine := []
  deriving DecidableEq

namespace Outlets

def hears (o : Outlets) : Bool := o.listener.isSome

def refuses (o : Outlets) (message : String) : Bool :=
  o.listener.any (· message)

def lines (o : Outlets) (e : Entry) : List LogLine :=
  let level := Level.ofText e.level
  if o.forwards && o.threshold ≤ level then [⟨level, e.message⟩] else []

end Outlets

namespace Journal

/-- Keeps an entry, hands it to the listener and forwards it unless the listener refused it. -/
def keep (o : Outlets) (j : Journal) (e : Entry) : Journal × Except Failure Entry :=
  let kept : Journal :=
    { j with entries := j.entries ++ [e], heard := j.heard ++ (if o.hears then [e] else []) }
  if o.refuses e.message then (kept, .error (.listener e.message))
  else ({ kept with log := j.log ++ o.lines e }, .ok e)

/-- Enters a method, whose details come under their names beside its arguments: none of them may
have the name of an argument. -/
def enter (j : Journal) (method : String) (arguments : List String)
    (details : List (String × Json)) (next : Journal × Except Failure Entry) :
    Journal × Except Failure Entry :=
  match details.find? fun d => arguments.contains d.1 with
  | some d => (j, .error (.repeated method d.1))
  | none => next

/-- Reports an entry at the level a text names. -/
def report (o : Outlets) (j : Journal) (level message : String) (details : List (String × Json)) :
    Journal × Except Failure Entry :=
  j.enter "report" ["self", "level", "message"] details
    (j.keep o ⟨Text.upperCase level, message, details⟩)

/-- Reports an entry at the level of the method, which has no argument for it. -/
def reportAt (o : Outlets) (j : Journal) (method : String) (level : Level) (message : String)
    (details : List (String × Json)) : Journal × Except Failure Entry :=
  j.enter method ["self", "message"] details (j.report o level.name message details)

def call (o : Outlets) (j : Journal) : Call → Journal × Except Failure Entry
  | .report level message details => j.report o level message details
  | .warning message details => j.reportAt o "warning" .warning message details
  | .error message details => j.reportAt o "error" .error message details

/-- Reports notices in order to a journal without a listener, where no report fails. -/
def add (o : Outlets) (j : Journal) (ns : List Notice) : Journal :=
  ns.foldl (fun j n => (j.report { o with listener := none } n.level.name n.message n.details).1) j

theorem enter_of_apart {j : Journal} {arguments : List String} {details : List (String × Json)}
    (apart : ∀ d ∈ details, d.1 ∉ arguments) (method : String)
    (next : Journal × Except Failure Entry) : j.enter method arguments details next = next := by
  have unfound : details.find? (fun d => arguments.contains d.1) = none :=
    List.find?_eq_none.mpr fun d member => by simpa using apart d member
  rw [enter, unfound]

theorem entries_keep (o : Outlets) (j : Journal) (e : Entry) :
    (j.keep o e).1.entries = j.entries ++ [e] := by
  cases refused : o.refuses e.message <;> simp [keep, refused]

theorem entries_report_notice (o : Outlets) (j : Journal) (n : Notice) :
    (j.report o n.level.name n.message n.details).1.entries = j.entries ++ [n.entry] := by
  have apart : ∀ d ∈ n.details, d.1 ∉ ["self", "level", "message"] := by
    cases n <;> simp [Notice.details]
  rw [report, enter_of_apart apart, entries_keep, Level.upperCase_name]
  rfl

theorem entries_add (o : Outlets) (j : Journal) (ns : List Notice) :
    (j.add o ns).entries = j.entries ++ ns.map Notice.entry := by
  induction ns generalizing j with
  | nil => simp [add]
  | cons n ns ih =>
    rw [add, List.foldl_cons, ← add, ih, entries_report_notice, List.map_cons, List.append_assoc]
    rfl

end Journal

end SmartFolder
