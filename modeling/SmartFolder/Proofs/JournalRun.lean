import SmartFolder.Journal
import SmartFolder.Proofs.UpperCase

/-!
# Runs of a journal

A journal is reported to any number of times, and a call that fails ends neither the run nor what
was done before the failure. A call whose details are clear of the methods' arguments is kept, and
the three that learn of it differ in what they leave out only: the entries nothing, the listener
nothing, and the log what the listener refused and what is below the threshold. Any other call
fails before anyone learns of it (`Journal.run_spec`), and so a warning is lost for a detail that
its own method would take (`Journal.call_warning_level`).
-/

namespace SmartFolder

namespace Call

def level : Call → String
  | report level _ _ => level
  | warning _ _ => Level.warning.name
  | error _ _ => Level.error.name

def message : Call → String
  | report _ message _ | warning message _ | error message _ => message

def details : Call → List (String × Json)
  | report _ _ details | warning _ details | error _ details => details

def entry (c : Call) : Entry := ⟨Text.upperCase c.level, c.message, c.details⟩

def method : Call → String
  | report _ _ _ => "report"
  | warning _ _ => "warning"
  | error _ _ => "error"

/-- The names of the arguments of the method. -/
def arguments : Call → List String
  | report _ _ _ => ["self", "level", "message"]
  | warning _ _ | error _ _ => ["self", "message"]

/-- No detail has the name of an argument of `report`, to which every call comes. -/
def isClear (c : Call) : Bool := c.details.all fun d => d.1 ∉ ["self", "level", "message"]

/-- The failures of a call for the name of a detail: the method of the call refuses the names of its
own arguments, and `report` refuses the level of a method that has none among them. -/
inductive Clashes (c : Call) : Failure → Prop where
  | own {name : String} (detail : name ∈ c.details.map Prod.fst) (argument : name ∈ c.arguments) :
      Clashes c (.repeated c.method name)
  | level (entered : ∀ d ∈ c.details, d.1 ∉ c.arguments)
      (detail : "level" ∈ c.details.map Prod.fst) : Clashes c (.repeated "report" "level")

theorem arguments_subset (c : Call) : c.arguments ⊆ ["self", "level", "message"] := by
  cases c <;> simp [arguments]

theorem eq_level {c : Call} {name : String} (argument : name ∈ ["self", "level", "message"])
    (other : name ∉ c.arguments) : name = "level" := by
  cases c <;> simp_all [arguments]

def kept (cs : List Call) : List Entry := (cs.filter isClear).map entry

theorem kept_append (cs ds : List Call) : kept (cs ++ ds) = kept cs ++ kept ds := by
  simp [kept]

theorem kept_single (c : Call) : kept [c] = if c.isClear then [c.entry] else [] := by
  rw [kept, List.filter_singleton]
  cases c.isClear <;> rfl

end Call

namespace Entry

/-- The level of an entry in the log: what is no level's name counts as `info`. -/
def logLevel (e : Entry) : Level := (Vocabulary.named? e.level).getD .info

def line (e : Entry) : LogLine := ⟨e.logLevel, e.message⟩

end Entry

namespace Outlets

variable (o : Outlets) (cs ds : List Call) (c : Call)

/-- What a call may return: a clear one its entry, unless the listener refused it, and any other a
failure for one of its details. -/
def Returns (r : Except Failure Entry) : Prop :=
  if c.isClear then r = if o.refuses c.message then .error (.listener c.message) else .ok c.entry
  else ∃ f, c.Clashes f ∧ r = .error f

def heard : List Entry := if o.hears then Call.kept cs else []

/-- Whether a call is kept and the listener lets it through. -/
def succeeds : Bool := c.isClear && !o.refuses c.message

/-- Whether a call succeeds and its level is not below the threshold. -/
def passes : Bool := o.succeeds c && decide (o.threshold ≤ c.entry.logLevel)

def logged : List LogLine :=
  if o.forwards then (cs.filter o.passes).map fun c => c.entry.line else []

/-- What a call makes of a log. -/
def tell (log : Log) (c : Call) : Log :=
  if o.forwards && o.succeeds c then log.write (.ofText c.entry.level) c.message [] else log

theorem heard_append : o.heard (cs ++ ds) = o.heard cs ++ o.heard ds := by
  unfold heard
  split <;> simp [Call.kept_append]

theorem logged_append : o.logged (cs ++ ds) = o.logged cs ++ o.logged ds := by
  unfold logged
  split <;> simp

theorem logged_single :
    o.logged [c] = if o.forwards && o.passes c then [c.entry.line] else [] := by
  unfold logged
  rw [List.filter_singleton]
  cases o.forwards <;> cases o.passes c <;> rfl

/-- The log takes the capitals of the level again, which changes nothing. -/
theorem ofText_level_entry : Level.ofText c.entry.level = c.entry.logLevel :=
  Level.ofText_upperCase c.level

theorem logged_of_isClear (clear : c.isClear = true) :
    o.logged [c] = if o.refuses c.message then [] else o.lines c.entry := by
  rw [logged_single, passes, succeeds, clear, lines, ofText_level_entry]
  cases o.refuses c.message with
  | true => simp
  | false => rfl

theorem logged_of_not_isClear (unclear : c.isClear = false) : o.logged [c] = [] := by
  rw [logged_single, passes, succeeds, unclear]
  simp

theorem threshold_tell (log : Log) : (o.tell log c).threshold = log.threshold := by
  unfold tell
  rw [Log.write_plain]
  split
  · split <;> rfl
  · rfl

theorem lines_tell {log : Log} (same : log.threshold = o.threshold) :
    (o.tell log c).lines = log.lines ++ o.logged [c] := by
  rw [logged_single, tell, passes, Log.write_plain, ofText_level_entry, same]
  cases o.forwards with
  | false => simp
  | true =>
    cases o.succeeds c with
    | false => simp
    | true =>
      have line : c.entry.line = ⟨c.entry.logLevel, c.message⟩ := rfl
      by_cases high : o.threshold ≤ c.entry.logLevel <;> simp [high, line]

/-- Calls make of a log at the threshold what they make of the journal's. -/
theorem lines_foldl_tell {log : Log} (same : log.threshold = o.threshold) :
    (cs.foldl o.tell log).lines = log.lines ++ o.logged cs := by
  induction cs generalizing log with
  | nil => simp [logged]
  | cons c cs ih =>
    have rest := ih ((o.threshold_tell c log).trans same)
    rw [List.foldl_cons, rest, o.lines_tell c same, List.append_assoc, ← logged_append]
    rfl

end Outlets

namespace Journal

/-- The calls one after the other, each with what it returns. -/
def run (o : Outlets) (j : Journal) : List Call → Journal × List (Except Failure Entry)
  | [] => (j, [])
  | c :: cs =>
    let (k, outcome) := j.call o c
    let (l, outcomes) := k.run o cs
    (l, outcome :: outcomes)

variable (o : Outlets) (j : Journal) (c : Call) (cs : List Call)

/-! ### Entering a method -/

theorem isClear_iff :
    c.isClear = true ↔ ∀ d ∈ c.details, d.1 ∉ ["self", "level", "message"] := by
  simp [Call.isClear]

theorem exists_enter_eq_error {arguments : List String} {details : List (String × Json)}
    (clash : ¬ ∀ d ∈ details, d.1 ∉ arguments) (method : String)
    (next : Journal × Except Failure Entry) :
    ∃ name ∈ arguments, name ∈ details.map Prod.fst ∧
      j.enter method arguments details next = (j, .error (.repeated method name)) := by
  cases found : details.find? (fun d => arguments.contains d.1) with
  | none => exact absurd (by simpa using found) clash
  | some d =>
    have argument : d.1 ∈ arguments := by simpa using List.find?_some found
    have detail : d.1 ∈ details.map Prod.fst :=
      List.mem_map_of_mem (List.mem_of_find?_eq_some found)
    exact ⟨d.1, argument, detail, by rw [enter, found]⟩

theorem enter_enter (method : String) (arguments : List String) (details : List (String × Json))
    (next : Journal × Except Failure Entry) :
    j.enter method arguments details (j.enter method arguments details next) =
      j.enter method arguments details next := by
  cases found : details.find? fun d => arguments.contains d.1 <;> simp only [enter, found]

/-- Every call enters its method and `report`, which may be the same. -/
theorem call_eq_enter :
    j.call o c = j.enter c.method c.arguments c.details
      (j.enter "report" ["self", "level", "message"] c.details (j.keep o c.entry)) := by
  cases c with
  | report level message details => exact (j.enter_enter _ _ _ _).symm
  | warning message details => rfl
  | error message details => rfl

/-! ### One call -/

theorem call_of_isClear (clear : c.isClear = true) : j.call o c = j.keep o c.entry := by
  have apart := (isClear_iff c).mp clear
  have own : ∀ d ∈ c.details, d.1 ∉ c.arguments := fun d member argument =>
    apart d member (c.arguments_subset argument)
  rw [call_eq_enter, enter_of_apart own, enter_of_apart apart]

theorem exists_call_eq_error (unclear : c.isClear = false) :
    ∃ f, c.Clashes f ∧ j.call o c = (j, .error f) := by
  have clash : ¬ ∀ d ∈ c.details, d.1 ∉ ["self", "level", "message"] := by
    rw [← isClear_iff, unclear]
    exact Bool.false_ne_true
  rw [call_eq_enter]
  by_cases own : ∀ d ∈ c.details, d.1 ∉ c.arguments
  · obtain ⟨name, argument, detail, failed⟩ :=
      j.exists_enter_eq_error clash "report" (j.keep o c.entry)
    obtain ⟨d, member, rfl⟩ := List.mem_map.mp detail
    have level := c.eq_level argument (own d member)
    rw [level] at detail failed
    exact ⟨_, .level own detail, by rw [enter_of_apart own, failed]⟩
  · obtain ⟨name, argument, detail, failed⟩ := j.exists_enter_eq_error own c.method _
    exact ⟨_, .own detail argument, failed⟩

theorem keep_entry :
    j.keep o c.entry =
      (⟨j.entries ++ [c.entry], j.heard ++ (if o.hears then [c.entry] else []),
        j.log ++ if o.refuses c.message then [] else o.lines c.entry⟩,
        if o.refuses c.message then .error (.listener c.message) else .ok c.entry) := by
  unfold keep
  change (if o.refuses c.message then _ else _) = _
  cases o.refuses c.message with
  | true => simp [Call.entry]
  | false => rfl

/-- What a call adds for each of the three, and what it returns. -/
theorem call_spec :
    (j.call o c).1 = ⟨j.entries ++ Call.kept [c], j.heard ++ o.heard [c], j.log ++ o.logged [c]⟩ ∧
      o.Returns c (j.call o c).2 := by
  unfold Outlets.Returns
  cases clear : c.isClear with
  | true =>
    rw [j.call_of_isClear o c clear, keep_entry, Outlets.heard, Call.kept_single, if_pos clear,
      o.logged_of_isClear c clear]
    exact ⟨rfl, rfl⟩
  | false =>
    obtain ⟨f, clash, failed⟩ := j.exists_call_eq_error o c clear
    have kept : Call.kept [c] = [] := by simp [Call.kept_single, clear]
    rw [failed, Outlets.heard, kept, o.logged_of_not_isClear c clear]
    exact ⟨by simp, f, clash, rfl⟩

/-! ### Runs -/

theorem run_eq :
    (j.run o cs).1 =
      ⟨j.entries ++ Call.kept cs, j.heard ++ o.heard cs, j.log ++ o.logged cs⟩ := by
  induction cs generalizing j with
  | nil => simp [run, Call.kept, Outlets.heard, Outlets.logged]
  | cons c cs ih =>
    have kept := Call.kept_append [c] cs
    have heard := o.heard_append [c] cs
    have logged := o.logged_append [c] cs
    rw [List.singleton_append] at kept heard logged
    simp only [run, ih, (j.call_spec o c).1, kept, heard, logged, List.append_assoc]

theorem returns_run : List.Forall₂ o.Returns cs (j.run o cs).2 := by
  induction cs generalizing j with
  | nil => exact .nil
  | cons c cs ih => exact .cons (j.call_spec o c).2 (ih _)

/-- Whatever the listener refuses and however the log is set, every call of a run whose details are
clear of arguments adds its own entry to the end of the entries and returns it, unless the listener
refused it; a listener learns of every entry, in order; and the log learns of the messages that the
listener let through and that are not below the threshold, in order and as they stand. Any other
call changes nothing and fails. -/
theorem run_spec (o : Outlets) (j : Journal) (cs : List Call) :
    (∀ c, (j.run o (cs ++ [c])).1 = ((j.run o cs).1.call o c).1 ∧
      (c.isClear = true → ((j.run o cs).1.call o c).1.entries =
        (j.run o cs).1.entries ++ [c.entry]) ∧
      (c.isClear = false → ((j.run o cs).1.call o c).1 = (j.run o cs).1)) ∧
    List.Forall₂ (fun c r =>
      if c.isClear then r = if o.refuses c.message then .error (.listener c.message) else .ok c.entry
      else ∃ f, c.Clashes f ∧ r = .error f) cs (j.run o cs).2 ∧
    (j.run o cs).1.entries = j.entries ++ (cs.filter Call.isClear).map Call.entry ∧
    (j.run o cs).1.heard =
      j.heard ++ (if o.hears then (cs.filter Call.isClear).map Call.entry else []) ∧
    (j.run o cs).1.log = j.log ++
      (if o.forwards then
        (cs.filter fun c => c.isClear && !o.refuses c.message &&
          decide (o.threshold ≤ c.entry.logLevel)).map fun c => ⟨c.entry.logLevel, c.message⟩
      else []) ∧
    ∀ log : Log, (j.run o cs).1.log =
      (cs.foldl o.tell { log with threshold := o.threshold, lines := j.log }).lines := by
  refine ⟨fun c => ⟨?_, fun clear => ?_, fun unclear => ?_⟩, j.returns_run o cs, ?_⟩
  · simp only [run_eq, (call_spec o _ c).1, Call.kept_append, o.heard_append, o.logged_append,
      List.append_assoc]
  · rw [(call_spec o _ c).1, Call.kept_single, if_pos clear]
  · obtain ⟨f, -, failed⟩ := (j.run o cs).1.exists_call_eq_error o c unclear
    rw [failed]
  · rw [run_eq]
    refine ⟨rfl, rfl, rfl, fun log => ?_⟩
    rw [Outlets.lines_foldl_tell o cs rfl]

/-- A warning whose detail has the name of its level is kept nowhere. -/
theorem call_warning_level :
    let c := Call.warning "m" [("level", .text "x")]
    ({} : Journal).call {} c = ({}, .error (.repeated "report" "level")) ∧
      (({} : Journal).call {} c).1.entries ≠ [] ++ [c.entry] := by
  decide

example : (({} : Journal).run { listener := some (· == "lost") }
    [.report "Fatal" "50%" [], .error "lost" [("n", .int 1)], .report "debug" "low" []]) =
      (⟨[⟨"FATAL", "50%", []⟩, ⟨"ERROR", "lost", [("n", .int 1)]⟩, ⟨"DEBUG", "low", []⟩],
          [⟨"FATAL", "50%", []⟩, ⟨"ERROR", "lost", [("n", .int 1)]⟩, ⟨"DEBUG", "low", []⟩],
          [⟨.info, "50%"⟩]⟩,
        [.ok ⟨"FATAL", "50%", []⟩, .error (.listener "lost"), .ok ⟨"DEBUG", "low", []⟩]) := by
  decide

end Journal

end SmartFolder
