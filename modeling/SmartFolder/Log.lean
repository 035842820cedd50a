import SmartFolder.Json.Literal
import SmartFolder.Level

/-!
# The log

A log is set up once, at a level; what comes later does not change it. It keeps the lines that are
not below its level. The first logger that is asked for sets it up if nothing did before.
-/

namespace SmartFolder

structure LogLine where
  level : Level
  message : String
  deriving DecidableEq

structure Log where
  configured : Bool := false
  /-- Lines below this level are dropped. -/
  threshold : Level := .warning
  handlers : Nat := 0
  logger : Option String := none
  lines : List LogLine := []
  deriving DecidableEq

/-- A message with its arguments in place: `%s` takes any value, `%d` the whole part of a number,
and `%%` writes a percent sign. There must be as many arguments as places, except that `spare`
arguments may be left over. -/
def formatMessage (spare : Bool) : List Char → List Json → Option (List Char)
  | [], args => if spare || args.isEmpty then some [] else none
  | '%' :: '%' :: cs, args => (formatMessage spare cs args).map ('%' :: ·)
  | '%' :: 's' :: cs, v :: args => (formatMessage spare cs args).map (v.plain.toList ++ ·)
  | '%' :: 'd' :: cs, v :: args =>
    v.wholePart?.bind fun n => (formatMessage spare cs args).map (Json.printInt n ++ ·)
  | c :: cs, args => if c = '%' then none else (formatMessage spare cs args).map (c :: ·)

/-- Arguments that a message need not use: a single object with members. -/
def areSpare : List Json → Bool
  | [.object (_ :: _)] => true
  | _ => false

namespace Log

def defaultName : String := "smartcriteria.logger"

/-- Sets the log up at the level a text names, unless it has been set up before. -/
def setup (log : Log) (level : String) : Log :=
  if log.configured then log
  else { log with configured := true, threshold := .ofText level, handlers := 1 }

/-- Takes a logger into use, setting the log up at the level of the settings if need be. -/
def withLogger (log : Log) (setting : String) (name : Option String) : Log :=
  { log.setup setting with
    logger := some (match name with
      | some name => if name.isEmpty then defaultName else name
      | none => defaultName) }

/-- Adds a line. A message without arguments stands as it is; one whose arguments do not fit is
lost. -/
def write (log : Log) (level : Level) (message : String) (args : List Json) : Log :=
  let text :=
    if args.isEmpty then some message
    else (formatMessage (areSpare args) message.toList args).map String.ofList
  match text with
  | some text =>
    if log.threshold ≤ level then { log with lines := log.lines ++ [⟨level, text⟩] } else log
  | none => log

/-- Without arguments a message stands as it is, whatever percent signs it has. -/
theorem write_plain (log : Log) (level : Level) (message : String) :
    log.write level message [] =
      if log.threshold ≤ level then { log with lines := log.lines ++ [⟨level, message⟩] }
      else log :=
  rfl

end Log

end SmartFolder
