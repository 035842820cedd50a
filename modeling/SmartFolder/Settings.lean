import SmartFolder.Document.Scalar
import SmartFolder.Lowering
import SmartFolder.Settings.File
import SmartFolder.Text.Keyword

/-!
# Settings

Three settings, each from the first place that gives it: values passed in, the environment, the
settings file, the default. The case of a name does not matter.
-/

namespace SmartFolder

structure Settings where
  logLevel : String := "INFO"
  policy : MalformedPolicy := .raise
  forwards : Bool := true
  deriving DecidableEq, Repr

namespace Settings

def model : String := "CriteriaSettings"

def logLevelName : String := "LOG_LEVEL"

def policyName : String := "CRITERIA_MALFORMED_DATE_POLICY"

def forwardsName : String := "CRITERIA_LOG_DIAGNOSTICS"

structure Sources where
  passed : Members := []
  environment : List (String × String) := []
  file : String := ""

namespace Sources

/-- Whether a key is the name in any case of its letters. -/
def spells (name key : String) : Bool := Text.lower key = Text.lower name

/-- The value passed for a name: under the name itself, or else the first in another case. -/
def passedFor (name : String) (ms : Members) : Option Json :=
  ms.lookup name <|> (ms.find? (spells name ·.1)).map (·.2)

/-- The text bound to a name. Of several the last counts, even if it has no text. -/
def boundTo (name : String) (bindings : List (String × Option String)) : Option Json :=
  (bindings.reverse.find? (spells name ·.1)).bind fun (_, value) => value.map .text

/-- What the first place that gives a setting gives for it. -/
def value? (s : Sources) (name : String) : Option Json :=
  passedFor name s.passed <|> boundTo name (s.environment.map fun (k, v) => (k, some v)) <|>
    boundTo name (ofFile s.environment s.file)

def members (s : Sources) : Members :=
  [logLevelName, policyName, forwardsName].filterMap fun name => (s.value? name).map (name, ·)

end Sources

def ofMembers (ms : Members) : Checked Settings :=
  Checked.make Settings.mk
    |>.apply (ms.optional logLevelName "INFO" Json.checkText)
    |>.apply (ms.optional policyName .raise (Json.checkOneOf .notLiteral))
    |>.apply (ms.optional forwardsName true Json.checkBool)

def ofSources (s : Sources) : Except Refusal Settings :=
  (ofMembers s.members).asModel model

def toJson (s : Settings) : Json :=
  .object [(logLevelName, .text s.logLevel), (policyName, .text s.policy.name),
    (forwardsName, .bool s.forwards)]

end Settings

end SmartFolder
