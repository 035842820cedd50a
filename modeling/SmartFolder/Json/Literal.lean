import SmartFolder.Json.Printer
import SmartFolder.Text.Quoted

/-!
# Values in messages

How a message shows a value: texts in quotes, `None`, `True` and `False` for the constants,
brackets and braces around collections.
-/

namespace SmartFolder.Json

mutual

def literal : Json → String
  | .null => "None"
  | .bool true => "True"
  | .bool false => "False"
  | .int n => String.ofList (printInt n)
  | .decimal x => x.text
  | .text s => Text.quote s
  | .array vs => "[" ++ ", ".intercalate (literals vs) ++ "]"
  | .object ms => "\x7b" ++ ", ".intercalate (memberLiterals ms) ++ "\x7d"

def literals : List Json → List String
  | [] => []
  | v :: vs => literal v :: literals vs

def memberLiterals : List (String × Json) → List String
  | [] => []
  | (k, v) :: ms => (Text.quote k ++ ": " ++ literal v) :: memberLiterals ms

end

/-- As `literal`, but a text stands without its quotes. -/
def plain : Json → String
  | .text s => s
  | v => v.literal

end SmartFolder.Json
