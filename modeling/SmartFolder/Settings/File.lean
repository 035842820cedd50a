import SmartFolder.Table
import SmartFolder.Text.Blank

/-!
# Settings files

A settings file binds keys to texts, one binding a line: `KEY=value`. Values may stand in quotes,
comments start with a number sign, and `${KEY}` stands for the value of another key. A line that
is no binding is skipped.
-/

namespace SmartFolder.Settings

open Text

structure Binding where
  key : String
  value : Option String
  deriving DecidableEq, Repr

/-- The text with every line break in its one-character form. -/
def normalizeBreaks : List Char → List Char
  | [] => []
  | '\r' :: '\n' :: rest => '\n' :: normalizeBreaks rest
  | c :: rest => (if c = '\r' then '\n' else c) :: normalizeBreaks rest

def isLineBlank (c : Char) : Bool := isBlank c && c != '\n'

def skipLine (cs : List Char) : List Char := (cs.dropWhile (· ≠ '\n')).drop 1

/-! ### Keys and values -/

/-- The text up to the closing quote. A character after a backslash does not close. -/
def readQuoted (quote : Char) : List Char → Option (List Char × List Char)
  | [] => none
  | '\\' :: c :: rest => (readQuoted quote rest).map fun (body, rest) => ('\\' :: c :: body, rest)
  | c :: rest =>
    if c = quote then some ([], rest)
    else (readQuoted quote rest).map fun (body, rest) => (c :: body, rest)

/-- The character that an escape stands for, in double quotes or in single ones. -/
def escape? (double : Bool) : Char → Option Char
  | '\\' => some '\\'
  | '\x27' => some '\x27'
  | '\x22' => if double then some '\x22' else none
  | 'a' => if double then some '\x07' else none
  | 'b' => if double then some '\x08' else none
  | 'f' => if double then some '\x0c' else none
  | 'n' => if double then some '\n' else none
  | 'r' => if double then some '\r' else none
  | 't' => if double then some '\t' else none
  | 'v' => if double then some '\x0b' else none
  | _ => none

def unescape (double : Bool) : List Char → List Char
  | [] => []
  | '\\' :: c :: rest =>
    match escape? double c with
    | some d => d :: unescape double rest
    | none => '\\' :: unescape double (c :: rest)
  | c :: rest => c :: unescape double rest

/-- A value without quotes ends before a number sign that follows a blank. -/
def cutComment : List Char → List Char
  | [] => []
  | c :: rest =>
    if isBlank c && (rest.dropWhile isBlank).head? == some '#' then [] else c :: cutComment rest

def readValue (cs : List Char) : Option (List Char × List Char) :=
  match cs.dropWhile isLineBlank with
  | '\x27' :: rest => (readQuoted '\x27' rest).map fun (body, rest) => (unescape false body, rest)
  | '\x22' :: rest => (readQuoted '\x22' rest).map fun (body, rest) => (unescape true body, rest)
  | _ => some (trim isBlank (cutComment (cs.takeWhile (· ≠ '\n'))), cs.dropWhile (· ≠ '\n'))

/-- A key, bare or in single quotes. -/
def readKey : List Char → Option (List Char × List Char)
  | '\x27' :: rest =>
    match rest.span (· ≠ '\x27') with
    | ([], _) => none
    | (key, _ :: rest) => some (key, rest)
    | (_, []) => none
  | cs =>
    match cs.span fun c => c ≠ '=' && c ≠ '#' && !isBlank c with
    | ([], _) => none
    | (key, rest) => some (key, rest)

/-- The rest of a line after a binding: blanks, perhaps a comment, and the line's end. -/
def endLine (cs : List Char) : Option (List Char) :=
  match cs.dropWhile isLineBlank with
  | [] => some []
  | '\n' :: rest => some rest
  | '#' :: rest => some (skipLine rest)
  | _ => none

/-! ### Lines -/

/-- The text after the word `export` and blanks, where a line starts with them. -/
def skipExport (cs : List Char) : List Char :=
  if "export".toList.isPrefixOf cs then
    let rest := cs.drop 6
    if rest.head?.any isLineBlank then rest.dropWhile isLineBlank else cs
  else cs

/-- The binding at the front, none for a comment, and the rest; or, for a line that is no binding,
what is left of it. -/
def readLine (cs : List Char) : Except (List Char) (Option Binding × List Char) :=
  match cs with
  | '#' :: rest => .ok (none, skipLine rest)
  | cs =>
    match readKey cs with
    | none => .error cs
    | some (key, rest) =>
      match rest.dropWhile isLineBlank with
      | '=' :: rest =>
        match readValue rest with
        | none => .error rest
        | some (value, rest) =>
          match endLine rest with
          | none => .error rest
          | some rest => .ok (some ⟨String.ofList key, some (String.ofList value)⟩, rest)
      | rest =>
        match endLine rest with
        | none => .error rest
        | some rest => .ok (some ⟨String.ofList key, none⟩, rest)

/-- The bindings in order. The number bounds the lines. -/
def readLines : Nat → List Char → List Binding
  | 0, _ => []
  | fuel + 1, cs =>
    match cs.dropWhile isBlank with
    | [] => []
    | cs =>
      match readLine (skipExport cs) with
      | .ok (binding, rest) => binding.toList ++ readLines fuel rest
      | .error rest => readLines fuel (skipLine rest)

/-! ### References -/

/-- The name and the default of a reference, after its opening brace. -/
def readReference (cs : List Char) : Option (List Char × List Char × List Char) :=
  match cs.span fun c => c ≠ '\x7d' && c ≠ ':' with
  | (name, '\x7d' :: rest) => some (name, [], rest)
  | (name, ':' :: '-' :: rest) =>
    match rest.span (· ≠ '\x7d') with
    | (default, _ :: rest) => some (name, default, rest)
    | (_, []) => none
  | _ => none

/-- The text with each reference replaced by what it refers to. The number bounds the steps. -/
def expand (value? : String → Option String) : Nat → List Char → List Char
  | 0, cs => cs
  | _, [] => []
  | fuel + 1, '$' :: '\x7b' :: rest =>
    match readReference rest with
    | some (name, default, rest) =>
      ((value? (String.ofList name)).map String.toList).getD default ++ expand value? fuel rest
    | none => '$' :: '\x7b' :: expand value? fuel rest
  | fuel + 1, c :: rest => c :: expand value? fuel rest

/-- The table of bindings, with references replaced from the first binding to the last: what is
bound before comes first, then the environment. A key without a value is worth the empty text. -/
def resolve (environment : List (String × String)) (bindings : List Binding) :
    List (String × Option String) :=
  bindings.foldl (fun table b =>
    let value? (key : String) : Option String :=
      (table.lookup key).map (·.getD "") <|> environment.lookup key
    Table.put b.key
      (b.value.map fun s => String.ofList (expand value? s.length s.toList)) table) []

def dropMark : List Char → List Char
  | '\ufeff' :: cs => cs
  | cs => cs

def ofFile (environment : List (String × String)) (text : String) :
    List (String × Option String) :=
  let cs := normalizeBreaks (dropMark text.toList)
  resolve environment (readLines (cs.length + 1) cs)

end SmartFolder.Settings
