import GitPractice.Toml.Scalar
import GitPractice.Toml.Text
import GitPractice.Toml.Tree

/-!
# Reading TOML

`read` takes a whole document to the table that it writes, or to nothing. It first reads the
document's statements, a header or an entry on each line, and then builds the tables.

Values descend with a bound on their steps that the length of the text provides, as each step takes
at least one character.
-/

namespace GitPractice.Toml

/-- What follows space, line breaks and comments, as they may stand inside a list. -/
def skipLoose : Nat → List Char → List Char
  | 0, cs => cs
  | n + 1, cs =>
    match skipComment (skipSpace cs) with
    | r =>
      match newline? r with
      | some r' => skipLoose n r'
      | none => r

def skipLines (cs : List Char) : List Char := skipLoose (cs.length + 1) cs

mutual

/-- A value at a depth of `depth` tables and lists, and what follows it. -/
def readValue : Nat → Nat → List Char → Option (Datum × List Char)
  | 0, _, _ => none
  | n + 1, depth, cs =>
    match cs with
    | '"' :: _ | '\'' :: _ =>
      (readText cs).map fun (text, rest) => (.text (String.ofList text), rest)
    | '[' :: r =>
      if depth + 1 < depthLimit then
        (readItems n (depth + 1) (skipLines r)).map fun (items, rest) => (.list items, rest)
      else none
    | '\x7b' :: r =>
      if depth + 1 < depthLimit then
        match skipSpace r with
        | '\x7d' :: rest => (inlineTable []).map (·, rest)
        | r' =>
          match readPairs n (depth + 1) r' with
          | some (pairs, rest) => (inlineTable pairs).map (·, rest)
          | none => none
      else none
    | _ => readScalar cs

/-- The items of a list up to its end; a comma may follow the last one. -/
def readItems : Nat → Nat → List Char → Option (List Datum × List Char)
  | 0, _, _ => none
  | n + 1, depth, cs =>
    match cs with
    | ']' :: r => some ([], r)
    | _ =>
      match readValue n depth cs with
      | none => none
      | some (item, r) =>
        match skipLines r with
        | ',' :: r' =>
          (readItems n depth (skipLines r')).map fun (items, rest) => (item :: items, rest)
        | ']' :: rest => some ([item], rest)
        | _ => none

/-- The entries of a table in braces, at least one, up to its end. -/
def readPairs : Nat → Nat → List Char → Option (List (List String × Datum) × List Char)
  | 0, _, _ => none
  | n + 1, depth, cs =>
    match readPath cs with
    | some (path, '=' :: r) =>
      match readValue n depth (skipSpace r) with
      | none => none
      | some (value, r) =>
        match skipSpace r with
        | ',' :: r' =>
          (readPairs n depth r').map fun (pairs, rest) => ((path, value) :: pairs, rest)
        | '\x7d' :: rest => some ([(path, value)], rest)
        | _ => none
    | _ => none

end

/-- The header or entry that a line begins with, and what follows it. -/
def readStatement (cs : List Char) : Option (Statement × List Char) :=
  match cs with
  | '[' :: '[' :: r =>
    match readPath r with
    | some (path, ']' :: ']' :: rest) => some (.arrayHeader path, rest)
    | _ => none
  | '[' :: r =>
    match readPath r with
    | some (path, ']' :: rest) => some (.header path, rest)
    | _ => none
  | _ =>
    match readPath cs with
    | some (path, '=' :: r) =>
      (readValue (r.length + 1) 0 (skipSpace r)).map fun (value, rest) =>
        (.entry path value, rest)
    | _ => none

/-- The statements of a document, each on a line of its own. -/
def readStatements : Nat → List Char → Option (List Statement)
  | 0, _ => none
  | n + 1, cs =>
    match skipSpace cs with
    | [] => some []
    | '\n' :: r => readStatements n r
    | '\r' :: r =>
      match r with
      | '\n' :: r' => readStatements n r'
      | _ => none
    | '#' :: r =>
      match endLine? ('#' :: r) with
      | some rest => readStatements n rest
      | none => none
    | cs' =>
      match readStatement cs' with
      | none => none
      | some (s, r) =>
        match endLine? r with
        | some rest => (readStatements n rest).map (s :: ·)
        | none => none

/-- A mark of the byte order in front is no part of the document. -/
def skipMark : List Char → List Char
  | c :: r => if c.toNat = 0xfeff then r else c :: r
  | [] => []

def readChars (cs : List Char) : Option Datum :=
  (readStatements (cs.length + 1) (skipMark cs)).bind build

def read (s : String) : Option Datum := readChars s.toList

end GitPractice.Toml
