import GitPractice.Datum
import GitPractice.Text.Join

/-!
# Writing JSON

`compact` writes a value without any space, `pretty` on several lines, indented by two spaces a
level; empty lists and tables stay on one line. Control characters, quotes and backslashes are
escaped and all else stands for itself.
-/

namespace GitPractice.Json

open Text (joinWith)

def hexDigit (n : Nat) : Char := "0123456789abcdef".toList.getD n '0'

/-- A character as it stands in a text. -/
def escape (c : Char) : List Char :=
  if c = '"' then ['\\', '"']
  else if c = '\\' then ['\\', '\\']
  else if c = Char.ofNat 8 then ['\\', 'b']
  else if c = Char.ofNat 12 then ['\\', 'f']
  else if c = '\n' then ['\\', 'n']
  else if c = '\r' then ['\\', 'r']
  else if c = '\t' then ['\\', 't']
  else if c < ' ' then ['\\', 'u', '0', '0', hexDigit (c.toNat / 16), hexDigit (c.toNat % 16)]
  else [c]

def quoted (s : String) : String := "\"" ++ String.ofList (s.toList.flatMap escape) ++ "\""

/-- A value that is no list or table; `other` has no spelling of its own. -/
def scalar : Datum → String
  | .bool true => "true"
  | .bool false => "false"
  | .integer n => toString n
  | .text s => quoted s
  | _ => "null"

mutual

def compact : Datum → String
  | .list items => "[" ++ joinWith "," (compactItems items) ++ "]"
  | .table entries => "\x7b" ++ joinWith "," (compactEntries entries) ++ "\x7d"
  | d => scalar d

def compactItems : List Datum → List String
  | [] => []
  | d :: ds => compact d :: compactItems ds

def compactEntries : List (String × Datum) → List String
  | [] => []
  | (k, d) :: es => (quoted k ++ ":" ++ compact d) :: compactEntries es

end

/-- The beginning of a line at a level. -/
def indent (level : Nat) : String := String.ofList (List.replicate (2 * level) ' ')

/-- Lines between brackets, one level further in. -/
def block (opening closing : String) (level : Nat) (lines : List String) : String :=
  match lines with
  | [] => opening ++ closing
  | _ =>
    opening ++ "\n" ++ joinWith ",\n" (lines.map (indent (level + 1) ++ ·)) ++ "\n"
      ++ indent level ++ closing

mutual

/-- A value at a level of indentation. -/
def prettyAt (level : Nat) : Datum → String
  | .list items => block "[" "]" level (prettyItems (level + 1) items)
  | .table entries => block "\x7b" "\x7d" level (prettyEntries (level + 1) entries)
  | d => scalar d

def prettyItems (level : Nat) : List Datum → List String
  | [] => []
  | d :: ds => prettyAt level d :: prettyItems level ds

def prettyEntries (level : Nat) : List (String × Datum) → List String
  | [] => []
  | (k, d) :: es => (quoted k ++ ": " ++ prettyAt level d) :: prettyEntries level es

end

def pretty (d : Datum) : String := prettyAt 0 d

end GitPractice.Json
