import GitPractice.Text.Lower
import GitPractice.Shell.Word
import GitPractice.Shell.Flags

/-!
# Commands

A line is trimmed, split into words and classified by its first word: a keyword of the session, or
one of the tools `git` and `gh`, followed by the command's name. After `gh pr` the next word is the
subcommand. `Command.classify` depends on the words alone, `Command.parse` reads them from a line.

A flag takes the next word as its value whenever that word has no dash. A switch that has no value
therefore swallows a positional word; `Command.argsWith` puts it back in front.
-/

namespace GitPractice.Shell

open GitPractice.Text (trim lower joinWith)

/-- What a line addresses. -/
inductive Tool where
  | internal
  | git
  | gh
  deriving DecidableEq, Repr

def Tool.name : Tool → String
  | .internal => "internal"
  | .git => "git"
  | .gh => "gh"

/-- A classified line. Flags keep their dashes. -/
structure Command where
  tool : Tool
  name : String
  sub : Option String
  args : List String
  flags : Flags
  raw : String
  deriving DecidableEq

/-- Why a line is no command. -/
inductive ParseError where
  | empty
  | badWord (error : WordError)
  | unknownCommand (word : String)
  | missingSubcommand (tool : String)
  deriving DecidableEq, Repr

namespace ParseError

def message : ParseError → String
  | .empty => "Empty command"
  | .badWord e => "Invalid command syntax: " ++ e.message
  | .unknownCommand w =>
    "Unknown command: '" ++ w ++ "'. Commands should start with 'git' or 'gh'."
  | .missingSubcommand t => "'" ++ t ++ "' requires a subcommand"

def span? : ParseError → Option Span
  | .badWord e => some e.span
  | _ => none

/-- The message, and the line with carets where the place is known. -/
def diagnostic (e : ParseError) (line : String) : String :=
  match e.span? with
  | some s => e.message ++ "\n" ++ snippet line s
  | none => e.message

end ParseError

/-- First words that belong to the session. -/
def keywords : List String :=
  ["help", "quit", "exit", "lesson", "lessons", "hint", "skip", "reset"]

namespace Command

/-- The command of a tool with the words after the tool's name. -/
def ofTool (tool : Tool) (raw name : String) (rest : List String) : Command :=
  match tool, name, rest with
  | .gh, "pr", sub :: tail =>
    let (flags, args) := splitFlags tail
    ⟨tool, name, some sub, args, flags, raw⟩
  | _, _, _ =>
    let (flags, args) := splitFlags rest
    ⟨tool, name, none, args, flags, raw⟩

/-- The tool that a first word in lower case calls. -/
def toolNamed? (head : String) : Option Tool :=
  if head = "git" then some .git else if head = "gh" then some .gh else none

/-- The command that the words of a line make. -/
def classify (raw : String) : List String → Except ParseError Command
  | [] => .error .empty
  | first :: rest =>
    let head := lower first
    if head ∈ keywords then .ok ⟨.internal, head, none, rest, .empty, raw⟩
    else
      match toolNamed? head with
      | none => .error (.unknownCommand head)
      | some tool =>
        match rest with
        | [] => .error (.missingSubcommand head)
        | name :: rest' => .ok (ofTool tool raw name rest')

/-- The command a line spells. -/
def parse (line : String) : Except ParseError Command :=
  let raw := trim line
  if raw = "" then .error .empty
  else
    match splitWords raw with
    | .error e => .error (.badWord e)
    | .ok ws => classify raw ws

/-- Some of the names was given. -/
def hasFlag (c : Command) (names : List String) : Bool := names.any c.flags.contains

/-- The value of the first of the names that has one. -/
def flagValue (c : Command) (names : List String) : Option String :=
  names.findSome? fun n => (c.flags.get? n).join

/-- A boolean switch as given, and the word it swallowed. -/
structure Switch where
  set : Bool
  swallowed : Option String
  deriving DecidableEq, Repr

def Switch.off : Switch := ⟨false, none⟩

def switch (c : Command) (names : List String) : Switch := ⟨c.hasFlag names, c.flagValue names⟩

/-- The positional words, after the word that the switch swallowed. -/
def argsWith (c : Command) (s : Switch) : List String := s.swallowed.toList ++ c.args

/-- The words of a flag in canonical form; an empty value counts as none. -/
def flagWords (flags : Flags) (name : String) : List String :=
  match (flags.get? name).join with
  | some value => if value = "" then [name] else [name, value]
  | none => [name]

/-- The words in canonical order: tool, names, flags by name, positional words. -/
def canonicalWords (c : Command) : List String :=
  [c.tool.name, c.name] ++ c.sub.toList
    ++ (c.flags.keys.mergeSort fun a b => decide (a ≤ b)).flatMap (flagWords c.flags) ++ c.args

end Command

/-- One spelling for all spellings of a command. A line that is no command is put into lower
case. -/
def canonical (line : String) : String :=
  match Command.parse line with
  | .ok c => joinWith " " c.canonicalWords
  | .error _ => lower (trim line)

end GitPractice.Shell
