import GitPractice.Shell.Catalog
import GitPractice.Console.Pull

/-!
# Running a line

`run` parses a line and hands it to the handler of the command it spells. A line that is no command
changes nothing. Keywords of the session are answered here only as far as they need no session.
-/

namespace GitPractice.Console

open Shell

/-- The handler of a simulated `git` command, or why there is none. -/
def gitHandler (name : String) : Except Misuse Handler :=
  match Catalog.findGit name with
  | none => .error (.unknownGit name)
  | some entry =>
    match Git.handlers.lookup entry.name with
    | some h => if entry.simulated then .ok h else .error (.notSimulated entry.name)
    | none => .error (.notSimulated entry.name)

/-- The handler of a `gh` command, or why there is none. -/
def pullHandler (name : String) (sub : Option String) : Except Misuse Handler :=
  if name ≠ "pr" then .error (.notPull name)
  else
    match Pull.handlers.lookup (sub.getD "") with
    | some h => .ok h
    | none =>
      if sub.getD "" = "" then .error .pullSubcommandRequired
      else .error (.unknownPullSubcommand (sub.getD ""))

/-- The reply to a keyword of the session. -/
def keywordReply (c : Command) : Reply :=
  if c.name = "help" then .printed (help c.args)
  else if c.name = "quit" || c.name = "exit" then .exit
  else .told ("Internal command: " ++ c.name)

def handlerOf (c : Command) : Except Misuse Handler :=
  match c.tool with
  | .internal => .ok (.ofAction (.ofView fun c _ => keywordReply c))
  | .git => gitHandler c.name
  | .gh => pullHandler c.name c.sub

/-- Carries out a command. -/
def execute (c : Command) (r : Repo) : Repo × Response :=
  match handlerOf c with
  | .error e => returning (r.misused e)
  | .ok h => h c r

/-- Carries out the command that a line spells. -/
def run (r : Repo) (line : String) : Repo × Except ParseError Response :=
  match Command.parse line with
  | .error e => (r, .error e)
  | .ok c =>
    let (r', response) := execute c r
    (r', .ok response)

end GitPractice.Console
