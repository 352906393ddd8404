import GitPractice.Shell.Command
import GitPractice.Repo.Branches
import GitPractice.Repo.History
import GitPractice.Repo.Remote
import GitPractice.Console.Misuse

/-!
# Git commands

What each simulated `git` command does with its flags and words. A handler takes its arguments out
of the command, turns it down where one is missing, and hands the rest to the repository. A switch
puts back the word it swallowed where the command needs it.
-/

namespace GitPractice.Console

open Shell Text

/-- The effect of a command on a repository, and its reply if it returns. -/
abbrev Handler := Command → Repo → Repo × Response

/-- The effect of a command that always returns. -/
abbrev Action := Command → Repo → Repo × Reply

/-- An action that only looks at the repository. -/
def Action.ofView (view : Command → Repo → Reply) : Action := fun c r => (r, view c r)

def Handler.ofAction (act : Action) : Handler := fun c r => returning (act c r)

namespace Git

/-- Entries of a log that names no count. -/
def defaultLogCount : Nat := 10

def status : Action := .ofView fun _ r => r.status

/-- Stages paths in order. -/
def addEach (r : Repo) : List String → Repo × Reply
  | [] => (r, .ok)
  | p :: rest =>
    let (r', reply) := r.add p
    if reply.success then addEach r' rest else (r', reply)

def add : Action := fun c r =>
  if c.hasFlag ["-A", "--all"] then r.add "-A"
  else if c.args.isEmpty then r.misused .nothingSpecified
  else addEach r c.args

def commit : Handler := fun c r =>
  match c.flagValue ["-m", "--message", "-am"] with
  | none => returning (r.misused .messageRequired)
  | some message => r.commit message (c.hasFlag ["-a", "--all", "-am"])

def branch : Action := fun c r =>
  if c.hasFlag ["-d", "-D", "--delete"] then
    match c.flagValue ["-d", "-D", "--delete"] <|> c.args.head? with
    | none => r.misused .branchNameRequired
    | some name => r.deleteBranch name (c.hasFlag ["-D", "-f", "--force"])
  else if c.hasFlag ["-a", "--all"] then (r, r.listBranches .all)
  else if c.hasFlag ["-r", "--remotes"] then (r, r.listBranches .remotes)
  else
    match c.args with
    | [] => (r, r.listBranches .localOnly)
    | [name] => r.createBranch name none
    | name :: start :: _ => r.createBranch name (some start)

/-- Name and start point of a branch to create: the flag's value and the first word, or two
words. -/
def createTarget (c : Command) (names : List String) : Option (String × Option String) :=
  match c.flagValue names with
  | some name => some (name, c.args.head?)
  | none =>
    match c.args with
    | [] => none
    | name :: rest => some (name, rest.head?)

/-- Creates the branch that a flag asks for and switches to it. -/
def createBranch (c : Command) (names : List String) (e : Misuse) (r : Repo) : Repo × Reply :=
  match createTarget c names with
  | none => r.misused e
  | some (name, start) => r.checkout name true start

def checkout : Action := fun c r =>
  match c.flagValue ["--"] with
  | some path => r.discard [path]
  | none =>
    if c.hasFlag ["-b", "--branch"] then
      createBranch c ["-b", "--branch"] (.newBranchRequired "b" "git checkout -b <branch-name>") r
    else
      match c.args with
      | [] => r.misused .checkoutTargetRequired
      | target :: _ => r.checkout target false none

def switch : Action := fun c r =>
  if c.hasFlag ["-c", "--create"] then
    createBranch c ["-c", "--create"] (.newBranchRequired "c" "git switch -c <branch-name>") r
  else
    match c.args with
    | [] => r.misused .switchTargetRequired
    | target :: _ => r.checkout target false none

def merge : Handler := fun c r =>
  match c.argsWith (c.switch ["--no-ff"]) with
  | [] => returning (r.misused .mergeTargetRequired)
  | name :: _ => r.merge name

/-- The digits of a count that is part of the flag, as in `-n3` and `-3`. -/
def attachedCount (name : String) : Option (List Char) :=
  let rest := dropFront? ['-', 'n'] name.toList <|> dropFront? ['-'] name.toList
  rest.filter isDigits

/-- The count that one flag gives, if it can be read. -/
def countOf (flag : String × Option String) : Option Nat :=
  let digits :=
    if flag.1 = "-n" || flag.1 = "--max-count" then flag.2.map String.toList
    else attachedCount flag.1
  digits.bind (readNat? UInt64.size)

/-- The last count among the flags. -/
def logCount (c : Command) : Nat := (c.flags.entries.filterMap countOf).getLastD defaultLogCount

def log : Action := .ofView fun c r => r.log (logCount c) (c.hasFlag ["--oneline"])

def push : Action := fun c r =>
  let follow := c.switch ["-u", "--set-upstream"]
  let args := c.argsWith follow
  r.push (args.headD defaultRemote) args[1]? follow.set

def pull : Action := .ofView fun _ _ => Repo.pull

def fetch : Action := .ofView fun _ r => r.fetch

def diff : Action := .ofView fun c r => r.diff (c.hasFlag ["--staged", "--cached"])

def remote : Action := .ofView fun c r =>
  match c.args with
  | sub :: _ => (Misuse.remoteSubcommand sub).reply
  | [] => r.remotes (c.hasFlag ["-v", "--verbose"])

def restore : Action := fun c r =>
  let staged := c.switch ["--staged", "-S"]
  let paths := c.argsWith staged
  if paths.isEmpty then r.misused .restorePathsRequired
  else if staged.set then r.unstage paths
  else r.discard paths

/-- The list of working files after a reset. -/
def resetReply (working : List String) : Reply :=
  if working.isEmpty then .ok
  else
    .printed ("Unstaged changes after reset:\n" ++ joinWith "\n" (working.map ("M\t" ++ ·)))

def reset : Action := fun c r =>
  match ["--hard", "--soft", "--mixed"].find? c.flags.contains with
  | some mode => r.misused (.resetMode mode)
  | none =>
    let named := c.args.filter (· ≠ "HEAD")
    let paths := if named.isEmpty then r.state.staged.map StagedChange.file else named
    let (r', reply) := r.unstage paths
    if reply.success then (r', resetReply r'.state.working) else (r', reply)

/-- The simulated commands. -/
def handlers : List (String × Handler) :=
  [("status", .ofAction status), ("add", .ofAction add), ("commit", commit),
    ("branch", .ofAction branch), ("checkout", .ofAction checkout), ("switch", .ofAction switch),
    ("merge", merge), ("log", .ofAction log), ("push", .ofAction push), ("pull", .ofAction pull),
    ("fetch", .ofAction fetch), ("diff", .ofAction diff), ("remote", .ofAction remote),
    ("restore", .ofAction restore), ("reset", .ofAction reset)]

end Git

end GitPractice.Console
