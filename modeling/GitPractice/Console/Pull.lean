import GitPractice.Repo.PullRequests
import GitPractice.Console.Git

/-!
# Pull-request commands

What each `gh pr` command does with its flags and words. A pull request is named by its number,
with or without a hash in front; where no number is given, several commands take the pull request
of the checked-out branch.
-/

namespace GitPractice.Console.Pull

open Shell Text

/-- The number of a pull request as a word, such as `7` and `#7`. -/
def number? (word : String) : Option UInt32 :=
  (readNat? UInt32.size (word.toList.dropWhile (· = '#'))).map UInt32.ofNat

def readNumber (word : String) : Except Misuse UInt32 :=
  match number? word with
  | some n => .ok n
  | none => .error .badNumber

/-- The number that the first word gives, or else the open pull request of the checked-out
branch. -/
def numberOrCurrent (r : Repo) : List String → Except Misuse UInt32
  | word :: _ => readNumber word
  | [] =>
    match r.state.openPullFor? r.state.head with
    | some n => .ok n
    | none => .error .noOpenPull

def create : Action := fun c r =>
  match (c.flagValue ["-t", "--title"]).filter (· ≠ "") with
  | none => r.misused .titleRequired
  | some title =>
    r.createPull title ((c.flagValue ["-b", "--body"]).getD "") (c.flagValue ["-H", "--head"])
      ((c.flagValue ["-B", "--base"]).getD mainBranch)

def list : Action := .ofView fun c r =>
  match c.flagValue ["-s", "--state"] with
  | none => r.listPulls .opened
  | some word =>
    match PullFilter.ofWord? word with
    | some filter => r.listPulls filter
    | none => (Misuse.unknownFilter (PullFilter.unknownMessage word)).reply

/-- The method that the switches choose. -/
def methodOf (squash rebase : Command.Switch) : MergeMethod :=
  if squash.set then .squash else if rebase.set then .rebase else .merge

def merge : Handler := fun c r =>
  let squash := c.switch ["--squash", "-s"]
  let rebase := c.switch ["--rebase", "-r"]
  let plain := c.switch ["--merge", "-m"]
  let swallower := ([squash, rebase, plain].find? (·.swallowed.isSome)).getD .off
  match numberOrCurrent r (c.argsWith swallower) with
  | .error e => returning (r.misused e)
  | .ok n => r.mergePull n (methodOf squash rebase)

def close : Action := fun c r =>
  match c.args with
  | [] => r.misused .numberRequired
  | word :: _ =>
    match readNumber word with
    | .error e => r.misused e
    | .ok n => r.closePull n

def view : Action := fun c r =>
  match c.args with
  | word :: _ =>
    match readNumber word with
    | .error e => r.misused e
    | .ok n => r.viewPull n
  | [] =>
    match r.state.pullFor? r.state.head with
    | none => r.misused .noPull
    | some n => r.viewPull n

/-- The verdict that the switches choose, its name and the chosen switch. -/
def actionOf (c : Command) : Option (Verdict × String × Command.Switch) :=
  let approve := c.switch ["--approve", "-a"]
  let changes := c.switch ["--request-changes", "-r"]
  let comment := c.switch ["--comment", "-c"]
  if approve.set then some (.approved, "approve", approve)
  else if changes.set then some (.changesRequested, "request-changes", changes)
  else if comment.set then some (.commented, "comment", comment)
  else none

/-- Reviews under the name of the author. -/
def review : Action := fun c r =>
  match actionOf c with
  | none => r.misused .actionRequired
  | some (verdict, action, chosen) =>
    let body := (c.flagValue ["-b", "--body"]).filter (· ≠ "")
    if body.isNone && verdict ≠ .approved then r.misused (.bodyRequired action)
    else
      match numberOrCurrent r (c.argsWith chosen) with
      | .error e => r.misused e
      | .ok n => r.addReview n r.config.author verdict body

/-- The names in a list parted by commas. -/
def reviewersOf (value : String) : List String :=
  ((piecesAt ',' value.toList).map fun p => String.ofList (trimChars p)).filter (· ≠ "")

def edit : Action := fun c r =>
  match c.args with
  | [] => r.misused .numberRequired
  | word :: _ =>
    match readNumber word with
    | .error e => r.misused e
    | .ok n =>
      let reviewers := reviewersOf ((c.flagValue ["--add-reviewer"]).getD "")
      if reviewers.isEmpty then r.misused .changeRequired else r.requestReview n reviewers

/-- The simulated subcommands. -/
def handlers : List (String × Handler) :=
  [("create", .ofAction create), ("list", .ofAction list), ("merge", merge),
    ("close", .ofAction close), ("view", .ofAction view), ("review", .ofAction review),
    ("edit", .ofAction edit)]

end GitPractice.Console.Pull
