import GitPractice.Lesson.Course
import GitPractice.Repo.Branches
import GitPractice.Repo.History
import GitPractice.Repo.Status
import GitPractice.Session.Palette

/-!
# Panels

What a session shows of a repository and of lessons: a summary, the commits as a tree, the list of
lessons, the start of a lesson, and a step.
-/

namespace GitPractice.Panel

open Text (joinWith)

variable (p : Palette)

/-! ## The repository -/

/-- How the checked-out branch stands to the one it follows. -/
def followedLine (s : Status) (followed : String) : String :=
  let name := p.yellow followed
  if s.followedGone then "Upstream " ++ name ++ " is gone"
  else if 0 < s.ahead then
    "Ahead of " ++ name ++ " by " ++ counted s.ahead "commit" "commits"
  else if 0 < s.behind then
    "Behind " ++ name ++ " by " ++ counted s.behind "commit" "commits"
  else "Up to date with " ++ name

def pullState (r : PullRequest) : String :=
  match r.status with
  | .opened => p.green (if r.approved then "open, approved" else "open")
  | .merged => p.muted "merged"
  | .closed => p.red "closed"

def pullLine (r : PullRequest) : String :=
  "Pull request #" ++ toString r.number.toNat ++ ": " ++ r.title ++ " (" ++ pullState p r ++ ")"

/-- The latest pull request from the checked-out branch. -/
def latestPull? (s : State) : Option PullRequest :=
  s.pullRequests.values.reverse.find? (·.source = s.head)

def branchLines (s : State) : List String :=
  let status := s.status
  [p.header "Repository Status", "On branch " ++ p.yellow status.branch]
    ++ (status.followed.toList.map (followedLine p status))
    ++ (latestPull? s).toList.map (pullLine p)

def stagedLines (changes : List StagedChange) : List String :=
  p.green "Changes to be committed:"
    :: changes.map fun c => "  " ++ p.green (c.kind.name ++ ":") ++ " " ++ c.file

def unstagedLines (files : List String) : List String :=
  p.yellow "Changes not staged for commit:"
    :: files.map fun f => "  " ++ p.yellow "modified:" ++ " " ++ f

/-- A summary of the repository: the branch, and the changes if there are any. -/
def status (s : State) : String :=
  let changes :=
    (if s.staged.isEmpty then [] else [stagedLines p s.staged])
      ++ if s.working.isEmpty then [] else [unstagedLines p s.working]
  let sections := branchLines p s ::
    if changes.isEmpty then [[p.muted "nothing to commit, working tree clean"]] else changes
  joinWith "\n\n" (sections.map (joinWith "\n"))

/-- The number of commits in the tree. -/
def treeDepth : Nat := 8

/-- The number of characters a message may have in the tree. -/
def messageWidth : Nat := 40

/-- The message, cut if it is too long. -/
def shortMessage (message : String) : String :=
  let cs := message.toList
  if messageWidth < cs.length then String.ofList (cs.take (messageWidth - 3)) ++ "..." else message

def treeLine (s : State) (c : Commit) : String :=
  let names := s.decorations c.id
  p.muted "*" ++ " " ++ p.yellow c.id.text
    ++ (if names.isEmpty then "" else " " ++ p.green ("(" ++ joinWith ", " names ++ ")"))
    ++ " " ++ shortMessage c.message

/-- The latest commits of the checked-out branch with the references to them, and all branches. -/
def tree (s : State) (depth : Nat) : String :=
  let commits := (s.history depth).map (treeLine p s)
  let branches := (sortedNames s.branches.keys).map fun n =>
    if n = s.head then p.green ("*" ++ n) else p.muted n
  p.header "Commit History" ++ "\n"
    ++ joinWith "\n" (if commits.isEmpty then [p.muted "No commits yet"] else commits)
    ++ "\n\nBranches: " ++ joinWith " " branches

/-! ## Lessons -/

/-- The lessons from number `n` on, each marked as completed or not. -/
def catalogLines (c : Course) (n : Nat) : List Lesson → List String
  | [] => []
  | l :: r =>
    let title := toString n ++ ". " ++ l.title
    (if c.isCompleted l.id then "  " ++ p.green "✓" ++ " " ++ p.muted title
      else "  " ++ p.muted "○" ++ " " ++ title) :: catalogLines c (n + 1) r

/-- All lessons with their numbers. -/
def catalog (c : Course) : String :=
  joinWith "\n" <|
    [p.header "Lessons"] ++ catalogLines p c 1 c.lessons.values
      ++ [p.context "Type 'lesson <number>' to start a lesson."]

/-- The start of a lesson: title, description and objectives. -/
def intro (l : Lesson) : String :=
  p.header ("Starting lesson: " ++ l.title)
    ++ (if l.description = "" then "" else "\n" ++ l.description)
    ++ if l.objectives.isEmpty then ""
      else "\n\nObjectives:" ++ String.join (l.objectives.map ("\n  - " ++ ·))

/-- What a step asks for, and how to go on where it is not by a command. -/
def step (s : Step) (number count : Nat) : String :=
  p.muted ("[" ++ toString number ++ "/" ++ toString count ++ "]") ++ " "
    ++ Text.trimEnd s.instruction
    ++ match s.kind with
      | .explanation => "\n" ++ p.context "(Press Enter to continue)"
      | .freePractice => "\n" ++ p.context "(Type 'skip' when you are done)"
      | .command => ""

end GitPractice.Panel
