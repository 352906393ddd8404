import GitPractice.Text.Number
import GitPractice.Repo.Refusal

/-!
# The status of a repository

What `git status` reports, and how it is written. The simulation never counts commits between a
branch and the one it follows: they are level or one apart.
-/

namespace GitPractice

open Text (joinWith filledTo)

/-- A number with the word for one thing or for several. -/
def counted (n : Nat) (one many : String) : String :=
  toString n ++ " " ++ if n = 1 then one else many

/-- `1 file changed`, `3 files changed`. -/
def filesChanged (n : Nat) : String := counted n "file" "files" ++ " changed"

/-- The state of the checked-out branch and of the working tree. -/
structure Status where
  branch : String
  followed : Option String
  followedGone : Bool
  ahead : Nat
  behind : Nat
  staged : List StagedChange
  unstaged : List String
  deriving DecidableEq, Repr

namespace Status

def isClean (s : Status) : Bool := s.staged.isEmpty && s.unstaged.isEmpty

/-- What is said about the branch that the present one follows. -/
def followedLines (s : Status) : List String :=
  match s.followed with
  | none => []
  | some u =>
    if s.followedGone then
      ["Your branch is based on '" ++ u ++ "', but the upstream is gone.",
        "  (use \"git branch --unset-upstream\" to fixup)"]
    else if 0 < s.ahead then
      ["Your branch is ahead of '" ++ u ++ "' by " ++ counted s.ahead "commit" "commits" ++ ".",
        "  (use \"git push\" to publish your local commits)"]
    else if 0 < s.behind then
      ["Your branch is behind '" ++ u ++ "' by " ++ counted s.behind "commit" "commits" ++ "."]
    else ["Your branch is up to date with '" ++ u ++ "'."]

def stagedLine (c : StagedChange) : String := "\t" ++ filledTo 12 (c.kind.label ++ ":") ++ c.file

def stagedSection (s : Status) : List String :=
  if s.staged.isEmpty then []
  else
    [joinWith "\n" <|
      ["Changes to be committed:", "  (use \"git restore --staged <file>...\" to unstage)"]
        ++ s.staged.map stagedLine]

def unstagedSection (s : Status) : List String :=
  if s.unstaged.isEmpty then []
  else
    [joinWith "\n" <|
      ["Changes not staged for commit:",
        "  (use \"git add <file>...\" to update what will be committed)",
        "  (use \"git restore <file>...\" to discard changes in working directory)"]
        ++ s.unstaged.map ("\tmodified:   " ++ ·)]

def closingSection (s : Status) : List String :=
  if s.isClean then ["nothing to commit, working tree clean"]
  else if s.staged.isEmpty then
    ["no changes added to commit (use \"git add\" and/or \"git commit -a\")"]
  else []

def render (s : Status) : String :=
  joinWith "\n" (("On branch " ++ s.branch) :: s.followedLines)
    ++ (if s.followed.isSome then "\n\n" else "\n")
    ++ joinWith "\n\n" (s.stagedSection ++ s.unstagedSection ++ s.closingSection)

end Status

namespace State

/-- The remote-tracking branch that the checked-out branch follows. -/
def tracking? (s : State) : Option Branch :=
  (s.headBranch?.bind Branch.followed).bind s.remoteBranches.get?

def status (s : State) : Status :=
  let followed := s.headBranch?.bind Branch.followed
  let ahead :=
    match s.headTip?, s.tracking? with
    | some tip, some t => if tip ≠ t.tip then 1 else 0
    | _, _ => 0
  ⟨s.head, followed, followed.isSome && s.tracking?.isNone, ahead, 0, s.staged, s.working⟩

end State

/-- A hunk that stands for a change of the given kind. -/
def hunk (file : String) : ChangeKind → String
  | .added =>
    "diff --git a/" ++ file ++ " b/" ++ file ++ "\nnew file mode 100644\n--- /dev/null\n+++ b/"
      ++ file ++ "\n@@ -0,0 +1 @@\n+simulated change"
  | .deleted =>
    "diff --git a/" ++ file ++ " b/" ++ file ++ "\ndeleted file mode 100644\n--- a/" ++ file
      ++ "\n+++ /dev/null\n@@ -1 +0,0 @@\n-simulated content"
  | .modified =>
    "diff --git a/" ++ file ++ " b/" ++ file ++ "\n--- a/" ++ file ++ "\n+++ b/" ++ file
      ++ "\n@@ -1,1 +1,1 @@\n-simulated content\n+simulated change"

namespace Repo

def status (r : Repo) : Reply := .printed r.state.status.render

/-- Hunks for the staged changes, or for those that are not staged. -/
def diff (r : Repo) (staged : Bool) : Reply :=
  .printed <| joinWith "\n" <|
    if staged then r.state.staged.map fun c => hunk c.file c.kind
    else r.state.working.map fun f => hunk f .modified

end Repo

end GitPractice
