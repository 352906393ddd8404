import GitPractice.Text.Blank
import GitPractice.Date
import GitPractice.Repo.Index
import GitPractice.Repo.Status

/-!
# History

Commits, merges and the log. A commit takes the staged files and moves the checked-out branch to
itself; a merge does the same with the files of the merged tip. Both need an id that no commit has:
where none is to come, they never return. The log follows parents from the checked-out tip, which
`State.historyFrom` does for a given number of steps.
-/

namespace GitPractice

open Text

namespace Repo

/-- Moves the checked-out branch to a commit. -/
def advanceHead (r : Repo) (tip : CommitId) : Repo :=
  { r with state.branches := r.state.branches.modify r.state.head ({ · with tip := tip }) }

/-- Commits files on top of the checked-out branch, if there is an id for the commit. -/
def commitOnHead (r : Repo) (message : String) (parent : CommitId) (files : List String) :
    Option (CommitId × Repo) :=
  (r.newCommit message (some parent) files).map fun made => (made.1, made.2.advanceHead made.1)

def commit (r : Repo) (message : String) (all : Bool) : Repo × Response :=
  if isBlankText message then returning (r.refuse .blankMessage)
  else
    match r.state.headTip? with
    | none => returning (r.refuse (.noCommitsYet r.state.head))
    | some parent =>
      if r.state.staged.isEmpty && !(all && !r.state.working.isEmpty) then
        returning (r.refuse .nothingToCommit)
      else
        let s := if all then r.state.stageAll else r.state
        let files := s.staged.map StagedChange.file
        let cleared := { r with state := { s with staged := [] } }
        match cleared.commitOnHead message parent files with
        -- The search for an id has no end: this is how far it got, with the files still staged.
        | none => ({ r with state := s }, none)
        | some (id, r') =>
          (r', some (.printed ("[" ++ r.state.head ++ " " ++ id.text ++ "] " ++ message ++ "\n "
            ++ filesChanged files.length)))

/-- How a merged branch is called in the message of the merge. -/
def branchKind (b : Branch) : String := if b.remote then "remote-tracking branch" else "branch"

/-- Merges a local or a remote-tracking branch into the checked-out one. -/
def merge (r : Repo) (branch : String) : Repo × Response :=
  match r.state.branches.get? branch <|> r.state.remoteBranches.get? branch with
  | none => returning (r.refuse (.nothingToMerge branch))
  | some source =>
    match r.state.headTip? with
    | none => returning (r.refuse (.noCommitsYet r.state.head))
    | some parent =>
      let files := ((r.state.commits.get? source.tip).map Commit.files).getD []
      let message := "Merge " ++ branchKind source ++ " '" ++ branch ++ "' into " ++ r.state.head
      match r.commitOnHead message parent files with
      | none => (r, none)
      | some (_, r') =>
        (r', some (.printed ("Merge made by the 'ort' strategy.\n " ++ filesChanged files.length)))

end Repo

namespace State

/-- At most `n` commits from `id` on, each the parent of the one before. -/
def historyFrom (s : State) : Nat → Option CommitId → List Commit
  | 0, _ => []
  | _ + 1, none => []
  | n + 1, some id =>
    match s.commits.get? id with
    | none => []
    | some c => c :: s.historyFrom n c.parent

/-- At most `n` commits from the checked-out tip on, newest first. -/
def history (s : State) (n : Nat) : List Commit := s.historyFrom n s.headTip?

/-- The references that point at a commit: the checked-out branch, the other local branches, and
the remote-tracking ones. -/
def decorations (s : State) (id : CommitId) : List String :=
  (if s.headTip? = some id then ["HEAD -> " ++ s.head] else [])
    ++ (s.branches.values.filter fun b => b.tip = id && b.name ≠ s.head).map Branch.name
    ++ (s.remoteBranches.values.filter (·.tip = id)).map Branch.name

end State

namespace Repo

/-- A commit in the log, on one line or as a paragraph. -/
def logEntry (s : State) (oneline : Bool) (c : Commit) : String :=
  let names := s.decorations c.id
  let decorated := if names.isEmpty then "" else " (" ++ joinWith ", " names ++ ")"
  if oneline then c.id.text ++ decorated ++ " " ++ c.message
  else
    "commit " ++ c.id.text ++ decorated ++ "\nAuthor: " ++ c.author ++ "\nDate:   "
      ++ gitDate c.timestamp ++ "\n\n    " ++ c.message

def log (r : Repo) (count : Nat) (oneline : Bool) : Reply :=
  .printed <| joinWith (if oneline then "\n" else "\n\n") <|
    (r.state.history count).map (logEntry r.state oneline)

end Repo

end GitPractice
