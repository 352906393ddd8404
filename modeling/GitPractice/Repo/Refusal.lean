import GitPractice.Repo.Basic

/-!
# Refusals

The reasons for which an operation on the repository or its pull requests is refused. A refused
operation leaves the repository as it is; `Refusal.message` is what it says and `Refusal.hints`
what it advises.
-/

namespace GitPractice

inductive Refusal where
  | noCommitsYet (head : String)
  | badBranchName (name : String)
  | branchExists (name : String)
  | unknownRevision (rev : String)
  | branchNotFound (name : String)
  | branchInUse (name : String)
  | mainProtected
  | noSuchBranch (target : String)
  | notStaged (path : String)
  | notPending (path : String)
  | blankMessage
  | nothingToCommit
  | nothingToMerge (branch : String)
  | noSuchRefspec (name : String)
  | sourceMissing (source : String)
  | sameBranch
  | baseMissing (target : String)
  | notPushed (source : String)
  | alreadyProposed (source target url : String)
  | noSuchPull (number : UInt32)
  | pullNotOpen (number : UInt32) (status : PullStatus)
  | sourceGone (source : String)
  | baseGone (target : String)
  deriving DecidableEq, Repr

/-- The number as it is printed. -/
def numberText (n : UInt32) : String := toString n.toNat

namespace Refusal

def message : Refusal → String
  | noCommitsYet head => "fatal: your current branch '" ++ head ++ "' does not have any commits yet"
  | badBranchName name => "fatal: '" ++ name ++ "' is not a valid branch name"
  | branchExists name => "fatal: a branch named '" ++ name ++ "' already exists"
  | unknownRevision rev => "fatal: not a valid object name: '" ++ rev ++ "'"
  | branchNotFound name => "error: branch '" ++ name ++ "' not found"
  | branchInUse name => "error: cannot delete branch '" ++ name ++ "' used by worktree"
  | mainProtected => "error: cannot delete the main branch"
  | noSuchBranch target => "error: pathspec '" ++ target ++ "' did not match any branch"
  | notStaged path => "error: pathspec '" ++ path ++ "' is not staged"
  | notPending path =>
    "error: pathspec '" ++ path ++ "' did not match any file(s) known to git"
  | blankMessage => "Aborting commit due to empty commit message."
  | nothingToCommit => "nothing to commit, working tree clean"
  | nothingToMerge branch => "merge: " ++ branch ++ " - not something we can merge"
  | noSuchRefspec name => "error: src refspec " ++ name ++ " does not match any"
  | sourceMissing source => "error: branch '" ++ source ++ "' does not exist"
  | sameBranch => "error: cannot create PR from a branch to itself"
  | baseMissing target => "error: base branch '" ++ target ++ "' does not exist"
  | notPushed source => "error: branch '" ++ source ++ "' has not been pushed to remote"
  | alreadyProposed source target url =>
    "a pull request for branch \"" ++ source ++ "\" into branch \"" ++ target
      ++ "\" already exists:\n" ++ url
  | noSuchPull number => "error: pull request #" ++ numberText number ++ " not found"
  | pullNotOpen number status =>
    "error: pull request #" ++ numberText number ++ " is already " ++ status.name
  | sourceGone source => "error: head branch '" ++ source ++ "' no longer exists"
  | baseGone target => "error: base branch '" ++ target ++ "' no longer exists"

def hints : Refusal → List String
  | noSuchBranch target =>
    ["Did you mean to create branch '" ++ target ++ "'? Use: git checkout -b " ++ target]
  | nothingToCommit => ["Use 'git add <file>' to stage changes"]
  | notPushed source => ["Push your branch first: git push -u origin " ++ source]
  | _ => []

def reply (e : Refusal) : Reply := ⟨false, e.message, none, e.hints⟩

end Refusal

/-- The repository as it is, and the reason why nothing was done. -/
def Repo.refuse (r : Repo) (e : Refusal) : Repo × Reply := (r, e.reply)

end GitPractice
