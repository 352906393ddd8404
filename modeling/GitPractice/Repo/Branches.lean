import GitPractice.Text.Blank
import GitPractice.Repo.Refusal

/-!
# Branches

Creating, deleting, listing and switching branches. A name has to obey some of git's rules for
reference names (`isValidBranchName`). The checked-out branch is never deleted, and the main branch
only by force.
-/

namespace GitPractice

open Text

/-- A part of git's rules for the names of references. -/
def isValidBranchName (name : String) : Bool :=
  let cs := name.toList
  let ends (suffix : List Char) := (dropFront? suffix.reverse cs.reverse).isSome
  !cs.isEmpty && name != "HEAD" && cs.head? != some '-' && cs.head? != some '/'
    && cs.getLast? != some '/' && cs.getLast? != some '.' && !ends ".lock".toList
    && !hasInfix "..".toList cs && !hasInfix "//".toList cs && !hasInfix ['@', '{'] cs
    && cs.all fun c => !isBlank c && !isControl c && !"~^:?*[\\".toList.contains c

/-- The branches a list shows. -/
inductive BranchListing where
  | localOnly
  | all
  | remotes
  deriving DecidableEq, Repr

/-- The names in the order of their code points. -/
def sortedNames (names : List String) : List String :=
  names.mergeSort fun a b => decide (a ≤ b)

namespace Repo

/-- The commit a new branch starts at. -/
def startPoint (r : Repo) : Option String → Except Refusal CommitId
  | some rev =>
    match r.state.resolve rev with
    | some id => .ok id
    | none => .error (.unknownRevision rev)
  | none =>
    match r.state.headTip? with
    | some id => .ok id
    | none => .error (.noCommitsYet r.state.head)

def createBranch (r : Repo) (name : String) (start : Option String) : Repo × Reply :=
  if !isValidBranchName name then r.refuse (.badBranchName name)
  else if r.state.branches.contains name then r.refuse (.branchExists name)
  else
    match r.startPoint start with
    | .error e => r.refuse e
    | .ok tip =>
      ({ r with state.branches := r.state.branches.insert name (.localAt name tip) }, .ok)

def deleteBranch (r : Repo) (name : String) (force : Bool) : Repo × Reply :=
  match r.state.branches.get? name with
  | none => r.refuse (.branchNotFound name)
  | some branch =>
    if name = r.state.head then r.refuse (.branchInUse name)
    else if name = mainBranch && !force then r.refuse .mainProtected
    else
      ({ r with state.branches := r.state.branches.erase name },
        .printed ("Deleted branch " ++ name ++ " (was " ++ branch.tip.text ++ ")."))

/-- The lines for the local branches, the checked-out one marked by a star. -/
def localBranchLines (r : Repo) : List String :=
  (sortedNames r.state.branches.keys).map fun n => (if n = r.state.head then "* " else "  ") ++ n

def remoteBranchLines (r : Repo) (lead : String) : List String :=
  (sortedNames r.state.remoteBranches.keys).map fun n => "  " ++ lead ++ n

def listBranches (r : Repo) : BranchListing → Reply
  | .localOnly => .printed (joinWith "\n" r.localBranchLines)
  | .all => .printed (joinWith "\n" (r.localBranchLines ++ r.remoteBranchLines "remotes/"))
  | .remotes => .printed (joinWith "\n" (r.remoteBranchLines ""))

/-- Makes an existing branch the checked-out one. -/
def switchTo (r : Repo) (target : String) : Repo × Reply :=
  if !r.state.branches.contains target then r.refuse (.noSuchBranch target)
  else if r.state.head = target then (r, .printed ("Already on '" ++ target ++ "'"))
  else ({ r with state.head := target }, .printed ("Switched to branch '" ++ target ++ "'"))

/-- Creates a branch and makes it the checked-out one. -/
def createAndSwitch (r : Repo) (target : String) (start : Option String) : Repo × Reply :=
  let (r', created) := r.createBranch target start
  if created.success then
    ({ r' with state.head := target },
      .printed ("Switched to a new branch '" ++ target ++ "'"))
  else (r', created)

def checkout (r : Repo) (target : String) (create : Bool) (start : Option String) : Repo × Reply :=
  if create then r.createAndSwitch target start else r.switchTo target

end Repo

end GitPractice
