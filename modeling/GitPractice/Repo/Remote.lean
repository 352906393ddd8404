import GitPractice.Repo.Refusal

/-!
# The remote

Pushing is the one operation that changes what is known of a remote: the branch is stored there
under the remote's name. Nothing in the simulation moves a remote on, so pulling and fetching only
speak.
-/

namespace GitPractice

open Text (joinWith)

namespace Repo

/-- What a push says of the objects it sends. -/
def transferLines : List String :=
  ["Enumerating objects: 5, done.", "Counting objects: 100% (5/5), done.",
    "Writing objects: 100% (3/3), 298 bytes | 298.00 KiB/s, done.",
    "Total 3 (delta 0), reused 0 (delta 0)"]

/-- The advice to open a pull request for any branch but the main one. -/
def proposalLines (r : Repo) (name : String) : List String :=
  if name = mainBranch then []
  else
    ["remote: Create a pull request for '" ++ name ++ "' on GitHub by visiting:",
      "remote:      " ++ r.config.webUrl ++ "/pull/new/" ++ name]

/-- Whether the branch is new to the remote or which commits it moved between. -/
def movedLine (name : String) (before : Option CommitId) (tip : CommitId) : String :=
  match before with
  | none => " * [new branch]      " ++ name ++ " -> " ++ name
  | some old => "   " ++ old.text ++ ".." ++ tip.text ++ "  " ++ name ++ " -> " ++ name

/-- Publishes a branch (the checked-out one if none is named), and may make it follow the published
one. -/
def push (r : Repo) (remote : String) (branch : Option String) (follow : Bool) :
    Repo × Reply :=
  let name := branch.getD r.state.head
  match r.state.branches.get? name with
  | none => r.refuse (.noSuchRefspec name)
  | some source =>
    let tracking := remote ++ "/" ++ name
    let before := (r.state.remoteBranches.get? tracking).map Branch.tip
    let (s, lines) :=
      if before = some source.tip then (r.state, ["Everything up-to-date"])
      else
        ({ r.state with
            remoteBranches := r.state.remoteBranches.insert tracking
              (.trackingAt tracking source.tip) },
          transferLines ++ r.proposalLines name ++ ["To " ++ r.state.remoteUrl]
            ++ [movedLine name before source.tip])
    if follow then
      ({ r with
          state := { s with
            branches := s.branches.modify name ({ · with followed := some tracking }) } },
        .printed (joinWith "\n" (lines
          ++ ["branch '" ++ name ++ "' set up to track '" ++ tracking ++ "'."])))
    else ({ r with state := s }, .printed (joinWith "\n" lines))

def pull : Reply := .printed "Already up to date."

def fetch (r : Repo) : Reply :=
  .printed ("From " ++ r.state.remoteUrl ++ "\n * branch            " ++ mainBranch
    ++ "       -> FETCH_HEAD")

/-- The remote's name, with its addresses if asked for. -/
def remotes (r : Repo) (verbose : Bool) : Reply :=
  if verbose then
    .printed (defaultRemote ++ "\t" ++ r.state.remoteUrl ++ " (fetch)\n" ++ defaultRemote ++ "\t"
      ++ r.state.remoteUrl ++ " (push)")
  else .printed defaultRemote

end Repo

end GitPractice
