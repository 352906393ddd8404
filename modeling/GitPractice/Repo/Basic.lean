import GitPractice.OrderedMap
import GitPractice.Fingerprint
import GitPractice.Reply

/-!
# The simulated repository

A `State` is all that is known about a repository: commits, local and remote-tracking branches,
the checked-out branch, the staged and the working changes, and the pull requests of the hosting
service. A `Repo` adds what new records are made of: the author and the address of the remote, the
ids to come and the clock. `Repo.fresh` has one commit on the branch `main`.
-/

namespace GitPractice

structure CommitId where
  text : String
  deriving DecidableEq, Repr

namespace CommitId

/-- Ids are ordered as their texts are, by code points. -/
instance : LT CommitId := ⟨fun a b => a.text < b.text⟩

instance (a b : CommitId) : Decidable (a < b) := inferInstanceAs (Decidable (a.text < b.text))

end CommitId

/-- A commit has one parent; a merge records only the branch it was made on. -/
structure Commit where
  id : CommitId
  message : String
  parent : Option CommitId
  author : String
  timestamp : UInt64
  files : List String
  deriving DecidableEq, Repr

/-- A local branch, or the branch of a remote as it was last seen. -/
structure Branch where
  name : String
  tip : CommitId
  followed : Option String
  remote : Bool
  deriving DecidableEq, Repr

namespace Branch

/-- A local branch that follows none. -/
def localAt (name : String) (tip : CommitId) : Branch := ⟨name, tip, none, false⟩

/-- A remote-tracking branch. -/
def trackingAt (name : String) (tip : CommitId) : Branch := ⟨name, tip, none, true⟩

end Branch

inductive ChangeKind where
  | added
  | modified
  | deleted
  deriving DecidableEq, Repr

namespace ChangeKind

def name : ChangeKind → String
  | .added => "added"
  | .modified => "modified"
  | .deleted => "deleted"

/-- The label in the status of a working tree. -/
def label : ChangeKind → String
  | .added => "new file"
  | .modified => "modified"
  | .deleted => "deleted"

end ChangeKind

structure StagedChange where
  file : String
  kind : ChangeKind
  deriving DecidableEq, Repr

inductive PullStatus where
  | opened
  | merged
  | closed
  deriving DecidableEq, Repr

namespace PullStatus

def name : PullStatus → String
  | .opened => "open"
  | .merged => "merged"
  | .closed => "closed"

def capitals : PullStatus → String
  | .opened => "OPEN"
  | .merged => "MERGED"
  | .closed => "CLOSED"

/-- The mark in a list of pull requests. -/
def mark : PullStatus → String
  | .opened => "O"
  | .merged => "M"
  | .closed => "C"

end PullStatus

/-- What a reviewer said; `pending` is a review that was asked for. -/
inductive Verdict where
  | pending
  | approved
  | changesRequested
  | commented
  deriving DecidableEq, Repr

def Verdict.name : Verdict → String
  | .pending => "pending"
  | .approved => "approved"
  | .changesRequested => "changes_requested"
  | .commented => "commented"

structure Review where
  reviewer : String
  verdict : Verdict
  comment : Option String
  deriving DecidableEq, Repr

/-- A proposal to merge the branch `source` into `target`. -/
structure PullRequest where
  number : UInt32
  title : String
  body : String
  source : String
  target : String
  author : String
  status : PullStatus
  reviews : List Review
  approved : Bool
  deriving DecidableEq, Repr

/-- The branch of a new repository; it is deleted by force only. -/
def mainBranch : String := "main"

/-- The remote that is meant where none is named. -/
def defaultRemote : String := "origin"

structure State where
  commits : OrderedMap CommitId Commit
  branches : OrderedMap String Branch
  remoteBranches : OrderedMap String Branch
  head : String
  staged : List StagedChange
  working : List String
  remoteUrl : String
  pullRequests : OrderedMap UInt32 PullRequest
  nextNumber : UInt32
  deriving DecidableEq

namespace State

/-- No commit and no branch yet. -/
def empty (remoteUrl : String) : State :=
  ⟨.empty, .empty, .empty, mainBranch, [], [], remoteUrl, .empty, 1⟩

/-- The ids of all commits. -/
def commitIds (s : State) : List String := s.commits.keys.map CommitId.text

/-- The checked-out branch. -/
def headBranch? (s : State) : Option Branch := s.branches.get? s.head

/-- The commit the checked-out branch points at. -/
def headTip? (s : State) : Option CommitId := s.headBranch?.map Branch.tip

def headCommit? (s : State) : Option Commit := s.headTip?.bind s.commits.get?

def isStaged (s : State) (file : String) : Bool := s.staged.any (·.file = file)

def isPending (s : State) (file : String) : Bool := s.working.contains file

theorem isStaged_iff {s : State} {file : String} :
    s.isStaged file = true ↔ file ∈ s.staged.map StagedChange.file := by
  simp [isStaged, List.any_eq_true]

theorem isPending_iff {s : State} {file : String} : s.isPending file = true ↔ file ∈ s.working :=
  List.contains_iff_mem

/-- The commit that a revision names: `HEAD`, a branch, a remote-tracking branch or an id. -/
def resolve (s : State) (rev : String) : Option CommitId :=
  if rev = "HEAD" then s.headTip?
  else
    ((s.branches.get? rev <|> s.remoteBranches.get? rev).map Branch.tip) <|>
      (s.commits.get? ⟨rev⟩).map Commit.id

end State

/-- Who commits, and where the repository is hosted. -/
structure RepoConfig where
  author : String
  remoteUrl : String
  deriving DecidableEq, Repr

namespace RepoConfig

open Text

def default : RepoConfig := ⟨"learner", "https://github.com/learner/my-project.git"⟩

/-- What stands before a suffix, or the whole text. -/
def withoutSuffix (suffix cs : List Char) : List Char :=
  match dropFront? suffix.reverse cs.reverse with
  | some r => r.reverse
  | none => cs

/-- What stands behind the first occurrence of a pattern, or the whole text. -/
def behind (pattern cs : List Char) : List Char :=
  match cutAt pattern cs with
  | some (_, rest) => rest
  | none => cs

/-- The address for a browser: the remote without `.git`. -/
def webUrl (c : RepoConfig) : String :=
  String.ofList (withoutSuffix ".git".toList c.remoteUrl.toList)

/-- Owner and name of the repository. -/
def slug (c : RepoConfig) : String :=
  String.ofList (behind ['/'] (behind "://".toList c.webUrl.toList))

end RepoConfig

structure Repo where
  state : State
  config : RepoConfig
  ids : Fingerprints
  now : UInt64

namespace Repo

/-- Stores a commit under an id, written by the author at the present time; the ids in `rest` are
left for later. -/
def store (r : Repo) (id : CommitId) (rest : Fingerprints) (message : String)
    (parent : Option CommitId) (files : List String) : Repo :=
  { r with
    state.commits :=
      r.state.commits.insert id ⟨id, message, parent, r.config.author, r.now, files⟩
    ids := rest }

/-- Stores a new commit under an id that no other has, if one is to come. -/
def newCommit (r : Repo) (message : String) (parent : Option CommitId) (files : List String) :
    Option (CommitId × Repo) :=
  (r.ids.drawFresh r.state.commitIds).map fun drawn =>
    (⟨drawn.1⟩, r.store ⟨drawn.1⟩ drawn.2 message parent files)

/-- A repository with an initial commit on its main branch. No other commit has its id, so that is
the first one to come (`newCommit_of_empty`). -/
def fresh (config : RepoConfig) (ids : Fingerprints) (now : UInt64) : Repo :=
  let root : CommitId := ⟨ids.current⟩
  let r := (Repo.mk (.empty config.remoteUrl) config ids now).store root ids.next
    "Initial commit" none ["README.md"]
  { r with state.branches := r.state.branches.insert mainBranch (.localAt mainBranch root) }

theorem newCommit_of_empty {r : Repo} (h : r.state.commitIds = []) (message : String)
    (parent : Option CommitId) (files : List String) :
    r.newCommit message parent files
      = some (⟨r.ids.current⟩, r.store ⟨r.ids.current⟩ r.ids.next message parent files) := by
  rw [newCommit, h, Fingerprints.drawFresh_nil, Option.map_some]

/-- The time at which a repeatable session stands still: 2023-11-14 22:13:20 UTC. -/
def pinnedTime : UInt64 := 1700000000000

/-- A repository whose ids and times are the same in every run. -/
def deterministic (config : RepoConfig) : Repo := fresh config (.numbered 'c') pinnedTime

/-- Notes an edit in the working tree. -/
def edit (r : Repo) (file : String) : Repo :=
  if r.state.isPending file then r
  else { r with state.working := r.state.working ++ [file] }

/-- Notes several edits in order. -/
def editAll (r : Repo) (files : List String) : Repo := files.foldl edit r

end Repo

end GitPractice
