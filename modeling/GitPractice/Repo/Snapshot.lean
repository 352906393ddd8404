import GitPractice.Repo.Basic

/-!
# Snapshots

A `Snapshot` is the part of a repository that can be kept in a file: no pull requests and no remote
address. A record may leave out its own name, which is then the key it is stored under. Importing
checks a snapshot as a whole (`Snapshot.check`) and replaces the state, or leaves the repository
alone.
-/

namespace GitPractice

structure CommitRecord where
  id : String
  message : String
  parent : Option String
  files : List String
  author : Option String
  timestamp : Option UInt64
  deriving DecidableEq, Repr

structure BranchRecord where
  name : String
  commit : String
  followed : Option String
  deriving DecidableEq, Repr

structure Snapshot where
  commits : OrderedMap String CommitRecord
  branches : OrderedMap String BranchRecord
  remoteBranches : OrderedMap String BranchRecord
  head : String
  staged : List StagedChange
  working : List String
  deriving DecidableEq

/-- Why a snapshot cannot become a repository. `unreadable` and `malformed` concern the file it
comes from. -/
inductive SnapshotError where
  | unreadable (reason : String)
  | malformed
  | unknownHead (head : String)
  | missingCommit (branch commit : String)
  | missingParent (commit parent : String)
  | stagedTwice (file : String)
  deriving DecidableEq, Repr

def SnapshotError.message : SnapshotError → String
  | .unreadable reason => "IO error: " ++ reason
  | .malformed => "Serialization error: malformed snapshot"
  | .unknownHead head => "head '" ++ head ++ "' does not name a branch"
  | .missingCommit branch commit =>
    "branch '" ++ branch ++ "' points at unknown commit '" ++ commit ++ "'"
  | .missingParent commit parent =>
    "commit '" ++ commit ++ "' has unknown parent '" ++ parent ++ "'"
  | .stagedTwice file => "'" ++ file ++ "' is staged more than once"

/-- The record's own name, or the key if it has none. -/
def nameOr (name key : String) : String := if name = "" then key else name

namespace Snapshot

/-- The ids of the commits. -/
def ids (s : Snapshot) : List String := s.commits.entries.map fun e => nameOr e.2.id e.1

/-- A commit whose parent is none of the commits. -/
def missingParent? (s : Snapshot) : Option SnapshotError :=
  s.commits.entries.findSome? fun e =>
    match e.2.parent with
    | some p => if p ∈ s.ids then none else some (.missingParent (nameOr e.2.id e.1) p)
    | none => none

/-- A branch that points at none of the commits. -/
def missingCommit? (s : Snapshot) : Option SnapshotError :=
  (s.branches.entries ++ s.remoteBranches.entries).findSome? fun e =>
    if e.2.commit ∈ s.ids then none else some (.missingCommit (nameOr e.2.name e.1) e.2.commit)

def unknownHead? (s : Snapshot) : Option SnapshotError :=
  if s.branches.entries.any fun e => nameOr e.2.name e.1 = s.head then none
  else some (.unknownHead s.head)

/-- The first file that was listed before. -/
def repeated? : List String → List String → Option String
  | _, [] => none
  | seen, f :: rest => if f ∈ seen then some f else repeated? (f :: seen) rest

def stagedTwice? (s : Snapshot) : Option SnapshotError :=
  (repeated? [] (s.staged.map StagedChange.file)).map .stagedTwice

/-- The first fault: a parent, then a branch, then the head, then the staged files. -/
def fault? (s : Snapshot) : Option SnapshotError :=
  s.missingParent? <|> s.missingCommit? <|> s.unknownHead? <|> s.stagedTwice?

def check (s : Snapshot) : Except SnapshotError Unit :=
  match s.fault? with
  | some e => .error e
  | none => .ok ()

/-- The commit a record stands for; author and time are filled in where it has none. -/
def commitOf (author : String) (now : UInt64) (key : String) (r : CommitRecord) : Commit :=
  ⟨⟨nameOr r.id key⟩, r.message, r.parent.map CommitId.mk, r.author.getD author,
    r.timestamp.getD now, r.files⟩

def branchOf (key : String) (r : BranchRecord) : Branch :=
  { Branch.localAt (nameOr r.name key) ⟨r.commit⟩ with followed := r.followed }

def trackingOf (key : String) (r : BranchRecord) : Branch :=
  .trackingAt (nameOr r.name key) ⟨r.commit⟩

/-- The state a snapshot describes, for a repository with this author and remote. -/
def toState (s : Snapshot) (config : RepoConfig) (now : UInt64) : State :=
  { State.empty config.remoteUrl with
    commits := .ofList <| (s.commits.entries.map fun e => commitOf config.author now e.1 e.2).map
      fun c => (c.id, c)
    branches := .ofList <| (s.branches.entries.map fun e => branchOf e.1 e.2).map
      fun b => (b.name, b)
    remoteBranches := .ofList <| (s.remoteBranches.entries.map fun e => trackingOf e.1 e.2).map
      fun b => (b.name, b)
    head := s.head
    staged := s.staged
    working := s.working.foldl (fun l f => if f ∈ l then l else l ++ [f]) [] }

end Snapshot

/-- A commit with all that is known of it. -/
def Commit.record (c : Commit) : CommitRecord :=
  ⟨c.id.text, c.message, c.parent.map CommitId.text, c.files, some c.author, some c.timestamp⟩

def Branch.record (b : Branch) : BranchRecord := ⟨b.name, b.tip.text, b.followed⟩

/-- The snapshot of a state. -/
def State.snapshot (s : State) : Snapshot where
  commits := .ofList (s.commits.values.map fun c => (c.id.text, c.record))
  branches := .ofList (s.branches.entries.map fun e => (e.1, e.2.record))
  remoteBranches := .ofList (s.remoteBranches.entries.map fun e => (e.1, e.2.record))
  head := s.head
  staged := s.staged
  working := s.working

namespace Repo

def exportState (r : Repo) : Snapshot := r.state.snapshot

/-- The repository with the snapshot as its state. -/
def replaceState (r : Repo) (s : Snapshot) : Repo := { r with state := s.toState r.config r.now }

/-- Takes the snapshot as the state, if it is sound. -/
def importState (r : Repo) (s : Snapshot) : Repo × Except SnapshotError Unit :=
  match s.check with
  | .error e => (r, .error e)
  | .ok () => (r.replaceState s, .ok ())

end Repo

end GitPractice
