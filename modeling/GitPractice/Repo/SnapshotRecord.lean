import GitPractice.Record
import GitPractice.Json.Reader
import GitPractice.Json.Printer
import GitPractice.Repo.Snapshot

/-!
# Snapshots as documents

The fields of a snapshot and of its records, in writing and in reading. Writing leaves out an
author, a time and a table of remote-tracking branches that are absent; reading fills in what is
left out, and knows older names of some fields.
-/

namespace GitPractice

open Record

/-! ## Reading -/

def ChangeKind.names : List (String × ChangeKind) :=
  [("added", .added), ("modified", .modified), ("deleted", .deleted)]

def StagedChange.ofDatum (f : Format) (d : Datum) : Option StagedChange := do
  match ← fields f [["filename"], ["change_type"]] d with
  | [file, kind] => some ⟨← required text file, ← required (choice f ChangeKind.names) kind⟩
  | _ => none

def CommitRecord.ofDatum (f : Format) (d : Datum) : Option CommitRecord := do
  match ← fields f [["id", "sha"], ["message"], ["parent_id", "parent_sha"], ["files_changed"],
      ["author"], ["timestamp_ms"]] d with
  | [id, message, parent, files, author, timestamp] =>
    some ⟨← orElse "" text id, ← required text message, ← optional text parent,
      ← orElse [] (list text) files, ← optional text author, ← optional word64 timestamp⟩
  | _ => none

def BranchRecord.ofDatum (f : Format) (d : Datum) : Option BranchRecord := do
  match ← fields f [["name"], ["commit_id", "commit_sha"], ["upstream"]] d with
  | [name, commit, followed] =>
    some ⟨← orElse "" text name, ← required text commit, ← optional text followed⟩
  | _ => none

namespace Snapshot

def ofDatum (f : Format) (d : Datum) : Option Snapshot := do
  match ← fields f [["commits"], ["branches"], ["remote_branches"], ["head"], ["staged_changes"],
      ["working_changes"]] d with
  | [commits, branches, remotes, head, staged, working] =>
    some ⟨← orElse .empty (map (CommitRecord.ofDatum f)) commits,
      ← orElse .empty (map (BranchRecord.ofDatum f)) branches,
      ← orElse .empty (map (BranchRecord.ofDatum f)) remotes, ← orElse mainBranch text head,
      ← orElse [] (list (StagedChange.ofDatum f)) staged, ← orElse [] (list text) working⟩
  | _ => none

def ofJson? (s : String) : Option Snapshot := (Json.read s).bind (ofDatum .json)

end Snapshot

/-! ## Writing -/

def Datum.texts (l : List String) : Datum := .list (l.map .text)

def Datum.optionalText : Option String → Datum
  | some s => .text s
  | none => .null

def StagedChange.toDatum (c : StagedChange) : Datum :=
  .table [("filename", .text c.file), ("change_type", .text c.kind.name)]

def CommitRecord.toDatum (r : CommitRecord) : Datum :=
  .table <|
    [("id", .text r.id), ("message", .text r.message), ("parent_id", .optionalText r.parent),
        ("files_changed", .texts r.files)]
      ++ (r.author.toList.map fun a => ("author", .text a))
      ++ r.timestamp.toList.map fun t => ("timestamp_ms", .integer t.toNat)

def BranchRecord.toDatum (r : BranchRecord) : Datum :=
  .table [("name", .text r.name), ("commit_id", .text r.commit),
    ("upstream", .optionalText r.followed)]

namespace Snapshot

def commitsDatum (m : OrderedMap String CommitRecord) : Datum :=
  .table (m.entries.map fun e => (e.1, e.2.toDatum))

def branchesDatum (m : OrderedMap String BranchRecord) : Datum :=
  .table (m.entries.map fun e => (e.1, e.2.toDatum))

def toDatum (s : Snapshot) : Datum :=
  .table <|
    [("commits", commitsDatum s.commits), ("branches", branchesDatum s.branches)]
      ++ (if s.remoteBranches.isEmpty then []
        else [("remote_branches", branchesDatum s.remoteBranches)])
      ++ [("head", .text s.head), ("staged_changes", .list (s.staged.map StagedChange.toDatum)),
        ("working_changes", .texts s.working)]

def toJson (s : Snapshot) : String := Json.pretty s.toDatum

end Snapshot

namespace Reply

/-- The reply as one line of JSON; absent output and hints are left out. -/
def toJson (r : Reply) : String :=
  Json.compact <| .table <|
    [("success", .bool r.success), ("message", .text r.message)]
      ++ (r.output.toList.map fun o => ("output", .text o))
      ++ if r.hints.isEmpty then [] else [("hints", .texts r.hints)]

end Reply

end GitPractice
