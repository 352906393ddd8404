import GitPractice.Proofs.RoundTrip

/-!
# The records that an import keeps

A record stands under its own name, or under its key if it has none, so two records of a snapshot
can stand under one name. The check of a snapshot does not ask whether they do. Then the last of
them is imported and the others are lost (`Overlaid`); all are kept exactly if their names differ
(`importState_kept_iff`).

The three kinds of records are read in the same way, each into a map of values that bring their own
keys, so all there is to do here is to say what the keys are.
-/

namespace GitPractice

theorem CommitId.mk_injective : Function.Injective CommitId.mk :=
  fun _ _ h => congrArg CommitId.text h

namespace Snapshot

/-- The names of branches. -/
def branchNames (branches : OrderedMap String BranchRecord) : List String :=
  branches.entries.map fun e => nameOr e.2.name e.1

/-- No two commits have one id, and no two branches of one kind have one name. -/
structure Distinct (s : Snapshot) : Prop where
  ids : s.ids.Nodup
  branches : (branchNames s.branches).Nodup
  remoteBranches : (branchNames s.remoteBranches).Nodup

/-- The state has every record under its own name, and no more than that. -/
structure Kept (s : Snapshot) (config : RepoConfig) (now : UInt64) (t : State) : Prop where
  commits_size : t.commits.size = s.commits.size
  branches_size : t.branches.size = s.branches.size
  remoteBranches_size : t.remoteBranches.size = s.remoteBranches.size
  commits : ∀ e ∈ s.commits.entries, t.commits.get? ⟨nameOr e.2.id e.1⟩
    = some ⟨⟨nameOr e.2.id e.1⟩, e.2.message, e.2.parent.map CommitId.mk,
        e.2.author.getD config.author, e.2.timestamp.getD now, e.2.files⟩
  branches : ∀ e ∈ s.branches.entries, t.branches.get? (nameOr e.2.name e.1)
    = some ⟨nameOr e.2.name e.1, ⟨e.2.commit⟩, e.2.followed, false⟩
  remoteBranches : ∀ e ∈ s.remoteBranches.entries, t.remoteBranches.get? (nameOr e.2.name e.1)
    = some ⟨nameOr e.2.name e.1, ⟨e.2.commit⟩, none, true⟩

/-- The state has as many records as there are names, and under each name the last record that
stands there. -/
structure Overlaid (s : Snapshot) (config : RepoConfig) (now : UInt64) (t : State) : Prop where
  commits_size : t.commits.size = s.ids.dedup.length
  branches_size : t.branches.size = (branchNames s.branches).dedup.length
  remoteBranches_size : t.remoteBranches.size = (branchNames s.remoteBranches).dedup.length
  commits : ∀ id, t.commits.get? ⟨id⟩
    = (s.commits.entries.reverse.find? fun e => nameOr e.2.id e.1 = id).map
      fun e => commitOf config.author now e.1 e.2
  branches : ∀ name, t.branches.get? name
    = (s.branches.entries.reverse.find? fun e => nameOr e.2.name e.1 = name).map
      fun e => branchOf e.1 e.2
  remoteBranches : ∀ name, t.remoteBranches.get? name
    = (s.remoteBranches.entries.reverse.find? fun e => nameOr e.2.name e.1 = name).map
      fun e => trackingOf e.1 e.2

section Records

variable (s : Snapshot) (config : RepoConfig) (now : UInt64)

theorem map_id_commitOf :
    (s.commits.entries.map fun e => (commitOf config.author now e.1 e.2).id)
      = s.ids.map CommitId.mk := by
  rw [ids, List.map_map]
  rfl

theorem overlaid_toState : s.Overlaid config now (s.toState config now) where
  commits_size := by
    rw [toState, OrderedMap.size_ofList_keyed _ _ Commit.id, map_id_commitOf,
      List.dedup_map_of_injective CommitId.mk_injective, List.length_map]
  branches_size := OrderedMap.size_ofList_keyed _ _ Branch.name
  remoteBranches_size := OrderedMap.size_ofList_keyed _ _ Branch.name
  commits id := by
    rw [toState, OrderedMap.get?_ofList_keyed _ _ Commit.id]
    simp only [commitOf, CommitId.mk.injEq]
  branches name := OrderedMap.get?_ofList_keyed _ _ Branch.name name
  remoteBranches name := OrderedMap.get?_ofList_keyed _ _ Branch.name name

theorem kept_toState_iff : s.Kept config now (s.toState config now) ↔ s.Distinct := by
  have hcommits := OrderedMap.keeps_ofList_keyed_iff s.commits.entries
    (fun e => commitOf config.author now e.1 e.2) Commit.id
  have hbranches := OrderedMap.keeps_ofList_keyed_iff s.branches.entries
    (fun e => branchOf e.1 e.2) Branch.name
  have hremote := OrderedMap.keeps_ofList_keyed_iff s.remoteBranches.entries
    (fun e => trackingOf e.1 e.2) Branch.name
  rw [map_id_commitOf, List.nodup_map_iff CommitId.mk_injective] at hcommits
  constructor
  · intro h
    exact ⟨hcommits.1 ⟨h.commits_size, h.commits⟩, hbranches.1 ⟨h.branches_size, h.branches⟩,
      hremote.1 ⟨h.remoteBranches_size, h.remoteBranches⟩⟩
  · intro h
    obtain ⟨hcommits_size, hcommits⟩ := hcommits.2 h.ids
    obtain ⟨hbranches_size, hbranches⟩ := hbranches.2 h.branches
    obtain ⟨hremote_size, hremote⟩ := hremote.2 h.remoteBranches
    exact ⟨hcommits_size, hbranches_size, hremote_size, hcommits, hbranches, hremote⟩

end Records

end Snapshot

/-- A snapshot that passes its check is imported, and what it loses are the records that share a
name with a later one. -/
theorem Repo.importState_kept_iff (r : Repo) {s : Snapshot} (h : s.check = .ok ()) :
    ∃ r', r.importState s = (r', .ok ()) ∧ s.Overlaid r.config r.now r'.state
      ∧ (s.Kept r.config r.now r'.state ↔ s.Distinct) :=
  ⟨r.replaceState s, importState_of_sound (Snapshot.check_eq_ok_iff.1 h), s.overlaid_toState _ _,
    s.kept_toState_iff _ _⟩

/-- A snapshot in which the commits have each other's keys for ids, and a branch has none of its
own. -/
def Snapshot.crossed : Snapshot where
  commits := .ofList [("aaaaaaa", ⟨"bbbbbbb", "First", none, ["a.txt"], none, none⟩),
    ("bbbbbbb", ⟨"aaaaaaa", "Second", some "bbbbbbb", [], some "learner", some 7⟩)]
  branches := .ofList [("main", ⟨"", "aaaaaaa", some "origin/main"⟩),
    ("old", ⟨"topic", "bbbbbbb", none⟩)]
  remoteBranches := .ofList [("main", ⟨"origin/main", "aaaaaaa", none⟩)]
  head := "topic"
  staged := []
  working := ["notes.md"]

theorem Repo.importState_kept_crossed :
    Snapshot.crossed.check = .ok () ∧ Snapshot.crossed.Distinct
      ∧ ∃ r', (deterministic .default).importState .crossed = (r', .ok ())
        ∧ Snapshot.crossed.Kept .default pinnedTime r'.state := by
  have hcheck : Snapshot.crossed.check = .ok () := by decide +kernel
  have hdistinct : Snapshot.crossed.Distinct :=
    ⟨by decide +kernel, by decide +kernel, by decide +kernel⟩
  obtain ⟨r', himport, -, hkept⟩ := (deterministic .default).importState_kept_iff hcheck
  exact ⟨hcheck, hdistinct, r', himport, hkept.2 hdistinct⟩

/-- A snapshot in which a commit has the key of another for its id. -/
def Snapshot.overlapping : Snapshot where
  commits := .ofList [("aaaaaaa", ⟨"", "First", none, ["a.txt"], none, none⟩),
    ("bbbbbbb", ⟨"aaaaaaa", "Second", none, [], none, none⟩)]
  branches := .ofList [("main", ⟨"", "aaaaaaa", none⟩)]
  remoteBranches := .empty
  head := "main"
  staged := []
  working := []

/-- The check lets two commits with one id pass, and the first of them is lost. -/
theorem Repo.importState_overlapping :
    Snapshot.overlapping.check = .ok () ∧ Snapshot.overlapping.commits.size = 2
      ∧ ((deterministic .default).importState .overlapping).2 = .ok ()
      ∧ ((deterministic .default).importState .overlapping).1.state.commits.values.map Commit.message
        = ["Second"] :=
  ⟨by decide +kernel, by decide +kernel, rfl, by decide +kernel⟩

end GitPractice
