import GitPractice.Proofs.WellFormed

/-!
# Export and import

A record stands for what it was made from, provided that is stored under its own name; so a
well-formed state has a sound snapshot (`snapshot_sound`), and the snapshot gives back all of it
but the pull requests and the remote address (`toState_snapshot`). Every run ends in a well-formed
state, hence what is exported after a run can be imported everywhere
(`importState_exportState_afterAll`).
-/

namespace GitPractice

theorem CommitId.text_injective : Function.Injective CommitId.text := by
  rintro ⟨a⟩ ⟨b⟩ h
  exact congrArg CommitId.mk h

/-! ## Records -/

theorem nameOr_self (name : String) : nameOr name name = name := by
  unfold nameOr
  split_ifs <;> rfl

section Records

variable {known : List CommitId}

theorem Commit.Sound.commitOf_record {id : CommitId} {c : Commit} (h : c.Sound known id)
    (author : String) (now : UInt64) : Snapshot.commitOf author now id.text c.record = c := by
  obtain ⟨rfl, -⟩ := h
  have hparent : (c.parent.map CommitId.text).map CommitId.mk = c.parent := by
    rw [Option.map_map]
    exact Option.map_id'
  simp only [Snapshot.commitOf, record, nameOr_self, hparent, Option.getD_some]

theorem Branch.SoundLocal.branchOf_record {name : String} {b : Branch}
    (h : b.SoundLocal known name) : Snapshot.branchOf name b.record = b := by
  obtain ⟨rfl, -, hremote⟩ := h
  simp only [Snapshot.branchOf, record, nameOr_self, localAt, ← hremote]

theorem Branch.SoundTracking.trackingOf_record {name : String} {b : Branch}
    (h : b.SoundTracking known name) : Snapshot.trackingOf name b.record = b := by
  obtain ⟨rfl, -, hremote, hfollowed⟩ := h
  simp only [Snapshot.trackingOf, record, nameOr_self, trackingAt, ← hremote, ← hfollowed]

end Records

/-! ## Snapshots of well-formed states -/

namespace State

theorem snapshot_branches (s : State) :
    s.snapshot.branches.entries = s.branches.entries.map fun e => (e.1, e.2.record) :=
  OrderedMap.entries_ofList_map Function.injective_id Branch.record s.branches

theorem snapshot_remoteBranches (s : State) :
    s.snapshot.remoteBranches.entries
      = s.remoteBranches.entries.map fun e => (e.1, e.2.record) :=
  OrderedMap.entries_ofList_map Function.injective_id Branch.record s.remoteBranches

namespace WellFormed

variable {s : State} (h : s.WellFormed)

include h

theorem snapshot_commits : s.snapshot.commits.entries
    = s.commits.entries.map fun e => (e.1.text, e.2.record) := by
  have hentries : (s.commits.values.map fun c => (c.id.text, c.record))
      = s.commits.entries.map fun e => (e.1.text, e.2.record) := by
    rw [OrderedMap.values, List.map_map]
    refine List.map_congr_left fun e he => ?_
    rw [Function.comp_apply, (OrderedMap.all_iff.1 h.commits e he).id_eq]
  rw [snapshot, hentries]
  exact OrderedMap.entries_ofList_map CommitId.text_injective Commit.record s.commits

theorem snapshot_ids : s.snapshot.ids = s.commits.keys.map CommitId.text := by
  rw [Snapshot.ids, h.snapshot_commits, OrderedMap.keys, List.map_map, List.map_map]
  refine List.map_congr_left fun e he => ?_
  have hid := (OrderedMap.all_iff.1 h.commits e he).id_eq
  simp only [Function.comp_apply, Commit.record, hid, nameOr_self]

theorem text_mem_snapshot_ids {id : CommitId} (hid : id ∈ s.commits.keys) :
    id.text ∈ s.snapshot.ids := by
  rw [h.snapshot_ids]
  exact List.mem_map_of_mem hid

theorem snapshot_sound : s.snapshot.Sound where
  parent_mem := by
    rw [h.snapshot_commits]
    intro entry hentry p hp
    obtain ⟨e, he, rfl⟩ := List.mem_map.1 hentry
    obtain ⟨parent, hparent, rfl⟩ := Option.map_eq_some_iff.1 hp
    exact h.text_mem_snapshot_ids ((OrderedMap.all_iff.1 h.commits e he).parent_mem parent hparent)
  tip_mem := by
    rw [s.snapshot_branches, s.snapshot_remoteBranches]
    intro entry hentry
    rcases List.mem_append.1 hentry with hlocal | htracking
    · obtain ⟨e, he, rfl⟩ := List.mem_map.1 hlocal
      exact h.text_mem_snapshot_ids (OrderedMap.all_iff.1 h.branches e he).tip_mem
    · obtain ⟨e, he, rfl⟩ := List.mem_map.1 htracking
      exact h.text_mem_snapshot_ids (OrderedMap.all_iff.1 h.remoteBranches e he).tip_mem
  head_mem := by
    rw [s.snapshot_branches]
    obtain ⟨b, hb⟩ := OrderedMap.mem_keys_iff.1 h.head_mem
    refine ⟨(s.head, b.record), ?_, ?_⟩
    · exact List.mem_map.2 ⟨(s.head, b), OrderedMap.get?_eq_some_iff.1 hb, rfl⟩
    · show nameOr b.name s.head = s.head
      rw [(h.branches _ _ hb).name_eq, nameOr_self]
  staged_nodup := h.staged

/-- The state that the snapshot describes has everything but what no snapshot holds. -/
theorem toState_snapshot (config : RepoConfig) (now : UInt64) :
    s.snapshot.toState config now
      = { s with pullRequests := .empty, nextNumber := 1, remoteUrl := config.remoteUrl } := by
  have hcommits : OrderedMap.ofList (((s.commits.entries.map fun e => (e.1.text, e.2.record)).map
      fun e => Snapshot.commitOf config.author now e.1 e.2).map fun c => (c.id, c))
      = s.commits := by
    have hsound := OrderedMap.all_iff.1 h.commits
    exact OrderedMap.ofList_keyed_map (fun e he => (hsound e he).commitOf_record config.author now)
      fun e he => (hsound e he).id_eq
  have hbranches : OrderedMap.ofList (((s.branches.entries.map fun e => (e.1, e.2.record)).map
      fun e => Snapshot.branchOf e.1 e.2).map fun b => (b.name, b)) = s.branches := by
    have hsound := OrderedMap.all_iff.1 h.branches
    exact OrderedMap.ofList_keyed_map (fun e he => (hsound e he).branchOf_record)
      fun e he => (hsound e he).name_eq
  have hremote : OrderedMap.ofList (((s.remoteBranches.entries.map fun e => (e.1, e.2.record)).map
      fun e => Snapshot.trackingOf e.1 e.2).map fun b => (b.name, b)) = s.remoteBranches := by
    have hsound := OrderedMap.all_iff.1 h.remoteBranches
    exact OrderedMap.ofList_keyed_map (fun e he => (hsound e he).trackingOf_record)
      fun e he => (hsound e he).name_eq
  have hworking : s.snapshot.working.foldl (fun l f => if f ∈ l then l else l ++ [f]) []
      = s.working := by
    rw [snapshot, foldl_noted_of_nodup h.working]
    simp
  rw [Snapshot.toState, h.snapshot_commits, s.snapshot_branches, s.snapshot_remoteBranches,
    hcommits, hbranches, hremote, hworking]
  rfl

end WellFormed

end State

namespace Repo

theorem importState_exportState {r : Repo} (h : r.state.WellFormed) (t : Repo) :
    t.importState r.exportState
      = ({ t with
          state := { r.state with
            pullRequests := .empty, nextNumber := 1, remoteUrl := t.config.remoteUrl } },
        .ok ()) := by
  rw [exportState, importState_of_sound h.snapshot_sound, replaceState, h.toState_snapshot]

theorem importState_exportState_afterAll (config : RepoConfig) (ids : Fingerprints) (now : UInt64)
    (events : List Event) (t : Repo) :
    ∃ t', t.importState ((fresh config ids now).afterAll events).exportState = (t', .ok ())
      ∧ t' = { t with
          state := { ((fresh config ids now).afterAll events).state with
            pullRequests := .empty, nextNumber := 1, remoteUrl := t.config.remoteUrl } }
      ∧ t'.exportState = ((fresh config ids now).afterAll events).exportState := by
  have hwell := wellFormed_afterAll (wellFormed_fresh config ids now) events
  exact ⟨_, importState_exportState hwell t, rfl, rfl⟩

end Repo

end GitPractice
