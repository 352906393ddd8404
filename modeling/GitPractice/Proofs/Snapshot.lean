import Mathlib.Data.List.Nodup
import Mathlib.Tactic.SplitIfs
import GitPractice.Repo.Snapshot
import GitPractice.Proofs.Entries

/-!
# Sound snapshots

A snapshot passes its check exactly if it is sound (`fault?_eq_none_iff`): parents and tips are
among its commits, the head is among its branches, and no file is staged twice. A sound snapshot is
imported, and no other is (`importState_ok_iff`); what is refused leaves the repository as it is.
-/

namespace GitPractice

namespace Snapshot

structure Sound (s : Snapshot) : Prop where
  parent_mem : ∀ e ∈ s.commits.entries, ∀ p, e.2.parent = some p → p ∈ s.ids
  tip_mem : ∀ e ∈ s.branches.entries ++ s.remoteBranches.entries, e.2.commit ∈ s.ids
  head_mem : ∃ e ∈ s.branches.entries, nameOr e.2.name e.1 = s.head
  staged_nodup : (s.staged.map StagedChange.file).Nodup

theorem missingParent?_eq_none_iff (s : Snapshot) : s.missingParent? = none ↔
    ∀ e ∈ s.commits.entries, ∀ p, e.2.parent = some p → p ∈ s.ids := by
  unfold missingParent?
  rw [List.findSome?_eq_none_iff]
  refine forall₂_congr fun e _ => ?_
  rcases e.2.parent with _ | p
  · simp
  · by_cases hp : p ∈ s.ids
    · simp [hp]
    · simp [hp]

theorem missingCommit?_eq_none_iff (s : Snapshot) : s.missingCommit? = none ↔
    ∀ e ∈ s.branches.entries ++ s.remoteBranches.entries, e.2.commit ∈ s.ids := by
  unfold missingCommit?
  rw [List.findSome?_eq_none_iff]
  refine forall₂_congr fun e _ => ?_
  by_cases he : e.2.commit ∈ s.ids
  · simp [he]
  · simp [he]

theorem unknownHead?_eq_none_iff (s : Snapshot) : s.unknownHead? = none ↔
    ∃ e ∈ s.branches.entries, nameOr e.2.name e.1 = s.head := by
  unfold unknownHead?
  simp

/-- There is no repetition where no element comes again, after those seen before. -/
theorem repeated?_eq_none_iff (seen l : List String) : repeated? seen l = none ↔
    l.Nodup ∧ ∀ f ∈ l, f ∉ seen := by
  induction l generalizing seen with
  | nil => simp [repeated?]
  | cons f l ih =>
    by_cases hf : f ∈ seen
    · simp [repeated?, hf]
    · simp only [repeated?, hf, if_false, ih, List.nodup_cons, List.mem_cons, forall_eq_or_imp,
        not_or, not_false_eq_true, true_and]
      constructor
      · rintro ⟨hl, hout⟩
        exact ⟨⟨fun hm => (hout f hm).1 rfl, hl⟩, fun g hg => (hout g hg).2⟩
      · rintro ⟨⟨hm, hl⟩, hout⟩
        exact ⟨hl, fun g hg => ⟨fun h => hm (h ▸ hg), hout g hg⟩⟩

theorem stagedTwice?_eq_none_iff (s : Snapshot) : s.stagedTwice? = none ↔
    (s.staged.map StagedChange.file).Nodup := by
  rw [stagedTwice?, Option.map_eq_none_iff, repeated?_eq_none_iff]
  simp

theorem fault?_eq_none_iff (s : Snapshot) : s.fault? = none ↔ s.Sound := by
  have hparts : s.fault? = none ↔ ((s.missingParent? = none ∧ s.missingCommit? = none)
      ∧ s.unknownHead? = none) ∧ s.stagedTwice? = none := by
    simp [fault?, and_assoc]
  rw [hparts, missingParent?_eq_none_iff, missingCommit?_eq_none_iff, unknownHead?_eq_none_iff,
    stagedTwice?_eq_none_iff]
  exact ⟨fun ⟨⟨⟨h1, h2⟩, h3⟩, h4⟩ => ⟨h1, h2, h3, h4⟩, fun h =>
    ⟨⟨⟨h.parent_mem, h.tip_mem⟩, h.head_mem⟩, h.staged_nodup⟩⟩

theorem check_eq_ok_iff {s : Snapshot} : s.check = .ok () ↔ s.Sound := by
  rw [← fault?_eq_none_iff, check]
  split
  · rename_i e he
    simp [he]
  · rename_i he
    simp [he]

theorem check_eq_error_iff {s : Snapshot} {e : SnapshotError} :
    s.check = .error e ↔ s.fault? = some e := by
  unfold check
  split
  · rename_i e' he
    simp [he]
  · rename_i he
    simp [he]

end Snapshot

namespace Repo

variable {r : Repo} {s : Snapshot}

theorem importState_of_sound (h : s.Sound) : r.importState s = (r.replaceState s, .ok ()) := by
  rw [importState, Snapshot.check_eq_ok_iff.2 h]

/-- What is not sound is not imported, and nothing of it is kept. -/
theorem importState_of_fault {e : SnapshotError} (h : s.fault? = some e) :
    r.importState s = (r, .error e) := by
  rw [importState, Snapshot.check, h]

theorem importState_snd : (r.importState s).2 = s.check := by
  unfold importState
  split
  · rename_i e he
    exact he.symm
  · rename_i he
    exact he.symm

theorem importState_ok_iff : (r.importState s).2 = .ok () ↔ s.Sound := by
  rw [importState_snd, Snapshot.check_eq_ok_iff]

theorem importState_of_error {e : SnapshotError} (h : (r.importState s).2 = .error e) :
    (r.importState s).1 = r := by
  rw [importState_snd] at h
  rw [importState, h]

end Repo

end GitPractice
