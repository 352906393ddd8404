import GitPractice.Proofs.Conservation
import GitPractice.Proofs.WellFormed

/-!
# Unstaging and discarding

Both look at all their paths before they change anything, so one path that is not in its list is
enough to be refused. Files are unstaged one after another, and the lists change under way. A path
that is named again is not staged any more, but it is pending, and is passed over. So in the end the
named files have left the staged list, and those that were not in the working list have come to the
end of it in the order in which they were first named (`foldl_unstage`).
-/

namespace GitPractice

/-- A staged file is listed once, so its first entry is all there is of it. -/
theorem eraseP_file {l : List StagedChange} (h : (l.map StagedChange.file).Nodup) (path : String) :
    l.eraseP (·.file = path) = l.filter (·.file ≠ path) := by
  induction l with
  | nil => rfl
  | cons c l ih =>
    rw [List.map_cons, List.nodup_cons] at h
    by_cases hc : c.file = path
    · have hrest : l.filter (·.file ≠ path) = l := by
        refine List.filter_eq_self.2 fun d hd => ?_
        have hne : d.file ≠ path := fun heq => h.1 (List.mem_map.2 ⟨d, hd, heq.trans hc.symm⟩)
        simpa using hne
      rw [List.eraseP_cons_of_pos (by simpa using hc), List.filter_cons_of_neg (by simpa using hc),
        hrest]
    · rw [List.eraseP_cons_of_neg (by simpa using hc), List.filter_cons_of_pos (by simpa using hc),
        ih h.2]

namespace State

variable {s : State}

theorem unstage_of_pending {path : String} (h : (s.staged.map StagedChange.file).Nodup)
    (hpath : path ∈ s.pending) :
    s.unstage path = { s with
      staged := s.staged.filter (·.file ≠ path)
      working := if path ∈ s.working then s.working else s.working ++ [path] } := by
  by_cases hstaged : path ∈ s.staged.map StagedChange.file
  · rw [unstage, if_pos (isStaged_iff.2 hstaged), eraseP_file h]
    simp only [isPending_iff]
  · have hworking : path ∈ s.working := (mem_pending.1 hpath).resolve_left hstaged
    have hkept : s.staged.filter (·.file ≠ path) = s.staged := by
      refine List.filter_eq_self.2 fun c hc => ?_
      have hne : c.file ≠ path := fun heq => hstaged (List.mem_map.2 ⟨c, hc, heq⟩)
      simpa using hne
    rw [unstage, if_neg (mt isStaged_iff.1 hstaged), hkept, if_pos hworking]

/-- Unstaging keeps files pending, so a later path may name one again. -/
theorem foldl_unstage {paths : List String} (h : (s.staged.map StagedChange.file).Nodup)
    (hpaths : ∀ p ∈ paths, p ∈ s.pending) :
    paths.foldl unstage s = { s with
      staged := s.staged.filter (·.file ∉ paths)
      working := s.working ++ paths.eraseDups.filter (· ∉ s.working) } := by
  rw [← foldl_noted]
  induction paths generalizing s with
  | nil => simp
  | cons p paths ih =>
    obtain ⟨hp, hrest⟩ := List.forall_mem_cons.1 hpaths
    have hstep := unstage_of_pending h hp
    have hnodup : ((s.unstage p).staged.map StagedChange.file).Nodup := by
      rw [hstep]
      exact h.sublist (List.filter_sublist.map _)
    have hnext : ∀ q ∈ paths, q ∈ (s.unstage p).pending :=
      fun q hq => mem_pending_unstage.2 (hrest q hq)
    rw [List.foldl_cons, ih hnodup hnext, hstep, List.filter_filter]
    simp [not_or, Bool.and_comm]

end State

namespace Repo

variable {r : Repo} {paths : List String}

theorem unstage_of_staged (hpaths : ∀ p ∈ paths, p ∈ r.state.staged.map StagedChange.file) :
    r.unstage paths = ({ r with state := paths.foldl State.unstage r.state }, .ok) := by
  have hnone : paths.find? (fun p => !r.state.isStaged p) = none := by
    refine List.find?_eq_none.2 fun p hp => ?_
    simpa using State.isStaged_iff.2 (hpaths p hp)
  rw [unstage, hnone]

theorem refused_unstage {path : String} (h : path ∈ paths)
    (hnot : path ∉ r.state.staged.map StagedChange.file) : r.Refused (returning (r.unstage paths)) := by
  cases hfind : paths.find? fun p => !r.state.isStaged p with
  | none =>
    have hstaged := List.find?_eq_none.1 hfind path h
    exact absurd (State.isStaged_iff.1 (by simpa using hstaged)) hnot
  | some p => exact ⟨.notStaged p, by rw [unstage, hfind]⟩

theorem discard_of_pending (h : ∀ p ∈ paths, p ∈ r.state.working) :
    r.discard paths
      = ({ r with state.working := r.state.working.filter fun f => !paths.contains f }, .ok) := by
  have hnone : paths.find? (fun p => !r.state.isPending p) = none := by
    refine List.find?_eq_none.2 fun p hp => ?_
    simpa using State.isPending_iff.2 (h p hp)
  rw [discard, hnone]

theorem refused_discard {path : String} (h : path ∈ paths) (hnot : path ∉ r.state.working) :
    r.Refused (returning (r.discard paths)) := by
  cases hfind : paths.find? fun p => !r.state.isPending p with
  | none =>
    have hpending := List.find?_eq_none.1 hfind path h
    exact absurd (State.isPending_iff.1 (by simpa using hpending)) hnot
  | some p => exact ⟨.notPending p, by rw [discard, hfind]⟩

/-- The operation fails exactly if some path is not in the list, and then does nothing; if it
succeeds, the repository is the given one. -/
structure AllOrNothing (r : Repo) (paths list : List String) (done : Repo) (out : Repo × Reply) :
    Prop where
  failure_iff : out.2.success = false ↔ ∃ p ∈ paths, p ∉ list
  unchanged : out.2.success = false → out.1 = r
  done_eq : out.2.success = true → out.1 = done

theorem allOrNothing_of {list : List String} {done : Repo} {out : Repo × Reply}
    (hrefused : ∀ p ∈ paths, p ∉ list → r.Refused (returning out))
    (hdone : (∀ p ∈ paths, p ∈ list) → out = (done, .ok)) :
    r.AllOrNothing paths list done out := by
  by_cases hall : ∀ p ∈ paths, p ∈ list
  · rw [hdone hall]
    refine ⟨iff_of_false nofun ?_, nofun, fun _ => rfl⟩
    rintro ⟨p, hp, hnot⟩
    exact hnot (hall p hp)
  · obtain ⟨p, hp, hnot⟩ : ∃ p ∈ paths, p ∉ list := by simpa using hall
    have hout := hrefused p hp hnot
    refine ⟨iff_of_true hout.success_eq ⟨p, hp, hnot⟩, fun _ => hout.repo_eq, fun hsuccess => ?_⟩
    rw [hout.success_eq] at hsuccess
    cases hsuccess

/-- Unstaging takes the named files out of the staged list and puts those that are not there yet
behind the working files; discarding takes the named files out of the working list. -/
theorem unstage_discard_lists (r : Repo) (h : (r.state.staged.map StagedChange.file).Nodup)
    (paths : List String) :
    r.AllOrNothing paths (r.state.staged.map StagedChange.file)
        { r with
          state.staged := r.state.staged.filter (·.file ∉ paths)
          state.working := r.state.working ++ paths.eraseDups.filter (· ∉ r.state.working) }
        (r.unstage paths)
      ∧ r.AllOrNothing paths r.state.working
        { r with state.working := r.state.working.filter (· ∉ paths) } (r.discard paths) := by
  constructor
  · refine allOrNothing_of (fun p hp hnot => refused_unstage hp hnot) fun hall => ?_
    have hpending : ∀ p ∈ paths, p ∈ r.state.pending :=
      fun p hp => State.mem_pending.2 (.inl (hall p hp))
    rw [unstage_of_staged hall, State.foldl_unstage h hpending]
  · refine allOrNothing_of (fun p hp hnot => refused_discard hp hnot) fun hall => ?_
    rw [discard_of_pending hall]
    simp

/-- Three staged files, of which one has been edited again, and one that is not staged. -/
def halfStaged : Repo :=
  (deterministic .default).afterAll
    [.edited "b", .performed (.add "a"), .performed (.add "b"), .performed (.add "c"),
      .edited "b", .edited "d"]

theorem unstage_discard_halfStaged :
    (halfStaged.state.staged.map StagedChange.file).Nodup
      ∧ (halfStaged.unstage ["c", "b", "c"]).1.state.staged = [⟨"a", .added⟩]
      ∧ (halfStaged.unstage ["c", "b", "c"]).1.state.working = ["b", "d", "c"]
      ∧ (halfStaged.unstage ["a", "d"]).1 = halfStaged
      ∧ (halfStaged.discard ["d", "d"]).1.state.working = ["b"]
      ∧ (halfStaged.discard ["d", "a"]).1 = halfStaged := by
  have hnodup : (halfStaged.state.staged.map StagedChange.file).Nodup := by decide +kernel
  obtain ⟨hunstage, -⟩ := halfStaged.unstage_discard_lists hnodup ["c", "b", "c"]
  obtain ⟨hrefused, -⟩ := halfStaged.unstage_discard_lists hnodup ["a", "d"]
  obtain ⟨-, hdiscard⟩ := halfStaged.unstage_discard_lists hnodup ["d", "d"]
  obtain ⟨-, hrefused'⟩ := halfStaged.unstage_discard_lists hnodup ["d", "a"]
  have hdone := hunstage.done_eq (by decide +kernel)
  have hdone' := hdiscard.done_eq (by decide +kernel)
  refine ⟨hnodup, ?_, ?_, hrefused.unchanged ?_, ?_, hrefused'.unchanged ?_⟩
  · rw [hdone]
    decide +kernel
  · rw [hdone]
    decide +kernel
  · exact hrefused.failure_iff.2 ⟨"d", by decide, by decide +kernel⟩
  · rw [hdone']
    decide +kernel
  · exact hrefused'.failure_iff.2 ⟨"a", by decide, by decide +kernel⟩

end Repo

end GitPractice
