import GitPractice.Proofs.Committing
import GitPractice.Proofs.Conservation

/-!
# Operations made of others

Some operations are put together from two others, but each has checks of its own and passes over
some of its parts. A commit of all files asks for changes before it has staged them
(`commit_all_eq`). A checkout that creates its branch does not look whether it is there to be
switched to (`createAndSwitch_of_success`). Merging a pull request looks for both branches itself
and has no use for what the switch and the merge have to say (`mergePull_eq_parts`). The outcome is
that of the parts one after the other all the same (`compound_operations`).
-/

namespace GitPractice

open Text (isBlankText)

namespace State

variable {s : State}

theorem pending_eq_nil_iff : s.pending = [] ↔ s.staged = [] ∧ s.working = [] := by
  rw [pending, List.append_eq_nil_iff, List.map_eq_nil_iff]

theorem hasChanges_false_iff : s.HasChanges false ↔ s.staged ≠ [] := by simp [HasChanges]

/-- What is staged after all files have been is what was staged or in the working list. -/
theorem hasChanges_stageAll : s.stageAll.HasChanges false ↔ s.HasChanges true := by
  have hnil : s.stageAll.staged = [] ↔ s.pending = [] := by
    rw [← List.map_eq_nil_iff (f := StagedChange.file), List.eq_nil_iff_forall_not_mem,
      List.eq_nil_iff_forall_not_mem]
    exact forall_congr' fun f => not_congr mem_stageAll_staged
  rw [hasChanges_false_iff, ne_eq, hnil, pending_eq_nil_iff, not_and_or, HasChanges,
    and_iff_right rfl]

theorem stageAll_of_working_eq_nil (h : s.working = []) : s.stageAll = s := by
  rw [stageAll, h, List.foldl_nil, ← h]

end State

namespace Repo

variable {r : Repo}

/-! ## Committing all files -/

theorem commit_all_eq (h : r.state.WellFormed) {message : String}
    (hmessage : isBlankText message = false) :
    r.commit message true = (r.add "-A").1.commit message false := by
  obtain ⟨parent, hparent⟩ := h.exists_headTip?
  have hadd : (r.add "-A").1 = { r with state := r.state.stageAll } := rfl
  by_cases hchanges : r.state.HasChanges true
  · have hstaged : (r.add "-A").1.state.HasChanges false := State.hasChanges_stageAll.2 hchanges
    have hdraw : (r.add "-A").1.nextDraw = r.nextDraw := rfl
    obtain ⟨hmade, hnone⟩ := commit_of_changes hmessage hparent hchanges
    obtain ⟨hmade', hnone'⟩ := commit_of_changes (r := (r.add "-A").1) hmessage hparent hstaged
    rcases hdrawn : r.nextDraw with _ | drawn
    · rw [hnone hdrawn, hnone' (hdraw.trans hdrawn)]
      rfl
    · rw [hmade drawn hdrawn, hmade' drawn (hdraw.trans hdrawn)]
      rfl
  · -- Without changes there is nothing that staging them could do.
    have hworking : r.state.working = [] := by
      by_contra hworking
      exact hchanges (.inr ⟨rfl, hworking⟩)
    have hnone : ¬ r.state.HasChanges false :=
      fun hstaged => hchanges (.inl (State.hasChanges_false_iff.1 hstaged))
    rw [hadd, State.stageAll_of_working_eq_nil hworking,
      commit_of_no_changes hmessage hparent hchanges, commit_of_no_changes hmessage hparent hnone]

/-! ## Creating a branch and switching to it -/

section Branches

variable {name : String} {start : Option String}

theorem createAndSwitch_of_failure (h : (r.createBranch name start).2.success = false) :
    r.checkout name true start = r.createBranch name start := by
  simp only [checkout, createAndSwitch, h, if_true, Bool.false_eq_true, if_false]

theorem createAndSwitch_of_success (h : (r.createBranch name start).2.success = true) :
    (r.checkout name true start).2.success = true
      ∧ ((r.createBranch name start).1.checkout name false none).2.success = true
      ∧ (r.checkout name true start).1
        = ((r.createBranch name start).1.checkout name false none).1 := by
  rcases r.createBranch_cases name start with ⟨e, hrefused⟩ | ⟨tip, hnew, hstart, hcreated⟩
  · rw [hrefused] at h
    cases h
  · have hthere : name ∈ (r.createBranch name start).1.state.branches.keys := by
      rw [hcreated]
      exact (OrderedMap.mem_keys_insert name).2 (.inl rfl)
    obtain ⟨text, hswitch⟩ := (r.createBranch name start).1.switchTo_of_mem hthere
    simp only [checkout, createAndSwitch, h, if_true, Bool.false_eq_true, if_false, hswitch]
    exact ⟨rfl, rfl, rfl⟩

end Branches

/-! ## Merging a pull request -/

theorem mergePull_eq_parts {number : UInt32} {p : PullRequest} (method : MergeMethod)
    (hpull : r.state.pullRequests.get? number = some p) (hopen : p.status = .opened)
    (hsource : p.source ∈ r.state.branches.keys) (htarget : p.target ∈ r.state.branches.keys) :
    let switched := r.checkout p.target false none
    let merged := switched.1.merge p.source
    let out := r.mergePull number method
    switched.2.success = true ∧ out.2.succeeded = merged.2.succeeded
      ∧ (merged.2.succeeded = true ↔ r.HasFreeId)
      ∧ (merged.2.succeeded = true → out.1 = { merged.1 with
        state.pullRequests := r.state.pullRequests.insert number { p with status := .merged } })
      ∧ (merged.2.succeeded = false → out = merged) := by
  obtain ⟨source, hfound⟩ := OrderedMap.mem_keys_iff.1 hsource
  obtain ⟨target, htip⟩ := OrderedMap.mem_keys_iff.1 htarget
  obtain ⟨text, hswitch⟩ := r.switchTo_of_mem htarget
  have hsome : ((r.onBranch p.target).state.branches.get? p.source
      <|> (r.onBranch p.target).state.remoteBranches.get? p.source) = some source := by
    simp [onBranch, hfound]
  have hparent : (r.onBranch p.target).state.headTip? = some target.tip :=
    headTip?_eq_some_iff.2 ⟨target, htip, rfl⟩
  obtain ⟨hmade, hnone⟩ := (r.onBranch p.target).merge_of_some hsome hparent
  obtain ⟨hdone, hheld⟩ :=
    r.mergePull_of_open method (r.requireOpen_eq_ok_iff.2 ⟨hpull, hopen⟩) hfound htip
  have hcheckout : r.checkout p.target false none = (r.onBranch p.target, .printed text) := hswitch
  intro switched merged out
  simp only [switched, merged, out, hcheckout]
  rcases hdrawn : r.nextDraw with _ | drawn
  · rw [hnone hdrawn, hheld hdrawn]
    exact ⟨rfl, rfl, iff_of_false Bool.false_ne_true (nextDraw_eq_none_iff.1 hdrawn),
      fun hmade => absurd hmade Bool.false_ne_true, fun _ => rfl⟩
  · obtain ⟨text', hmerge⟩ := hmade drawn hdrawn
    obtain ⟨text'', hpullMerge⟩ := hdone drawn hdrawn
    have hmarked := OrderedMap.modify_eq_insert hpull ({ · with status := .merged })
    rw [hmerge, hpullMerge]
    refine ⟨rfl, rfl, iff_of_true rfl (hasFreeId_of_nextDraw hdrawn), fun _ => ?_,
      fun hfailed => absurd hfailed.symm Bool.false_ne_true⟩
    rw [← hmarked]
    rfl

/-- Committing all files is staging them all and committing; creating a branch by a checkout is
creating and then checking it out; and merging an open pull request, by whatever method, is checking
out its target, merging its source and, once that is done, marking it, and no other, as merged. -/
theorem compound_operations (r : Repo) (h : r.state.WellFormed) :
    (∀ message, isBlankText message = false →
      r.commit message true = (r.add "-A").1.commit message false)
    ∧ (∀ name start,
      (r.checkout name true start).2.success = (r.createBranch name start).2.success
        ∧ ((r.checkout name true start).2.success = true →
          ((r.createBranch name start).1.checkout name false none).2.success = true
            ∧ (r.checkout name true start).1
              = ((r.createBranch name start).1.checkout name false none).1)
        ∧ ((r.createBranch name start).2.success = false →
          r.checkout name true start = r.createBranch name start))
    ∧ ∀ number p method, r.state.pullRequests.get? number = some p → p.status = .opened →
      p.source ∈ r.state.branches.keys → p.target ∈ r.state.branches.keys →
      let switched := r.checkout p.target false none
      let merged := switched.1.merge p.source
      let out := r.mergePull number method
      switched.2.success = true ∧ out.2.succeeded = merged.2.succeeded
        ∧ (merged.2.succeeded = true ↔ r.HasFreeId)
        ∧ (merged.2.succeeded = true → out.1 = { merged.1 with
          state.pullRequests := r.state.pullRequests.insert number { p with status := .merged } })
        ∧ (merged.2.succeeded = false → out = merged) := by
  refine ⟨fun message hmessage => commit_all_eq h hmessage, fun name start => ?_,
    fun number p method => mergePull_eq_parts method⟩
  cases hcreated : (r.createBranch name start).2.success with
  | false =>
    have hsame := createAndSwitch_of_failure hcreated
    rw [hsame, hcreated]
    exact ⟨rfl, nofun, fun _ => rfl⟩
  | true =>
    obtain ⟨hsuccess, hswitched, hstate⟩ := createAndSwitch_of_success hcreated
    exact ⟨hsuccess, fun _ => ⟨hswitched, hstate⟩, nofun⟩

/-- On the branch of an open pull request a file has been staged and edited again, and another one
has been edited. -/
def reworked : Repo :=
  (deterministic .default).afterAll
    [.performed (.checkout "topic" true none), .performed (.push "origin" none false),
      .performed (.createPull "Topic" "" none "main"), .edited "b", .performed (.add "b"),
      .edited "b", .edited "a"]

theorem compound_operations_reworked :
    reworked.state.WellFormed
      ∧ (reworked.commit "Rework" true = (reworked.add "-A").1.commit "Rework" false
        ∧ (reworked.commit "Rework" true).2
          = some (.printed "[topic c000002] Rework\n 2 files changed"))
      ∧ ((reworked.checkout "next" true (some "HEAD")).2.success = true
        ∧ (reworked.checkout "next" true (some "HEAD")).1
          = ((reworked.createBranch "next" (some "HEAD")).1.checkout "next" false none).1)
      ∧ reworked.checkout "main" true none = reworked.createBranch "main" none
      ∧ (reworked.mergePull 1 .squash).2.succeeded = true
      ∧ (reworked.mergePull 1 .squash).1.state.working
        = ((reworked.checkout "main" false none).1.merge "topic").1.state.working
      ∧ (reworked.mergePull 1 .squash).1.state.pullRequests.values.map PullRequest.status
        = [.merged] := by
  have hwell : reworked.state.WellFormed := wellFormed_afterAll (wellFormed_fresh _ _ _) _
  obtain ⟨hcommit, hcheckout, hmerge⟩ := reworked.compound_operations hwell
  obtain ⟨-, hcreated, -⟩ := hcheckout "next" (some "HEAD")
  obtain ⟨-, -, hrefused⟩ := hcheckout "main" none
  have hsuccess : (reworked.checkout "next" true (some "HEAD")).2.success = true := by
    decide +kernel
  have hpull : reworked.state.pullRequests.get? 1
      = some ⟨1, "Topic", "", "topic", "main", "learner", .opened, [], false⟩ := by
    decide +kernel
  obtain ⟨-, hdone, hfree, hmerged, -⟩ := hmerge 1 _ .squash hpull rfl (by decide +kernel)
    (by decide +kernel)
  have hmade := hfree.2 ⟨0, by decide +kernel⟩
  refine ⟨hwell, ⟨hcommit "Rework" (by decide +kernel), by decide +kernel⟩,
    ⟨hsuccess, (hcreated hsuccess).2⟩, hrefused (by decide +kernel), hdone.trans hmade, ?_, ?_⟩
  · rw [hmerged hmade]
  · rw [hmerged hmade]
    decide +kernel

end Repo
end GitPractice
