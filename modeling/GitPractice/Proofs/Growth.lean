import GitPractice.Proofs.Dispatch
import GitPractice.Proofs.Frame

/-!
# History only grows

A line appends one commit at most and leaves the others where they are. A branch that is there
before and after stays where it was, or moves to the new commit from the parent of that, so it
never goes back (`run_grows`). This holds for the merge of a pull request too, which moves the
target of the pull request and not the branch that was checked out.

Only commits and branches matter here (`Grows.of_eq`), and of branches only the tips; so what does
not reach those is done without growth (`grows_of_within`).
-/

namespace GitPractice

namespace State

/-- From one state to the other at most one commit has been added, at the end and under a new id,
and each branch of both states has kept its tip or has moved from the parent to that commit. -/
def Grows (s t : State) : Prop :=
  ∃ added : Option Commit,
    t.commits.entries = s.commits.entries ++ added.toList.map (fun c => (c.id, c))
      ∧ (∀ c ∈ added, c.id ∉ s.commits.keys)
      ∧ ∀ name b b', s.branches.get? name = some b → t.branches.get? name = some b' →
        b'.tip = b.tip ∨ ∃ c ∈ added, b'.tip = c.id ∧ c.parent = some b.tip

variable {s t s' t' : State}

theorem Grows.of_eq (h : s.Grows t) (hcommits : s'.commits = s.commits)
    (hbranches : s'.branches = s.branches) (hcommits' : t'.commits = t.commits)
    (hbranches' : t'.branches = t.branches) : s'.Grows t' := by
  rw [Grows, hcommits, hbranches, hcommits', hbranches']
  exact h

/-! ## Without a commit -/

theorem grows_of_tips (hcommits : t.commits = s.commits)
    (htips : OrderedMap.Agree Branch.tip s.branches t.branches) : s.Grows t := by
  refine ⟨none, ?_, fun c hc => ?_, fun name b b' hb hb' => .inl (htips name b b' hb hb')⟩
  · rw [hcommits, Option.toList_none, List.map_nil, List.append_nil]
  · cases hc

theorem grows_of_branches (hcommits : t.commits = s.commits)
    (hbranches : t.branches = s.branches) : s.Grows t := by
  refine grows_of_tips hcommits ?_
  rw [hbranches]

theorem grows_of_within {parts : List Part} (h : s.Within parts t) (hcommits : .commits ∉ parts)
    (htips : .tips ∉ parts) : s.Grows t := grows_of_tips (h .commits hcommits) (h .tips htips)

/-! ## With a commit -/

/-- The branch that moves is the checked-out one, which is why its tip has to be the parent. -/
theorem grows_withCommit {c : Commit} (hnew : c.id ∉ s.commits.keys)
    (hparent : c.parent = s.headTip?) : s.Grows (s.withCommit c) := by
  refine ⟨some c, OrderedMap.entries_insert_of_notMem hnew, fun c' hc' => ?_,
    fun name b b' hb hb' => ?_⟩
  · rwa [← Option.mem_some.1 hc']
  · rw [withCommit, OrderedMap.get?_modify, hb] at hb'
    split_ifs at hb' with hhead
    · right
      have htip : s.headTip? = some b.tip := Repo.headTip?_eq_some_iff.2 ⟨b, hhead ▸ hb, rfl⟩
      exact ⟨c, rfl, by rw [← Option.some.inj hb'], hparent.trans htip⟩
    · left
      rw [Option.some.inj hb']

end State

namespace Repo

variable {r r' : Repo}

theorem grows_commitAs {drawn : String × Fingerprints} (hdrawn : r.nextDraw = some drawn)
    {message : String} {parent : CommitId} {files : List String}
    (hparent : r.state.headTip? = some parent) :
    r.state.Grows (r.commitAs drawn message parent files).state := by
  rw [commitAs_state]
  exact State.grows_withCommit (drawn_notMem hdrawn) hparent.symm

theorem grows_effect {op : Operation} (heffect : r.Effect op r') : r.state.Grows r'.state := by
  have hwithin := within_effect heffect
  cases heffect with
  | @commit _ all parent drawn hmessage hparent hfiles hdrawn =>
    have hdraw : (r.emptied all).nextDraw = some drawn := (r.nextDraw_emptied all).trans hdrawn
    have htip : (r.emptied all).state.headTip? = some parent := by
      rw [← hparent]
      cases all <;> rfl
    exact (grows_commitAs hdraw htip).of_eq (r.state.indexed_commits all).symm
      (r.state.indexed_branches all).symm rfl rfl
  | merge hsource hparent hdrawn => exact grows_commitAs hdrawn hparent
  | @mergePull number _ p source target drawn hopen hsource htarget hdrawn =>
    have hdraw : (r.onBranch p.target).nextDraw = some drawn := hdrawn
    have htip : (r.onBranch p.target).state.headTip? = some target.tip :=
      headTip?_eq_some_iff.2 ⟨target, htarget, rfl⟩
    exact (grows_commitAs hdraw htip).of_eq rfl rfl rfl rfl
  | _ => exact State.grows_of_within hwithin (by simp [Operation.reach]) (by simp [Operation.reach])

theorem grows_waits {op : Operation} (hwaits : r.Waits op r') : r.state.Grows r'.state := by
  rcases hwaits.eq_or_effect with rfl | ⟨-, heffect⟩ | ⟨_, _, _, -, heffect⟩
  · exact State.grows_of_branches rfl rfl
  · exact grows_effect heffect
  · exact grows_effect heffect

theorem grows_perform (op : Operation) : r.state.Grows (r.perform op).1.state := by
  rcases r.perform_cases op with hrefused | ⟨heffect, -⟩ | ⟨hwaits, -⟩
  · rw [hrefused.repo_eq]
    exact State.grows_of_branches rfl rfl
  · exact grows_effect heffect
  · exact grows_waits hwaits

theorem grows_amounts {line : String} {out : Repo × Response} (h : Console.LineAmounts line r out) :
    r.state.Grows out.1.state := by
  obtain ⟨c, -, h⟩ := h
  cases h with
  | seen reply => exact State.grows_of_branches rfl rfl
  | performed hcalls hresponse => exact grows_perform _
  | staged hname =>
    exact State.grows_of_within (State.within_foldl_added _ _) (by decide) (by decide)

end Repo

theorem Console.run_grows (r : Repo) (line : String) : r.state.Grows (run r line).1.state := by
  rcases run_cases r line with ⟨e, hrun⟩ | ⟨out, hout, hrun⟩
  · rw [hrun]
    exact State.grows_of_branches rfl rfl
  · rw [hrun]
    exact Repo.grows_amounts hout

end GitPractice
