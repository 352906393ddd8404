import Mathlib.Logic.Relation
import GitPractice.Proofs.Lineage
import GitPractice.Proofs.NameOrder

/-!
# References in the log and in the list of branches

A branch is found under its key, but beside a commit stands the name that is stored in it. In a
well-formed state these are the same, so what is written beside a commit are the references that
point there (`decorations_eq`), and a state has no reference twice (`nodup_refs`). The log of an
acyclic history shows each commit on it once (`mem_historyFrom_iff`), and so each reference to such
a commit (`nodup_shownRefs`, `mem_shownRefs_iff`). A list of branches has each of them on a line of
its own, in the order of their bytes (`exists_lists`).
-/

namespace GitPractice

open Text (joinWith)

/-- A local or a remote-tracking branch, by the name under which it is stored. -/
inductive Ref where
  | branch (name : String)
  | tracking (name : String)
  deriving DecidableEq

namespace State

/-- The commit that a reference points at. -/
def tipOf? (s : State) : Ref → Option CommitId
  | .branch name => (s.branches.get? name).map Branch.tip
  | .tracking name => (s.remoteBranches.get? name).map Branch.tip

/-- The local branches that are not checked out. -/
def otherBranches (s : State) : List String := s.branches.keys.filter (· ≠ s.head)

/-- The checked-out branch, then the other local branches and then the remote-tracking ones, each
kind in the order in which they were stored. -/
def refs (s : State) : List Ref :=
  .branch s.head :: s.otherBranches.map .branch ++ s.remoteBranches.keys.map .tracking

/-- The references that point at a commit. -/
def refsAt (s : State) (id : CommitId) : List Ref := s.refs.filter (s.tipOf? · = some id)

/-- How a reference is written beside its commit. -/
def captionOf (s : State) : Ref → String
  | .branch name => if name = s.head then "HEAD -> " ++ name else name
  | .tracking name => name

/-- The references beside the commits of a log, in their order. -/
def shownRefs (s : State) (n : Nat) : List Ref := (s.history n).flatMap fun c => s.refsAt c.id

/-- The commit is there, and the other one is its parent. -/
def HasParent (s : State) (id parent : CommitId) : Prop :=
  ∃ c, s.commits.get? id = some c ∧ c.parent = some parent

/-- From the checked-out tip, parents lead to this commit. -/
def OnHistory (s : State) (id : CommitId) : Prop :=
  ∃ tip, s.headTip? = some tip ∧ Relation.ReflTransGen s.HasParent tip id

variable {s : State} {id : CommitId} {ref : Ref}

/-! ## References -/

theorem mem_otherBranches_iff {name : String} :
    name ∈ s.otherBranches ↔ name ∈ s.branches.keys ∧ name ≠ s.head := by
  rw [otherBranches, List.mem_filter, decide_eq_true_iff]

theorem mem_refs_iff (hhead : s.head ∈ s.branches.keys) :
    ref ∈ s.refs ↔ (s.tipOf? ref).isSome = true := by
  cases ref with
  | branch name =>
    rw [tipOf?, Option.isSome_map, ← OrderedMap.contains, OrderedMap.contains_iff]
    by_cases hname : name = s.head
    · simp [refs, hname, hhead]
    · simp [refs, mem_otherBranches_iff, hname]
  | tracking name =>
    rw [tipOf?, Option.isSome_map, ← OrderedMap.contains, OrderedMap.contains_iff]
    simp [refs]

theorem nodup_refs (s : State) : s.refs.Nodup := by
  have hhead : Ref.branch s.head ∉ s.otherBranches.map Ref.branch := by
    simp [mem_otherBranches_iff]
  have hothers : (s.otherBranches.map Ref.branch).Nodup :=
    (s.branches.nodup.filter _).map fun _ _ => Ref.branch.inj
  have htracking : (s.remoteBranches.keys.map Ref.tracking).Nodup :=
    s.remoteBranches.nodup.map fun _ _ => Ref.tracking.inj
  refine (List.nodup_cons.2 ⟨hhead, hothers⟩).append htracking fun ref hlocal hremote => ?_
  obtain ⟨name, -, rfl⟩ := List.mem_map.1 hremote
  simp at hlocal

theorem mem_refsAt_iff (hhead : s.head ∈ s.branches.keys) :
    ref ∈ s.refsAt id ↔ s.tipOf? ref = some id := by
  rw [refsAt, List.mem_filter, decide_eq_true_iff, and_iff_right_iff_imp]
  intro htip
  rw [mem_refs_iff hhead, htip, Option.isSome_some]

theorem refsAt_eq (s : State) (id : CommitId) : s.refsAt id
    = (if s.headTip? = some id then [.branch s.head] else [])
      ++ (s.otherBranches.filter fun n => s.tipOf? (.branch n) = some id).map .branch
      ++ (s.remoteBranches.keys.filter fun n => s.tipOf? (.tracking n) = some id).map .tracking := by
  have hhead : s.tipOf? (.branch s.head) = s.headTip? := rfl
  rw [refsAt, refs, List.filter_append, List.filter_cons, hhead, List.filter_map, List.filter_map]
  by_cases htip : s.headTip? = some id
  · simp only [htip, decide_true, if_true]
    rfl
  · simp only [htip, decide_false, Bool.false_eq_true, if_false]
    rfl

/-- The names that stand beside a commit are keys. -/
theorem decorations_keys (h : s.WellFormed) (id : CommitId) : s.decorations id
    = (if s.headTip? = some id then ["HEAD -> " ++ s.head] else [])
      ++ (s.otherBranches.filter fun n => s.tipOf? (.branch n) = some id)
      ++ s.remoteBranches.keys.filter fun n => s.tipOf? (.tracking n) = some id := by
  have hothers : (s.branches.values.filter fun b => b.tip = id && b.name ≠ s.head).map Branch.name
      = s.otherBranches.filter fun n => s.tipOf? (.branch n) = some id := by
    rw [otherBranches, List.filter_filter]
    refine OrderedMap.map_filter_values fun name b hb => ⟨(h.branches name b hb).name_eq, ?_⟩
    rw [(h.branches name b hb).name_eq, tipOf?, hb]
    simp
  have htracking : (s.remoteBranches.values.filter (·.tip = id)).map Branch.name
      = s.remoteBranches.keys.filter fun n => s.tipOf? (.tracking n) = some id := by
    refine OrderedMap.map_filter_values fun name b hb => ⟨(h.remoteBranches name b hb).name_eq, ?_⟩
    rw [tipOf?, hb]
    simp
  rw [decorations, hothers, htracking]

/-- Beside a commit stand the references that point there. -/
theorem decorations_eq (h : s.WellFormed) (id : CommitId) :
    s.decorations id = (s.refsAt id).map s.captionOf := by
  have hhead : (if s.headTip? = some id then [Ref.branch s.head] else []).map s.captionOf
      = if s.headTip? = some id then ["HEAD -> " ++ s.head] else [] := by
    split_ifs
    · rw [List.map_singleton, captionOf, if_pos rfl]
    · rfl
  have hothers {l : List String} (hl : l ⊆ s.otherBranches) :
      l.map (s.captionOf ∘ Ref.branch) = l := by
    refine (List.map_congr_left fun n hn => ?_).trans (List.map_id l)
    exact if_neg (mem_otherBranches_iff.1 (hl hn)).2
  have htracking (l : List String) : l.map (s.captionOf ∘ Ref.tracking) = l := List.map_id l
  rw [decorations_keys h, refsAt_eq, List.map_append, List.map_append, hhead, List.map_map,
    List.map_map, hothers (List.filter_subset_self _), htracking]

/-! ## On the checked-out history -/

section History

variable (hwell : s.WellFormed)
include hwell

theorem reflTransGen_of_mem_historyFrom : ∀ {n : Nat} {tip : CommitId} {c : Commit},
    c ∈ s.historyFrom n (some tip) → Relation.ReflTransGen s.HasParent tip c.id
  | 0, tip, c, h => by cases h
  | n + 1, tip, c, h => by
    rcases hget : s.commits.get? tip with _ | d
    · rw [historyFrom, hget] at h
      cases h
    · rw [historyFrom_succ hget] at h
      rcases List.mem_cons.1 h with rfl | h
      · rw [(hwell.commits tip c hget).id_eq]
      · rcases hparent : d.parent with _ | p
        · rw [hparent, historyFrom_none] at h
          cases h
        · rw [hparent] at h
          exact .head ⟨d, hget, hparent⟩ (reflTransGen_of_mem_historyFrom h)

/-- An acyclic history is shown whole by as many commits as there are. -/
theorem Acyclic.historyFrom_eq (h : s.Acyclic) {n : Nat} (hn : s.commits.size ≤ n)
    (start : Option CommitId) : s.historyFrom (n + 1) start = s.historyFrom n start := by
  rw [← take_historyFrom n.le_succ start, List.take_of_length_le]
  exact (h.length_historyFrom_le hwell (n + 1) start).trans hn

theorem Acyclic.mem_historyFrom_iff (h : s.Acyclic) {n : Nat} (hn : s.commits.size ≤ n)
    {tip : CommitId} (htip : tip ∈ s.commits.keys) :
    id ∈ (s.historyFrom n (some tip)).map Commit.id
      ↔ Relation.ReflTransGen s.HasParent tip id := by
  constructor
  · intro hmem
    obtain ⟨c, hc, rfl⟩ := List.mem_map.1 hmem
    exact reflTransGen_of_mem_historyFrom hwell hc
  · intro hreach
    -- From the end of the chain on, each commit puts itself in front of its parent's history.
    induction hreach using Relation.ReflTransGen.head_induction_on with
    | refl =>
      obtain ⟨c, hc⟩ := OrderedMap.mem_keys_iff.1 htip
      rw [← h.historyFrom_eq hwell hn, historyFrom_succ hc, List.map_cons,
        (hwell.commits id c hc).id_eq]
      exact List.mem_cons_self
    | @head tip parent hstep _ ih =>
      obtain ⟨c, hc, hparent⟩ := hstep
      rw [← h.historyFrom_eq hwell hn, historyFrom_succ hc, List.map_cons, hparent]
      exact .tail _ (ih ((hwell.commits tip c hc).parent_mem parent hparent))

theorem Acyclic.mem_history_iff (h : s.Acyclic) {n : Nat} (hn : s.commits.size ≤ n) :
    id ∈ (s.history n).map Commit.id ↔ s.OnHistory id := by
  obtain ⟨tip, htip⟩ := hwell.exists_headTip?
  rw [history, htip, h.mem_historyFrom_iff hwell hn (hwell.headTip?_mem htip)]
  refine ⟨fun hreach => ⟨tip, htip, hreach⟩, ?_⟩
  rintro ⟨tip', htip', hreach⟩
  rw [htip, Option.some.injEq] at htip'
  exact htip' ▸ hreach

/-- No commit comes twice and a reference points at one commit only. -/
theorem Acyclic.nodup_shownRefs (h : s.Acyclic) (n : Nat) : (s.shownRefs n).Nodup := by
  have hids : ((s.history n).map Commit.id).Nodup := h.nodup_historyFrom hwell n _
  refine List.nodup_flatMap.2 ⟨fun c _ => s.nodup_refs.filter _, ?_⟩
  refine (List.pairwise_map.1 hids).imp fun hne ref hc hd => hne ?_
  rw [mem_refsAt_iff hwell.head_mem] at hc hd
  exact Option.some.inj (hc.symm.trans hd)

theorem Acyclic.mem_shownRefs_iff (h : s.Acyclic) {n : Nat} (hn : s.commits.size ≤ n) :
    ref ∈ s.shownRefs n ↔ ∃ tip, s.tipOf? ref = some tip ∧ s.OnHistory tip := by
  rw [shownRefs, List.mem_flatMap]
  constructor
  · rintro ⟨c, hc, href⟩
    exact ⟨c.id, (mem_refsAt_iff hwell.head_mem).1 href,
      (h.mem_history_iff hwell hn).1 (List.mem_map_of_mem hc)⟩
  · rintro ⟨tip, htip, hhistory⟩
    obtain ⟨c, hc, rfl⟩ := List.mem_map.1 ((h.mem_history_iff hwell hn).2 hhistory)
    exact ⟨c, hc, (mem_refsAt_iff hwell.head_mem).2 htip⟩

/-- In a log that is not cut short, each reference to a commit on the history stands once. -/
theorem Acyclic.count_shownRefs (h : s.Acyclic) {n : Nat} (hn : s.commits.size ≤ n)
    (htip : s.tipOf? ref = some id) :
    (s.OnHistory id → (s.shownRefs n).count ref = 1)
      ∧ (¬ s.OnHistory id → (s.shownRefs n).count ref = 0) := by
  have hmem : ref ∈ s.shownRefs n ↔ s.OnHistory id := by
    rw [h.mem_shownRefs_iff hwell hn, htip]
    simp
  exact ⟨fun hon => List.count_eq_one_of_mem (h.nodup_shownRefs hwell n) (hmem.2 hon),
    fun hon => List.count_eq_zero_of_not_mem (mt hmem.1 hon)⟩

end History

end State

/-! ## In a list of branches -/

namespace Repo

variable {r : Repo}

/-- One line is starred, as the checked-out branch is neither before nor after itself. -/
theorem localBranchLines_eq {before after : List String}
    (hsorted : sortedNames r.state.branches.keys = before ++ r.state.head :: after) :
    r.localBranchLines
      = before.map ("  " ++ ·) ++ ("* " ++ r.state.head) :: after.map ("  " ++ ·) := by
  have hnodup : (before ++ r.state.head :: after).Nodup :=
    hsorted ▸ (sortedNames_perm _).nodup_iff.2 r.state.branches.nodup
  have hout : r.state.head ∉ before ++ after := (List.nodup_cons.1 (List.nodup_middle.1 hnodup)).1
  have hothers {names : List String} (hsub : names ⊆ before ++ after) :
      names.map (fun n => (if n = r.state.head then "* " else "  ") ++ n)
        = names.map ("  " ++ ·) := by
    refine List.map_congr_left fun n hn => ?_
    have hne : n ≠ r.state.head := fun heq => hout (heq ▸ hsub hn)
    rw [if_neg hne]
  rw [localBranchLines, hsorted, List.map_append, List.map_cons, if_pos rfl,
    hothers (List.subset_append_left _ _), hothers (List.subset_append_right _ _)]

/-- The names in the lists of branches: those before and after the checked-out one, and those of
the remote-tracking branches. -/
structure Lists (r : Repo) (before after tracking : List String) : Prop where
  branches_perm : (before ++ r.state.head :: after).Perm r.state.branches.keys
  branches_order : InByteOrder (before ++ r.state.head :: after)
  tracking_perm : tracking.Perm r.state.remoteBranches.keys
  tracking_order : InByteOrder tracking
  localOnly_eq : r.listBranches .localOnly = .printed (joinWith "\n"
    (before.map ("  " ++ ·) ++ ("* " ++ r.state.head) :: after.map ("  " ++ ·)))
  all_eq : r.listBranches .all = .printed (joinWith "\n"
    (before.map ("  " ++ ·) ++ ("* " ++ r.state.head) :: after.map ("  " ++ ·)
      ++ tracking.map ("  remotes/" ++ ·)))
  remotes_eq : r.listBranches .remotes = .printed (joinWith "\n" (tracking.map ("  " ++ ·)))

theorem exists_lists (hhead : r.state.head ∈ r.state.branches.keys) :
    ∃ before after tracking, r.Lists before after tracking := by
  obtain ⟨before, after, hsorted⟩ :=
    List.append_of_mem ((sortedNames_perm r.state.branches.keys).mem_iff.2 hhead)
  have hstarred := localBranchLines_eq hsorted
  refine ⟨before, after, sortedNames r.state.remoteBranches.keys, ?_⟩
  exact
    { branches_perm := hsorted ▸ sortedNames_perm _
      branches_order := hsorted ▸ inByteOrder_sortedNames r.state.branches.nodup
      tracking_perm := sortedNames_perm _
      tracking_order := inByteOrder_sortedNames r.state.remoteBranches.nodup
      localOnly_eq := by rw [listBranches, hstarred]
      all_eq := by
        rw [listBranches, hstarred]
        rfl
      remotes_eq := rfl }

/-- Beside a commit stand the references that point at it, once each: the checked-out branch first,
then the other local branches and the remote-tracking ones in the order in which they were stored.
So a log that is not cut short has each reference to a commit on its acyclic history once, and no
other. The lists of branches have each branch once, in the order of their bytes, with a star at the
checked-out one. -/
theorem references_shown (hwell : r.state.WellFormed) :
    (∀ id, r.state.decorations id = (r.state.refsAt id).map r.state.captionOf
      ∧ (r.state.refsAt id).Sublist r.state.refs ∧ (r.state.refsAt id).Nodup
      ∧ ∀ ref, ref ∈ r.state.refsAt id ↔ r.state.tipOf? ref = some id)
    ∧ (r.state.Acyclic → ∀ n, r.state.commits.size ≤ n →
      (∀ oneline, r.log n oneline = logOf oneline ((r.state.history n).map fun c =>
        (c, (r.state.refsAt c.id).map r.state.captionOf)))
      ∧ ∀ ref tip, r.state.tipOf? ref = some tip →
        (r.state.OnHistory tip → (r.state.shownRefs n).count ref = 1)
        ∧ (¬ r.state.OnHistory tip → (r.state.shownRefs n).count ref = 0))
    ∧ ∃ before after tracking, r.Lists before after tracking := by
  have hhead := hwell.head_mem
  refine ⟨fun id => ⟨State.decorations_eq hwell id, List.filter_sublist,
    r.state.nodup_refs.filter _, fun ref => State.mem_refsAt_iff hhead⟩,
    fun hacyclic n hn => ⟨fun oneline => ?_, fun ref tip => hacyclic.count_shownRefs hwell hn⟩,
    exists_lists hhead⟩
  simp only [log_eq, State.captioned, State.decorations_eq hwell]

/-- Branches with a capital, an accent and the name of a remote-tracking branch, one of them not on
the checked-out history. -/
def manyNamed : Repo :=
  (deterministic .default).afterAll
    [.performed (.checkout "origin/topic" true none), .edited "b",
      .performed (.commit "Aside" true), .performed (.checkout "topic" true (some "main")),
      .performed (.push "origin" none false), .edited "a", .performed (.commit "Work" true),
      .performed (.createBranch "Über" (some "main")), .performed (.createBranch "Zeit" none)]

theorem references_shown_manyNamed :
    manyNamed.state.WellFormed ∧ manyNamed.state.Acyclic
      ∧ manyNamed.state.refsAt ⟨"c000001"⟩
        = [.branch "main", .branch "Über", .tracking "origin/topic"]
      ∧ manyNamed.state.decorations ⟨"c000001"⟩ = ["main", "Über", "origin/topic"]
      ∧ (manyNamed.state.shownRefs 3).count (.tracking "origin/topic") = 1
      ∧ (manyNamed.state.shownRefs 3).count (.branch "origin/topic") = 0
      ∧ manyNamed.log 3 true = logOf true ((manyNamed.state.history 3).map fun c =>
        (c, (manyNamed.state.refsAt c.id).map manyNamed.state.captionOf))
      ∧ ∃ before after,
        before ++ "topic" :: after = ["Zeit", "main", "origin/topic", "topic", "Über"]
          ∧ manyNamed.listBranches .localOnly = .printed (joinWith "\n"
            (before.map ("  " ++ ·) ++ "* topic" :: after.map ("  " ++ ·))) := by
  have hwell : manyNamed.state.WellFormed := wellFormed_afterAll (wellFormed_fresh _ _ _) _
  have hacyclic : manyNamed.state.Acyclic :=
    acyclic_afterAll (wellFormed_fresh _ _ _) (acyclic_fresh _ _ _) nofun
  have hsize : manyNamed.state.commits.size ≤ 3 := by decide +kernel
  obtain ⟨hbeside, hlog, before, after, tracking, hlists⟩ := references_shown hwell
  obtain ⟨hdecorations, -⟩ := hbeside ⟨"c000001"⟩
  obtain ⟨htext, hcounts⟩ := hlog hacyclic 3 hsize
  obtain ⟨honce, -⟩ := hcounts (.tracking "origin/topic") ⟨"c000001"⟩ (by decide +kernel)
  obtain ⟨-, hnever⟩ := hcounts (.branch "origin/topic") ⟨"c000002"⟩ (by decide +kernel)
  have hon (id : CommitId) :
      id ∈ (manyNamed.state.history 3).map Commit.id ↔ manyNamed.state.OnHistory id :=
    hacyclic.mem_history_iff hwell hsize
  have hrefs : manyNamed.state.refsAt ⟨"c000001"⟩
      = [.branch "main", .branch "Über", .tracking "origin/topic"] := by
    decide +kernel
  have hhead : manyNamed.state.head = "topic" := by decide +kernel
  have hkeys : manyNamed.state.branches.keys
      = ["main", "origin/topic", "topic", "Über", "Zeit"] := by
    decide +kernel
  have hperm := hlists.branches_perm
  have horder := hlists.branches_order
  have hlocal := hlists.localOnly_eq
  rw [hhead] at hperm horder hlocal
  rw [hkeys] at hperm
  refine ⟨hwell, hacyclic, hrefs, ?_, honce ((hon _).1 (by decide +kernel)),
    hnever (mt (hon _).2 (by decide +kernel)), htext true, before, after, ?_, hlocal⟩
  · rw [hdecorations, hrefs]
    decide +kernel
  · exact horder.eq_of_perm (by decide +kernel) (hperm.trans (by decide +kernel))

end Repo
end GitPractice
