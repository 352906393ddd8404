import GitPractice.Proofs.Outcome
import GitPractice.Proofs.Snapshot

/-!
# Well-formed repositories

A state is well formed if nothing in it points nowhere and every record is stored under its own
name: the head is a branch, tips and parents are commits, and no file is listed twice. Such a
state begins every run, and every effect and every import leads from one to another, so every run
stays among them (`wellFormed_afterAll_fresh`).

The parts lean on each other. A start point is a commit because ids are keys, and the head stays a
branch because the branch that is checked out is never deleted.
-/

namespace GitPractice

structure Commit.Sound (known : List CommitId) (id : CommitId) (c : Commit) : Prop where
  id_eq : c.id = id
  parent_mem : ∀ p, c.parent = some p → p ∈ known

structure Branch.SoundLocal (known : List CommitId) (name : String) (b : Branch) : Prop where
  name_eq : b.name = name
  tip_mem : b.tip ∈ known
  remote_eq : b.remote = false

structure Branch.SoundTracking (known : List CommitId) (name : String) (b : Branch) : Prop where
  name_eq : b.name = name
  tip_mem : b.tip ∈ known
  remote_eq : b.remote = true
  followed_eq : b.followed = none

structure State.WellFormed (s : State) : Prop where
  head_mem : s.head ∈ s.branches.keys
  commits : s.commits.All (Commit.Sound s.commits.keys)
  branches : s.branches.All (Branch.SoundLocal s.commits.keys)
  remoteBranches : s.remoteBranches.All (Branch.SoundTracking s.commits.keys)
  pulls : s.pullRequests.All fun number p => p.number = number
  staged : (s.staged.map StagedChange.file).Nodup
  working : s.working.Nodup

section Known

variable {known known' : List CommitId}

theorem Commit.Sound.mono {id : CommitId} {c : Commit} (h : c.Sound known id)
    (hk : ∀ i ∈ known, i ∈ known') : c.Sound known' id :=
  ⟨h.id_eq, fun p hp => hk p (h.parent_mem p hp)⟩

theorem Branch.SoundLocal.mono {name : String} {b : Branch} (h : b.SoundLocal known name)
    (hk : ∀ i ∈ known, i ∈ known') : b.SoundLocal known' name :=
  ⟨h.name_eq, hk _ h.tip_mem, h.remote_eq⟩

theorem Branch.SoundTracking.mono {name : String} {b : Branch} (h : b.SoundTracking known name)
    (hk : ∀ i ∈ known, i ∈ known') : b.SoundTracking known' name :=
  ⟨h.name_eq, hk _ h.tip_mem, h.remote_eq, h.followed_eq⟩

theorem Branch.soundLocal_localAt {name : String} {tip : CommitId} (h : tip ∈ known) :
    (Branch.localAt name tip).SoundLocal known name := ⟨rfl, h, rfl⟩

theorem Branch.soundTracking_trackingAt {name : String} {tip : CommitId} (h : tip ∈ known) :
    (Branch.trackingAt name tip).SoundTracking known name := ⟨rfl, h, rfl, rfl⟩

end Known

section Files

/-- A file is listed at the end unless it is listed already. -/
theorem nodup_noted {l : List String} (h : l.Nodup) (f : String) :
    (if f ∈ l then l else l ++ [f]).Nodup := by
  split_ifs with hf
  · exact h
  · rw [← List.concat_eq_append]
    exact h.concat hf

/-- Of several files, those that are not listed yet go to the end, each where it is first named. -/
theorem foldl_noted (l xs : List String) :
    xs.foldl (fun l f => if f ∈ l then l else l ++ [f]) l
      = l ++ xs.eraseDups.filter (· ∉ l) := by
  induction xs using List.reverseRecOn with
  | nil => simp
  | append_singleton xs f ih =>
    rw [List.foldl_append, ih, List.foldl_cons, List.foldl_nil, List.eraseDups_append]
    by_cases hf : f ∈ xs
    · have hlisted : f ∈ l ++ xs.eraseDups.filter (· ∉ l) := by
        by_cases hl : f ∈ l
        · exact List.mem_append_left _ hl
        · exact List.mem_append_right _ (List.mem_filter.2 ⟨List.mem_eraseDups.2 hf, by simpa⟩)
      rw [if_pos hlisted]
      simp [List.removeAll, hf]
    · have hlisted : f ∈ l ++ xs.eraseDups.filter (· ∉ l) ↔ f ∈ l := by simp [hf]
      simp only [hlisted]
      split_ifs with hl
      · simp [List.removeAll, List.eraseDups_cons, hf, hl]
      · simp [List.removeAll, List.eraseDups_cons, hf, hl]

theorem eraseDups_of_nodup {xs : List String} (h : xs.Nodup) : xs.eraseDups = xs := by
  induction xs with
  | nil => rfl
  | cons x xs ih =>
    obtain ⟨hx, hxs⟩ := List.nodup_cons.1 h
    have hother : xs.filter (fun y => !y == x) = xs := by
      refine List.filter_eq_self.2 fun y hy => ?_
      have hne : y ≠ x := fun heq => hx (heq ▸ hy)
      simpa using hne
    rw [List.eraseDups_cons, hother, ih hxs]

theorem foldl_noted_of_nodup {xs : List String} (h : xs.Nodup) (l : List String) :
    xs.foldl (fun l f => if f ∈ l then l else l ++ [f]) l = l ++ xs.filter (· ∉ l) := by
  rw [foldl_noted, eraseDups_of_nodup h]

theorem nodup_files_noted {l : List StagedChange} (h : (l.map StagedChange.file).Nodup)
    (c : StagedChange) :
    ((if l.any (·.file = c.file) then l else l ++ [c]).map StagedChange.file).Nodup := by
  split_ifs with hc
  · exact h
  · rw [List.map_append, List.map_singleton, ← List.concat_eq_append]
    refine h.concat fun hm => ?_
    obtain ⟨c', hc', he⟩ := List.mem_map.1 hm
    exact hc (List.any_eq_true.2 ⟨c', hc', by simpa using he⟩)

end Files

namespace State.WellFormed

variable {s : State} (h : s.WellFormed)

include h

/-! ## Revisions -/

theorem headTip?_mem {tip : CommitId} (htip : s.headTip? = some tip) : tip ∈ s.commits.keys := by
  obtain ⟨b, hb, rfl⟩ := Repo.headTip?_eq_some_iff.1 htip
  exact (h.branches _ _ hb).tip_mem

theorem exists_headTip? : ∃ tip, s.headTip? = some tip := by
  obtain ⟨b, hb⟩ := OrderedMap.mem_keys_iff.1 h.head_mem
  exact ⟨b.tip, Repo.headTip?_eq_some_iff.2 ⟨b, hb, rfl⟩⟩

theorem resolve_mem {rev : String} {id : CommitId} (hrev : s.resolve rev = some id) :
    id ∈ s.commits.keys := by
  unfold resolve at hrev
  split_ifs at hrev with hhead
  · exact h.headTip?_mem hrev
  rcases hlocal : s.branches.get? rev with _ | b
  · rcases htracking : s.remoteBranches.get? rev with _ | b
    · rw [hlocal, htracking] at hrev
      obtain ⟨c, hc, rfl⟩ := Option.map_eq_some_iff.1 (by simpa using hrev)
      rw [(h.commits _ _ hc).id_eq]
      exact OrderedMap.mem_keys_of_get? hc
    · simp only [hlocal, htracking, Option.orElse_eq_orElse, Option.orElse_none, Option.map_some,
        Option.orElse_some, Option.some.injEq] at hrev
      exact hrev ▸ (h.remoteBranches _ _ htracking).tip_mem
  · simp only [hlocal, Option.orElse_eq_orElse, Option.orElse_some, Option.map_some,
      Option.some.injEq] at hrev
    exact hrev ▸ (h.branches _ _ hlocal).tip_mem

/-! ## Branches -/

theorem mem_branches {name : String} {b : Branch} (hb : s.branches.get? name = some b) :
    b.tip ∈ s.commits.keys := (h.branches name b hb).tip_mem

theorem createBranch (name : String) {tip : CommitId} (htip : tip ∈ s.commits.keys) :
    { s with branches := s.branches.insert name (.localAt name tip) }.WellFormed :=
  { h with
    head_mem := (OrderedMap.mem_keys_insert _).2 (.inr h.head_mem)
    branches := h.branches.insert (Branch.soundLocal_localAt htip) }

theorem deleteBranch {name : String} (hhead : name ≠ s.head) :
    { s with branches := s.branches.erase name }.WellFormed :=
  { h with
    head_mem := (OrderedMap.mem_keys_erase _).2 ⟨hhead.symm, h.head_mem⟩
    branches := h.branches.erase name }

theorem switch {target : String} (htarget : target ∈ s.branches.keys) :
    { s with head := target }.WellFormed := { h with head_mem := htarget }

theorem published {tracking : String} {tip : CommitId} (htip : tip ∈ s.commits.keys) :
    (s.published tracking tip).WellFormed := by
  unfold State.published
  split_ifs
  · exact h
  · exact { h with
      remoteBranches := h.remoteBranches.insert (Branch.soundTracking_trackingAt htip) }

theorem modifyBranch {name : String} {f : Branch → Branch}
    (hf : ∀ b : Branch, b.SoundLocal s.commits.keys name →
      (f b).SoundLocal s.commits.keys name) :
    { s with branches := s.branches.modify name f }.WellFormed :=
  { h with
    head_mem := by
      rw [OrderedMap.keys_modify]
      exact h.head_mem
    branches := h.branches.modify hf }

theorem following (name tracking : String) : (s.following name tracking).WellFormed :=
  h.modifyBranch fun _ hb => ⟨hb.name_eq, hb.tip_mem, hb.remote_eq⟩

theorem pushed (remote name : String) {tip : CommitId} (htip : tip ∈ s.commits.keys)
    (follow : Bool) : (s.pushed remote name tip follow).WellFormed := by
  unfold State.pushed
  split_ifs
  · exact (h.published htip).following _ _
  · exact h.published htip

/-! ## Commits -/

/-- Nothing is asked of the id: the other records stay sound even if a commit is overwritten. -/
theorem insertCommit {c : Commit} (hparent : ∀ p, c.parent = some p → p ∈ s.commits.keys) :
    { s with commits := s.commits.insert c.id c }.WellFormed := by
  have hgrow : ∀ i ∈ s.commits.keys, i ∈ (s.commits.insert c.id c).keys :=
    fun i hi => (OrderedMap.mem_keys_insert i).2 (.inr hi)
  refine { h with commits := ?_, branches := ?_, remoteBranches := ?_ }
  · have hold := h.commits.imp fun _ _ hc => hc.mono hgrow
    exact hold.insert ⟨rfl, fun p hp => hgrow p (hparent p hp)⟩
  · exact h.branches.imp fun _ _ hb => hb.mono hgrow
  · exact h.remoteBranches.imp fun _ _ hb => hb.mono hgrow

theorem withCommit {c : Commit} (hparent : ∀ p, c.parent = some p → p ∈ s.commits.keys) :
    (s.withCommit c).WellFormed := by
  have htip : c.id ∈ (s.commits.insert c.id c).keys := (OrderedMap.mem_keys_insert _).2 (.inl rfl)
  exact (h.insertCommit hparent).modifyBranch fun _ hb => ⟨hb.name_eq, htip, hb.remote_eq⟩

/-! ## Files -/

theorem reindex {staged : List StagedChange} {working : List String}
    (hstaged : (staged.map StagedChange.file).Nodup) (hworking : working.Nodup) :
    { s with staged := staged, working := working }.WellFormed :=
  { h with staged := hstaged, working := hworking }

theorem stageAll : s.stageAll.WellFormed := by
  refine h.reindex ?_ List.nodup_nil
  exact List.foldlRecOn (motive := fun l : List StagedChange => (l.map StagedChange.file).Nodup)
    s.working _ h.staged
    fun l hl f _ => nodup_files_noted hl ⟨f, .modified⟩

theorem stage (path : String) : (s.stage path).WellFormed :=
  h.reindex (nodup_files_noted h.staged ⟨path, _⟩) (h.working.erase path)

theorem added (path : String) : (s.added path).WellFormed := by
  unfold State.added
  split_ifs
  · exact h.stageAll
  · exact h.stage path

theorem indexed (all : Bool) : (s.indexed all).WellFormed := by
  unfold State.indexed
  split_ifs
  · exact h.stageAll
  · exact h

theorem unstage (path : String) : (s.unstage path).WellFormed := by
  unfold State.unstage
  split
  · refine h.reindex (h.staged.sublist (List.eraseP_sublist.map _)) ?_
    simpa [isPending] using nodup_noted h.working path
  · exact h

/-! ## Pull requests -/

theorem createPull {number next : UInt32} {p : PullRequest} (hp : p.number = number) :
    { s with nextNumber := next, pullRequests := s.pullRequests.insert number p }.WellFormed :=
  { h with pulls := h.pulls.insert hp }

theorem modifyPull (number : UInt32) {f : PullRequest → PullRequest}
    (hf : ∀ p, (f p).number = p.number) : (s.modifyPull number f).WellFormed :=
  { h with pulls := h.pulls.modify fun p hp => (hf p).trans hp }

end State.WellFormed

theorem Repo.startPoint_mem {r : Repo} (h : r.state.WellFormed) {start : Option String}
    {tip : CommitId} (hstart : r.startPoint start = .ok tip) : tip ∈ r.state.commits.keys := by
  unfold startPoint at hstart
  split at hstart
  · split at hstart
    · rename_i id hid
      rw [← Except.ok.inj hstart]
      exact h.resolve_mem hid
    · simp at hstart
  · split at hstart
    · rename_i id hid
      rw [← Except.ok.inj hstart]
      exact h.headTip?_mem hid
    · simp at hstart

/-! ## Beginnings -/

namespace Snapshot

variable {s : Snapshot} (config : RepoConfig) (now : UInt64)

theorem mem_keys_commits {id : CommitId} :
    id ∈ (s.toState config now).commits.keys ↔ id.text ∈ s.ids := by
  simp only [toState, OrderedMap.mem_keys_ofList, List.map_map, ids, List.mem_map,
    Function.comp_apply, commitOf]
  refine exists_congr fun e => and_congr_right fun _ => ?_
  exact ⟨fun he => he ▸ rfl, fun he => he ▸ rfl⟩

theorem mem_keys_branches {name : String} :
    name ∈ (s.toState config now).branches.keys
      ↔ ∃ e ∈ s.branches.entries, nameOr e.2.name e.1 = name := by
  simp [toState, OrderedMap.mem_keys_ofList, branchOf, Branch.localAt]

theorem Sound.wellFormed (h : s.Sound) : (s.toState config now).WellFormed where
  head_mem := (mem_keys_branches config now).2 h.head_mem
  commits := by
    refine OrderedMap.all_ofList_keyed fun e he => ⟨rfl, fun p hp => ?_⟩
    obtain ⟨parent, hparent, rfl⟩ := Option.map_eq_some_iff.1 hp
    exact (mem_keys_commits config now).2 (h.parent_mem e he parent hparent)
  branches := by
    refine OrderedMap.all_ofList_keyed fun e he => ?_
    have htip := h.tip_mem e (List.mem_append_left _ he)
    exact ⟨rfl, (mem_keys_commits config now).2 htip, rfl⟩
  remoteBranches := by
    refine OrderedMap.all_ofList_keyed fun e he => ?_
    have htip := h.tip_mem e (List.mem_append_right _ he)
    exact ⟨rfl, (mem_keys_commits config now).2 htip, rfl, rfl⟩
  pulls := OrderedMap.all_empty
  staged := h.staged_nodup
  working := List.foldlRecOn s.working _ List.nodup_nil fun _ hl f _ => nodup_noted hl f

end Snapshot

namespace Repo

theorem wellFormed_fresh (config : RepoConfig) (ids : Fingerprints) (now : UInt64) :
    (fresh config ids now).state.WellFormed where
  head_mem := (OrderedMap.mem_keys_insert _).2 (.inl rfl)
  commits := OrderedMap.all_empty.insert ⟨rfl, fun _ hp => by cases hp⟩
  branches := OrderedMap.all_empty.insert
    (Branch.soundLocal_localAt ((OrderedMap.mem_keys_insert _).2 (.inl rfl)))
  remoteBranches := OrderedMap.all_empty
  pulls := OrderedMap.all_empty
  staged := List.nodup_nil
  working := List.nodup_nil

/-! ## Steps and runs -/

variable {r r' : Repo} (h : r.state.WellFormed)

include h

theorem wellFormed_emptied (all : Bool) : (r.emptied all).state.WellFormed :=
  (h.indexed all).reindex List.nodup_nil (h.indexed all).working

theorem wellFormed_merged {parent : CommitId} (hparent : parent ∈ r.state.commits.keys)
    (drawn : String × Fingerprints) (name : String) (source : Branch) :
    (r.merged drawn name source parent).state.WellFormed := by
  rw [merged, commitAs_state]
  exact h.withCommit fun p hp => Option.some.inj hp ▸ hparent

theorem wellFormed_effect {op : Operation} (heffect : r.Effect op r') : r'.state.WellFormed := by
  cases heffect with
  | createBranch hnew hstart => exact h.createBranch _ (startPoint_mem h hstart)
  | deleteBranch hthere hhead => exact h.deleteBranch hhead
  | switchTo hthere => exact h.switch hthere
  | @createAndSwitch target _ _ hnew hstart =>
    have hcreated := h.createBranch target (startPoint_mem h hstart)
    exact hcreated.switch ((OrderedMap.mem_keys_insert _).2 (.inl rfl))
  | add path => exact h.added path
  | unstage hstaged => exact List.foldlRecOn _ _ h fun s hs path _ => hs.unstage path
  | discard hpending => exact h.reindex h.staged (h.working.filter _)
  | @commit _ all parent _ hmessage hparent hfiles hdrawn =>
    have hmem : parent ∈ (r.emptied all).state.commits.keys := by
      rw [emptied, State.indexed_commits]
      exact h.headTip?_mem hparent
    rw [commitAs_state]
    exact (wellFormed_emptied h all).withCommit fun p hp => Option.some.inj hp ▸ hmem
  | merge hsource hparent hdrawn => exact wellFormed_merged h (h.headTip?_mem hparent) _ _ _
  | push hsource => exact h.pushed _ _ (h.mem_branches hsource) _
  | createPull hfree => exact h.createPull rfl
  | @mergePull number _ p source target drawn hopen hsource htarget hdrawn =>
    have hswitched : (r.onBranch p.target).state.WellFormed :=
      h.switch (OrderedMap.mem_keys_of_get? htarget)
    have hmerged := wellFormed_merged hswitched (h.mem_branches htarget)
    exact (hmerged drawn p.source source).modifyPull number fun _ => rfl
  | closePull hopen => exact h.modifyPull _ fun _ => rfl
  | requestReview reviewers hthere => exact h.modifyPull _ fun _ => rfl
  | addReview reviewer verdict comment hthere => exact h.modifyPull _ fun _ => rfl
  | viewPull number => exact h

theorem wellFormed_waits {op : Operation} (hwaits : r.Waits op r') : r'.state.WellFormed := by
  rcases hwaits.eq_or_effect with rfl | ⟨-, heffect⟩ | ⟨_, _, _, -, heffect⟩
  · exact h
  · exact wellFormed_effect h heffect
  · exact wellFormed_effect h heffect

theorem wellFormed_happens {e : Event} (hhappens : r.Happens e r') : r'.state.WellFormed := by
  cases hhappens with
  | refused hfailed => exact h
  | performed heffect hsuccess => exact wellFormed_effect h heffect
  | heldUp hwaits hnone => exact wellFormed_waits h hwaits
  | editedAgain hlisted => exact h
  | @edited file hnew =>
    have hworking := nodup_noted h.working file
    rw [if_neg hnew] at hworking
    exact h.reindex h.staged hworking
  | rejected hfault => exact h
  | imported hsound => exact hsound.wellFormed r.config r.now
  | movedOn ids now => exact h

theorem wellFormed_after (e : Event) : (r.after e).state.WellFormed :=
  wellFormed_happens h (r.happens_after e)

theorem wellFormed_afterAll (events : List Event) : (r.afterAll events).state.WellFormed :=
  invariant_afterAll (P := fun r => r.state.WellFormed) (fun _ e h => wellFormed_after h e) events h

end Repo

/-- Every run of a new repository, whatever succeeds in it and whatever is refused, stays among
the well-formed states. -/
theorem Repo.wellFormed_afterAll_fresh (config : RepoConfig) (ids : Fingerprints) (now : UInt64)
    (events : List Event) : ((fresh config ids now).afterAll events).state.WellFormed :=
  wellFormed_afterAll (wellFormed_fresh config ids now) events

end GitPractice
