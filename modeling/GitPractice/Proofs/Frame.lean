import GitPractice.Proofs.Outcome

/-!
# What an operation leaves alone

A state is taken in parts (`Part`). An operation reaches some of them (`Operation.reach`) and leaves
the others as they were (`within_effect`). So what is asked of a state after an operation need only
be looked at where the operation reaches a part that matters for it.
-/

namespace GitPractice

/-! ## Parts of a state -/

/-- The parts of a state. The branches are the local ones, apart from the commits they point at and
from what they follow. -/
inductive Part where
  | commits
  | tips
  | branches
  | followed
  | remoteBranches
  | head
  | staged
  | working
  | pulls
  | number
  | address
  deriving DecidableEq, Repr

/-- The part is the same in both states. What each branch has is asked of the branches that are in
both. -/
@[reducible] def Part.Same (s t : State) : Part → Prop
  | .commits => t.commits = s.commits
  | .tips => OrderedMap.Agree Branch.tip s.branches t.branches
  | .branches => t.branches.keys = s.branches.keys
  | .followed => OrderedMap.Agree Branch.followed s.branches t.branches
  | .remoteBranches => t.remoteBranches = s.remoteBranches
  | .head => t.head = s.head
  | .staged => t.staged = s.staged
  | .working => t.working = s.working
  | .pulls => t.pullRequests = s.pullRequests
  | .number => t.nextNumber = s.nextNumber
  | .address => t.remoteUrl = s.remoteUrl

namespace State

/-- Nothing but these parts has changed from one state to the other. -/
def Within (parts : List Part) (s t : State) : Prop := ∀ part ∉ parts, part.Same s t

variable {s t u : State} {ps qs : List Part}

theorem within_refl (s : State) : s.Within ps s := by
  intro part _
  cases part with
  | _ => rfl

theorem Within.mono (h : s.Within ps t) (hsub : ps ⊆ qs) : s.Within qs t :=
  fun part hpart => h part fun hmem => hpart (hsub hmem)

/-- A branch that is lost and made anew can have another tip, so the first change must leave the
branches alone. -/
theorem Within.trans (h : s.Within ps t) (h' : t.Within qs u) (hkept : .branches ∉ ps) :
    s.Within (ps ++ qs) u := by
  intro part hpart
  rw [List.mem_append, not_or] at hpart
  have hfirst := h part hpart.1
  have hsecond := h' part hpart.2
  have hkeys : t.branches.keys = s.branches.keys := h .branches hkept
  cases part with
  | tips => exact OrderedMap.Agree.trans hfirst hsecond hkeys
  | followed => exact OrderedMap.Agree.trans hfirst hsecond hkeys
  | _ => exact Eq.trans hsecond hfirst

theorem within_foldl {f : State → String → State} (hf : ∀ (s : State) x, s.Within ps (f s x))
    (hkept : .branches ∉ ps) (xs : List String) : s.Within ps (xs.foldl f s) :=
  List.foldlRecOn (motive := fun t => s.Within ps t) xs f s.within_refl fun t ht x _ =>
    (ht.trans (hf t x) hkept).mono (List.append_subset.2 ⟨List.Subset.refl _, List.Subset.refl _⟩)

/-! ## Kinds of change -/

theorem within_switch (target : String) : s.Within [.head] { s with head := target } := by
  intro part hpart
  cases part with
  | head => exact absurd (by decide) hpart
  | _ => rfl

theorem within_createBranch {name : String} {b : Branch} (hnew : name ∉ s.branches.keys) :
    s.Within [.branches] { s with branches := s.branches.insert name b } := by
  intro part hpart
  cases part with
  | branches => exact absurd (by decide) hpart
  | tips => exact OrderedMap.agree_insert hnew b
  | followed => exact OrderedMap.agree_insert hnew b
  | _ => rfl

theorem within_deleteBranch (name : String) :
    s.Within [.branches] { s with branches := s.branches.erase name } := by
  intro part hpart
  cases part with
  | branches => exact absurd (by decide) hpart
  | tips => exact OrderedMap.agree_erase name
  | followed => exact OrderedMap.agree_erase name
  | _ => rfl

theorem within_following (name tracking : String) :
    s.Within [.followed] (s.following name tracking) := by
  intro part hpart
  cases part with
  | followed => exact absurd (by decide) hpart
  | branches => exact OrderedMap.keys_modify ..
  | tips => exact OrderedMap.agree_modify (by exact fun _ => rfl) name
  | _ => rfl

theorem within_published (tracking : String) (tip : CommitId) :
    s.Within [.remoteBranches] (s.published tracking tip) := by
  unfold published
  split_ifs
  · exact s.within_refl
  · intro part hpart
    cases part with
    | remoteBranches => exact absurd (by decide) hpart
    | _ => rfl

theorem within_pushed (remote name : String) (tip : CommitId) (follow : Bool) :
    s.Within [.remoteBranches, .followed] (s.pushed remote name tip follow) := by
  unfold pushed
  split_ifs
  · exact (s.within_published _ _).trans (within_following _ _) (by decide)
  · exact (s.within_published _ _).mono (by simp)

theorem within_withCommit (c : Commit) : s.Within [.commits, .tips] (s.withCommit c) := by
  intro part hpart
  cases part with
  | commits => exact absurd (by decide) hpart
  | tips => exact absurd (by decide) hpart
  | branches => exact OrderedMap.keys_modify ..
  | followed => exact OrderedMap.agree_modify (by exact fun _ => rfl) s.head
  | _ => rfl

theorem within_reindexed (staged : List StagedChange) (working : List String) :
    s.Within [.staged, .working] { s with staged := staged, working := working } := by
  intro part hpart
  cases part with
  | staged => exact absurd (by decide) hpart
  | working => exact absurd (by decide) hpart
  | _ => rfl

theorem within_discarded (working : List String) :
    s.Within [.working] { s with working := working } := by
  intro part hpart
  cases part with
  | working => exact absurd (by decide) hpart
  | _ => rfl

theorem within_added (path : String) : s.Within [.staged, .working] (s.added path) := by
  unfold added
  split_ifs
  · exact within_reindexed _ _
  · exact within_reindexed _ _

theorem within_foldl_added (s : State) (paths : List String) :
    s.Within [.staged, .working] (paths.foldl added s) :=
  within_foldl (fun _ => within_added) (by decide) paths

theorem within_unstage (path : String) : s.Within [.staged, .working] (s.unstage path) := by
  unfold unstage
  split_ifs
  · exact within_reindexed _ _
  · exact within_reindexed _ _
  · exact s.within_refl

theorem within_numbered (pulls : OrderedMap UInt32 PullRequest) (next : UInt32) :
    s.Within [.pulls, .number] { s with nextNumber := next, pullRequests := pulls } := by
  intro part hpart
  cases part with
  | pulls => exact absurd (by decide) hpart
  | number => exact absurd (by decide) hpart
  | _ => rfl

theorem within_modifyPull (number : UInt32) (f : PullRequest → PullRequest) :
    s.Within [.pulls] (s.modifyPull number f) := by
  intro part hpart
  cases part with
  | pulls => exact absurd (by decide) hpart
  | _ => rfl

end State

/-! ## Operations -/

/-- The parts that an operation may change. -/
def Operation.reach : Operation → List Part
  | .createBranch .. | .deleteBranch .. => [.branches]
  | .checkout _ create _ => if create then [.head, .branches] else [.head]
  | .add _ | .unstage _ => [.staged, .working]
  | .discard _ => [.working]
  | .commit .. => [.staged, .working, .commits, .tips]
  | .merge _ => [.commits, .tips]
  | .push .. => [.remoteBranches, .followed]
  | .createPull .. => [.pulls, .number]
  | .mergePull .. => [.head, .commits, .tips, .pulls]
  | .closePull _ | .requestReview .. | .addReview .. => [.pulls]
  | .viewPull _ => []

namespace Repo

variable {r r' : Repo}

theorem within_emptied (r : Repo) (all : Bool) :
    r.state.Within [.staged, .working] (r.emptied all).state := by
  cases all with
  | false => exact State.within_reindexed _ _
  | true => exact State.within_reindexed _ _

theorem within_commitAs (r : Repo) (drawn : String × Fingerprints) (message : String)
    (parent : CommitId) (files : List String) :
    r.state.Within [.commits, .tips] (r.commitAs drawn message parent files).state := by
  rw [commitAs_state]
  exact State.within_withCommit _

theorem within_effect {op : Operation} (heffect : r.Effect op r') :
    r.state.Within op.reach r'.state := by
  cases heffect with
  | createBranch hnew hstart => exact State.within_createBranch hnew
  | deleteBranch hthere hhead => exact State.within_deleteBranch _
  | switchTo hthere => exact State.within_switch _
  | @createAndSwitch target _ _ hnew hstart =>
    have hswitched : r.state.Within [.head] (r.onBranch target).state := State.within_switch _
    exact hswitched.trans (State.within_createBranch hnew) (by decide)
  | add path => exact State.within_added path
  | unstage hstaged => exact State.within_foldl (fun _ => State.within_unstage) (by decide) _
  | discard hpending => exact State.within_discarded _
  | @commit _ all _ drawn hmessage hparent hfiles hdrawn =>
    exact (within_emptied r all).trans (within_commitAs _ drawn _ _ _) (by decide)
  | merge hsource hparent hdrawn => exact within_commitAs _ _ _ _ _
  | @mergePull number _ p source target drawn hopen hsource htarget hdrawn =>
    have hswitched : r.state.Within [.head] (r.onBranch p.target).state := State.within_switch _
    have hmerged : r.state.Within [.head, .commits, .tips]
        ((r.onBranch p.target).merged drawn p.source source target.tip).state :=
      hswitched.trans (within_commitAs _ drawn _ _ _) (by decide)
    exact hmerged.trans (State.within_modifyPull _ _) (by decide)
  | push hsource => exact State.within_pushed _ _ _ _
  | createPull hfree => exact State.within_numbered _ _
  | closePull hopen => exact State.within_modifyPull _ _
  | requestReview reviewers hthere => exact State.within_modifyPull _ _
  | addReview reviewer verdict comment hthere => exact State.within_modifyPull _ _
  | viewPull number => exact State.within_refl _

theorem within_waits {op : Operation} (hwaits : r.Waits op r') :
    r.state.Within op.reach r'.state := by
  rcases hwaits.eq_or_effect with rfl | ⟨⟨message, rfl⟩, heffect⟩ |
    ⟨number, method, target, rfl, heffect⟩
  · exact State.within_refl _
  · exact (within_effect heffect).mono (by simp [Operation.reach])
  · exact (within_effect heffect).mono (by simp [Operation.reach])

theorem within_perform (r : Repo) (op : Operation) :
    r.state.Within op.reach (r.perform op).1.state := by
  rcases r.perform_cases op with hrefused | ⟨heffect, -⟩ | ⟨hwaits, -⟩
  · rw [hrefused.repo_eq]
    exact State.within_refl _
  · exact within_effect heffect
  · exact within_waits hwaits

/-- What reaches no part changes nothing at all. -/
theorem perform_eq_of_reach (r : Repo) {op : Operation} (hreach : op.reach = []) :
    (r.perform op).1 = r := by
  rcases r.perform_cases op with hrefused | ⟨heffect, -⟩ | ⟨hwaits, -⟩
  · exact hrefused.repo_eq
  · generalize (r.perform op).1 = r' at heffect
    cases heffect with
    | viewPull number => rfl
    | _ => cases hreach
  · generalize (r.perform op).1 = r' at hwaits
    cases hwaits with
    | _ => cases hreach

end Repo

end GitPractice
