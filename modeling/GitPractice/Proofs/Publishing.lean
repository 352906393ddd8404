import GitPractice.Proofs.Committing
import GitPractice.Proofs.Frame

/-!
# What a push publishes

A push stores the tip of a branch under the name it has at the remote, in the place it has there if
it is known, and may make the branch follow that name (`State.Publishes`). A second push finds what
the first has left, so it changes nothing (`pushed_pushed`). The status looks the name up again, and
finds a level branch until a commit has moved the branch on: the new tip is no commit that was
there, and what is stored for the remote is one.
-/

namespace GitPractice

open Text (joinWith)

/-- The checked-out branch follows the given one, which is there, and is `n` commits ahead. -/
structure Status.AheadOf (st : Status) (tracking : String) (n : Nat) : Prop where
  followed_eq : st.followed = some tracking
  followedGone_eq : st.followedGone = false
  ahead_eq : st.ahead = n

namespace State

/-- From one state to the other the branch has been published under the tracking name, perhaps to
follow it, and no more has happened. -/
structure Publishes (s : State) (tracking name : String) (follow : Bool) (t : State) : Prop where
  tip_eq : ∃ b e, s.branches.get? name = some b ∧ t.remoteBranches.get? tracking = some e
    ∧ e.tip = b.tip
  others : ∀ (i : Nat) (e : String × Branch), e.1 ≠ tracking →
    (t.remoteBranches.entries[i]? = some e ↔ s.remoteBranches.entries[i]? = some e)
  branches_eq : t.branches
    = if follow then s.branches.modify name ({ · with followed := some tracking }) else s.branches
  rest_eq : t = { s with remoteBranches := t.remoteBranches, branches := t.branches }

variable {s : State} {tracking name : String} {tip : CommitId}

/-! ## Publishing again -/

theorem published_of_level (h : (s.remoteBranches.get? tracking).map Branch.tip = some tip) :
    s.published tracking tip = s := if_pos h

theorem level_published (s : State) (tracking : String) (tip : CommitId) :
    ((s.published tracking tip).remoteBranches.get? tracking).map Branch.tip = some tip := by
  unfold published
  split_ifs with h
  · exact h
  · rw [OrderedMap.get?_insert, if_pos rfl]
    rfl

theorem following_following (s : State) (name tracking : String) :
    (s.following name tracking).following name tracking = s.following name tracking :=
  congrArg (fun branches => { s with branches }) (OrderedMap.modify_modify (by exact fun _ => rfl))

theorem level_pushed (s : State) (remote name : String) (tip : CommitId) (follow : Bool) :
    ((s.pushed remote name tip follow).remoteBranches.get? (remote ++ "/" ++ name)).map Branch.tip
      = some tip := by
  cases follow with
  | false => exact s.level_published _ _
  | true => exact s.level_published _ _

theorem pushed_pushed (s : State) (remote name : String) (tip : CommitId) (follow : Bool) :
    (s.pushed remote name tip follow).pushed remote name tip follow
      = s.pushed remote name tip follow := by
  have hlevel := published_of_level (s.level_pushed remote name tip follow)
  rw [pushed, hlevel]
  cases follow with
  | false => rfl
  | true => exact following_following _ _ _

theorem branches_pushed (s : State) (remote name : String) (tip : CommitId) (follow : Bool) :
    (s.pushed remote name tip follow).branches
      = if follow then s.branches.modify name ({ · with followed := some (remote ++ "/" ++ name) })
        else s.branches := by
  have hkept : (s.published (remote ++ "/" ++ name) tip).branches = s.branches := by
    unfold published
    split_ifs <;> rfl
  cases follow with
  | false => exact hkept
  | true => rw [pushed, if_pos rfl, following, hkept, if_pos rfl]

theorem publishes_pushed (remote : String) {source : Branch}
    (hsource : s.branches.get? name = some source) (follow : Bool) :
    s.Publishes (remote ++ "/" ++ name) name follow (s.pushed remote name source.tip follow) := by
  obtain ⟨e, he, htip⟩ := Option.map_eq_some_iff.1 (s.level_pushed remote name source.tip follow)
  refine ⟨⟨source, e, hsource, he, htip⟩, ?_, s.branches_pushed remote name source.tip follow, ?_⟩
  · have hothers : ∀ (i : Nat) (e : String × Branch), e.1 ≠ remote ++ "/" ++ name →
        ((s.published (remote ++ "/" ++ name) source.tip).remoteBranches.entries[i]? = some e
          ↔ s.remoteBranches.entries[i]? = some e) := by
      intro i e he
      unfold published
      split_ifs
      · exact Iff.rfl
      · exact OrderedMap.getElem?_entries_insert_of_ne he i
    cases follow with
    | false => exact hothers
    | true => exact hothers
  · unfold pushed published
    split_ifs <;> rfl

/-! ## The status -/

theorem status_following {b e : Branch} (hhead : s.headBranch? = some b)
    (hfollowed : b.followed = some tracking) (he : s.remoteBranches.get? tracking = some e) :
    s.status.AheadOf tracking (if b.tip ≠ e.tip then 1 else 0) := by
  have htracking : s.tracking? = some e := by
    rw [tracking?, hhead, Option.bind_some, hfollowed, Option.bind_some, he]
  refine ⟨?_, ?_, ?_⟩
  · simp [status, hhead, hfollowed]
  · simp [status, hhead, hfollowed, htracking]
  · simp [status, headTip?, hhead, htracking]

variable {t u : State}

theorem Publishes.head_eq {follow : Bool} (h : s.Publishes tracking name follow t) :
    t.head = s.head := by
  rw [h.rest_eq]

theorem Publishes.exists_branch {follow : Bool} {source : Branch}
    (h : s.Publishes tracking name follow t) (hsource : s.branches.get? name = some source) :
    ∃ b, t.branches.get? name = some b ∧ b.tip = source.tip := by
  rw [h.branches_eq]
  cases follow with
  | false => exact ⟨source, hsource, rfl⟩
  | true =>
    refine ⟨{ source with followed := some tracking }, ?_, rfl⟩
    rw [if_pos rfl, OrderedMap.get?_modify, if_pos rfl, hsource]
    rfl

/-- The checked-out branch has been published to be followed, and stands where it was published. -/
theorem Publishes.following (h : s.Publishes tracking s.head true t) :
    ∃ b e, t.headBranch? = some b ∧ b.followed = some tracking
      ∧ t.remoteBranches.get? tracking = some e ∧ e.tip = b.tip := by
  obtain ⟨b, e, hb, he, htip⟩ := h.tip_eq
  refine ⟨{ b with followed := some tracking }, e, ?_, rfl, he, htip⟩
  rw [headBranch?, h.head_eq, h.branches_eq, if_pos rfl, OrderedMap.get?_modify, if_pos rfl, hb]
  rfl

theorem Publishes.aheadOf_zero (h : s.Publishes tracking s.head true t) :
    t.status.AheadOf tracking 0 := by
  obtain ⟨b, e, hb, hfollowed, he, htip⟩ := h.following
  have hahead := status_following hb hfollowed he
  rwa [htip, if_neg (not_not_intro rfl)] at hahead

/-- The checked-out branch follows a branch that is there. -/
def Tracks (s : State) (tracking : String) : Prop :=
  ∃ b e, s.headBranch? = some b ∧ b.followed = some tracking
    ∧ s.remoteBranches.get? tracking = some e

theorem Publishes.tracks (h : s.Publishes tracking s.head true t) : t.Tracks tracking := by
  obtain ⟨b, e, hb, hfollowed, he, -⟩ := h.following
  exact ⟨b, e, hb, hfollowed, he⟩

theorem Tracks.of_within (h : s.Tracks tracking) (hwithin : s.Within [.staged, .working] t) :
    t.Tracks tracking := by
  obtain ⟨b, e, hb, hfollowed, he⟩ := h
  have hhead : t.head = s.head := hwithin .head (by decide)
  have hkeys : t.branches.keys = s.branches.keys := hwithin .branches (by decide)
  have hagree : OrderedMap.Agree Branch.followed s.branches t.branches :=
    hwithin .followed (by decide)
  have hremote : t.remoteBranches = s.remoteBranches := hwithin .remoteBranches (by decide)
  obtain ⟨b', hb'⟩ : ∃ b', t.branches.get? s.head = some b' := by
    rw [← OrderedMap.mem_keys_iff, hkeys]
    exact OrderedMap.mem_keys_of_get? hb
  refine ⟨b', e, ?_, (hagree s.head b b' hb hb').trans hfollowed, hremote ▸ he⟩
  rwa [headBranch?, hhead]

/-- The new tip is no commit that was there, and what is stored for the remote is one. -/
theorem Tracks.aheadOf_one {all : Bool} {c : Commit} (h : t.Tracks tracking) (hwell : t.WellFormed)
    (hcommit : t.Commits all c u) : u.status.AheadOf tracking 1 := by
  obtain ⟨b, e, hb, hfollowed, he⟩ := h
  have hmoved : u.headBranch? = some { b with tip := c.id } := by
    rw [headBranch?] at hb
    rw [headBranch?, hcommit.head_eq, hcommit.moved, OrderedMap.get?_modify, if_pos rfl, hb]
    rfl
  have hne : c.id ≠ e.tip := by
    intro heq
    exact hcommit.new (heq ▸ (hwell.remoteBranches _ _ he).tip_mem)
  rw [← hcommit.remoteBranches_eq] at he
  have hahead := status_following hmoved hfollowed he
  rwa [if_pos hne] at hahead

end State

/-- Whatever happens, it happens to the staged and the working files. -/
def Event.OnFiles : Event → Prop
  | .performed op => op.reach ⊆ [.staged, .working]
  | .edited _ | .movedOn _ _ => True
  | .imported _ => False

namespace Repo

variable {r : Repo} {remote : String} {branch : Option String} {follow : Bool}

/-- What a push says if there is nothing to send. -/
def upToDateLines (name tracking : String) (follow : Bool) : List String :=
  "Everything up-to-date"
    :: if follow then ["branch '" ++ name ++ "' set up to track '" ++ tracking ++ "'."] else []

theorem push_of_level {source : Branch}
    (hsource : r.state.branches.get? (branch.getD r.state.head) = some source)
    (hlevel : (r.state.remoteBranches.get? (remote ++ "/" ++ branch.getD r.state.head)).map
      Branch.tip = some source.tip) :
    r.push remote branch follow
      = ({ r with state := r.state.pushed remote (branch.getD r.state.head) source.tip follow },
        .printed (joinWith "\n" (upToDateLines (branch.getD r.state.head)
          (remote ++ "/" ++ branch.getD r.state.head) follow))) := by
  unfold push State.pushed State.published upToDateLines
  simp only [hsource, hlevel, if_true]
  cases follow <;> rfl

/-- A second push finds the branch at the tip that the first has published. -/
theorem push_again (remote : String) {source : Branch}
    (hsource : r.state.branches.get? (branch.getD r.state.head) = some source) (follow : Bool) :
    (r.push remote branch follow).1.push remote branch follow
      = ((r.push remote branch follow).1, .printed (joinWith "\n" (upToDateLines
          (branch.getD r.state.head) (remote ++ "/" ++ branch.getD r.state.head) follow))) := by
  obtain ⟨text, hpush⟩ := r.push_of_some hsource follow
  have hpublishes := State.publishes_pushed remote hsource follow
  have hlevel := r.state.level_pushed remote (branch.getD r.state.head) source.tip follow
  have htwice := r.state.pushed_pushed remote (branch.getD r.state.head) source.tip follow
  obtain ⟨b, hb, htip⟩ := hpublishes.exists_branch hsource
  rw [hpush]
  generalize r.state.pushed remote (branch.getD r.state.head) source.tip follow = t at *
  rw [← hpublishes.head_eq] at hb hlevel htwice ⊢
  rw [← htip] at hlevel htwice
  rw [push_of_level (r := { r with state := t }) hb hlevel, htwice]

theorem within_files {e : Event} (he : e.OnFiles) :
    r.state.Within [.staged, .working] (r.after e).state := by
  have hhappens := r.happens_after e
  generalize r.after e = r' at hhappens
  cases hhappens with
  | performed heffect hsuccess => exact (within_effect heffect).mono he
  | heldUp hwaits hnone => exact (within_waits hwaits).mono he
  | edited hnew => exact State.within_reindexed _ _
  | imported hsound => exact he.elim
  | _ => exact r.state.within_refl

theorem tracks_afterAll {tracking : String} {events : List Event} (h : r.state.Tracks tracking)
    (hfiles : ∀ e ∈ events, e.OnFiles) : (r.afterAll events).state.Tracks tracking :=
  invariant_afterAll_of (P := fun r => r.state.Tracks tracking)
    (fun _ _ he h => h.of_within (within_files he)) hfiles h

theorem push_follows (h : r.state.WellFormed) (remote : String) {source : Branch}
    (hsource : r.state.branches.get? (branch.getD r.state.head) = some source)
    (hhead : branch.getD r.state.head = r.state.head) :
    let tracking := remote ++ "/" ++ branch.getD r.state.head
    let pushed := (r.push remote branch true).1
    pushed.state.status.AheadOf tracking 0
      ∧ ∀ events message all, (∀ e ∈ events, e.OnFiles) →
        ((pushed.afterAll events).commit message all).2.succeeded = true →
        ((pushed.afterAll events).commit message all).1.state.status.AheadOf tracking 1 := by
  intro tracking pushed
  obtain ⟨text, hpush⟩ := r.push_of_some hsource true
  have hpushed : pushed.state = r.state.pushed remote (branch.getD r.state.head) source.tip true :=
    congrArg (fun out => out.1.state) hpush
  have hpublishes : r.state.Publishes tracking (branch.getD r.state.head) true pushed.state := by
    rw [hpushed]
    exact State.publishes_pushed remote hsource true
  rw [hhead] at hpublishes
  have hwell : pushed.state.WellFormed := by
    rw [hpushed]
    exact h.pushed remote _ (h.mem_branches hsource) true
  refine ⟨hpublishes.aheadOf_zero, fun events message all hfiles hsuccess => ?_⟩
  have hwell' := wellFormed_afterAll hwell events
  obtain ⟨c, hc⟩ := committed_of_success hwell' hsuccess
  exact (tracks_afterAll hpublishes.tracks hfiles).aheadOf_one hwell' hc.commits

/-- A push of a branch that is there publishes it, and pushing it again does nothing. Where the
checked-out branch was pushed to be followed, the status knows what it follows, and it counts one
commit as soon as another has been made, whatever files have been edited and staged for it. -/
theorem push_publishes (r : Repo) (h : r.state.WellFormed) (remote : String)
    (branch : Option String) (follow : Bool) :
    let name := branch.getD r.state.head
    let tracking := remote ++ "/" ++ name
    let out := r.push remote branch follow
    (out.2.success = false ↔ name ∉ r.state.branches.keys)
      ∧ (out.2.success = true →
        r.state.Publishes tracking name follow out.1.state
          ∧ out.1 = { r with state := out.1.state }
          ∧ out.1.push remote branch follow
            = (out.1, .printed (joinWith "\n" (upToDateLines name tracking follow)))
          ∧ (follow = true → name = r.state.head → out.1.state.status.AheadOf tracking 0
            ∧ ∀ events message all, (∀ e ∈ events, e.OnFiles) →
              ((out.1.afterAll events).commit message all).2.succeeded = true →
              ((out.1.afterAll events).commit message all).1.state.status.AheadOf tracking 1)) := by
  intro name tracking out
  rcases hsource : r.state.branches.get? name with _ | source
  · have hnot : name ∉ r.state.branches.keys := OrderedMap.get?_eq_none_iff.1 hsource
    have hout : out = r.refuse (.noSuchRefspec name) := r.push_of_notMem remote hnot follow
    rw [hout]
    exact ⟨iff_of_true rfl hnot, nofun⟩
  · obtain ⟨text, hout⟩ : ∃ text, out
        = ({ r with state := r.state.pushed remote name source.tip follow }, .printed text) :=
      r.push_of_some hsource follow
    have hthere := OrderedMap.mem_keys_of_get? hsource
    refine ⟨iff_of_false (by simp [hout, Reply.printed]) (not_not_intro hthere), fun _ =>
      ⟨?_, ?_, push_again remote hsource follow, ?_⟩⟩
    · rw [hout]
      exact State.publishes_pushed remote hsource follow
    · rw [hout]
    · rintro rfl hhead
      exact push_follows h remote hsource hhead

/-- Two branches were published before there was a second commit on the main one. -/
def movedSince : Repo :=
  (deterministic .default).afterAll
    [.performed (.push "origin" none false), .performed (.createBranch "topic" none),
      .performed (.push "origin" (some "topic") false), .edited "a",
      .performed (.commit "Second" true)]

theorem push_publishes_movedSince :
    movedSince.state.WellFormed ∧ (movedSince.push "origin" none true).2.success = true
      ∧ (movedSince.push "origin" none true).1.state.remoteBranches.values.map (·.tip.text)
        = ["c000002", "c000001"]
      ∧ ((movedSince.push "origin" none true).1.push "origin" none true).2
        = .printed "Everything up-to-date\nbranch 'main' set up to track 'origin/main'."
      ∧ (movedSince.push "origin" none true).1.state.status.AheadOf "origin/main" 0
      ∧ (((movedSince.push "origin" none true).1.afterAll [.edited "b"]).commit "Third"
        true).1.state.status.AheadOf "origin/main" 1 := by
  have hwell : movedSince.state.WellFormed := wellFormed_afterAll (wellFormed_fresh _ _ _) _
  obtain ⟨-, hpublishes⟩ := movedSince.push_publishes hwell "origin" none true
  have hsuccess : (movedSince.push "origin" none true).2.success = true := by decide +kernel
  obtain ⟨-, -, hagain, hfollows⟩ := hpublishes hsuccess
  have hname : (none : Option String).getD movedSince.state.head = "main" := by decide +kernel
  obtain ⟨hlevel, hahead⟩ := hfollows rfl rfl
  rw [hname] at hlevel hahead hagain
  refine ⟨hwell, hsuccess, by decide +kernel, ?_, hlevel, hahead [.edited "b"] "Third" true ?_ ?_⟩
  · rw [hagain]
    decide +kernel
  · simp [Event.OnFiles]
  · decide +kernel

end Repo
end GitPractice
