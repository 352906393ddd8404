import GitPractice.Proofs.Drawing

/-!
# What a commit takes

Whether there is anything to commit is asked before the working files are staged, and the answer is
right: with all files asked for, one working file is enough, because if it is not staged now it was
staged before. A commit takes the staged files and, where all are asked for, the working files that
are not among them (`State.commitFiles`). It stands on the tip of the checked-out branch, which
moves to it, and nothing else changes (`State.Commits`). It needs an id that no commit has; where
none is to come the search for one has no end, and the commit neither succeeds nor fails.
-/

namespace GitPractice

open Text (isBlankText)

namespace State

/-- There are changes for a commit to take. -/
def HasChanges (s : State) (all : Bool) : Prop := s.staged ≠ [] ∨ all = true ∧ s.working ≠ []

/-- The staged files, and behind them, where all are asked for, the working files that are not
staged. -/
def commitFiles (s : State) (all : Bool) : List String :=
  s.staged.map StagedChange.file
    ++ if all then s.working.filter (· ∉ s.staged.map StagedChange.file) else []

/-- From one state to the other a commit of the changes has been added to the checked-out branch,
and no more has happened. -/
structure Commits (s : State) (all : Bool) (c : Commit) (t : State) : Prop where
  added : t.commits.entries = s.commits.entries ++ [(c.id, c)]
  new : c.id ∉ s.commits.keys
  parent_eq : ∃ tip, s.headTip? = some tip ∧ c.parent = some tip
  files_eq : c.files = s.commitFiles all
  files_nodup : c.files.Nodup
  moved : t.branches = s.branches.modify s.head ({ · with tip := c.id })
  headTip?_eq : t.headTip? = some c.id
  staged_eq : t.staged = []
  working_eq : t.working = if all then [] else s.working
  rest_eq : t = { s with
    commits := t.commits, branches := t.branches, staged := t.staged, working := t.working }

variable {s t : State}

theorem Commits.head_eq {all : Bool} {c : Commit} (h : s.Commits all c t) : t.head = s.head := by
  rw [h.rest_eq]

theorem Commits.remoteBranches_eq {all : Bool} {c : Commit} (h : s.Commits all c t) :
    t.remoteBranches = s.remoteBranches := by
  rw [h.rest_eq]

/-- Of the files alone, staging all working files is noting them behind the staged ones. -/
theorem map_file_stageAll (s : State) :
    s.stageAll.staged.map StagedChange.file
      = s.working.foldl (fun l f => if f ∈ l then l else l ++ [f])
        (s.staged.map StagedChange.file) := by
  refine (List.foldl_hom (List.map StagedChange.file) fun l f => ?_).symm
  have hlisted : f ∈ l.map StagedChange.file ↔ l.any (·.file = f) = true := by simp
  simp only [hlisted]
  split_ifs <;> simp

theorem map_file_indexed (h : s.working.Nodup) (all : Bool) :
    (s.indexed all).staged.map StagedChange.file = s.commitFiles all := by
  cases all with
  | false => simp [indexed, commitFiles]
  | true => rw [indexed, if_pos rfl, map_file_stageAll, foldl_noted_of_nodup h, commitFiles,
      if_pos rfl]

theorem WellFormed.nodup_commitFiles (h : s.WellFormed) (all : Bool) :
    (s.commitFiles all).Nodup := by
  rw [← map_file_indexed h.working]
  exact (h.indexed all).staged

end State

namespace Repo

variable {r : Repo} {message : String} {all : Bool} {parent : CommitId}

theorem emptied_withCommit (r : Repo) (all : Bool) (c : Commit) :
    (r.emptied all).state.withCommit c = { r.state with
      commits := r.state.commits.insert c.id c
      branches := r.state.branches.modify r.state.head ({ · with tip := c.id })
      staged := []
      working := if all then [] else r.state.working } := by
  cases all <;> rfl

/-- The reply that a commit was made. -/
def commitReply (head message : String) (c : Commit) : Reply :=
  .printed ("[" ++ head ++ " " ++ c.id.text ++ "] " ++ message ++ "\n "
    ++ filesChanged c.files.length)

/-- The commit of the changes, under an id that has been drawn. -/
def changesCommit (r : Repo) (drawn : String × Fingerprints) (message : String) (all : Bool)
    (parent : CommitId) : Commit :=
  (r.emptied all).commitFor drawn message (some parent)
    ((r.state.indexed all).staged.map StagedChange.file)

/-- Where there are changes, only an id is needed. -/
theorem commit_of_changes (hmessage : isBlankText message = false)
    (hparent : r.state.headTip? = some parent) (hchanges : r.state.HasChanges all) :
    (∀ drawn, r.nextDraw = some drawn → r.commit message all
      = ((r.emptied all).commitAs drawn message parent
          ((r.state.indexed all).staged.map StagedChange.file),
        some (commitReply r.state.head message (r.changesCommit drawn message all parent))))
    ∧ (r.nextDraw = none →
      r.commit message all = ({ r with state := r.state.indexed all }, none)) := by
  have hsome : (r.state.staged.isEmpty && !(all && !r.state.working.isEmpty)) = false := by
    rcases hchanges with hstaged | ⟨rfl, hworking⟩
    · simp [hstaged]
    · simp [hworking]
  have hmade := (r.emptied all).commitOnHead_eq message parent
    ((r.state.indexed all).staged.map StagedChange.file)
  rw [nextDraw_emptied] at hmade
  constructor
  · intro drawn hdrawn
    rw [hdrawn, Option.map_some] at hmade
    simp only [emptied, State.indexed] at hmade ⊢
    simp only [commit, hmessage, hparent, hsome, hmade, Bool.false_eq_true, if_false]
    rfl
  · intro hdrawn
    rw [hdrawn, Option.map_none] at hmade
    simp only [emptied, State.indexed] at hmade ⊢
    simp only [commit, hmessage, hparent, hsome, hmade, Bool.false_eq_true, if_false]

theorem commit_of_no_changes (hmessage : isBlankText message = false)
    (hparent : r.state.headTip? = some parent) (h : ¬ r.state.HasChanges all) :
    r.commit message all = returning (r.refuse .nothingToCommit) := by
  obtain ⟨hstaged, hworking⟩ := not_or.1 h
  have hnone : (r.state.staged.isEmpty && !(all && !r.state.working.isEmpty)) = true := by
    rw [not_not] at hstaged
    cases all with
    | false => simp [hstaged]
    | true => simpa [hstaged] using hworking
  unfold commit
  simp only [hmessage, hparent, hnone, Bool.false_eq_true, if_false, if_true]

theorem commits_emptied (h : r.state.WellFormed) (hparent : r.state.headTip? = some parent)
    {drawn : String × Fingerprints} (hdrawn : r.nextDraw = some drawn) :
    r.state.Commits all (r.changesCommit drawn message all parent)
      ((r.emptied all).commitAs drawn message parent
        ((r.state.indexed all).staged.map StagedChange.file)).state := by
  rw [commitAs_state, emptied_withCommit]
  have hfiles := State.map_file_indexed h.working all
  have hnew := drawn_notMem hdrawn
  obtain ⟨b, hb, -⟩ := headTip?_eq_some_iff.1 hparent
  refine ⟨OrderedMap.entries_insert_of_notMem hnew, hnew, ⟨parent, hparent, rfl⟩, hfiles, ?_, rfl,
    ?_, rfl, rfl, rfl⟩
  · rw [changesCommit, commitFor, hfiles]
    exact h.nodup_commitFiles all
  · refine headTip?_eq_some_iff.2 ⟨{ b with tip := ⟨drawn.1⟩ }, ?_, rfl⟩
    rw [OrderedMap.get?_modify, if_pos rfl, hb]
    rfl

/-- The outcome of a commit with the given message. -/
structure Committed (r : Repo) (message : String) (all : Bool) (c : Commit)
    (out : Repo × Response) : Prop where
  message_eq : c.message = message
  commits : r.state.Commits all c out.1.state
  rest_eq : out.1 = { r with state := out.1.state, ids := out.1.ids }
  reply_eq : out.2 = some (commitReply r.state.head message c)

/-- Without a message or without changes there is no commit. -/
theorem refused_commit (hparent : r.state.headTip? = some parent)
    (hnot : ¬ (isBlankText message = false ∧ r.state.HasChanges all)) :
    r.Refused (r.commit message all) := by
  by_cases hmessage : isBlankText message = true
  · exact ⟨.blankMessage, by rw [commit, if_pos hmessage]⟩
  · rw [Bool.not_eq_true] at hmessage
    have hnone : ¬ r.state.HasChanges all := fun hchanges => hnot ⟨hmessage, hchanges⟩
    exact ⟨.nothingToCommit, commit_of_no_changes hmessage hparent hnone⟩

/-- A commit is refused, made or in want of an id. -/
theorem refused_or_committed (h : r.state.WellFormed) (message : String) (all : Bool) :
    (¬ (isBlankText message = false ∧ r.state.HasChanges all) ∧ r.Refused (r.commit message all))
      ∨ (isBlankText message = false ∧ r.state.HasChanges all)
        ∧ ((r.HasFreeId ∧ ∃ c, r.Committed message all c (r.commit message all))
          ∨ ¬ r.HasFreeId ∧ (r.commit message all).2 = none) := by
  obtain ⟨parent, hparent⟩ := h.exists_headTip?
  by_cases htakes : isBlankText message = false ∧ r.state.HasChanges all
  · obtain ⟨hmade, hnone⟩ := commit_of_changes htakes.1 hparent htakes.2
    refine .inr ⟨htakes, ?_⟩
    rcases hdrawn : r.nextDraw with _ | drawn
    · exact .inr ⟨nextDraw_eq_none_iff.1 hdrawn, congrArg Prod.snd (hnone hdrawn)⟩
    · rw [hmade drawn hdrawn]
      exact .inl ⟨hasFreeId_of_nextDraw hdrawn, _, rfl, commits_emptied h hparent hdrawn, rfl, rfl⟩
  · exact .inl ⟨htakes, refused_commit hparent htakes⟩

theorem Committed.succeeded_eq {c : Commit} {out : Repo × Response}
    (h : r.Committed message all c out) : out.2.succeeded = true := by
  rw [h.reply_eq]
  rfl

theorem committed_of_success (h : r.state.WellFormed)
    (hsuccess : (r.commit message all).2.succeeded = true) :
    ∃ c, r.Committed message all c (r.commit message all) := by
  rcases refused_or_committed h message all with ⟨-, hrefused⟩ | ⟨-, ⟨-, hmade⟩ | ⟨-, hnone⟩⟩
  · rw [hrefused.succeeded_eq] at hsuccess
    cases hsuccess
  · exact hmade
  · rw [hnone] at hsuccess
    cases hsuccess

/-- A staged file has been edited again, and another one has been edited and not staged. -/
def editedAgain : Repo :=
  (deterministic .default).afterAll
    [.performed (.add "b"), .performed (.add "a"), .edited "b", .edited "d"]

end Repo
end GitPractice
