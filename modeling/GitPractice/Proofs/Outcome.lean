import Mathlib.Tactic.SplitIfs
import GitPractice.Proofs.Entries
import GitPractice.Proofs.Operation
import GitPractice.Proofs.Snapshot

/-!
# What operations can do

An operation is refused, and then the repository is what it was, or it is carried out, and then it
has its `Effect`: the table of effects says which checks were passed and what has become of the
repository. An operation that makes a commit may also never come to an end, because every id to come
is taken (`HeldUp`); until then it has done no more than another operation does
(`Waits.eq_or_effect`). `perform_cases` is the only place where the operations themselves are looked
into; what holds of all effects holds of all operations. `happens_after` says the same of all
events: a repository changes by an effect, a file that was not listed, an accepted snapshot, or from
outside.

Commits and merges end in the same step (`commitAs_state`): a commit under an id that is not in use
(`drawn_notMem`) is stored and becomes the tip of the checked-out branch.
-/

namespace GitPractice

open Text

namespace State

variable (s : State)

/-- The state with one path staged, or all working files where the path stands for them. -/
def added (path : String) : State :=
  if path ∈ Repo.everything then s.stageAll else s.stage path

/-- The state in which a commit takes its files: all working ones are staged if asked for. -/
def indexed (all : Bool) : State := if all then s.stageAll else s

@[simp] theorem indexed_commits (all : Bool) : (s.indexed all).commits = s.commits := by
  cases all <;> rfl

@[simp] theorem indexed_branches (all : Bool) : (s.indexed all).branches = s.branches := by
  cases all <;> rfl

/-- The state with a commit stored and the checked-out branch moved to it. -/
def withCommit (c : Commit) : State :=
  { s with
    commits := s.commits.insert c.id c
    branches := s.branches.modify s.head ({ · with tip := c.id }) }

/-- The remote-tracking branch stands at the tip; an entry that does is left as it is. -/
def published (tracking : String) (tip : CommitId) : State :=
  if (s.remoteBranches.get? tracking).map Branch.tip = some tip then s
  else { s with remoteBranches := s.remoteBranches.insert tracking (.trackingAt tracking tip) }

/-- The branch follows the remote-tracking branch. -/
def following (name tracking : String) : State :=
  { s with branches := s.branches.modify name ({ · with followed := some tracking }) }

def pushed (remote name : String) (tip : CommitId) (follow : Bool) : State :=
  if follow then (s.published (remote ++ "/" ++ name) tip).following name (remote ++ "/" ++ name)
  else s.published (remote ++ "/" ++ name) tip

end State

namespace Repo

section Commits

variable (r : Repo)

/-- The repository with another branch checked out. -/
def onBranch (target : String) : Repo := { r with state.head := target }

/-- The repository once the files of a commit have been taken from the index. -/
def emptied (all : Bool) : Repo := { r with state := { r.state.indexed all with staged := [] } }

/-- The commit that is made under an id that has been drawn. -/
def commitFor (drawn : String × Fingerprints) (message : String) (parent : Option CommitId)
    (files : List String) : Commit :=
  ⟨⟨drawn.1⟩, message, parent, r.config.author, r.now, files⟩

/-- The repository after a commit under an id that has been drawn. -/
def commitAs (drawn : String × Fingerprints) (message : String) (parent : CommitId)
    (files : List String) : Repo :=
  (r.store ⟨drawn.1⟩ drawn.2 message (some parent) files).advanceHead ⟨drawn.1⟩

/-- The repository after a merge of a branch, found under the given name, onto `parent`. -/
def merged (drawn : String × Fingerprints) (name : String) (source : Branch)
    (parent : CommitId) : Repo :=
  r.commitAs drawn
    ("Merge " ++ branchKind source ++ " '" ++ name ++ "' into " ++ r.state.head) parent
    (((r.state.commits.get? source.tip).map Commit.files).getD [])

/-- The pull request that is opened next. -/
def nextPull (title body source target : String) : PullRequest :=
  ⟨r.state.nextNumber, title, body, source, target, r.config.author, .opened, [], false⟩

/-- The id that the next commit gets, and the ids behind it. -/
def nextDraw : Option (String × Fingerprints) := r.ids.drawFresh r.state.commitIds

variable {r} in
theorem drawn_notMem {drawn : String × Fingerprints} (h : r.nextDraw = some drawn) :
    (⟨drawn.1⟩ : CommitId) ∉ r.state.commits.keys := by
  intro hmem
  have htaken : drawn.1 ∈ r.state.commitIds := List.mem_map.2 ⟨⟨drawn.1⟩, hmem, rfl⟩
  exact Fingerprints.drawFresh_fresh h htaken

theorem commitAs_state (drawn : String × Fingerprints) (message : String) (parent : CommitId)
    (files : List String) :
    (r.commitAs drawn message parent files).state
      = r.state.withCommit (r.commitFor drawn message (some parent) files) := rfl

theorem commitOnHead_eq (message : String) (parent : CommitId) (files : List String) :
    r.commitOnHead message parent files
      = r.nextDraw.map fun drawn => (⟨drawn.1⟩, r.commitAs drawn message parent files) := by
  rw [commitOnHead, newCommit, Option.map_map]
  rfl

/-- Emptying the index takes no id. -/
theorem nextDraw_emptied (all : Bool) : (r.emptied all).nextDraw = r.nextDraw := by
  rw [nextDraw, nextDraw, State.commitIds, State.commitIds, emptied, State.indexed_commits]

end Commits

/-! ## The effects -/

/-- The repository after an operation that was carried out. -/
inductive Effect (r : Repo) : Operation → Repo → Prop where
  | createBranch {name : String} {start : Option String} {tip : CommitId}
      (hnew : name ∉ r.state.branches.keys) (hstart : r.startPoint start = .ok tip) :
      Effect r (.createBranch name start)
        { r with state.branches := r.state.branches.insert name (.localAt name tip) }
  | deleteBranch {name : String} {force : Bool} (hthere : name ∈ r.state.branches.keys)
      (hhead : name ≠ r.state.head) :
      Effect r (.deleteBranch name force)
        { r with state.branches := r.state.branches.erase name }
  | switchTo {target : String} {start : Option String}
      (hthere : target ∈ r.state.branches.keys) :
      Effect r (.checkout target false start) (r.onBranch target)
  | createAndSwitch {target : String} {start : Option String} {tip : CommitId}
      (hnew : target ∉ r.state.branches.keys) (hstart : r.startPoint start = .ok tip) :
      Effect r (.checkout target true start)
        { r with
          state.branches := r.state.branches.insert target (.localAt target tip)
          state.head := target }
  | add (path : String) : Effect r (.add path) { r with state := r.state.added path }
  | unstage {paths : List String} (hstaged : ∀ p ∈ paths, r.state.isStaged p) :
      Effect r (.unstage paths) { r with state := paths.foldl State.unstage r.state }
  | discard {paths : List String} (hpending : ∀ p ∈ paths, r.state.isPending p) :
      Effect r (.discard paths)
        { r with state.working := r.state.working.filter fun f => !paths.contains f }
  | commit {message : String} {all : Bool} {parent : CommitId} {drawn : String × Fingerprints}
      (hmessage : isBlankText message = false) (hparent : r.state.headTip? = some parent)
      (hfiles : r.state.staged = [] → all = true ∧ r.state.working ≠ [])
      (hdrawn : r.nextDraw = some drawn) :
      Effect r (.commit message all)
        ((r.emptied all).commitAs drawn message parent
          ((r.state.indexed all).staged.map StagedChange.file))
  | merge {branch : String} {source : Branch} {parent : CommitId} {drawn : String × Fingerprints}
      (hsource : (r.state.branches.get? branch <|> r.state.remoteBranches.get? branch)
        = some source)
      (hparent : r.state.headTip? = some parent) (hdrawn : r.nextDraw = some drawn) :
      Effect r (.merge branch) (r.merged drawn branch source parent)
  | push {remote : String} {branch : Option String} {follow : Bool} {source : Branch}
      (hsource : r.state.branches.get? (branch.getD r.state.head) = some source) :
      Effect r (.push remote branch follow)
        { r with state := r.state.pushed remote (branch.getD r.state.head) source.tip follow }
  | createPull {title body : String} {source : Option String} {target : String}
      (hfree : r.proposalRefusal? (source.getD r.state.head) target = none) :
      Effect r (.createPull title body source target)
        { r with
          state.nextNumber := r.state.nextNumber + 1
          state.pullRequests := r.state.pullRequests.insert r.state.nextNumber
            (r.nextPull title body (source.getD r.state.head) target) }
  | mergePull {number : UInt32} {method : MergeMethod} {p : PullRequest} {source target : Branch}
      {drawn : String × Fingerprints} (hopen : r.requireOpen number = .ok p)
      (hsource : r.state.branches.get? p.source = some source)
      (htarget : r.state.branches.get? p.target = some target) (hdrawn : r.nextDraw = some drawn) :
      Effect r (.mergePull number method)
        (((r.onBranch p.target).merged drawn p.source source target.tip).setPullStatus number
          .merged)
  | closePull {number : UInt32} {p : PullRequest} (hopen : r.requireOpen number = .ok p) :
      Effect r (.closePull number) (r.setPullStatus number .closed)
  | requestReview {number : UInt32} (reviewers : List String)
      (hthere : number ∈ r.state.pullRequests.keys) :
      Effect r (.requestReview number reviewers)
        { r with state := r.state.modifyPull number (·.request reviewers) }
  | addReview {number : UInt32} (reviewer : String) (verdict : Verdict) (comment : Option String)
      (hthere : number ∈ r.state.pullRequests.keys) :
      Effect r (.addReview number reviewer verdict comment)
        { r with
          state := r.state.modifyPull number
            (·.addReview ⟨reviewer, verdict, comment.filter (· ≠ "")⟩) }
  | viewPull (number : UInt32) : Effect r (.viewPull number) r

/-- The repository when an operation looks for an id: how far it has got by then. -/
inductive Waits (r : Repo) : Operation → Repo → Prop where
  | commit (message : String) : Waits r (.commit message false) r
  | commitAll (message : String) :
      Waits r (.commit message true) { r with state := r.state.added "-A" }
  | merge (branch : String) : Waits r (.merge branch) r
  | mergePull (number : UInt32) (method : MergeMethod) {target : String}
      (htarget : target ∈ r.state.branches.keys) :
      Waits r (.mergePull number method) (r.onBranch target)

/-- An operation that looks for an id has done nothing yet, or what another operation does that
makes no commit. -/
theorem Waits.eq_or_effect {r r' : Repo} {op : Operation} (h : r.Waits op r') :
    r' = r ∨ (∃ message, op = .commit message true) ∧ r.Effect (.add "-A") r'
      ∨ ∃ number method target, op = .mergePull number method
        ∧ r.Effect (.checkout target false none) r' := by
  cases h with
  | commit message => exact .inl rfl
  | commitAll message => exact .inr (.inl ⟨⟨message, rfl⟩, .add "-A"⟩)
  | merge branch => exact .inl rfl
  | mergePull number method htarget =>
    exact .inr (.inr ⟨number, method, _, rfl, .switchTo htarget⟩)

/-! ## Refused, carried out or held up -/

/-- The operation did nothing, and its reply says why. -/
def Refused (r : Repo) (out : Repo × Response) : Prop := ∃ e : Refusal, out = returning (r.refuse e)

/-- The operation had its effect, and its reply is no failure. -/
def CarriedOut (r : Repo) (op : Operation) (out : Repo × Response) : Prop :=
  r.Effect op out.1 ∧ out.2.succeeded = true

/-- The operation looks for an id, and there is none. -/
def HeldUp (r : Repo) (op : Operation) (out : Repo × Response) : Prop :=
  r.Waits op out.1 ∧ r.nextDraw = none ∧ out.2 = none

theorem Refused.repo_eq {r : Repo} {out : Repo × Response} (h : r.Refused out) : out.1 = r := by
  obtain ⟨e, rfl⟩ := h
  rfl

theorem Refused.failed_eq {r : Repo} {out : Repo × Response} (h : r.Refused out) :
    out.2.failed = true := by
  obtain ⟨e, rfl⟩ := h
  rfl

theorem Refused.success_eq {r : Repo} {out : Repo × Reply} (h : r.Refused (returning out)) :
    out.2.success = false := by simpa using h.failed_eq

theorem Refused.succeeded_eq {r : Repo} {out : Repo × Response} (h : r.Refused out) :
    out.2.succeeded = false := by
  obtain ⟨e, rfl⟩ := h
  rfl

theorem CarriedOut.failed_eq {r : Repo} {op : Operation} {out : Repo × Response}
    (h : r.CarriedOut op out) : out.2.failed = false := by
  obtain ⟨-, h⟩ := h
  rcases hout : out.2 with _ | reply
  · rfl
  · simpa [hout] using h

theorem HeldUp.succeeded_eq {r : Repo} {op : Operation} {out : Repo × Response}
    (h : r.HeldUp op out) : out.2.succeeded = false := by
  rw [h.2.2, Response.succeeded_none]

theorem HeldUp.failed_eq {r : Repo} {op : Operation} {out : Repo × Response}
    (h : r.HeldUp op out) : out.2.failed = false := by
  rw [h.2.2, Response.failed_none]

variable (r : Repo)

section Branches

variable (name target : String) (start : Option String)

theorem createBranch_cases : (∃ e, r.createBranch name start = r.refuse e) ∨
    ∃ tip, name ∉ r.state.branches.keys ∧ r.startPoint start = .ok tip ∧
      r.createBranch name start
        = ({ r with state.branches := r.state.branches.insert name (.localAt name tip) }, .ok) := by
  unfold createBranch
  split_ifs with hvalid hthere
  · exact .inl ⟨_, rfl⟩
  · exact .inl ⟨_, rfl⟩
  · rcases hstart : r.startPoint start with e | tip
    · exact .inl ⟨e, rfl⟩
    · rw [Bool.not_eq_true, OrderedMap.contains_eq_false_iff] at hthere
      exact .inr ⟨tip, hthere, rfl, rfl⟩

theorem deleteBranch_cases (force : Bool) : r.Refused (returning (r.deleteBranch name force)) ∨
    r.CarriedOut (.deleteBranch name force) (returning (r.deleteBranch name force)) := by
  unfold deleteBranch
  split
  · exact .inl ⟨_, rfl⟩
  · rename_i branch hbranch
    split_ifs with hhead hmain
    · exact .inl ⟨_, rfl⟩
    · exact .inl ⟨_, rfl⟩
    · exact .inr ⟨.deleteBranch (OrderedMap.mem_keys_of_get? hbranch) hhead, rfl⟩

theorem switchTo_of_mem {target : String} (h : target ∈ r.state.branches.keys) :
    ∃ text, r.switchTo target = (r.onBranch target, .printed text) := by
  have hthere := OrderedMap.contains_iff.2 h
  unfold switchTo
  rw [hthere, Bool.not_true, if_neg Bool.false_ne_true]
  split_ifs with hon
  · subst hon
    exact ⟨_, rfl⟩
  · exact ⟨_, rfl⟩

theorem checkout_cases (create : Bool) : r.Refused (returning (r.checkout target create start)) ∨
    r.CarriedOut (.checkout target create start) (returning (r.checkout target create start)) := by
  cases create with
  | true =>
    simp only [checkout, if_true, createAndSwitch]
    rcases r.createBranch_cases target start with ⟨e, h⟩ | ⟨tip, hnew, hstart, h⟩
    · rw [h]
      exact .inl ⟨e, rfl⟩
    · rw [h]
      exact .inr ⟨.createAndSwitch hnew hstart, rfl⟩
  | false =>
    simp only [checkout, Bool.false_eq_true, if_false]
    by_cases hthere : target ∈ r.state.branches.keys
    · obtain ⟨text, h⟩ := r.switchTo_of_mem hthere
      rw [h]
      exact .inr ⟨.switchTo hthere, rfl⟩
    · left
      unfold switchTo
      rw [OrderedMap.contains_eq_false_iff.2 hthere, Bool.not_false, if_pos rfl]
      exact ⟨_, rfl⟩

end Branches

section Index

theorem add_eq (path : String) :
    r.add path = ({ r with state := r.state.added path }, .ok) := by
  unfold add State.added
  split_ifs <;> rfl

theorem unstage_cases (paths : List String) : r.Refused (returning (r.unstage paths)) ∨
    r.CarriedOut (.unstage paths) (returning (r.unstage paths)) := by
  unfold unstage
  split
  · exact .inl ⟨_, rfl⟩
  · rename_i hfind
    rw [List.find?_eq_none] at hfind
    exact .inr ⟨.unstage fun p hp => by simpa using hfind p hp, rfl⟩

theorem discard_cases (paths : List String) : r.Refused (returning (r.discard paths)) ∨
    r.CarriedOut (.discard paths) (returning (r.discard paths)) := by
  unfold discard
  split
  · exact .inl ⟨_, rfl⟩
  · rename_i hfind
    rw [List.find?_eq_none] at hfind
    exact .inr ⟨.discard fun p hp => by simpa using hfind p hp, rfl⟩

end Index

section History

theorem headTip?_eq_some_iff {s : State} {tip : CommitId} :
    s.headTip? = some tip ↔ ∃ b, s.branches.get? s.head = some b ∧ b.tip = tip := by
  rw [State.headTip?, State.headBranch?, Option.map_eq_some_iff]

theorem commit_cases (message : String) (all : Bool) : r.Refused (r.commit message all) ∨
    r.CarriedOut (.commit message all) (r.commit message all) ∨
    r.HeldUp (.commit message all) (r.commit message all) := by
  unfold commit
  split
  · exact .inl ⟨_, rfl⟩
  rename_i hblank
  split
  · exact .inl ⟨_, rfl⟩
  rename_i parent hparent
  split
  · exact .inl ⟨_, rfl⟩
  rename_i hnothing
  have hfiles : r.state.staged = [] → all = true ∧ r.state.working ≠ [] := fun hstaged => by
    simpa [hstaged] using hnothing
  have hmade := (r.emptied all).commitOnHead_eq message parent
    ((r.state.indexed all).staged.map StagedChange.file)
  rw [nextDraw_emptied] at hmade
  simp only [emptied, State.indexed] at hmade ⊢
  rcases hdrawn : r.nextDraw with _ | drawn
  · rw [hdrawn, Option.map_none] at hmade
    rw [hmade]
    refine .inr (.inr ⟨?_, hdrawn, rfl⟩)
    cases all with
    | false => exact .commit message
    | true => exact .commitAll message
  · rw [hdrawn, Option.map_some] at hmade
    rw [hmade]
    exact .inr (.inl ⟨.commit (Bool.eq_false_iff.2 hblank) hparent hfiles hdrawn, rfl⟩)

/-- With a branch to merge and one to merge into, only an id is needed for a merge. -/
theorem merge_of_some {branch : String} {source : Branch} {parent : CommitId}
    (hsource : (r.state.branches.get? branch <|> r.state.remoteBranches.get? branch) = some source)
    (hparent : r.state.headTip? = some parent) :
    (∀ drawn, r.nextDraw = some drawn →
      ∃ text, r.merge branch = (r.merged drawn branch source parent, some (.printed text)))
    ∧ (r.nextDraw = none → r.merge branch = (r, none)) := by
  unfold merge
  simp only [hsource, hparent, commitOnHead_eq]
  constructor
  · intro drawn hdrawn
    rw [hdrawn]
    exact ⟨_, rfl⟩
  · intro hdrawn
    rw [hdrawn]
    rfl

theorem merge_cases (branch : String) : r.Refused (r.merge branch) ∨
    r.CarriedOut (.merge branch) (r.merge branch) ∨ r.HeldUp (.merge branch) (r.merge branch) := by
  rcases hsource : (r.state.branches.get? branch <|> r.state.remoteBranches.get? branch)
    with _ | source
  · left
    unfold merge
    simp only [hsource]
    exact ⟨_, rfl⟩
  rcases hparent : r.state.headTip? with _ | parent
  · left
    unfold merge
    simp only [hsource, hparent]
    exact ⟨_, rfl⟩
  obtain ⟨hmade, hnone⟩ := r.merge_of_some hsource hparent
  rcases hdrawn : r.nextDraw with _ | drawn
  · rw [hnone hdrawn]
    exact .inr (.inr ⟨.merge branch, hdrawn, rfl⟩)
  · obtain ⟨text, h⟩ := hmade drawn hdrawn
    rw [h]
    exact .inr (.inl ⟨.merge hsource hparent hdrawn, rfl⟩)

end History

theorem push_of_some {remote : String} {branch : Option String} {source : Branch}
    (hsource : r.state.branches.get? (branch.getD r.state.head) = some source) (follow : Bool) :
    ∃ text, r.push remote branch follow
      = ({ r with
          state := r.state.pushed remote (branch.getD r.state.head) source.tip follow },
        .printed text) := by
  unfold push State.pushed State.published
  simp only [hsource]
  split_ifs with hsame
  · exact ⟨_, rfl⟩
  · exact ⟨_, rfl⟩
  · exact ⟨_, rfl⟩
  · exact ⟨_, rfl⟩

theorem push_of_notMem (remote : String) {branch : Option String}
    (h : branch.getD r.state.head ∉ r.state.branches.keys) (follow : Bool) :
    r.push remote branch follow = r.refuse (.noSuchRefspec (branch.getD r.state.head)) := by
  unfold push
  simp only [OrderedMap.get?_eq_none_iff.2 h]

theorem push_cases (remote : String) (branch : Option String) (follow : Bool) :
    r.Refused (returning (r.push remote branch follow)) ∨
    r.CarriedOut (.push remote branch follow) (returning (r.push remote branch follow)) := by
  rcases hsource : r.state.branches.get? (branch.getD r.state.head) with _ | source
  · rw [r.push_of_notMem remote (OrderedMap.get?_eq_none_iff.1 hsource)]
    exact .inl ⟨_, rfl⟩
  · obtain ⟨text, h⟩ := r.push_of_some hsource follow
    rw [h]
    exact .inr ⟨.push hsource, rfl⟩

section Pulls

theorem createPull_of_free {source : Option String} {target : String}
    (hfree : r.proposalRefusal? (source.getD r.state.head) target = none) (title body : String) :
    ∃ text, r.createPull title body source target
      = ({ r with
          state.nextNumber := r.state.nextNumber + 1
          state.pullRequests := r.state.pullRequests.insert r.state.nextNumber
            (r.nextPull title body (source.getD r.state.head) target) }, .printed text) := by
  unfold createPull
  simp only [hfree]
  exact ⟨_, rfl⟩

theorem createPull_cases (title body : String) (source : Option String) (target : String) :
    r.Refused (returning (r.createPull title body source target)) ∨
    r.CarriedOut (.createPull title body source target)
      (returning (r.createPull title body source target)) := by
  rcases hfree : r.proposalRefusal? (source.getD r.state.head) target with _ | e
  · obtain ⟨text, h⟩ := r.createPull_of_free hfree title body
    rw [h]
    exact .inr ⟨.createPull hfree, rfl⟩
  · left
    unfold createPull
    simp only [hfree]
    exact ⟨_, rfl⟩

theorem requireOpen_eq_ok_iff {number : UInt32} {p : PullRequest} :
    r.requireOpen number = .ok p
      ↔ r.state.pullRequests.get? number = some p ∧ p.status = .opened := by
  unfold requireOpen
  split
  · rename_i hget
    simp [hget]
  · rename_i q hget
    rw [hget, Option.some.injEq]
    split_ifs with hopen
    · rw [Except.ok.injEq]
      exact ⟨fun h => ⟨h, h ▸ hopen⟩, fun h => h.1⟩
    · simp only [false_iff, not_and]
      exact fun h => h ▸ hopen

/-- Once the pull request is open and its branches are there, its target is checked out and its
source merged, for which only an id is needed. -/
theorem mergePull_of_open {number : UInt32} (method : MergeMethod) {p : PullRequest}
    {source target : Branch} (hopen : r.requireOpen number = .ok p)
    (hsource : r.state.branches.get? p.source = some source)
    (htarget : r.state.branches.get? p.target = some target) :
    (∀ drawn, r.nextDraw = some drawn → ∃ text, r.mergePull number method
      = (((r.onBranch p.target).merged drawn p.source source target.tip).setPullStatus number
        .merged, some (.printed text)))
    ∧ (r.nextDraw = none → r.mergePull number method = (r.onBranch p.target, none)) := by
  have hthere {name : String} {b : Branch} (hb : r.state.branches.get? name = some b) :
      (!r.state.branches.contains name) = false := by
    rw [OrderedMap.contains_iff.2 (OrderedMap.mem_keys_of_get? hb), Bool.not_true]
  obtain ⟨text, hswitch⟩ := r.switchTo_of_mem (OrderedMap.mem_keys_of_get? htarget)
  have hfound : ((r.onBranch p.target).state.branches.get? p.source
      <|> (r.onBranch p.target).state.remoteBranches.get? p.source) = some source := by
    simp [onBranch, hsource]
  have htip : (r.onBranch p.target).state.headTip? = some target.tip :=
    headTip?_eq_some_iff.2 ⟨target, htarget, rfl⟩
  obtain ⟨hmade, hnone⟩ := (r.onBranch p.target).merge_of_some hfound htip
  simp only [mergePull, hopen, hthere hsource, hthere htarget, hswitch, Reply.printed,
    Bool.false_eq_true, if_false, Bool.not_true]
  constructor
  · intro drawn hdrawn
    obtain ⟨text', hmerge⟩ := hmade drawn hdrawn
    simp only [hmerge, Response.succeeded_some, Reply.printed, Bool.not_true, Bool.false_eq_true,
      if_false]
    exact ⟨_, rfl⟩
  · intro hdrawn
    simp only [hnone hdrawn, Response.succeeded_none, Bool.not_false, if_true]

theorem mergePull_cases (number : UInt32) (method : MergeMethod) :
    r.Refused (r.mergePull number method) ∨
    r.CarriedOut (.mergePull number method) (r.mergePull number method) ∨
    r.HeldUp (.mergePull number method) (r.mergePull number method) := by
  by_cases hthere : ∃ p source target, r.requireOpen number = .ok p
      ∧ r.state.branches.get? p.source = some source ∧ r.state.branches.get? p.target = some target
  · obtain ⟨p, source, target, hopen, hsource, htarget⟩ := hthere
    obtain ⟨hmade, hnone⟩ := r.mergePull_of_open method hopen hsource htarget
    rcases hdrawn : r.nextDraw with _ | drawn
    · rw [hnone hdrawn]
      exact .inr (.inr ⟨.mergePull number method (OrderedMap.mem_keys_of_get? htarget), hdrawn,
        rfl⟩)
    · obtain ⟨text, h⟩ := hmade drawn hdrawn
      rw [h]
      exact .inr (.inl ⟨.mergePull hopen hsource htarget hdrawn, rfl⟩)
  · left
    unfold mergePull
    split
    · exact ⟨_, rfl⟩
    rename_i p hopen
    split_ifs with hsource htarget
    · exact ⟨_, rfl⟩
    · exact ⟨_, rfl⟩
    simp only [Bool.not_eq_true', Bool.not_eq_false, OrderedMap.contains_iff] at hsource htarget
    obtain ⟨source, hsource⟩ := OrderedMap.mem_keys_iff.1 hsource
    obtain ⟨target, htarget⟩ := OrderedMap.mem_keys_iff.1 htarget
    exact absurd ⟨p, source, target, hopen, hsource, htarget⟩ hthere

theorem closePull_cases (number : UInt32) : r.Refused (returning (r.closePull number)) ∨
    r.CarriedOut (.closePull number) (returning (r.closePull number)) := by
  unfold closePull
  split
  · exact .inl ⟨_, rfl⟩
  · rename_i p hopen
    exact .inr ⟨.closePull hopen, rfl⟩

theorem requestReview_cases (number : UInt32) (reviewers : List String) :
    r.Refused (returning (r.requestReview number reviewers)) ∨
    r.CarriedOut (.requestReview number reviewers)
      (returning (r.requestReview number reviewers)) := by
  unfold requestReview
  split_ifs with hthere
  · exact .inr ⟨.requestReview reviewers (OrderedMap.contains_iff.1 hthere), rfl⟩
  · exact .inl ⟨_, rfl⟩

theorem addReview_cases (number : UInt32) (reviewer : String) (verdict : Verdict)
    (comment : Option String) : r.Refused (returning (r.addReview number reviewer verdict comment)) ∨
    r.CarriedOut (.addReview number reviewer verdict comment)
      (returning (r.addReview number reviewer verdict comment)) := by
  unfold addReview
  split_ifs with hthere
  · exact .inr ⟨.addReview reviewer verdict comment (OrderedMap.contains_iff.1 hthere), rfl⟩
  · exact .inl ⟨_, rfl⟩

theorem viewPull_cases (number : UInt32) : r.Refused (returning (r.viewPull number)) ∨
    r.CarriedOut (.viewPull number) (returning (r.viewPull number)) := by
  unfold viewPull
  split
  · exact .inl ⟨_, rfl⟩
  · exact .inr ⟨.viewPull number, rfl⟩

end Pulls

/-- An operation that makes no commit is refused or carried out. -/
theorem ends_of_or {op : Operation} {out : Repo × Response}
    (h : r.Refused out ∨ r.CarriedOut op out) :
    r.Refused out ∨ r.CarriedOut op out ∨ r.HeldUp op out := h.imp_right .inl

theorem perform_cases (op : Operation) : r.Refused (r.perform op) ∨
    r.CarriedOut op (r.perform op) ∨ r.HeldUp op (r.perform op) := by
  cases op with
  | createBranch name start =>
    rcases r.createBranch_cases name start with ⟨e, h⟩ | ⟨tip, hnew, hstart, h⟩
    · exact .inl ⟨e, congrArg returning h⟩
    · simp only [perform, h]
      exact .inr (.inl ⟨.createBranch hnew hstart, rfl⟩)
  | deleteBranch name force => exact r.ends_of_or (r.deleteBranch_cases name force)
  | checkout target create start => exact r.ends_of_or (r.checkout_cases target start create)
  | add path =>
    simp only [perform, r.add_eq path]
    exact .inr (.inl ⟨.add path, rfl⟩)
  | unstage paths => exact r.ends_of_or (r.unstage_cases paths)
  | discard paths => exact r.ends_of_or (r.discard_cases paths)
  | commit message all => exact r.commit_cases message all
  | merge branch => exact r.merge_cases branch
  | push remote branch follow => exact r.ends_of_or (r.push_cases remote branch follow)
  | createPull title body source target =>
    exact r.ends_of_or (r.createPull_cases title body source target)
  | mergePull number method => exact r.mergePull_cases number method
  | closePull number => exact r.ends_of_or (r.closePull_cases number)
  | requestReview number reviewers => exact r.ends_of_or (r.requestReview_cases number reviewers)
  | addReview number reviewer verdict comment =>
    exact r.ends_of_or (r.addReview_cases number reviewer verdict comment)
  | viewPull number => exact r.ends_of_or (r.viewPull_cases number)

/-- The repository after an event. -/
inductive Happens (r : Repo) : Event → Repo → Prop where
  | refused {op : Operation} (hfailed : (r.perform op).2.failed = true) :
      Happens r (.performed op) r
  | performed {op : Operation} {r' : Repo} (heffect : r.Effect op r')
      (hsuccess : (r.perform op).2.succeeded = true) : Happens r (.performed op) r'
  | heldUp {op : Operation} {r' : Repo} (hwaits : r.Waits op r') (hnone : (r.perform op).2 = none) :
      Happens r (.performed op) r'
  | editedAgain {file : String} (hlisted : file ∈ r.state.working) : Happens r (.edited file) r
  | edited {file : String} (hnew : file ∉ r.state.working) :
      Happens r (.edited file) { r with state.working := r.state.working ++ [file] }
  | rejected {snapshot : Snapshot} {e : SnapshotError} (hfault : snapshot.fault? = some e) :
      Happens r (.imported snapshot) r
  | imported {snapshot : Snapshot} (hsound : snapshot.Sound) :
      Happens r (.imported snapshot) (r.replaceState snapshot)
  | movedOn (ids : Fingerprints) (now : UInt64) :
      Happens r (.movedOn ids now) { r with ids := ids, now := now }

theorem happens_after (e : Event) : r.Happens e (r.after e) := by
  cases e with
  | performed op =>
    rw [after]
    rcases r.perform_cases op with hrefused | ⟨heffect, hsuccess⟩ | ⟨hwaits, -, hnone⟩
    · rw [hrefused.repo_eq]
      exact .refused hrefused.failed_eq
    · exact .performed heffect hsuccess
    · exact .heldUp hwaits hnone
  | edited file =>
    rw [after, edit]
    split_ifs with hlisted
    · exact .editedAgain (State.isPending_iff.1 hlisted)
    · exact .edited (mt State.isPending_iff.2 hlisted)
  | imported snapshot =>
    rw [after]
    rcases hfault : snapshot.fault? with _ | e
    · have hsound := snapshot.fault?_eq_none_iff.1 hfault
      rw [importState_of_sound hsound]
      exact .imported hsound
    · rw [importState_of_fault hfault]
      exact .rejected hfault
  | movedOn ids now => exact .movedOn ids now

end Repo

end GitPractice
