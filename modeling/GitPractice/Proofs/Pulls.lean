import GitPractice.Proofs.Frame
import GitPractice.Proofs.Snapshot

/-!
# What becomes of pull requests

An operation leaves the pull requests alone, opens one, or changes the record of one
(`PullEffect`); an import takes them all away. A change to a record keeps what is proposed, and what
is open afterwards was open before. Each pull request that is opened gets the number that the
counter shows, and `givenAll` lists the numbers given in a run since the last import.
-/

namespace GitPractice

/-! ## What an operation does to pull requests -/

namespace PullRequest

/-- Two records of one proposal, which may differ in status and reviews. -/
structure SameProposal (p q : PullRequest) : Prop where
  number_eq : q.number = p.number
  title_eq : q.title = p.title
  body_eq : q.body = p.body
  source_eq : q.source = p.source
  target_eq : q.target = p.target
  author_eq : q.author = p.author

theorem SameProposal.refl (p : PullRequest) : p.SameProposal p := ⟨rfl, rfl, rfl, rfl, rfl, rfl⟩

theorem SameProposal.trans {p q q' : PullRequest} (h : p.SameProposal q)
    (h' : q.SameProposal q') : p.SameProposal q' where
  number_eq := h'.number_eq.trans h.number_eq
  title_eq := h'.title_eq.trans h.title_eq
  body_eq := h'.body_eq.trans h.body_eq
  source_eq := h'.source_eq.trans h.source_eq
  target_eq := h'.target_eq.trans h.target_eq
  author_eq := h'.author_eq.trans h.author_eq

end PullRequest

namespace Operation

/-- The operation opens a pull request. -/
def isProposal : Operation → Bool
  | .createPull .. => true
  | _ => false

/-- The pull request whose record the operation changes, and how. -/
def revision? : Operation → Option (UInt32 × (PullRequest → PullRequest))
  | .mergePull number _ => some (number, ({ · with status := .merged }))
  | .closePull number => some (number, ({ · with status := .closed }))
  | .requestReview number reviewers => some (number, (·.request reviewers))
  | .addReview number reviewer verdict comment =>
    some (number, (·.addReview ⟨reviewer, verdict, comment.filter (· ≠ "")⟩))
  | _ => none

variable {op : Operation} {number : UInt32} {f : PullRequest → PullRequest}

theorem revision?_keeps (h : op.revision? = some (number, f)) (p : PullRequest) :
    p.SameProposal (f p) := by
  cases op <;> simp only [revision?, Option.some.injEq, Prod.mk.injEq, reduceCtorEq] at h
  all_goals
    obtain ⟨-, rfl⟩ := h
    exact ⟨rfl, rfl, rfl, rfl, rfl, rfl⟩

/-- What is open after a change was open before. -/
theorem opened_of_revision? (h : op.revision? = some (number, f)) {p : PullRequest}
    (hopen : (f p).status = .opened) : p.status = .opened := by
  cases op <;> simp only [revision?, Option.some.injEq, Prod.mk.injEq, reduceCtorEq] at h
  all_goals obtain ⟨-, rfl⟩ := h
  case mergePull => cases hopen
  case closePull => cases hopen
  case requestReview => exact hopen
  case addReview => exact hopen

end Operation

namespace State

/-- Pull requests and their counter are the same in both states. -/
def SamePulls (s t : State) : Prop :=
  t.pullRequests = s.pullRequests ∧ t.nextNumber = s.nextNumber

variable {s t : State}

theorem SamePulls.refl (s : State) : s.SamePulls s := ⟨rfl, rfl⟩

theorem samePulls_of_within {parts : List Part} (h : s.Within parts t) (hpulls : .pulls ∉ parts)
    (hnumber : .number ∉ parts) : s.SamePulls t := ⟨h .pulls hpulls, h .number hnumber⟩

end State

namespace Repo

/-- What has become of the pull requests after an operation that was carried out. -/
inductive PullEffect (r : Repo) : Operation → State → Prop where
  | kept {op : Operation} {t : State} (hnew : op.isProposal = false)
      (hnone : op.revision? = none) (hsame : r.state.SamePulls t) : PullEffect r op t
  | opened {title body : String} {source : Option String} {target : String} {t : State}
      (hfree : r.proposalRefusal? (source.getD r.state.head) target = none)
      (hpulls : t.pullRequests = r.state.pullRequests.insert r.state.nextNumber
        (r.nextPull title body (source.getD r.state.head) target))
      (hnext : t.nextNumber = r.state.nextNumber + 1) :
      PullEffect r (.createPull title body source target) t
  | revised {op : Operation} {number : UInt32} {f : PullRequest → PullRequest} {t : State}
      (hnew : op.isProposal = false) (hrevision : op.revision? = some (number, f))
      (hpulls : t.pullRequests = r.state.pullRequests.modify number f)
      (hnext : t.nextNumber = r.state.nextNumber) : PullEffect r op t

variable {r r' : Repo}

theorem pullEffect_of_effect {op : Operation} (heffect : r.Effect op r') :
    r.PullEffect op r'.state := by
  have hwithin := within_effect heffect
  cases heffect with
  | createPull hfree => exact .opened hfree rfl rfl
  | mergePull hopen hsource htarget hdrawn => exact .revised rfl rfl rfl rfl
  | closePull hopen => exact .revised rfl rfl rfl rfl
  | requestReview reviewers hthere => exact .revised rfl rfl rfl rfl
  | addReview reviewer verdict comment hthere => exact .revised rfl rfl rfl rfl
  | _ =>
    exact .kept rfl rfl (State.samePulls_of_within hwithin (by simp [Operation.reach])
      (by simp [Operation.reach]))

/-- While an id is looked for, nothing becomes of any pull request. -/
theorem samePulls_of_waits {op : Operation} (hwaits : r.Waits op r') :
    r.state.SamePulls r'.state := by
  cases hwaits with
  | _ => exact ⟨rfl, rfl⟩

/-! ## The numbers given in a run -/

/-- The numbers of the pull requests opened since the last import, after one more event. -/
def given (r : Repo) (numbers : List UInt32) : Event → List UInt32
  | .performed op =>
    if op.isProposal && (r.perform op).2.succeeded then numbers ++ [r.state.nextNumber]
    else numbers
  | .imported snapshot =>
    match (r.importState snapshot).2 with
    | .ok _ => []
    | .error _ => numbers
  | .edited _ | .movedOn _ _ => numbers

def givenAll (r : Repo) (numbers : List UInt32) : List Event → List UInt32
  | [] => numbers
  | e :: events => (r.after e).givenAll (r.given numbers e) events

/-- What each event keeps of a repository and the numbers given, every run keeps. -/
theorem invariant_givenAll {P : Repo → List UInt32 → Prop}
    (hP : ∀ r numbers e, P r numbers → P (r.after e) (r.given numbers e)) :
    ∀ (events : List Event) {r : Repo} {numbers : List UInt32}, P r numbers →
      P (r.afterAll events) (r.givenAll numbers events)
  | [], _, _, h => h
  | e :: events, r, numbers, h => by
    rw [afterAll, List.foldl_cons, givenAll]
    exact invariant_givenAll hP events (hP r numbers e h)

/-- What an event does to the pull requests and to the numbers given. -/
inductive PullChange (r : Repo) (numbers : List UInt32) (t : State) : List UInt32 → Prop where
  | kept (hsame : r.state.SamePulls t) : PullChange r numbers t numbers
  | opened {title body source target : String}
      (hfree : r.proposalRefusal? source target = none)
      (hpulls : t.pullRequests
        = r.state.pullRequests.insert r.state.nextNumber (r.nextPull title body source target))
      (hnext : t.nextNumber = r.state.nextNumber + 1) :
      PullChange r numbers t (numbers ++ [r.state.nextNumber])
  | revised {op : Operation} {number : UInt32} {f : PullRequest → PullRequest}
      (hrevision : op.revision? = some (number, f))
      (hpulls : t.pullRequests = r.state.pullRequests.modify number f)
      (hnext : t.nextNumber = r.state.nextNumber) : PullChange r numbers t numbers
  | cleared (hpulls : t.pullRequests = .empty) (hnext : t.nextNumber = 1) :
      PullChange r numbers t []

theorem pullChange_after (r : Repo) (numbers : List UInt32) (e : Event) :
    r.PullChange numbers (r.after e).state (r.given numbers e) := by
  have hhappens := r.happens_after e
  generalize r.after e = r' at hhappens
  cases hhappens with
  | @refused op hfailed =>
    rw [given, Response.succeeded_of_failed hfailed, Bool.and_false, if_neg Bool.false_ne_true]
    exact .kept (.refl _)
  | heldUp hwaits hnone =>
    rw [given, hnone, Response.succeeded_none, Bool.and_false, if_neg Bool.false_ne_true]
    exact .kept (samePulls_of_waits hwaits)
  | performed heffect hsuccess =>
    rw [given, hsuccess, Bool.and_true]
    cases pullEffect_of_effect heffect with
    | kept hnew hnone hsame =>
      rw [hnew, if_neg Bool.false_ne_true]
      exact .kept hsame
    | opened hfree hpulls hnext => exact .opened hfree hpulls hnext
    | revised hnew hrevision hpulls hnext =>
      rw [hnew, if_neg Bool.false_ne_true]
      exact .revised hrevision hpulls hnext
  | editedAgain hlisted => exact .kept (.refl _)
  | edited hnew => exact .kept ⟨rfl, rfl⟩
  | rejected hfault =>
    rw [given, importState_of_fault hfault]
    exact .kept (.refl _)
  | imported hsound =>
    rw [given, importState_of_sound hsound]
    exact .cleared rfl rfl
  | movedOn ids now => exact .kept (.refl _)

end Repo

end GitPractice
