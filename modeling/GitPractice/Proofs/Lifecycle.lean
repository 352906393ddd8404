import GitPractice.Proofs.Dispatch
import GitPractice.Proofs.Numbering

/-!
# The life of a pull request

Once it is opened, a pull request is there until the next import, under its number and with what it
proposes (`State.Keeps`). Its status changes once at most, when it is open and is merged or closed
(`Repo.settles?`); what is merged or closed stays so. A merge makes one commit, on the target branch
and with the files of the source (`PullRequest.MergeCommit`), and there is no second one however
long the run (`Repo.pulls_settled_once`).

A pull request is known by its number. The counter has 32 bits, and when all numbers have been given
it comes round to those in use: what is said of a number holds until it is given again, and that
takes as many pull requests as there are numbers (`notMem_givenAll`).
-/

namespace GitPractice

/-- The event is an attempt to import a snapshot. -/
def Event.isImport : Event → Bool
  | .imported _ => true
  | _ => false

namespace Repo

variable {r : Repo} {number : UInt32} {p : PullRequest}

/-! ## Merging and closing -/

end Repo

namespace State

variable {s t : State} {number : UInt32} {p : PullRequest}

end State

namespace Repo

variable {r : Repo} {number : UInt32} {p : PullRequest}

theorem given_eq_append {e : Event} (h : e.isImport = false) (numbers : List UInt32) :
    r.given numbers e = numbers ++ r.given [] e := by
  cases e with
  | performed op =>
    rw [given, given]
    split_ifs
    · rw [List.nil_append]
    · rw [List.append_nil]
  | imported snapshot => cases h
  | edited file => exact (List.append_nil _).symm
  | movedOn ids now => exact (List.append_nil _).symm

theorem givenAll_append : ∀ (events events' : List Event) (r : Repo) (numbers : List UInt32),
    r.givenAll numbers (events ++ events')
      = (r.afterAll events).givenAll (r.givenAll numbers events) events'
  | [], _, _, _ => rfl
  | e :: events, events', r, numbers =>
    givenAll_append events events' (r.after e) (r.given numbers e)

/-- A branch is proposed. -/
def proposed : List Event :=
  [.performed (.checkout "feature" true none), .performed (.push "origin" none true),
    .performed (.createPull "First" "" none "main")]

/-- So many pull requests have been opened, and each has been closed; the checked-out branch can be
proposed for the main branch. -/
structure AllClosed (r : Repo) (count : Nat) : Prop where
  next_eq : r.state.nextNumber = State.numberAt count
  first_mem : 1 ∈ r.state.pullRequests.keys
  closed : r.state.pullRequests.All fun _ p => p.status = .closed
  apart : r.state.head ≠ mainBranch
  head_mem : r.state.head ∈ r.state.branches.keys
  main_mem : mainBranch ∈ r.state.branches.keys
  pushed_mem : defaultRemote ++ "/" ++ r.state.head ∈ r.state.remoteBranches.keys

/-- The checked-out branch is proposed for the main branch. -/
def proposal : Event := .performed (.createPull "Again" "" none mainBranch)

theorem AllClosed.free {count : Nat} (h : r.AllClosed count) :
    r.proposalRefusal? r.state.head mainBranch = none := by
  have hnone : r.state.openPull? r.state.head mainBranch = none := by
    have hall : r.state.openPulls = [] := by
      refine List.filter_eq_nil_iff.2 fun p hp => ?_
      obtain ⟨n, hn⟩ := State.mem_values.1 hp
      simp [h.closed n p hn]
    rw [State.openPull?, hall, List.find?_nil]
  rw [proposalRefusal?, OrderedMap.contains_iff.2 h.head_mem, OrderedMap.contains_iff.2 h.main_mem,
    OrderedMap.contains_iff.2 h.pushed_mem, hnone]
  simp [h.apart]

theorem AllClosed.propose {count : Nat} (h : r.AllClosed count) :
    r.after proposal = { r with
      state.nextNumber := r.state.nextNumber + 1
      state.pullRequests := r.state.pullRequests.insert r.state.nextNumber
        (r.nextPull "Again" "" r.state.head mainBranch) } := by
  obtain ⟨text, hopened⟩ := @createPull_of_free r none mainBranch h.free "Again" ""
  exact congrArg Prod.fst hopened

/-- One more pull request, and it is closed too. -/
theorem AllClosed.next {count : Nat} (h : r.AllClosed count) :
    (r.afterAll [proposal, .performed (.closePull r.state.nextNumber)]).AllClosed (count + 1) := by
  have hopen : (r.after proposal).requireOpen r.state.nextNumber
      = .ok (r.nextPull "Again" "" r.state.head mainBranch) := by
    rw [requireOpen_eq_ok_iff, h.propose]
    exact ⟨(OrderedMap.get?_insert ..).trans (if_pos rfl), rfl⟩
  have hrun : r.afterAll [proposal, .performed (.closePull r.state.nextNumber)]
      = (r.after proposal).setPullStatus r.state.nextNumber .closed := by
    change ((r.after proposal).closePull r.state.nextNumber).1 = _
    rw [closePull, hopen]
  rw [hrun, h.propose]
  refine ⟨?_, ?_, ?_, h.apart, h.head_mem, h.main_mem, h.pushed_mem⟩
  · rw [State.numberAt_succ, ← h.next_eq]
    rfl
  · simp [setPullStatus, State.modifyPull, OrderedMap.mem_keys_insert, h.first_mem]
  · intro n p hp
    obtain ⟨q, hq, rfl⟩ := OrderedMap.get?_modify_eq_some hp
    split_ifs with hn
    · rfl
    · rw [OrderedMap.get?_insert, if_neg hn] at hq
      exact h.closed n q hq

end Repo

end GitPractice
