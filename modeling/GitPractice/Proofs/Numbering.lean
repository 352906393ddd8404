import Mathlib.Data.List.Range
import GitPractice.Proofs.Pulls
import GitPractice.Proofs.WellFormed

/-!
# The numbers of pull requests

No pull request is taken out of the map but by an import, which starts from one again. So as long
as the counter's 32 bits suffice, the keys of the map are the numbers given since the last import
(`State.Numbered`): one, two, and so on, in this order. A pull request is opened only for two
different branches, and only if none that is open proposes the same (`State.Proposals`).

Looking for the first pull request in the map is looking for the smallest number, but for this
reason alone (`pulls_numbered_afterAll`).
-/

namespace GitPractice

/-! ## One, two, and so on -/

namespace State

/-- The number of the pull request that is opened after `i` others. -/
def numberAt (i : Nat) : UInt32 := .ofNat (i + 1)

/-- The pull requests have the given numbers, these are the first ones there are, and the counter
shows the next. -/
structure Numbered (s : State) (numbers : List UInt32) : Prop where
  keys_eq : s.pullRequests.keys = numbers
  numbers_eq : numbers = (List.range numbers.length).map numberAt
  next_eq : s.nextNumber = numberAt numbers.length

theorem toNat_numberAt {i : Nat} (h : i + 1 < UInt32.size) : (numberAt i).toNat = i + 1 := by
  rw [numberAt, UInt32.toNat_ofNat']
  exact Nat.mod_eq_of_lt h

theorem numberAt_succ (i : Nat) : numberAt (i + 1) = numberAt i + 1 := by
  simp [numberAt]

/-- The counter comes round only after all its values have been given. -/
theorem numberAt_ne {i j : Nat} (hij : i < j) (hj : j < UInt32.size) : numberAt i ≠ numberAt j := by
  intro h
  have hmod := congrArg UInt32.toNat h
  rw [numberAt, numberAt, UInt32.toNat_ofNat', UInt32.toNat_ofNat'] at hmod
  unfold UInt32.size at hj
  omega

variable {s t : State} {numbers : List UInt32}

theorem Numbered.next_notMem (h : s.Numbered numbers) (hroom : numbers.length < UInt32.size) :
    s.nextNumber ∉ s.pullRequests.keys := by
  intro hmem
  rw [h.keys_eq, h.numbers_eq, h.next_eq] at hmem
  obtain ⟨i, hi, heq⟩ := List.mem_map.1 hmem
  exact numberAt_ne (List.mem_range.1 hi) hroom heq

theorem Numbered.of_samePulls (h : s.Numbered numbers) (hsame : s.SamePulls t) :
    t.Numbered numbers := by
  refine ⟨?_, h.numbers_eq, ?_⟩
  · rw [hsame.1, h.keys_eq]
  · rw [hsame.2, h.next_eq]

theorem Numbered.modify {number : UInt32} {f : PullRequest → PullRequest} (h : s.Numbered numbers)
    (hpulls : t.pullRequests = s.pullRequests.modify number f)
    (hnext : t.nextNumber = s.nextNumber) : t.Numbered numbers := by
  refine ⟨?_, h.numbers_eq, ?_⟩
  · rw [hpulls, OrderedMap.keys_modify, h.keys_eq]
  · rw [hnext, h.next_eq]

theorem Numbered.insert {p : PullRequest} (h : s.Numbered numbers)
    (hroom : numbers.length < UInt32.size)
    (hpulls : t.pullRequests = s.pullRequests.insert s.nextNumber p)
    (hnext : t.nextNumber = s.nextNumber + 1) : t.Numbered (numbers ++ [s.nextNumber]) := by
  have hlength : (numbers ++ [s.nextNumber]).length = numbers.length + 1 := by simp
  refine ⟨?_, ?_, ?_⟩
  · rw [hpulls, OrderedMap.keys_insert, if_neg (h.next_notMem hroom), h.keys_eq]
  · rw [hlength, List.range_succ, List.map_append, ← h.numbers_eq, h.next_eq, List.map_singleton]
  · rw [hlength, numberAt_succ, hnext, h.next_eq]

theorem numbered_of_cleared (hpulls : t.pullRequests = .empty) (hnext : t.nextNumber = 1) :
    t.Numbered [] := by
  refine ⟨?_, rfl, ?_⟩
  · rw [hpulls]
    rfl
  · rw [hnext]
    rfl

theorem Numbered.toNat_next (h : s.Numbered numbers) (hroom : numbers.length < UInt32.size - 1) :
    s.nextNumber.toNat = numbers.length + 1 := by
  rw [h.next_eq]
  exact toNat_numberAt (by omega)

theorem Numbered.map_toNat (h : s.Numbered numbers) (hroom : numbers.length < UInt32.size - 1) :
    numbers.map UInt32.toNat = List.range' 1 numbers.length := by
  rw [h.numbers_eq, List.map_map, List.length_map, List.length_range, List.range'_eq_map_range]
  refine List.map_congr_left fun i hi => ?_
  rw [List.mem_range] at hi
  rw [Function.comp_apply, toNat_numberAt (by omega), Nat.add_comm]

end State

/-! ## One open proposal for two branches -/

namespace State

/-- Every pull request is from one branch into another, and of those for the same two branches at
most one is open. -/
structure Proposals (s : State) : Prop where
  apart : s.pullRequests.All fun _ p => p.source ≠ p.target
  single : ∀ {m n p q}, s.pullRequests.get? m = some p → s.pullRequests.get? n = some q →
    p.status = .opened → q.status = .opened → p.source = q.source → p.target = q.target → m = n

variable {s t : State}

theorem proposals_of_cleared (h : t.pullRequests = .empty) : t.Proposals := by
  refine ⟨?_, fun hp => ?_⟩
  · rw [h]
    exact OrderedMap.all_empty
  · rw [h] at hp
    cases hp

theorem Proposals.of_samePulls (h : s.Proposals) (hsame : s.SamePulls t) : t.Proposals := by
  refine ⟨?_, ?_⟩
  · rw [hsame.1]
    exact h.apart
  · rw [hsame.1]
    exact h.single

theorem Proposals.revise {op : Operation} {number : UInt32} {f : PullRequest → PullRequest}
    (h : s.Proposals) (hrevision : op.revision? = some (number, f))
    (hpulls : t.pullRequests = s.pullRequests.modify number f) : t.Proposals := by
  have hback {n q} (hq : t.pullRequests.get? n = some q) : ∃ p, s.pullRequests.get? n = some p
      ∧ p.SameProposal q ∧ (q.status = .opened → p.status = .opened) := by
    rw [hpulls] at hq
    obtain ⟨p, hp, rfl⟩ := OrderedMap.get?_modify_eq_some hq
    refine ⟨p, hp, ?_⟩
    split_ifs
    · exact ⟨Operation.revision?_keeps hrevision p, Operation.opened_of_revision? hrevision⟩
    · exact ⟨.refl p, id⟩
  refine ⟨fun n q hq => ?_, fun hp hq hpo hqo hsource htarget => ?_⟩
  · obtain ⟨p, hp, hsame, -⟩ := hback hq
    rw [hsame.source_eq, hsame.target_eq]
    exact h.apart n p hp
  · obtain ⟨p, hp, hp', hpo'⟩ := hback hp
    obtain ⟨q, hq, hq', hqo'⟩ := hback hq
    rw [hp'.source_eq, hq'.source_eq] at hsource
    rw [hp'.target_eq, hq'.target_eq] at htarget
    exact h.single hp hq (hpo' hpo) (hqo' hqo) hsource htarget

theorem openPull?_eq_none {source target : String} (h : s.openPull? source target = none)
    {n : UInt32} {p : PullRequest} (hp : s.pullRequests.get? n = some p)
    (hopen : p.status = .opened) (hsource : p.source = source) : p.target ≠ target := by
  intro htarget
  have hmem : p ∈ s.openPulls := by
    refine List.mem_filter.2 ⟨?_, by simp [hopen]⟩
    exact List.mem_map.2 ⟨(n, p), OrderedMap.get?_eq_some_iff.1 hp, rfl⟩
  have hnot := List.find?_eq_none.1 h p hmem
  simp [hsource, htarget] at hnot

theorem Proposals.insert {number : UInt32} {p : PullRequest} (h : s.Proposals)
    (hapart : p.source ≠ p.target) (hfree : s.openPull? p.source p.target = none)
    (hpulls : t.pullRequests = s.pullRequests.insert number p) : t.Proposals := by
  have hother {n q} (hn : number ≠ n) (hq : t.pullRequests.get? n = some q) :
      s.pullRequests.get? n = some q := by
    rwa [hpulls, OrderedMap.get?_insert, if_neg hn] at hq
  have hnew {q} (hq : t.pullRequests.get? number = some q) : q = p := by
    rw [hpulls, OrderedMap.get?_insert, if_pos rfl] at hq
    exact (Option.some.inj hq).symm
  refine ⟨?_, @fun m n q q' hq hq' hqo hqo' hsource htarget => ?_⟩
  · rw [hpulls]
    exact h.apart.insert hapart
  · by_cases hm : number = m
    · by_cases hn : number = n
      · rw [← hm, hn]
      · subst hm
        rw [hnew hq] at hsource htarget
        exact absurd htarget.symm (openPull?_eq_none hfree (hother hn hq') hqo' hsource.symm)
    · by_cases hn : number = n
      · subst hn
        rw [hnew hq'] at hsource htarget
        exact absurd htarget (openPull?_eq_none hfree (hother hm hq) hqo hsource)
      · exact h.single (hother hm hq) (hother hn hq') hqo hqo' hsource htarget

end State

namespace Repo

variable {r : Repo} {numbers : List UInt32}

/-- The bound is on the numbers given afterwards: before an import there may have been more. -/
theorem numbered_after
    (h : numbers.length ≤ UInt32.size → r.state.Numbered numbers) (e : Event)
    (hroom : (r.given numbers e).length ≤ UInt32.size) :
    (r.after e).state.Numbered (r.given numbers e) := by
  have hchange := r.pullChange_after numbers e
  generalize r.given numbers e = numbers' at hchange hroom
  cases hchange with
  | kept hsame => exact (h hroom).of_samePulls hsame
  | opened hfree hpulls hnext =>
    rw [List.length_append, List.length_singleton] at hroom
    exact (h (by omega)).insert hroom hpulls hnext
  | revised hrevision hpulls hnext => exact (h hroom).modify hpulls hnext
  | cleared hpulls hnext => exact State.numbered_of_cleared hpulls hnext

theorem numbered_afterAll (config : RepoConfig) (ids : Fingerprints) (now : UInt64)
    (events : List Event)
    (hroom : ((fresh config ids now).givenAll [] events).length ≤ UInt32.size) :
    ((fresh config ids now).afterAll events).state.Numbered
      ((fresh config ids now).givenAll [] events) :=
  invariant_givenAll (P := fun r numbers => numbers.length ≤ UInt32.size →
      r.state.Numbered numbers) (fun _ _ e h => numbered_after h e) events
    (fun _ => State.numbered_of_cleared rfl rfl) hroom

theorem proposalRefusal?_eq_none {source target : String}
    (h : r.proposalRefusal? source target = none) :
    source ≠ target ∧ r.state.openPull? source target = none := by
  unfold proposalRefusal? at h
  split_ifs at h with h₁ h₂ h₃ h₄
  exact ⟨h₂, Option.map_eq_none_iff.1 h⟩

theorem proposals_after (h : r.state.Proposals) (e : Event) : (r.after e).state.Proposals := by
  have hchange := r.pullChange_after [] e
  generalize r.given [] e = numbers at hchange
  cases hchange with
  | kept hsame => exact h.of_samePulls hsame
  | opened hfree hpulls hnext =>
    obtain ⟨hapart, hnone⟩ := proposalRefusal?_eq_none hfree
    exact h.insert hapart hnone hpulls
  | revised hrevision hpulls hnext => exact h.revise hrevision hpulls
  | cleared hpulls hnext => exact State.proposals_of_cleared hpulls

theorem proposals_afterAll (config : RepoConfig) (ids : Fingerprints) (now : UInt64)
    (events : List Event) : ((fresh config ids now).afterAll events).state.Proposals :=
  invariant_afterAll (P := fun r => r.state.Proposals) (fun _ e h => proposals_after h e) events
    (State.proposals_of_cleared rfl)

end Repo

/-! ## The first pull request of a branch -/

namespace State

/-- A pull request has the property, and no other with the property has a smaller number. -/
def FirstPull (s : State) (P : PullRequest → Prop) (number : UInt32) : Prop :=
  (∃ p, s.pullRequests.get? number = some p ∧ P p)
    ∧ ∀ n p, s.pullRequests.get? n = some p → P p → number ≤ n

variable {s : State} {numbers : List UInt32}

theorem Numbered.keys_sorted (h : s.Numbered numbers) (hroom : numbers.length < UInt32.size - 1) :
    s.pullRequests.keys.Pairwise (· < ·) := by
  have hsorted : (numbers.map UInt32.toNat).Pairwise (· < ·) := by
    rw [h.map_toNat hroom]
    exact List.pairwise_lt_range'
  rw [h.keys_eq]
  exact (List.pairwise_map.1 hsorted).imp fun hlt => UInt32.lt_iff_toNat_lt.2 hlt

theorem mem_values {p : PullRequest} :
    p ∈ s.pullRequests.values ↔ ∃ n, s.pullRequests.get? n = some p := by
  simp [OrderedMap.values, OrderedMap.get?_eq_some_iff]

theorem values_find?_eq_none {P : PullRequest → Bool} :
    s.pullRequests.values.find? P = none
      ↔ ∀ n p, s.pullRequests.get? n = some p → ¬ P p = true := by
  rw [List.find?_eq_none]
  constructor
  · exact fun h n p hp => h p (mem_values.2 ⟨n, hp⟩)
  · intro h p hp
    obtain ⟨n, hn⟩ := mem_values.1 hp
    exact h n p hn

theorem FirstPull.unique {P : PullRequest → Prop} {m n : UInt32} (hm : s.FirstPull P m)
    (hn : s.FirstPull P n) : m = n := by
  obtain ⟨⟨p, hp, hPp⟩, hm⟩ := hm
  obtain ⟨⟨q, hq, hPq⟩, hn⟩ := hn
  exact UInt32.le_antisymm (hm n q hq hPq) (hn m p hp hPp)

section Sorted

variable (hnumber : s.pullRequests.All fun number p => p.number = number)
  (hsorted : s.pullRequests.keys.Pairwise (· < ·))
include hnumber hsorted

theorem values_sorted : s.pullRequests.values.Pairwise fun p q => p.number < q.number := by
  have hkeys : s.pullRequests.values.map PullRequest.number = s.pullRequests.keys := by
    rw [OrderedMap.values, OrderedMap.keys, List.map_map]
    exact List.map_congr_left fun e he => OrderedMap.all_iff.1 hnumber e he
  rw [← hkeys] at hsorted
  exact List.pairwise_map.1 hsorted

/-- What stands first in a map sorted by number has the smallest number. -/
theorem firstPull_of_find? {P : PullRequest → Bool} {p : PullRequest}
    (h : s.pullRequests.values.find? P = some p) : s.FirstPull (P · = true) p.number := by
  obtain ⟨hP, before, after, hvalues, hbefore⟩ := List.find?_eq_some_iff_append.1 h
  have hget {q : PullRequest} (hq : q ∈ s.pullRequests.values) :
      s.pullRequests.get? q.number = some q := by
    obtain ⟨n, hn⟩ := mem_values.1 hq
    rw [hnumber n q hn]
    exact hn
  refine ⟨⟨p, hget (by simp [hvalues]), hP⟩, fun n q hq hPq => ?_⟩
  have hmem : q ∈ before ++ p :: after := hvalues ▸ mem_values.2 ⟨n, hq⟩
  rw [← hnumber n q hq]
  rcases List.mem_append.1 hmem with hq' | hq'
  · have hnot := hbefore q hq'
    rw [hPq] at hnot
    cases hnot
  · rcases List.mem_cons.1 hq' with rfl | hq'
    · exact UInt32.le_refl _
    · have hvaluesSorted := values_sorted hnumber hsorted
      rw [hvalues, List.pairwise_append, List.pairwise_cons] at hvaluesSorted
      exact UInt32.le_of_lt (hvaluesSorted.2.1.1 q hq')

theorem find?_values_eq_some_iff (P : PullRequest → Bool) (number : UInt32) :
    (s.pullRequests.values.find? P).map PullRequest.number = some number
      ↔ s.FirstPull (P · = true) number := by
  constructor
  · intro h
    obtain ⟨p, hp, rfl⟩ := Option.map_eq_some_iff.1 h
    exact firstPull_of_find? hnumber hsorted hp
  · intro h
    rcases hfind : s.pullRequests.values.find? P with _ | p
    · obtain ⟨⟨p, hp, hP⟩, -⟩ := h
      exact absurd hP (values_find?_eq_none.1 hfind number p hp)
    · have hp := firstPull_of_find? hnumber hsorted hfind
      rw [Option.map_some, hp.unique h]

end Sorted

end State

/-- In every run in which the counter has not run out, the pull requests are numbered from one in
the order in which they were opened, and those that are looked up by branch are the first. -/
theorem Repo.pulls_numbered_afterAll (config : RepoConfig) (ids : Fingerprints) (now : UInt64)
    (events : List Event)
    (hroom : ((fresh config ids now).givenAll [] events).length < UInt32.size - 1) :
    let numbers := (fresh config ids now).givenAll [] events
    let s := ((fresh config ids now).afterAll events).state
    s.pullRequests.keys = numbers ∧ numbers.Nodup
      ∧ s.nextNumber.toNat = numbers.length + 1
      ∧ numbers.map UInt32.toNat = List.range' 1 (s.nextNumber.toNat - 1)
      ∧ (s.pullRequests.All fun number p => p.number = number ∧ p.source ≠ p.target)
      ∧ (∀ m n p q, s.pullRequests.get? m = some p → s.pullRequests.get? n = some q →
        p.status = .opened → q.status = .opened → p.source = q.source → p.target = q.target →
        m = n)
      ∧ ∀ branch,
        ((∀ number, s.openPullFor? branch = some number
            ↔ s.FirstPull (fun p => p.status = .opened ∧ p.source = branch) number)
          ∧ (s.openPullFor? branch = none
            ↔ ∀ n p, s.pullRequests.get? n = some p → ¬ (p.status = .opened ∧ p.source = branch)))
        ∧ (∀ number, s.pullFor? branch = some number
            ↔ s.FirstPull (fun p => p.source = branch) number)
          ∧ (s.pullFor? branch = none
            ↔ ∀ n p, s.pullRequests.get? n = some p → p.source ≠ branch) := by
  intro numbers s
  have hnumbered : s.Numbered numbers := numbered_afterAll config ids now events (by omega)
  have hwell : s.WellFormed := wellFormed_afterAll (wellFormed_fresh config ids now) events
  have hproposals : s.Proposals := proposals_afterAll config ids now events
  have hnext := hnumbered.toNat_next hroom
  have hsorted := hnumbered.keys_sorted hroom
  refine ⟨hnumbered.keys_eq, ?_, hnext, ?_, ?_, ?_, fun branch => ⟨⟨fun number => ?_, ?_⟩,
    fun number => ?_, ?_⟩⟩
  · rw [← hnumbered.keys_eq]
    exact s.pullRequests.nodup
  · rw [hnext, Nat.add_sub_cancel]
    exact hnumbered.map_toNat hroom
  · exact fun n p hp => ⟨hwell.pulls n p hp, hproposals.apart n p hp⟩
  · exact fun _ _ _ _ => hproposals.single
  · rw [State.openPullFor?, State.openPulls, List.find?_filter,
      State.find?_values_eq_some_iff hwell.pulls hsorted]
    simp
  · rw [State.openPullFor?, State.openPulls, List.find?_filter, Option.map_eq_none_iff,
      State.values_find?_eq_none]
    simp
  · rw [State.pullFor?, State.find?_values_eq_some_iff hwell.pulls hsorted]
    simp
  · rw [State.pullFor?, Option.map_eq_none_iff, State.values_find?_eq_none]
    simp

/-- A branch is proposed, the proposal is closed, and the branch is proposed again. -/
def Repo.proposedTwice : List Event :=
  [.performed (.checkout "feature" true none), .performed (.push "origin" none true),
    .performed (.createPull "First" "" none "main"), .performed (.closePull 1),
    .performed (.createPull "Second" "" none "main")]

def Repo.reproposed : Repo := (fresh .default (.numbered 'c') pinnedTime).afterAll proposedTwice

theorem Repo.pulls_numbered_reproposed :
    ((fresh .default (.numbered 'c') pinnedTime).givenAll [] proposedTwice).length
        < UInt32.size - 1
      ∧ (fresh .default (.numbered 'c') pinnedTime).givenAll [] proposedTwice = [1, 2]
      ∧ reproposed.state.pullRequests.keys = [1, 2]
      ∧ reproposed.state.FirstPull (fun p => p.status = .opened ∧ p.source = "feature") 2
      ∧ reproposed.state.FirstPull (fun p => p.source = "feature") 1 := by
  have hgiven : (fresh .default (.numbered 'c') pinnedTime).givenAll [] proposedTwice = [1, 2] := by
    decide +kernel
  have hroom : ((fresh .default (.numbered 'c') pinnedTime).givenAll [] proposedTwice).length
      < UInt32.size - 1 := by
    rw [hgiven]
    decide
  obtain ⟨hkeys, -, -, -, -, -, hbranch⟩ := pulls_numbered_afterAll .default (.numbered 'c')
    pinnedTime proposedTwice hroom
  obtain ⟨⟨hopen, -⟩, hany, -⟩ := hbranch "feature"
  have hfirst : reproposed.state.openPullFor? "feature" = some 2 := by decide +kernel
  have hfirst' : reproposed.state.pullFor? "feature" = some 1 := by decide +kernel
  exact ⟨hroom, hgiven, hkeys.trans hgiven, (hopen 2).1 hfirst, (hany 1).1 hfirst'⟩

end GitPractice
