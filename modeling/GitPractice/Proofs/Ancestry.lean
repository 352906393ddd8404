import Mathlib.Data.List.Perm.Subperm
import Mathlib.Order.Lattice.Nat
import GitPractice.Proofs.Frame
import GitPractice.Proofs.WellFormed

/-!
# Where history ends

History is acyclic if the commits can be ranked with each above its parent (`State.Acyclic`). Then
what the log shows falls in rank, so it shows no commit twice and comes to one without parent before
it has shown more than there are; and where every commit leads to one without parent there is such a
ranking (`acyclic_iff`).

A commit is made on top of one that was there (`State.Appends`), so nothing that happens to a
repository makes or breaks a loop, but for an import. The check of a snapshot asks for a parent to
be among the commits. That it is not the commit itself or a descendant is not asked for, and a sound
snapshot can bring a history in which the log goes round (`history_looping`). If the last snapshot
is acyclic, so is history (`history_ends_afterAll`).
-/

namespace GitPractice

namespace State

/-- Every commit ranks above its parent. -/
def Ranked (s : State) (rank : CommitId → Nat) : Prop :=
  s.commits.All fun id c => ∀ p, c.parent = some p → rank p < rank id

/-- The commits can be ranked with each above its parent. -/
def Acyclic (s : State) : Prop := ∃ rank, s.Ranked rank

/-- The last of at most `n` commits from this one on has no parent. -/
def EndsWithin (s : State) (n : Nat) (id : CommitId) : Prop :=
  ∃ root, (s.historyFrom n (some id)).getLast? = some root ∧ root.parent = none

variable {s t : State} {id : CommitId} {c : Commit} {rank : CommitId → Nat}

/-! ## Following parents -/

theorem historyFrom_none (n : Nat) : s.historyFrom n none = [] := by
  cases n <;> rfl

theorem historyFrom_succ (h : s.commits.get? id = some c) (n : Nat) :
    s.historyFrom (n + 1) (some id) = c :: s.historyFrom n c.parent := by
  rw [historyFrom, h]

theorem endsWithin_of_parent_eq_none (h : s.commits.get? id = some c) (hparent : c.parent = none)
    (n : Nat) : s.EndsWithin (n + 1) id := by
  rw [EndsWithin, historyFrom_succ h, hparent, historyFrom_none]
  exact ⟨c, rfl, hparent⟩

theorem endsWithin_succ {p : CommitId} (h : s.commits.get? id = some c)
    (hparent : c.parent = some p) (n : Nat) : s.EndsWithin (n + 1) id ↔ s.EndsWithin n p := by
  rw [EndsWithin, EndsWithin, historyFrom_succ h, hparent, List.getLast?_cons]
  constructor
  · rintro ⟨root, hlast, hroot⟩
    refine ⟨root, ?_, hroot⟩
    rcases htail : (s.historyFrom n (some p)).getLast? with _ | root'
    · rw [htail, Option.getD_none, Option.some.injEq] at hlast
      rw [← hlast, hparent] at hroot
      cases hroot
    · rw [htail, Option.getD_some] at hlast
      exact hlast
  · rintro ⟨root, hlast, hroot⟩
    exact ⟨root, by rw [hlast, Option.getD_some], hroot⟩

section WellFormed

variable (hwell : s.WellFormed)
include hwell

/-- Following parents comes to an end or goes on. -/
theorem endsWithin_or_length : ∀ (n : Nat) {id : CommitId}, id ∈ s.commits.keys →
    s.EndsWithin n id ∨ (s.historyFrom (n + 1) (some id)).length = n + 1
  | 0, id, hid => by
    obtain ⟨c, hc⟩ := OrderedMap.mem_keys_iff.1 hid
    rw [historyFrom_succ hc]
    exact .inr rfl
  | n + 1, id, hid => by
    obtain ⟨c, hc⟩ := OrderedMap.mem_keys_iff.1 hid
    rcases hparent : c.parent with _ | p
    · exact .inl (endsWithin_of_parent_eq_none hc hparent n)
    · rw [endsWithin_succ hc hparent, historyFrom_succ hc, hparent, List.length_cons,
        Nat.add_right_cancel_iff]
      exact endsWithin_or_length n ((hwell.commits id c hc).parent_mem p hparent)

theorem get?_of_mem_historyFrom : ∀ {n : Nat} {o : Option CommitId}, c ∈ s.historyFrom n o →
    s.commits.get? c.id = some c
  | n, none, h => by
    rw [historyFrom_none] at h
    cases h
  | 0, some id, h => by cases h
  | n + 1, some id, h => by
    rcases hget : s.commits.get? id with _ | d
    · rw [historyFrom, hget] at h
      cases h
    · rw [historyFrom_succ hget] at h
      rcases List.mem_cons.1 h with rfl | h
      · rw [(hwell.commits id c hget).id_eq]
        exact hget
      · exact get?_of_mem_historyFrom h

section Ranked

variable (hrank : s.Ranked rank)
include hrank

theorem rank_le_of_mem_historyFrom : ∀ {n : Nat} {id : CommitId} {c : Commit},
    c ∈ s.historyFrom n (some id) → rank c.id ≤ rank id
  | 0, id, c, h => by cases h
  | n + 1, id, c, h => by
    rcases hget : s.commits.get? id with _ | d
    · rw [historyFrom, hget] at h
      cases h
    · rw [historyFrom_succ hget] at h
      rcases List.mem_cons.1 h with rfl | h
      · rw [(hwell.commits id c hget).id_eq]
      · rcases hparent : d.parent with _ | p
        · rw [hparent, historyFrom_none] at h
          cases h
        · rw [hparent] at h
          exact (rank_le_of_mem_historyFrom h).trans (hrank id d hget p hparent).le

theorem historyFrom_falls : ∀ (n : Nat) (o : Option CommitId),
    (s.historyFrom n o).Pairwise fun c d => rank d.id < rank c.id
  | n, none => by
    rw [historyFrom_none]
    exact .nil
  | 0, some id => .nil
  | n + 1, some id => by
    rcases hget : s.commits.get? id with _ | c
    · rw [historyFrom, hget]
      exact .nil
    · rw [historyFrom_succ hget]
      refine .cons (fun d hd => ?_) (historyFrom_falls n c.parent)
      rcases hparent : c.parent with _ | p
      · rw [hparent, historyFrom_none] at hd
        cases hd
      · rw [hparent] at hd
        rw [(hwell.commits id c hget).id_eq]
        exact (rank_le_of_mem_historyFrom hwell hrank hd).trans_lt (hrank id c hget p hparent)

end Ranked

theorem Acyclic.nodup_historyFrom (h : s.Acyclic) (n : Nat) (o : Option CommitId) :
    ((s.historyFrom n o).map Commit.id).Nodup := by
  obtain ⟨rank, hrank⟩ := h
  refine List.pairwise_map.2 ((historyFrom_falls hwell hrank n o).imp fun hlt heq => ?_)
  rw [heq] at hlt
  exact hlt.false

theorem Acyclic.length_historyFrom_le (h : s.Acyclic) (n : Nat) (o : Option CommitId) :
    (s.historyFrom n o).length ≤ s.commits.size := by
  have hsub : (s.historyFrom n o).map Commit.id ⊆ s.commits.keys := by
    intro id hid
    obtain ⟨c, hc, rfl⟩ := List.mem_map.1 hid
    exact OrderedMap.mem_keys_of_get? (get?_of_mem_historyFrom hwell hc)
  have hle := ((List.subperm_of_subset (h.nodup_historyFrom hwell n o) hsub)).length_le
  rwa [List.length_map, OrderedMap.keys, List.length_map] at hle

/-- From every commit on, the log ends at a commit without parent before it has gone through more
commits than there are. -/
theorem Acyclic.endsWithin (h : s.Acyclic) {n : Nat} (hn : s.commits.size ≤ n)
    (hid : id ∈ s.commits.keys) : s.EndsWithin n id := by
  refine (endsWithin_or_length hwell n hid).resolve_right fun hlength => ?_
  have hle := h.length_historyFrom_le hwell (n + 1) (some id)
  omega

omit hwell in
/-- The number of commits up to the one without parent is a rank. -/
theorem acyclic_of_endsWithin (hends : ∀ id ∈ s.commits.keys, ∃ n, s.EndsWithin n id) :
    s.Acyclic := by
  refine ⟨fun id => sInf {n | s.EndsWithin n id}, fun id c hc p hparent => ?_⟩
  have hleast : s.EndsWithin (sInf {n | s.EndsWithin n id}) id :=
    Nat.sInf_mem (hends id (OrderedMap.mem_keys_of_get? hc))
  change sInf {n | s.EndsWithin n p} < sInf {n | s.EndsWithin n id}
  rcases hn : sInf {n | s.EndsWithin n id} with _ | n
  · rw [hn] at hleast
    obtain ⟨root, hlast, -⟩ := hleast
    cases hlast
  · rw [hn, endsWithin_succ hc hparent] at hleast
    exact (Nat.sInf_le hleast).trans_lt n.lt_succ_self

theorem acyclic_iff : s.Acyclic ↔ ∀ id ∈ s.commits.keys, ∃ n, s.EndsWithin n id :=
  ⟨fun h _ hid => ⟨_, h.endsWithin hwell le_rfl hid⟩, acyclic_of_endsWithin⟩

end WellFormed

/-! ## What is made on top of a commit -/

/-- The commits are the same, or one has been added under a new id and on top of one that was
there. -/
def Appends (s t : State) : Prop :=
  t.commits = s.commits
    ∨ ∃ c p, t.commits = s.commits.insert c.id c ∧ c.id ∉ s.commits.keys ∧ c.parent = some p
      ∧ p ∈ s.commits.keys

theorem Appends.of_eq {s' : State} (h : s.Appends t) (hcommits : s.commits = s'.commits) :
    s'.Appends t := by
  rw [Appends, ← hcommits]
  exact h

/-- On top of a commit there is no loop that was not there. -/
theorem acyclic_iff_of_appends (hwell : s.WellFormed) (h : s.Appends t) :
    t.Acyclic ↔ s.Acyclic := by
  rcases h with hcommits | ⟨c, p, hcommits, hnew, hparent, hp⟩
  · simp only [Acyclic, Ranked, hcommits]
  have hold : ∀ id ∈ s.commits.keys, id ≠ c.id := fun id hid heq => hnew (heq ▸ hid)
  simp only [Acyclic, Ranked, hcommits]
  constructor
  · rintro ⟨rank, hrank⟩
    refine ⟨rank, fun id d hd => hrank id d ?_⟩
    rw [OrderedMap.get?_insert, if_neg (hold id (OrderedMap.mem_keys_of_get? hd)).symm, hd]
  · rintro ⟨rank, hrank⟩
    refine ⟨Function.update rank c.id (rank p + 1),
      OrderedMap.All.insert (fun id d hd q hq => ?_) fun q hq => ?_⟩
    · rw [Function.update_of_ne (hold id (OrderedMap.mem_keys_of_get? hd)),
        Function.update_of_ne (hold q ((hwell.commits id d hd).parent_mem q hq))]
      exact hrank id d hd q hq
    · rw [hparent, Option.some.injEq] at hq
      subst hq
      rw [Function.update_of_ne (hold p hp), Function.update_self]
      exact (rank p).lt_succ_self

end State

namespace Repo

variable {r r' : Repo}

theorem appends_commitAs {drawn : String × Fingerprints} (hdrawn : r.nextDraw = some drawn)
    {message : String} {parent : CommitId} {files : List String}
    (hparent : parent ∈ r.state.commits.keys) :
    r.state.Appends (r.commitAs drawn message parent files).state :=
  .inr ⟨r.commitFor drawn message (some parent) files, parent, rfl, drawn_notMem hdrawn, rfl,
    hparent⟩

theorem appends_effect (hwell : r.state.WellFormed) {op : Operation} (heffect : r.Effect op r') :
    r.state.Appends r'.state := by
  have hwithin := within_effect heffect
  cases heffect with
  | @commit message all parent drawn hmessage hparent hfiles hdrawn =>
    have hdraw : (r.emptied all).nextDraw = some drawn := (r.nextDraw_emptied all).trans hdrawn
    have hcommits : (r.emptied all).state.commits = r.state.commits := r.state.indexed_commits all
    have hmem : parent ∈ (r.emptied all).state.commits.keys := by
      rw [hcommits]
      exact hwell.headTip?_mem hparent
    exact (appends_commitAs hdraw hmem).of_eq hcommits
  | merge hsource hparent hdrawn => exact appends_commitAs hdrawn (hwell.headTip?_mem hparent)
  | mergePull hopen hsource htarget hdrawn =>
    exact appends_commitAs (r := r.onBranch _) hdrawn (hwell.mem_branches htarget)
  | _ => exact .inl (hwithin .commits (by simp [Operation.reach]))

/-- While an id is looked for there is no new commit. -/
theorem appends_waits (hwell : r.state.WellFormed) {op : Operation} (hwaits : r.Waits op r') :
    r.state.Appends r'.state := by
  rcases hwaits.eq_or_effect with rfl | ⟨-, heffect⟩ | ⟨_, _, _, -, heffect⟩
  · exact .inl rfl
  · exact appends_effect hwell heffect
  · exact appends_effect hwell heffect

end Repo

/-! ## Runs -/

/-- The records can be ranked with each above its parent. -/
def Snapshot.Acyclic (s : Snapshot) : Prop :=
  ∃ rank : String → Nat, ∀ e ∈ s.commits.entries, ∀ p, e.2.parent = some p →
    rank p < rank (nameOr e.2.id e.1)

theorem Snapshot.Acyclic.toState {s : Snapshot} (h : s.Acyclic) (config : RepoConfig)
    (now : UInt64) : (s.toState config now).Acyclic := by
  obtain ⟨rank, hrank⟩ := h
  refine ⟨fun id => rank id.text, OrderedMap.all_ofList_keyed fun e he p hp => ?_⟩
  obtain ⟨q, hq, rfl⟩ := Option.map_eq_some_iff.1 hp
  exact hrank e he q hq

/-- The snapshot that an event makes the state of the repository. -/
def Event.accepted? : Event → Option Snapshot
  | .imported snapshot => if snapshot.fault? = none then some snapshot else none
  | _ => none

namespace Repo

/-- The last snapshot of a run that was accepted. -/
def lastAccepted? (events : List Event) : Option Snapshot :=
  events.reverse.findSome? Event.accepted?

variable {r : Repo} {e : Event}

theorem lastAccepted?_append (events : List Event) (e : Event) :
    lastAccepted? (events ++ [e]) = (e.accepted? <|> lastAccepted? events) := by
  rw [lastAccepted?, lastAccepted?, List.reverse_append, List.reverse_singleton,
    List.singleton_append, List.findSome?_cons]
  cases e.accepted? <;> rfl

theorem state_after_of_accepted {snapshot : Snapshot} (h : e.accepted? = some snapshot) :
    (r.after e).state = snapshot.toState r.config r.now := by
  cases e with
  | imported snapshot' =>
    rw [Event.accepted?] at h
    split_ifs at h with hfault
    rw [Option.some.injEq] at h
    subst h
    rw [after, importState_of_sound (snapshot'.fault?_eq_none_iff.1 hfault)]
    rfl
  | performed op => cases h
  | edited file => cases h
  | movedOn ids now => cases h

/-- Only an import makes a loop, or takes one away. -/
theorem acyclic_after_iff (hwell : r.state.WellFormed) (h : e.accepted? = none) :
    (r.after e).state.Acyclic ↔ r.state.Acyclic := by
  have hhappens := r.happens_after e
  generalize r.after e = r' at hhappens
  cases hhappens with
  | performed heffect hsuccess =>
    exact State.acyclic_iff_of_appends hwell (appends_effect hwell heffect)
  | heldUp hwaits hnone => exact State.acyclic_iff_of_appends hwell (appends_waits hwell hwaits)
  | @imported snapshot hsound =>
    rw [Event.accepted?, if_pos (snapshot.fault?_eq_none_iff.2 hsound)] at h
    cases h
  | _ => exact Iff.rfl

theorem acyclic_afterAll (hwell : r.state.WellFormed) (hacyclic : r.state.Acyclic)
    {events : List Event} (h : ∀ snapshot ∈ lastAccepted? events, snapshot.Acyclic) :
    (r.afterAll events).state.Acyclic := by
  induction events using List.reverseRecOn with
  | nil => exact hacyclic
  | append_singleton events e ih =>
    rw [lastAccepted?_append] at h
    rw [afterAll, List.foldl_append, List.foldl_cons, List.foldl_nil]
    rcases haccepted : e.accepted? with _ | snapshot
    · rw [haccepted] at h
      exact (acyclic_after_iff (wellFormed_afterAll hwell events) haccepted).2 (ih h)
    · rw [haccepted] at h
      rw [state_after_of_accepted haccepted]
      exact (h snapshot rfl).toState _ _

theorem acyclic_fresh (config : RepoConfig) (ids : Fingerprints) (now : UInt64) :
    (fresh config ids now).state.Acyclic :=
  ⟨fun _ => 0, OrderedMap.all_empty.insert nofun⟩

/-- Unless the last snapshot has brought a loop, every commit has a first ancestor, and the log ends
there if it is not cut short; it shows no commit twice. -/
theorem history_ends_afterAll (config : RepoConfig) (ids : Fingerprints) (now : UInt64)
    (events : List Event)
    (hsnapshot : ∀ snapshot ∈ lastAccepted? events, snapshot.Acyclic) :
    let s := ((fresh config ids now).afterAll events).state
    (∀ id ∈ s.commits.keys, ∀ n, s.commits.size ≤ n → s.EndsWithin n id)
      ∧ ∀ n, ((s.history n).map Commit.id).Nodup
        ∧ ((∃ root, (s.history n).getLast? = some root ∧ root.parent = none)
          ∨ n < s.commits.size ∧ (s.history (n + 1)).length = n + 1) := by
  intro s
  have hwell : s.WellFormed := wellFormed_afterAll (wellFormed_fresh config ids now) events
  have hacyclic : s.Acyclic :=
    acyclic_afterAll (wellFormed_fresh config ids now) (acyclic_fresh config ids now) hsnapshot
  obtain ⟨tip, htip⟩ := hwell.exists_headTip?
  refine ⟨fun id hid n hn => hacyclic.endsWithin hwell hn hid, fun n =>
    ⟨hacyclic.nodup_historyFrom hwell n _, ?_⟩⟩
  rw [State.history, State.history, htip]
  refine (State.endsWithin_or_length hwell n (hwell.headTip?_mem htip)).imp_right fun hlength => ?_
  have hle := hacyclic.length_historyFrom_le hwell (n + 1) (some tip)
  exact ⟨by omega, hlength⟩

end Repo

/-- A snapshot of two commits, one on top of the other. -/
def Snapshot.stacked : Snapshot where
  commits := .ofList [("bbbbbbb", ⟨"", "Second", some "aaaaaaa", [], none, none⟩),
    ("aaaaaaa", ⟨"", "First", none, [], none, none⟩)]
  branches := .ofList [("main", ⟨"", "bbbbbbb", none⟩)]
  remoteBranches := .empty
  head := "main"
  staged := []
  working := ["notes.md"]

/-- The snapshot is imported, and a commit made on top of its two. -/
def Repo.stackedHigher : List Event :=
  [.imported .stacked, .performed (.add "notes.md"), .performed (.commit "Third" false)]

theorem Snapshot.acyclic_stacked : stacked.Acyclic := by
  refine ⟨fun id => if id = "bbbbbbb" then 1 else 0, fun e he p hp => ?_⟩
  have hall : stacked.commits.entries.all fun e => e.2.parent.all fun p =>
      (if p = "bbbbbbb" then 1 else 0) < if nameOr e.2.id e.1 = "bbbbbbb" then 1 else 0 := by
    decide +kernel
  have hentry := List.all_eq_true.1 hall e he
  rw [hp] at hentry
  simpa using hentry

theorem Repo.history_ends_stackedHigher :
    (∀ snapshot ∈ lastAccepted? stackedHigher, snapshot.Acyclic)
      ∧ (((fresh .default (.numbered 'c') pinnedTime).afterAll stackedHigher).state.history 3).map
        (·.id.text) = ["c000002", "bbbbbbb", "aaaaaaa"]
      ∧ ((fresh .default (.numbered 'c') pinnedTime).afterAll stackedHigher).state.EndsWithin 3
        ⟨"c000002"⟩ := by
  have hlast : lastAccepted? stackedHigher = some .stacked := by decide +kernel
  have hsnapshot : ∀ snapshot ∈ lastAccepted? stackedHigher, snapshot.Acyclic := by
    rintro snapshot hmem
    rw [hlast, Option.mem_some_iff] at hmem
    exact hmem ▸ Snapshot.acyclic_stacked
  obtain ⟨hends, -⟩ :=
    history_ends_afterAll .default (.numbered 'c') pinnedTime stackedHigher hsnapshot
  exact ⟨hsnapshot, by decide +kernel, hends ⟨"c000002"⟩ (by decide +kernel) 3 (by decide +kernel)⟩

/-- A snapshot whose commit is its own parent. -/
def Snapshot.looped : Snapshot where
  commits := .ofList [("aaaaaaa", ⟨"", "Again", some "aaaaaaa", [], none, none⟩)]
  branches := .ofList [("main", ⟨"", "aaaaaaa", none⟩)]
  remoteBranches := .empty
  head := "main"
  staged := []
  working := []

def Repo.looping : Repo :=
  (fresh .default (.numbered 'c') pinnedTime).after (.imported .looped)

theorem Repo.history_looping : Snapshot.looped.fault? = none
    ∧ looping.state.commits.keys = [⟨"aaaaaaa"⟩]
    ∧ (∀ n, ¬ looping.state.EndsWithin n ⟨"aaaaaaa"⟩)
    ∧ (looping.state.history 3).map (·.id.text) = ["aaaaaaa", "aaaaaaa", "aaaaaaa"] := by
  refine ⟨by decide +kernel, by decide +kernel, fun n => ?_, by decide +kernel⟩
  have hself : (looping.state.commits.get? ⟨"aaaaaaa"⟩).map Commit.parent
      = some (some ⟨"aaaaaaa"⟩) := by
    decide +kernel
  obtain ⟨c, hc, hparent⟩ := Option.map_eq_some_iff.1 hself
  induction n with
  | zero =>
    rintro ⟨root, hlast, -⟩
    cases hlast
  | succ n ih => rwa [State.endsWithin_succ hc hparent]

end GitPractice
