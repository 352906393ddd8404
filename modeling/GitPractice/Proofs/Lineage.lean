import GitPractice.Proofs.Ancestry
import GitPractice.Session.Panel

/-!
# The commits that are shown

From a commit on, one parent leads to the next, and in a well-formed state every parent that is
named is there. So there is one list of the first `n` commits of a chain (`State.Lineage`): it stops
early at a commit without parent and nowhere else (`lineage_iff`). The log, in either layout, and
the tree show this list for the checked-out branch, with the same references beside each commit, and
with a smaller number they show its beginning (`log_lineage`).
-/

namespace GitPractice

open Text (joinWith)

namespace State

/-- The first `n` commits of the chain of parents that begins at `start`, or all if there are
fewer. -/
structure Lineage (s : State) (n : Nat) (start : Option CommitId) (cs : List Commit) : Prop where
  stored : ∀ c ∈ cs, s.commits.get? c.id = some c
  linked : cs.IsChain fun c d => c.parent = some d.id
  starts : 0 < n → cs.head?.map Commit.id = start
  length_le : cs.length ≤ n
  ends : cs.length < n → ∀ c ∈ cs.getLast?, c.parent = none

variable {s : State} {id : CommitId} {c : Commit} {cs : List Commit}

theorem lineage_nil {n : Nat} {start : Option CommitId} (h : 0 < n → start = none) :
    s.Lineage n start [] where
  stored := nofun
  linked := .nil
  starts hn := (h hn).symm
  length_le := n.zero_le
  ends _ := nofun

/-- What follows a commit in its chain is the chain of its parent. -/
theorem lineage_cons {n : Nat} : s.Lineage (n + 1) (some id) (c :: cs)
    ↔ c.id = id ∧ s.commits.get? id = some c ∧ s.Lineage n c.parent cs := by
  constructor
  · intro h
    have hid : c.id = id := Option.some.inj (h.starts n.succ_pos)
    have hlength := h.length_le
    have hends := h.ends
    rw [List.length_cons] at hlength hends
    refine ⟨hid, hid ▸ h.stored c List.mem_cons_self,
      fun d hd => h.stored d (.tail c hd), h.linked.tail, fun hn => ?_, by omega,
      fun hlt d hd => ?_⟩
    · rcases cs with _ | ⟨d, cs⟩
      · exact (hends (Nat.succ_lt_succ hn) c rfl).symm
      · exact (List.isChain_cons_cons.1 h.linked).1.symm
    · refine hends (by omega) d ?_
      simp [List.getLast?_cons, Option.mem_def.1 hd]
  · rintro ⟨hid, hget, h⟩
    have hlength := h.length_le
    refine ⟨List.forall_mem_cons.2 ⟨hid ▸ hget, h.stored⟩, ?_, fun _ => congrArg some hid,
      Nat.succ_le_succ hlength, fun hlt => ?_⟩
    · rcases cs with _ | ⟨d, cs⟩
      · exact .singleton c
      · rw [List.length_cons] at hlength
        exact List.isChain_cons_cons.2 ⟨(h.starts (by omega)).symm, h.linked⟩
    · have hshort : cs.length < n := Nat.lt_of_succ_lt_succ hlt
      rcases cs with _ | ⟨d, cs⟩
      · intro e he
        cases he
        exact (h.starts hshort).symm
      · exact h.ends hshort

/-- No commit is missing on the way, so the chain is what following parents finds. -/
theorem lineage_iff (hwell : s.WellFormed) : ∀ {n : Nat} {start : Option CommitId}
    {cs : List Commit}, (∀ id ∈ start, id ∈ s.commits.keys) →
      (s.Lineage n start cs ↔ cs = s.historyFrom n start)
  | 0, start, cs, hstart => by
    constructor
    · exact fun h => List.eq_nil_of_length_eq_zero (Nat.le_zero.1 h.length_le)
    · rintro rfl
      exact lineage_nil nofun
  | n + 1, none, cs, hstart => by
    rw [historyFrom_none]
    constructor
    · intro h
      rcases cs with _ | ⟨c, cs⟩
      · rfl
      · cases h.starts n.succ_pos
    · rintro rfl
      exact lineage_nil fun _ => rfl
  | n + 1, some id, cs, hstart => by
    obtain ⟨c, hc⟩ := OrderedMap.mem_keys_iff.1 (hstart id rfl)
    have hsound := hwell.commits id c hc
    have ih {cs'} : s.Lineage n c.parent cs' ↔ cs' = s.historyFrom n c.parent :=
      lineage_iff hwell hsound.parent_mem
    rw [historyFrom_succ hc]
    constructor
    · intro h
      rcases cs with _ | ⟨d, cs⟩
      · cases h.starts n.succ_pos
      · obtain ⟨-, hd, htail⟩ := lineage_cons.1 h
        rw [hc, Option.some.injEq] at hd
        subst hd
        rw [ih.1 htail]
    · rintro rfl
      exact lineage_cons.2 ⟨hsound.id_eq, hc, ih.2 rfl⟩

/-- With a smaller number, less of the same chain is followed. -/
theorem take_historyFrom : ∀ {m n : Nat} (_ : m ≤ n) (start : Option CommitId),
    (s.historyFrom n start).take m = s.historyFrom m start
  | 0, n, _, start => List.take_zero
  | m + 1, n + 1, _, none => by rw [historyFrom_none, historyFrom_none, List.take_nil]
  | m + 1, n + 1, h, some id => by
    rcases hc : s.commits.get? id with _ | c
    · rw [historyFrom, historyFrom, hc, List.take_nil]
    · rw [historyFrom_succ hc, historyFrom_succ hc, List.take_succ_cons,
        take_historyFrom (Nat.le_of_succ_le_succ h)]

/-- Commits with the references that point at each. -/
def captioned (s : State) (cs : List Commit) : List (Commit × List String) :=
  cs.map fun c => (c, s.decorations c.id)

end State

/-! ## In the log and in the tree -/

namespace Repo

/-- A commit in the log, by its references. -/
def logLine (oneline : Bool) (c : Commit) (names : List String) : String :=
  let caption := c.id.text ++ if names.isEmpty then "" else " (" ++ joinWith ", " names ++ ")"
  if oneline then caption ++ " " ++ c.message
  else
    "commit " ++ caption ++ "\nAuthor: " ++ c.author ++ "\nDate:   " ++ gitDate c.timestamp
      ++ "\n\n    " ++ c.message

/-- The log of these commits. -/
def logOf (oneline : Bool) (shown : List (Commit × List String)) : Reply :=
  .printed (joinWith (if oneline then "\n" else "\n\n")
    (shown.map fun e => logLine oneline e.1 e.2))

theorem log_eq (r : Repo) (n : Nat) (oneline : Bool) :
    r.log n oneline = logOf oneline (r.state.captioned (r.state.history n)) := by
  rw [logOf, State.captioned, List.map_map]
  rfl

end Repo

namespace Panel

/-- A commit in the tree, by its references. -/
def treeRow (p : Palette) (c : Commit) (names : List String) : String :=
  p.muted "*" ++ " " ++ p.yellow c.id.text
    ++ (if names.isEmpty then "" else " " ++ p.green ("(" ++ joinWith ", " names ++ ")"))
    ++ " " ++ shortMessage c.message

/-- The tree of these commits, and the branches of the state. -/
def treeOf (p : Palette) (s : State) (shown : List (Commit × List String)) : String :=
  let rows := shown.map fun e => treeRow p e.1 e.2
  let branches := (sortedNames s.branches.keys).map fun n =>
    if n = s.head then p.green ("*" ++ n) else p.muted n
  p.header "Commit History" ++ "\n"
    ++ joinWith "\n" (if rows.isEmpty then [p.muted "No commits yet"] else rows)
    ++ "\n\nBranches: " ++ joinWith " " branches

theorem tree_eq (p : Palette) (s : State) (n : Nat) :
    tree p s n = treeOf p s (s.captioned (s.history n)) := by
  rw [treeOf, State.captioned, List.map_map]
  rfl

end Panel

/-- There is one list of the first `n` commits from the checked-out tip on; both layouts of the log
and the tree show these with the same references, and for a smaller number the first of them. -/
theorem Repo.log_lineage {r : Repo} (hwell : r.state.WellFormed) (n : Nat) :
    ∃ cs, r.state.Lineage n r.state.headTip? cs
      ∧ (∀ cs', r.state.Lineage n r.state.headTip? cs' → cs' = cs)
      ∧ (0 < n → cs ≠ [])
      ∧ (∀ oneline, r.log n oneline = logOf oneline (r.state.captioned cs))
      ∧ (∀ p, Panel.tree p r.state n = Panel.treeOf p r.state (r.state.captioned cs))
      ∧ ∀ m ≤ n, r.state.Lineage m r.state.headTip? (cs.take m)
        ∧ (∀ oneline, r.log m oneline = logOf oneline (r.state.captioned (cs.take m)))
        ∧ ∀ p, Panel.tree p r.state m = Panel.treeOf p r.state (r.state.captioned (cs.take m)) := by
  have hstart : ∀ id ∈ r.state.headTip?, id ∈ r.state.commits.keys :=
    fun _ htip => hwell.headTip?_mem htip
  have hiff {m cs} : r.state.Lineage m r.state.headTip? cs ↔ cs = r.state.history m :=
    State.lineage_iff hwell hstart
  refine ⟨r.state.history n, hiff.2 rfl, fun cs' => hiff.1, fun hn hnil => ?_, r.log_eq n,
    fun p => Panel.tree_eq p r.state n, fun m hm => ?_⟩
  · obtain ⟨tip, htip⟩ := hwell.exists_headTip?
    have hstarts := (hiff.2 hnil.symm).starts hn
    rw [htip] at hstarts
    cases hstarts
  · have htake : (r.state.history n).take m = r.state.history m := State.take_historyFrom hm _
    rw [htake]
    exact ⟨hiff.2 rfl, r.log_eq m, fun p => Panel.tree_eq p r.state m⟩

/-- The log of three commits, one of them made here, is asked for five. -/
theorem Repo.log_lineage_stackedHigher :
    let r := (fresh .default (.numbered 'c') pinnedTime).afterAll stackedHigher
    r.state.WellFormed
      ∧ (∃ cs, r.state.Lineage 5 r.state.headTip? cs
        ∧ cs.map (·.id.text) = ["c000002", "bbbbbbb", "aaaaaaa"]
        ∧ r.log 5 true = logOf true (r.state.captioned cs)
        ∧ Panel.tree .plain r.state 2
          = Panel.treeOf .plain r.state (r.state.captioned (cs.take 2)))
      ∧ r.log 2 true = .printed "c000002 (HEAD -> main) Third\nbbbbbbb Second" := by
  intro r
  have hwell : r.state.WellFormed :=
    wellFormed_afterAll (wellFormed_fresh .default (.numbered 'c') pinnedTime) stackedHigher
  obtain ⟨cs, hcs, -, -, hlog, -, hless⟩ := log_lineage hwell 5
  obtain ⟨-, -, htree⟩ := hless 2 (by decide)
  have hids : (r.state.history 5).map (·.id.text) = ["c000002", "bbbbbbb", "aaaaaaa"] := by
    decide +kernel
  have hhistory : cs = r.state.history 5 :=
    (State.lineage_iff hwell fun _ htip => hwell.headTip?_mem htip).1 hcs
  exact ⟨hwell, ⟨cs, hcs, hhistory ▸ hids, hlog true, htree .plain⟩, by decide +kernel⟩

end GitPractice
