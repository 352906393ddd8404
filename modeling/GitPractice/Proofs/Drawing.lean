import Mathlib.Data.Set.Card
import GitPractice.Proofs.Frame
import GitPractice.Proofs.WellFormed

/-!
# Drawing ids

Ids are drawn one after another until there is one that is not taken (`Fingerprints.Draws`), and
that is what `drawFresh` does (`drawFresh_eq_some_iff_draws`). By itself this need not end; it does
if there is a free id to come at all (`HasFree`), and then it ends with the first (`FirstFree`).

Numbered ids repeat, and they do so a second time out of turn where the 64-bit counter runs over,
since its size is no multiple of a million. But on either side of that place a million of them in a
row differ. So if fewer are taken, there is a free one to come (`exists_free_numbered`), and the
first there is will be drawn (`drawFresh_numbered`).

Whatever happens to a repository, the sequence stays the same and is only moved on in, so this
holds of every id that is handed out in a run (`Repo.ids_handed_out`).
-/

namespace GitPractice

namespace Fingerprints

variable {f : Fingerprints} {taken : List String} {out : String × Fingerprints}

/-! ## Until one is free -/

/-- The id that is met when ids are drawn until one is not taken, and what is left of them then. -/
inductive Draws (taken : List String) : Fingerprints → String × Fingerprints → Prop where
  | met {f : Fingerprints} (hfree : f.current ∉ taken) : Draws taken f (f.current, f.next)
  | again {f : Fingerprints} {out : String × Fingerprints} (htaken : f.current ∈ taken)
      (hrest : Draws taken f.next out) : Draws taken f out

theorem pick_next (f : Fingerprints) (k : Nat) : f.next.pick k = f.pick (k + 1) := by
  have hplace : f.drawn + 1 + k = f.drawn + (k + 1) := by omega
  simp only [pick, next, hplace]

theorem FirstFree.next {k : Nat} (h : f.FirstFree taken (k + 1)) : f.next.FirstFree taken k := by
  have hplace (j : Nat) : f.drawn + 1 + j = f.drawn + (j + 1) := by omega
  constructor
  · rw [Fingerprints.next, hplace]
    exact h.free
  · intro j hj
    rw [Fingerprints.next, hplace]
    exact h.before (j + 1) (by omega)

theorem FirstFree.draws : ∀ {k : Nat} {f : Fingerprints}, f.FirstFree taken k →
    Draws taken f (f.pick k)
  | 0, f, h => .met h.free
  | k + 1, f, h => by
    refine .again (h.before 0 (by omega)) ?_
    rw [← pick_next]
    exact draws h.next

theorem Draws.firstFree (h : Draws taken f out) : ∃ k, f.FirstFree taken k ∧ f.pick k = out := by
  induction h with
  | met hfree => exact ⟨0, ⟨hfree, fun _ h => absurd h (Nat.not_lt_zero _)⟩, rfl⟩
  | @again f out htaken hrest ih =>
    obtain ⟨k, hk, rfl⟩ := ih
    have hplace (j : Nat) : f.drawn + 1 + j = f.drawn + (j + 1) := by omega
    refine ⟨k + 1, ⟨hplace k ▸ hk.free, fun j hj => ?_⟩, (pick_next f k).symm⟩
    rcases j with _ | j
    · exact htaken
    · exact hplace j ▸ hk.before j (by omega)

/-- What is drawn is met in the end, and what is met in the end is drawn. -/
theorem drawFresh_eq_some_iff_draws : drawFresh taken f = some out ↔ Draws taken f out := by
  rw [drawFresh_eq_some_iff]
  constructor
  · rintro ⟨k, hfirst, rfl⟩
    exact hfirst.draws
  · exact Draws.firstFree

theorem FirstFree.drawFresh_eq {k : Nat} (h : f.FirstFree taken k) :
    drawFresh taken f = some (f.pick k) := drawFresh_eq_some_iff.2 ⟨k, h, rfl⟩

theorem exists_firstFree {k : Nat} (h : f.sequence (f.drawn + k) ∉ taken) :
    ∃ j ≤ k, f.FirstFree taken j := by
  classical
  have hfree : ∃ j, f.sequence (f.drawn + j) ∉ taken := ⟨k, h⟩
  refine ⟨Nat.find hfree, Nat.find_min' hfree h, Nat.find_spec hfree, fun j hj => ?_⟩
  exact not_not.1 (Nat.find_min hfree hj)

/-- There is an id to come that is not taken. -/
def HasFree (f : Fingerprints) (taken : List String) : Prop :=
  ∃ k, f.sequence (f.drawn + k) ∉ taken

/-- The search ends exactly if there is something to be found. -/
theorem isSome_drawFresh_iff : (drawFresh taken f).isSome ↔ f.HasFree taken := by
  rw [Option.isSome_iff_exists]
  constructor
  · rintro ⟨out, h⟩
    obtain ⟨k, hfirst, -⟩ := drawFresh_eq_some_iff.1 h
    exact ⟨k, hfirst.free⟩
  · rintro ⟨k, hk⟩
    obtain ⟨j, -, hfirst⟩ := exists_firstFree hk
    exact ⟨_, hfirst.drawFresh_eq⟩

/-! ## Ids that are taken -/

/-- The taken ones among the ids that the sequence can give. -/
def spent (f : Fingerprints) (taken : List String) : Set String :=
  {id | id ∈ taken ∧ ∃ n, f.sequence n = id}

theorem finite_spent : (f.spent taken).Finite :=
  (List.finite_toSet taken).subset fun _ h => h.1

theorem ncard_spent_le : (f.spent taken).ncard ≤ taken.length := by
  classical
  calc (f.spent taken).ncard ≤ (taken.toFinset : Set String).ncard := by
        refine Set.ncard_le_ncard (fun id h => ?_) (Finset.finite_toSet _)
        exact List.mem_toFinset.2 h.1
    _ = taken.toFinset.card := Set.ncard_coe_finset _
    _ ≤ taken.length := List.toFinset_card_le taken

/-- Among more different ids in a row than are taken there is a free one. -/
theorem exists_free_of_differ {m : Nat}
    (hdiffer : ∀ i ≤ (f.spent taken).ncard, ∀ j ≤ (f.spent taken).ncard,
      f.sequence (m + i) = f.sequence (m + j) → i = j) :
    ∃ i ≤ (f.spent taken).ncard, f.sequence (m + i) ∉ taken := by
  by_contra hnone
  push Not at hnone
  have hspent : ∀ i < (f.spent taken).ncard + 1, f.sequence (m + i) ∈ f.spent taken :=
    fun i hi => ⟨hnone i (by omega), m + i, rfl⟩
  have hle := Set.le_ncard_of_inj_on_range _ hspent
    (fun i hi j hj => hdiffer i (by omega) j (by omega)) finite_spent
  omega

/-! ## Numbered ids -/

theorem isFingerprintChar_leadOf (lead : Char) : isFingerprintChar (leadOf lead) = true := by
  unfold leadOf
  split_ifs with h
  · exact h
  · decide

theorem toList_numbered (lead : Char) (n : Nat) :
    ((numbered lead).sequence n).toList
      = leadOf lead :: (Text.padded 6 ((n + 1) % UInt64.size % 1000000)).toList := by
  simp [numbered]

theorem isFingerprint_numbered (lead : Char) (n : Nat) :
    isFingerprint ((numbered lead).sequence n) = true := by
  have hlength : (Text.padded 6 ((n + 1) % UInt64.size % 1000000)).toList.length = 6 :=
    Text.length_padded (by decide) (Nat.mod_lt _ (by decide))
  have hdigits : ∀ c ∈ (Text.padded 6 ((n + 1) % UInt64.size % 1000000)).toList,
      isFingerprintChar c = true := by
    intro c hc
    rw [isFingerprintChar, Text.isDigit_of_mem_padded hc, Bool.or_true]
  rw [isFingerprint, toList_numbered, List.length_cons, hlength, List.all_cons,
    isFingerprintChar_leadOf, List.all_eq_true.2 hdigits]
  rfl

/-- Two numbered ids are the same only if their six digits are. -/
theorem mod_eq_of_numbered_eq {lead : Char} {m n : Nat}
    (h : (numbered lead).sequence m = (numbered lead).sequence n) :
    (m + 1) % UInt64.size % 1000000 = (n + 1) % UInt64.size % 1000000 := by
  have htext := congrArg String.toList h
  rw [toList_numbered, toList_numbered, List.cons.injEq] at htext
  have hvalue := congrArg Text.digitsValue htext.2
  rwa [Text.digitsValue_padded, Text.digitsValue_padded] at hvalue

/-- The ids are numbered with this lead, wherever the counter stands. -/
def NumberedBy (f : Fingerprints) (lead : Char) : Prop := f.sequence = (numbered lead).sequence

section Numbered

variable {lead : Char} (hf : f.NumberedBy lead)

include hf

/-- Up to the place where the counter runs over, a million ids in a row differ. -/
theorem differ_of_numbered {m t : Nat} (ht : t < 1000000)
    (hover : (m + 1) % UInt64.size + t < UInt64.size) {i j : Nat} (hi : i ≤ t) (hj : j ≤ t)
    (h : f.sequence (m + i) = f.sequence (m + j)) : i = j := by
  rw [hf] at h
  have hmod := mod_eq_of_numbered_eq h
  have hplace : ∀ k ≤ t, (m + k + 1) % UInt64.size = (m + 1) % UInt64.size + k := by
    intro k hk
    rw [Nat.add_right_comm, Nat.add_mod, Nat.mod_eq_of_lt (a := k) (by omega)]
    exact Nat.mod_eq_of_lt (by omega)
  rw [hplace i hi, hplace j hj] at hmod
  omega

omit hf in
/-- If the counter runs over too soon, the ids are looked at from there on. -/
theorem exists_gap (n : Nat) {t : Nat} (ht : t < 1000000) :
    ∃ gap ≤ t, (n + gap + 1) % UInt64.size + t < UInt64.size := by
  by_cases hover : (n + 1) % UInt64.size + t < UInt64.size
  · exact ⟨0, Nat.zero_le t, hover⟩
  · refine ⟨UInt64.size - (n + 1) % UInt64.size, by omega, ?_⟩
    unfold UInt64.size
    omega

theorem exists_free_numbered (hroom : (f.spent taken).ncard < 1000000) :
    ∃ k ≤ 2 * (f.spent taken).ncard, f.sequence (f.drawn + k) ∉ taken := by
  obtain ⟨gap, hgap, hover⟩ := exists_gap f.drawn hroom
  have hdiffer : ∀ i ≤ (f.spent taken).ncard, ∀ j ≤ (f.spent taken).ncard,
      f.sequence (f.drawn + gap + i) = f.sequence (f.drawn + gap + j) → i = j :=
    fun i hi j hj => differ_of_numbered hf hroom hover hi hj
  obtain ⟨k, hk, hfree⟩ := exists_free_of_differ hdiffer
  rw [Nat.add_assoc] at hfree
  exact ⟨gap + k, by omega, hfree⟩

theorem drawFresh_numbered (hroom : (f.spent taken).ncard < 1000000) :
    ∃ k, f.FirstFree taken k ∧ drawFresh taken f = some (f.pick k) := by
  obtain ⟨i, -, hfree⟩ := exists_free_numbered hf hroom
  obtain ⟨k, -, hfirst⟩ := exists_firstFree hfree
  exact ⟨k, hfirst, hfirst.drawFresh_eq⟩

theorem isFingerprint_pick (k : Nat) : isFingerprint (f.pick k).1 = true := by
  rw [pick, hf]
  exact isFingerprint_numbered lead _

end Numbered

theorem Draws.sequence_eq (h : Draws taken f out) : out.2.sequence = f.sequence := by
  induction h with
  | met hfree => rfl
  | again htaken hrest ih => exact ih

/-- The sequence is only moved on in. -/
theorem drawFresh_sequence (h : drawFresh taken f = some out) : out.2.sequence = f.sequence :=
  (drawFresh_eq_some_iff_draws.1 h).sequence_eq

end Fingerprints

/-! ## Ids that a repository hands out -/

/-- Whoever else draws ids has them from the same sequence. -/
def Event.Shares (lead : Char) : Event → Prop
  | .movedOn ids _ => ids.NumberedBy lead
  | _ => True

namespace Repo

/-- There is an id to come that no commit has. -/
def HasFreeId (r : Repo) : Prop := r.ids.HasFree r.state.commitIds

theorem isSome_nextDraw_iff {r : Repo} : r.nextDraw.isSome ↔ r.HasFreeId :=
  Fingerprints.isSome_drawFresh_iff

theorem nextDraw_eq_none_iff {r : Repo} : r.nextDraw = none ↔ ¬ r.HasFreeId := by
  rw [← isSome_nextDraw_iff, Option.not_isSome_iff_eq_none]

theorem hasFreeId_of_nextDraw {r : Repo} {drawn : String × Fingerprints}
    (h : r.nextDraw = some drawn) : r.HasFreeId := isSome_nextDraw_iff.1 (h ▸ rfl)

/-- Every operation returns while there is an id for a commit. -/
theorem perform_ne_none {r : Repo} (h : r.HasFreeId) (op : Operation) :
    (r.perform op).2 ≠ none := by
  rcases r.perform_cases op with ⟨e, hrefused⟩ | ⟨-, hsuccess⟩ | ⟨-, hnone, -⟩
  · rw [hrefused]
    exact Option.some_ne_none _
  · intro hnone
    rw [hnone] at hsuccess
    cases hsuccess
  · exact absurd h (nextDraw_eq_none_iff.1 hnone)

/-- Of the ids that can be drawn fewer than a million are those of commits. -/
def HasRoom (r : Repo) : Prop := (r.ids.spent r.state.commitIds).ncard < 1000000

/-- No id has been drawn, or one has been drawn for a commit that has come to the end. -/
inductive Drew (r r' : Repo) : Prop where
  | nothing (hids : r'.ids = r.ids) (hcommits : r'.state.commits = r.state.commits)
  | id (c : Commit) (hdraws : Fingerprints.Draws r.state.commitIds r.ids (c.id.text, r'.ids))
      (hnew : c.id ∉ r.state.commits.keys) (hshape : isFingerprint c.id.text = true)
      (hcommits : r'.state.commits.entries = r.state.commits.entries ++ [(c.id, c)])

variable {r r' s s' : Repo} {lead : Char}

theorem Drew.of_eq (h : r.Drew r') (hids : s.ids = r.ids)
    (hcommits : s.state.commits = r.state.commits) (hids' : s'.ids = r'.ids)
    (hcommits' : s'.state.commits = r'.state.commits) : s.Drew s' := by
  cases h with
  | nothing h h' => exact .nothing (by rw [hids', hids, h]) (by rw [hcommits', hcommits, h'])
  | id c hdraws hnew hshape h =>
    refine .id c ?_ (by rwa [hcommits]) hshape (by rw [hcommits', hcommits, h])
    rwa [State.commitIds, hcommits, hids, hids']

theorem HasRoom.hasFreeId (hf : r.ids.NumberedBy lead) (hroom : r.HasRoom) : r.HasFreeId := by
  obtain ⟨k, -, hfree⟩ := Fingerprints.exists_free_numbered hf hroom
  exact ⟨k, hfree⟩

theorem drew_commitAs (hf : r.ids.NumberedBy lead) (hroom : r.HasRoom)
    {drawn : String × Fingerprints} (hdrawn : r.nextDraw = some drawn) (message : String)
    (parent : CommitId) (files : List String) :
    r.Drew (r.commitAs drawn message parent files) := by
  have hshape : isFingerprint drawn.1 = true := by
    obtain ⟨k, -, hpick⟩ := Fingerprints.drawFresh_numbered hf hroom
    rw [← Option.some.inj (hpick.symm.trans hdrawn)]
    exact Fingerprints.isFingerprint_pick hf k
  exact .id (r.commitFor drawn message (some parent) files)
    (Fingerprints.drawFresh_eq_some_iff_draws.1 hdrawn) (drawn_notMem hdrawn) hshape
    (OrderedMap.entries_insert_of_notMem (drawn_notMem hdrawn))

theorem drew_effect {op : Operation} (hf : r.ids.NumberedBy lead) (hroom : r.HasRoom)
    (heffect : r.Effect op r') : r.Drew r' := by
  have hwithin := within_effect heffect
  cases heffect with
  | @commit _ all _ drawn hmessage hparent hfiles hdrawn =>
    have hcommits : (r.emptied all).state.commits = r.state.commits := r.state.indexed_commits all
    have hroom' : (r.emptied all).HasRoom := by
      rwa [HasRoom, State.commitIds, hcommits]
    have hdraw : (r.emptied all).nextDraw = some drawn := (r.nextDraw_emptied all).trans hdrawn
    exact (drew_commitAs (r := r.emptied all) hf hroom' hdraw _ _ _).of_eq rfl hcommits.symm rfl
      rfl
  | merge hsource hparent hdrawn => exact drew_commitAs hf hroom hdrawn _ _ _
  | @mergePull number _ p source target drawn hopen hsource htarget hdrawn =>
    have hdraw : (r.onBranch p.target).nextDraw = some drawn := hdrawn
    exact (drew_commitAs (r := r.onBranch p.target) hf hroom hdraw _ _ _).of_eq rfl rfl rfl rfl
  | _ => exact .nothing rfl (hwithin .commits (by simp [Operation.reach]))

theorem sequence_effect {op : Operation} (heffect : r.Effect op r') :
    r'.ids.sequence = r.ids.sequence := by
  cases heffect with
  | commit hmessage hparent hfiles hdrawn => exact Fingerprints.drawFresh_sequence hdrawn
  | merge hsource hparent hdrawn => exact Fingerprints.drawFresh_sequence hdrawn
  | mergePull hopen hsource htarget hdrawn => exact Fingerprints.drawFresh_sequence hdrawn
  | _ => rfl

/-- An id that is looked for and not found has not been drawn. -/
theorem ids_waits {op : Operation} (hwaits : r.Waits op r') : r'.ids = r.ids := by
  cases hwaits with
  | _ => rfl

theorem numberedBy_after (hf : r.ids.NumberedBy lead) {e : Event} (he : e.Shares lead) :
    (r.after e).ids.NumberedBy lead := by
  have hhappens := r.happens_after e
  generalize r.after e = r' at hhappens
  cases hhappens with
  | performed heffect hsuccess => exact (sequence_effect heffect).trans hf
  | heldUp hwaits hnone => exact (congrArg Fingerprints.sequence (ids_waits hwaits)).trans hf
  | movedOn ids now => exact he
  | _ => exact hf

theorem numberedBy_afterAll {events : List Event} (hf : r.ids.NumberedBy lead)
    (he : ∀ e ∈ events, e.Shares lead) : (r.afterAll events).ids.NumberedBy lead :=
  invariant_afterAll_of (P := fun r => r.ids.NumberedBy lead)
    (fun _ _ he hf => numberedBy_after hf he) he hf

/-- With room for another numbered id, drawing ends, and what it ends with is the first id to come
that no commit has. So ids have the right shape and are new whenever they are handed out, from the
first commit of a repository on. -/
theorem ids_handed_out (lead : Char) :
    (∀ r : Repo, r.ids.NumberedBy lead → r.HasRoom →
      (∀ out, Fingerprints.Draws r.state.commitIds r.ids out
        ↔ r.ids.drawFresh r.state.commitIds = some out)
      ∧ ∃ k, r.ids.FirstFree r.state.commitIds k
        ∧ r.ids.drawFresh r.state.commitIds = some (r.ids.pick k)
        ∧ isFingerprint (r.ids.pick k).1 = true)
    ∧ ∀ (config : RepoConfig) (ids : Fingerprints) (now : UInt64), ids.NumberedBy lead →
      ((fresh config ids now).state.commits.keys = [⟨ids.current⟩]
        ∧ (fresh config ids now).ids = ids.next ∧ isFingerprint ids.current = true)
      ∧ ∀ (events : List Event) (op : Operation), (∀ e ∈ events, e.Shares lead) →
        let r := (fresh config ids now).afterAll events
        r.HasRoom → r.Drew (r.perform op).1 := by
  refine ⟨fun r hf hroom => ?_, fun config ids now hf => ⟨⟨rfl, rfl, ?_⟩, ?_⟩⟩
  · obtain ⟨k, hfirst, hpick⟩ := Fingerprints.drawFresh_numbered hf hroom
    exact ⟨fun _ => Fingerprints.drawFresh_eq_some_iff_draws.symm, k, hfirst, hpick,
      Fingerprints.isFingerprint_pick hf k⟩
  · exact Fingerprints.isFingerprint_pick hf 0
  · intro events op hshares r hroom
    have hf' : r.ids.NumberedBy lead := numberedBy_afterAll (r := fresh config ids now) hf hshares
    rcases r.perform_cases op with hrefused | ⟨heffect, -⟩ | ⟨hwaits, hnone, -⟩
    · rw [hrefused.repo_eq]
      exact .nothing rfl rfl
    · exact drew_effect hf' hroom heffect
    · exact absurd (hroom.hasFreeId hf') (nextDraw_eq_none_iff.1 hnone)

end Repo

/-- A snapshot that has the last id before the counter runs over, and the first after it. -/
def Snapshot.around : Snapshot where
  commits := .ofList [("c551615", ⟨"", "Before", none, [], none, none⟩),
    ("c000000", ⟨"", "After", some "c551615", [], none, none⟩)]
  branches := .ofList [("main", ⟨"", "c000000", none⟩)]
  remoteBranches := .empty
  head := "main"
  staged := []
  working := []

namespace Repo

/-- The ids of a counter that is about to run over. -/
def lastIds : Fingerprints := { Fingerprints.numbered 'c' with drawn := UInt64.size - 3 }

def runningOver : Repo :=
  (fresh .default lastIds pinnedTime).afterAll [.imported .around, .edited "notes.md"]

theorem ids_handed_out_runningOver :
    runningOver.HasRoom
      ∧ (runningOver.ids.drawFresh runningOver.state.commitIds).map Prod.fst = some "c000001"
      ∧ (∃ k, runningOver.ids.FirstFree runningOver.state.commitIds k
        ∧ runningOver.ids.drawFresh runningOver.state.commitIds = some (runningOver.ids.pick k)
        ∧ isFingerprint (runningOver.ids.pick k).1 = true)
      ∧ runningOver.Drew (runningOver.perform (.commit "Work" true)).1
      ∧ (runningOver.perform (.commit "Work" true)).1.state.commitIds
        = ["c551615", "c000000", "c000001"] := by
  have hnumbered : runningOver.ids.NumberedBy 'c' := rfl
  have hroom : runningOver.HasRoom := by
    have hlength : runningOver.state.commitIds.length = 2 := by decide +kernel
    have hle : (runningOver.ids.spent runningOver.state.commitIds).ncard ≤ _ :=
      Fingerprints.ncard_spent_le
    unfold HasRoom
    omega
  obtain ⟨hdraws, hruns⟩ := ids_handed_out 'c'
  obtain ⟨-, hfirst⟩ := hdraws runningOver hnumbered hroom
  obtain ⟨-, hdrew⟩ := hruns .default lastIds pinnedTime rfl
  refine ⟨hroom, by decide +kernel, hfirst, hdrew _ _ ?_ hroom, by decide +kernel⟩
  simp [Event.Shares]

end Repo

end GitPractice
