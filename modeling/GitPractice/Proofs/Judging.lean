import Mathlib.Logic.Relation
import GitPractice.Proofs.Answer

/-!
# When two commands are the same

Commands are compared in a normal form: their words in lower case, with one space between any two.
A space is neither a letter nor passed over in looking for one, so no letter is put into lower case
by what stands in another word, and no character becomes a space. The words of the normal form are
therefore the words of the line, each in lower case (`spacedWords_form`).

Two commands match if their normal forms agree but for the style of quotes, or if both are git lines
with the same words. This is an equivalence (`commandsMatch_equivalence`), under which blank space,
the style of quotes, and the order and number of the words behind `git` do not count, and no git
line is like one that is none.
-/

namespace GitPractice

open Shell (Blanks)

namespace Text

/-! ## Words -/

theorem piecesAt_eq_splitOn (sep : Char) (cs : List Char) : piecesAt sep cs = cs.splitOn sep := by
  rw [List.splitOn_eq_splitOnP]
  induction cs with
  | nil => rfl
  | cons c cs ih =>
    rw [List.splitOnP_cons_eq_if_modifyHead, piecesAt, ih]
    simp only [beq_iff_eq]
    split_ifs with hc
    · rfl
    · rcases hpieces : cs.splitOnP (· == sep) with _ | ⟨p, ps⟩
      · exact absurd hpieces (List.splitOnP_ne_nil _ cs)
      · rfl

theorem toList_joinWith (ws : List String) :
    (joinWith " " ws).toList = [' '].intercalate (ws.map String.toList) := by
  fun_induction joinWith " " ws with
  | case1 => rfl
  | case2 s => simp
  | case3 s t r ih =>
    rw [List.map_cons, List.map_cons, List.intercalate_cons_cons, ← List.map_cons, ← ih]
    simp

theorem wordsOf_cons_ne_nil {c : Char} (h : ¬ isBlank c = true) (cs : List Char) :
    wordsOf (c :: cs) ≠ [] := by
  rcases cs with _ | ⟨d, cs⟩
  · simp [wordsOf, h]
  · rw [wordsOf_cons_cons h]
    split_ifs
    · exact List.cons_ne_nil _ _
    · split <;> exact List.cons_ne_nil _ _

/-- A blank character ends one word and lets another begin. -/
theorem wordsOf_append_blank {gap : Char} (hgap : isBlank gap = true) (cs rest : List Char) :
    wordsOf (cs ++ gap :: rest) = wordsOf cs ++ wordsOf rest := by
  fun_induction wordsOf cs with
  | case1 => rw [List.nil_append, wordsOf_of_blank hgap, List.nil_append]
  | case2 c r hc ih => rw [List.cons_append, wordsOf_of_blank hc, ih]
  | case3 c hc =>
    rw [List.singleton_append, wordsOf_cons_cons hc, if_pos hgap, wordsOf_of_blank hgap]
    rfl
  | case4 c hc d r hd ih =>
    rw [List.cons_append, List.cons_append, wordsOf_cons_cons hc, if_pos hd, ← List.cons_append,
      ih]
    rfl
  | case5 c hc d r hd hr ih => exact absurd hr (wordsOf_cons_ne_nil hd r)
  | case6 c hc d r hd w ws hr ih =>
    rw [List.cons_append, List.cons_append, wordsOf_cons_cons hc, if_neg hd, ← List.cons_append,
      ih, hr]
    rfl

theorem wordsOf_append_gap {gap : List Char} (hgap : Blanks gap) (hne : gap ≠ [])
    (cs rest : List Char) : wordsOf (cs ++ gap ++ rest) = wordsOf cs ++ wordsOf rest := by
  obtain ⟨c, gap, rfl⟩ := List.exists_cons_of_ne_nil hne
  obtain ⟨hc, hgap⟩ := List.forall_mem_cons.1 hgap
  rw [List.append_assoc, List.cons_append, wordsOf_append_blank hc, wordsOf_blanks_append hgap]

/-! ## Lower case -/

theorem startsCased_append_space (cs far : List Char) :
    startsCased (cs ++ ' ' :: far) = startsCased cs := by
  induction cs with
  | nil =>
    have hignorable : isCaseIgnorable ' ' = false := by decide +kernel
    have hcased : isCased ' ' = false := by decide +kernel
    simp [startsCased, hignorable, hcased]
  | cons c cs ih =>
    simp only [startsCased, List.cons_append, List.dropWhile_cons] at ih ⊢
    split_ifs
    · exact ih
    · rfl

theorem lowerAt_before_space (before far : List Char) (c : Char) (after : List Char) :
    lowerAt (before ++ ' ' :: far) c after = lowerAt before c after := by
  rw [lowerAt, isFinalSigma, startsCased_append_space]
  rfl

theorem lowerAt_append_space (before : List Char) (c : Char) (after rest : List Char) :
    lowerAt before c (after ++ ' ' :: rest) = lowerAt before c after := by
  rw [lowerAt, isFinalSigma, startsCased_append_space]
  rfl

theorem lowerFrom_before_space (cs before far : List Char) :
    lowerFrom (before ++ ' ' :: far) cs = lowerFrom before cs := by
  induction cs generalizing before with
  | nil => rfl
  | cons c cs ih =>
    rw [lowerFrom_cons, lowerFrom_cons, lowerAt_before_space, ← List.cons_append, ih]

theorem lowerFrom_append_space (cs before rest : List Char) :
    lowerFrom before (cs ++ ' ' :: rest) = lowerFrom before cs ++ ' ' :: lowerChars rest := by
  induction cs generalizing before with
  | nil =>
    have hspace : lowerAt before ' ' rest = [' '] := by
      have hlower : lowerChar ' ' = ' ' := by decide
      simp [lowerAt, hlower]
    rw [List.nil_append, lowerFrom_cons, hspace, lowerChars]
    exact congrArg (' ' :: ·) (lowerFrom_before_space rest [] before)
  | cons c cs ih =>
    rw [List.cons_append, lowerFrom_cons, lowerFrom_cons, lowerAt_append_space, ih,
      List.append_assoc]

/-- What stands in one word does not matter for the lower case of another. -/
theorem lowerChars_intercalate (ws : List (List Char)) :
    lowerChars ([' '].intercalate ws) = [' '].intercalate (ws.map lowerChars) := by
  induction ws with
  | nil => rfl
  | cons w ws ih =>
    rcases ws with _ | ⟨v, ws⟩
    · simp
    · rw [List.map_cons, List.map_cons, List.intercalate_cons_cons, List.intercalate_cons_cons,
        ← List.map_cons, ← ih, List.append_assoc, List.append_assoc, List.singleton_append,
        lowerChars, lowerFrom_append_space]
      rfl

/-- Every run of the case table leads beyond the space. -/
theorem lowerCode_ne_space {n : Nat} (h : n ≠ 0x20) : lowerCode n ≠ 0x20 := by
  have hruns : ∀ r ∈ lowerRuns, 0x20 < r.first + r.shift := by decide +kernel
  unfold lowerCode
  split
  · rename_i r hfind
    have hrun := hruns r (List.mem_of_find?_eq_some hfind)
    have hcontains := List.find?_some hfind
    simp only [CaseRun.contains, Bool.and_eq_true, decide_eq_true_eq] at hcontains
    rw [CaseRun.image]
    omega
  · exact h

theorem ofNat_ne_space {n : Nat} (h : n ≠ 0x20) : Char.ofNat n ≠ ' ' := by
  intro heq
  by_cases hn : n.isValidChar
  · rw [Char.ofNat, dif_pos hn] at heq
    exact h (congrArg Char.toNat heq)
  · rw [Char.ofNat, dif_neg hn] at heq
    cases heq

theorem lowerChar_ne_space {c : Char} (h : c ≠ ' ') : lowerChar c ≠ ' ' := by
  have hcode : c.toNat ≠ 0x20 := fun heq => h (Char.toNat_inj.1 heq)
  rw [lowerChar]
  split_ifs with hascii
  · exact forall_ascii (P := fun c => c ≠ ' ' → c.toLower ≠ ' ') (by decide) hascii h
  · exact ofNat_ne_space (lowerCode_ne_space hcode)

theorem space_notMem_lowerFrom {cs : List Char} (h : ' ' ∉ cs) (before : List Char) :
    ' ' ∉ lowerFrom before cs := by
  induction cs generalizing before with
  | nil => exact List.not_mem_nil
  | cons c cs ih =>
    rw [List.mem_cons, not_or] at h
    rw [lowerFrom_cons, List.mem_append, not_or]
    refine ⟨?_, ih h.2 _⟩
    rw [lowerAt]
    split_ifs
    · decide
    · decide
    · decide
    · simpa using (lowerChar_ne_space (Ne.symm h.1)).symm

/-- Without a capital sigma, each character has a lower-case form of its own. -/
def lowerPlain (c : Char) : List Char := if c = 'İ' then ['i', Char.ofNat 0x307] else [lowerChar c]

theorem lowerFrom_of_notMem {cs : List Char} (h : 'Σ' ∉ cs) (before : List Char) :
    lowerFrom before cs = cs.flatMap lowerPlain := by
  induction cs generalizing before with
  | nil => rfl
  | cons c cs ih =>
    rw [List.mem_cons, not_or] at h
    rw [lowerFrom_cons, lowerAt, if_neg (Ne.symm h.1), ih h.2, List.flatMap_cons, lowerPlain]

end Text

namespace Lesson

open Text

/-! ## Comparing normal forms -/

/-- A single quote as a double one. -/
def doubled (c : Char) : Char := if c = '\'' then '"' else c

/-- The normal form of a line, with double quotes only. -/
def form (s : String) : String := unifyQuotes (normalizeCommand s)

/-- A word as it stands in the form of its line. -/
def formOf (w : List Char) : List Char := (lowerChars w).map doubled

theorem doubled_eq_iff {c d : Char} (hd : d ≠ '"') (hd' : d ≠ '\'') : doubled c = d ↔ c = d := by
  unfold doubled
  split_ifs with hc
  · exact ⟨fun h => absurd h.symm hd, fun h => absurd (h.symm.trans hc) hd'⟩
  · rfl

theorem isBlank_doubled (c : Char) : isBlank (doubled c) = isBlank c := by
  unfold doubled
  split_ifs with hc
  · rw [hc]
    decide
  · rfl

theorem toList_unifyQuotes (s : String) : (unifyQuotes s).toList = s.toList.map doubled := by
  rw [unifyQuotes, String.toList_map]
  rfl

theorem sameWords_iff {s t : String} :
    sameWords s t = true ↔ ∀ w, w ∈ spacedWords s ↔ w ∈ spacedWords t := by
  simp only [sameWords, Bool.and_eq_true, List.all_eq_true, List.contains_iff_mem]
  exact ⟨fun h w => ⟨h.1 w, h.2 w⟩, fun h => ⟨fun w => (h w).1, fun w => (h w).2⟩⟩

theorem commandsMatch_iff {s t : String} : commandsMatch s t = true ↔ form s = form t
    ∨ (isGitLine (form s) = true ∧ isGitLine (form t) = true)
      ∧ ∀ w, w ∈ spacedWords (form s) ↔ w ∈ spacedWords (form t) := by
  have hnormal (h : normalizeCommand s = normalizeCommand t) : form s = form t :=
    congrArg unifyQuotes h
  simp only [commandsMatch, Bool.or_eq_true, Bool.and_eq_true, beq_iff_eq, sameWords_iff]
  constructor
  · rintro ((h | h) | h)
    · exact .inl (hnormal h)
    · exact .inl h
    · exact .inr h
  · rintro (h | h)
    · exact .inl (.inr h)
    · exact .inr h

theorem commandsMatch_symm {s t : String} (h : commandsMatch s t = true) :
    commandsMatch t s = true := by
  rw [commandsMatch_iff] at h ⊢
  rcases h with h | ⟨⟨hs, ht⟩, hwords⟩
  · exact .inl h.symm
  · exact .inr ⟨⟨ht, hs⟩, fun w => (hwords w).symm⟩

theorem commandsMatch_trans {s t u : String} (h : commandsMatch s t = true)
    (h' : commandsMatch t u = true) : commandsMatch s u = true := by
  rw [commandsMatch_iff] at h h' ⊢
  rcases h with h | ⟨⟨hs, ht⟩, hwords⟩
  · rw [h]
    exact h'
  · rcases h' with h' | ⟨⟨-, hu⟩, hwords'⟩
    · rw [← h']
      exact .inr ⟨⟨hs, ht⟩, hwords⟩
    · exact .inr ⟨⟨hs, hu⟩, fun w => (hwords w).trans (hwords' w)⟩

theorem commandsMatch_congr {s s' t t' : String} (hs : commandsMatch s s' = true)
    (ht : commandsMatch t t' = true) : commandsMatch s t = commandsMatch s' t' := by
  rw [Bool.eq_iff_iff]
  constructor
  · exact fun h => commandsMatch_trans (commandsMatch_symm hs) (commandsMatch_trans h ht)
  · exact fun h => commandsMatch_trans hs (commandsMatch_trans h (commandsMatch_symm ht))

/-! ## The words of a form -/

theorem toList_form (s : String) :
    (form s).toList = [' '].intercalate ((wordsOf s.toList).map formOf) := by
  have hdoubled (ws : List (List Char)) :
      ([' '].intercalate ws).map doubled = [' '].intercalate (ws.map (List.map doubled)) := by
    induction ws with
    | nil => rfl
    | cons w ws ih =>
      rcases ws with _ | ⟨v, ws⟩
      · simp
      · rw [List.map_cons, List.map_cons, List.intercalate_cons_cons,
          List.intercalate_cons_cons, ← List.map_cons, ← ih]
        simp [doubled]
  rw [form, toList_unifyQuotes, normalizeCommand, lower, String.toList_ofList, toList_joinWith,
    words, List.map_map, lowerChars_intercalate, hdoubled, List.map_map, List.map_map]
  congr 1
  refine List.map_congr_left fun w _ => ?_
  simp [formOf]

theorem space_notMem_formOf {w : List Char} (h : ∀ c ∈ w, isBlank c = false) : ' ' ∉ formOf w := by
  have hw : ' ' ∉ w := fun hmem => by
    have hblank : isBlank ' ' = true := by decide
    rw [h ' ' hmem] at hblank
    cases hblank
  intro hmem
  obtain ⟨c, hc, heq⟩ := List.mem_map.1 hmem
  rw [doubled_eq_iff (by decide) (by decide)] at heq
  exact space_notMem_lowerFrom hw [] (heq ▸ hc)

theorem spacedWords_form {s : String} (h : wordsOf s.toList ≠ []) :
    spacedWords (form s) = (wordsOf s.toList).map formOf := by
  rw [spacedWords, piecesAt_eq_splitOn, toList_form]
  refine List.splitOn_intercalate ' ' (fun w hw => ?_) (by simpa using h)
  obtain ⟨v, hv, rfl⟩ := List.mem_map.1 hw
  exact space_notMem_formOf (wordsOf_not_blank _ v hv)

theorem dropFront?_isSome_iff {p cs : List Char} : (dropFront? p cs).isSome = true ↔ p <+: cs := by
  fun_induction dropFront? p cs <;> simp_all [List.cons_prefix_cons]

theorem dropFront?_doubled {p : List Char} (h : ∀ c ∈ p, c ≠ '"' ∧ c ≠ '\'') (cs : List Char) :
    (dropFront? p (cs.map doubled)).isSome = (dropFront? p cs).isSome := by
  induction p generalizing cs with
  | nil => rfl
  | cons c p ih =>
    obtain ⟨hc, hp⟩ := List.forall_mem_cons.1 h
    rcases cs with _ | ⟨d, cs⟩
    · rfl
    · have hd : c = doubled d ↔ c = d := by
        rw [eq_comm, doubled_eq_iff hc.1 hc.2, eq_comm]
      simp only [List.map_cons, dropFront?, hd]
      split_ifs
      · exact ih hp cs
      · rfl

/-- Quotes do not matter for whether a line is one of git. -/
theorem isGitLine_form (s : String) : isGitLine (form s) = isGitLine (normalizeCommand s) := by
  rw [isGitLine, form, toList_unifyQuotes, isGitLine]
  exact dropFront?_doubled (by simp) _

theorem takeWhile_word {w : List Char} (h : ' ' ∉ w) (rest : List Char) :
    (w ++ ' ' :: rest).takeWhile (· ≠ ' ') = w := by
  rw [List.takeWhile_append_of_pos fun c hc => ?_]
  · simp
  · have hne : c ≠ ' ' := fun heq => h (heq ▸ hc)
    simpa using hne

/-- A git line has the word `git` and at least one behind it. -/
theorem isGitLine_form_iff {s : String} {first : List Char} {rest : List (List Char)}
    (hwords : wordsOf s.toList = first :: rest) :
    isGitLine (form s) = true ↔ rest ≠ [] ∧ formOf first = "git".toList := by
  have hspace : ' ' ∉ formOf first := by
    refine space_notMem_formOf (wordsOf_not_blank s.toList first ?_)
    rw [hwords]
    exact List.mem_cons_self
  rw [isGitLine, dropFront?_isSome_iff, toList_form, hwords]
  rcases rest with _ | ⟨w, rest⟩
  · rw [List.map_singleton, List.intercalate_singleton]
    constructor
    · exact fun h => absurd (h.subset (by decide)) hspace
    · exact fun h => absurd rfl h.1
  · rw [List.map_cons, List.map_cons, List.intercalate_cons_cons, List.append_assoc,
      List.singleton_append]
    constructor
    · rintro ⟨more, heq⟩
      have hfirst := congrArg (List.takeWhile (· ≠ ' ')) heq
      rw [takeWhile_word hspace] at hfirst
      exact ⟨List.cons_ne_nil w rest, hfirst.symm⟩
    · rintro ⟨-, hfirst⟩
      rw [hfirst]
      exact ⟨_, rfl⟩

/-! ## What does not count -/

/-- The same character, or a quote for a quote. -/
def SameButQuotes (c d : Char) : Prop := c = d ∨ (c = '\'' ∨ c = '"') ∧ (d = '\'' ∨ d = '"')

/-- The second line is the first one written in another way. -/
inductive Restyles : String → String → Prop where
  | between (cs rest : List Char) {gap gap' : List Char} (hgap : Blanks gap) (hgap' : Blanks gap')
      (hne : gap ≠ []) (hne' : gap' ≠ []) :
      Restyles (.ofList (cs ++ gap ++ rest)) (.ofList (cs ++ gap' ++ rest))
  | before (cs : List Char) {gap : List Char} (hgap : Blanks gap) :
      Restyles (.ofList cs) (.ofList (gap ++ cs))
  | behind (cs : List Char) {gap : List Char} (hgap : Blanks gap) :
      Restyles (.ofList cs) (.ofList (cs ++ gap))
  | quoted {s t : String} (hsigma : 'Σ' ∉ s.toList)
      (hquotes : List.Forall₂ SameButQuotes s.toList t.toList) : Restyles s t
  | reordered {s t : String} {first : List Char} {rest rest' : List (List Char)}
      (hgit : isGitLine (normalizeCommand s) = true) (hs : wordsOf s.toList = first :: rest)
      (ht : wordsOf t.toList = first :: rest') (hsame : ∀ w, w ∈ rest ↔ w ∈ rest') : Restyles s t

theorem form_congr {s t : String} (h : wordsOf s.toList = wordsOf t.toList) : form s = form t := by
  rw [form, form, normalizeCommand, normalizeCommand, words, words, h]

theorem map_doubled_of_sameButQuotes {cs ds : List Char} (h : List.Forall₂ SameButQuotes cs ds) :
    cs.map doubled = ds.map doubled := by
  induction h with
  | nil => rfl
  | cons hcd _ ih =>
    rw [List.map_cons, List.map_cons, ih]
    congr 1
    rcases hcd with rfl | ⟨rfl | rfl, rfl | rfl⟩ <;> rfl

theorem wordsOf_map_doubled (cs : List Char) :
    wordsOf (cs.map doubled) = (wordsOf cs).map (List.map doubled) := by
  fun_induction wordsOf cs with
  | case1 => rfl
  | case2 c r hc ih => rw [List.map_cons, wordsOf_of_blank (by rwa [isBlank_doubled]), ih]
  | case3 c hc => simp [wordsOf, isBlank_doubled, hc]
  | case4 c hc d r hd ih =>
    rw [List.map_cons] at ih
    rw [List.map_cons, List.map_cons, wordsOf_cons_cons (by rwa [isBlank_doubled]),
      isBlank_doubled, if_pos hd, ih]
    rfl
  | case5 c hc d r hd hr ih => exact absurd hr (wordsOf_cons_ne_nil hd r)
  | case6 c hc d r hd w ws hr ih =>
    rw [List.map_cons, hr] at ih
    rw [List.map_cons, List.map_cons, wordsOf_cons_cons (by rwa [isBlank_doubled]),
      isBlank_doubled, if_neg hd, ih, hr]
    rfl

/-- Both kinds of quotes have themselves as lower-case form. -/
theorem map_doubled_lowerPlain (c : Char) :
    (lowerPlain (doubled c)).map doubled = (lowerPlain c).map doubled := by
  unfold doubled
  split_ifs with hc
  · rw [hc]
    decide
  · rfl

theorem formOf_map_doubled {w : List Char} (h : 'Σ' ∉ w) : formOf (w.map doubled) = formOf w := by
  have hdoubled : 'Σ' ∉ w.map doubled := by
    intro hmem
    obtain ⟨c, hc, heq⟩ := List.mem_map.1 hmem
    rw [doubled_eq_iff (by decide) (by decide)] at heq
    exact h (heq ▸ hc)
  rw [formOf, lowerChars, lowerFrom_of_notMem hdoubled, formOf, lowerChars, lowerFrom_of_notMem h,
    List.map_flatMap, List.flatMap_map, List.map_flatMap]
  simp only [map_doubled_lowerPlain]

theorem mem_of_mem_wordsOf (cs : List Char) : ∀ w ∈ wordsOf cs, ∀ c ∈ w, c ∈ cs := by
  fun_induction wordsOf cs <;> grind

theorem map_formOf_doubled {cs : List Char} (h : 'Σ' ∉ cs) :
    (wordsOf (cs.map doubled)).map formOf = (wordsOf cs).map formOf := by
  rw [wordsOf_map_doubled, List.map_map]
  refine List.map_congr_left fun w hw => formOf_map_doubled fun hmem => h ?_
  exact mem_of_mem_wordsOf cs w hw 'Σ' hmem

theorem form_of_quoted {s t : String} (hsigma : 'Σ' ∉ s.toList)
    (hquotes : List.Forall₂ SameButQuotes s.toList t.toList) : form s = form t := by
  have hmap := map_doubled_of_sameButQuotes hquotes
  have hsigma' : 'Σ' ∉ t.toList := by
    intro hmem
    have hmem' := List.mem_map_of_mem (f := doubled) hmem
    rw [← hmap] at hmem'
    obtain ⟨c, hc, heq⟩ := List.mem_map.1 hmem'
    have hdoubled : doubled 'Σ' = 'Σ' := by decide
    rw [hdoubled, doubled_eq_iff (by decide) (by decide)] at heq
    exact hsigma (heq ▸ hc)
  apply String.toList_injective
  rw [toList_form, toList_form, ← map_formOf_doubled hsigma, hmap, map_formOf_doubled hsigma']

theorem commandsMatch_of_restyles {s t : String} (h : Restyles s t) : commandsMatch s t = true := by
  rw [commandsMatch_iff]
  cases h with
  | between cs rest hgap hgap' hne hne' =>
    refine .inl (form_congr ?_)
    rw [String.toList_ofList, String.toList_ofList, wordsOf_append_gap hgap hne,
      wordsOf_append_gap hgap' hne']
  | before cs hgap =>
    refine .inl (form_congr ?_)
    rw [String.toList_ofList, String.toList_ofList, wordsOf_blanks_append hgap]
  | behind cs hgap =>
    refine .inl (form_congr ?_)
    rw [String.toList_ofList, String.toList_ofList, wordsOf_append_blanks cs hgap]
  | quoted hsigma hquotes => exact .inl (form_of_quoted hsigma hquotes)
  | @reordered _ _ first rest rest' hgit hs ht hsame =>
    rw [← isGitLine_form] at hgit
    obtain ⟨hrest, hfirst⟩ := (isGitLine_form_iff hs).1 hgit
    have hrest' : rest' ≠ [] := by
      obtain ⟨w, hw⟩ := List.exists_mem_of_ne_nil rest hrest
      exact List.ne_nil_of_mem ((hsame w).1 hw)
    refine .inr ⟨⟨hgit, (isGitLine_form_iff ht).2 ⟨hrest', hfirst⟩⟩, fun w => ?_⟩
    rw [spacedWords_form (hs ▸ List.cons_ne_nil _ _), spacedWords_form (ht ▸ List.cons_ne_nil _ _),
      hs, ht]
    simp [hsame]

theorem commandsMatch_of_eqvGen {s t : String} (h : Relation.EqvGen Restyles s t) :
    commandsMatch s t = true := by
  induction h with
  | rel _ _ h => exact commandsMatch_of_restyles h
  | refl s => exact commandsMatch_iff.2 (.inl rfl)
  | symm _ _ _ ih => exact commandsMatch_symm ih
  | trans _ _ _ _ _ ih ih' => exact commandsMatch_trans ih ih'

/-- Matching is an equivalence that looks at normal forms only. On either side, blank space, the
style of quotes and, in git lines, the order and number of words do not count; git lines and others
never match. -/
theorem commandsMatch_equivalence :
    Equivalence (fun s t => commandsMatch s t = true)
      ∧ (∀ s s' t t', normalizeCommand s = normalizeCommand s' →
        normalizeCommand t = normalizeCommand t' → commandsMatch s t = commandsMatch s' t')
      ∧ (∀ s s' t t', Relation.EqvGen Restyles s s' → Relation.EqvGen Restyles t t' →
        commandsMatch s t = commandsMatch s' t')
      ∧ ∀ s t, commandsMatch s t = true →
        isGitLine (normalizeCommand s) = isGitLine (normalizeCommand t) := by
  refine ⟨⟨fun s => commandsMatch_iff.2 (.inl rfl), commandsMatch_symm, commandsMatch_trans⟩,
    fun s s' t t' hs ht => ?_, fun s s' t t' hs ht => ?_, fun s t h => ?_⟩
  · rw [commandsMatch, hs, ht, commandsMatch]
  · exact commandsMatch_congr (commandsMatch_of_eqvGen hs) (commandsMatch_of_eqvGen ht)
  · rw [← isGitLine_form, ← isGitLine_form]
    rcases commandsMatch_iff.1 h with h | ⟨⟨hs, ht⟩, -⟩
    · rw [h]
    · rw [hs, ht]

/-- A push with other quotes, its words moved about and one of them said twice. -/
theorem commandsMatch_equivalence_push :
    Relation.EqvGen Restyles "git push -u origin 'x'" "git  push origin origin -u \"x\""
      ∧ (∀ t, commandsMatch "git push -u origin 'x'" t
        = commandsMatch "git  push origin origin -u \"x\"" t)
      ∧ isGitLine (normalizeCommand "GIT log") = true
      ∧ isGitLine (normalizeCommand "gh log") = false
      ∧ commandsMatch "GIT log" "gh log" = false := by
  obtain ⟨-, -, hrestyled, hgit⟩ := commandsMatch_equivalence
  have hquoted : Restyles "git push -u origin 'x'" "git push -u origin \"x\"" := by
    refine .quoted (by decide +kernel) ?_
    rw [List.forall₂_iff_zip]
    refine ⟨by decide +kernel, fun {c d} hcd => ?_⟩
    have hall : ∀ e ∈ "git push -u origin 'x'".toList.zip "git push -u origin \"x\"".toList,
        e.1 = e.2 ∨ (e.1 = '\'' ∨ e.1 = '"') ∧ (e.2 = '\'' ∨ e.2 = '"') := by
      decide +kernel
    exact hall (c, d) hcd
  have hreordered : Restyles "git push -u origin \"x\"" "git  push origin origin -u \"x\"" := by
    have hfrom : wordsOf "git push -u origin \"x\"".toList
        = "git".toList :: ["push", "-u", "origin", "\"x\""].map String.toList := by
      decide +kernel
    have hto : wordsOf "git  push origin origin -u \"x\"".toList
        = "git".toList :: ["push", "origin", "origin", "-u", "\"x\""].map String.toList := by
      decide +kernel
    refine .reordered (by decide +kernel) hfrom hto fun w => ?_
    simp [or_left_comm]
  have hchain := (Relation.EqvGen.rel _ _ hquoted).trans _ _ _ (.rel _ _ hreordered)
  have hgh : isGitLine (normalizeCommand "gh log") = false := by decide +kernel
  have hlog : isGitLine (normalizeCommand "GIT log") = true := by decide +kernel
  refine ⟨hchain, fun t => hrestyled _ _ t t hchain (.refl t), hlog, hgh, ?_⟩
  rw [Bool.eq_false_iff]
  intro h
  have heq := hgit _ _ h
  rw [hlog, hgh] at heq
  cases heq

end Lesson

end GitPractice
