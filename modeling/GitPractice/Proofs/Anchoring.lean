import GitPractice.Lesson.Match
import GitPractice.Proofs.FollowedPattern
import GitPractice.Proofs.Matching

/-!
# Patterns tied to the start of a line

A pattern is compiled between `^(?:` and `)`. What the two parentheses enclose is the pattern if it
leaves none of its own unpaired and does not take the closing one into a comment. It then matches
what it takes from the first character on.
-/

namespace GitPractice

namespace Regex

open Reading (left followed)

/-! ## More steps -/

theorem bind_mono {α β : Type} {a : Option α} {f g : α → Option β} {x : β}
    (hfg : ∀ y, f y = some x → g y = some x) (h : a.bind f = some x) : a.bind g = some x := by
  obtain ⟨y, hy, h⟩ := Option.bind_eq_some_iff.1 h
  exact Option.bind_eq_some_iff.2 ⟨y, hy, hfg y h⟩

section Mono

variable {next next' : BodyReader}
  (hnext : ∀ scope cs branches items x, next scope cs branches items = some x →
    next' scope cs branches items = some x)
  {scope : Scope} {branches items : List Expression} {x : Expression × Scope × List Char}

include hnext

theorem afterGroup_mono {edits : FlagEdits} {y : Expression × Scope × List Char}
    (h : afterGroup next scope branches items edits y = some x) :
    afterGroup next' scope branches items edits y = some x := by
  unfold afterGroup at h ⊢
  split at h
  · exact hnext _ _ _ _ _ h
  · cases h

theorem afterOpening_mono {y : Opening × List Char}
    (h : afterOpening next scope branches items y = some x) :
    afterOpening next' scope branches items y = some x := by
  obtain ⟨opening, rest⟩ := y
  cases opening with
  | directive edits => exact hnext _ _ _ _ _ h
  | group edits names =>
    obtain ⟨y, hinner, h⟩ := Option.bind_eq_some_iff.1 h
    exact Option.bind_eq_some_iff.2 ⟨y, hnext _ _ _ _ _ hinner, afterGroup_mono hnext h⟩

theorem bodyStep_mono {c : Char} {r : List Char}
    (h : bodyStep next scope branches items c r = some x) :
    bodyStep next' scope branches items c r = some x := by
  unfold bodyStep at h ⊢
  split_ifs at h ⊢
  · exact h
  · exact hnext _ _ _ _ _ h
  · exact bind_mono (fun y => afterOpening_mono hnext) h
  · exact bind_mono (fun y => hnext _ _ _ _ _) h
  · exact bind_mono (fun y => bind_mono fun items' => hnext _ _ _ _ _) h
  · exact bind_mono (fun y => hnext _ _ _ _ _) h

end Mono

/-- More steps than enough change nothing. -/
theorem readBody_mono {m n : Nat} (hmn : n ≤ m) (scope : Scope) (cs : List Char)
    (branches items : List Expression) (x : Expression × Scope × List Char)
    (h : readBody n scope cs branches items = some x) :
    readBody m scope cs branches items = some x := by
  induction n generalizing m scope cs branches items x with
  | zero => cases h
  | succ n ih =>
    obtain ⟨m, rfl⟩ := Nat.exists_eq_add_one_of_ne_zero (Nat.ne_zero_of_lt hmn)
    rw [readBody_succ] at h ⊢
    generalize skipIdle scope.idle cs = t at h ⊢
    rcases t with _ | ⟨c, r⟩
    · exact h
    · exact bodyStep_mono (ih (Nat.le_of_succ_le_succ hmn)) h

/-! ## The pattern between the parentheses -/

/-- A parenthesis of the text closes what no parenthesis of the text opens. -/
def closesUnopened (s : String) : Bool :=
  match readBody (s.toList.length + 1) .start s.toList [] [] with
  | some (_, _, ')' :: _) => true
  | _ => false

/-- A pattern with none such is read to its end. -/
theorem left_of_closesUnopened {s : String} (h : closesUnopened s = false)
    {x : Expression × Scope × List Char}
    (hx : readBody (s.toList.length + 1) .start s.toList [] [] = some x) : left x = [] := by
  rcases readBody_stop hx with hleft | ⟨r, hleft⟩
  · exact hleft
  · obtain ⟨e, scope, rest⟩ := x
    obtain rfl : rest = ')' :: r := hleft
    rw [closesUnopened, hx] at h
    cases h

theorem readChars_eq_some_iff {cs : List Char} {e : Expression} :
    readChars cs = some e ↔
      (∃ scope, readBody (cs.length + 1) .start cs [] [] = some (e, scope, [])) ∧
        e.depth ≤ depthLimit := by
  unfold readChars
  constructor
  · intro h
    split at h
    · rename_i e' scope heq
      split_ifs at h with hdepth
      cases h
      exact ⟨⟨scope, heq⟩, hdepth⟩
    · cases h
  · rintro ⟨⟨scope, h⟩, hdepth⟩
    rw [h]
    exact if_pos hdepth

/-- What a text means between the parentheses, when tied to the start of a line. -/
def anchored (e : Expression) : Expression := .seq [.anchor .lineStart, .group [] e]

@[simp] theorem depth_anchored (e : Expression) : (anchored e).depth = e.depth + 2 := by
  simp [anchored, Expression.depth, Expression.depths]

/-- The pattern is read behind the opening parenthesis. -/
theorem readBody_anchored (n : Nat) (cs : List Char) :
    readBody (n + 2) .start ("^(?:".toList ++ cs) [] [] =
      (readBody n .start cs [] []).bind
        (afterGroup (readBody n) .start [] [.anchor .lineStart] []) := by
  have hanchor : ∀ r, bodyStep (readBody (n + 1)) .start [] [] '^' r =
      readBody (n + 1) .start r [] [.anchor .lineStart] := fun r => rfl
  have hopening : ∀ items r, bodyStep (readBody n) .start [] items '(' ('?' :: ':' :: r) =
      (readBody n .start r [] []).bind (afterGroup (readBody n) .start [] items []) :=
    fun items r => rfl
  exact (readBody_succ _ _ _ _ _).trans
    ((hanchor _).trans ((readBody_succ _ _ _ _ _).trans (hopening _ cs)))

/-- How a pattern that closes what it opens is read with a parenthesis behind it: to its end, or to
the parenthesis. -/
theorem readBody_closed {cs : List Char} {n : Nat} (hn : cs.length + 1 < n) (e : Expression)
    (scope : Scope) (h : readBody (cs.length + 1) .start cs [] [] = some (e, scope, [])) :
    readBody n .start (cs ++ [')']) [] [] = some (e, scope, [')']) ∨
      readBody n .start (cs ++ [')']) [] [] = some (e, scope, []) := by
  obtain ⟨n, rfl⟩ := Nat.exists_eq_add_one_of_ne_zero (Nat.ne_zero_of_lt hn)
  rcases readBody_followed (Nat.lt_succ_self cs.length) (Nat.lt_of_succ_lt_succ hn) .start [] []
    with hclosed | ⟨y, -, hclosed, hy⟩
  · rw [h] at hclosed
    exact .inl hclosed
  · rw [h] at hy
    rcases hy with hy | hy <;> cases hy
    exact .inr hclosed

/-- A pattern that stops at a parenthesis behind it is read to its end without that one. -/
theorem readBody_of_closed {s : String} (hs : closesUnopened s = false) {n : Nat}
    (hn : s.toList.length + 1 < n) {e : Expression} {scope : Scope} {rest : List Char}
    (h : readBody n .start (s.toList ++ [')']) [] [] = some (e, scope, ')' :: rest)) :
    rest = [] ∧ readBody (s.toList.length + 1) .start s.toList [] [] = some (e, scope, []) := by
  obtain ⟨n, rfl⟩ := Nat.exists_eq_add_one_of_ne_zero (Nat.ne_zero_of_lt hn)
  rcases readBody_followed (Nat.lt_succ_self s.toList.length) (Nat.lt_of_succ_lt_succ hn)
    .start [] [] with hclosed | ⟨y, hy, hclosed, -⟩
  · rw [h] at hclosed
    obtain ⟨x, hx, hfollowed⟩ := Option.map_eq_some_iff.1 hclosed.symm
    have hleft := left_of_closesUnopened hs hx
    obtain ⟨e', scope', rest'⟩ := x
    obtain rfl : rest' = [] := hleft
    cases hfollowed
    exact ⟨rfl, hx⟩
  · cases h.symm.trans hclosed
    cases hy

/-- The parentheses enclose the pattern if, behind the pattern alone, the closing one were one too
many. -/
theorem readChars_anchored {s : String} (hs : closesUnopened s = false) {e : Expression} :
    readChars ("^(?:".toList ++ (s.toList ++ [')'])) = some e ↔
      ∃ inner, readChars s.toList = some inner ∧ readChars (s.toList ++ [')']) = none ∧
        (anchored inner).depth ≤ depthLimit ∧ e = anchored inner := by
  have hlength : ("^(?:".toList ++ (s.toList ++ [')'])).length + 1 = s.toList.length + 4 + 2 := by
    simp
  have hmono := readBody_mono (show (s.toList ++ [')']).length + 1 ≤ s.toList.length + 4 by simp)
    .start (s.toList ++ [')']) [] []
  have hclosed := readBody_closed (show s.toList.length + 1 < (s.toList ++ [')']).length + 1 by simp)
  rw [readChars_eq_some_iff, hlength, readBody_anchored]
  constructor
  · rintro ⟨⟨scope, h⟩, hdepth⟩
    obtain ⟨x, hx, h⟩ := Option.bind_eq_some_iff.1 h
    unfold afterGroup at h
    split at h
    · rename_i inner scope' rest
      obtain ⟨rfl, hown⟩ := readBody_of_closed hs (by omega) hx
      rw [readBody_nil] at h
      cases h
      refine ⟨inner, readChars_eq_some_iff.2 ⟨⟨scope', hown⟩, ?_⟩, ?_, hdepth, rfl⟩
      · exact le_trans (by simp) ((depth_anchored inner).symm.trans_le hdepth)
      · rcases hclosed inner scope' hown with h | h
        · rw [readChars, h]
        · cases hx.symm.trans (hmono _ h)
    · cases h
  · rintro ⟨inner, hinner, hnone, hdepth, rfl⟩
    obtain ⟨⟨scope, hown⟩, hinner⟩ := readChars_eq_some_iff.1 hinner
    refine ⟨⟨{ Scope.start with names := scope.names }, ?_⟩, hdepth⟩
    rcases hclosed inner scope hown with h | h
    · rw [hmono _ h, Option.bind_some, afterGroup, readBody_nil]
      rfl
    · rw [readChars_eq_some_iff.2 ⟨⟨scope, h⟩, hinner⟩] at hnone
      cases hnone

theorem toPattern?_anchored (e : Expression) :
    (anchored e).toPattern? .caseless = (e.toPattern? .caseless).map fun r =>
      (.seq (.look atTextStart) (.seq r.1 .empty), .caseless) := by
  have hplace : anchorPlace .caseless .lineStart = atTextStart := rfl
  have hflags : Flags.caseless.edited [] = .caseless := rfl
  simp only [anchored, Expression.toPattern?, Expression.sequence?, Option.bind_eq_bind,
    Option.bind_some, hplace, hflags]
  cases e.toPattern? .caseless <;> rfl

/-- Between the parentheses a pattern means what it means by itself, at the start of the text. -/
theorem caseless?_anchored (e : Expression) :
    (anchored e).caseless?
      = e.caseless?.map fun p => .seq (.look atTextStart) (.seq p .empty) := by
  rw [Expression.caseless?, toPattern?_anchored, Expression.caseless?, Option.map_map,
    Option.map_map]
  rfl

theorem charBefore_eq_none_iff {text : Array Char} {i : Nat} (hi : i ≤ text.size) :
    charBefore text i = none ↔ i = 0 := by
  cases i with
  | zero => simp [charBefore]
  | succ i => simp [charBefore]; omega

/-- A pattern tied to the start of the text is found nowhere else. -/
theorem occursIn_anchored {p : Pattern} {text : Array Char} :
    (Pattern.seq (.look atTextStart) (.seq p .empty)).occursIn text = true ↔
      ∃ j, p.Takes text 0 j := by
  simp only [Pattern.occursIn_iff, Pattern.Takes, atTextStart, Option.isNone_iff_eq_none]
  constructor
  · rintro ⟨i, hi, j, k, ⟨rfl, hstart⟩, l, hp, rfl⟩
    obtain rfl := (charBefore_eq_none_iff hi).1 hstart
    exact ⟨l, hp⟩
  · rintro ⟨j, hp⟩
    exact ⟨0, Nat.zero_le _, j, 0, ⟨rfl, rfl⟩, j, hp, rfl⟩

end Regex

namespace Lesson

open Regex (SizeLimit closesUnopened anchored depthLimit)

theorem toList_anchoredText (p : String) :
    (anchoredText p).toList = "^(?:".toList ++ (p.toList ++ [')']) := by
  simp [anchoredText]

section Patterns

variable [SizeLimit]

/-- A pattern that closes nothing unopened is compiled to what it says by itself, at the start. -/
theorem compilePattern?_eq_some_iff {p : String} (hp : closesUnopened p = false)
    {q : Regex.Pattern} :
    compilePattern? p = some q ↔ ∃ e own, Regex.read p = some e ∧ e.caseless? = some own ∧
      Regex.read (p ++ ")") = none ∧ e.depth + 2 ≤ depthLimit ∧
      SizeLimit.fits (anchored e) = true ∧ q = .seq (.look Regex.atTextStart) (.seq own .empty) := by
  have hclosed : Regex.read (p ++ ")") = Regex.readChars (p.toList ++ [')']) := by
    rw [Regex.read, String.toList_append]
    rfl
  rw [compilePattern?, Regex.read, toList_anchoredText, Option.bind_eq_some_iff, hclosed]
  simp only [Regex.readChars_anchored hp, Regex.depth_anchored]
  constructor
  · rintro ⟨_, ⟨e, he, hnone, hdepth, rfl⟩, hq⟩
    split_ifs at hq with hfits
    rw [Regex.caseless?_anchored] at hq
    obtain ⟨own, hown, rfl⟩ := Option.map_eq_some_iff.1 hq
    exact ⟨e, own, he, hown, hnone, hdepth, hfits, rfl⟩
  · rintro ⟨e, own, he, hown, hnone, hdepth, hfits, rfl⟩
    refine ⟨anchored e, ⟨e, he, hnone, hdepth, rfl⟩, ?_⟩
    rw [if_pos hfits, Regex.caseless?_anchored, hown]
    rfl

theorem patternMatches_eq_true_iff (p s : String) : patternMatches p s = true ↔
    ∃ q, compilePattern? p = some q ∧ q.occursIn s.toList.toArray = true := by
  unfold patternMatches
  cases compilePattern? p <;> simp

/-- A pattern that closes nothing unopened is accepted exactly if it is one by itself, if one more
parenthesis behind it would be too many, and if there is room for it when it is tied to the start,
in depth and in size. It then matches just those lines of which it takes a beginning by itself. -/
theorem patternMatches_of_paired {p : String} (hp : closesUnopened p = false) :
    (isPattern p = true ↔ ∃ e, Regex.read p = some e ∧ e.caseless?.isSome = true ∧
      Regex.read (p ++ ")") = none ∧ e.depth + 2 ≤ depthLimit ∧
      SizeLimit.fits (anchored e) = true) ∧
    ∀ s, patternMatches p s = true ↔ isPattern p = true ∧
      ∃ own, (Regex.read p).bind Regex.Expression.caseless? = some own ∧
        ∃ j ≤ s.length, own.Takes s.toList.toArray 0 j := by
  have hcompile := fun q => compilePattern?_eq_some_iff hp (q := q)
  constructor
  · rw [isPattern, Option.isSome_iff_exists]
    constructor
    · rintro ⟨q, hq⟩
      obtain ⟨e, own, he, hown, hnone, hdepth, hfits, -⟩ := (hcompile q).1 hq
      exact ⟨e, he, Option.isSome_of_mem hown, hnone, hdepth, hfits⟩
    · rintro ⟨e, he, hown, hnone, hdepth, hfits⟩
      obtain ⟨own, hown⟩ := Option.isSome_iff_exists.1 hown
      exact ⟨_, (hcompile _).2 ⟨e, own, he, hown, hnone, hdepth, hfits, rfl⟩⟩
  · intro s
    rw [patternMatches_eq_true_iff, isPattern]
    constructor
    · rintro ⟨q, hq, hoccurs⟩
      obtain ⟨e, own, he, hown, -, -, -, rfl⟩ := (hcompile q).1 hq
      obtain ⟨j, hj⟩ := Regex.occursIn_anchored.1 hoccurs
      have hbound := (Regex.Pattern.onward_takes _ own 0 j hj).2
      refine ⟨Option.isSome_of_mem hq, own, Option.bind_eq_some_iff.2 ⟨e, he, hown⟩, j, ?_, hj⟩
      rw [← String.length_toList]
      simpa using hbound
    · rintro ⟨hp, own, hown, j, -, hj⟩
      obtain ⟨q, hq⟩ := Option.isSome_iff_exists.1 hp
      refine ⟨q, hq, ?_⟩
      obtain ⟨e, own', he, hown', -, -, -, rfl⟩ := (hcompile q).1 hq
      rw [he, Option.bind_some, hown'] at hown
      cases hown
      exact Regex.occursIn_anchored.2 ⟨j, hj⟩

end Patterns

open scoped Regex.SizeLimit

theorem patternMatches_git_commit :
    closesUnopened "git (commit|ci)" = false ∧ isPattern "git (commit|ci)" = true ∧
      (∃ own, (Regex.read "git (commit|ci)").bind Regex.Expression.caseless? = some own ∧
        ∃ j ≤ "GIT ci -m x".length, own.Takes "GIT ci -m x".toList.toArray 0 j) ∧
      ¬ ∃ own, (Regex.read "git (commit|ci)").bind Regex.Expression.caseless? = some own ∧
        ∃ j ≤ "run git ci".length, own.Takes "run git ci".toList.toArray 0 j := by
  have hpaired : closesUnopened "git (commit|ci)" = false := by decide +kernel
  have hpattern : isPattern "git (commit|ci)" = true := by decide +kernel
  have hshort : patternMatches "git (commit|ci)" "GIT ci -m x" = true := by decide +kernel
  have hlater : patternMatches "git (commit|ci)" "run git ci" = false := by decide +kernel
  obtain ⟨-, hmatches⟩ := patternMatches_of_paired hpaired
  refine ⟨hpaired, hpattern, ((hmatches "GIT ci -m x").1 hshort).2, fun hbegins => ?_⟩
  rw [(hmatches "run git ci").2 ⟨hpattern, hbegins⟩] at hlater
  cases hlater

/-- A parenthesis that closes nothing of the pattern closes the group it is put in, and what stands
behind it is no longer tied to the start; and a comment takes the closing parenthesis in. -/
theorem patternMatches_of_unpaired :
    ((Regex.read "a)|(b").bind Regex.Expression.caseless?).isSome = false ∧
      isPattern "a)|(b" = true ∧ patternMatches "a)|(b" "xb" = true ∧
      ((Regex.read "(?x)a #c").bind Regex.Expression.caseless?).isSome = true ∧
      isPattern "(?x)a #c" = false := by
  decide +kernel

end Lesson

end GitPractice
