import Mathlib.Data.List.Infix
import GitPractice.Regex.Reader

/-!
# What a reader leaves

Every reader of a part of a pattern leaves an end of the text that it was given. So a bound on the
steps of a reader that the length of its text provides is never reached. `bodyStep` is how a pattern
goes on with one character, given how it goes on behind that; `bodyStep_next` says once what such a
step can come to.
-/

namespace GitPractice.Regex

open Text (isBlank isDigit)

/-! ## Idle text -/

theorem skipIdleFrom_suffix (comment : Bool) (cs : List Char) : skipIdleFrom comment cs <:+ cs := by
  fun_induction skipIdleFrom comment cs with
  | case1 => exact List.suffix_rfl
  | case2 c r ih => exact ih.trans (List.suffix_cons c r)
  | case3 c r _ ih => exact ih.trans (List.suffix_cons c r)
  | case4 r _ ih => exact ih.trans (List.suffix_cons '#' r)
  | case5 => exact List.suffix_rfl

theorem skipIdle_suffix (idle : Bool) (cs : List Char) : skipIdle idle cs <:+ cs := by
  unfold skipIdle
  split_ifs
  · exact skipIdleFrom_suffix false cs
  · exact List.suffix_rfl

theorem takeRun_suffix (idle : Bool) (p : Char → Bool) (n : Nat) (cs : List Char) :
    (takeRun idle p n cs).2 <:+ cs := by
  induction n generalizing cs with
  | zero => exact List.suffix_rfl
  | succ n ih =>
    rcases cs with _ | ⟨c, r⟩
    · exact List.suffix_rfl
    · rw [takeRun]
      split_ifs
      · exact ((ih _).trans (skipIdle_suffix idle r)).trans (List.suffix_cons c r)
      · exact List.suffix_rfl

theorem readRun_suffix (idle : Bool) (p : Char → Bool) (cs : List Char) :
    (readRun idle p cs).2 <:+ cs :=
  takeRun_suffix idle p cs.length cs

theorem length_lt_of_skipIdle {idle : Bool} {cs : List Char} {c : Char} {r : List Char}
    (h : skipIdle idle cs = c :: r) : r.length < cs.length := by
  have hlength := (skipIdle_suffix idle cs).length_le
  rw [h] at hlength
  exact hlength

/-! ## Escapes -/

section Escapes

variable {idle : Bool} {cs rest : List Char}

theorem readExactly_suffix {k : Nat} {taken : List Char}
    (h : readExactly idle k cs = some (taken, rest)) : rest <:+ cs := by
  induction k generalizing cs taken with
  | zero => cases h; exact List.suffix_rfl
  | succ k ih =>
    rcases cs with _ | ⟨c, r⟩
    · cases h
    · obtain ⟨⟨taken', rest'⟩, h', heq⟩ := Option.map_eq_some_iff.1 h
      cases heq
      exact ((ih h').trans (skipIdle_suffix idle r)).trans (List.suffix_cons c r)

/-- What stands behind a character of an end of the text is an end of it. -/
theorem suffix_of_skipIdle {c : Char} {r : List Char} (h : skipIdle idle cs = c :: r) : r <:+ cs :=
  (List.suffix_cons c r).trans (h ▸ skipIdle_suffix idle cs)

/-- What stands behind a run and the character that ends it is an end of the text. -/
theorem suffix_of_readRun {p : Char → Bool} {run : List Char} {c : Char} {r : List Char}
    (h : readRun idle p cs = (run, c :: r)) : r <:+ cs :=
  (List.suffix_cons c r).trans (by simpa [h] using readRun_suffix idle p cs)

theorem readHex_suffix {width : Nat} {e : Expression}
    (h : readHex idle width cs = some (e, rest)) : rest <:+ cs := by
  unfold readHex at h
  split at h
  · rename_i r hr
    split at h
    · rename_i digits rest' hrun
      obtain ⟨c, -, heq⟩ := Option.map_eq_some_iff.1 h
      cases heq
      exact ((suffix_of_readRun hrun).trans (skipIdle_suffix idle r)).trans (suffix_of_skipIdle hr)
    · cases h
  · simp only [Option.bind_eq_bind, Option.bind_eq_some_iff, Option.some.injEq] at h
    obtain ⟨⟨digits, rest'⟩, hdigits, c, -, heq⟩ := h
    cases heq
    exact (readExactly_suffix hdigits).trans (skipIdle_suffix idle cs)

theorem readProperty_suffix {negated : Bool} {e : Expression}
    (h : readProperty idle negated cs = some (e, rest)) : rest <:+ cs := by
  unfold readProperty at h
  split at h
  · cases h
  · rename_i r hr
    split at h
    · rename_i text rest' hrun
      cases h
      exact ((suffix_of_readRun hrun).trans (skipIdle_suffix idle r)).trans (suffix_of_skipIdle hr)
    · cases h
  · rename_i c r _ hr
    split_ifs at h
    cases h
    exact (skipIdle_suffix idle r).trans (suffix_of_skipIdle hr)

theorem readBoundary_suffix {e : Expression} (h : readBoundary idle cs = some (e, rest)) :
    rest <:+ cs := by
  unfold readBoundary at h
  split at h
  · rename_i r
    split at h
    · cases h
    · rename_i c r' hr
      split_ifs at h
      · split at h
        · rename_i name rest' hrun
          obtain ⟨kind, -, heq⟩ := Option.map_eq_some_iff.1 h
          cases heq
          exact ((suffix_of_readRun hrun).trans (hr ▸ skipIdle_suffix idle r)).trans
            (List.suffix_cons _ r)
        · cases h
      · cases h
        exact List.suffix_rfl
  · cases h
    exact List.suffix_rfl

/-- A letter behind a backslash either says all by itself or begins something longer. -/
theorem readEscape_cases (idle : Bool) (c : Char) :
    (∃ width, ∀ r, readEscape idle (c :: r) = readHex idle width r) ∨
    (∃ negated, ∀ r, readEscape idle (c :: r) = readProperty idle negated r) ∨
    (c = 'b' ∧ ∀ r, readEscape idle (c :: r) = readBoundary idle r) ∨
    ∃ e : Option Expression, ∀ r, readEscape idle (c :: r) = e.map (·, r) := by
  unfold readEscape
  dsimp only
  split
  case h_1 | h_2 | h_3 => exact .inl ⟨_, fun r => rfl⟩
  case h_4 | h_5 => exact .inr (.inl ⟨_, fun r => rfl⟩)
  case h_20 => exact .inr (.inr (.inl ⟨rfl, fun r => rfl⟩))
  case h_24 =>
    refine .inr (.inr (.inr ?_))
    split_ifs
    · exact ⟨some _, fun r => rfl⟩
    · exact ⟨none, fun r => rfl⟩
  all_goals exact .inr (.inr (.inr ⟨some _, fun r => rfl⟩))

theorem suffix_of_map_eq_some {α : Type} {a : Option α} {x : α}
    (h : a.map (·, cs) = some (x, rest)) : rest <:+ cs := by
  obtain ⟨y, -, heq⟩ := Option.map_eq_some_iff.1 h
  cases heq
  exact List.suffix_rfl

theorem readEscape_suffix {e : Expression} (h : readEscape idle cs = some (e, rest)) :
    rest <:+ cs := by
  rcases cs with _ | ⟨c, r⟩
  · cases h
  · refine List.IsSuffix.trans ?_ (List.suffix_cons c r)
    rcases readEscape_cases idle c with ⟨width, hr⟩ | ⟨negated, hr⟩ | ⟨-, hr⟩ | ⟨e', hr⟩
    · exact readHex_suffix (hr r ▸ h)
    · exact readProperty_suffix (hr r ▸ h)
    · exact readBoundary_suffix (hr r ▸ h)
    · exact suffix_of_map_eq_some (hr r ▸ h)

end Escapes

/-! ## Classes in brackets -/

section Classes

variable {idle : Bool} {cs rest : List Char}

theorem asciiClass?_suffix {s : CharClass} (h : asciiClass? cs = some (s, rest)) :
    rest <:+ cs := by
  unfold asciiClass? at h
  split at h
  · rename_i r
    split at h
    rename_i negated r' hsign
    have hr : r' <:+ r := by
      split at hsign
      · cases hsign
        exact List.suffix_cons _ _
      · cases hsign
        exact List.suffix_rfl
    split at h
    · rename_i rest' hrest
      obtain ⟨ranges, -, heq⟩ := Option.map_eq_some_iff.1 h
      cases heq
      have hdrop : ':' :: ']' :: rest <:+ r' := hrest ▸ List.dropWhile_suffix _
      have hclose : rest <:+ ':' :: ']' :: rest :=
        (List.suffix_cons ']' rest).trans (List.suffix_cons ':' _)
      exact ((hclose.trans hdrop).trans hr).trans (List.suffix_cons ':' r)
    · cases h
  · cases h

theorem readClassStart_suffix (idle : Bool) (cs : List Char) :
    (readClassStart idle cs).2.2 <:+ cs := by
  unfold readClassStart
  split
  rename_i negated r hsign
  have hr : r <:+ cs := by
    split at hsign
    · rename_i r' hr'
      cases hsign
      exact (skipIdle_suffix idle r').trans (suffix_of_skipIdle hr')
    · cases hsign
      exact skipIdle_suffix idle cs
  split
  · rename_i r' hrun
    exact ((skipIdle_suffix idle r').trans (suffix_of_readRun hrun)).trans hr
  · rename_i hrun
    exact (by simpa [hrun] using readRun_suffix idle (· == '-') r : _ <:+ r).trans hr

/-- An item takes a character at least. -/
theorem readClassItem_suffix {e : Expression} (h : readClassItem idle cs = some (e, rest)) :
    rest <:+ cs.tail := by
  unfold readClassItem at h
  split at h
  · cases h
  · exact readEscape_suffix h
  · cases h
    exact List.suffix_rfl

theorem readClassRange_suffix {s : CharClass} (h : readClassRange idle cs = some (s, rest)) :
    rest <:+ cs.tail := by
  unfold readClassRange at h
  simp only [Option.bind_eq_bind, Option.bind_eq_some_iff] at h
  obtain ⟨⟨first, r⟩, hfirst, h⟩ := h
  refine List.IsSuffix.trans ?_ (readClassItem_suffix hfirst)
  dsimp only at h
  split at h
  · cases h
  · rename_i r' hr
    split_ifs at h
    · exact (suffix_of_map_eq_some h).trans (hr ▸ skipIdle_suffix idle r)
    · simp only [Option.bind_eq_some_iff] at h
      obtain ⟨⟨last, rest'⟩, hlast, a, -, b, -, h⟩ := h
      split_ifs at h
      cases h
      exact (((readClassItem_suffix hlast).trans (List.tail_suffix _)).trans
        (skipIdle_suffix idle r')).trans (suffix_of_skipIdle hr)
  · exact (suffix_of_map_eq_some h).trans (skipIdle_suffix idle r)

theorem readClass_suffix {n : Nat} {pending : Option (SetOp × CharClass)} {items : List CharClass}
    {s : CharClass} (h : readClass n idle cs pending items = some (s, rest)) : rest <:+ cs := by
  induction n generalizing cs rest pending items s with
  | zero => cases h
  | succ n ih =>
    refine List.IsSuffix.trans ?_ (skipIdle_suffix idle cs)
    unfold readClass at h
    split at h
    case h_1 => cases h
    case h_2 hr =>
      cases h
      exact hr ▸ List.suffix_cons _ _
    case h_3 r hr =>
      refine List.IsSuffix.trans ?_ (hr ▸ List.suffix_cons '[' r)
      split at h
      · rename_i named
        exact (ih h).trans (asciiClass?_suffix named)
      · split at h
        rename_i negated first r' hstart
        have hr' : r' <:+ r := by simpa [hstart] using readClassStart_suffix idle r
        split at h
        · rename_i hinner
          exact ((ih h).trans (ih hinner)).trans hr'
        · cases h
    case h_4 r hr | h_5 r hr | h_6 r hr =>
      exact hr ▸ ((ih h).trans (List.suffix_cons _ r)).trans (List.suffix_cons _ _)
    case h_7 =>
      split at h
      · rename_i hrange
        exact ((ih h).trans (readClassRange_suffix hrange)).trans (List.tail_suffix _)
      · cases h

theorem readBracket_suffix {s : CharClass} (h : readBracket idle cs = some (s, rest)) :
    rest <:+ cs := by
  obtain ⟨⟨inner, rest'⟩, hclass, heq⟩ := Option.map_eq_some_iff.1 h
  cases heq
  exact (readClass_suffix hclass).trans (readClassStart_suffix idle cs)

end Classes

/-! ## Counts -/

section Counts

variable {idle : Bool} {cs rest : List Char}

theorem readDecimal_suffix {n : Option Nat} (h : readDecimal idle cs = some (n, rest)) :
    rest <:+ cs := by
  have hrest : (readRun idle isBlank (readRun idle isDigit (cs.dropWhile isBlank)).2).2 <:+ cs :=
    ((readRun_suffix _ _ _).trans (readRun_suffix _ _ _)).trans (List.dropWhile_suffix _)
  unfold readDecimal at h
  dsimp only at h
  split_ifs at h <;> cases h <;> exact hrest

theorem skipLazy_suffix (cs : List Char) : skipLazy cs <:+ cs := by
  unfold skipLazy
  split
  · exact List.suffix_cons _ _
  · exact List.suffix_rfl

/-- The end of a count, from its closing brace on. -/
def closeCount (idle : Bool) (least : Nat) (greatest : Option Nat) :
    List Char → Option (Nat × Option Nat × List Char)
  | '\x7d' :: r =>
    if greatest.any (· < least) then none
    else some (least, greatest, skipLazy (skipIdle idle r))
  | _ => none

/-- A count from behind its comma on. -/
def countEnd (idle : Bool) (least : Nat) (cs : List Char) :
    Option (Nat × Option Nat × List Char) :=
  match cs with
  | '\x7d' :: r => closeCount idle least none ('\x7d' :: r)
  | _ => (readDecimal idle cs).bind fun (greatest, rest) =>
    greatest.bind fun greatest => closeCount idle least (some greatest) rest

/-- A count from behind its least number on. -/
def countFrom (idle : Bool) (least : Nat) (cs : List Char) :
    Option (Nat × Option Nat × List Char) :=
  match cs with
  | ',' :: r =>
    match skipIdle idle r with
    | '\x7d' :: r' => closeCount idle least none ('\x7d' :: r')
    | r' => (readDecimal idle r').bind fun (greatest, rest) =>
      greatest.bind fun greatest => closeCount idle least (some greatest) rest
  | _ => closeCount idle least (some least) cs

theorem readCount_eq (idle : Bool) (cs : List Char) :
    readCount idle cs = (readDecimal idle (skipIdle idle cs)).bind fun (least, r) =>
      least.bind fun least => countFrom idle least r :=
  rfl

theorem countFrom_comma (idle : Bool) (least : Nat) (r : List Char) :
    countFrom idle least (',' :: r) = countEnd idle least (skipIdle idle r) := by
  rw [countFrom]
  generalize skipIdle idle r = t
  unfold countEnd
  split <;> rfl

theorem closeCount_suffix {n least : Nat} {greatest greatest' : Option Nat}
    (h : closeCount idle n greatest cs = some (least, greatest', rest)) : rest <:+ cs := by
  unfold closeCount at h
  split at h
  · rename_i r
    split_ifs at h
    cases h
    exact ((skipLazy_suffix _).trans (skipIdle_suffix idle r)).trans (List.suffix_cons _ r)
  · cases h

theorem countEnd_suffix {n least : Nat} {greatest : Option Nat}
    (h : countEnd idle n cs = some (least, greatest, rest)) : rest <:+ cs := by
  unfold countEnd at h
  split at h
  · exact closeCount_suffix h
  · obtain ⟨⟨greatest', rest'⟩, hdecimal, m, -, h⟩ := by
      simpa only [Option.bind_eq_some_iff] using h
    exact (closeCount_suffix h).trans (readDecimal_suffix hdecimal)

theorem countFrom_suffix {n least : Nat} {greatest : Option Nat}
    (h : countFrom idle n cs = some (least, greatest, rest)) : rest <:+ cs := by
  by_cases hcomma : ∃ r, cs = ',' :: r
  · obtain ⟨r, rfl⟩ := hcomma
    rw [countFrom_comma] at h
    exact ((countEnd_suffix h).trans (skipIdle_suffix idle r)).trans (List.suffix_cons _ r)
  · rw [not_exists] at hcomma
    rw [countFrom] at h
    · exact closeCount_suffix h
    · exact hcomma

theorem readCount_suffix {least : Nat} {greatest : Option Nat}
    (h : readCount idle cs = some (least, greatest, rest)) : rest <:+ cs := by
  rw [readCount_eq] at h
  obtain ⟨⟨least', r⟩, hdecimal, n, -, h⟩ := by
    simpa only [Option.bind_eq_some_iff] using h
  exact ((countFrom_suffix h).trans (readDecimal_suffix hdecimal)).trans (skipIdle_suffix idle cs)

theorem readRepetition_suffix {c : Char} {least : Nat} {greatest : Option Nat}
    (h : readRepetition idle c cs = some (least, greatest, rest)) : rest <:+ cs := by
  unfold readRepetition at h
  split at h
  case h_4 => exact readCount_suffix h
  all_goals
    cases h
    exact skipLazy_suffix cs

end Counts

/-! ## Groups -/

section Groups

variable {cs rest : List Char}

theorem readFlags_suffix {seen : List Flag} {on dangling : Bool} {edits : FlagEdits} {close : Char}
    (h : readFlags seen on dangling cs = some (edits, close, rest)) : rest <:+ cs := by
  fun_induction readFlags seen on dangling cs generalizing edits with
  | case1 | case2 | case5 | case6 | case7 => cases h
  | case3 =>
    cases h
    exact List.suffix_cons _ _
  | case4 _ _ r _ ih => exact (ih h).trans (List.suffix_cons _ r)
  | case8 _ _ _ _ r _ _ _ _ _ ih =>
    obtain ⟨⟨edits', close', rest'⟩, hr, heq⟩ := Option.map_eq_some_iff.1 h
    cases heq
    exact (ih hr).trans (List.suffix_cons _ r)

theorem readGroupName_suffix {names : List (List Char)} {name : List Char}
    (h : readGroupName names cs = some (name, rest)) : rest <:+ cs := by
  unfold readGroupName at h
  dsimp only at h
  split at h
  · rename_i hdrop
    split_ifs at h
    cases h
    exact (List.suffix_cons _ _).trans (hdrop ▸ List.dropWhile_suffix _)
  · cases h

/-- The group that a name begins. -/
def named (names : List (List Char)) (cs : List Char) : Option (Opening × List Char) :=
  (readGroupName names cs).map fun (name, rest) => (.group [] (name :: names), rest)

theorem named_suffix {names : List (List Char)} {opening : Opening}
    (h : named names cs = some (opening, rest)) : rest <:+ cs := by
  obtain ⟨⟨name, rest'⟩, hname, heq⟩ := Option.map_eq_some_iff.1 h
  cases heq
  exact readGroupName_suffix hname

/-- What flags begin: something by themselves, or the group behind them. -/
def flagged (names : List (List Char)) (cs : List Char) : Option (Opening × List Char) :=
  match readFlags [] true false cs with
  | some ([], ')', _) => none
  | some (edits, ')', rest) => some (.directive edits, rest)
  | some (edits, _, rest) => some (.group edits names, rest)
  | none => none

theorem flagged_suffix {names : List (List Char)} {opening : Opening}
    (h : flagged names cs = some (opening, rest)) : rest <:+ cs := by
  unfold flagged at h
  split at h
  case h_1 | h_4 => cases h
  case h_2 hflags | h_3 hflags =>
    cases h
    exact readFlags_suffix hflags

theorem readOpening_suffix {scope : Scope} {opening : Opening}
    (h : readOpening scope cs = some (opening, rest)) : rest <:+ cs := by
  refine List.IsSuffix.trans ?_ (skipIdle_suffix scope.idle cs)
  unfold readOpening at h
  dsimp only at h
  split at h
  case h_1 | h_2 | h_3 | h_4 => cases h
  case h_5 r hr =>
    have hr' : r <:+ '?' :: 'P' :: '<' :: r := List.suffix_append ['?', 'P', '<'] r
    exact hr ▸ (named_suffix h).trans hr'
  case h_6 r _ _ hr =>
    have hr' : r <:+ '?' :: '<' :: r := List.suffix_append ['?', '<'] r
    exact hr ▸ (named_suffix h).trans hr'
  case h_7 r _ _ _ _ _ _ hr =>
    exact hr ▸ (flagged_suffix h).trans (List.suffix_cons _ r)
  case h_8 =>
    cases h
    exact List.suffix_rfl

end Groups

/-! ## Patterns -/

theorem readAtom_cases (idle : Bool) (c : Char) :
    (c = '\\' ∧ ∀ r, readAtom idle c r = readEscape idle r) ∨
      ∃ e, ∀ r, readAtom idle c r = some (e, r) := by
  unfold readAtom
  split
  case h_1 => exact .inl ⟨rfl, fun r => rfl⟩
  all_goals exact .inr ⟨_, fun r => rfl⟩

theorem readAtom_suffix {idle : Bool} {c : Char} {cs rest : List Char} {e : Expression}
    (h : readAtom idle c cs = some (e, rest)) : rest <:+ cs := by
  rcases readAtom_cases idle c with ⟨-, hr⟩ | ⟨e', hr⟩
  · exact readEscape_suffix (hr cs ▸ h)
  · cases (hr cs).symm.trans h
    exact List.suffix_rfl

/-- How the readers of the rest of a pattern are given to those of one part. -/
abbrev BodyReader := Scope → List Char → List Expression → List Expression →
  Option (Expression × Scope × List Char)

/-- How a pattern goes on behind a group. -/
def afterGroup (next : BodyReader) (scope : Scope) (branches items : List Expression)
    (edits : FlagEdits) : Expression × Scope × List Char → Option (Expression × Scope × List Char)
  | (inner, scope', ')' :: rest) =>
    next { scope with names := scope'.names } rest branches (items ++ [.group edits inner])
  | _ => none

/-- How a pattern goes on behind what an opening parenthesis begins. -/
def afterOpening (next : BodyReader) (scope : Scope) (branches items : List Expression) :
    Opening × List Char → Option (Expression × Scope × List Char)
  | (.directive edits, rest) => next (scope.edited edits) rest branches (items ++ [.flags edits])
  | (.group edits names, rest) =>
    (next ({ scope with names := names }.edited edits) rest [] []).bind
      (afterGroup next scope branches items edits)

/-- How a pattern goes on with a character. -/
def bodyStep (next : BodyReader) (scope : Scope) (branches items : List Expression) (c : Char)
    (r : List Char) : Option (Expression × Scope × List Char) :=
  if c = ')' then some (closeBranches branches items, scope, c :: r)
  else if c = '|' then next scope r (branches ++ [.inSequence items]) []
  else if c = '(' then (readOpening scope r).bind (afterOpening next scope branches items)
  else if c = '[' then
    (readBracket scope.idle r).bind fun (s, rest) =>
      next scope rest branches (items ++ [.charClass s])
  else if isRepetition c then
    (readRepetition scope.idle c r).bind fun (min, max, rest) =>
      (repeatLast items min max).bind fun items' => next scope rest branches items'
  else (readAtom scope.idle c r).bind fun (e, rest) => next scope rest branches (items ++ [e])

theorem readBody_succ (n : Nat) (scope : Scope) (cs : List Char) (branches items : List Expression) :
    readBody (n + 1) scope cs branches items = match skipIdle scope.idle cs with
      | [] => some (closeBranches branches items, scope, [])
      | c :: r => bodyStep (readBody n) scope branches items c r := by
  rw [readBody]
  rcases skipIdle scope.idle cs with _ | ⟨c, r⟩
  · rfl
  · dsimp only
    unfold bodyStep
    split_ifs
    · rfl
    · rfl
    · rcases readOpening scope r with _ | ⟨opening, rest⟩
      · rfl
      · cases opening with
        | directive edits => rfl
        | group edits names =>
          rw [Option.bind_some, afterOpening]
          dsimp only
          generalize readBody n _ rest [] [] = inner
          rcases inner with _ | ⟨inner, scope', _ | ⟨d, rest'⟩⟩
          · rfl
          · rfl
          · by_cases hd : d = ')'
            · subst hd
              rfl
            · simp [afterGroup, hd]
    · cases readBracket scope.idle r <;> rfl
    · rcases readRepetition scope.idle c r with _ | ⟨min, max, rest⟩
      · rfl
      · dsimp only [Option.bind_some]
        cases repeatLast items min max <;> rfl
    · cases readAtom scope.idle c r <;> rfl

section Next

variable {next : BodyReader}
  (hnext : ∀ {scope cs branches items x}, next scope cs branches items = some x → x.2.2 <:+ cs)
  {scope : Scope} {branches items : List Expression} {x : Expression × Scope × List Char}

include hnext

theorem afterOpening_next {opening : Opening} {rest : List Char}
    (h : afterOpening next scope branches items (opening, rest) = some x) :
    ∃ scope cs branches items, cs <:+ rest ∧ next scope cs branches items = some x := by
  cases opening with
  | directive edits => exact ⟨_, _, _, _, List.suffix_rfl, h⟩
  | group edits names =>
    obtain ⟨y, hinner, h⟩ := Option.bind_eq_some_iff.1 h
    unfold afterGroup at h
    split at h
    · exact ⟨_, _, _, _, (List.suffix_cons _ _).trans (hnext hinner), h⟩
    · cases h

/-- A closing parenthesis ends a pattern; what else it goes on with, its end is found behind that. -/
theorem bodyStep_next {c : Char} {r : List Char}
    (h : bodyStep next scope branches items c r = some x) :
    c = ')' ∧ x.2.2 = c :: r ∨
      ∃ scope cs branches items, cs <:+ r ∧ next scope cs branches items = some x := by
  unfold bodyStep at h
  split_ifs at h with hclose
  · cases h
    exact .inl ⟨hclose, rfl⟩
  all_goals right
  · exact ⟨_, _, _, _, List.suffix_rfl, h⟩
  · obtain ⟨⟨opening, rest⟩, hopening, h⟩ := Option.bind_eq_some_iff.1 h
    obtain ⟨scope', cs, branches', items', hcs, h⟩ := afterOpening_next hnext h
    exact ⟨scope', cs, branches', items', hcs.trans (readOpening_suffix hopening), h⟩
  · obtain ⟨y, hy, h⟩ := Option.bind_eq_some_iff.1 h
    exact ⟨_, _, _, _, readBracket_suffix hy, h⟩
  · obtain ⟨y, hy, h⟩ := Option.bind_eq_some_iff.1 h
    obtain ⟨items', -, h⟩ := Option.bind_eq_some_iff.1 h
    exact ⟨_, _, _, _, readRepetition_suffix hy, h⟩
  · obtain ⟨y, hy, h⟩ := Option.bind_eq_some_iff.1 h
    exact ⟨_, _, _, _, readAtom_suffix hy, h⟩

end Next

theorem readBody_suffix {n : Nat} {scope : Scope} {cs : List Char} {branches items : List Expression}
    {x : Expression × Scope × List Char} (h : readBody n scope cs branches items = some x) :
    x.2.2 <:+ cs := by
  induction n generalizing scope cs branches items x with
  | zero => cases h
  | succ n ih =>
    refine List.IsSuffix.trans ?_ (skipIdle_suffix scope.idle cs)
    rw [readBody_succ] at h
    generalize skipIdle scope.idle cs = t at h ⊢
    rcases t with _ | ⟨c, r⟩
    · cases h
      exact List.suffix_rfl
    · rcases bodyStep_next ih h with ⟨-, hx⟩ | ⟨_, rest, _, _, hrest, h⟩
      · exact hx ▸ List.suffix_rfl
      · exact ((ih h).trans hrest).trans (List.suffix_cons c r)

/-- A pattern goes up to the end of the text or to a closing parenthesis. -/
theorem readBody_stop {n : Nat} {scope : Scope} {cs : List Char} {branches items : List Expression}
    {x : Expression × Scope × List Char} (h : readBody n scope cs branches items = some x) :
    x.2.2 = [] ∨ ∃ r, x.2.2 = ')' :: r := by
  induction n generalizing scope cs branches items x with
  | zero => cases h
  | succ n ih =>
    rw [readBody_succ] at h
    generalize skipIdle scope.idle cs = t at h
    rcases t with _ | ⟨c, r⟩
    · cases h
      exact .inl rfl
    · rcases bodyStep_next readBody_suffix h with ⟨rfl, hx⟩ | ⟨_, _, _, _, -, h⟩
      · exact .inr ⟨r, hx⟩
      · exact ih h

end GitPractice.Regex
