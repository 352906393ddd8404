import GitPractice.Proofs.FollowedClass

/-!
# A closing parenthesis behind a pattern

`readBody_followed`: a pattern is read in the same way with a closing parenthesis behind it, up to
the parenthesis, or nothing is left. The induction is on the steps; `bodyStep_followed` is one of them,
with one lemma for each thing that the pattern can go on with.
-/

namespace GitPractice.Regex

open Reading (left followed)
open Text (isBlank isDigit digitsValue)

/-! ## Counts -/

theorem skipLazy_followed (cs : List Char) : skipLazy (cs ++ [')']) = skipLazy cs ++ [')'] := by
  rcases begins_or_not (c := '?') (by decide) cs with ⟨r, rfl⟩ | ⟨hne, hne'⟩
  · rfl
  · rw [skipLazy, skipLazy]
    · exact hne
    · exact hne'

/-- The number that digits write. -/
def decimal (digits rest : List Char) : Option (Option Nat × List Char) :=
  if digits.isEmpty then some (none, rest)
  else if digitsValue digits < UInt32.size then some (some (digitsValue digits), rest)
  else none

theorem decimal_followed (digits rest : List Char) :
    decimal digits (rest ++ [')']) = (decimal digits rest).map followed := by
  unfold decimal
  split_ifs <;> rfl

theorem left_of_decimal {digits rest : List Char} {x : Option Nat × List Char}
    (h : decimal digits rest = some x) : left x = rest := by
  unfold decimal at h
  split_ifs at h <;> cases h <;> rfl

theorem readDecimal_eq (idle : Bool) (cs : List Char) :
    readDecimal idle cs = decimal (readRun idle isDigit (cs.dropWhile isBlank)).1
      (readRun idle isBlank (readRun idle isDigit (cs.dropWhile isBlank)).2).2 :=
  rfl

theorem readDecimal_followed (idle : Bool) (cs : List Char) :
    Stalls (readDecimal idle cs) (readDecimal idle (cs ++ [')'])) := by
  rw [readDecimal_eq, readDecimal_eq, dropBlank_append_parenthesis]
  generalize cs.dropWhile isBlank = t
  rcases readRun_followed idle isDigit t with h | ⟨h, h'⟩
  · rw [h]
    generalize readRun idle isDigit t = run
    obtain ⟨digits, r⟩ := run
    dsimp only [followed_pair, followed_chars]
    rcases readRun_followed idle isBlank r with hr | ⟨hr, hr'⟩
    · rw [hr]
      exact .inl (decimal_followed digits _)
    · exact .inr ⟨fun x hx => (left_of_decimal hx).trans hr,
        fun y hy => .inl ((left_of_decimal hy).trans hr')⟩
  · have hnil : ∀ run : List Char × List Char, left run = [] →
        (readRun idle isBlank run.2).2 = [] := by
      intro run hrun
      rw [show run.2 = [] from hrun, readRun_nil]
    exact .inr ⟨fun x hx => (left_of_decimal hx).trans (hnil _ h),
      fun y hy => .inl ((left_of_decimal hy).trans (hnil _ h'))⟩

/-- What stands behind a number. -/
theorem extends_afterDecimal {β : Type} [Reading β] {f : Nat → List Char → Option β}
    (h : ∀ n cs, Extends (f n cs) (f n (cs ++ [')']))) (hnil : ∀ n, f n [] = none)
    (hparenthesis : ∀ n, f n [')'] = none) (idle : Bool) (cs : List Char) :
    Extends ((readDecimal idle cs).bind fun (n, r) => n.bind fun n => f n r)
      ((readDecimal idle (cs ++ [')'])).bind fun (n, r) => n.bind fun n => f n r) := by
  rcases readDecimal_followed idle cs with hcs | ⟨ha, hb⟩
  · rw [hcs]
    rcases readDecimal idle cs with _ | ⟨_ | n, r⟩
    · exact .inl rfl
    · exact .inl rfl
    · exact h n r
  · have hnone : ∀ a : Option (Option Nat × List Char),
        (∀ x, a = some x → left x = [] ∨ left x = [')']) →
        (a.bind fun (n, r) => n.bind fun n => f n r) = none := by
      rintro (_ | ⟨_ | n, r⟩) ha
      · rfl
      · rfl
      · rcases ha _ rfl with hr | hr
        · obtain rfl : r = [] := hr
          exact hnil n
        · obtain rfl : r = [')'] := hr
          exact hparenthesis n
    rw [hnone _ fun x hx => .inl (ha x hx), hnone _ hb]
    exact .inl rfl

theorem closeCount_followed (idle : Bool) (least : Nat) (greatest : Option Nat) (cs : List Char) :
    Extends (closeCount idle least greatest cs) (closeCount idle least greatest (cs ++ [')'])) := by
  rcases begins_or_not (c := '\x7d') (by decide) cs with ⟨r, rfl⟩ | ⟨hne, hne'⟩
  · rw [List.cons_append, closeCount, closeCount]
    split_ifs
    · exact .inl rfl
    · have hrest : Follows (skipLazy (skipIdle idle r)) (skipLazy (skipIdle idle (r ++ [')']))) := by
        rcases skipIdle_followed idle r with h | ⟨h, h'⟩
        · exact .inl (by rw [h]; exact skipLazy_followed _)
        · rw [h, h']
          exact .inr ⟨rfl, rfl⟩
      exact (hrest.extends greatest).map (f := fun x => (least, x)) (fun x => rfl) fun x => rfl
  · rw [closeCount, closeCount]
    · exact .inl rfl
    · exact hne'
    · exact hne

theorem countEnd_followed (idle : Bool) (least : Nat) (cs : List Char) :
    Extends (countEnd idle least cs) (countEnd idle least (cs ++ [')'])) := by
  rcases begins_or_not (c := '\x7d') (by decide) cs with ⟨r, rfl⟩ | ⟨hne, hne'⟩
  · exact closeCount_followed idle least none ('\x7d' :: r)
  · rw [countEnd, countEnd]
    · exact extends_afterDecimal (fun n => closeCount_followed idle least (some n))
        (fun _ => rfl) (fun _ => rfl) idle cs
    · exact hne'
    · exact hne

theorem countFrom_followed (idle : Bool) (least : Nat) (cs : List Char) :
    Extends (countFrom idle least cs) (countFrom idle least (cs ++ [')'])) := by
  rcases begins_or_not (c := ',') (by decide) cs with ⟨r, rfl⟩ | ⟨hne, hne'⟩
  · rw [List.cons_append, countFrom_comma, countFrom_comma]
    exact Extends.skipIdle (countEnd_followed idle least) (fun x hx => by cases hx) idle r
  · rw [countFrom, countFrom]
    · exact closeCount_followed idle least (some least) cs
    · exact hne'
    · exact hne

theorem readCount_followed (idle : Bool) (cs : List Char) :
    Extends (readCount idle cs) (readCount idle (cs ++ [')'])) := by
  rw [readCount_eq, readCount_eq]
  exact Extends.skipIdle (extends_afterDecimal (countFrom_followed idle) (fun _ => rfl)
    (fun _ => rfl) idle) (fun x hx => by cases hx) idle cs

theorem readRepetition_followed (idle : Bool) (c : Char) (cs : List Char) :
    Extends (readRepetition idle c cs) (readRepetition idle c (cs ++ [')'])) := by
  unfold readRepetition
  split
  case h_4 => exact readCount_followed idle cs
  all_goals
    rw [skipLazy_followed]
    exact .inl rfl

/-! ## Groups -/

theorem readFlags_followed (seen : List Flag) (on dangling : Bool) (cs : List Char) :
    Extends (readFlags seen on dangling cs) (readFlags seen on dangling (cs ++ [')'])) := by
  induction cs generalizing seen on dangling with
  | nil =>
    refine .of_none fun y hy => ?_
    rw [List.nil_append, readFlags, if_pos (by decide)] at hy
    split_ifs at hy
    cases hy
    rfl
  | cons c r ih =>
    rw [List.cons_append, readFlags, readFlags]
    split_ifs
    · exact .inl rfl
    · exact .inl rfl
    · exact ih seen false true
    · exact .inl rfl
    · split
      · exact .inl rfl
      · split_ifs
        · exact .inl rfl
        · exact (ih _ on false).map (fun x => rfl) fun x => rfl

theorem readGroupName_followed (names : List (List Char)) (cs : List Char) :
    readGroupName names (cs ++ [')']) = (readGroupName names cs).map followed := by
  unfold readGroupName
  rcases hdrop : cs.dropWhile (· != '>') with _ | ⟨c, r⟩
  · rw [dropWhile_nil_followed (by decide) hdrop]
    generalize (cs ++ [')']).takeWhile _ = name', cs.takeWhile _ = name
    cases name <;> cases name' <;> rfl
  · rw [dropWhile_cons_followed hdrop, takeWhile_followed hdrop]
    generalize cs.takeWhile _ = name
    rcases name with _ | ⟨first, others⟩
    · rfl
    · by_cases hc : c = '>'
      · subst hc
        change (if _ then _ else none) = Option.map followed (if _ then _ else none)
        split_ifs <;> rfl
      · simp [hc]

theorem named_followed (names : List (List Char)) (cs : List Char) :
    named names (cs ++ [')']) = (named names cs).map followed := by
  rw [named, named, readGroupName_followed, Option.map_map, Option.map_map]
  rfl

/-- What flags begin, once they are read. -/
def flaggedAs (names : List (List Char)) : FlagEdits × Char × List Char → Option (Opening × List Char)
  | ([], ')', _) => none
  | (edits, ')', rest) => some (.directive edits, rest)
  | (edits, _, rest) => some (.group edits names, rest)

theorem flagged_eq (names : List (List Char)) (cs : List Char) :
    flagged names cs = (readFlags [] true false cs).bind (flaggedAs names) := by
  unfold flagged
  split <;> rename_i h <;> rw [h]
  · rfl
  · rw [Option.bind_some, flaggedAs]
    assumption
  · rw [Option.bind_some, flaggedAs]
    · assumption
    · assumption
  · rfl

theorem flagged_followed (names : List (List Char)) (cs : List Char) :
    Extends (flagged names cs) (flagged names (cs ++ [')'])) := by
  rw [flagged_eq, flagged_eq]
  refine (readFlags_followed [] true false cs).through ?_ ?_
  · intro x y hy
    unfold flaggedAs at hy
    split at hy <;> cases hy <;> rfl
  · rintro ⟨edits, close, r⟩
    by_cases hclose : close = ')'
    · subst hclose
      cases edits <;> rfl
    · have hgroup : ∀ r, flaggedAs names (edits, close, r) = some (.group edits names, r) := by
        intro r
        rw [flaggedAs]
        · exact fun _ => hclose
        · exact hclose
      rw [followed_pair, followed_pair, hgroup, hgroup]
      rfl

/-- What an opening parenthesis begins, without idle text before it. -/
def openingFrom (scope : Scope) (cs : List Char) : Option (Opening × List Char) :=
  match cs with
  | '?' :: '=' :: _ | '?' :: '!' :: _ | '?' :: '<' :: '=' :: _ | '?' :: '<' :: '!' :: _ => none
  | '?' :: 'P' :: '<' :: r | '?' :: '<' :: r => named scope.names r
  | '?' :: r => flagged scope.names r
  | r => some (.group [] scope.names, r)

theorem readOpening_eq (scope : Scope) (cs : List Char) :
    readOpening scope cs = openingFrom scope (skipIdle scope.idle cs) := by
  rfl

theorem openingFrom_followed (scope : Scope) (cs : List Char) :
    Extends (openingFrom scope cs) (openingFrom scope (cs ++ [')'])) := by
  fun_cases openingFrom scope cs with
  | case1 | case2 | case3 | case4 => exact .inl rfl
  | case5 r => exact .inl (named_followed scope.names r)
  | case6 r hequals hmark =>
    rw [List.cons_append, List.cons_append, openingFrom]
    · exact .inl (named_followed scope.names r)
    · exact ne_cons_append (by decide) hequals
    · exact ne_cons_append (by decide) hmark
  | case7 r hequals hmark hbehind hbehindNot hnamed hshort =>
    rw [List.cons_append, openingFrom]
    · exact flagged_followed scope.names r
    · exact ne_cons_append (by decide) hequals
    · exact ne_cons_append (by decide) hmark
    · exact fun tail => ne_cons_append (by decide) hshort ('=' :: tail)
    · exact fun tail => ne_cons_append (by decide) hshort ('!' :: tail)
    · intro r' hr'
      obtain ⟨r'', hr'', hr'⟩ := eq_cons_of_append (by decide) hr'
      exact ne_cons_append (by decide) (fun tail htail => hnamed tail (htail ▸ hr'')) r' hr'
    · exact ne_cons_append (by decide) hshort
  | case8 _ _ _ _ _ _ _ hmark =>
    rw [openingFrom]
    · exact .inl rfl
    all_goals intros; exact ne_cons_append (by decide) hmark _ ‹_›

theorem readOpening_followed (scope : Scope) (cs : List Char) :
    Extends (readOpening scope cs) (readOpening scope (cs ++ [')'])) := by
  rw [readOpening_eq, readOpening_eq]
  refine Extends.skipIdle (openingFrom_followed scope) (fun x hx => ?_) scope.idle cs
  cases hx
  rfl

/-! ## Patterns -/

theorem readAtom_followed {idle : Bool} {c : Char} {cs : List Char}
    (h : c = '\\' → ¬ DanglingEscape idle cs) :
    Extends (readAtom idle c cs) (readAtom idle c (cs ++ [')'])) := by
  rcases readAtom_cases idle c with ⟨hc, hr⟩ | ⟨e, hr⟩
  · rw [hr, hr]
    exact readEscape_followed (h hc)
  · rw [hr, hr]
    exact .inl rfl

theorem readBody_nil (n : Nat) (scope : Scope) (branches items : List Expression) :
    readBody (n + 1) scope [] branches items = some (closeBranches branches items, scope, []) := by
  rw [readBody_succ, skipIdle_nil]

theorem left_of_readBody_nil {n : Nat} {scope : Scope} {branches items : List Expression}
    {x : Expression × Scope × List Char} (h : readBody n scope [] branches items = some x) :
    left x = [] :=
  List.eq_nil_of_suffix_nil (readBody_suffix h)

/-- A brace with nothing but a parenthesis behind it counts nothing. -/
theorem readBody_brace {scope : Scope} {r : List Char} (h : skipIdle scope.idle r = [')'])
    (n : Nat) (branches items : List Expression) :
    readBody n scope ('\x7b' :: r) branches items = none := by
  have hbrace : ∀ idle, skipIdle idle ('\x7b' :: r) = '\x7b' :: r := by
    rintro (_ | _) <;> rfl
  have hcount : readRepetition scope.idle '\x7b' r = none := by
    change readCount scope.idle r = none
    rw [readCount_eq, h]
    rfl
  rcases n with _ | n
  · rfl
  · rw [readBody_succ, hbrace]
    dsimp only
    rw [bodyStep, hcount]
    rfl

section Step

variable {m n : Nat} {r : List Char}
  (hrest : ∀ {rest : List Char}, rest <:+ r → ∀ scope branches items,
    Extends (readBody (n + 1) scope rest branches items)
      (readBody (m + 1) scope (rest ++ [')']) branches items))
  (scope : Scope) (branches items : List Expression)

theorem readBody_spent (m n : Nat) (scope : Scope) (branches items : List Expression) :
    readBody (n + 1) scope [] branches items = readBody (m + 1) scope [] branches items ∧
      ∀ x, readBody (m + 1) scope [] branches items = some x → left x = [] :=
  ⟨by rw [readBody_nil, readBody_nil], fun _ hx => left_of_readBody_nil hx⟩

include hrest

theorem afterGroup_followed (edits : FlagEdits) {x : Expression × Scope × List Char}
    (hx : left x <:+ r) :
    Extends (afterGroup (readBody (n + 1)) scope branches items edits x)
      (afterGroup (readBody (m + 1)) scope branches items edits (followed x)) := by
  obtain ⟨inner, scope', _ | ⟨c, rest⟩⟩ := x
  · exact .of_none fun y hy => left_of_readBody_nil hy
  · by_cases hc : c = ')'
    · subst hc
      exact hrest ((List.suffix_cons _ rest).trans hx) _ branches _
    · have hnone : ∀ (next : BodyReader) rest,
          afterGroup next scope branches items edits (inner, scope', c :: rest) = none :=
        fun next rest => by simp [afterGroup, hc]
      rw [followed_pair, followed_pair, followed_chars, List.cons_append, hnone, hnone]
      exact .inl rfl

theorem afterOpening_followed {x : Opening × List Char} (hx : left x <:+ r) :
    Extends (afterOpening (readBody (n + 1)) scope branches items x)
      (afterOpening (readBody (m + 1)) scope branches items (followed x)) := by
  obtain ⟨opening, rest⟩ := x
  cases opening with
  | directive edits => exact hrest hx _ branches _
  | group edits names =>
    refine (hrest hx _ [] []).bind (fun y hy => ?_) fun y hy => ?_
    · exact afterGroup_followed hrest scope branches items edits ((readBody_suffix hy).trans hx)
    · obtain ⟨inner, scope', rest'⟩ := y
      obtain rfl : rest' = [] := hy
      exact ⟨rfl, fun z hz => by cases hz⟩

omit hrest in
theorem afterOpening_spent {x : Opening × List Char} (hx : left x = []) :
    afterOpening (readBody (n + 1)) scope branches items x =
        afterOpening (readBody (m + 1)) scope branches items x ∧
      ∀ y, afterOpening (readBody (m + 1)) scope branches items x = some y → left y = [] := by
  obtain ⟨opening, rest⟩ := x
  obtain rfl : rest = [] := hx
  cases opening with
  | directive edits => exact readBody_spent m n _ branches _
  | group edits names =>
    simp only [afterOpening, readBody_nil]
    exact ⟨rfl, fun z hz => by cases hz⟩

theorem bodyStep_followed (c : Char) :
    Extends (bodyStep (readBody (n + 1)) scope branches items c r)
      (bodyStep (readBody (m + 1)) scope branches items c (r ++ [')'])) := by
  unfold bodyStep
  split_ifs
  · exact .inl rfl
  · exact hrest List.suffix_rfl scope _ []
  · refine (readOpening_followed scope r).bind (fun x hx => ?_) fun x hx => ?_
    · exact afterOpening_followed hrest scope branches items (readOpening_suffix hx)
    · exact afterOpening_spent scope branches items hx
  · rw [readBracket_followed]
    rcases hr : readBracket scope.idle r with _ | ⟨s, rest⟩
    · exact .inl rfl
    · exact hrest (readBracket_suffix hr) scope branches _
  · refine (readRepetition_followed scope.idle c r).bind (fun x hx => ?_) fun x hx => ?_
    · obtain ⟨least, greatest, rest⟩ := x
      dsimp only [followed_pair, followed_chars]
      rcases repeatLast items least greatest with _ | items'
      · exact .inl rfl
      · exact hrest (readRepetition_suffix hx) scope branches items'
    · obtain ⟨least, greatest, rest⟩ := x
      obtain rfl : rest = [] := hx
      dsimp only
      rcases repeatLast items least greatest with _ | items'
      · exact ⟨rfl, fun y hy => by cases hy⟩
      · exact readBody_spent m n scope branches items'
  · by_cases hdangling : c = '\\' ∧ DanglingEscape scope.idle r
    · obtain ⟨rfl, hr⟩ := hdangling
      obtain ⟨hnone, hsome⟩ := hr.readEscape
      have hatom : ∀ r, readAtom scope.idle '\\' r = readEscape scope.idle r := fun r => rfl
      rw [hatom, hatom, hnone]
      refine .of_none fun y hy => ?_
      obtain ⟨x, hx, hy⟩ := Option.bind_eq_some_iff.1 hy
      obtain ⟨r', rfl, hr'⟩ := hsome x hx
      cases (readBody_brace hr' _ _ _).symm.trans hy
    · refine (readAtom_followed fun hc hr => hdangling ⟨hc, hr⟩).bind (fun x hx => ?_) fun x hx => ?_
      · exact hrest (readAtom_suffix hx) scope branches _
      · obtain ⟨e, rest⟩ := x
        obtain rfl : rest = [] := hx
        exact readBody_spent m n scope branches _

end Step

theorem readBody_followed {m n : Nat} {cs : List Char} (hn : cs.length < n) (hm : cs.length < m)
    (scope : Scope) (branches items : List Expression) :
    Extends (readBody n scope cs branches items)
      (readBody (m + 1) scope (cs ++ [')']) branches items) := by
  induction n generalizing m cs scope branches items with
  | zero => cases hn
  | succ n ih =>
    rw [readBody_succ, readBody_succ]
    rcases skipIdle_followed scope.idle cs with h | ⟨h, h'⟩
    · rw [h]
      rcases hcs : skipIdle scope.idle cs with _ | ⟨c, r⟩
      · exact .inl rfl
      · have hlength := length_lt_of_skipIdle hcs
        obtain ⟨m, rfl⟩ := Nat.exists_eq_add_one_of_ne_zero (show m ≠ 0 by omega)
        obtain ⟨n, rfl⟩ := Nat.exists_eq_add_one_of_ne_zero (show n ≠ 0 by omega)
        exact bodyStep_followed (fun {rest} hrest scope branches items => by
          have hle := hrest.length_le
          exact ih (by omega) (by omega) scope branches items) scope branches items c
    · rw [h, h']
      exact .refl fun x hx => by cases hx; rfl

end GitPractice.Regex
