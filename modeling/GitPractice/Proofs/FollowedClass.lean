import GitPractice.Proofs.Followed

/-!
# A closing parenthesis behind a class

A class in brackets ends with a bracket, so a parenthesis behind the text cannot end it: the class is
read as before, or in both texts it is not closed (`readBracket_followed`). Within the class the
parenthesis may be taken for a character of it; as nothing is left then, the class is not closed
either (`Stalls`).
-/

namespace GitPractice.Regex

open Reading (left followed)
open Text (isBlank)

theorem dropWhile_nil_followed {p : Char → Bool} {cs : List Char} (hp : p ')' = true)
    (h : cs.dropWhile p = []) : (cs ++ [')']).dropWhile p = [] := by
  simp [List.dropWhile_append, h, hp]

theorem dropWhile_cons_followed {p : Char → Bool} {cs r : List Char} {c : Char}
    (h : cs.dropWhile p = c :: r) : (cs ++ [')']).dropWhile p = c :: (r ++ [')']) := by
  simp [List.dropWhile_append, h]

theorem takeWhile_followed {p : Char → Bool} {cs r : List Char} {c : Char}
    (h : cs.dropWhile p = c :: r) : (cs ++ [')']).takeWhile p = cs.takeWhile p := by
  have hlength := congrArg List.length (List.takeWhile_append_dropWhile (p := p) (l := cs))
  rw [List.length_append, h, List.length_cons] at hlength
  rw [List.takeWhile_append, if_neg]
  omega

/-- A class by its name, after the colon and the sign. -/
def classNamed (negated : Bool) (cs : List Char) : Option (CharClass × List Char) :=
  match cs.dropWhile (· != ':') with
  | ':' :: ']' :: rest =>
    (asciiClasses.lookup (String.ofList (cs.takeWhile (· != ':')))).map fun ranges =>
      (.ascii ranges negated, rest)
  | _ => none

theorem classNamed_followed (negated : Bool) (cs : List Char) :
    classNamed negated (cs ++ [')']) = (classNamed negated cs).map followed := by
  unfold classNamed
  rcases hdrop : cs.dropWhile (· != ':') with _ | ⟨c, r⟩
  · rw [dropWhile_nil_followed (by decide) hdrop]
    rfl
  · rw [dropWhile_cons_followed hdrop, takeWhile_followed hdrop]
    by_cases hclose : ∃ rest, c = ':' ∧ r = ']' :: rest
    · obtain ⟨rest, rfl, rfl⟩ := hclose
      generalize asciiClasses.lookup _ = named
      cases named <;> rfl
    · have hnone : ∀ rest, c :: r ≠ ':' :: ']' :: rest := fun rest heq => by
        cases heq
        exact hclose ⟨rest, rfl, rfl⟩
      split
      · rename_i rest heq
        obtain ⟨r', hr', -⟩ := eq_cons_of_append (by decide) (List.cons.inj heq).2
        exact absurd (by rw [hr', (List.cons.inj heq).1]) (hnone r')
      · rfl

theorem asciiClass?_plain {r : List Char} (h : ∀ r', r ≠ '^' :: r') :
    asciiClass? (':' :: r) = classNamed false r := by
  unfold asciiClass?
  split
  · rename_i r' hr
    cases hr
    split
    rename_i negated r' hsign
    split at hsign
    · exact absurd rfl (h _)
    · cases hsign
      rfl
  · rename_i hne
    exact absurd rfl (hne r)

theorem asciiClass?_followed (cs : List Char) :
    asciiClass? (cs ++ [')']) = (asciiClass? cs).map followed := by
  rcases begins_or_not (c := ':') (by decide) cs with ⟨r, rfl⟩ | ⟨hne, hne'⟩
  · rcases begins_or_not (c := '^') (by decide) r with ⟨r', rfl⟩ | ⟨hsign, hsign'⟩
    · exact classNamed_followed true r'
    · rw [List.cons_append, asciiClass?_plain hsign, asciiClass?_plain hsign']
      exact classNamed_followed false r
  · rw [asciiClass?, asciiClass?]
    · rfl
    · exact hne
    · exact hne'

/-- The characters that stand for themselves at the start of a class, after its sign. -/
def classHead (idle negated : Bool) (cs : List Char) : Bool × List CharClass × List Char :=
  match readRun idle (· == '-') cs with
  | ([], ']' :: r) => (negated, [.range ']' ']'], skipIdle idle r)
  | (hyphens, r) => (negated, hyphens.map fun c => .range c c, r)

theorem classHead_followed (idle negated : Bool) (cs : List Char) :
    Follows (classHead idle negated cs) (classHead idle negated (cs ++ [')'])) := by
  unfold classHead
  generalize readRun idle (· == '-') cs = a, readRun idle (· == '-') (cs ++ [')']) = b,
    readRun_followed idle (· == '-') cs = h
  rcases h with rfl | ⟨h, h'⟩
  · obtain ⟨hyphens, r⟩ := a
    by_cases hbracket : ∃ r', hyphens = [] ∧ r = ']' :: r'
    · obtain ⟨r', rfl, rfl⟩ := hbracket
      rcases skipIdle_followed idle r' with hr | hr
      · exact .inl (congrArg (fun rest => (negated, [CharClass.range ']' ']'], rest)) hr)
      · exact .inr hr
    · refine .inl ?_
      split
      · rename_i r' heq
        obtain ⟨hnil, hr'⟩ := Prod.mk.inj heq
        obtain ⟨r'', hr'', -⟩ := eq_cons_of_append (by decide) hr'
        exact absurd ⟨r'', hnil, hr''⟩ hbracket
      · split
        · rename_i heq
          cases heq
          exact absurd ⟨_, rfl, rfl⟩ hbracket
        · rename_i heq _ _ _ _ heq'
          cases heq
          cases heq'
          rfl
  · obtain ⟨hyphens, r⟩ := a
    obtain ⟨hyphens', r'⟩ := b
    obtain rfl : r = [] := h
    obtain rfl : r' = [] := h'
    exact .inr ⟨by cases hyphens <;> rfl, by cases hyphens' <;> rfl⟩

theorem readClassStart_of_sign {idle : Bool} {cs r : List Char} (h : skipIdle idle cs = '^' :: r) :
    readClassStart idle cs = classHead idle true (skipIdle idle r) := by
  unfold readClassStart
  rw [h]
  rfl

theorem readClassStart_of_ne {idle : Bool} {cs : List Char} (h : ∀ r, skipIdle idle cs ≠ '^' :: r) :
    readClassStart idle cs = classHead idle false (skipIdle idle cs) := by
  unfold readClassStart
  split
  rename_i negated r hsign
  split at hsign
  · rename_i hr
    exact absurd hr (h _)
  · cases hsign
    rfl

theorem classHead_nil (idle negated : Bool) : classHead idle negated [] = (negated, [], []) := by
  rw [classHead, readRun_nil]
  rfl

theorem readClassStart_followed (idle : Bool) (cs : List Char) :
    Follows (readClassStart idle cs) (readClassStart idle (cs ++ [')'])) := by
  have hskip : ∀ negated cs, Follows (classHead idle negated (skipIdle idle cs))
      (classHead idle negated (skipIdle idle (cs ++ [')']))) := by
    intro negated cs
    rcases skipIdle_followed idle cs with h | ⟨h, h'⟩
    · rw [h]
      exact classHead_followed idle negated (skipIdle idle cs)
    · rw [h, h', classHead_nil]
      exact .inr ⟨rfl, rfl⟩
  rcases skipIdle_begins_or_not (c := '^') (by decide) idle cs with ⟨r, hr, hr'⟩ | ⟨hne, hne'⟩
  · rw [readClassStart_of_sign hr, readClassStart_of_sign hr']
    exact hskip true r
  · rw [readClassStart_of_ne hne, readClassStart_of_ne hne']
    exact hskip false cs

theorem head?_append_parenthesis (cs : List Char) {c : Char} (hc : c ≠ ')') :
    ((cs ++ [')']).head? == some c) = (cs.head? == some c) := by
  rcases cs with _ | ⟨d, r⟩
  · simpa using hc.symm
  · rfl

theorem dropBlank_append_parenthesis (cs : List Char) :
    (cs ++ [')']).dropWhile isBlank = cs.dropWhile isBlank ++ [')'] := by
  rw [List.dropWhile_append]
  split_ifs with hempty
  · rw [List.isEmpty_iff.1 hempty]
    rfl
  · rfl

theorem pastHyphen_followed (idle : Bool) (cs : List Char) {c : Char} (hc : c ≠ ')') :
    (pastHyphen idle (cs ++ [')']) == some c) = (pastHyphen idle cs == some c) := by
  unfold pastHyphen
  rw [dropBlank_append_parenthesis]
  generalize cs.dropWhile isBlank = t
  split_ifs
  · by_cases hsign : ∃ r, t = '#' :: r
    · obtain ⟨r, rfl⟩ := hsign
      simpa only [List.cons_append, dropBlank_append_parenthesis] using
        head?_append_parenthesis (r.dropWhile isBlank) hc
    · split
      · rename_i r hr
        obtain ⟨r', hr', -⟩ := eq_cons_of_append (by decide) hr
        exact absurd ⟨r', hr'⟩ hsign
      · split
        · exact absurd ⟨_, rfl⟩ hsign
        · exact head?_append_parenthesis t hc
  · exact head?_append_parenthesis cs hc

/-- An item of a class that is one. -/
def classItem? (idle : Bool) (cs : List Char) : Option (Expression × List Char) :=
  (readClassItem idle cs).filter fun x => (asClass? x.1).isSome

theorem Extends.filter {β : Type} [Reading β] {a b : Option β} (h : Extends a b) {p : β → Bool}
    (hp : ∀ x, p (followed x) = p x) : Extends (a.filter p) (b.filter p) := by
  rw [← Option.bind_guard, ← Option.bind_guard]
  refine h.through (fun x y hy => ?_) fun x => ?_
  · rw [(Option.guard_eq_some_iff.1 hy).1]
  · rw [Option.guard, Option.guard, hp]
    split_ifs <;> rfl

theorem readClassItem_followed {idle : Bool} {cs : List Char}
    (h : ∀ r, cs = '\\' :: r → ¬ DanglingEscape idle r) :
    Extends (readClassItem idle cs) (readClassItem idle (cs ++ [')'])) := by
  rcases cs with _ | ⟨c, r⟩
  · exact .of_none fun y hy => by cases hy; rfl
  · by_cases hc : c = '\\'
    · subst hc
      exact readEscape_followed (h r rfl)
    · have hitem : ∀ r, readClassItem idle (c :: r) = some (.literal c false, r) := by
        intro r
        rw [readClassItem]
        rintro rfl
        exact hc rfl
      rw [List.cons_append, hitem, hitem]
      exact .inl rfl

theorem classItem?_followed (idle : Bool) (cs : List Char) :
    Extends (classItem? idle cs) (classItem? idle (cs ++ [')'])) := by
  unfold classItem?
  by_cases hdangling : ∃ r, cs = '\\' :: r ∧ DanglingEscape idle r
  · obtain ⟨r, rfl, hr⟩ := hdangling
    obtain ⟨hnone, hsome⟩ := hr.readEscape
    have hitem : ∀ r, readClassItem idle ('\\' :: r) = readEscape idle r := fun r => rfl
    rw [List.cons_append, hitem, hitem, hnone]
    refine .of_none fun y hy => ?_
    obtain ⟨hy, hclass⟩ := Option.filter_eq_some_iff.1 hy
    obtain ⟨r', rfl, -⟩ := hsome y hy
    cases hclass
  · exact (readClassItem_followed fun r hr hr' => hdangling ⟨r, hr, hr'⟩).filter fun x => rfl

/-- The range from one item of a class to another. -/
def spanned (first : Expression) (x : Expression × List Char) : Option (CharClass × List Char) :=
  (asLiteral? first).bind fun a => (asLiteral? x.1).bind fun b =>
    if a ≤ b then some (.range a b, x.2) else none

theorem Extends.spanned {a b : Option (Expression × List Char)} (h : Extends a b)
    (first : Expression) : Extends (a.bind (spanned first)) (b.bind (spanned first)) := by
  refine h.through (fun x y hy => ?_) fun x => ?_
  · simp only [Regex.spanned, Option.bind_eq_some_iff] at hy
    obtain ⟨c, -, d, -, hy⟩ := hy
    split_ifs at hy
    cases hy
    rfl
  · obtain ⟨e, r⟩ := x
    rw [followed_pair]
    unfold Regex.spanned
    cases asLiteral? first with
    | none => rfl
    | some a =>
      cases asLiteral? e with
      | none => rfl
      | some b =>
        simp only [Option.bind_some]
        split_ifs <;> rfl

/-- What an item of a class begins: a range, or the item alone. -/
def rangeFrom (idle : Bool) (first : Expression) (cs : List Char) :
    Option (CharClass × List Char) :=
  match cs with
  | [] => none
  | '-' :: r =>
    if pastHyphen idle r == some ']' || pastHyphen idle r == some '-' then
      (asClass? first).map (·, '-' :: r)
    else (classItem? idle (skipIdle idle r)).bind (spanned first)
  | rest => (asClass? first).map (·, rest)

theorem asLiteral?_of_asClass? {e : Expression} (h : asClass? e = none) : asLiteral? e = none := by
  cases e <;> first | rfl | cases h

/-- Where nothing but an item of a class leads on, there is no need to ask for one. -/
theorem bind_classItem? {α : Type} {idle : Bool} {cs : List Char}
    {f : Expression × List Char → Option α} (hf : ∀ x, asClass? x.1 = none → f x = none) :
    (classItem? idle cs).bind f = (readClassItem idle cs).bind f := by
  unfold classItem?
  rcases readClassItem idle cs with _ | x
  · rfl
  · rcases hx : asClass? x.1 with _ | s
    · rw [Option.filter_some_neg (by simp [hx]), Option.bind_some, hf x hx]
      rfl
    · rw [Option.filter_some_pos (by simp [hx])]

theorem readClassRange_eq (idle : Bool) (cs : List Char) :
    readClassRange idle cs = (classItem? idle cs).bind fun x =>
      rangeFrom idle x.1 (skipIdle idle x.2) := by
  rw [bind_classItem?]
  · unfold readClassRange
    rw [Option.bind_eq_bind]
    congr 1
    funext ⟨first, r⟩
    dsimp only
    generalize skipIdle idle r = t
    split
    · rfl
    · rw [rangeFrom]
      split_ifs
      · rfl
      · rw [bind_classItem?]
        · rfl
        · intro x hx
          rw [spanned, asLiteral?_of_asClass? hx]
          cases asLiteral? first <;> rfl
    · rw [rangeFrom]
      · assumption
      · assumption
  · intro x hx
    fun_cases rangeFrom idle x.1 (skipIdle idle x.2) with
    | case1 => rfl
    | case2 => rw [hx]; rfl
    | case3 =>
      have hnone : spanned x.1 = fun _ => none := by
        funext y
        rw [spanned, asLiteral?_of_asClass? hx]
        rfl
      rw [hnone]
      exact Option.bind_fun_none _
    | case4 => rw [hx]; rfl

/-- With a parenthesis behind the text, a class goes on in the same way, or stalls: nothing is left
but the parenthesis. -/
def Stalls {β : Type} [Reading β] (a b : Option β) : Prop :=
  b = a.map followed ∨ (∀ x, a = some x → left x = []) ∧
    ∀ y, b = some y → left y = [] ∨ left y = [')']

theorem Extends.stalls {β : Type} [Reading β] {a b : Option β} (h : Extends a b) : Stalls a b := by
  rcases h with h | ⟨y, hy, rfl, ha⟩
  · exact .inl h
  · refine .inr ⟨fun x hx => ?_, fun x hx => ?_⟩
    · rcases ha with rfl | rfl
      · cases hx
      · cases hx
        exact hy
    · cases hx
      exact .inl hy

theorem rangeFrom_followed (idle : Bool) (first : Expression) (cs : List Char) :
    Stalls (rangeFrom idle first cs) (rangeFrom idle first (cs ++ [')'])) := by
  fun_cases rangeFrom idle first cs with
  | case1 =>
    refine .inr ⟨fun x hx => (nomatch hx), fun y hy => .inr ?_⟩
    obtain ⟨s, -, rfl⟩ := Option.map_eq_some_iff.1 hy
    rfl
  | case2 r hhyphen =>
    rw [List.cons_append, rangeFrom, pastHyphen_followed idle r (by decide),
      pastHyphen_followed idle r (by decide), if_pos hhyphen]
    exact .inl (by cases asClass? first <;> rfl)
  | case3 r hhyphen =>
    rw [List.cons_append, rangeFrom, pastHyphen_followed idle r (by decide),
      pastHyphen_followed idle r (by decide), if_neg hhyphen]
    have hlast := Extends.skipIdle (classItem?_followed idle) ?_ idle r
    · exact (hlast.spanned first).stalls
    · intro x hx
      cases hx
  | case4 _ hnil hhyphen =>
    rw [rangeFrom]
    · exact .inl (by cases asClass? first <;> rfl)
    · simp
    · exact ne_cons_append (by decide) hhyphen

theorem readClassRange_followed (idle : Bool) (cs : List Char) :
    Stalls (readClassRange idle cs) (readClassRange idle (cs ++ [')'])) := by
  rw [readClassRange_eq, readClassRange_eq]
  rcases classItem?_followed idle cs with h | ⟨y, hy, hb, ha⟩
  · rw [h]
    rcases classItem? idle cs with _ | ⟨first, r⟩
    · exact .inl rfl
    · rw [Option.map_some, Option.bind_some, Option.bind_some, followed_pair]
      rcases skipIdle_followed idle r with hr | ⟨hr, hr'⟩
      · rw [followed_chars, hr]
        exact rangeFrom_followed idle first (skipIdle idle r)
      · rw [followed_chars, hr, hr']
        exact .inl rfl
  · have hnone : rangeFrom idle y.1 (skipIdle idle y.2) = none := by
      rw [show y.2 = [] from hy, skipIdle_nil]
      rfl
    rw [hb, Option.bind_some, hnone]
    rcases ha with ha | ha
    · rw [ha]
      exact .inl rfl
    · rw [ha, Option.bind_some, hnone]
      exact .inl rfl

inductive ClassToken where
  | close
  | opening
  | operator (kind : SetOp)
  | item

/-- What a class goes on with. -/
def classToken : List Char → Option (ClassToken × List Char)
  | [] => none
  | ']' :: r => some (.close, r)
  | '[' :: r => some (.opening, r)
  | '&' :: '&' :: r => some (.operator .inter, r)
  | '-' :: '-' :: r => some (.operator .diff, r)
  | '~' :: '~' :: r => some (.operator .symmDiff, r)
  | r => some (.item, r)

/-- How a class goes on, given how it does from the next item on. -/
def classStep (idle : Bool)
    (next : List Char → Option (SetOp × CharClass) → List CharClass → Option (CharClass × List Char))
    (pending : Option (SetOp × CharClass)) (items : List CharClass) :
    ClassToken × List Char → Option (CharClass × List Char)
  | (.close, r) => some (closeOperand pending items, r)
  | (.opening, r) =>
    match asciiClass? r with
    | some (s, rest) => next rest pending (items ++ [s])
    | none =>
      let start := readClassStart idle r
      (next start.2.2 none start.2.1).bind fun (inner, rest) =>
        next rest pending (items ++ [.bracket start.1 inner])
  | (.operator kind, r) => next r (some (kind, closeOperand pending items)) []
  | (.item, r) => (readClassRange idle r).bind fun (s, rest) => next rest pending (items ++ [s])

theorem readClass_succ (n : Nat) (idle : Bool) (cs : List Char)
    (pending : Option (SetOp × CharClass)) (items : List CharClass) :
    readClass (n + 1) idle cs pending items =
      (classToken (skipIdle idle cs)).bind (classStep idle (readClass n idle) pending items) := by
  rw [readClass]
  generalize skipIdle idle cs = t
  split
  case h_3 r =>
    change _ = classStep idle (readClass n idle) pending items (.opening, r)
    rw [classStep]
    rcases asciiClass? r with _ | x
    · rcases readClassStart idle r with ⟨negated, first, r'⟩
      dsimp only
      cases readClass n idle r' none first <;> rfl
    · rfl
  case h_7 =>
    rw [classToken, Option.bind_some, classStep]
    · cases readClassRange idle t <;> rfl
    all_goals assumption
  all_goals rfl

theorem classToken_followed {cs : List Char} (h : cs ≠ []) :
    classToken (cs ++ [')']) = (classToken cs).map followed := by
  have htwo : ∀ c : Char, c ≠ ')' → (∀ r, cs = c :: c :: r → False) →
      ∀ r, cs ++ [')'] = c :: c :: r → False := by
    intro c hc hne r hr
    obtain ⟨r', hr', hr⟩ := eq_cons_of_append hc hr
    obtain ⟨r'', hr'', -⟩ := eq_cons_of_append hc hr
    exact hne r'' (hr'' ▸ hr')
  fun_cases classToken cs with
  | case1 => exact absurd rfl h
  | case2 | case3 | case4 | case5 | case6 => rfl
  | case7 _ _ hclose hopening hinter hdiff hsymm =>
    rw [classToken]
    · rfl
    · simp
    · exact ne_cons_append (by decide) hclose
    · exact ne_cons_append (by decide) hopening
    · exact htwo '&' (by decide) hinter
    · exact htwo '-' (by decide) hdiff
    · exact htwo '~' (by decide) hsymm

theorem readClass_nil (n : Nat) (idle : Bool) (pending : Option (SetOp × CharClass))
    (items : List CharClass) : readClass n idle [] pending items = none := by
  rcases n with _ | n
  · rfl
  · rw [readClass_succ, skipIdle_nil]
    rfl

theorem skipIdle_parenthesis (idle : Bool) : skipIdle idle [')'] = [')'] := by
  cases idle <;> rfl

/-- A class does not end with a parenthesis. -/
theorem readClass_of_parenthesis {idle : Bool} {cs : List Char} (h : skipIdle idle cs = [')'])
    (n : Nat) (pending : Option (SetOp × CharClass)) (items : List CharClass) :
    readClass n idle cs pending items = none := by
  have hrange : readClassRange idle [')'] = none := by
    rw [readClassRange_eq]
    change rangeFrom idle (.literal ')' false) (skipIdle idle []) = none
    rw [skipIdle_nil]
    rfl
  rcases n with _ | n
  · rfl
  · rw [readClass_succ, h]
    change (readClassRange idle [')']).bind _ = none
    rw [hrange]
    rfl

theorem classToken_suffix {c : Char} {r r' : List Char} {token : ClassToken}
    (h : classToken (c :: r) = some (token, r')) :
    token = .item ∧ r' = c :: r ∨ token ≠ .item ∧ r' <:+ r := by
  unfold classToken at h
  split at h
  case h_1 => cases h
  case h_7 =>
    cases h
    exact .inl ⟨rfl, rfl⟩
  case h_2 | h_3 =>
    rename_i heq
    cases heq
    cases h
    exact .inr ⟨nofun, List.suffix_rfl⟩
  case h_4 | h_5 | h_6 =>
    rename_i heq
    cases heq
    cases h
    exact .inr ⟨nofun, List.suffix_cons _ _⟩

section Step

variable {idle : Bool} {m n : Nat} {c : Char} {r : List Char}
  (hrest : ∀ {rest : List Char}, rest <:+ r → ∀ pending items,
    readClass m idle (rest ++ [')']) pending items =
      (readClass n idle rest pending items).map followed)
  (pending : Option (SetOp × CharClass)) (items : List CharClass)

include hrest

theorem classStep_item :
    classStep idle (readClass m idle) pending items (.item, c :: r ++ [')']) =
      (classStep idle (readClass n idle) pending items (.item, c :: r)).map followed := by
  rw [classStep, classStep]
  rcases readClassRange_followed idle (c :: r) with h | ⟨ha, hb⟩
  · rw [h]
    rcases hr : readClassRange idle (c :: r) with _ | ⟨s, rest⟩
    · rfl
    · exact hrest (readClassRange_suffix hr) pending (items ++ [s])
  · have hnone : ∀ n (a : Option (CharClass × List Char)),
        (∀ x, a = some x → left x = [] ∨ left x = [')']) →
        (a.bind fun (s, rest) => readClass n idle rest pending (items ++ [s])) = none := by
      rintro n (_ | ⟨s, rest⟩) ha
      · rfl
      · rcases ha _ rfl with h | h
        · obtain rfl : rest = [] := h
          exact readClass_nil n idle pending (items ++ [s])
        · obtain rfl : rest = [')'] := h
          exact readClass_of_parenthesis (skipIdle_parenthesis idle) n pending (items ++ [s])
    rw [hnone m _ hb, hnone n _ fun x hx => .inl (ha x hx)]
    rfl

theorem classStep_opening {r' : List Char} (hr' : r' <:+ r) :
    classStep idle (readClass m idle) pending items (.opening, r' ++ [')']) =
      (classStep idle (readClass n idle) pending items (.opening, r')).map followed := by
  rw [classStep, classStep, asciiClass?_followed]
  rcases hnamed : asciiClass? r' with _ | ⟨s, rest⟩
  · dsimp only [Option.map_none]
    have hstart := (readClassStart_suffix idle r').trans hr'
    rcases readClassStart_followed idle r' with h | ⟨h, h'⟩
    · rw [h]
      generalize readClassStart idle r' = start at hstart ⊢
      obtain ⟨negated, first, r''⟩ := start
      dsimp only [followed_pair, followed_chars] at hstart ⊢
      rw [hrest hstart]
      rcases hinner : readClass n idle r'' none first with _ | ⟨inner, rest⟩
      · rfl
      · exact hrest ((readClass_suffix hinner).trans hstart) _ _
    · rw [show (readClassStart idle r').2.2 = [] from h,
        show (readClassStart idle (r' ++ [')'])).2.2 = [] from h', readClass_nil, readClass_nil]
      rfl
  · exact hrest ((asciiClass?_suffix hnamed).trans hr') pending (items ++ [s])

end Step

theorem readClass_followed {idle : Bool} {m n : Nat} {cs : List Char} (hn : cs.length < n)
    (hm : cs.length < m) (pending : Option (SetOp × CharClass)) (items : List CharClass) :
    readClass (m + 1) idle (cs ++ [')']) pending items =
      (readClass n idle cs pending items).map followed := by
  induction n generalizing m cs pending items with
  | zero => cases hn
  | succ n ih =>
    obtain ⟨m, rfl⟩ := Nat.exists_eq_add_one_of_ne_zero (Nat.ne_of_gt (Nat.zero_lt_of_lt hm))
    have hlength := (skipIdle_suffix idle cs).length_le
    rcases skipIdle_followed idle cs with h | ⟨h, h'⟩
    · rcases hcs : skipIdle idle cs with _ | ⟨c, r⟩
      · rw [hcs] at h
        rw [readClass_of_parenthesis h, readClass_succ, hcs]
        rfl
      · rw [hcs, List.length_cons] at hlength
        -- what stands behind the first character is short enough for the steps left
        have hrest : ∀ {rest : List Char}, rest <:+ r → ∀ pending items,
            readClass (m + 1) idle (rest ++ [')']) pending items =
              (readClass n idle rest pending items).map followed := by
          intro rest hrest pending items
          have hle := hrest.length_le
          exact ih (by omega) (by omega) pending items
        rw [readClass_succ, readClass_succ, h, hcs,
          classToken_followed (List.cons_ne_nil c r)]
        rcases htoken : classToken (c :: r) with _ | ⟨token, r'⟩
        · rfl
        · rw [Option.map_some, followed_pair, followed_chars, Option.bind_some, Option.bind_some]
          rcases classToken_suffix htoken with ⟨rfl, rfl⟩ | ⟨hitem, hr'⟩
          · exact classStep_item hrest pending items
          · cases token with
            | close => rfl
            | opening => exact classStep_opening hrest pending items hr'
            | operator kind => exact hrest hr' _ _
            | item => exact absurd rfl hitem
    · rw [readClass_succ, readClass_succ, h, h']
      rfl

theorem readBracket_followed (idle : Bool) (cs : List Char) :
    readBracket idle (cs ++ [')']) = (readBracket idle cs).map followed := by
  unfold readBracket
  have hlength := (readClassStart_suffix idle cs).length_le
  rcases readClassStart_followed idle cs with h | ⟨h, h'⟩
  · rw [h]
    generalize readClassStart idle cs = start at hlength ⊢
    obtain ⟨negated, first, r⟩ := start
    dsimp only [followed_pair, followed_chars] at hlength ⊢
    have hclass : readClass (cs.length + 1 + 1) idle (r ++ [')']) none first =
        (readClass (cs.length + 1) idle r none first).map followed :=
      readClass_followed (Nat.lt_succ_of_le hlength) (Nat.lt_succ_of_le hlength) none first
    rw [List.length_append, List.length_singleton, hclass, Option.map_map, Option.map_map]
    rfl
  · generalize readClassStart idle cs = a at h ⊢
    generalize readClassStart idle (cs ++ [')']) = b at h' ⊢
    obtain ⟨negated, first, r⟩ := a
    obtain ⟨negated', first', r'⟩ := b
    obtain rfl : r = [] := h
    obtain rfl : r' = [] := h'
    dsimp only
    rw [readClass_nil, readClass_nil]
    rfl

end GitPractice.Regex
