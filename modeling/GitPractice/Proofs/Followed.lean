import GitPractice.Proofs.Remainder

/-!
# A closing parenthesis behind a text

With a closing parenthesis put behind its text, a reader of a part of a pattern reads what it read
before, and leaves the parenthesis, too. Only at the end of the text it may do otherwise: a comment
takes the parenthesis in, and what broke off at the end may go on with it. Then nothing is left at
all (`Extends`), so neither can look like a pattern that stops at the parenthesis.

There is one exception, an opening brace behind `\b` with nothing but a comment up to the end
(`DanglingEscape`): it begins the name of a boundary that is not there, but in front of a parenthesis
it stands apart.
-/

namespace GitPractice.Regex

open Text (isBlank isDigit charOfHex?)

/-- What a reader gives: something read, and behind it what is left of the text. -/
class Reading (β : Type) where
  left : β → List Char
  followed : β → β

open Reading (left followed)

instance : Reading (List Char) where
  left cs := cs
  followed cs := cs ++ [')']

instance {α γ : Type} [Reading γ] : Reading (α × γ) where
  left x := left x.2
  followed x := (x.1, followed x.2)

@[simp] theorem left_chars (cs : List Char) : left cs = cs := rfl

@[simp] theorem followed_chars (cs : List Char) : followed cs = cs ++ [')'] := rfl

section Relations

variable {β γ : Type} [Reading β] [Reading γ]

@[simp] theorem followed_pair {α : Type} (x : α) (y : γ) : followed (x, y) = (x, followed y) := rfl

/-- With a parenthesis behind the text, it is left, too, or nothing is left both times. -/
def Follows (a b : β) : Prop := b = followed a ∨ left a = [] ∧ left b = []

/-- With a parenthesis behind the text, the reader reads the same and leaves it, or it leaves
nothing and reads the same or broke off without it. -/
def Extends (a b : Option β) : Prop :=
  b = a.map followed ∨ ∃ y, left y = [] ∧ b = some y ∧ (a = none ∨ a = some y)

theorem Follows.extends {α : Type} {a b : List Char} (h : Follows a b) (x : α) :
    Extends (some (x, a)) (some (x, b)) := by
  rcases h with rfl | ⟨ha, hb⟩
  · exact .inl rfl
  · rw [left_chars] at ha hb
    exact .inr ⟨(x, b), hb, rfl, .inr (by rw [ha, hb])⟩

theorem Extends.same (a : Option β) : Extends a (a.map followed) := .inl rfl

theorem Extends.refl {a : Option β} (h : ∀ x, a = some x → left x = []) : Extends a a := by
  cases a with
  | none => exact .inl rfl
  | some x => exact .inr ⟨x, h x rfl, rfl, .inr rfl⟩

theorem Extends.of_none {b : Option β} (h : ∀ y, b = some y → left y = []) : Extends none b := by
  cases b with
  | none => exact .inl rfl
  | some y => exact .inr ⟨y, h y rfl, rfl, .inl rfl⟩

/-- One reader after the other. -/
theorem Extends.bind {a b : Option β} {f g : β → Option γ} (h : Extends a b)
    (hsame : ∀ x, a = some x → Extends (f x) (g (followed x)))
    (hspent : ∀ x, left x = [] → f x = g x ∧ ∀ y, g x = some y → left y = []) :
    Extends (a.bind f) (b.bind g) := by
  rcases h with rfl | ⟨y, hy, rfl, rfl | rfl⟩
  · cases a with
    | none => exact .inl rfl
    | some x => exact hsame x rfl
  · exact .of_none (hspent y hy).2
  · rw [Option.bind_some, Option.bind_some, (hspent y hy).1]
    exact .refl (hspent y hy).2

/-- What is read may be put into another form, or refused. -/
theorem Extends.through {a b : Option β} {f : β → Option γ} (h : Extends a b)
    (hleft : ∀ x y, f x = some y → left y = left x)
    (hfollowed : ∀ x, f (followed x) = (f x).map followed) : Extends (a.bind f) (b.bind f) :=
  h.bind (fun x _ => .inl (hfollowed x)) fun x hx => ⟨rfl, fun y hy => (hleft x y hy).trans hx⟩

theorem Extends.map {a b : Option β} {f : β → γ} (h : Extends a b)
    (hleft : ∀ x, left (f x) = left x) (hfollowed : ∀ x, f (followed x) = followed (f x)) :
    Extends (a.map f) (b.map f) := by
  rw [Option.map_eq_bind, Option.map_eq_bind]
  refine h.through (fun x y hy => ?_) fun x => congrArg some (hfollowed x)
  cases hy
  exact hleft x

/-- What is read, in another form if it has one. -/
def onFirst {α α' : Type} (f : α → Option α') (x : α × List Char) : Option (α' × List Char) :=
  (f x.1).map fun y => (y, x.2)

theorem Extends.onFirst {α α' : Type} {a b : Option (α × List Char)} (h : Extends a b)
    (f : α → Option α') : Extends (a.bind (onFirst f)) (b.bind (onFirst f)) := by
  refine h.through (fun x y hy => ?_) fun x => ?_
  · obtain ⟨z, -, rfl⟩ := Option.map_eq_some_iff.1 hy
    rfl
  · rw [Regex.onFirst, Regex.onFirst, Option.map_map]
    rfl

end Relations

theorem eq_cons_of_append {cs r : List Char} {c : Char} (hc : c ≠ ')') (h : cs ++ [')'] = c :: r) :
    ∃ r', cs = c :: r' ∧ r' ++ [')'] = r := by
  rcases cs with _ | ⟨d, r'⟩
  · cases h
    exact absurd rfl hc
  · cases h
    exact ⟨r', rfl, rfl⟩

/-- Only a parenthesis can be new. -/
theorem ne_cons_append {cs : List Char} {c : Char} (hc : c ≠ ')') (h : ∀ r, cs ≠ c :: r)
    (r : List Char) : cs ++ [')'] ≠ c :: r := by
  intro hr
  obtain ⟨r', hr', -⟩ := eq_cons_of_append hc hr
  exact h r' hr'

/-- The text begins with the character, or it does not, with a parenthesis behind it neither. -/
theorem begins_or_not {c : Char} (hc : c ≠ ')') (cs : List Char) :
    (∃ r, cs = c :: r) ∨ (∀ r, cs ≠ c :: r) ∧ ∀ r, cs ++ [')'] ≠ c :: r := by
  by_cases h : ∃ r, cs = c :: r
  · exact .inl h
  · rw [not_exists] at h
    exact .inr ⟨h, ne_cons_append hc h⟩

/-! ## Idle text -/

theorem skipIdleFrom_followed (comment : Bool) (cs : List Char) :
    Follows (skipIdleFrom comment cs) (skipIdleFrom comment (cs ++ [')'])) := by
  fun_induction skipIdleFrom comment cs with
  | case1 comment =>
    cases comment
    · exact .inl rfl
    · exact .inr ⟨rfl, rfl⟩
  | case2 c r ih => exact ih
  | case3 c r hblank ih => simpa [skipIdleFrom, hblank] using ih
  | case4 r hblank ih => simpa [skipIdleFrom, hblank] using ih
  | case5 c r hblank hsign => exact .inl (by simp [skipIdleFrom, hblank, hsign])

theorem skipIdle_followed (idle : Bool) (cs : List Char) :
    skipIdle idle (cs ++ [')']) = skipIdle idle cs ++ [')'] ∨
      skipIdle idle cs = [] ∧ skipIdle idle (cs ++ [')']) = [] := by
  unfold skipIdle
  split_ifs
  · exact skipIdleFrom_followed false cs
  · exact .inl rfl

theorem skipIdle_nil (idle : Bool) : skipIdle idle [] = [] :=
  List.eq_nil_of_suffix_nil (skipIdle_suffix idle [])

/-- A reader that passes over idle text first. -/
theorem Extends.skipIdle {β : Type} [Reading β] {f : List Char → Option β}
    (h : ∀ cs, Extends (f cs) (f (cs ++ [')']))) (hnil : ∀ x, f [] = some x → left x = [])
    (idle : Bool) (cs : List Char) :
    Extends (f (skipIdle idle cs)) (f (skipIdle idle (cs ++ [')']))) := by
  rcases skipIdle_followed idle cs with h' | ⟨ha, hb⟩
  · rw [h']
    exact h _
  · rw [ha, hb]
    exact .refl hnil

theorem skipIdle_cons_followed {idle : Bool} {cs r : List Char} {c : Char}
    (h : skipIdle idle cs = c :: r) : skipIdle idle (cs ++ [')']) = c :: (r ++ [')']) := by
  rcases skipIdle_followed idle cs with h' | ⟨h', -⟩
  · rw [h', h]
    rfl
  · rw [h] at h'
    cases h'

theorem skipIdle_ne_followed {idle : Bool} {cs : List Char} {c : Char} (hc : c ≠ ')')
    (h : ∀ r, skipIdle idle cs ≠ c :: r) (r : List Char) :
    skipIdle idle (cs ++ [')']) ≠ c :: r := by
  rcases skipIdle_followed idle cs with h' | ⟨-, h'⟩
  · rw [h']
    exact ne_cons_append hc h r
  · rw [h']
    exact (List.cons_ne_nil c r).symm

theorem skipIdle_begins_or_not {c : Char} (hc : c ≠ ')') (idle : Bool) (cs : List Char) :
    (∃ r, skipIdle idle cs = c :: r ∧ skipIdle idle (cs ++ [')']) = c :: (r ++ [')'])) ∨
      (∀ r, skipIdle idle cs ≠ c :: r) ∧ ∀ r, skipIdle idle (cs ++ [')']) ≠ c :: r := by
  by_cases h : ∃ r, skipIdle idle cs = c :: r
  · obtain ⟨r, hr⟩ := h
    exact .inl ⟨r, hr, skipIdle_cons_followed hr⟩
  · rw [not_exists] at h
    exact .inr ⟨h, skipIdle_ne_followed hc h⟩

theorem takeRun_nil (idle : Bool) (p : Char → Bool) (n : Nat) : takeRun idle p n [] = ([], []) := by
  cases n <;> rfl

theorem readRun_nil (idle : Bool) (p : Char → Bool) : readRun idle p [] = ([], []) :=
  takeRun_nil idle p 0

theorem takeRun_parenthesis (idle : Bool) (p : Char → Bool) (m : Nat) :
    Follows ([], []) (takeRun idle p (m + 1) [')']) := by
  rw [takeRun, skipIdle_nil, takeRun_nil]
  split_ifs
  · exact .inr ⟨rfl, rfl⟩
  · exact .inl rfl

theorem takeRun_followed (idle : Bool) (p : Char → Bool) {m n : Nat} {cs : List Char}
    (hn : cs.length ≤ n) (hm : cs.length ≤ m) :
    Follows (takeRun idle p n cs) (takeRun idle p (m + 1) (cs ++ [')'])) := by
  induction n generalizing m cs with
  | zero =>
    obtain rfl := List.eq_nil_of_length_eq_zero (Nat.le_zero.1 hn)
    exact takeRun_parenthesis idle p m
  | succ n ih =>
    rcases cs with _ | ⟨c, r⟩
    · exact takeRun_parenthesis idle p m
    · obtain ⟨m, rfl⟩ := Nat.exists_eq_add_one_of_ne_zero (Nat.ne_of_gt (Nat.zero_lt_of_lt hm))
      have hlength := (skipIdle_suffix idle r).length_le
      have hn' : (skipIdle idle r).length ≤ n := hlength.trans (Nat.le_of_succ_le_succ hn)
      have hm' : (skipIdle idle r).length ≤ m := hlength.trans (Nat.le_of_succ_le_succ hm)
      rw [takeRun, List.cons_append, takeRun]
      split_ifs
      · rcases skipIdle_followed idle r with h | ⟨h, h'⟩
        · rw [h]
          rcases ih hn' hm' with hrun | ⟨hrun, hrun'⟩
          · exact .inl (by rw [hrun]; rfl)
          · exact .inr ⟨hrun, hrun'⟩
        · rw [h, h', takeRun_nil, takeRun_nil]
          exact .inr ⟨rfl, rfl⟩
      · exact .inl rfl

theorem readRun_followed (idle : Bool) (p : Char → Bool) (cs : List Char) :
    Follows (readRun idle p cs) (readRun idle p (cs ++ [')'])) := by
  rw [readRun, readRun, List.length_append]
  exact takeRun_followed idle p le_rfl le_rfl

/-! ## Escapes -/

/-- A run up to a closing brace. -/
def braced (idle : Bool) (p : Char → Bool) (cs : List Char) : Option (List Char × List Char) :=
  match readRun idle p cs with
  | (run, '\x7d' :: rest) => some (run, rest)
  | _ => none

theorem braced_of_eq {idle : Bool} {p : Char → Bool} {cs run rest : List Char}
    (h : readRun idle p cs = (run, '\x7d' :: rest)) : braced idle p cs = some (run, rest) := by
  rw [braced, h]
  rfl

theorem braced_of_ne {idle : Bool} {p : Char → Bool} {cs : List Char}
    (h : ∀ run rest, readRun idle p cs ≠ (run, '\x7d' :: rest)) : braced idle p cs = none := by
  unfold braced
  split
  · rename_i hrun
    exact absurd hrun (h _ _)
  · rfl

theorem braced_nil (idle : Bool) (p : Char → Bool) : braced idle p [] = none := by
  rw [braced, readRun_nil]

theorem braced_followed (idle : Bool) (p : Char → Bool) (cs : List Char) :
    braced idle p (cs ++ [')']) = (braced idle p cs).map followed := by
  unfold braced
  generalize readRun idle p cs = a, readRun idle p (cs ++ [')']) = b, readRun_followed idle p cs = h
  rcases h with rfl | ⟨h, h'⟩
  · obtain ⟨run, _ | ⟨c, rest⟩⟩ := a
    · rfl
    · by_cases hc : c = '\x7d'
      · rw [hc]
        rfl
      · simp [hc]
  · obtain ⟨run, rest⟩ := a
    obtain ⟨run', rest'⟩ := b
    obtain rfl : rest = [] := h
    obtain rfl : rest' = [] := h'
    rfl

/-- A run in braces, with idle text before it. -/
theorem braced_skipIdle_followed (idle : Bool) (p : Char → Bool) (cs : List Char) :
    braced idle p (skipIdle idle (cs ++ [')'])) =
      (braced idle p (skipIdle idle cs)).map followed := by
  rcases skipIdle_followed idle cs with h | ⟨h, h'⟩
  · rw [h]
    exact braced_followed idle p (skipIdle idle cs)
  · rw [h, h', braced_nil]
    rfl

theorem readExactly_nil {idle : Bool} {k : Nat} {x : List Char × List Char}
    (h : readExactly idle k [] = some x) : left x = [] :=
  List.eq_nil_of_suffix_nil (readExactly_suffix h)

theorem readExactly_followed (idle : Bool) (k : Nat) (cs : List Char) :
    Extends (readExactly idle k cs) (readExactly idle k (cs ++ [')'])) := by
  induction k generalizing cs with
  | zero => exact .inl rfl
  | succ k ih =>
    rcases cs with _ | ⟨c, r⟩
    · refine .of_none fun y hy => ?_
      obtain ⟨x, hx, rfl⟩ := Option.map_eq_some_iff.1 hy
      rw [skipIdle_nil] at hx
      exact (readExactly_nil hx : left x = [])
    · rw [readExactly, List.cons_append, readExactly]
      have hrest := Extends.skipIdle ih (fun x hx => readExactly_nil hx) idle r
      exact hrest.map (fun x => rfl) fun x => rfl

/-- A character by its digits. -/
def numbered (byte : Bool) (digits : List Char) : Option Expression :=
  (charOfHex? digits).map fun c => .literal c byte

theorem readHex_of_brace {idle : Bool} {width : Nat} {cs r : List Char}
    (h : skipIdle idle cs = '\x7b' :: r) :
    readHex idle width cs =
      (braced idle (· != '\x7d') (skipIdle idle r)).bind (onFirst (numbered false)) := by
  unfold readHex
  split
  · rename_i r' hr'
    cases h.symm.trans hr'
    split
    · rename_i hrun
      rw [braced_of_eq hrun, Option.bind_some, onFirst, numbered, Option.map_map]
      rfl
    · rename_i hrun
      rw [braced_of_ne hrun]
      rfl
  · rename_i hne
    exact absurd h (hne r)

theorem readHex_of_ne {idle : Bool} {width : Nat} {cs : List Char}
    (h : ∀ r, skipIdle idle cs ≠ '\x7b' :: r) :
    readHex idle width cs =
      (readExactly idle width (skipIdle idle cs)).bind (onFirst (numbered (width == 2))) := by
  unfold readHex
  split
  · rename_i r hr
    exact absurd hr (h r)
  · unfold onFirst numbered
    simp only [Option.bind_eq_bind, Option.map_eq_bind, Option.bind_assoc]
    rfl

theorem readHex_followed (idle : Bool) (width : Nat) (cs : List Char) :
    Extends (readHex idle width cs) (readHex idle width (cs ++ [')'])) := by
  rcases skipIdle_begins_or_not (c := '\x7b') (by decide) idle cs with ⟨r, hr, hr'⟩ | ⟨hne, hne'⟩
  · rw [readHex_of_brace hr, readHex_of_brace hr', braced_skipIdle_followed]
    exact (Extends.same _).onFirst _
  · rw [readHex_of_ne hne, readHex_of_ne hne']
    have hdigits := Extends.skipIdle (readExactly_followed idle width) (fun x => readExactly_nil)
      idle cs
    exact hdigits.onFirst _

theorem readProperty_of_brace {idle negated : Bool} {cs r : List Char}
    (h : skipIdle idle cs = '\x7b' :: r) :
    readProperty idle negated cs =
      (braced idle (· != '\x7d') (skipIdle idle r)).map fun (text, rest) =>
        (.charClass (.property (classNameOf text).1 (negated != (classNameOf text).2)), rest) := by
  unfold readProperty
  split
  · rename_i hr
    cases h.symm.trans hr
  · rename_i r' hr'
    cases h.symm.trans hr'
    split
    · rename_i hrun
      rw [braced_of_eq hrun]
      rfl
    · rename_i hrun
      rw [braced_of_ne hrun]
      rfl
  · rename_i hne hr
    cases h.symm.trans hr
    exact absurd rfl hne

theorem readProperty_of_letter {idle negated : Bool} {cs r : List Char} {c : Char}
    (hc : c ≠ '\x7b') (h : skipIdle idle cs = c :: r) :
    readProperty idle negated cs = if c = '\\' then none
      else some (.charClass (.property (.named (String.ofList [c])) negated), skipIdle idle r) := by
  unfold readProperty
  split
  · rename_i hr
    cases h.symm.trans hr
  · rename_i r' hr
    cases h.symm.trans hr
    exact absurd rfl hc
  · rename_i hr
    cases h.symm.trans hr
    rfl

theorem readProperty_of_nil {idle negated : Bool} {cs : List Char} (h : skipIdle idle cs = []) :
    readProperty idle negated cs = none := by
  rw [readProperty, h]

theorem readProperty_followed (idle negated : Bool) (cs : List Char) :
    Extends (readProperty idle negated cs) (readProperty idle negated (cs ++ [')'])) := by
  rcases hcs : skipIdle idle cs with _ | ⟨c, r⟩
  · rw [readProperty_of_nil hcs]
    refine .of_none fun y hy => ?_
    rcases skipIdle_followed idle cs with h | ⟨-, h⟩
    · rw [hcs] at h
      rw [readProperty_of_letter (by decide) h, if_neg (by decide), skipIdle_nil] at hy
      cases hy
      rfl
    · rw [readProperty_of_nil h] at hy
      cases hy
  · have hcs' := skipIdle_cons_followed hcs
    by_cases hc : c = '\x7b'
    · subst hc
      rw [readProperty_of_brace hcs, readProperty_of_brace hcs', braced_skipIdle_followed]
      exact (Extends.same _).map (fun x => rfl) fun x => rfl
    · rw [readProperty_of_letter hc hcs, readProperty_of_letter hc hcs']
      split_ifs
      · exact .inl rfl
      · exact Follows.extends (skipIdle_followed idle r) _

/-- The boundary of a name. -/
def boundaryNamed (name : List Char) : Option Expression :=
  let kind := match String.ofList name with
    | "start" => some Anchor.wordStart
    | "end" => some .wordEnd
    | "start-half" => some .wordStartHalf
    | "end-half" => some .wordEndHalf
    | _ => none
  kind.map .anchor

theorem readBoundary_brace (idle : Bool) (r : List Char) :
    readBoundary idle ('\x7b' :: r) = match skipIdle idle r with
      | [] => none
      | c :: r' =>
        if isBoundaryLetter c then
          (braced idle isBoundaryLetter (c :: r')).bind (onFirst boundaryNamed)
        else some (.anchor .wordBoundary, '\x7b' :: r) := by
  rw [readBoundary]
  rcases skipIdle idle r with _ | ⟨c, r'⟩
  · rfl
  · dsimp only
    split_ifs
    · split
      · rename_i hrun
        rw [braced_of_eq hrun, Option.bind_some, onFirst, boundaryNamed, Option.map_map]
        rfl
      · rename_i hrun
        rw [braced_of_ne hrun]
        rfl
    · rfl

/-- Braces behind a boundary with nothing but idle text up to the end. -/
def Dangling (idle : Bool) (cs : List Char) : Prop := ∃ r, cs = '\x7b' :: r ∧ skipIdle idle r = []

theorem readBoundary_followed {idle : Bool} {cs : List Char} (h : ¬ Dangling idle cs) :
    Extends (readBoundary idle cs) (readBoundary idle (cs ++ [')'])) := by
  rcases begins_or_not (c := '\x7b') (by decide) cs with ⟨r, rfl⟩ | ⟨hne, hne'⟩
  · rw [List.cons_append, readBoundary_brace, readBoundary_brace]
    rcases hr : skipIdle idle r with _ | ⟨c, r'⟩
    · exact absurd ⟨r, rfl, hr⟩ h
    · rw [skipIdle_cons_followed hr]
      dsimp only
      split_ifs
      · rw [← List.cons_append, braced_followed]
        exact (Extends.same _).onFirst _
      · exact .inl rfl
  · rw [readBoundary, readBoundary]
    · exact .inl rfl
    · exact hne'
    · exact hne

theorem Dangling.readBoundary {idle : Bool} {cs : List Char} (h : Dangling idle cs) :
    readBoundary idle cs = none ∧ ∀ y, Regex.readBoundary idle (cs ++ [')']) = some y →
      ∃ r, y = (.anchor .wordBoundary, '\x7b' :: r) ∧ skipIdle idle r = [')'] := by
  obtain ⟨r, rfl, hr⟩ := h
  rw [List.cons_append, readBoundary_brace, readBoundary_brace, hr]
  refine ⟨rfl, fun y hy => ?_⟩
  rcases skipIdle_followed idle r with h | ⟨-, h⟩
  · rw [hr] at h
    rw [h] at hy
    cases hy
    exact ⟨r ++ [')'], rfl, h⟩
  · rw [h] at hy
    cases hy

/-- A text that begins with a boundary and such braces. -/
def DanglingEscape (idle : Bool) (cs : List Char) : Prop := ∃ r, cs = 'b' :: r ∧ Dangling idle r

theorem readEscape_followed {idle : Bool} {cs : List Char} (h : ¬ DanglingEscape idle cs) :
    Extends (readEscape idle cs) (readEscape idle (cs ++ [')'])) := by
  rcases cs with _ | ⟨c, r⟩
  · exact .of_none fun y hy => by cases hy; rfl
  · rw [List.cons_append]
    rcases readEscape_cases idle c with ⟨width, hr⟩ | ⟨negated, hr⟩ | ⟨rfl, hr⟩ | ⟨e, hr⟩
    · rw [hr, hr]
      exact readHex_followed idle width r
    · rw [hr, hr]
      exact readProperty_followed idle negated r
    · rw [hr, hr]
      exact readBoundary_followed fun hdangling => h ⟨r, rfl, hdangling⟩
    · rw [hr, hr]
      cases e <;> exact .inl rfl

theorem DanglingEscape.readEscape {idle : Bool} {cs : List Char} (h : DanglingEscape idle cs) :
    readEscape idle cs = none ∧ ∀ y, Regex.readEscape idle (cs ++ [')']) = some y →
      ∃ r, y = (.anchor .wordBoundary, '\x7b' :: r) ∧ skipIdle idle r = [')'] := by
  obtain ⟨r, rfl, hr⟩ := h
  exact hr.readBoundary

end GitPractice.Regex
