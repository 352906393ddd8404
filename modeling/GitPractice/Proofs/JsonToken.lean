import Mathlib.Tactic.SplitIfs
import GitPractice.Json.Printer
import GitPractice.Json.Reader

/-!
# Texts and numbers in JSON

A text between quotes is read back as the text that was printed (`readQuoted_escapes`), since each
of its characters is read back on its own, escaped or not, and none of them is half of a surrogate
pair. A whole number is read back from its digits (`readNumber_repr`), if what follows them does
not go on with the number.
-/

namespace GitPractice.Json

open Text (isDigit digitsValue hexNumber? digitsValue_toDigits isDigit_of_mem_toDigits
  toDigits_eq_cons)

/-! ## Texts -/

theorem hexNumber?_hexDigit : ∀ n < 32,
    hexNumber? ['0', '0', hexDigit (n / 16), hexDigit (n % 16)] = some n := by decide

theorem readUnits_escaped {e c : Char} {rest : List Char} (he : e ≠ 'u')
    (hc : escaped? e = some c) :
    readUnits ('\\' :: e :: rest) = (readUnits rest).map fun u => (c.toNat :: u.1, u.2) := by
  rw [readUnits, hc]
  · cases readUnits rest <;> rfl
  · exact fun _ _ _ _ _ h => absurd h he

theorem readUnits_plain {c : Char} {rest : List Char} (hquote : c ≠ '"') (hback : c ≠ '\\')
    (hcontrol : ¬ c < ' ') :
    readUnits (c :: rest) = (readUnits rest).map fun u => (c.toNat :: u.1, u.2) := by
  rw [readUnits, if_neg hcontrol]
  · cases readUnits rest <;> rfl
  · exact hquote
  · exact fun _ _ _ _ _ h => absurd h hback
  · exact fun _ _ h => absurd h hback

theorem readUnits_escape (c : Char) (rest : List Char) :
    readUnits (escape c ++ rest) = (readUnits rest).map fun u => (c.toNat :: u.1, u.2) := by
  unfold escape
  split_ifs with hquote hback h8 h12 hnewline hreturn htab hcontrol
  · subst hquote
    exact readUnits_escaped (by decide) rfl
  · subst hback
    exact readUnits_escaped (by decide) rfl
  · subst h8
    exact readUnits_escaped (by decide) rfl
  · subst h12
    exact readUnits_escaped (by decide) rfl
  · subst hnewline
    exact readUnits_escaped (by decide) rfl
  · subst hreturn
    exact readUnits_escaped (by decide) rfl
  · subst htab
    exact readUnits_escaped (by decide) rfl
  · have hlt : c.toNat < 32 := hcontrol
    simp only [List.cons_append, List.nil_append, readUnits, hexNumber?_hexDigit _ hlt]
    cases readUnits rest <;> rfl
  · exact readUnits_plain hquote hback hcontrol

/-- No character is half of a surrogate pair. -/
theorem not_half (c : Char) : isHighHalf c.toNat = false ∧ isLowHalf c.toNat = false := by
  have hvalid : c.toNat < 0xd800 ∨ 0xdfff < c.toNat ∧ c.toNat < 0x110000 := c.valid
  simp only [isHighHalf, isLowHalf, Bool.and_eq_false_iff, decide_eq_false_iff_not]
  omega

theorem joinUnits_toNat (cs : List Char) : joinUnits (cs.map Char.toNat) = some cs := by
  induction cs with
  | nil => rfl
  | cons c cs ih =>
    obtain ⟨hhigh, hlow⟩ := not_half c
    cases cs with
    | nil => simp [joinUnits, hhigh, hlow]
    | cons d cs =>
      rw [List.map_cons] at ih
      simp [joinUnits, hhigh, hlow, ih]

theorem readUnits_escapes (cs rest : List Char) :
    readUnits (cs.flatMap escape ++ '"' :: rest) = some (cs.map Char.toNat, rest) := by
  induction cs with
  | nil => rfl
  | cons c cs ih =>
    rw [List.flatMap_cons, List.append_assoc, readUnits_escape, ih]
    rfl

theorem readQuoted_escapes (s : String) (rest : List Char) :
    readQuoted (s.toList.flatMap escape ++ '"' :: rest) = some (some s, rest) := by
  rw [readQuoted, readUnits_escapes]
  simp [joinUnits_toNat]

/-! ## Numbers -/

/-- What may follow a value: nothing, space, a comma or a closing bracket. -/
def Ends (cs : List Char) : Prop :=
  ∀ c ∈ cs.head?, isSpace c = true ∨ c = ',' ∨ c = ']' ∨ c = '}'

theorem Ends.not_digit {cs : List Char} (h : Ends cs) : ∀ c ∈ cs.head?, isDigit c = false := by
  intro c hc
  rcases h c hc with hspace | rfl | rfl | rfl
  · simp only [isSpace, Bool.or_eq_true, beq_iff_eq] at hspace
    rcases hspace with ((rfl | rfl) | rfl) | rfl <;> rfl
  all_goals rfl

theorem takeWhile_digits {ds rest : List Char} (hds : ∀ c ∈ ds, isDigit c = true)
    (hrest : ∀ c ∈ rest.head?, isDigit c = false) :
    (ds ++ rest).takeWhile isDigit = ds ∧ (ds ++ rest).dropWhile isDigit = rest := by
  rw [List.takeWhile_append_of_pos hds, List.dropWhile_append_of_pos hds]
  cases rest with
  | nil => simp
  | cons c rest =>
    have hc : ¬ isDigit c = true := by simp [hrest c rfl]
    simp [hc]

theorem readWhole_toDigits (n : Nat) {rest : List Char}
    (hrest : ∀ c ∈ rest.head?, isDigit c = false) :
    readWhole (Nat.toDigits 10 n ++ rest) = some (Nat.toDigits 10 n, rest) := by
  by_cases hn : n = 0
  · subst hn
    rw [Nat.toDigits_zero, List.singleton_append, readWhole]
    rcases rest with _ | ⟨c, rest⟩
    · rfl
    · simp [hrest c rfl]
  · obtain ⟨d, ds, hds, -, hzero⟩ := toDigits_eq_cons n
    have hdigits := takeWhile_digits (fun c => isDigit_of_mem_toDigits (n := n)) hrest
    rw [hds] at hdigits ⊢
    rw [readWhole]
    · simp only [hdigits.1, hdigits.2]
      rfl
    · intro r h
      exact hn (hzero (List.cons.inj h).1)

theorem readFraction_of_ends {rest : List Char} (h : Ends rest) :
    readFraction rest = some (false, rest) := by
  unfold readFraction
  split
  · rcases h '.' rfl with h | h | h | h <;> cases h
  · rfl

theorem readExponent_of_ends {rest : List Char} (h : Ends rest) :
    readExponent rest = some (false, rest) := by
  unfold readExponent
  split
  · rename_i e r
    have he : e ≠ 'e' ∧ e ≠ 'E' := by
      constructor
      · rintro rfl
        rcases h 'e' rfl with h | h | h | h <;> cases h
      · rintro rfl
        rcases h 'E' rfl with h | h | h | h <;> cases h
    simp [he.1, he.2]
  · rfl

theorem readNumber_toDigits (n : Nat) {rest : List Char} (h : Ends rest) :
    readNumber (Nat.toDigits 10 n ++ rest) = some (.integer n, rest) := by
  obtain ⟨d, ds, hds, hdigit, -⟩ := toDigits_eq_cons n
  unfold readNumber
  split
  rename_i negative cs hsign
  split at hsign
  · rename_i r hr
    rw [hds, List.cons_append, List.cons.injEq] at hr
    rw [hr.1] at hdigit
    cases hdigit
  · obtain ⟨rfl, rfl⟩ := Prod.mk.inj hsign
    simp [readWhole_toDigits n h.not_digit, readFraction_of_ends h, readExponent_of_ends h,
      digitsValue_toDigits]

theorem readNumber_minus {n : Nat} (hn : n ≠ 0) {rest : List Char} (h : Ends rest) :
    readNumber ('-' :: (Nat.toDigits 10 n ++ rest)) = some (.integer (-n), rest) := by
  simp [readNumber, readWhole_toDigits n h.not_digit, readFraction_of_ends h,
    readExponent_of_ends h, digitsValue_toDigits, hn]

theorem readNumber_repr (n : Int) {rest : List Char} (h : Ends rest) :
    readNumber (n.repr.toList ++ rest) = some (.integer n, rest) := by
  rw [Int.repr_eq_if]
  split_ifs with hn
  · rw [Nat.toList_repr, readNumber_toDigits _ h, Int.toNat_of_nonneg hn]
  · have hpos : (-n).toNat ≠ 0 := by omega
    have hread := readNumber_minus hpos h
    rw [Int.toNat_of_nonneg (by omega), Int.neg_neg] at hread
    simpa using hread

theorem repr_eq_cons (n : Int) :
    ∃ c cs, n.repr.toList = c :: cs ∧ (c = '-' ∨ isDigit c = true) := by
  rw [Int.repr_eq_if]
  split_ifs with hn
  · obtain ⟨d, ds, hds, hdigit, -⟩ := toDigits_eq_cons n.toNat
    exact ⟨d, ds, by rw [Nat.toList_repr, hds], .inr hdigit⟩
  · exact ⟨'-', (-n).toNat.repr.toList, by simp, .inl rfl⟩

end GitPractice.Json
