import Mathlib.Order.Lattice
import GitPractice.Regex.Pattern

/-!
# What a pattern takes

`Pattern.Takes` says which pieces of a text a pattern takes, with no search: one thing after the
other, one of two, so and so many rounds. `mem_ends` shows that the search finds the end of each such
piece and no other place. Two things make it less than a full search: it follows the rounds of a
repetition only until they lead to no new place (`mem_withinSteps`), and only as many of them as
there are places (`Onward.rounds_congr`), as among more rounds than that one takes no text.
-/

namespace GitPractice.Regex

/-! ## Rounds -/

/-- As many steps of the relation lead from the one place to the other. -/
def Rounds (R : Nat → Nat → Prop) : Nat → Nat → Nat → Prop
  | 0, i, j => i = j
  | n + 1, i, j => ∃ k, R i k ∧ Rounds R n k j

variable {R : Nat → Nat → Prop} {step : List Nat → List Nat}

theorem rounds_add {m n i j : Nat} :
    Rounds R (m + n) i j ↔ ∃ k, Rounds R m i k ∧ Rounds R n k j := by
  induction m generalizing i with
  | zero => simp [Rounds]
  | succ m ih =>
    rw [Nat.succ_add]
    simp only [Rounds, ih]
    constructor
    · rintro ⟨k, hik, l, hkl, hlj⟩
      exact ⟨l, ⟨k, hik, hkl⟩, hlj⟩
    · rintro ⟨l, ⟨k, hik, hkl⟩, hlj⟩
      exact ⟨k, hik, l, hkl, hlj⟩

theorem mem_afterSteps (hstep : ∀ places j, j ∈ step places ↔ ∃ i ∈ places, R i j) (n : Nat)
    (places : List Nat) (j : Nat) :
    j ∈ afterSteps step n places ↔ ∃ i ∈ places, Rounds R n i j := by
  induction n generalizing places with
  | zero => simp [afterSteps, Rounds]
  | succ n ih =>
    rw [afterSteps, ih]
    constructor
    · rintro ⟨k, hk, hkj⟩
      obtain ⟨i, hi, hik⟩ := (hstep places k).1 hk
      exact ⟨i, hi, k, hik, hkj⟩
    · rintro ⟨i, hi, k, hik, hkj⟩
      exact ⟨k, (hstep places k).2 ⟨i, hi, hik⟩, hkj⟩

/-- Rounds that lead out of a set of places go through its border. -/
theorem stays_or_crosses {seen border : List Nat}
    (hclosed : ∀ i ∈ seen, i ∉ border → ∀ j, R i j → j ∈ seen) {n i j : Nat} (hi : i ∈ seen)
    (hij : Rounds R n i j) : j ∈ seen ∨ ∃ k ∈ border, ∃ m ≤ n, Rounds R m k j := by
  induction n generalizing i with
  | zero => exact .inl (hij ▸ hi)
  | succ n ih =>
    by_cases hborder : i ∈ border
    · exact .inr ⟨i, hborder, n + 1, le_rfl, hij⟩
    · obtain ⟨k, hik, hkj⟩ := hij
      rcases ih (hclosed i hi hborder k hik) hkj with hj | ⟨l, hl, m, hm, hlj⟩
      · exact .inl hj
      · exact .inr ⟨l, hl, m, hm.trans n.le_succ, hlj⟩

/-- The places that at most `n` rounds lead to are found if the newest places are the border of
those seen. -/
theorem mem_withinSteps (hstep : ∀ places j, j ∈ step places ↔ ∃ i ∈ places, R i j) (n : Nat)
    {seen newest : List Nat} (hnewest : ∀ i ∈ newest, i ∈ seen)
    (hclosed : ∀ i ∈ seen, i ∉ newest → ∀ j, R i j → j ∈ seen) (j : Nat) :
    j ∈ withinSteps step n seen newest ↔
      j ∈ seen ∨ ∃ i ∈ newest, ∃ m ≤ n, Rounds R m i j := by
  induction n generalizing seen newest with
  | zero =>
    rw [withinSteps]
    refine ⟨.inl, ?_⟩
    rintro (hj | ⟨i, hi, m, hm, hij⟩)
    · exact hj
    · obtain rfl := Nat.le_zero.1 hm
      exact hij ▸ hnewest i hi
  | succ n ih =>
    rw [withinSteps]
    generalize hnext : ((step newest).filter fun i => !seen.contains i) = next
    have hmem : ∀ k, k ∈ next ↔ (∃ i ∈ newest, R i k) ∧ k ∉ seen := by
      simp [← hnext, hstep]
    have hclosed' : ∀ i ∈ seen ++ next, i ∉ next → ∀ k, R i k → k ∈ seen ++ next := by
      intro i hi hni k hik
      have hi' := (List.mem_append.1 hi).resolve_right hni
      by_cases hk : k ∈ seen
      · exact List.mem_append_left _ hk
      · refine List.mem_append_right _ ((hmem k).2 ⟨⟨i, ?_, hik⟩, hk⟩)
        by_contra hin
        exact hk (hclosed i hi' hin k hik)
    -- both ways on, a round from the newest places leads to those seen or to the next ones
    have hfrom : ∀ i ∈ newest, ∀ m ≤ n + 1, Rounds R m i j →
        j ∈ seen ++ next ∨ ∃ k ∈ next, ∃ l ≤ n, Rounds R l k j := by
      rintro i hi (_ | m) hm hij
      · exact .inl (List.mem_append_left _ (hij ▸ hnewest i hi))
      · obtain ⟨k, hik, hkj⟩ := hij
        have hk : k ∈ seen ++ next := by
          by_cases hk : k ∈ seen
          · exact List.mem_append_left _ hk
          · exact List.mem_append_right _ ((hmem k).2 ⟨⟨i, hi, hik⟩, hk⟩)
        rcases stays_or_crosses hclosed' hk hkj with hj | ⟨x, hx, l, hl, hxj⟩
        · exact .inl hj
        · exact .inr ⟨x, hx, l, hl.trans (Nat.le_of_succ_le_succ hm), hxj⟩
    split_ifs with hempty
    · obtain rfl := List.isEmpty_iff.1 hempty
      refine ⟨.inl, ?_⟩
      rintro (hj | ⟨i, hi, m, hm, hij⟩)
      · exact hj
      · simpa using hfrom i hi m hm hij
    · rw [ih (fun i hi => List.mem_append_right _ hi) hclosed']
      constructor
      · rintro (hj | ⟨k, hk, m, hm, hkj⟩)
        · rcases List.mem_append.1 hj with hj | hj
          · exact .inl hj
          · obtain ⟨⟨i, hi, hij⟩, -⟩ := (hmem j).1 hj
            exact .inr ⟨i, hi, 1, n.succ_pos, j, hij, rfl⟩
        · obtain ⟨⟨i, hi, hik⟩, -⟩ := (hmem k).1 hk
          exact .inr ⟨i, hi, m + 1, Nat.succ_le_succ hm, k, hik, hkj⟩
      · rintro (hj | ⟨i, hi, m, hm, hij⟩)
        · exact .inl (List.mem_append_left _ hj)
        · exact hfrom i hi m hm hij

/-- What at most `n` rounds from the given places lead to. -/
theorem mem_withinSteps_self (hstep : ∀ places j, j ∈ step places ↔ ∃ i ∈ places, R i j) (n : Nat)
    (places : List Nat) (j : Nat) :
    j ∈ withinSteps step n places places ↔ ∃ i ∈ places, ∃ m ≤ n, Rounds R m i j := by
  rw [mem_withinSteps hstep n (fun i hi => hi) (fun i hi hni => absurd hi hni)]
  refine ⟨?_, .inr⟩
  rintro (hj | h)
  · exact ⟨j, hj, 0, n.zero_le, rfl⟩
  · exact h

/-- A step leads onward, and not beyond the last place unless it starts there. -/
def Onward (last : Nat) (R : Nat → Nat → Prop) : Prop := ∀ i j, R i j → i ≤ j ∧ j ≤ max i last

namespace Onward

variable {last : Nat}

theorem rounds (hR : Onward last R) (n : Nat) : Onward last (Rounds R n) := by
  induction n with
  | zero => exact fun i j h => ⟨h.le, h ▸ le_max_left i last⟩
  | succ n ih =>
    rintro i j ⟨k, hik, hkj⟩
    have hround := hR i k hik
    have hrest := ih k j hkj
    omega

/-- Of more rounds than there are places ahead, one takes no text. -/
theorem exists_idle_round (hR : Onward last R) {n i j : Nat} (h : Rounds R n i j)
    (hmany : j < i + n) : ∃ a b k, n = a + 1 + b ∧ Rounds R a i k ∧ R k k ∧ Rounds R b k j := by
  induction n generalizing i with
  | zero =>
    have hle := (hR.rounds 0 i j h).1
    omega
  | succ n ih =>
    obtain ⟨k, hik, hkj⟩ := h
    rcases (hR i k hik).1.eq_or_lt with rfl | hlt
    · exact ⟨0, n, i, by omega, rfl, hik, hkj⟩
    · obtain ⟨a, b, l, rfl, hkl, hll, hlj⟩ := ih hkj (by omega)
      exact ⟨a + 1, b, l, by omega, ⟨k, hik, hkl⟩, hll, hlj⟩

/-- A round that takes no text can be done again or left out. -/
theorem rounds_succ_iff (hR : Onward last R) {n i j : Nat} (hn : last < n) :
    Rounds R (n + 1) i j ↔ Rounds R n i j := by
  constructor
  · intro h
    have hbounds := hR.rounds (n + 1) i j h
    obtain ⟨a, b, k, hab, hik, -, hkj⟩ := hR.exists_idle_round h (by omega)
    obtain rfl : n = a + b := by omega
    exact rounds_add.2 ⟨k, hik, hkj⟩
  · intro h
    have hbounds := hR.rounds n i j h
    obtain ⟨a, b, k, rfl, hik, hkk, hkj⟩ := hR.exists_idle_round h (by omega)
    rw [show a + 1 + b + 1 = a + (b + 1 + 1) by omega]
    exact rounds_add.2 ⟨k, hik, k, hkk, k, hkk, hkj⟩

/-- Beyond as many rounds as there are places, their number does not matter. -/
theorem rounds_congr (hR : Onward last R) {m n i j : Nat}
    (h : m = n ∨ last < m ∧ last < n) : Rounds R m i j ↔ Rounds R n i j := by
  have hlast : ∀ n, last < n → (Rounds R n i j ↔ Rounds R (last + 1) i j) := by
    intro n hn
    induction n, hn using Nat.le_induction with
    | base => rfl
    | succ n hn ih => rw [hR.rounds_succ_iff hn, ih]
  rcases h with rfl | ⟨hm, hn⟩
  · rfl
  · rw [hlast m hm, hlast n hn]

/-- Of the rounds that have to be, and of those that may follow, no more than there are places have
to be followed. -/
theorem mem_rounds (hR : Onward last R) (hstep : ∀ places j, j ∈ step places ↔ ∃ i ∈ places, R i j)
    {least more : Nat} {allowed : Nat → Prop} (hallowed : ∀ m n, m ≤ n → allowed n → allowed m)
    (hmore : ∀ n, n ≤ more ↔ n ≤ last + 1 ∧ allowed n) (places : List Nat) (j : Nat) :
    let start := afterSteps step (Nat.min least (last + 1)) places
    j ∈ withinSteps step more start start ↔
      ∃ i ∈ places, ∃ n, allowed n ∧ Rounds R (least + n) i j := by
  intro start
  simp only [start, mem_withinSteps_self hstep, mem_afterSteps hstep, hmore]
  constructor
  · rintro ⟨k, ⟨i, hi, hik⟩, n, ⟨-, hn⟩, hkj⟩
    refine ⟨i, hi, n, hn, ?_⟩
    have h : Rounds R (min least (last + 1) + n) i j := rounds_add.2 ⟨k, hik, hkj⟩
    exact (hR.rounds_congr (by omega)).1 h
  · rintro ⟨i, hi, n, hn, h⟩
    have h' : Rounds R (min least (last + 1) + min n (last + 1)) i j :=
      (hR.rounds_congr (by omega)).1 h
    obtain ⟨k, hik, hkj⟩ := rounds_add.1 h'
    exact ⟨k, ⟨i, hi, hik⟩, min n (last + 1),
      ⟨min_le_right _ _, hallowed _ n (min_le_left _ _) hn⟩, hkj⟩

end Onward

namespace Pattern

/-- The pattern takes the text from the first place up to the second. A repetition takes the least
number of rounds, and as many more as lead up to the greatest at most. -/
def Takes (text : Array Char) : Pattern → Nat → Nat → Prop
  | .empty, i, j => i = j
  | .one accepts, i, j => j = i + 1 ∧ (text[i]?).any accepts = true
  | .look holds, i, j => i = j ∧ holds (charBefore text i) text[i]? = true
  | .seq first second, i, j => ∃ k, first.Takes text i k ∧ second.Takes text k j
  | .alt left right, i, j => left.Takes text i j ∨ right.Takes text i j
  | .repeated inner least greatest, i, j =>
    ∃ n, (∀ m, greatest = some m → n ≤ m - least) ∧ Rounds (inner.Takes text) (least + n) i j

variable {text : Array Char}

/-- What is taken lies within the text. -/
theorem onward_takes (text : Array Char) (p : Pattern) : Onward text.size (p.Takes text) := by
  induction p with
  | empty => exact fun i j h => ⟨h.le, h ▸ le_max_left i text.size⟩
  | one accepts =>
    rintro i j ⟨rfl, haccepts⟩
    have hi : i < text.size := by
      by_contra hi
      simp [Array.getElem?_eq_none (Nat.le_of_not_lt hi)] at haccepts
    exact ⟨i.le_succ, Nat.succ_le_of_lt (hi.trans_le (le_max_right i text.size))⟩
  | look holds => exact fun i j h => ⟨h.1.le, h.1 ▸ le_max_left i text.size⟩
  | seq first second ihfirst ihsecond =>
    rintro i j ⟨k, hik, hkj⟩
    have hfirst := ihfirst i k hik
    have hsecond := ihsecond k j hkj
    omega
  | alt left right ihleft ihright =>
    rintro i j (h | h)
    · exact ihleft i j h
    · exact ihright i j h
  | repeated inner least greatest ih =>
    rintro i j ⟨n, -, h⟩
    exact ih.rounds (least + n) i j h

/-- The search finds the ends of all that the pattern takes, and no other place. -/
theorem mem_ends {p : Pattern} {places : List Nat} {j : Nat} :
    j ∈ p.ends text places ↔ ∃ i ∈ places, p.Takes text i j := by
  induction p generalizing places j with
  | empty => simp [ends, Takes]
  | one accepts =>
    simp only [ends, Takes, List.mem_map, List.mem_filter]
    constructor
    · rintro ⟨i, ⟨hi, haccepts⟩, rfl⟩
      exact ⟨i, hi, rfl, haccepts⟩
    · rintro ⟨i, hi, rfl, haccepts⟩
      exact ⟨i, ⟨hi, haccepts⟩, rfl⟩
  | look holds =>
    simp only [ends, Takes, List.mem_filter]
    constructor
    · rintro ⟨hj, hholds⟩
      exact ⟨j, hj, rfl, hholds⟩
    · rintro ⟨i, hi, rfl, hholds⟩
      exact ⟨hi, hholds⟩
  | seq first second ihfirst ihsecond =>
    simp only [ends, Takes, ihsecond, ihfirst]
    constructor
    · rintro ⟨k, ⟨i, hi, hik⟩, hkj⟩
      exact ⟨i, hi, k, hik, hkj⟩
    · rintro ⟨i, hi, k, hik, hkj⟩
      exact ⟨k, ⟨i, hi, hik⟩, hkj⟩
  | alt left right ihleft ihright =>
    simp only [ends, Takes, List.mem_eraseDups, List.mem_append, ihleft, ihright, and_or_left,
      exists_or]
  | repeated inner least greatest ih =>
    have hstep : ∀ places j, j ∈ inner.ends text places ↔ ∃ i ∈ places, inner.Takes text i j :=
      fun _ _ => ih
    simp only [ends, Takes]
    refine (onward_takes text inner).mem_rounds hstep
      (fun m n hle hn k hk => hle.trans (hn k hk)) (fun n => ?_) places j
    cases greatest with
    | none => simp
    | some m => simpa using and_comm

theorem occursIn_iff {p : Pattern} :
    p.occursIn text = true ↔ ∃ i ≤ text.size, ∃ j, p.Takes text i j := by
  rw [occursIn, Bool.not_eq_true', List.isEmpty_eq_false_iff_exists_mem]
  simp only [mem_ends, List.mem_range, Nat.lt_succ_iff]
  constructor
  · rintro ⟨j, i, hi, hij⟩
    exact ⟨i, hi, j, hij⟩
  · rintro ⟨i, hi, j, hij⟩
    exact ⟨j, i, hi, hij⟩

end Pattern

end GitPractice.Regex
