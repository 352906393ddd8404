/-!
# Decimal numbers

`readNat?` reads what a person types as a number: decimal digits, perhaps after a plus sign, whose
value stays below a bound. `padded` writes a number with leading zeros. Whatever is written is read
back (`readNat?_toDigits`, `digitsValue_padded`).
-/

namespace GitPractice.Text

def isDigit (c : Char) : Bool := '0' ≤ c && c ≤ '9'

def digitValue (c : Char) : Nat := c.toNat - '0'.toNat

/-- The value of decimal digits. -/
def digitsValue (cs : List Char) : Nat := Nat.ofDigitChars 10 cs 0

/-- At least one digit, none but digits. -/
def isDigits (cs : List Char) : Bool := !cs.isEmpty && cs.all isDigit

/-- The number below `bound` that `cs` writes, with or without a plus sign in front. -/
def readNat? (bound : Nat) (cs : List Char) : Option Nat :=
  let digits := match cs with
    | '+' :: r => r
    | _ => cs
  if isDigits digits && digitsValue digits < bound then some (digitsValue digits) else none

/-- The decimal digits of `n` after zeros that fill them up to `width` places. -/
def padded (width n : Nat) : String :=
  String.ofList (List.leftpad width '0' (Nat.toDigits 10 n))

theorem toList_padded (width n : Nat) :
    (padded width n).toList
      = List.replicate (width - (Nat.toDigits 10 n).length) '0' ++ Nat.toDigits 10 n := by
  rw [padded, String.toList_ofList, List.leftpad]

/-- The zeros fill the width and do not go beyond it. -/
theorem length_padded {width n : Nat} (hwidth : 0 < width) (h : n < Nat.pow 10 width) :
    (padded width n).toList.length = width := by
  have hdigits := (Nat.length_toDigits_le_iff (by decide) hwidth).2 h
  rw [toList_padded, List.length_append, List.length_replicate]
  omega

theorem digitsValue_padded (width n : Nat) : digitsValue (padded width n).toList = n := by
  rw [toList_padded, digitsValue, Nat.ofDigitChars_append, Nat.ofDigitChars_replicate_zero,
    Nat.mul_zero, Nat.ofDigitChars_ten_toDigits]

theorem isDigit_of_mem_padded {width n : Nat} {c : Char} (h : c ∈ (padded width n).toList) :
    c.isDigit = true := by
  rw [toList_padded, List.mem_append] at h
  rcases h with h | h
  · rw [List.eq_of_mem_replicate h]
    rfl
  · exact Nat.isDigit_of_mem_toDigits (by decide) (by decide) h

theorem digitsValue_toDigits (n : Nat) : digitsValue (Nat.toDigits 10 n) = n :=
  Nat.ofDigitChars_ten_toDigits

theorem isDigit_eq_isDigit (c : Char) : isDigit c = c.isDigit := by
  simp [isDigit, Char.isDigit, Char.le_def]

theorem isDigit_of_mem_toDigits {n : Nat} {c : Char} (h : c ∈ Nat.toDigits 10 n) :
    isDigit c = true := by
  rw [isDigit_eq_isDigit]
  exact Nat.isDigit_of_mem_toDigits (by decide) (by decide) h

/-- A number has a first digit, which is zero for zero only. -/
theorem toDigits_eq_cons (n : Nat) :
    ∃ d ds, Nat.toDigits 10 n = d :: ds ∧ isDigit d = true ∧ (d = '0' → n = 0) := by
  induction n using Nat.strongRecOn with
  | _ n ih =>
    rcases Nat.lt_or_ge n 10 with hlt | hge
    · have hdigits := Nat.toDigits_of_lt_base hlt
      refine ⟨n.digitChar, [], hdigits, isDigit_of_mem_toDigits (n := n) (by simp [hdigits]), ?_⟩
      exact Nat.digitChar_eq_zero.1
    · obtain ⟨d, ds, hds, hdigit, hzero⟩ := ih (n / 10) (by omega)
      rw [Nat.toDigits_of_base_le (by decide) hge, hds]
      refine ⟨d, ds ++ [(n % 10).digitChar], rfl, hdigit, fun hd => ?_⟩
      have := hzero hd
      omega

theorem readNat?_toDigits {bound n : Nat} (h : n < bound) :
    readNat? bound (Nat.toDigits 10 n) = some n := by
  obtain ⟨d, ds, hds, hdigit, -⟩ := toDigits_eq_cons n
  have hall : ∀ c ∈ d :: ds, isDigit c = true :=
    fun c hc => isDigit_of_mem_toDigits (hds ▸ hc)
  have hplus : d ≠ '+' := by
    rintro rfl
    revert hdigit
    decide
  have hdigits : isDigits (d :: ds) = true := by simpa [isDigits] using hall
  have hvalue : digitsValue (d :: ds) = n := by rw [← hds, digitsValue_toDigits]
  simp [readNat?, hds, hplus, hdigits, hvalue, h]

/-- The text followed by spaces up to `width` characters. -/
def filledTo (width : Nat) (s : String) : String :=
  String.ofList (List.rightpad width ' ' s.toList)

end GitPractice.Text
