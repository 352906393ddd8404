import GitPractice.Text.Number

/-!
# Hexadecimal numbers

The value of hexadecimal digits, and the character whose number they write.
-/

namespace GitPractice.Text

def hexValue? (c : Char) : Option Nat :=
  if isDigit c then some (digitValue c)
  else if 'a' ≤ c && c ≤ 'f' then some (c.toNat - 'a'.toNat + 10)
  else if 'A' ≤ c && c ≤ 'F' then some (c.toNat - 'A'.toNat + 10)
  else none

/-- The number that digits of the given base write, the first one the greatest. -/
def digitsIn (base : Nat) (digits : List Nat) : Nat :=
  digits.foldl (fun n d => n * base + d) 0

/-- The number that at least one hexadecimal digit writes. -/
def hexNumber? (cs : List Char) : Option Nat :=
  if cs.isEmpty then none else (cs.mapM hexValue?).map (digitsIn 16)

/-- The character whose number is written; surrogates and numbers past the last one are none. -/
def charOfHex? (cs : List Char) : Option Char :=
  match hexNumber? cs with
  | some n => if n.isValidChar then some (Char.ofNat n) else none
  | none => none

end GitPractice.Text
