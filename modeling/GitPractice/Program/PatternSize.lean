import GitPractice.Regex.Meaning

/-!
# The size of patterns

A guess at how much room a pattern takes when it is compiled: its counts are written out, and each
class and character is reckoned with its forms by case. The program takes it for the limit of the
engine (`estimatedSize`), which is ten mebibytes. Nothing else depends on it.
-/

namespace GitPractice.Regex

open Text (caseVariants)

/-- Roughly the room that a shorthand or its complement takes. -/
def Shorthand.weight : Shorthand → Bool → Nat
  | .digit, negated => if negated then 12700 else 5050
  | .space, negated => if negated then 1900 else 620
  | .word, negated => if negated then 46400 else 49800

/-- Roughly the room that a range takes. The letters K and S have a form beyond ASCII. -/
def rangeWeight (first last : Char) : Nat :=
  let holds (c : Char) : Bool := first ≤ c && c ≤ last
  if 128 ≤ last.toNat then 168
  else 16 + (if holds 'k' || holds 'K' then 112 else 0) +
    (if holds 's' || holds 'S' then 112 else 0)

namespace CharClass

mutual

/-- Roughly how much room a class takes when it is written out. -/
def weight : CharClass → Nat
  | .empty => 0
  | .range first last => rangeWeight first last
  | .shorthand kind negated => kind.weight negated
  | .ascii _ negated => if negated then 1200 else 240
  | .property _ _ => 30000
  | .union items => weights items
  | .op _ left right => left.weight + right.weight
  | .bracket negated inner => if negated then inner.weight + 940 else inner.weight

def weights : List CharClass → Nat
  | [] => 0
  | s :: r => s.weight + weights r

end

end CharClass

namespace Expression

/-- Roughly the room that a character takes with its other forms by case. -/
def literalWeight (c : Char) : Nat :=
  if c.isAlpha then 64 + rangeWeight c c
  else if c.toNat < 128 || (caseVariants c.toNat).length ≤ 1 then 32 * c.utf8Size
  else 168

mutual

/-- Roughly how much room an expression takes when its counts are written out. -/
def weight : Expression → Nat
  | .empty | .flags _ => 0
  | .literal c _ => literalWeight c
  | .dot => 1000
  | .anchor _ => 32
  | .charClass set => set.weight + 64
  | .group _ inner => inner.weight + 64
  | .repeated inner min none => inner.weight * Nat.max min 1 + 40
  | .repeated inner min (some max) => inner.weight * max + 40 * (max - min)
  | .seq items => weights items
  | .alt branches => weights branches + 64

def weights : List Expression → Nat
  | [] => 0
  | e :: r => e.weight + weights r

end

/-- Ten mebibytes. -/
def weightLimit : Nat := 10 * 1024 * 1024

end Expression

end GitPractice.Regex

namespace GitPractice.Program

/-- The limit by the estimate. -/
@[reducible] def estimatedSize : Regex.SizeLimit :=
  ⟨fun e => e.weight ≤ Regex.Expression.weightLimit⟩

end GitPractice.Program
