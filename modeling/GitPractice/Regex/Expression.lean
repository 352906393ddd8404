/-!
# Regular expressions as written

An `Expression` holds what a pattern says and how it groups, before flags give it a meaning: a flag
set in the middle of a pattern changes what follows it. The nesting of an expression is bounded, and
`Expression.depth` is what the bound speaks about.
-/

namespace GitPractice.Regex

/-- The flags that a pattern can set: `i`, `m`, `s`, `U`, `u`, `R` and `x`. -/
inductive Flag where
  | ignoreCase
  | multiLine
  | dotAll
  | swapGreed
  | unicode
  | crlf
  | idleSpace
  deriving DecidableEq, Repr

/-- Flags set or cleared, in order. -/
abbrev FlagEdits := List (Flag × Bool)

/-- The class of a backslash and a letter: `\d`, `\s`, `\w`. -/
inductive Shorthand where
  | digit
  | space
  | word
  deriving DecidableEq, Repr

/-- A class asked for by a name, or by the value of a property. -/
inductive ClassName where
  | named (name : String)
  | valued (name value : String)
  deriving DecidableEq, Repr

inductive SetOp where
  | inter
  | diff
  | symmDiff
  deriving DecidableEq, Repr

/-- A class of characters. `ascii` is a class such as `[:alpha:]`, given by its ranges. -/
inductive CharClass where
  | empty
  | range (first last : Char)
  | shorthand (kind : Shorthand) (negated : Bool)
  | ascii (ranges : List (Nat × Nat)) (negated : Bool)
  | property (name : ClassName) (negated : Bool)
  | union (items : List CharClass)
  | op (kind : SetOp) (left right : CharClass)
  | bracket (negated : Bool) (inner : CharClass)
  deriving Repr

/-- A condition on the place between two characters. -/
inductive Anchor where
  | lineStart
  | lineEnd
  | textStart
  | textEnd
  | wordBoundary
  | notWordBoundary
  | wordStart
  | wordEnd
  | wordStartHalf
  | wordEndHalf
  deriving DecidableEq, Repr

/-- A pattern as it is written. A literal is marked if it was written as the number of a byte. -/
inductive Expression where
  | empty
  | literal (c : Char) (asByte : Bool)
  | dot
  | anchor (kind : Anchor)
  | charClass (set : CharClass)
  | flags (edits : FlagEdits)
  | group (edits : FlagEdits) (inner : Expression)
  | repeated (inner : Expression) (min : Nat) (max : Option Nat)
  | seq (items : List Expression)
  | alt (branches : List Expression)
  deriving Repr

namespace CharClass

/-- The class of all the items. -/
def ofItems : List CharClass → CharClass
  | [] => .empty
  | [s] => s
  | items => .union items

mutual

def depth : CharClass → Nat
  | .union items => depths items + 1
  | .op _ left right => max left.depth right.depth + 1
  | .bracket _ inner => inner.depth + 1
  | _ => 0

/-- The greatest depth among the items. -/
def depths : List CharClass → Nat
  | [] => 0
  | s :: r => max s.depth (depths r)

end

end CharClass

namespace Expression

/-- The expressions one after the other. -/
def inSequence : List Expression → Expression
  | [] => .empty
  | [e] => e
  | items => .seq items

/-- One of the expressions. -/
def oneOf : List Expression → Expression
  | [] => .empty
  | [e] => e
  | branches => .alt branches

mutual

def depth : Expression → Nat
  | .charClass set => set.depth
  | .group _ inner => inner.depth + 1
  | .repeated inner _ _ => inner.depth + 1
  | .seq items => depths items + 1
  | .alt branches => depths branches + 1
  | _ => 0

/-- The greatest depth among the expressions. -/
def depths : List Expression → Nat
  | [] => 0
  | e :: r => max e.depth (depths r)

end

end Expression

end GitPractice.Regex
