/-!
# Patterns and where they match

A `Pattern` says what text it takes, one character or one place at a time. `ends` finds every place
where a match that starts at one of the given places can end; rounds of a repetition are followed
until they lead to no new place, so the search is finite although a round may take no text. All
places are followed at once, so no part of a pattern is tried twice at one place.
-/

namespace GitPractice.Regex

/-- A place is given by the characters before and after it. -/
abbrev Place := Option Char → Option Char → Bool

inductive Pattern where
  | empty
  | one (accepts : Char → Bool)
  | look (holds : Place)
  | seq (first second : Pattern)
  | alt (left right : Pattern)
  | repeated (inner : Pattern) (min : Nat) (max : Option Nat)

/-- The character before a place of a text. -/
def charBefore (text : Array Char) : Nat → Option Char
  | 0 => none
  | i + 1 => text[i]?

/-- The places that `k` steps lead to. -/
def afterSteps (step : List Nat → List Nat) : Nat → List Nat → List Nat
  | 0, places => places
  | k + 1, places => afterSteps step k (step places)

/-- The places that at most `k` steps lead to from the newest ones, and those seen before. -/
def withinSteps (step : List Nat → List Nat) : Nat → List Nat → List Nat → List Nat
  | 0, seen, _ => seen
  | k + 1, seen, newest =>
    let next := (step newest).filter fun i => !seen.contains i
    if next.isEmpty then seen else withinSteps step k (seen ++ next) next

namespace Pattern

/-- The places where a match that starts at one of the given places can end, each once if those
are. A round of a repetition that takes no text can be left out or done again, so as many rounds
as there are places are as good as more. -/
def ends (text : Array Char) : Pattern → List Nat → List Nat
  | .empty, places => places
  | .one accepts, places => (places.filter fun i => (text[i]?).any accepts).map (· + 1)
  | .look holds, places => places.filter fun i => holds (charBefore text i) text[i]?
  | .seq first second, places => second.ends text (first.ends text places)
  | .alt left right, places => (left.ends text places ++ right.ends text places).eraseDups
  | .repeated inner min max, places =>
    let rounds := text.size + 1
    let start := afterSteps (inner.ends text) (Nat.min min rounds) places
    let more := match max with
      | none => rounds
      | some m => Nat.min (m - min) rounds
    withinSteps (inner.ends text) more start start

/-- Some part of the text matches. -/
def occursIn (p : Pattern) (text : Array Char) : Bool :=
  !(p.ends text (List.range (text.size + 1))).isEmpty

end Pattern

end GitPractice.Regex
