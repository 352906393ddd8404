import GitPractice.Regex.Meaning
import GitPractice.Regex.Reader
import GitPractice.Text.Blank
import GitPractice.Text.Join
import GitPractice.Text.Lower

/-!
# Judging a typed command

A command matches an expected one if the two agree up to blank space, case and the style of quotes;
two git commands also if they hold the same words in whatever order. A pattern matches what begins
with it, case aside.
-/

namespace GitPractice.Lesson

open Text (words joinWith lower piecesAt dropFront?)

/-- The words of a text in lower case, with one space between any two. -/
def normalizeCommand (s : String) : String := lower (joinWith " " (words s))

/-- Every quote is a double one. -/
def unifyQuotes (s : String) : String := s.map fun c => if c = '\'' then '"' else c

/-- The text begins with the word `git`. -/
def isGitLine (s : String) : Bool := (dropFront? "git ".toList s.toList).isSome

def spacedWords (s : String) : List (List Char) := piecesAt ' ' s.toList

/-- The texts have the same words, order and number aside. -/
def sameWords (s t : String) : Bool :=
  (spacedWords s).all (spacedWords t).contains && (spacedWords t).all (spacedWords s).contains

def commandsMatch (input expected : String) : Bool :=
  let s := normalizeCommand input
  let t := normalizeCommand expected
  s == t || unifyQuotes s == unifyQuotes t ||
    (isGitLine (unifyQuotes s) && isGitLine (unifyQuotes t) &&
      sameWords (unifyQuotes s) (unifyQuotes t))

/-- The text of a pattern tied to the start of the line. -/
def anchoredText (pattern : String) : String := "^(?:" ++ pattern ++ ")"

section Patterns

variable [Regex.SizeLimit]

/-- The pattern that a step gives, if its text is one that can be compiled. -/
def compilePattern? (pattern : String) : Option Regex.Pattern :=
  (Regex.read (anchoredText pattern)).bind fun e =>
    if Regex.SizeLimit.fits e then e.caseless? else none

def isPattern (pattern : String) : Bool := (compilePattern? pattern).isSome

/-- The pattern matches the input; a text that is no pattern matches nothing. -/
def patternMatches (pattern input : String) : Bool :=
  match compilePattern? pattern with
  | some p => p.occursIn input.toList.toArray
  | none => false

end Patterns

end GitPractice.Lesson
