import GitPractice.Text.Blank
import GitPractice.Shell.Span

/-!
# Shell words

A line is read character by character by a small automaton. Blanks outside quotes end a word.
Single quotes keep every character as it is. In double quotes a backslash takes away the meaning of
a double quote, a backslash, a dollar sign or a grave accent, and otherwise stands for itself.
Outside quotes a backslash makes the next character an ordinary one. Pieces that touch form one
word, and a quoted empty piece makes an empty word.

Only the end of the line can be wrong: inside quotes or after a backslash (`finish`). Reading is a
left fold (`scan`), so a line may be read in parts (`scan_append`).
-/

namespace GitPractice.Shell

open GitPractice.Text (isBlank)

/-- A word with its quotes removed, and the place of its spelling in the line. -/
structure Token where
  text : String
  span : Span
  deriving DecidableEq, Repr

/-- What is left open at the end of a line. -/
inductive WordFault where
  | singleQuote
  | doubleQuote
  | backslash
  deriving DecidableEq, Repr

/-- The open quote or backslash, from its place to the end of the line. -/
structure WordError where
  fault : WordFault
  span : Span
  deriving DecidableEq, Repr

def WordError.message (e : WordError) : String :=
  match e.fault with
  | .singleQuote | .doubleQuote => "No closing quotation"
  | .backslash => "No escaped character"

/-- What the next character is part of; `opened` is the place of the quote or backslash. -/
inductive Mode where
  | bare
  | escaped (opened : Nat)
  | single (opened : Nat)
  | double (opened : Nat)
  | doubleEscaped (opened : Nat)
  deriving DecidableEq, Repr

/-- A line read up to the byte `pos`: the finished words, last one first, and the unfinished word
with the place where it began. -/
structure Scan where
  pos : Nat
  finished : List Token
  word : Option (String × Nat)
  mode : Mode
  deriving DecidableEq, Repr

/-- Before the first character. -/
def Scan.start : Scan := ⟨0, [], none, .bare⟩

/-- The characters whose meaning a backslash takes away in double quotes. -/
def isEscapable (c : Char) : Bool := c == '"' || c == '\\' || c == '$' || c == '\x60'

namespace Scan

/-- The unfinished word, which begins here if there is none. -/
def opening (s : Scan) : String × Nat := s.word.getD ("", s.pos)

/-- Adds a character to the word and goes on in `mode`. -/
def push (s : Scan) (c : Char) (mode : Mode) : Scan :=
  { s with word := some (s.opening.1.push c, s.opening.2), mode := mode }

/-- Begins a piece of the word without a character. -/
def enter (s : Scan) (mode : Mode) : Scan := { s with word := some s.opening, mode := mode }

/-- Ends the word, if there is one, at the present place. -/
def close (s : Scan) : Scan :=
  match s.word with
  | some (text, began) => { s with finished := ⟨text, ⟨began, s.pos⟩⟩ :: s.finished, word := none }
  | none => s

/-- The effect of a character, its place in the line apart. -/
def read (s : Scan) (c : Char) : Scan :=
  match s.mode with
  | .bare =>
    if isBlank c then s.close
    else if c = '\'' then s.enter (.single s.pos)
    else if c = '"' then s.enter (.double s.pos)
    else if c = '\\' then s.enter (.escaped s.pos)
    else s.push c .bare
  | .escaped _ => s.push c .bare
  | .single opened =>
    if c = '\'' then { s with mode := .bare } else s.push c (.single opened)
  | .double opened =>
    if c = '"' then { s with mode := .bare }
    else if c = '\\' then { s with mode := .doubleEscaped opened }
    else s.push c (.double opened)
  | .doubleEscaped opened =>
    if isEscapable c then s.push c (.double opened)
    else (s.push '\\' (.double opened)).push c (.double opened)

def step (s : Scan) (c : Char) : Scan :=
  let t := s.read c
  { t with pos := s.pos + c.utf8Size }

/-- The words of a line that ends here. -/
def finish (s : Scan) : Except WordError (List Token) :=
  match s.mode with
  | .bare => .ok s.close.finished.reverse
  | .escaped opened => .error ⟨.backslash, ⟨opened, s.pos⟩⟩
  | .single opened => .error ⟨.singleQuote, ⟨opened, s.pos⟩⟩
  | .double opened => .error ⟨.doubleQuote, ⟨opened, s.pos⟩⟩
  | .doubleEscaped opened => .error ⟨.doubleQuote, ⟨opened, s.pos⟩⟩

end Scan

/-- Reads on from a state. -/
def scan (s : Scan) (cs : List Char) : Scan := cs.foldl Scan.step s

@[simp] theorem scan_nil (s : Scan) : scan s [] = s := rfl

@[simp] theorem scan_cons (s : Scan) (c : Char) (cs : List Char) :
    scan s (c :: cs) = scan (s.step c) cs := rfl

theorem scan_append (s : Scan) (as bs : List Char) : scan s (as ++ bs) = scan (scan s as) bs :=
  List.foldl_append

/-- The words of a line with their places. -/
def tokenize (line : String) : Except WordError (List Token) :=
  (scan .start line.toList).finish

/-- The texts of the words of a line. -/
def splitWords (line : String) : Except WordError (List String) :=
  (tokenize line).map (·.map Token.text)

end GitPractice.Shell
