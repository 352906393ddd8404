import GitPractice.Text.Join

/-!
# Places in a line

A `Span` is a range of byte offsets into a typed line. Offsets may lie beyond the line or inside a
character; `slice` and `snippet` say what is shown then. Columns are counted in characters, so a
caret stands under the character it points at.
-/

namespace GitPractice.Shell

/-- The bytes from `start` up to but not including `stop`. -/
structure Span where
  start : Nat
  stop : Nat
  deriving DecidableEq, Repr

/-- The number of bytes in UTF-8. -/
def byteSize (cs : List Char) : Nat := cs.foldr (fun c n => c.utf8Size + n) 0

/-- What is left after the first `n` bytes, if they end between two characters. -/
def dropBytes? : Nat → List Char → Option (List Char)
  | 0, cs => some cs
  | _ + 1, [] => none
  | n + 1, c :: cs => if c.utf8Size ≤ n + 1 then dropBytes? (n + 1 - c.utf8Size) cs else none
termination_by _ cs => cs.length

/-- The first `n` bytes, if they end between two characters. -/
def takeBytes? : Nat → List Char → Option (List Char)
  | 0, _ => some []
  | _ + 1, [] => none
  | n + 1, c :: cs =>
    if c.utf8Size ≤ n + 1 then (takeBytes? (n + 1 - c.utf8Size) cs).map (c :: ·) else none
termination_by _ cs => cs.length

/-- The characters that lie wholly within the first `n` bytes. -/
def fitting : Nat → List Char → List Char
  | _, [] => []
  | n, c :: cs => if c.utf8Size ≤ n then c :: fitting (n - c.utf8Size) cs else []

namespace Span

def length (s : Span) : Nat := s.stop - s.start

def isEmpty (s : Span) : Bool := s.start == s.stop

/-- The characters in the span, if both its ends lie between characters of the text. -/
def chars? (s : Span) (cs : List Char) : Option (List Char) :=
  if s.start ≤ s.stop then (dropBytes? s.start cs).bind (takeBytes? s.length) else none

/-- The text in the span; nothing where the span does not fit the text. -/
def slice (s : Span) (text : String) : String :=
  String.ofList ((s.chars? text.toList).getD [])

end Span

/-- The line, and below it carets under the span, at least one. -/
def snippet (line : String) (s : Span) : String :=
  let cs := line.toList
  let size := byteSize cs
  let start := min s.start size
  let stop := max start (min s.stop size)
  let column := ((takeBytes? start cs).getD []).length
  let width := max 1 (((Span.mk start stop).chars? cs).getD []).length
  line ++ "\n" ++ String.ofList (List.replicate column ' ' ++ List.replicate width '^')

end GitPractice.Shell
