/-!
# Lines of input

Input comes as bytes. It is cut into lines at line feeds, a carriage return before which is left
out; a line is a text if its bytes are UTF-8.
-/

namespace GitPractice.Program

/-- The bytes of each line. What follows the last line feed is a line if it is not empty; `line`
holds the bytes of the present one in reverse. -/
def splitLines (line : List UInt8) : List UInt8 → List (List UInt8)
  | [] => if line.isEmpty then [] else [line.reverse]
  | b :: r =>
    if b = 10 then
      (match line with
        | 13 :: r' => r'.reverse
        | _ => line.reverse) :: splitLines [] r
    else splitLines (b :: line) r

/-- The text that bytes are in UTF-8. -/
def textOf? (bytes : List UInt8) : Option String := String.fromUTF8? ⟨bytes.toArray⟩

/-- The lines of an input, with nothing in the place of one that is no text. -/
def inputLines (bytes : List UInt8) : List (Option String) := (splitLines [] bytes).map textOf?

end GitPractice.Program
