import GitPractice.Text.CaseTable
import GitPractice.Text.Classes

/-!
# Lower case

`lower` puts a text into lower case by Unicode's full mapping: a dotted capital I becomes two
characters, and a capital sigma becomes a final one where a word ends. All other characters are
mapped on their own.
-/

namespace GitPractice.Text

/-- The first character that counts for case is a letter with case. -/
def startsCased (cs : List Char) : Bool :=
  match cs.dropWhile isCaseIgnorable with
  | c :: _ => isCased c
  | [] => false

/-- A sigma after `before` (nearest character first) and in front of `after` ends a word. -/
def isFinalSigma (before after : List Char) : Bool := startsCased before && !startsCased after

/-- The lower-case form of one character in its place. -/
def lowerAt (before : List Char) (c : Char) (after : List Char) : List Char :=
  if c = 'Σ' then [if isFinalSigma before after then 'ς' else 'σ']
  else if c = 'İ' then ['i', Char.ofNat 0x307]
  else [lowerChar c]

def lowerFrom (before : List Char) : List Char → List Char
  | [] => []
  | c :: cs => lowerAt before c cs ++ lowerFrom (c :: before) cs

def lowerChars (cs : List Char) : List Char := lowerFrom [] cs

def lower (s : String) : String := String.ofList (lowerChars s.toList)

/-- The text with the letters A to Z in lower case and all else as it is. -/
def lowerAscii (s : String) : String := s.map Char.toLower

theorem lowerFrom_cons (before : List Char) (c : Char) (cs : List Char) :
    lowerFrom before (c :: cs) = lowerAt before c cs ++ lowerFrom (c :: before) cs := rfl

end GitPractice.Text
