import GitPractice.Text.Letter
import GitPractice.Text.Sign

/-!
# Identifiers

The characters that a name in a programming language may start with, and those that may follow.
Two stricter classes leave out what a compatible form would not allow (`startsFoldedName`,
`continuesFoldedName`), and two more hold the signs that names in mathematics may use.
-/

namespace GitPractice.Text

/-- Characters that start names though they are no letters. -/
def isOtherNameStart (c : Char) : Bool :=
  inRanges [(0x1885, 0x1886), (0x2118, 0x2118), (0x212e, 0x212e), (0x309b, 0x309c)] c

/-- Characters that continue names though they are no letters, marks, digits or connectors. -/
def isOtherNamePart (c : Char) : Bool :=
  inRanges [(0xb7, 0xb7), (0x387, 0x387), (0x1369, 0x1371), (0x19da, 0x19da), (0x200c, 0x200d),
    (0x30fb, 0x30fb), (0xff65, 0xff65)] c

/-- Kept for the syntax of patterns, so not used in names. -/
def isPatternChar (c : Char) : Bool := isPatternSyntax c || isPatternSpace c

def startsName (c : Char) : Bool := (isLetterLike c || isOtherNameStart c) && !isPatternChar c

def continuesName (c : Char) : Bool :=
  (isLetterLike c || isOtherNameStart c || isOtherNamePart c ||
    inCategories [.nonspacingMark, .spacingMark, .decimalNumber, .connectorPunctuation] c) &&
    !isPatternChar c

/-- Letters whose compatible form starts with a character that continues no name. -/
def unfoldableRanges : List (Nat × Nat) :=
  [(0x37a, 0x37a), (0x309b, 0x309c), (0xfc5e, 0xfc63), (0xfdfa, 0xfdfb), (0xfe70, 0xfe70),
    (0xfe72, 0xfe72), (0xfe74, 0xfe74), (0xfe76, 0xfe76), (0xfe78, 0xfe78), (0xfe7a, 0xfe7a),
    (0xfe7c, 0xfe7c), (0xfe7e, 0xfe7e)]

/-- Letters whose compatible form starts with a mark. -/
def markFirstRanges : List (Nat × Nat) := [(0xe33, 0xe33), (0xeb3, 0xeb3), (0xff9e, 0xff9f)]

def startsFoldedName (c : Char) : Bool :=
  startsName c && !inRanges (unfoldableRanges ++ markFirstRanges) c

def continuesFoldedName (c : Char) : Bool := continuesName c && !inRanges unfoldableRanges c

/-- Signs that names in mathematics may start with. -/
def startsMathName (c : Char) : Bool :=
  inRanges [(0x2202, 0x2202), (0x2207, 0x2207), (0x221e, 0x221e), (0x1d6c1, 0x1d6c1),
    (0x1d6db, 0x1d6db), (0x1d6fb, 0x1d6fb), (0x1d715, 0x1d715), (0x1d735, 0x1d735),
    (0x1d74f, 0x1d74f), (0x1d76f, 0x1d76f), (0x1d789, 0x1d789), (0x1d7a9, 0x1d7a9),
    (0x1d7c3, 0x1d7c3)] c

/-- The same, with the raised and lowered digits and signs that may follow. -/
def continuesMathName (c : Char) : Bool :=
  startsMathName c ||
    inRanges [(0xb2, 0xb3), (0xb9, 0xb9), (0x2070, 0x2070), (0x2074, 0x207e), (0x2080, 0x208e)] c

end GitPractice.Text
