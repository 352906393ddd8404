/-!
# Blank characters

The characters with the Unicode property White_Space separate the words of a typed line.
`trim` drops them at both ends, `words` cuts a text at its runs of them. No word holds a blank
character (`wordsOf_not_blank`).
-/

namespace GitPractice.Text

/-- White_Space, as inclusive ranges of code points. -/
def blankRanges : List (Nat × Nat) :=
  [(0x09, 0x0d), (0x20, 0x20), (0x85, 0x85), (0xa0, 0xa0), (0x1680, 0x1680), (0x2000, 0x200a),
    (0x2028, 0x2029), (0x202f, 0x202f), (0x205f, 0x205f), (0x3000, 0x3000)]

/-- A code point lies in one of the given inclusive ranges. -/
def inRanges (ranges : List (Nat × Nat)) (c : Char) : Bool :=
  ranges.any fun r => r.1 ≤ c.toNat && c.toNat ≤ r.2

def isBlank (c : Char) : Bool := inRanges blankRanges c

/-- C0, DEL and C1 controls. -/
def isControl (c : Char) : Bool := inRanges [(0x00, 0x1f), (0x7f, 0x9f)] c

def trimStartChars (cs : List Char) : List Char := cs.dropWhile isBlank

def trimEndChars (cs : List Char) : List Char := (cs.reverse.dropWhile isBlank).reverse

def trimChars (cs : List Char) : List Char := trimEndChars (trimStartChars cs)

/-- The text without the blank characters at its ends. -/
def trim (s : String) : String := String.ofList (trimChars s.toList)

def trimEnd (s : String) : String := String.ofList (trimEndChars s.toList)

/-- Every character is blank. -/
def isBlankText (s : String) : Bool := s.toList.all isBlank

/-- The maximal runs of characters that are not blank, in order. -/
def wordsOf : List Char → List (List Char)
  | [] => []
  | c :: r =>
    if isBlank c then wordsOf r
    else match r with
      | [] => [[c]]
      | d :: _ =>
        if isBlank d then [c] :: wordsOf r
        else match wordsOf r with
          | [] => [[c]]
          | w :: ws => (c :: w) :: ws

def words (s : String) : List String := (wordsOf s.toList).map String.ofList

theorem wordsOf_not_blank (cs : List Char) : ∀ w ∈ wordsOf cs, ∀ c ∈ w, isBlank c = false := by
  fun_induction wordsOf cs <;> grind

end GitPractice.Text
