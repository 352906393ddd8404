import GitPractice.Text.CaseTable
import GitPractice.Text.Category
import GitPractice.Text.Classes

/-!
# Letters

Lower-case and upper-case letters, letters that lose a dot below an accent, the digits of base
sixteen, and the characters that a change of case leaves as they are or does not.
-/

namespace GitPractice.Text

def letterCategories : List Category :=
  [.uppercaseLetter, .lowercaseLetter, .titlecaseLetter, .modifierLetter, .otherLetter]

/-- Letters, and numbers that are written as letters. -/
def isLetterLike (c : Char) : Bool := inCategories (.letterNumber :: letterCategories) c

/-- Marks and symbols that count as alphabetic. -/
def isOtherAlphabetic (c : Char) : Bool := isAlphabetic c && !isLetterLike c

/-- Characters that count as lower-case letters though their category is another. -/
def otherLowercaseRanges : List (Nat × Nat) :=
  [(0xaa, 0xaa), (0xba, 0xba), (0x2b0, 0x2b8), (0x2c0, 0x2c1), (0x2e0, 0x2e4), (0x345, 0x345),
    (0x37a, 0x37a), (0x10fc, 0x10fc), (0x1d2c, 0x1d6a), (0x1d78, 0x1d78), (0x1d9b, 0x1dbf),
    (0x2071, 0x2071), (0x207f, 0x207f), (0x2090, 0x209c), (0x2170, 0x217f), (0x24d0, 0x24e9),
    (0x2c7c, 0x2c7d), (0xa69c, 0xa69d), (0xa770, 0xa770), (0xa7f2, 0xa7f4), (0xa7f8, 0xa7f9),
    (0xab5c, 0xab5f), (0xab69, 0xab69), (0x10780, 0x10780), (0x10783, 0x10785), (0x10787, 0x107b0),
    (0x107b2, 0x107ba), (0x1e030, 0x1e06d)]

/-- Characters that count as upper-case letters though their category is another. -/
def otherUppercaseRanges : List (Nat × Nat) :=
  [(0x2160, 0x216f), (0x24b6, 0x24cf), (0x1f130, 0x1f149), (0x1f150, 0x1f169), (0x1f170, 0x1f189)]

def isLowercase (c : Char) : Bool :=
  Category.lowercaseLetter.contains c || inRanges otherLowercaseRanges c

def isUppercase (c : Char) : Bool :=
  Category.uppercaseLetter.contains c || inRanges otherUppercaseRanges c

def softDottedRanges : List (Nat × Nat) :=
  [(0x69, 0x6a), (0x12f, 0x12f), (0x249, 0x249), (0x268, 0x268), (0x29d, 0x29d), (0x2b2, 0x2b2),
    (0x3f3, 0x3f3), (0x456, 0x456), (0x458, 0x458), (0x1d62, 0x1d62), (0x1d96, 0x1d96),
    (0x1da4, 0x1da4), (0x1da8, 0x1da8), (0x1e2d, 0x1e2d), (0x1ecb, 0x1ecb), (0x2071, 0x2071),
    (0x2148, 0x2149), (0x2c7c, 0x2c7c), (0x1d422, 0x1d423), (0x1d456, 0x1d457), (0x1d48a, 0x1d48b),
    (0x1d4be, 0x1d4bf), (0x1d4f2, 0x1d4f3), (0x1d526, 0x1d527), (0x1d55a, 0x1d55b),
    (0x1d58e, 0x1d58f), (0x1d5c2, 0x1d5c3), (0x1d5f6, 0x1d5f7), (0x1d62a, 0x1d62b),
    (0x1d65e, 0x1d65f), (0x1d692, 0x1d693), (0x1df1a, 0x1df1a), (0x1e04c, 0x1e04d),
    (0x1e068, 0x1e068)]

/-- Letters whose dot an accent above replaces. -/
def isSoftDotted (c : Char) : Bool := inRanges softDottedRanges c

/-! ## Digits of base sixteen -/

def hexDigitRanges : List (Nat × Nat) := [(0x30, 0x39), (0x41, 0x46), (0x61, 0x66)]

/-- The full-width forms of the hexadecimal digits. -/
def wideHexDigitRanges : List (Nat × Nat) :=
  [(0xff10, 0xff19), (0xff21, 0xff26), (0xff41, 0xff46)]

/-! ## Changes of case -/

/-- The lower-case form is another text. -/
def changesLower (c : Char) : Bool := c == 'İ' || lowerCode c.toNat != c.toNat

/-- Characters that have an upper-case form of which they are not the lower-case one. -/
def upperOnlyRanges : List (Nat × Nat) :=
  [(0xb5, 0xb5), (0x131, 0x131), (0x149, 0x149), (0x17f, 0x17f), (0x1c5, 0x1c5), (0x1c8, 0x1c8),
    (0x1cb, 0x1cb), (0x1f0, 0x1f0), (0x1f2, 0x1f2), (0x345, 0x345), (0x390, 0x390), (0x3b0, 0x3b0),
    (0x3c2, 0x3c2), (0x3d0, 0x3d1), (0x3d5, 0x3d6), (0x3f0, 0x3f1), (0x3f5, 0x3f5), (0x587, 0x587),
    (0x1c80, 0x1c88), (0x1e96, 0x1e9b), (0x1f50, 0x1f50), (0x1f52, 0x1f52), (0x1f54, 0x1f54),
    (0x1f56, 0x1f56), (0x1f88, 0x1f8f), (0x1f98, 0x1f9f), (0x1fa8, 0x1faf), (0x1fb2, 0x1fb2),
    (0x1fb4, 0x1fb4), (0x1fb6, 0x1fb7), (0x1fbc, 0x1fbc), (0x1fbe, 0x1fbe), (0x1fc2, 0x1fc2),
    (0x1fc4, 0x1fc4), (0x1fc6, 0x1fc7), (0x1fcc, 0x1fcc), (0x1fd2, 0x1fd3), (0x1fd6, 0x1fd7),
    (0x1fe2, 0x1fe4), (0x1fe6, 0x1fe7), (0x1ff2, 0x1ff2), (0x1ff4, 0x1ff4), (0x1ff6, 0x1ff7),
    (0x1ffc, 0x1ffc), (0xfb00, 0xfb06), (0xfb13, 0xfb17)]

/-- The upper-case form is another text. -/
def changesUpper (c : Char) : Bool :=
  (lowerRuns.any fun r => (r.preimage? c.toNat).isSome) || inRanges upperOnlyRanges c

/-- Characters with a title-case form of their own: digraphs in upper case change to it, what is
in title case does not change, nor do the letters of a script without title case. -/
def changesTitle (c : Char) : Bool :=
  inRanges [(0x1c4, 0x1c4), (0x1c7, 0x1c7), (0x1ca, 0x1ca), (0x1f1, 0x1f1)] c ||
    (changesUpper c && !Category.titlecaseLetter.contains c &&
      !inRanges [(0x10d0, 0x10fa), (0x10fd, 0x10ff)] c)

/-- Characters that are their own lower-case form and yet are compared as another text. -/
def foldOnlyRanges : List (Nat × Nat) :=
  [(0xb5, 0xb5), (0xdf, 0xdf), (0x149, 0x149), (0x17f, 0x17f), (0x345, 0x345), (0x3c2, 0x3c2),
    (0x3d0, 0x3d1), (0x3d5, 0x3d6), (0x3f0, 0x3f1), (0x3f5, 0x3f5), (0x587, 0x587),
    (0x13f8, 0x13fd), (0x1c80, 0x1c88), (0x1e9a, 0x1e9b), (0x1f80, 0x1f87), (0x1f90, 0x1f97),
    (0x1fa0, 0x1fa7), (0x1fb2, 0x1fb4), (0x1fb7, 0x1fb7), (0x1fc2, 0x1fc4), (0x1fc7, 0x1fc7),
    (0x1ff2, 0x1ff4), (0x1ff7, 0x1ff7), (0xab70, 0xabbf), (0xfb00, 0xfb06), (0xfb13, 0xfb17)]

/-- The form for a comparison without case is another text. Cherokee letters are compared in
upper case. -/
def changesFold (c : Char) : Bool :=
  (changesLower c && !inRanges [(0x13a0, 0x13f5)] c) || inRanges foldOnlyRanges c

/-- One of the forms by case is another text. -/
def changesCase (c : Char) : Bool := changesLower c || changesUpper c || changesTitle c

end GitPractice.Text
