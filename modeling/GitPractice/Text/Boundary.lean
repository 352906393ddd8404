import GitPractice.Text.Identifier
import GitPractice.Text.Ideograph
import GitPractice.Text.Mark
import GitPractice.Text.Emoji
import GitPractice.Text.Script

/-!
# Boundaries

What a character is where a text is cut into the units that a reader sees as one character, into
words, and into sentences. Each cut has its own few classes, and a character that is in none of
them is ordinary.
-/

namespace GitPractice.Text

/-- Marks that take space of their own. -/
def isSpacingMark (c : Char) : Bool := Category.spacingMark.contains c

/-- Members of one of the scripts' tables. -/
def isOfScript (name : String) (c : Char) : Bool :=
  match scriptRuns? name with
  | some runs => inRuns runs c
  | none => false

/-! ## Units -/

inductive UnitClass where
  | carriageReturn
  | lineFeed
  | control
  | extend
  | joiner
  | regionLetter
  | prepend
  | spacingMark
  | leadingJamo
  | vowelJamo
  | trailingJamo
  | openSyllable
  | closedSyllable
  deriving DecidableEq, Repr

/-- Marks with space that do not stick to the character before them. -/
def looseMarkRanges : List (Nat × Nat) :=
  [(0x102b, 0x102c), (0x1038, 0x1038), (0x1062, 0x1064), (0x1067, 0x106d), (0x1083, 0x1083),
    (0x1087, 0x108c), (0x108f, 0x108f), (0x109a, 0x109c), (0x1a61, 0x1a61), (0x1a63, 0x1a64),
    (0xaa7b, 0xaa7b), (0xaa7d, 0xaa7d), (0x11720, 0x11721)]

/-- Letters that are put before the consonant they are written with. -/
def prependRanges : List (Nat × Nat) :=
  [(0xd4e, 0xd4e), (0x111c2, 0x111c3), (0x113d1, 0x113d1), (0x1193f, 0x1193f), (0x11941, 0x11941),
    (0x11a3a, 0x11a3a), (0x11a84, 0x11a89), (0x11d46, 0x11d46), (0x11f02, 0x11f02)]

/-- Syllables of a leading consonant and a vowel: every 28th of the block. -/
def isOpenSyllable (c : Char) : Bool :=
  inRanges [(0xac00, 0xd7a3)] c && (c.toNat - 0xac00) % 28 == 0

namespace UnitClass

def contains (c : Char) : UnitClass → Bool
  | .carriageReturn => c == '\r'
  | .lineFeed => c == '\n'
  | .control =>
    c != '\r' && c != '\n' && !isJoinControl c && !isPrependedMark c && !extendsGrapheme c &&
      (inCategories [.lineSeparator, .paragraphSeparator, .control, .format] c ||
        (isIgnorable c && !isAssigned c))
  | .extend => extendsGrapheme c || isSkinTone c
  | .joiner => c.toNat == 0x200d
  | .regionLetter => isRegionLetter c
  | .prepend => isPrependedMark c || inRanges prependRanges c
  | .spacingMark =>
    inRanges [(0xe33, 0xe33), (0xeb3, 0xeb3)] c ||
      (isSpacingMark c && !extendsGrapheme c && !inRanges looseMarkRanges c)
  | .leadingJamo => inRanges [(0x1100, 0x115f), (0xa960, 0xa97c)] c
  | .vowelJamo =>
    inRanges [(0x1160, 0x11a7), (0xd7b0, 0xd7c6), (0x16d63, 0x16d63), (0x16d67, 0x16d6a)] c
  | .trailingJamo => inRanges [(0x11a8, 0x11ff), (0xd7cb, 0xd7fb)] c
  | .openSyllable => isOpenSyllable c
  | .closedSyllable => inRanges [(0xac00, 0xd7a3)] c && !isOpenSyllable c

def names : List (List String × UnitClass) :=
  [(["cr"], .carriageReturn), (["lf"], .lineFeed), (["control", "cn"], .control),
    (["extend", "ex"], .extend), (["zwj"], .joiner), (["regionalindicator", "ri"], .regionLetter),
    (["prepend", "pp"], .prepend), (["spacingmark", "sm"], .spacingMark),
    (["l"], .leadingJamo), (["v"], .vowelJamo), (["t"], .trailingJamo), (["lv"], .openSyllable),
    (["lvt"], .closedSyllable)]

end UnitClass

/-- The characters of a class of units, given its loose name. -/
def unitClass? (name : String) : Option (Char → Bool) :=
  (UnitClass.names.find? fun e => e.1.contains name).map fun e => fun c => e.2.contains c

/-! ## Words -/

inductive WordClass where
  | carriageReturn
  | lineFeed
  | newline
  | extend
  | joiner
  | format
  | regionLetter
  | katakana
  | hebrewLetter
  | letter
  | singleQuote
  | doubleQuote
  | midNumLet
  | midLetter
  | midNum
  | numeric
  | connector
  | space
  deriving DecidableEq, Repr

/-- Characters of scripts whose words only a dictionary can find. -/
def complexContextRanges : List (Nat × Nat) :=
  [(0xe01, 0xe3a), (0xe40, 0xe4e), (0xe81, 0xe82), (0xe84, 0xe84), (0xe86, 0xe8a), (0xe8c, 0xea3),
    (0xea5, 0xea5), (0xea7, 0xebd), (0xec0, 0xec4), (0xec6, 0xec6), (0xec8, 0xece), (0xedc, 0xedf),
    (0x1000, 0x103f), (0x1050, 0x108f), (0x109a, 0x109f), (0x1780, 0x17d3), (0x17d7, 0x17d7),
    (0x17dc, 0x17dd), (0x1950, 0x196d), (0x1970, 0x1974), (0x1980, 0x19ab), (0x19b0, 0x19c9),
    (0x19da, 0x19da), (0x19de, 0x19df), (0x1a20, 0x1a5e), (0x1a60, 0x1a7c), (0x1aa0, 0x1aad),
    (0xa9e0, 0xa9ef), (0xa9fa, 0xa9fe), (0xaa60, 0xaac2), (0xaadb, 0xaadf), (0x11700, 0x1171a),
    (0x1171d, 0x1172b), (0x1173a, 0x1173b), (0x1173f, 0x11746)]

/-- Characters that words hold though they are not alphabetic. -/
def wordLetterRanges : List (Nat × Nat) :=
  [(0x2c2, 0x2c5), (0x2d2, 0x2d7), (0x2de, 0x2df), (0x2e5, 0x2eb), (0x2ed, 0x2ed), (0x2ef, 0x2ff),
    (0x55a, 0x55c), (0x55e, 0x55e), (0x58a, 0x58a), (0x5f3, 0x5f3), (0x70f, 0x70f),
    (0xa708, 0xa716), (0xa720, 0xa721), (0xa789, 0xa78a), (0xab5b, 0xab5b)]

/-- Digits, the decimal separator of Arabic, and the signs that stand before digits. -/
def isNumberPart (c : Char) : Bool :=
  isDecimalDigit c || c.toNat == 0x66b || (isPrependedMark c && c.toNat != 0x70f)

namespace WordClass

def isKatakana (c : Char) : Bool :=
  isOfScript "katakana" c ||
    inRanges [(0x3031, 0x3035), (0x309b, 0x309c), (0x30a0, 0x30a0), (0x30fc, 0x30fc),
      (0xff70, 0xff70)] c

def isExtend (c : Char) : Bool :=
  (extendsGrapheme c || isSpacingMark c || isSkinTone c) && c.toNat != 0x200d

def isHebrewLetter (c : Char) : Bool :=
  isOfScript "hebrew" c && Category.otherLetter.contains c

def contains (c : Char) : WordClass → Bool
  | .carriageReturn => c == '\r'
  | .lineFeed => c == '\n'
  | .newline => inRanges [(0xb, 0xc), (0x85, 0x85), (0x2028, 0x2029)] c
  | .extend => isExtend c
  | .joiner => c.toNat == 0x200d
  | .format =>
    Category.format.contains c && !inRanges [(0x200b, 0x200d)] c && !extendsGrapheme c &&
      !isPrependedMark c
  | .regionLetter => isRegionLetter c
  | .katakana => isKatakana c
  | .hebrewLetter => isHebrewLetter c
  | .letter =>
    (isAlphabetic c || inRanges wordLetterRanges c) && !isIdeograph c && !isKatakana c &&
      !inRanges complexContextRanges c && !isOfScript "hiragana" c && !isExtend c &&
      !isHebrewLetter c
  | .singleQuote => c == '\''
  | .doubleQuote => c == '"'
  | .midNumLet =>
    inRanges [(0x2e, 0x2e), (0x2018, 0x2019), (0x2024, 0x2024), (0xfe52, 0xfe52),
      (0xff07, 0xff07), (0xff0e, 0xff0e)] c
  | .midLetter =>
    inRanges [(0x3a, 0x3a), (0xb7, 0xb7), (0x387, 0x387), (0x55f, 0x55f), (0x5f4, 0x5f4),
      (0x2027, 0x2027), (0xfe13, 0xfe13), (0xfe55, 0xfe55), (0xff1a, 0xff1a)] c
  | .midNum =>
    inRanges [(0x2c, 0x2c), (0x3b, 0x3b), (0x37e, 0x37e), (0x589, 0x589), (0x60c, 0x60d),
      (0x66c, 0x66c), (0x7f8, 0x7f8), (0x2044, 0x2044), (0xfe10, 0xfe10), (0xfe14, 0xfe14),
      (0xfe50, 0xfe50), (0xfe54, 0xfe54), (0xff0c, 0xff0c), (0xff1b, 0xff1b)] c
  | .numeric => isNumberPart c
  | .connector => Category.connectorPunctuation.contains c || c.toNat == 0x202f
  | .space =>
    inRanges [(0x20, 0x20), (0x1680, 0x1680), (0x2000, 0x2006), (0x2008, 0x200a),
      (0x205f, 0x205f), (0x3000, 0x3000)] c

def names : List (List String × WordClass) :=
  [(["cr"], .carriageReturn), (["lf"], .lineFeed), (["newline", "nl"], .newline),
    (["extend"], .extend), (["zwj"], .joiner), (["format", "fo"], .format),
    (["regionalindicator", "ri"], .regionLetter), (["katakana", "ka"], .katakana),
    (["hebrewletter", "hl"], .hebrewLetter), (["aletter", "le"], .letter),
    (["singlequote", "sq"], .singleQuote), (["doublequote", "dq"], .doubleQuote),
    (["midnumlet", "mb"], .midNumLet), (["midletter", "ml"], .midLetter),
    (["midnum", "mn"], .midNum), (["numeric", "nu"], .numeric),
    (["extendnumlet", "ex"], .connector), (["wsegspace"], .space)]

end WordClass

/-- The characters of a class of words, given its loose name. -/
def wordClass? (name : String) : Option (Char → Bool) :=
  (WordClass.names.find? fun e => e.1.contains name).map fun e => fun c => e.2.contains c

/-! ## Sentences -/

inductive SentenceClass where
  | carriageReturn
  | lineFeed
  | separator
  | extend
  | format
  | space
  | lower
  | upper
  | otherLetter
  | numeric
  | fullStop
  | terminal
  | goesOn
  | close
  deriving DecidableEq, Repr

/-- Quotation marks that are neither opening nor closing ones. -/
def neutralQuoteRanges : List (Nat × Nat) :=
  [(0x22, 0x22), (0x27, 0x27), (0x275b, 0x2760), (0x2e00, 0x2e01), (0x2e06, 0x2e08),
    (0x2e0b, 0x2e0b), (0x1f676, 0x1f678)]

/-- Punctuation after which a sentence goes on. -/
def goesOnRanges : List (Nat × Nat) :=
  [(0x2c, 0x2d), (0x3a, 0x3b), (0x37e, 0x37e), (0x55d, 0x55d), (0x60c, 0x60d), (0x7f8, 0x7f8),
    (0x1802, 0x1802), (0x1808, 0x1808), (0x2013, 0x2014), (0x3001, 0x3001), (0xfe10, 0xfe11),
    (0xfe13, 0xfe14), (0xfe31, 0xfe32), (0xfe50, 0xfe51), (0xfe54, 0xfe55), (0xfe58, 0xfe58),
    (0xfe63, 0xfe63), (0xff0c, 0xff0d), (0xff1a, 0xff1b), (0xff64, 0xff64)]

namespace SentenceClass

def isExtend (c : Char) : Bool := extendsGrapheme c || isSpacingMark c || c.toNat == 0x200d

def isFullStop (c : Char) : Bool :=
  inRanges [(0x2e, 0x2e), (0x2024, 0x2024), (0xfe52, 0xfe52), (0xff0e, 0xff0e)] c

/-- Lower-case letters of the scripts that start a sentence in upper case. -/
def isLower (c : Char) : Bool :=
  isLowercase c && !extendsGrapheme c && !inRanges [(0x10d0, 0x10fa), (0x10fd, 0x10ff)] c

def isUpper (c : Char) : Bool :=
  Category.titlecaseLetter.contains c ||
    (isUppercase c && !inRanges [(0x1c90, 0x1cba), (0x1cbd, 0x1cbf)] c)

def contains (c : Char) : SentenceClass → Bool
  | .carriageReturn => c == '\r'
  | .lineFeed => c == '\n'
  | .separator => inRanges [(0x85, 0x85), (0x2028, 0x2029)] c
  | .extend => isExtend c
  | .format =>
    Category.format.contains c && !isJoinControl c && !extendsGrapheme c && !isNumberPart c
  | .space => isBlank c && c != '\r' && c != '\n' && !inRanges [(0x85, 0x85), (0x2028, 0x2029)] c
  | .lower => isLower c
  | .upper => isUpper c
  | .otherLetter =>
    (isAlphabetic c || c.toNat == 0x5f3) && !isLower c && !isUpper c && !isExtend c
  | .numeric => isNumberPart c || c.toNat == 0x66c
  | .fullStop => isFullStop c
  | .terminal => endsSentence c && !isFullStop c
  | .goesOn => inRanges goesOnRanges c
  | .close =>
    inCategories [.openPunctuation, .closePunctuation, .initialPunctuation, .finalPunctuation] c ||
      inRanges neutralQuoteRanges c

def names : List (List String × SentenceClass) :=
  [(["cr"], .carriageReturn), (["lf"], .lineFeed), (["sep", "se"], .separator),
    (["extend", "ex"], .extend), (["format", "fo"], .format), (["sp"], .space),
    (["lower", "lo"], .lower), (["upper", "up"], .upper), (["oletter", "le"], .otherLetter),
    (["numeric", "nu"], .numeric), (["aterm", "at"], .fullStop), (["sterm", "st"], .terminal),
    (["scontinue", "sc"], .goesOn), (["close", "cl"], .close)]

end SentenceClass

/-- The characters of a class of sentences, given its loose name. -/
def sentenceClass? (name : String) : Option (Char → Bool) :=
  (SentenceClass.names.find? fun e => e.1.contains name).map fun e => fun c => e.2.contains c

end GitPractice.Text
