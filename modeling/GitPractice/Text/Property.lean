import GitPractice.Text.Age
import GitPractice.Text.Boundary
import GitPractice.Text.ScriptExtension

/-!
# Properties by name

Classes of characters that have names: general categories and groups of them, scripts, properties
that a character has or has not, and the values of properties that have more than two. Names are
compared loosely: case, spaces, hyphens and underscores do not count, nor does a leading `is`.
-/

namespace GitPractice.Text

def isNameJoint (c : Char) : Bool := c == ' ' || c == '_' || c == '-'

/-- The form of a name in which loose spellings agree. -/
def looseName (s : String) : String :=
  let plain (cs : List Char) := String.ofList
    ((cs.filter fun c => !isNameJoint c && c.toNat < 128).map Char.toLower)
  match s.toList with
  | i :: s' :: r =>
    if i.toLower == 'i' && s'.toLower == 's' then
      (if plain r == "c" then "isc" else plain r)
    else plain (i :: s' :: r)
  | cs => plain cs

/-! ## General categories -/

/-- The categories, and groups of categories, by their short and long names. -/
def categoryNames : List (List String × List Category) :=
  [(["l", "letter"], letterCategories),
    (["lc", "casedletter"], [.uppercaseLetter, .lowercaseLetter, .titlecaseLetter]),
    (["lu", "uppercaseletter"], [.uppercaseLetter]),
    (["ll", "lowercaseletter"], [.lowercaseLetter]),
    (["lt", "titlecaseletter"], [.titlecaseLetter]),
    (["lm", "modifierletter"], [.modifierLetter]),
    (["lo", "otherletter"], [.otherLetter]),
    (["m", "mark", "combiningmark"], [.nonspacingMark, .spacingMark, .enclosingMark]),
    (["mn", "nonspacingmark"], [.nonspacingMark]),
    (["mc", "spacingmark"], [.spacingMark]),
    (["me", "enclosingmark"], [.enclosingMark]),
    (["n", "number"], [.decimalNumber, .letterNumber, .otherNumber]),
    (["nd", "decimalnumber", "digit"], [.decimalNumber]),
    (["nl", "letternumber"], [.letterNumber]),
    (["no", "othernumber"], [.otherNumber]),
    (["p", "punctuation", "punct"],
      [.connectorPunctuation, .dashPunctuation, .openPunctuation, .closePunctuation,
        .initialPunctuation, .finalPunctuation, .otherPunctuation]),
    (["pc", "connectorpunctuation"], [.connectorPunctuation]),
    (["pd", "dashpunctuation"], [.dashPunctuation]),
    (["ps", "openpunctuation"], [.openPunctuation]),
    (["pe", "closepunctuation"], [.closePunctuation]),
    (["pi", "initialpunctuation"], [.initialPunctuation]),
    (["pf", "finalpunctuation"], [.finalPunctuation]),
    (["po", "otherpunctuation"], [.otherPunctuation]),
    (["s", "symbol"], [.mathSymbol, .currencySymbol, .modifierSymbol, .otherSymbol]),
    (["sm", "mathsymbol"], [.mathSymbol]),
    (["sc", "currencysymbol"], [.currencySymbol]),
    (["sk", "modifiersymbol"], [.modifierSymbol]),
    (["so", "othersymbol"], [.otherSymbol]),
    (["z", "separator"], [.spaceSeparator, .lineSeparator, .paragraphSeparator]),
    (["zs", "spaceseparator"], [.spaceSeparator]),
    (["zl", "lineseparator"], [.lineSeparator]),
    (["zp", "paragraphseparator"], [.paragraphSeparator]),
    (["cc", "control", "cntrl"], [.control]),
    (["cf", "format"], [.format]),
    (["co", "privateuse"], [.privateUse])]

/-- The class of a category, given its loose name. -/
def categoryClass? (name : String) : Option (Char → Bool) :=
  if name == "any" then some fun _ => true
  else if name == "ascii" then some fun c => c.toNat < 128
  else if name == "assigned" then some isAssigned
  else if name == "cn" || name == "unassigned" then some fun c => !isAssigned c
  else if name == "c" || name == "other" then
    some fun c => !isAssigned c || inCategories [.control, .format, .privateUse] c
  else
    (categoryNames.find? fun e => e.1.contains name).map fun e => inCategories e.2

def scriptClass? (name : String) : Option (Char → Bool) := (scriptRuns? name).map inRuns

/-! ## Properties that a character has or has not -/

def letterProperties : List (List String × (Char → Bool)) :=
  [(["alphabetic", "alpha"], isAlphabetic), (["otheralphabetic", "oalpha"], isOtherAlphabetic),
    (["lowercase", "lower"], isLowercase),
    (["otherlowercase", "olower"], inRanges otherLowercaseRanges),
    (["uppercase", "upper"], isUppercase),
    (["otheruppercase", "oupper"], inRanges otherUppercaseRanges), (["cased"], isCased),
    (["caseignorable", "ci"], isCaseIgnorable), (["changeswhenlowercased", "cwl"], changesLower),
    (["changeswhenuppercased", "cwu"], changesUpper),
    (["changeswhentitlecased", "cwt"], changesTitle),
    (["changeswhencasefolded", "cwcf"], changesFold),
    (["changeswhencasemapped", "cwcm"], changesCase), (["softdotted", "sd"], isSoftDotted),
    (["asciihexdigit", "ahex"], inRanges hexDigitRanges),
    (["hexdigit", "hex"], inRanges (hexDigitRanges ++ wideHexDigitRanges))]

def signProperties : List (List String × (Char → Bool)) :=
  [(["whitespace", "wspace", "space"], isBlank), (["dash"], isDash), (["hyphen"], isHyphen),
    (["quotationmark", "qmark"], isQuotationMark), (["terminalpunctuation", "term"], endsClause),
    (["sentenceterminal", "sterm"], endsSentence), (["math"], isMath),
    (["othermath", "omath"], inRanges otherMathRanges),
    (["bidicontrol", "bidic"], isDirectionControl), (["bidimirrored", "bidim"], isMirrored),
    (["patternsyntax", "patsyn"], isPatternSyntax),
    (["patternwhitespace", "patws"], isPatternSpace)]

def markProperties : List (List String × (Char → Bool)) :=
  [(["diacritic", "dia"], isDiacritic), (["extender", "ext"], isExtender),
    (["graphemebase", "grbase"], isGraphemeBase), (["graphemeextend", "grext"], extendsGrapheme),
    (["graphemelink", "grlink"], linksGraphemes),
    (["othergraphemeextend", "ogrext"], inRanges otherGraphemeExtendRanges),
    (["modifiercombiningmark", "mcm"], isModifierMark),
    (["prependedconcatenationmark", "pcm"], isPrependedMark),
    (["joincontrol", "joinc"], isJoinControl), (["variationselector", "vs"], isVariationSelector),
    (["logicalorderexception", "loe"], isWrittenFirst),
    (["defaultignorablecodepoint", "di"], isIgnorable),
    (["otherdefaultignorablecodepoint", "odi"], isOtherIgnorable),
    (["deprecated", "dep"], isDeprecated), (["noncharactercodepoint", "nchar"], isNoncharacter)]

def nameProperties : List (List String × (Char → Bool)) :=
  [(["idstart", "ids"], startsName), (["idcontinue", "idc"], continuesName),
    (["otheridstart", "oids"], isOtherNameStart), (["otheridcontinue", "oidc"], isOtherNamePart),
    (["xidstart", "xids"], startsFoldedName), (["xidcontinue", "xidc"], continuesFoldedName),
    (["idcompatmathstart"], startsMathName), (["idcompatmathcontinue"], continuesMathName)]

def ideographProperties : List (List String × (Char → Bool)) :=
  [(["ideographic", "ideo"], isIdeograph), (["unifiedideograph", "uideo"], isUnifiedIdeograph),
    (["radical"], isRadical), (["idsunaryoperator", "idsu"], isUnaryDescription),
    (["idsbinaryoperator", "idsb"], isBinaryDescription),
    (["idstrinaryoperator", "idst"], isTernaryDescription)]

def emojiProperties : List (List String × (Char → Bool)) :=
  [(["emoji"], isEmoji), (["emojipresentation", "epres"], isShownAsEmoji),
    (["emojimodifier", "emod"], isSkinTone), (["emojimodifierbase", "ebase"], takesSkinTone),
    (["emojicomponent", "ecomp"], isEmojiPart),
    (["extendedpictographic", "extpict"], isPictograph),
    (["regionalindicator", "ri"], isRegionLetter)]

/-- The properties, each by its long and short names. -/
def properties : List (List String × (Char → Bool)) :=
  letterProperties ++ signProperties ++ markProperties ++ nameProperties ++
    ideographProperties ++ emojiProperties

/-- The class that a single name stands for: a property, a category or a script. -/
def namedClass? (name : String) : Option (Char → Bool) :=
  let n := looseName name
  match properties.find? fun e => e.1.contains n with
  | some e => some e.2
  | none => (categoryClass? n).orElse fun _ => scriptClass? n

/-! ## Properties with values -/

/-- How a property with values finds the class of one of them, by the names of the property. -/
def valuedProperties : List (List String × (String → Option (Char → Bool))) :=
  [(["generalcategory", "gc"], categoryClass?), (["script", "sc"], scriptClass?),
    (["scriptextensions", "scx"], usedWithClass?), (["age"], ageClass?),
    (["graphemeclusterbreak", "gcb"], unitClass?), (["wordbreak", "wb"], wordClass?),
    (["sentencebreak", "sb"], sentenceClass?)]

/-- The class of the characters whose property `name` has the given value. -/
def valuedClass? (name value : String) : Option (Char → Bool) :=
  let n := looseName name
  match valuedProperties.find? fun e => e.1.contains n with
  | some e => e.2 (looseName value)
  | none => none

end GitPractice.Text
