import CommandGrammar.Text.Property.Age
import CommandGrammar.Text.Property.Segment
import CommandGrammar.Text.Script.Extension

/-! Properties of characters by name. A name may be that of a property which a character has or has
not, of a general category or of a script. Names are compared without regard to case, spaces,
hyphens and underscores, and may start with "is". The Unicode version is 16.0. -/

namespace CommandGrammar.Text

/-- The ASCII letter in lower case for one in upper case. -/
def plainLetter (c : Char) : Char := if 'A' ≤ c && c ≤ 'Z' then c.toLower else c

/-- A property name in the form in which names are compared. -/
def plainName (name : List Char) : String :=
  let plain := fun cs : List Char =>
    String.ofList ((cs.filter fun c =>
      c.toNat < 128 && !(c == ' ' || c == '-' || c == '_')).map plainLetter)
  match name with
  | i :: s :: rest =>
    if plainLetter i == 'i' && plainLetter s == 's' then
      let rest := plain rest
      if rest == "c" then "isc" else rest
    else plain name
  | name => plain name

/-- The characters that have the named property, where it is known. -/
def binaryRanges? : String → Option Ranges
  | "alphabetic" | "alpha" => some alphabeticRanges
  | "lowercase" | "lower" => some lowercaseRanges
  | "uppercase" | "upper" => some uppercaseRanges
  | "cased" => some casedRanges
  | "caseignorable" | "ci" => some caseIgnorableRanges
  | "changeswhenlowercased" | "cwl" => some loweredRanges
  | "changeswhenuppercased" | "cwu" => some upperedRanges
  | "changeswhentitlecased" | "cwt" => some titledRanges
  | "changeswhencasefolded" | "cwcf" => some foldedRanges
  | "changeswhencasemapped" | "cwcm" =>
    some ((loweredRanges.union upperedRanges).union titledRanges)
  | "whitespace" | "wspace" | "space" => some blankRanges
  | "ideographic" | "ideo" => some ideographicRanges
  | "unifiedideograph" | "uideo" => some unifiedIdeographRanges
  | "radical" => some [(0x2E80, 0x2E99), (0x2E9B, 0x2EF3), (0x2F00, 0x2FD5)]
  | "idsunaryoperator" | "idsu" => some [(0x2FFE, 0x2FFF)]
  | "idsbinaryoperator" | "idsb" => some [(0x2FF0, 0x2FF1), (0x2FF4, 0x2FFD), (0x31EF, 0x31EF)]
  | "idstrinaryoperator" | "idst" => some [(0x2FF2, 0x2FF3)]
  | "hexdigit" | "hex" => some hexDigitRanges
  | "asciihexdigit" | "ahex" => some [(0x30, 0x39), (0x41, 0x46), (0x61, 0x66)]
  | "idstart" | "ids" => some idStartRanges
  | "idcontinue" | "idc" => some idContinueRanges
  | "xidstart" | "xids" => some xidStartRanges
  | "xidcontinue" | "xidc" => some xidContinueRanges
  | "patternsyntax" | "patsyn" => some patternSyntaxRanges
  | "patternwhitespace" | "patws" => some patternBlankRanges
  | "math" => some mathRanges
  | "idcompatmathstart" => some idCompatMathStartRanges
  | "idcompatmathcontinue" => some idCompatMathContinueRanges
  | "dash" => some dashRanges
  | "hyphen" => some hyphenRanges
  | "quotationmark" | "qmark" => some quotationMarkRanges
  | "sentenceterminal" | "sterm" => some sentenceTerminalRanges
  | "terminalpunctuation" | "term" => some (sentenceTerminalRanges.union innerTerminalRanges)
  | "bidimirrored" | "bidim" => some mirroredRanges
  | "bidicontrol" | "bidic" =>
    some [(0x61C, 0x61C), (0x200E, 0x200F), (0x202A, 0x202E), (0x2066, 0x2069)]
  | "diacritic" | "dia" => some diacriticRanges
  | "extender" | "ext" => some extenderRanges
  | "softdotted" | "sd" => some softDottedRanges
  | "graphemebase" | "grbase" => some graphemeBaseRanges
  | "graphemeextend" | "grext" => some graphemeExtendRanges
  | "graphemelink" | "grlink" => some graphemeLinkRanges
  | "modifiercombiningmark" | "mcm" => some modifierMarkRanges
  | "prependedconcatenationmark" | "pcm" => some prependedRanges
  | "logicalorderexception" | "loe" => some logicalOrderRanges
  | "joincontrol" | "joinc" => some joinControlRanges
  | "regionalindicator" | "ri" => some regionalIndicatorRanges
  | "variationselector" | "vs" => some variationSelectorRanges
  | "defaultignorablecodepoint" | "di" => some ignorableRanges
  | "noncharactercodepoint" | "nchar" => some noncharacterRanges
  | "deprecated" | "dep" => some deprecatedRanges
  | "emoji" => some emojiRanges
  | "emojipresentation" | "epres" => some emojiPresentationRanges
  | "emojimodifier" | "emod" => some emojiModifierRanges
  | "emojimodifierbase" | "ebase" => some emojiModifierBaseRanges
  | "emojicomponent" | "ecomp" => some emojiComponentRanges
  | "extendedpictographic" | "extpict" => some pictographicRanges
  | "otheralphabetic" | "oalpha" => some alphabeticExtraRanges
  | "otherlowercase" | "olower" => some lowercaseExtraRanges
  | "otheruppercase" | "oupper" => some uppercaseExtraRanges
  | "othermath" | "omath" => some mathExtraRanges
  | "otheridstart" | "oids" => some idStartExtraRanges
  | "otheridcontinue" | "oidc" => some idContinueExtraRanges
  | "othergraphemeextend" | "ogrext" => some graphemeExtendExtraRanges
  | "otherdefaultignorablecodepoint" | "odi" => some ignorableExtraRanges
  | _ => none

/-- The characters of the named general category or group of categories. -/
def categoryRanges? : String → Option Ranges
  | "any" => some [(0, 0x10FFFF)]
  | "ascii" => some [(0, 0x7F)]
  | name => (Category.named? name).map Category.rangesOf

/-- The characters with the named property, where the name is known. -/
def propertyRanges? (name : List Char) : Option Ranges :=
  let name := plainName name
  binaryRanges? name <|> categoryRanges? name <|> scriptRanges? name

/-- The characters for which the named property has the named value, where both are known. -/
def propertyValueRanges? (name value : List Char) : Option Ranges :=
  match plainName name with
  | "gc" | "generalcategory" => categoryRanges? (plainName value)
  | "sc" | "script" => scriptRanges? (plainName value)
  | "scx" | "scriptextensions" => scriptExtensionRanges? (plainName value)
  | "age" => ageRanges? (plainName value)
  | "gcb" | "graphemeclusterbreak" => graphemeBreakRanges? (plainName value)
  | "wb" | "wordbreak" => wordBreakRanges? (plainName value)
  | "sb" | "sentencebreak" => sentenceBreakRanges? (plainName value)
  | _ => none

/-- The properties of characters that have a name. The name may have a value in it, behind an equals
sign or a colon. -/
class Properties where
  named? : List Char → Option Ranges

/-- The properties in these tables. An exclamation mark before an equals sign has no meaning. -/
@[reducible]
def Properties.standard : Properties where
  named? name :=
    let key := name.takeWhile fun c => !(c == '=' || c == ':')
    match name.drop key.length with
    | [] => propertyRanges? name
    | sign :: value =>
      let key := if sign == '=' && key.getLast? == some '!' then key.dropLast else key
      propertyValueRanges? key value

/-- Whether the character is a letter or serves as one. -/
def isAlphabetic (c : Char) : Bool := alphabeticRanges.contains c.toNat

def isNumeric (c : Char) : Bool :=
  (Category.rangesOf Category.numbers).contains c.toNat

end CommandGrammar.Text
