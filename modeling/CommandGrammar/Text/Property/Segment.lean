import CommandGrammar.Text.Property.Letter
import CommandGrammar.Text.Property.Mark
import CommandGrammar.Text.Property.Sign
import CommandGrammar.Text.Script

/-! Where a text can be divided into graphemes, words and sentences: the classes of characters that
the rules for it tell apart. The Unicode version is 16.0. -/

namespace CommandGrammar.Text

/-- The characters of a script, by its short name. -/
def scriptMembers (name : String) : Ranges := (scriptRanges? name).getD []

def emojiModifierRanges : Ranges := [(0x1F3FB, 0x1F3FF)]

def regionalIndicatorRanges : Ranges := [(0x1F1E6, 0x1F1FF)]

def joinControlRanges : Ranges := [(0x200C, 0x200D)]

/-! ### Graphemes -/

/-- Characters that a grapheme starts with and goes on behind. -/
def prependRanges : Ranges :=
  prependedRanges.union
    [(0xD4E, 0xD4E), (0x111C2, 0x111C3), (0x113D1, 0x113D1), (0x1193F, 0x1193F),
    (0x11941, 0x11941), (0x11A3A, 0x11A3A), (0x11A84, 0x11A89), (0x11D46, 0x11D46),
    (0x11F02, 0x11F02)]

def graphemeControlRanges : Ranges :=
  ((Category.rangesOf [.lineSeparator, .paragraphSeparator, .control, .format]).union
    (ignorableRanges.inter Category.unassigned.ranges)).diff
    (((prependedRanges.union graphemeExtendRanges).union [(0xA, 0xA), (0xD, 0xD)]).union
      joinControlRanges)

/-- Spacing marks that do not belong to the character before them. -/
def looseMarkRanges : Ranges :=
  [(0x102B, 0x102C), (0x1038, 0x1038), (0x1062, 0x1064), (0x1067, 0x106D), (0x1083, 0x1083),
   (0x1087, 0x108C), (0x108F, 0x108F), (0x109A, 0x109C), (0x1A61, 0x1A61), (0x1A63, 0x1A64),
   (0xAA7B, 0xAA7B), (0xAA7D, 0xAA7D), (0x11720, 0x11721)]

/-- The Korean syllables of two letters. Those of three lie between them. -/
def twoLetterSyllableRanges : Ranges :=
  (List.range 399).map fun n => (0xAC00 + 28 * n, 0xAC00 + 28 * n)

/-- The characters of a class of graphemes. -/
def graphemeBreakRanges? : String → Option Ranges
  | "cr" => some [(0xD, 0xD)]
  | "lf" => some [(0xA, 0xA)]
  | "cn" | "control" => some graphemeControlRanges
  | "ex" | "extend" => some (graphemeExtendRanges.union emojiModifierRanges)
  | "zwj" => some [(0x200D, 0x200D)]
  | "ri" | "regionalindicator" => some regionalIndicatorRanges
  | "pp" | "prepend" => some prependRanges
  | "sm" | "spacingmark" =>
    some ((spacingMarkRanges.union [(0xE33, 0xE33), (0xEB3, 0xEB3)]).diff
      (graphemeExtendRanges.union looseMarkRanges))
  | "l" => some [(0x1100, 0x115F), (0xA960, 0xA97C)]
  | "v" => some [(0x1160, 0x11A7), (0xD7B0, 0xD7C6), (0x16D63, 0x16D63), (0x16D67, 0x16D6A)]
  | "t" => some [(0x11A8, 0x11FF), (0xD7CB, 0xD7FB)]
  | "lv" => some twoLetterSyllableRanges
  | "lvt" => some (Ranges.diff [(0xAC00, 0xD7A3)] twoLetterSyllableRanges)
  | _ => none

/-! ### Words -/

def midLetterRanges : Ranges :=
  [(0x3A, 0x3A), (0xB7, 0xB7), (0x387, 0x387), (0x55F, 0x55F), (0x5F4, 0x5F4), (0x2027, 0x2027),
   (0xFE13, 0xFE13), (0xFE55, 0xFE55), (0xFF1A, 0xFF1A)]

def midNumLetRanges : Ranges :=
  [(0x2E, 0x2E), (0x2018, 0x2019), (0x2024, 0x2024), (0xFE52, 0xFE52), (0xFF07, 0xFF07),
   (0xFF0E, 0xFF0E)]

/-- Characters that do not count where case is looked at. -/
def caseIgnorableRanges : Ranges :=
  (Category.rangesOf [.nonspacingMark, .enclosingMark, .format, .modifierLetter,
    .modifierSymbol]).union ((midLetterRanges.union midNumLetRanges).union [(0x27, 0x27)])

def wordExtendRanges : Ranges :=
  (graphemeExtendRanges.union spacingMarkRanges).union emojiModifierRanges

def katakanaWordRanges : Ranges :=
  ((scriptMembers "kana").union
    [(0x3031, 0x3035), (0x309B, 0x309C), (0x30A0, 0x30A0), (0x30FC, 0x30FC), (0xFF70, 0xFF70)]).diff
    wordExtendRanges

def hebrewLetterRanges : Ranges := (scriptMembers "hebr").inter otherLetterRanges

/-- Characters of languages that set no spaces between words. -/
def unspacedRanges : Ranges :=
  [
   (0xE01, 0xE3A), (0xE40, 0xE4E), (0xE81, 0xE82), (0xE84, 0xE84), (0xE86, 0xE8A), (0xE8C, 0xEA3),
   (0xEA5, 0xEA5), (0xEA7, 0xEBD), (0xEC0, 0xEC4), (0xEC6, 0xEC6), (0xEC8, 0xECE), (0xEDC, 0xEDF),
   (0x1000, 0x103F), (0x1050, 0x108F), (0x109A, 0x109F), (0x1780, 0x17D3), (0x17D7, 0x17D7),
   (0x17DC, 0x17DD), (0x1950, 0x196D), (0x1970, 0x1974), (0x1980, 0x19AB), (0x19B0, 0x19C9),
   (0x19DA, 0x19DA), (0x19DE, 0x19DF), (0x1A20, 0x1A5E), (0x1A60, 0x1A7C), (0x1AA0, 0x1AAD),
   (0xA9E0, 0xA9EF), (0xA9FA, 0xA9FE), (0xAA60, 0xAAC2), (0xAADB, 0xAADF), (0x11700, 0x1171A),
   (0x1171D, 0x1172B), (0x1173A, 0x1173B), (0x1173F, 0x11746)]

def wordLetterExtraRanges : Ranges :=
  [(0x2C2, 0x2C5), (0x2D2, 0x2D7), (0x2DE, 0x2DF), (0x2E5, 0x2EB), (0x2ED, 0x2ED), (0x2EF, 0x2FF),
   (0x55A, 0x55C), (0x55E, 0x55E), (0x58A, 0x58A), (0x5F3, 0x5F3), (0x70F, 0x70F),
   (0xA708, 0xA716), (0xA720, 0xA721), (0xA789, 0xA78A), (0xAB5B, 0xAB5B)]

def wordLetterRanges : Ranges :=
  (alphabeticRanges.union wordLetterExtraRanges).diff
    ((((ideographicRanges.union katakanaWordRanges).union unspacedRanges).union
      (scriptMembers "hira")).union (wordExtendRanges.union hebrewLetterRanges))

/-- Signs that enclose digits. -/
def numberSignRanges : Ranges := prependedRanges.diff [(0x70F, 0x70F)]

/-- The characters of a class of words. -/
def wordBreakRanges? : String → Option Ranges
  | "cr" => some [(0xD, 0xD)]
  | "lf" => some [(0xA, 0xA)]
  | "nl" | "newline" => some [(0xB, 0xC), (0x85, 0x85), (0x2028, 0x2029)]
  | "extend" => some wordExtendRanges
  | "zwj" => some [(0x200D, 0x200D)]
  | "ri" | "regionalindicator" => some regionalIndicatorRanges
  | "fo" | "format" =>
    some (formatRanges.diff
      ((prependedRanges.union graphemeExtendRanges).union [(0x200B, 0x200D)]))
  | "ka" | "katakana" => some katakanaWordRanges
  | "hl" | "hebrewletter" => some hebrewLetterRanges
  | "le" | "aletter" => some wordLetterRanges
  | "sq" | "singlequote" => some [(0x27, 0x27)]
  | "dq" | "doublequote" => some [(0x22, 0x22)]
  | "mb" | "midnumlet" => some midNumLetRanges
  | "ml" | "midletter" => some midLetterRanges
  | "mn" | "midnum" =>
    some [(0x2C, 0x2C), (0x3B, 0x3B), (0x37E, 0x37E), (0x589, 0x589), (0x60C, 0x60D),
      (0x66C, 0x66C), (0x7F8, 0x7F8), (0x2044, 0x2044), (0xFE10, 0xFE10), (0xFE14, 0xFE14),
      (0xFE50, 0xFE50), (0xFE54, 0xFE54), (0xFF0C, 0xFF0C), (0xFF1B, 0xFF1B)]
  | "nu" | "numeric" =>
    some ((decimalDigitRanges.union numberSignRanges).union [(0x66B, 0x66B)])
  | "ex" | "extendnumlet" => some (connectorPunctuationRanges.union [(0x202F, 0x202F)])
  | "wsegspace" =>
    some (spaceSeparatorRanges.diff [(0xA0, 0xA0), (0x2007, 0x2007), (0x202F, 0x202F)])
  | _ => none

/-! ### Sentences -/

def sentenceSeparatorRanges : Ranges := [(0x85, 0x85), (0x2028, 0x2029)]

def fullStopRanges : Ranges :=
  [(0x2E, 0x2E), (0x2024, 0x2024), (0xFE52, 0xFE52), (0xFF0E, 0xFF0E)]

def sentenceExtendRanges : Ranges :=
  (graphemeExtendRanges.union spacingMarkRanges).union [(0x200D, 0x200D)]

def sentenceLowerRanges : Ranges :=
  lowercaseRanges.diff (graphemeExtendRanges.union [(0x10D0, 0x10FA), (0x10FD, 0x10FF)])

def sentenceUpperRanges : Ranges :=
  (uppercaseRanges.union titlecaseLetterRanges).diff [(0x1C90, 0x1CBA), (0x1CBD, 0x1CBF)]

/-- Quotation marks that may open as well as close. -/
def eitherQuoteRanges : Ranges :=
  [(0x22, 0x22), (0x27, 0x27), (0x275B, 0x2760), (0x2E00, 0x2E01), (0x2E06, 0x2E08),
   (0x2E0B, 0x2E0B), (0x1F676, 0x1F678)]

/-- The characters of a class of sentences. -/
def sentenceBreakRanges? : String → Option Ranges
  | "cr" => some [(0xD, 0xD)]
  | "lf" => some [(0xA, 0xA)]
  | "ex" | "extend" => some sentenceExtendRanges
  | "se" | "sep" => some sentenceSeparatorRanges
  | "fo" | "format" =>
    some (formatRanges.diff
      ((prependedRanges.union sentenceExtendRanges).union joinControlRanges))
  | "sp" =>
    some (blankRanges.diff (sentenceSeparatorRanges.union [(0xA, 0xA), (0xD, 0xD)]))
  | "lo" | "lower" => some sentenceLowerRanges
  | "up" | "upper" => some sentenceUpperRanges
  | "le" | "oletter" =>
    some ((alphabeticRanges.union [(0x5F3, 0x5F3), (0x70F, 0x70F)]).diff
      ((sentenceLowerRanges.union sentenceUpperRanges).union sentenceExtendRanges))
  | "nu" | "numeric" =>
    some ((decimalDigitRanges.union numberSignRanges).union [(0x66B, 0x66C)])
  | "at" | "aterm" => some fullStopRanges
  | "st" | "sterm" => some (sentenceTerminalRanges.diff fullStopRanges)
  | "sc" | "scontinue" =>
    some [(0x2C, 0x2D), (0x3A, 0x3B), (0x37E, 0x37E), (0x55D, 0x55D), (0x60C, 0x60D),
      (0x7F8, 0x7F8), (0x1802, 0x1802), (0x1808, 0x1808), (0x2013, 0x2014), (0x3001, 0x3001),
      (0xFE10, 0xFE11), (0xFE13, 0xFE14), (0xFE31, 0xFE32), (0xFE50, 0xFE51), (0xFE54, 0xFE55),
      (0xFE58, 0xFE58), (0xFE63, 0xFE63), (0xFF0C, 0xFF0D), (0xFF1A, 0xFF1B), (0xFF64, 0xFF64)]
  | "cl" | "close" =>
    some (((Category.rangesOf [.openPunctuation, .closePunctuation, .initialPunctuation,
      .finalPunctuation]).union eitherQuoteRanges).diff
      (sentenceTerminalRanges.union fullStopRanges))
  | _ => none

end CommandGrammar.Text
