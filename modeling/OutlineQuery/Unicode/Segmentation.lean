import OutlineQuery.Unicode.BinaryProperty
import OutlineQuery.Unicode.Script

/-!
The classes of characters by which text is parted into clusters, words and sentences, in version
16.0 of the standard.
-/
namespace OutlineQuery.Unicode

open OutlineQuery.Text (CodePoints alphabeticTable)

/-! ## Clusters -/

def carriageReturn : CodePoints := [(0xD, 0xD)]

def lineFeed : CodePoints := [(0xA, 0xA)]

def zeroWidthJoiner : CodePoints := [(0x200D, 0x200D)]

/-- Characters that belong to the cluster after them. -/
def clusterPrepend : CodePoints :=
  [(0x600, 0x605), (0x6DD, 0x6DD), (0x70F, 0x70F), (0x890, 0x891), (0x8E2, 0x8E2), (0xD4E, 0xD4E),
   (0x110BD, 0x110BD), (0x110CD, 0x110CD), (0x111C2, 0x111C3), (0x113D1, 0x113D1),
   (0x1193F, 0x1193F), (0x11941, 0x11941), (0x11A3A, 0x11A3A), (0x11A84, 0x11A89),
   (0x11D46, 0x11D46), (0x11F02, 0x11F02)]

def clusterExtend : CodePoints :=
  graphemeExtend.union emojiModifier

def clusterControl : CodePoints :=
  (CodePoints.unionAll [lineSeparator, paragraphSeparator, control, format,
    unassigned.inter defaultIgnorable]).sdiff
    (.unionAll [carriageReturn, lineFeed, zeroWidthJoiner, clusterPrepend, clusterExtend])

/-- Marks with room of their own that start a cluster. -/
def spacingMarksApart : CodePoints :=
  [(0x102B, 0x102C), (0x1038, 0x1038), (0x1062, 0x1064), (0x1067, 0x106D), (0x1083, 0x1083),
   (0x1087, 0x108C), (0x108F, 0x108F), (0x109A, 0x109C), (0x1A61, 0x1A61), (0x1A63, 0x1A64),
   (0xAA7B, 0xAA7B), (0xAA7D, 0xAA7D), (0x11720, 0x11721)]

def clusterSpacingMark : CodePoints :=
  ((spacingMark.sdiff graphemeExtend).sdiff spacingMarksApart).union [(0xE33, 0xE33), (0xEB3, 0xEB3)]

/-- Syllables without a final consonant: every twenty-eighth. -/
def openSyllable : CodePoints :=
  (List.range 399).map fun i => (0xAC00 + 28 * i, 0xAC00 + 28 * i)

def closedSyllable : CodePoints :=
  (List.range 399).map fun i => (0xAC01 + 28 * i, 0xAC1B + 28 * i)

/-- The classes of the rule that parts clusters. -/
def clusterBreaks : List CharacterSet :=
  [⟨["cn", "control"], clusterControl⟩, ⟨["cr"], carriageReturn⟩, ⟨["ex", "extend"], clusterExtend⟩,
   ⟨["l"], [(0x1100, 0x115F), (0xA960, 0xA97C)]⟩, ⟨["lf"], lineFeed⟩, ⟨["lv"], openSyllable⟩,
   ⟨["lvt"], closedSyllable⟩, ⟨["pp", "prepend"], clusterPrepend⟩,
   ⟨["ri", "regionalindicator"], regionalIndicator⟩, ⟨["sm", "spacingmark"], clusterSpacingMark⟩,
   ⟨["t"], [(0x11A8, 0x11FF), (0xD7CB, 0xD7FB)]⟩,
   ⟨["v"], [(0x1160, 0x11A7), (0xD7B0, 0xD7C6), (0x16D63, 0x16D63), (0x16D67, 0x16D6A)]⟩,
   ⟨["zwj"], zeroWidthJoiner⟩]

/-! ## Words -/

def wordExtend : CodePoints :=
  (CodePoints.unionAll [graphemeExtend, spacingMark, emojiModifier]).sdiff zeroWidthJoiner

def wordFormat : CodePoints :=
  format.sdiff (.unionAll [[(0x200B, 0x200D)], wordExtend, prependedConcatenationMark])

def wordKatakana : CodePoints :=
  Script.katakana.union
    [(0x3031, 0x3035), (0x309B, 0x309C), (0x30A0, 0x30A0), (0x30FC, 0x30FC), (0xFF70, 0xFF70)]

def hebrewLetter : CodePoints :=
  Script.hebrew.inter otherLetter

/-- Characters of scripts that need a dictionary to find words. -/
def complexContext : CodePoints :=
  [(0xE01, 0xE3A), (0xE40, 0xE4E), (0xE81, 0xE82), (0xE84, 0xE84), (0xE86, 0xE8A), (0xE8C, 0xEA3),
   (0xEA5, 0xEA5), (0xEA7, 0xEBD), (0xEC0, 0xEC4), (0xEC6, 0xEC6), (0xEC8, 0xECE), (0xEDC, 0xEDF),
   (0x1000, 0x103F), (0x1050, 0x108F), (0x109A, 0x109F), (0x1780, 0x17D3), (0x17D7, 0x17D7),
   (0x17DC, 0x17DD), (0x1950, 0x196D), (0x1970, 0x1974), (0x1980, 0x19AB), (0x19B0, 0x19C9),
   (0x19DA, 0x19DA), (0x19DE, 0x19DF), (0x1A20, 0x1A5E), (0x1A60, 0x1A7C), (0x1AA0, 0x1AAD),
   (0xA9E0, 0xA9EF), (0xA9FA, 0xA9FE), (0xAA60, 0xAAC2), (0xAADB, 0xAADF), (0x11700, 0x1171A),
   (0x1171D, 0x1172B), (0x1173A, 0x1173B), (0x1173F, 0x11746)]

/-- Characters that count as letters of words though they are not alphabetic. -/
def wordLetterExtra : CodePoints :=
  [(0x2C2, 0x2C5), (0x2D2, 0x2D7), (0x2DE, 0x2DF), (0x2E5, 0x2EB), (0x2ED, 0x2ED), (0x2EF, 0x2FF),
   (0x55A, 0x55C), (0x55E, 0x55E), (0x58A, 0x58A), (0x5F3, 0x5F3), (0x70F, 0x70F), (0xA708, 0xA716),
   (0xA720, 0xA721), (0xA789, 0xA78A), (0xAB5B, 0xAB5B)]

def wordLetter : CodePoints :=
  (alphabeticTable.union wordLetterExtra).sdiff
    (.unionAll [ideographic, wordKatakana, complexContext, Script.hiragana, wordExtend,
      hebrewLetter])

/-- Marks that go around the digits after them. -/
def prependedToDigits : CodePoints :=
  prependedConcatenationMark.sdiff [(0x70F, 0x70F)]

def wordNumeric : CodePoints :=
  .unionAll [decimalNumber, [(0x66B, 0x66B)], prependedToDigits]

def midLetter : CodePoints :=
  [(0x3A, 0x3A), (0xB7, 0xB7), (0x387, 0x387), (0x55F, 0x55F), (0x5F4, 0x5F4), (0x2027, 0x2027),
   (0xFE13, 0xFE13), (0xFE55, 0xFE55), (0xFF1A, 0xFF1A)]

def midNumber : CodePoints :=
  [(0x2C, 0x2C), (0x3B, 0x3B), (0x37E, 0x37E), (0x589, 0x589), (0x60C, 0x60D), (0x66C, 0x66C),
   (0x7F8, 0x7F8), (0x2044, 0x2044), (0xFE10, 0xFE10), (0xFE14, 0xFE14), (0xFE50, 0xFE50),
   (0xFE54, 0xFE54), (0xFF0C, 0xFF0C), (0xFF1B, 0xFF1B)]

def midNumberOrLetter : CodePoints :=
  [(0x2E, 0x2E), (0x2018, 0x2019), (0x2024, 0x2024), (0xFE52, 0xFE52), (0xFF07, 0xFF07),
   (0xFF0E, 0xFF0E)]

def extendNumberOrLetter : CodePoints :=
  [(0x5F, 0x5F), (0x202F, 0x202F), (0x203F, 0x2040), (0x2054, 0x2054), (0xFE33, 0xFE34),
   (0xFE4D, 0xFE4F), (0xFF3F, 0xFF3F)]

def wordSpace : CodePoints :=
  [(0x20, 0x20), (0x1680, 0x1680), (0x2000, 0x2006), (0x2008, 0x200A), (0x205F, 0x205F),
   (0x3000, 0x3000)]

/-- The classes of the rule that parts words. -/
def wordBreaks : List CharacterSet :=
  [⟨["le", "aletter"], wordLetter⟩, ⟨["cr"], carriageReturn⟩, ⟨["dq", "doublequote"], [(0x22, 0x22)]⟩,
   ⟨["ex", "extendnumlet"], extendNumberOrLetter⟩, ⟨["extend"], wordExtend⟩,
   ⟨["fo", "format"], wordFormat⟩, ⟨["hl", "hebrewletter"], hebrewLetter⟩,
   ⟨["ka", "katakana"], wordKatakana⟩, ⟨["lf"], lineFeed⟩, ⟨["mb", "midnumlet"], midNumberOrLetter⟩,
   ⟨["ml", "midletter"], midLetter⟩, ⟨["mn", "midnum"], midNumber⟩,
   ⟨["nl", "newline"], [(0xB, 0xC), (0x85, 0x85), (0x2028, 0x2029)]⟩,
   ⟨["nu", "numeric"], wordNumeric⟩, ⟨["ri", "regionalindicator"], regionalIndicator⟩,
   ⟨["sq", "singlequote"], [(0x27, 0x27)]⟩, ⟨["wsegspace"], wordSpace⟩, ⟨["zwj"], zeroWidthJoiner⟩]

/-! ## Sentences -/

def sentenceExtend : CodePoints :=
  .unionAll [graphemeExtend, spacingMark, zeroWidthJoiner]

def sentenceFormat : CodePoints :=
  format.sdiff (.unionAll [[(0x200C, 0x200D)], sentenceExtend, prependedConcatenationMark])

def sentenceLower : CodePoints :=
  lowercase.sdiff (.unionAll [graphemeExtend, [(0x10D0, 0x10FA), (0x10FD, 0x10FF)]])

def sentenceUpper : CodePoints :=
  (uppercase.union titlecaseLetter).sdiff [(0x1C90, 0x1CBA), (0x1CBD, 0x1CBF)]

def sentenceLetter : CodePoints :=
  (alphabeticTable.union [(0x5F3, 0x5F3), (0x70F, 0x70F)]).sdiff
    (.unionAll [sentenceLower, sentenceUpper, sentenceExtend])

def sentenceNumeric : CodePoints :=
  .unionAll [decimalNumber, [(0x66B, 0x66C)], prependedToDigits]

/-- Full stops, which need not end a sentence. -/
def fullStop : CodePoints :=
  [(0x2E, 0x2E), (0x2024, 0x2024), (0xFE52, 0xFE52), (0xFF0E, 0xFF0E)]

def plainQuote : CodePoints :=
  [(0x22, 0x22), (0x27, 0x27), (0x275B, 0x2760), (0x2E00, 0x2E01), (0x2E06, 0x2E08),
   (0x2E0B, 0x2E0B), (0x1F676, 0x1F678)]

def sentenceClose : CodePoints :=
  .unionAll [openPunctuation, closePunctuation, initialPunctuation, finalPunctuation, plainQuote]

/-- Punctuation after which a sentence goes on. -/
def sentenceContinue : CodePoints :=
  [(0x2C, 0x2D), (0x3A, 0x3B), (0x37E, 0x37E), (0x55D, 0x55D), (0x60C, 0x60D), (0x7F8, 0x7F8),
   (0x1802, 0x1802), (0x1808, 0x1808), (0x2013, 0x2014), (0x3001, 0x3001), (0xFE10, 0xFE11),
   (0xFE13, 0xFE14), (0xFE31, 0xFE32), (0xFE50, 0xFE51), (0xFE54, 0xFE55), (0xFE58, 0xFE58),
   (0xFE63, 0xFE63), (0xFF0C, 0xFF0D), (0xFF1A, 0xFF1B), (0xFF64, 0xFF64)]

def sentenceSpace : CodePoints :=
  [(0x9, 0x9), (0xB, 0xC), (0x20, 0x20), (0xA0, 0xA0), (0x1680, 0x1680), (0x2000, 0x200A),
   (0x202F, 0x202F), (0x205F, 0x205F), (0x3000, 0x3000)]

/-- The classes of the rule that parts sentences. -/
def sentenceBreaks : List CharacterSet :=
  [⟨["at", "aterm"], fullStop⟩, ⟨["cl", "close"], sentenceClose⟩, ⟨["cr"], carriageReturn⟩,
   ⟨["ex", "extend"], sentenceExtend⟩, ⟨["fo", "format"], sentenceFormat⟩,
   ⟨["le", "oletter"], sentenceLetter⟩, ⟨["lf"], lineFeed⟩, ⟨["lo", "lower"], sentenceLower⟩,
   ⟨["nu", "numeric"], sentenceNumeric⟩, ⟨["sc", "scontinue"], sentenceContinue⟩,
   ⟨["se", "sep"], [(0x85, 0x85), (0x2028, 0x2029)]⟩, ⟨["sp"], sentenceSpace⟩,
   ⟨["st", "sterm"], sentenceTerminal.sdiff fullStop⟩, ⟨["up", "upper"], sentenceUpper⟩]

end OutlineQuery.Unicode
