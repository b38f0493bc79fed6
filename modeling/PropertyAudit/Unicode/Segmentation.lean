import PropertyAudit.Unicode.Property
import PropertyAudit.Unicode.Script

/-! Where graphemes, words and sentences of Unicode 16 may end: the classes that the rules of text
segmentation speak of. They are built from categories and properties as the standard derives them.
-/
namespace PropertyAudit.Unicode

/-- Letters and signs that are written before the syllable they close. -/
def precedingLetters : Ranges := .ofTexts
  ["D4E 111C2-111C3 113D1 1193F 11941 11A3A 11A84-11A89 11D46 11F02"]

def hangulLeading : Ranges := .ofTexts
  ["1100-115F A960-A97C"]

def hangulVowels : Ranges := .ofTexts
  ["1160-11A7 D7B0-D7C6 16D63 16D67-16D6A"]

def hangulTrailing : Ranges := .ofTexts
  ["11A8-11FF D7CB-D7FB"]

def hangulOpen : Ranges := .ofTexts
  ["AC00-D788/1C"]

def hangulSyllables : Ranges := .ofTexts
  ["AC00-D7A3"]

/-- Spacing marks that are graphemes of their own. -/
def separateMarks : Ranges := .ofTexts
  ["102B-102C 1038 1062-1064 1067-106D 1083 1087-108C 108F 109A-109C 1A61 1A63-1A64 AA7B AA7D",
  "11720-11721"]

/-- Letters of scripts whose words only a dictionary can tell apart. -/
def complexContext : Ranges := .ofTexts
  ["E01-E3A E40-E4E E81-E82 E84 E86-E8A E8C-EA3 EA5 EA7-EBD EC0-EC4 EC6 EC8-ECE EDC-EDF 1000-103F",
  "1050-108F 109A-109F 1780-17D3 17D7 17DC-17DD 1950-196D 1970-1974 1980-19AB 19B0-19C9 19DA",
  "19DE-19DF 1A20-1A5E 1A60-1A7C 1AA0-1AAD A9E0-A9EF A9FA-A9FE AA60-AAC2 AADB-AADF 11700-1171A",
  "1171D-1172B 1173A-1173B 1173F-11746"]

/-- Signs that words hold like letters. -/
def otherWordLetters : Ranges := .ofTexts
  ["2C2-2C5 2D2-2D7 2DE-2DF 2E5-2EB 2ED 2EF-2FF 55A-55C 55E 58A 5F3 70F A708-A716 A720-A721",
  "A789-A78A AB5B"]

/-- Marks that are written with numbers. -/
def numberMarks : Ranges := .ofTexts
  ["600-605 6DD 890-891 8E2 110BD 110CD"]

/-- Marks that lines break at as quotations. -/
def quotationMarks : Ranges := .ofTexts
  ["22 27 AB BB 2018-201F 2039-203A 275B-2760 2E00-2E0D 2E1C-2E1D 2E20-2E21 1F676-1F678"]

def graphemeExtending : Ranges := graphemeExtend.union emojiModifiers

def carriageReturn : Ranges := .ofCodes [0x0D]

def lineFeed : Ranges := .ofCodes [0x0A]

def joiner : Ranges := .ofCodes [0x200D]

/-- Classes of code points within graphemes, each with its names. -/
def graphemeClasses : List (List String × Ranges) := [
  (["cr"], carriageReturn),
  (["lf"], lineFeed),
  (["cn", "control"],
    (Ranges.unions [category ["zl", "zp", "cc", "cf"],
      unassignedRanges.intersection defaultIgnorable]).without
        (.unions [carriageReturn, lineFeed, .ofList [(0x200C, 0x200D)], prependedMarks,
          graphemeExtending])),
  (["ex", "extend"], graphemeExtending),
  (["zwj"], joiner),
  (["ri", "regionalindicator"], regionalIndicators),
  (["pp", "prepend"], precedingLetters.union prependedMarks),
  (["sm", "spacingmark"],
    ((mcRanges.without separateMarks).union (.ofCodes [0x0E33, 0x0EB3])).without
      (graphemeExtending.union hangulVowels)),
  (["l"], hangulLeading),
  (["v"], hangulVowels),
  (["t"], hangulTrailing),
  (["lv"], hangulOpen),
  (["lvt"], hangulSyllables.without hangulOpen)]

def wordExtending : Ranges := graphemeExtending.union mcRanges

def katakana : Ranges :=
  ((scriptNamed? "kana").getD .empty).union
    (.ofTexts ["3031-3035 309B-309C 30A0 30FC FF70"])

def hebrewLetters : Ranges := ((scriptNamed? "hebr").getD .empty).intersection loRanges

/-- Code points that lines keep together as numbers. -/
def numeric : Ranges := .unions [ndRanges, numberMarks, .ofTexts ["66B-66C"]]

/-- Classes of code points within words, each with its names. -/
def wordClasses : List (List String × Ranges) := [
  (["cr"], carriageReturn),
  (["lf"], lineFeed),
  (["nl", "newline"], .ofTexts ["B-C 85 2028-2029"]),
  (["extend"], wordExtending),
  (["zwj"], joiner),
  (["fo", "format"],
    cfRanges.without (.unions [.ofList [(0x200B, 0x200D)], prependedMarks, wordExtending])),
  (["ri", "regionalindicator"], regionalIndicators),
  (["ka", "katakana"], katakana),
  (["hl", "hebrewletter"], hebrewLetters),
  (["le", "aletter"],
    (alphabetic.union otherWordLetters).without
      (.unions [ideographic, katakana, complexContext, (scriptNamed? "hira").getD .empty,
        wordExtending, hebrewLetters])),
  (["sq", "singlequote"], .ofCodes [0x27]),
  (["dq", "doublequote"], .ofCodes [0x22]),
  (["mb", "midnumlet"], .ofTexts ["2E 2018-2019 2024 FE52 FF07 FF0E"]),
  (["ml", "midletter"], .ofTexts ["3A B7 387 55F 5F4 2027 FE13 FE55 FF1A"]),
  (["mn", "midnum"],
    .ofTexts ["2C 3B 37E 589 60C-60D 66C 7F8 2044 FE10 FE14 FE50 FE54 FF0C FF1B"]),
  (["nu", "numeric"], numeric.without (.ofCodes [0x066C])),
  (["ex", "extendnumlet"], pcRanges.union (.ofCodes [0x202F])),
  (["wsegspace"], .ofTexts ["20 1680 2000-2006 2008-200A 205F 3000"])]

def sentenceExtending : Ranges := .unions [graphemeExtend, joiner, mcRanges]

def paragraphEnds : Ranges := .ofTexts ["85 2028-2029"]

/-- Georgian letters that are lowercase or uppercase and begin sentences alike. -/
def caselessLower : Ranges := .ofTexts ["10D0-10FA 10FD-10FF"]

def caselessUpper : Ranges := .ofTexts ["1C90-1CBA 1CBD-1CBF"]

def sentenceLower : Ranges := lowercase.without (graphemeExtend.union caselessLower)

def sentenceUpper : Ranges := (uppercase.union ltRanges).without caselessUpper

/-- Full stops, which may end a sentence or an abbreviation. -/
def fullStops : Ranges := .ofTexts ["2E 2024 FE52 FF0E"]

def sentenceEnds : Ranges := sentenceTerminals.without fullStops

/-- Classes of code points within sentences, each with its names. -/
def sentenceClasses : List (List String × Ranges) := [
  (["cr"], carriageReturn),
  (["lf"], lineFeed),
  (["se", "sep"], paragraphEnds),
  (["ex", "extend"], sentenceExtending),
  (["fo", "format"],
    cfRanges.without (.unions [.ofList [(0x200C, 0x200D)], numeric, sentenceExtending])),
  (["sp"], whiteSpace.without (.unions [paragraphEnds, carriageReturn, lineFeed])),
  (["lo", "lower"], sentenceLower),
  (["up", "upper"], sentenceUpper),
  (["le", "oletter"],
    (alphabetic.union (.ofCodes [0x05F3])).without
      (.unions [sentenceLower, sentenceUpper, sentenceExtending])),
  (["nu", "numeric"], numeric),
  (["at", "aterm"], fullStops),
  (["st", "sterm"], sentenceEnds),
  (["cl", "close"],
    (Ranges.unions [psRanges, peRanges, quotationMarks]).without
      (.unions [.ofCodes [0x05F3], fullStops, sentenceEnds])),
  (["sc", "scontinue"], .ofTexts
    ["2C-2D 3A-3B 37E 55D 60C-60D 7F8 1802 1808 2013-2014 3001 FE10-FE11 FE13-FE14 FE31-FE32",
    "FE50-FE51 FE54-FE55 FE58 FE63 FF0C-FF0D FF1A-FF1B FF64"])]

def classNamed? (classes : List (List String × Ranges)) (name : String) : Option Ranges :=
  (classes.find? (·.1.contains name)).map (·.2)

end PropertyAudit.Unicode
