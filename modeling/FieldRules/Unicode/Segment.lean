import FieldRules.Unicode.Property
import FieldRules.Unicode.Script

set_option autoImplicit false

namespace FieldRules.Unicode

def carriageReturn : Charset := characters ["D"]

def lineFeed : Charset := characters ["A"]

def nonJoiner : Charset := characters ["200C"]

def joiner : Charset := characters ["200D"]

def graphemeExtender : Charset := graphemeExtend.union emojiModifier

def graphemeControl : Charset :=
  .unions [lineSeparator, paragraphSeparator,
    control.diff (carriageReturn.union lineFeed),
    format.diff (.unions [nonJoiner, joiner, prependedConcatenationMark, graphemeExtend]),
    unassigned.inter defaultIgnorable]

def prependedLetter : Charset := characters
  ["D4E 111C2-111C3 113D1 1193F 11941 11A3A 11A84-11A89 11D46 11F02"]

def thaiLaoAm : Charset := characters ["E33 EB3"]

def separateVowel : Charset := characters
  ["102B-102C 1038 1062-1064 1067-106D 1083 1087-108C 108F 109A-109C 1A61 1A63-1A64 AA7B AA7D",
   "11720-11721"]

def graphemeSpacing : Charset :=
  (spacingMark.diff (graphemeExtender.union separateVowel)).union thaiLaoAm

def leadingJamo : Charset := characters ["1100-115F A960-A97C"]

def vowelJamo : Charset := characters ["1160-11A7 D7B0-D7C6 16D63 16D67-16D6A"]

def trailingJamo : Charset := characters ["11A8-11FF D7CB-D7FB"]

/-- Hangul syllables, with a trailing consonant if `closed` holds. -/
def hangulSyllable (closed : Bool) : Charset :=
  ⟨fun c => decide (0xAC00 ≤ c.toNat) && decide (c.toNat ≤ 0xD7A3) &&
    ((c.toNat - 0xAC00) % 28 != 0) == closed⟩

def graphemeClasses : List Row :=
  [ ⟨["cr"], carriageReturn⟩,
    ⟨["lf"], lineFeed⟩,
    ⟨["cn", "control"], graphemeControl⟩,
    ⟨["ex", "extend"], graphemeExtender⟩,
    ⟨["zwj"], joiner⟩,
    ⟨["ri", "regionalindicator"], regionalIndicator⟩,
    ⟨["pp", "prepend"], prependedConcatenationMark.union prependedLetter⟩,
    ⟨["sm", "spacingmark"], graphemeSpacing⟩,
    ⟨["l"], leadingJamo⟩,
    ⟨["v"], vowelJamo⟩,
    ⟨["t"], trailingJamo⟩,
    ⟨["lv"], hangulSyllable false⟩,
    ⟨["lvt"], hangulSyllable true⟩ ]

def extending : Charset := .unions [graphemeExtend, spacingMark, emojiModifier]

def syriacAbbreviation : Charset := characters ["70F"]

def enclosingFormat : Charset := prependedConcatenationMark.diff syriacAbbreviation

def plainFormat : Charset :=
  format.diff (.unions [nonJoiner, joiner, graphemeExtend, prependedConcatenationMark])

def wordKatakana : Charset := characters
  ["3031-3035 309B-309C 30A0-30FA 30FC-30FF 31F0-31FF 32D0-32FE 3300-3357 FF66-FF9D 1AFF0-1AFF3",
   "1AFF5-1AFFB 1AFFD-1AFFE 1B000 1B120-1B122 1B155 1B164-1B167"]

def unspacedLetter : Charset := characters
  ["1000-102A 103F 1050-1055 105A-105D 1061 1065-1066 106E-1070 1075-1081 108E 1780-17B3 17D7 17DC",
   "1950-196D 1970-1974 1980-19AB 19B0-19C9 1A20-1A54 1AA7 A9E0-A9E4 A9E6-A9EF A9FA-A9FE AA60-AA76",
   "AA7A AA7E-AAAF AAB1 AAB5-AAB6 AAB9-AABD AAC0 AAC2 AADB-AADD 11700-1171A 11740-11746"]

def wordModifier : Charset := characters
  ["2C2-2C5 2D2-2D7 2DE-2DF 2E5-2EB 2ED 2EF-2FF 55A-55C 55E 58A 5F3 A708-A716 A720-A721 A789-A78A",
   "AB5B"]

def hebrewLetter : Charset := otherLetter.inter ((find? scripts "hebr").getD .empty)

def wordLetter : Charset :=
  .unions [wordModifier, syriacAbbreviation,
    alphabetic.diff (.unions [ideographic, wordKatakana, extending, hebrewLetter, unspacedLetter,
      .unions (["thai", "laoo", "hira"].filterMap (find? scripts))])]

def midLetter : Charset := characters ["3A B7 387 55F 5F4 2027 FE13 FE55 FF1A"]

def midNumber : Charset := characters ["2C 3B 37E 589 60C-60D 66C 7F8 2044 FE50 FE54 FF0C FF1B"]

def midNumberLetter : Charset := characters ["2E 2018-2019 2024 FE52 FF07 FF0E"]

def wordNewline : Charset := characters ["B-C 85 2028-2029"]

def arabicDecimalMark : Charset := characters ["66B"]

def arabicThousandsMark : Charset := characters ["66C"]

def singleQuote : Charset := characters ["27"]

def doubleQuote : Charset := characters ["22"]

def wordBlank : Charset := characters ["20 1680 2000-2006 2008-200A 205F 3000"]

def narrowBlank : Charset := characters ["202F"]

def thamDigitOne : Charset := characters ["19DA"]

def breakDigit : Charset :=
  .unions [decimalNumber, thamDigitOne, arabicDecimalMark, enclosingFormat]

def wordClasses : List Row :=
  [ ⟨["cr"], carriageReturn⟩,
    ⟨["lf"], lineFeed⟩,
    ⟨["nl", "newline"], wordNewline⟩,
    ⟨["extend"], extending⟩,
    ⟨["zwj"], joiner⟩,
    ⟨["fo", "format"], plainFormat.diff (characters ["200B"])⟩,
    ⟨["ri", "regionalindicator"], regionalIndicator⟩,
    ⟨["ka", "katakana"], wordKatakana⟩,
    ⟨["hl", "hebrewletter"], hebrewLetter⟩,
    ⟨["le", "aletter"], wordLetter⟩,
    ⟨["sq", "singlequote"], singleQuote⟩,
    ⟨["dq", "doublequote"], doubleQuote⟩,
    ⟨["mb", "midnumlet"], midNumberLetter⟩,
    ⟨["ml", "midletter"], midLetter⟩,
    ⟨["mn", "midnum"], midNumber⟩,
    ⟨["nu", "numeric"], breakDigit⟩,
    ⟨["ex", "extendnumlet"], connectorPunctuation.union narrowBlank⟩,
    ⟨["wsegspace"], wordBlank⟩ ]

def sentenceSeparator : Charset := characters ["85 2028-2029"]

def fullStop : Charset := characters ["2E 2024 FE52 FF0E"]

def sentenceContinue : Charset := characters
  ["2C-2D 3A-3B 37E 55D 60C-60D 7F8 1802 1808 2013-2014 3001 FE10-FE11 FE13-FE14 FE31-FE32",
   "FE50-FE51 FE54-FE55 FE58 FE63 FF0C-FF0D FF1A-FF1B FF64"]

def georgianSmall : Charset := characters ["10D0-10FA 10FD-10FF"]

def georgianCapital : Charset := characters ["1C90-1CBA 1CBD-1CBF"]

def closingQuote : Charset := characters ["22 27 275B-2760 2E00-2E01 2E06-2E08 2E0B 1F676-1F678"]

def hebrewGeresh : Charset := characters ["5F3"]

def sentenceLower : Charset := lowercase.diff (graphemeExtend.union georgianSmall)

def sentenceUpper : Charset := (uppercase.union titlecaseLetter).diff georgianCapital

def sentenceExtend : Charset := .unions [graphemeExtend, spacingMark, joiner]

def sentenceLetter : Charset :=
  (alphabetic.union hebrewGeresh).diff
    (.unions [sentenceLower, sentenceUpper, sentenceExtend])

def brackets : Charset :=
  .unions [openPunctuation, closePunctuation, initialPunctuation, finalPunctuation, closingQuote]

def sentenceClasses : List Row :=
  [ ⟨["cr"], carriageReturn⟩,
    ⟨["lf"], lineFeed⟩,
    ⟨["se", "sep"], sentenceSeparator⟩,
    ⟨["ex", "extend"], sentenceExtend⟩,
    ⟨["fo", "format"], plainFormat.union syriacAbbreviation⟩,
    ⟨["sp"], whiteSpace.diff (.unions [carriageReturn, lineFeed, sentenceSeparator])⟩,
    ⟨["lo", "lower"], sentenceLower⟩,
    ⟨["up", "upper"], sentenceUpper⟩,
    ⟨["le", "oletter"], sentenceLetter⟩,
    ⟨["nu", "numeric"], breakDigit.union arabicThousandsMark⟩,
    ⟨["at", "aterm"], fullStop⟩,
    ⟨["st", "sterm"], sentenceTerminal.diff fullStop⟩,
    ⟨["sc", "scontinue"], sentenceContinue⟩,
    ⟨["cl", "close"], brackets⟩ ]

end FieldRules.Unicode
