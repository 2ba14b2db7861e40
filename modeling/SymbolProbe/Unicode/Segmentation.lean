import SymbolProbe.Unicode.Property
import SymbolProbe.Unicode.Script

/-!
# Segmentation classes

The classes by which a text is cut into graphemes, words and sentences. Classes are found by their
long or short names, in lower case and without separators; the class of all remaining characters
has no name here.
-/

namespace SymbolProbe.Unicode.Segmentation

open Formula

/-! ### Parts of the rules -/

/-- The main characters of a script. -/
def script (name : String) : Formula :=
  ranges (((Script.ofName? name).map Script.rangesText).getD "")

/-- A carriage return. -/
def carriageReturn : Formula := ranges "d"

/-- A line feed. -/
def lineFeed : Formula := ranges "a"

/-- The joiner. -/
def zeroWidthJoiner : Formula := ranges "200d"

/-- The ranges of Hangul syllables without a final consonant. -/
def openSyllables : Formula :=
  any ((List.range 399).map fun i =>
    ranges (String.ofList (Nat.toDigits 16 (0xAC00 + 28 * i))))

/-- Digits, and the signs that are written with digits. -/
def numeric : Formula :=
  any [categories [.decimalNumber], ranges "600-605 6dd 890-891 8e2 19da 110bd 110cd"]

/-! ### Graphemes -/

/-- Extending characters of graphemes. -/
def graphemeExtend : Formula :=
  without (any [Property.graphemeExtend, Property.emojiModifier]) zeroWidthJoiner

/-- Controls, which stand alone. -/
def graphemeControl : Formula :=
  without
    (any [categories [.lineSeparator, .paragraphSeparator, .control, .format],
      without Property.defaultIgnorable (outside (categories [.unassigned]))])
    (any [ranges "a d 200c 200d", Property.prependedConcatenationMark, Property.graphemeExtend])

/-- Spacing marks, which do not start a grapheme. -/
def graphemeSpacingMark : Formula :=
  any [without (categories [.spacingMark])
    (any [graphemeExtend,
      ranges "102b-102c 1038 1062-1064 1067-106d 1083 1087-108c 108f 109a-109c 1a61 1a63-1a64 aa7b
        aa7d 11720-11721"]),
    ranges "e33 eb3"]

/-- A class of the grapheme rules. -/
def graphemeClass? : String → Option Formula
  | "control" | "cn" => some graphemeControl
  | "cr" => some carriageReturn
  | "extend" | "ex" => some graphemeExtend
  | "l" => some (ranges "1100-115f a960-a97c")
  | "lf" => some lineFeed
  | "lv" => some openSyllables
  | "lvt" => some (without (ranges "ac00-d7a3") openSyllables)
  | "prepend" | "pp" =>
    some (any [Property.prependedConcatenationMark,
      ranges "d4e 111c2-111c3 113d1 1193f 11941 11a3a 11a84-11a89 11d46 11f02"])
  | "regionalindicator" | "ri" => some Property.regionalIndicator
  | "spacingmark" | "sm" => some graphemeSpacingMark
  | "t" => some (ranges "11a8-11ff d7cb-d7fb")
  | "v" => some (ranges "1160-11a7 d7b0-d7c6 16d63 16d67-16d6a")
  | "zwj" => some zeroWidthJoiner
  | _ => none

/-! ### Words -/

/-- Extending characters of words. -/
def wordExtend : Formula :=
  without
    (any [Property.graphemeExtend, categories [.spacingMark], Property.emojiModifier])
    zeroWidthJoiner

/-- Katakana. -/
def wordKatakana : Formula :=
  any [script "katakana", ranges "3031-3035 309b-309c 30a0 30fc ff70"]

/-- Hebrew letters. -/
def wordHebrewLetter : Formula :=
  without (script "hebrew") (ranges "591-5c7 5f3-5f4 fb1e fb29")

/-- Letters of alphabets whose words are set apart by spaces. -/
def wordLetter : Formula :=
  any [without Property.alphabetic
    (any [Property.ideographic, wordKatakana, script "hebrew", script "hiragana", wordExtend,
      script "thai", script "lao", script "myanmar", script "khmer", script "taile",
      script "newtailue", script "taitham", script "taiviet", script "ahom"]),
    ranges "2c2-2c5 2d2-2d7 2de-2df 2e5-2eb 2ed 2ef-2ff 55a-55c 55e 58a 5f3 70f a708-a716 a720-a721
      a789-a78a ab5b"]

/-- A class of the word rules. -/
def wordClass? : String → Option Formula
  | "aletter" | "le" => some wordLetter
  | "cr" => some carriageReturn
  | "doublequote" | "dq" => some (ranges "22")
  | "extend" => some wordExtend
  | "extendnumlet" | "ex" => some (any [categories [.connectorPunctuation], ranges "202f"])
  | "format" | "fo" =>
    some (without (categories [.format])
      (any [wordExtend, Property.prependedConcatenationMark, ranges "200b-200d"]))
  | "hebrewletter" | "hl" => some wordHebrewLetter
  | "katakana" | "ka" => some wordKatakana
  | "lf" => some lineFeed
  | "midletter" | "ml" => some (ranges "3a b7 387 55f 5f4 2027 fe13 fe55 ff1a")
  | "midnum" | "mn" =>
    some (ranges "2c 3b 37e 589 60c-60d 66c 7f8 2044 fe50 fe54 ff0c ff1b")
  | "midnumlet" | "mb" => some (ranges "2e 2018-2019 2024 fe52 ff07 ff0e")
  | "newline" | "nl" => some (ranges "b-c 85 2028-2029")
  | "numeric" | "nu" => some (any [numeric, ranges "66b"])
  | "regionalindicator" | "ri" => some Property.regionalIndicator
  | "singlequote" | "sq" => some (ranges "27")
  | "wsegspace" =>
    some (without (categories [.spaceSeparator]) (ranges "a0 2007 202f"))
  | "zwj" => some zeroWidthJoiner
  | _ => none

/-! ### Sentences -/

/-- Extending characters of sentences. -/
def sentenceExtend : Formula :=
  any [Property.graphemeExtend, categories [.spacingMark], zeroWidthJoiner]

/-- Upper-case letters of sentences; the letters of Georgian have no case there. -/
def sentenceUpper : Formula :=
  without (any [Property.uppercase, categories [.titlecaseLetter]]) (ranges "1c90-1cba 1cbd-1cbf")

/-- Lower-case letters of sentences. -/
def sentenceLower : Formula :=
  without Property.lowercase (any [Property.graphemeExtend, ranges "10d0-10fa 10fd-10ff"])

/-- A class of the sentence rules. -/
def sentenceClass? : String → Option Formula
  | "aterm" | "at" => some (ranges "2e 2024 fe52 ff0e")
  | "close" | "cl" =>
    some (any [categories [.openPunctuation, .closePunctuation, .initialPunctuation,
      .finalPunctuation],
      ranges "22 27 275b-2760 2e00-2e01 2e06-2e08 2e0b 1f676-1f678"])
  | "cr" => some carriageReturn
  | "extend" | "ex" => some sentenceExtend
  | "format" | "fo" =>
    some (without (categories [.format])
      (any [Property.graphemeExtend, numeric, ranges "200c-200d"]))
  | "lf" => some lineFeed
  | "lower" | "lo" => some sentenceLower
  | "numeric" | "nu" => some (any [numeric, ranges "66b-66c"])
  | "oletter" | "le" =>
    some (any [without Property.alphabetic
      (any [sentenceLower, sentenceUpper, sentenceExtend]), ranges "5f3"])
  | "scontinue" | "sc" =>
    some (ranges "2c-2d 3a-3b 37e 55d 60c-60d 7f8 1802 1808 2013-2014 3001 fe10-fe11 fe13-fe14
      fe31-fe32 fe50-fe51 fe54-fe55 fe58 fe63 ff0c-ff0d ff1a-ff1b ff64")
  | "sep" | "se" => some (ranges "85 2028-2029")
  | "sp" =>
    some (without Property.whiteSpace (ranges "a d 85 2028-2029"))
  | "sterm" | "st" =>
    some (without Property.sentenceTerminal (ranges "2e 2024 fe52 ff0e"))
  | "upper" | "up" => some sentenceUpper
  | _ => none

end SymbolProbe.Unicode.Segmentation
