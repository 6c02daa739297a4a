import DocStore.Unicode.Property
import DocStore.Unicode.Script

/-! # Places where texts can be divided

The classes of characters that tell where grapheme clusters, words and sentences may end.
-/

namespace DocStore.Unicode

/-- The characters of the East Asian and South East Asian scripts that write words without
    blanks between them. -/
def complexContext : CharSet := listed
  "E01-E3A E40-E4E E81-E82 E84 E86-E8A E8C-EA3 EA5 EA7-EBD EC0-EC4 EC6 EC8-ECE EDC-EDF
    1000-103F 1050-108F 109A-109F 1780-17D3 17D7 17DC-17DD 1950-196D 1970-1974 1980-19AB
    19B0-19C9 19DA 19DE-19DF 1A20-1A5E 1A60-1A7C 1AA0-1AAD A9E0-A9EF A9FA-A9FE AA60-AAC2
    AADB-AADF 11700-1171A 1171D-1172B 1173A-1173B 1173F-11746"

/-- The format characters that some rule of division leaves aside. -/
def formatBut (others : CharSet) : CharSet :=
  (category "Cf").difference others

/-- The class of a grapheme cluster's characters, by a test on names. -/
def clusterBreakSet? (isName : String → Bool) : Option CharSet :=
  let extend := graphemeExtend.union (property "Emoji_Modifier")
  let extendOrPrepend := extend.union (property "Prepended_Concatenation_Mark")
  if isName "CR" then some (.just '\r')
  else if isName "LF" then some (.just '\n')
  else if isName "CN" || isName "Control" then
    some ((CharSet.unions [categories ["Zl", "Zp", "Cc", "Cf"],
      unassigned.intersection defaultIgnorable]).difference
      (extendOrPrepend.union (listed "A D 200C-200D")))
  else if isName "EX" || isName "Extend" then some extend
  else if isName "SM" || isName "SpacingMark" then
    some (((category "Mc").difference (extend.union (listed
      "102B-102C 1038 1062-1064 1067-106D 1083 1087-108C 108F 109A-109C 1A61 1A63-1A64 AA7B
       AA7D 11720-11721"))).union (listed "E33 EB3"))
  else if isName "PP" || isName "Prepend" then
    some ((property "Prepended_Concatenation_Mark").union (listed
      "D4E 111C2-111C3 113D1 1193F 11941 11A3A 11A84-11A89 11D46 11F02"))
  else if isName "RI" || isName "Regional_Indicator" then some (property "Regional_Indicator")
  else if isName "ZWJ" then some (listed "200D")
  else if isName "L" then some (listed "1100-115F A960-A97C")
  else if isName "V" then some (listed "1160-11A7 16D63 16D67-16D6A D7B0-D7C6")
  else if isName "T" then some (listed "11A8-11FF D7CB-D7FB")
  else if isName "LV" then some (listed "AC00-D788/1C")
  else if isName "LVT" then
    some ((listed "AC00-D7A3").difference (listed "AC00-D788/1C"))
  else none

/-- The characters that extend a word: those that extend another character, and spacing
    marks. -/
def wordExtend : CharSet :=
  (CharSet.unions [graphemeExtend, category "Mc", property "Emoji_Modifier"]).difference
    (listed "200D")

def katakanaWords : CharSet :=
  ((scriptSet? (· == "Kana")).getD .none).union
    (listed "3031-3035 309B-309C 30A0 30FC FF70")

def hebrewLetters : CharSet :=
  ((scriptSet? (· == "Hebr")).getD .none).intersection (category "Lo")

/-- The digits of numbers, with the marks written inside of them. -/
def numericCharacters : CharSet :=
  (decimalDigits.union (listed "66B"))

/-- The class of a word's characters, by a test on names. -/
def wordBreakSet? (isName : String → Bool) : Option CharSet :=
  if isName "CR" then some (.just '\r')
  else if isName "LF" then some (.just '\n')
  else if isName "NL" || isName "Newline" then some (listed "B-C 85 2028-2029")
  else if isName "Extend" then some wordExtend
  else if isName "ZWJ" then some (listed "200D")
  else if isName "RI" || isName "Regional_Indicator" then some (property "Regional_Indicator")
  else if isName "FO" || isName "Format" then
    some (formatBut (wordExtend.union (listed "200B-200D")))
  else if isName "KA" || isName "Katakana" then some katakanaWords
  else if isName "HL" || isName "Hebrew_Letter" then some hebrewLetters
  else if isName "LE" || isName "ALetter" then
    some ((alphabetic.union (listed
      "2C2-2C5 2D2-2D7 2DE-2DF 2E5-2EB 2ED 2EF-2FF 55A-55C 55E 58A 5F3 A708-A716 A720-A721
       A789-A78A AB5B")).difference
      (.unions [property "Ideographic", katakanaWords, complexContext,
        (scriptSet? (· == "Hira")).getD .none, wordExtend, hebrewLetters]))
  else if isName "SQ" || isName "Single_Quote" then some (.just '\x27')
  else if isName "DQ" || isName "Double_Quote" then some (.just '"')
  else if isName "MB" || isName "MidNumLet" then
    some (listed "2E 2018-2019 2024 FE52 FF07 FF0E")
  else if isName "ML" || isName "MidLetter" then
    some (listed "3A B7 387 55F 5F4 2027 FE13 FE55 FF1A")
  else if isName "MN" || isName "MidNum" then
    some (listed "2C 3B 37E 589 60C-60D 66C 7F8 2044 FE10 FE14 FE50 FE54 FF0C FF1B")
  else if isName "NU" || isName "Numeric" then some numericCharacters
  else if isName "EX" || isName "ExtendNumLet" then
    some ((category "Pc").union (listed "202F"))
  else if isName "WSegSpace" then
    some ((category "Zs").difference (listed "A0 2007 202F"))
  else none

def sentenceLower : CharSet :=
  lowercase.difference (graphemeExtend.union (listed "10D0-10FA 10FD-10FF"))

def sentenceUpper : CharSet :=
  (uppercase.union (category "Lt")).difference (listed "1C90-1CBA 1CBD-1CBF")

/-- The characters that extend another one in a sentence. -/
def sentenceExtend : CharSet :=
  .unions [graphemeExtend, category "Mc", listed "200D"]

/-- The marks that end a sentence for certain. -/
def sentenceTerminators : CharSet :=
  (property "Sentence_Terminal").difference (listed "2E 2024 FE52 FF0E")

/-- The class of a sentence's characters, by a test on names. -/
def sentenceBreakSet? (isName : String → Bool) : Option CharSet :=
  if isName "CR" then some (.just '\r')
  else if isName "LF" then some (.just '\n')
  else if isName "SE" || isName "Sep" then some (listed "85 2028-2029")
  else if isName "EX" || isName "Extend" then some sentenceExtend
  else if isName "FO" || isName "Format" then
    some (formatBut (graphemeExtend.union (listed "200C-200D")))
  else if isName "SP" || isName "Sp" then
    some (whiteSpace.difference (listed "A D 85 2028-2029"))
  else if isName "LO" || isName "Lower" then some sentenceLower
  else if isName "UP" || isName "Upper" then some sentenceUpper
  else if isName "LE" || isName "OLetter" then
    some ((alphabetic.union (listed "5F3")).difference
      (.unions [sentenceLower, sentenceUpper, sentenceExtend]))
  else if isName "NU" || isName "Numeric" then
    some (decimalDigits.union (listed "66B-66C"))
  else if isName "AT" || isName "ATerm" then some (listed "2E 2024 FE52 FF0E")
  else if isName "SC" || isName "SContinue" then
    some (listed
      "2C-2D 3A-3B 37E 55D 60C-60D 7F8 1802 1808 2013-2014 3001 FE10-FE11 FE13-FE14 FE31-FE32
       FE50-FE51 FE54-FE55 FE58 FE63 FF0C-FF0D FF1A-FF1B FF64")
  else if isName "ST" || isName "STerm" then some sentenceTerminators
  else if isName "CL" || isName "Close" then
    some ((CharSet.unions [categories ["Ps", "Pe", "Pi", "Pf"],
      listed "22 27 275B-2760 2E00-2E01 2E06-2E08 2E0B 1F676-1F678"]).difference
      (sentenceTerminators.union (listed "5F3")))
  else none

end DocStore.Unicode
