import AlertRelay.Text.Marks

/-!
# Directions

Some scripts are written from right to left, and with them numbers and signs move about. A row of
labels that has any character of such a script can be read only if each label keeps to the Bidi
rule: all of it goes one way, and it shows which way at both ends. `directionsFit` says whether that
is so. The tables list the bidirectional classes of the characters that labels may have, except L,
which all other characters have, and NSM, which goes with marks; they are those of version 17 of
the Unicode character data.
-/

namespace AlertRelay.Text

/-- What a character does to the direction of a text. -/
inductive Direction where
  | left
  | right
  | arabicLetter
  | arabicNumber
  | europeanNumber
  /-- A separator or terminator of numbers, or a neutral character. -/
  | weak
  /-- A mark without a direction of its own. -/
  | mark
  deriving DecidableEq, Repr

/-- Ranges of the class R. -/
def rightLetters : Table := Table.rows "
  5BE,5BE 5C0,5C0 5C3,5C3 5C6,5C6 5D0,5F4 7C0,7EA 7F4,7F5 7FA,7FA 7FE,815 81A,81A 824,824
  828,828 830,858 85E,85E 10800,1091B 10920,10A00 10A10,10A35 10A40,10AE4 10AEB,10B35
  10B40,10CFF 10D4A,10D4F 10D6F,10D8F 10E80,10EA9 10EAD,10EB1 10F00,10F27 10F70,10F81
  10F86,10FF6 1E800,1E8CF 1E922,1E943 1E94B,1E95F"

/-- Ranges of the class AL. -/
def arabicLetters : Table := Table.rows "
  608,608 60B,60B 60D,60D 61B,64A 66D,66F 671,6D5 6E5,6E6 6EE,6EF 6FA,710 712,72F 74D,7A5
  7B1,7B1 860,88F 8A0,8C9 FBB2,FBC2 FE73,FE73 10D00,10D23 10EC2,10EC7 10F30,10F45 10F51,10F59
  1EC71,1ED3D"

/-- Ranges of the class AN. -/
def arabicNumbers : Table := Table.rows "660,669 66B,66C 10D30,10D39 10E60,10E7E"

/-- Ranges of the class EN. -/
def europeanNumbers : Table := Table.rows "30,39 6F0,6F9 102E1,102FB 10D40,10D49"

/-- Ranges of the classes ES, CS, ET, ON and BN. -/
def weakCharacters : Table := Table.rows "
  0,8 E,1B 21,2F 3A,60 7B,7F A1,AE B0,B1 B6,D7 F7,F7 2B9,2BA 2C2,2CF 2D2,2ED 2EF,2FF 375,375
  3F6,3F6 58A,58F 606,607 609,60A 60C,60C 60E,60F 66A,66A 6DE,6DE 6E9,6E9 7F6,7F9 9F2,9F3
  9FB,9FB AF1,AF1 BF3,BFA C78,C7E E3F,E3F F3A,F3D 1390,1399 1400,1400 169B,169C 17DB,17DB
  17F0,180A 1940,1945 19DE,19FF 200C,200D 2010,2027 2030,2032 2035,205E 20A0,20C1 2104,2129
  212E,212E 213A,214D 218A,2335 237B,2394 2396,26AB 26AD,27FF 2900,2BFF 2CE5,2CEA 2CF9,2CFF
  2E00,3004 3008,3020 3030,3030 3037,3037 303D,303F 30A0,30A0 30FB,30FB 31C0,31E3 4DC0,4DFF
  A490,A4C6 A60D,A60F A673,A673 A67E,A67F A700,A721 A788,A788 A828,A82B A838,A839 A874,A877
  AB6A,AB6B FBC3,FDFF FE45,FE46 10101,10101 10140,1018C 10190,101A0 1091F,1091F 10B39,10B3F
  10D6E,10D6E 10ED0,10ED8 11052,11065 11660,1166C 11FD5,11FF1 16FE2,16FE2 1CC00,1CEF0
  1D1E9,1D241 1D245,1D245 1D300,1D356 1E2FF,1E2FF 1EEF0,1F12F 1F16D,1F16F 1F1AD,1F1AD
  1F260,1FBFA"

/-- Ranges of marks that go from left to right. -/
def leftMarks : Table := Table.rows "CBF,CBF CC6,CC6 11A07,11A08 11C3F,11C3F"

/-- What a character does to the direction of a text. -/
def directionOf (c : Char) : Direction :=
  if rightLetters.contains c then .right
  else if arabicLetters.contains c then .arabicLetter
  else if arabicNumbers.contains c then .arabicNumber
  else if europeanNumbers.contains c then .europeanNumber
  else if weakCharacters.contains c then .weak
  else if isNonspacingMark c && !leftMarks.contains c then .mark
  else .left

/-- The code in front of which all goes from left to right. -/
def firstRightCode : Nat := 0x590

/-- A character of a script that is written from right to left, or a number of one. -/
def isRightToLeft (c : Char) : Bool :=
  firstRightCode ≤ c.toNat &&
    (rightLetters.contains c || arabicLetters.contains c || arabicNumbers.contains c)

/-- What the last character does that is no mark, if there is one. -/
def lastDirection? (ds : List Direction) : Option Direction :=
  (ds.filter (· != .mark)).getLast?

/-- The rule for labels that go from left to right. -/
def fitsLeft (ds : List Direction) : Bool :=
  ds.all (fun d => d == .left || d == .europeanNumber || d == .weak || d == .mark) &&
    (lastDirection? ds == some .left || lastDirection? ds == some .europeanNumber)

/-- The rule for labels that go from right to left: numbers of two kinds must not meet. -/
def fitsRight (ds : List Direction) : Bool :=
  ds.all (· != .left) && (lastDirection? ds).any (· != .weak) &&
    !(ds.contains .europeanNumber && ds.contains .arabicNumber)

/-- Whether a label keeps to the Bidi rule. -/
def directionFits (label : List Char) : Bool :=
  let ds := label.map directionOf
  match ds with
  | [] => true
  | .left :: _ => fitsLeft ds
  | .right :: _ => fitsRight ds
  | .arabicLetter :: _ => fitsRight ds
  | _ => false

/-- Whether all labels of a row can be read. -/
def directionsFit (labels : List (List Char)) : Bool :=
  !(labels.any fun label => label.any isRightToLeft) || labels.all directionFits

end AlertRelay.Text
