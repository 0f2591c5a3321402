import AlertRelay.Text.Marks

/-!
# Joiners

Two characters that cannot be seen say whether their neighbours are joined: the zero-width joiner
and non-joiner. They are in place behind a mark that takes the vowel of a consonant away, and the
non-joiner also between two letters of a script whose letters join. The tables are those of version
17 of the Unicode character data.
-/

namespace AlertRelay.Text

/-- The zero-width non-joiner. -/
def nonJoiner : Char := '\u200c'

/-- The zero-width joiner. -/
def joiner : Char := '\u200d'

/-- Ranges of letters that join on both sides. -/
def dualJoining : Table := Table.rows "
  620,620 626,626 628,628 62A,62E 633,63F 641,647 649,64A 66E,66F 679,687 69A,6BF 6C1,6C2
  6CC,6CC 6CE,6CE 6D0,6D1 6FA,6FC 6FF,6FF 712,714 71A,71D 71F,727 729,729 72B,72B 72D,72E
  74E,758 75C,76A 76D,770 772,772 775,777 77A,77F 7CA,7EA 841,845 848,848 84A,853 855,855
  860,860 862,865 868,868 886,886 889,88D 88F,88F 8A0,8A9 8AF,8B0 8B3,8B8 8BA,8C8 1807,1807
  1820,1878 1887,18A8 18AA,18AA A840,A871 10AC0,10AC4 10AD3,10AD6 10AD8,10ADC 10ADE,10AE0
  10AEB,10AEE 10B80,10B80 10B82,10B82 10B86,10B88 10B8A,10B8B 10B8D,10B8D 10B90,10B90
  10BAD,10BAE 10D01,10D21 10D23,10D23 10EC3,10EC4 10EC6,10EC7 10F30,10F32 10F34,10F44
  10F51,10F53 10F70,10F73 10F76,10F81 10FB0,10FB0 10FB2,10FB3 10FB8,10FB8 10FBB,10FBC
  10FBE,10FBF 10FC1,10FC1 10FC4,10FC4 10FCA,10FCA 1E922,1E943"

/-- Ranges of letters that join the letter before them. -/
def rightJoining : Table := Table.rows "
  622,625 627,627 629,629 62F,632 648,648 671,673 688,699 6C0,6C0 6C3,6CB 6CD,6CD 6CF,6CF
  6D2,6D3 6D5,6D5 6EE,6EF 710,710 715,719 71E,71E 728,728 72A,72A 72C,72C 72F,72F 74D,74D
  759,75B 76B,76C 771,771 773,774 778,779 840,840 846,847 849,849 854,854 856,858 867,867
  869,882 88E,88E 8AA,8AC 8AE,8AE 8B1,8B2 8B9,8B9 10AC5,10AC5 10AC7,10AC7 10AC9,10ACA
  10ACE,10AD2 10ADD,10ADD 10AE1,10AE1 10AE4,10AE4 10AEF,10AEF 10B81,10B81 10B83,10B85
  10B89,10B89 10B8C,10B8C 10B8E,10B8F 10B91,10B91 10BA9,10BAC 10D22,10D22 10EC2,10EC2
  10F33,10F33 10F54,10F54 10F74,10F75 10FB4,10FB6 10FB9,10FBA 10FBD,10FBD 10FC2,10FC3
  10FC9,10FC9"

/-- Ranges of letters that join the letter behind them. -/
def leftJoining : Table := Table.rows "A872,A872 10ACD,10ACD 10AD7,10AD7 10D00,10D00 10FCB,10FCB"

/-- The mark of nasalization of Adlam. -/
def nasalizationMark : Char := Char.ofNat 0x1E94B

/-- A character that letters join across. -/
def isTransparent (c : Char) : Bool :=
  isNonspacingMark c || c == nasalizationMark

/-- Whether a character joins the one behind it. -/
def joinsNext (c : Char) : Bool :=
  dualJoining.contains c || leftJoining.contains c

/-- Whether a character joins the one before it. -/
def joinsPrevious (c : Char) : Bool :=
  dualJoining.contains c || rightJoining.contains c

/-- Whether a joiner or non-joiner is in place between the characters before it, which are in
reverse, and those behind it. Any other character is. -/
def joinerFits (before : List Char) (c : Char) (behind : List Char) : Bool :=
  let isBehindVirama := before.head?.any fun d => combiningClass d == viramaClass
  if c = joiner then isBehindVirama
  else if c = nonJoiner then
    isBehindVirama ||
      ((before.dropWhile isTransparent).head?.any joinsNext &&
        (behind.dropWhile isTransparent).head?.any joinsPrevious)
  else true

/-- Whether all joiners and non-joiners behind the characters `before`, which are in reverse, are in
place. -/
def joinersFitFrom (before : List Char) : List Char → Bool
  | [] => true
  | c :: rest => joinerFits before c rest && joinersFitFrom (c :: before) rest

/-- Whether all joiners and non-joiners of a text are in place. -/
def joinersFit (cs : List Char) : Bool :=
  joinersFitFrom [] cs

end AlertRelay.Text
