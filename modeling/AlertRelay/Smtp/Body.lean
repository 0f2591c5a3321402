import AlertRelay.Text.Split

/-!
# The body of a mail on the wire

A message is sent line by line, each line ended by a carriage return and a line feed. A line that
starts with a dot gets another one in front, and a line with a single dot marks the end.
-/

namespace AlertRelay.Smtp

/-- A carriage return followed by a line feed becomes a line feed. -/
def unifyBreaks : List Char → List Char
  | [] => []
  | '\r' :: '\n' :: rest => '\n' :: unifyBreaks rest
  | c :: rest => c :: unifyBreaks rest

/-- Drops one line feed at the end. -/
def dropFinalBreak : List Char → List Char
  | [] => []
  | ['\n'] => []
  | c :: rest => c :: dropFinalBreak rest

/-- The lines of a message. A message that ends with a line break has no empty line behind it. -/
def bodyLines (message : List Char) : List (List Char) :=
  Text.splitChars '\n' (dropFinalBreak (unifyBreaks message))

/-- The break at the end of every line. -/
def crlf : List Char := ['\r', '\n']

/-- A line with another dot in front of a dot at its start. -/
def stuffDot : List Char → List Char
  | '.' :: rest => '.' :: '.' :: rest
  | line => line

/-- A message as it is sent, with the line that marks its end. -/
def encodeBody (message : List Char) : List Char :=
  ((bodyLines message).flatMap fun line => stuffDot line ++ crlf) ++ '.' :: crlf

end AlertRelay.Smtp
