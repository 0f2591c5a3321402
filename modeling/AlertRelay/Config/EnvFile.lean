import AlertRelay.Config.Environment
import AlertRelay.Text.Alphanumeric
import AlertRelay.Text.Blank

/-!
# Files of settings

A file of settings has lines of the form `NAME=value`, some of them behind the word `export`. A
quoted value may go on over several lines, so the file is first cut into logical lines
(`EnvFile.lines`); each is then read by itself (`EnvFile.readLine?`). In a value single quotes keep
everything as it is; elsewhere a backslash keeps the next character and a dollar sign stands in
front of the name of a variable, whose text is put in its place.

A line that is neither empty, nor a comment, nor a setting ends the file: what stands before it
counts, and the rest is not looked at. A setting never replaces what the environment has.
-/

namespace AlertRelay.EnvFile

/-! ## Logical lines -/

/-- Where the scanner of logical lines is. -/
inductive Scan where
  /-- In front of the first character of a line that is not blank. -/
  | start
  | plain
  /-- Behind a blank. -/
  | blank
  /-- Behind a backslash. -/
  | escape
  /-- Inside double quotes. -/
  | weak
  | weakEscape
  /-- Inside single quotes. -/
  | strong
  | strongEscape
  /-- In a comment, which lasts to the end of the line. -/
  | comment
  deriving DecidableEq, Repr

/-- Where the scanner is behind a character that may open quotes or be a backslash. -/
def Scan.afterMark (c : Char) : Scan :=
  if c = '\\' then .escape
  else if c = '"' then .weak
  else if c = '\'' then .strong
  else .plain

/-- Where the scanner is behind a character. A comment begins at a number sign that is the first
character of a line or stands behind a single blank; a second blank is like any other character. -/
def Scan.after (c : Char) : Scan → Scan
  | .start =>
    if c = '\n' then .plain
    else if Text.isBlank c then .start
    else if c = '#' then .comment
    else afterMark c
  | .plain => if Text.isBlank c && c != '\n' && c != '\r' then .blank else afterMark c
  | .blank => if c = '#' then .comment else afterMark c
  | .escape => .plain
  | .weak => if c = '\\' then .weakEscape else if c = '"' then .plain else .weak
  | .weakEscape => .weak
  | .strong => if c = '\\' then .strongEscape else if c = '\'' then .plain else .strong
  | .strongEscape => .strong
  | .comment => if c = '\n' then .plain else .comment

/-- The logical lines of a text, of which `line` is the beginning of the first one in reverse. A
line feed ends a line unless quotes are open. A last line in which something is open, or which ends
in a blank, is left out. -/
def linesFrom (scan : Scan) (line : List Char) : List Char → List (List Char)
  | [] => if scan = .plain || scan = .comment then [line.reverse] else []
  | c :: rest =>
    let next := scan.after c
    if c = '\n' && next == .plain then line.reverse :: linesFrom .start [] rest
    else linesFrom next (if next = .comment then line else c :: line) rest

/-- The logical lines of a text without their line feeds and comments. -/
def lines (text : List Char) : List (List Char) :=
  linesFrom .start [] text

/-! ## Values -/

/-- Where the reader of a value is. `quoted` says whether that is inside double quotes. -/
inductive Reading where
  | text (quoted : Bool)
  /-- Behind a backslash. -/
  | escape (quoted : Bool)
  /-- Inside single quotes. -/
  | strong
  /-- Behind a dollar sign and the beginning of a name. -/
  | name (quoted : Bool) (read : List Char)
  /-- The same with the name in braces. -/
  | braced (quoted : Bool) (read : List Char)
  /-- Behind a blank that ends the value. -/
  | ending
  deriving DecidableEq, Repr

/-- The text of a variable, nothing if there is no such variable. -/
def textOf (env : Environment) (name : List Char) : List Char :=
  ((env.get? (String.ofList name)).getD "").toList

/-- The character that a backslash and a character stand for. -/
def escaped? (c : Char) : Option Char :=
  if c == '\\' || c == '\'' || c == '"' || c == '$' || c == ' ' then some c
  else if c = 'n' then some '\n'
  else none

/-- Reads the rest of a value. A name behind a dollar sign goes as far as there are letters and
digits; the character that ends it stands for itself, unless it is another dollar sign. Behind a
blank only blanks and a comment may follow. -/
def valueFrom (env : Environment) : Reading → List Char → Option (List Char)
  | .text false, [] => some []
  | .escape false, [] => some []
  | .name false read, [] => some (textOf env read)
  | .ending, [] => some []
  | _, [] => none
  | .text quoted, c :: rest =>
    if c = '$' then valueFrom env (.name quoted []) rest
    else if c = '\\' then valueFrom env (.escape quoted) rest
    else if c = '"' then valueFrom env (.text (!quoted)) rest
    else if quoted then (valueFrom env (.text true) rest).map (c :: ·)
    else if c = '\'' then valueFrom env .strong rest
    else if c = ' ' || c = '\t' then valueFrom env .ending rest
    else (valueFrom env (.text false) rest).map (c :: ·)
  | .escape quoted, c :: rest =>
    (escaped? c).bind fun c => (valueFrom env (.text quoted) rest).map (c :: ·)
  | .strong, c :: rest =>
    if c = '\'' then valueFrom env (.text false) rest
    else (valueFrom env .strong rest).map (c :: ·)
  | .name quoted read, c :: rest =>
    if Text.isAlphanumeric c then valueFrom env (.name quoted (read ++ [c])) rest
    else if c = '\x7b' && read.isEmpty then valueFrom env (.braced quoted []) rest
    else if c = '$' then (valueFrom env (.name quoted []) rest).map (textOf env read ++ ·)
    else (valueFrom env (.text quoted) rest).map fun value => textOf env read ++ c :: value
  | .braced quoted read, c :: rest =>
    if c = '\x7d' then (valueFrom env (.text quoted) rest).map (textOf env read ++ ·)
    else valueFrom env (.braced quoted (read ++ [c])) rest
  | .ending, c :: rest =>
    if c = ' ' || c = '\t' then valueFrom env .ending rest
    else if c = '#' then some []
    else none

/-- Reads a value. -/
def readValue? (env : Environment) (cs : List Char) : Option (List Char) :=
  valueFrom env (.text false) cs

/-! ## Settings -/

/-- A character that a name may start with. -/
def startsName (c : Char) : Bool :=
  c.isAlpha || c == '_'

/-- A character that a name may have. -/
def isNamePart (c : Char) : Bool :=
  c.isAlphanum || c == '_' || c == '.'

/-- Reads a name and the blanks behind it. -/
def readName? (cs : List Char) : Option (String × List Char) :=
  if cs.head?.any startsName then
    some (String.ofList (cs.takeWhile isNamePart),
      (cs.dropWhile isNamePart).dropWhile Text.isBlank)
  else none

/-- Reads an equals sign and the blanks behind it. -/
def readEquals? : List Char → Option (List Char)
  | [] => none
  | c :: rest => if c = '=' then some (rest.dropWhile Text.isBlank) else none

/-- Reads a name and an equals sign. The word `export` may stand in front of the name, and may be a
name itself. -/
def readTarget? (cs : List Char) : Option (String × List Char) := do
  let (name, rest) ← readName? cs
  match readEquals? rest with
  | some rest => return (name, rest)
  | none =>
    if name = "export" then
      let (name, rest) ← readName? rest
      return (name, ← readEquals? rest)
    else none

/-- Whether nothing is left but perhaps a comment. -/
def isVoid (cs : List Char) : Bool :=
  cs.isEmpty || cs.head? == some '#'

/-- Reads a logical line: a setting, or none if the line is empty or a comment. -/
def readLine? (env : Environment) (line : List Char) : Option (Option (String × String)) :=
  let cs := Text.trimChars line
  if isVoid cs then some none
  else do
    let (name, rest) ← readTarget? cs
    let value ← if isVoid rest then some [] else readValue? env rest
    return some (name, String.ofList value)

/-- The environment with a setting, unless it has one of that name. -/
def add (env : Environment) (setting : String × String) : Environment :=
  if (env.get? setting.1).isSome then env else env ++ [setting]

/-- The environment with the settings of logical lines, up to the first one that cannot be read. -/
def load (env : Environment) : List (List Char) → Environment
  | [] => env
  | line :: rest =>
    match readLine? env line with
    | none => env
    | some none => load env rest
    | some (some setting) => load (add env setting) rest

/-- Drops a byte order mark. -/
def dropMark : List Char → List Char
  | [] => []
  | c :: rest => if c = '\ufeff' then rest else c :: rest

end EnvFile

/-- The environment with the settings of a file added. -/
def Environment.withFile (env : Environment) (content : String) : Environment :=
  EnvFile.load env (EnvFile.lines (EnvFile.dropMark content.toList))

namespace EnvFile

/-- What is set already is kept. -/
theorem get?_add {env : Environment} {key value : String} (setting : String × String)
    (h : env.get? key = some value) : (add env setting).get? key = some value := by
  unfold add
  split
  · exact h
  · simp only [Environment.get?] at h ⊢
    rw [List.lookup_append, h, Option.some_or]

/-- What the environment has is never replaced by a file. -/
theorem get?_load {env : Environment} {key value : String} (lines : List (List Char))
    (h : env.get? key = some value) : (load env lines).get? key = some value := by
  induction lines generalizing env with
  | nil => exact h
  | cons line rest ih =>
    unfold load
    split
    · exact h
    · exact ih h
    · exact ih (get?_add _ h)

end EnvFile

end AlertRelay
