import AlertRelay.Url.Basic

/-!
# Reading URLs

`Url.read?` reads a URL that stands by itself. Blanks and control characters around it and line ends
and tabs within it do not count. It begins with a scheme and a colon. Behind that come two slashes,
an authority and a path; if the scheme is special the slashes may be more or fewer, and backslashes.
With another scheme there may also be only a path.
-/

namespace AlertRelay.Url

/-! ## Parts -/

/-- A space or a control character of ASCII. -/
def isSpaceOrControl (c : Char) : Bool :=
  c.toNat ≤ 0x20

/-- Drops the spaces and control characters at both ends, and all tabs and line ends. -/
def clean (cs : List Char) : List Char :=
  let cs := cs.dropWhile isSpaceOrControl
  let cs := (cs.reverse.dropWhile isSpaceOrControl).reverse
  cs.filter fun c => c != '\t' && c != '\n' && c != '\r'

/-- A character that a scheme may have. -/
def isSchemePart (c : Char) : Bool :=
  c.isAlphanum || c == '+' || c == '-' || c == '.'

/-- Reads a scheme and the colon behind it. -/
def readScheme? (cs : List Char) : Option (String × List Char) :=
  match cs.dropWhile isSchemePart with
  | ':' :: rest =>
    if cs.head?.any Char.isAlpha then
      some (String.ofList ((cs.takeWhile isSchemePart).map Char.toLower), rest)
    else none
  | _ => none

/-- A mark in front of a query or a fragment. -/
def isMark (c : Char) : Bool :=
  c == '?' || c == '#'

/-- The query and the fragment of a text that is empty or begins with the mark of one. -/
def readQuery (k : SchemeKind) (cs : List Char) : Option (List Char) × Option (List Char) :=
  let set := if k.isSpecial then inSpecialQuerySet else inQuerySet
  let fragment (cs : List Char) : Option (List Char) :=
    match cs with
    | '#' :: rest => some (Percent.encode inFragmentSet rest)
    | _ => none
  match cs with
  | '?' :: rest =>
    (some (Percent.encode set (rest.takeWhile (· != '#'))), fragment (rest.dropWhile (· != '#')))
  | _ => (none, fragment cs)

/-- A URL of the given parts; `rest` is the query and the fragment. -/
def make (k : SchemeKind) (scheme : String) (authority : Option Authority) (path : Path)
    (rest : List Char) : Url :=
  let (query, fragment) := readQuery k rest
  ⟨scheme, authority, path, query, fragment⟩

/-- The text up to the mark of a query or a fragment, and the rest. -/
def splitAtMark (cs : List Char) : List Char × List Char :=
  (cs.takeWhile (!isMark ·), cs.dropWhile (!isMark ·))

/-! ## Authorities -/

/-- Whether an authority ends in front of a character. -/
def endsAuthority (k : SchemeKind) (c : Char) : Bool :=
  k.isSlash c || isMark c

/-- The text in front of the last commercial at of an authority, if it has one, and what follows. -/
def splitAtSign (k : SchemeKind) (cs : List Char) : Option (List Char) × List Char :=
  let zone := cs.takeWhile (!endsAuthority k ·)
  if zone.contains '@' then
    let behind := (zone.reverse.takeWhile (· != '@')).length
    let size := zone.length - behind
    (some (zone.take (size - 1)), cs.drop size)
  else (none, cs)

/-- Reads the credentials: a user name, and a password behind a colon unless it is empty. -/
def readCredentials (cs : List Char) : List Char × Option (List Char) :=
  let password := (cs.dropWhile (· != ':')).drop 1
  (Percent.encode inUserSet (cs.takeWhile (· != ':')),
    if password.isEmpty then none else some (Percent.encode inUserSet password))

/-- The text of a host and what follows. A colon ends it unless it is in brackets. The characters
read so far are given in reverse. -/
def splitHost (k : SchemeKind) (inside : Bool) (back : List Char) :
    List Char → List Char × List Char
  | [] => (back.reverse, [])
  | c :: rest =>
    if endsAuthority k c || (c == ':' && !inside) then (back.reverse, c :: rest)
    else splitHost k (c == '[' || (inside && c != ']')) (c :: back) rest

/-- The greatest number of a port. -/
def portLimit : Nat := 65535

/-- Reads a port behind its colon, if there is one. The usual port of the scheme is left out. -/
def readPort? (scheme : String) (cs : List Char) : Option (Option Nat × List Char) :=
  match cs with
  | ':' :: rest =>
    let digits := rest.takeWhile Text.isDigit
    let behind := rest.dropWhile Text.isDigit
    let port := Text.digitsValue digits
    if portLimit < port then none
    else if behind.head?.any fun c => !(c == '/' || c == '\\' || isMark c) then none
    else if digits.isEmpty || usualPorts.lookup scheme == some port then some (none, behind)
    else some (some port, behind)
  | _ => some (none, cs)

/-- Reads an authority. -/
def readAuthority? (k : SchemeKind) (scheme : String) (cs : List Char) :
    Option (Authority × List Char) := do
  let (credentials, rest) := splitAtSign k cs
  if credentials == some [] && rest.head?.any (endsAuthority k) then none
  let (user, password) := readCredentials (credentials.getD [])
  let (name, rest) := splitHost k false [] rest
  let (port, behind) ← readPort? scheme rest
  if name.isEmpty then
    if k.isSpecial || rest.head? == some ':' || !user.isEmpty || password.isSome then none
    else return ({}, behind)
  else
    let host ← if k.isSpecial then Host.readSpecial? name else Host.readOther? name
    return (⟨user, password, some host, port⟩, behind)

/-- Drops one slash in front. -/
def dropSlash (k : SchemeKind) : List Char → List Char
  | [] => []
  | c :: rest => if k.isSlash c then rest else c :: rest

/-- Reads what stands behind the two slashes. -/
def readBehindSlashes? (k : SchemeKind) (scheme : String) (cs : List Char) : Option Url := do
  let (authority, rest) ← readAuthority? k scheme cs
  let (path, rest) := splitAtMark rest
  let segments := if path.isEmpty && k = .other then [] else readSegments k (dropSlash k path)
  return make k scheme (some authority) (.segments segments) rest

/-! ## Kinds of URLs -/

/-- Reads what stands behind the colon of a scheme without special rules. -/
def readOther? (scheme : String) (cs : List Char) : Option Url :=
  match cs with
  | '/' :: '/' :: rest => readBehindSlashes? .other scheme rest
  | '/' :: rest =>
    let (path, rest) := splitAtMark rest
    some (make .other scheme none (.segments (readSegments .other path)) rest)
  | cs =>
    let (path, rest) := splitAtMark cs
    some (make .other scheme none (.rootless (Percent.encode isControlOrWide path)) rest)

/-- The URL of a file on a host, of which `path` is all that stands behind a slash. A drive letter
in the path takes the place of the host. -/
def fileUrl (host : Option Host) (path rest : List Char) : Url :=
  let host := if hasDrive .file path then none else host
  make .file "file" (some { host }) (.segments (readSegments .file path)) rest

/-- Reads what stands behind the two slashes of the URL of a file. What looks like a host but is a
drive letter belongs to the path, and the name of the local host is left out. -/
def readFileHost? (cs : List Char) : Option Url := do
  let name := cs.takeWhile (!endsAuthority .file ·)
  let (path, rest) := splitAtMark (cs.drop name.length)
  if isDriveLetter name then return fileUrl none (name ++ path) rest
  else if name.isEmpty then return fileUrl none path rest
  else
    let host ← Host.readSpecial? name
    if host = .domain "localhost".toList then return fileUrl none path rest
    else return fileUrl (some host) (dropSlash .file path) rest

/-- Reads what stands behind the colon of the URL of a file. -/
def readFile? (cs : List Char) : Option Url :=
  if (cs.take 2).length = 2 && (cs.take 2).all SchemeKind.file.isSlash then
    readFileHost? (cs.drop 2)
  else
    let (path, rest) := splitAtMark (dropSlash .file cs)
    some (fileUrl none path rest)

/-- Reads a URL. -/
def readChars? (cs : List Char) : Option Url := do
  let (scheme, rest) ← readScheme? (clean cs)
  match kindOf scheme with
  | .file => readFile? rest
  | .special => readBehindSlashes? .special scheme (rest.dropWhile SchemeKind.special.isSlash)
  | .other => readOther? scheme rest

/-- Reads a URL. -/
def read? (s : String) : Option Url :=
  readChars? s.toList

end AlertRelay.Url
