import AlertRelay.Url.Host
import AlertRelay.Url.Path

/-!
# URLs

A `Url` is a scheme, an optional authority, a path, and an optional query and fragment, all of them
encoded. `Url.text` writes it. The authority may have credentials, which do not belong into an
address that is shown or sent: `Url.anonymous` takes them away.
-/

namespace AlertRelay

namespace Url

/-- The schemes that always have a host, with their usual ports. -/
def usualPorts : List (String × Nat) :=
  [("http", 80), ("https", 443), ("ws", 80), ("wss", 443), ("ftp", 21)]

/-- The kind of a scheme. -/
def kindOf (scheme : String) : SchemeKind :=
  if scheme == "file" then .file
  else if (usualPorts.lookup scheme).isSome then .special
  else .other

/-- What stands between the two slashes and the path. The URL of a file may lack a host, and so may
one of another scheme that is neither special nor has credentials. -/
structure Authority where
  user : List Char := []
  password : Option (List Char) := none
  host : Option Host := none
  port : Option Nat := none
  deriving DecidableEq, Repr

namespace Authority

/-- The written form of the credentials. -/
def credentialChars (a : Authority) : List Char :=
  match a.user, a.password with
  | [], none => []
  | user, none => user ++ ['@']
  | user, some password => user ++ ':' :: password ++ ['@']

/-- The written form of host and port. -/
def hostChars (a : Authority) : List Char :=
  (a.host.map Host.chars).getD [] ++
    match a.port with
    | some port => ':' :: Nat.toDigits 10 port
    | none => []

/-- The written form. -/
def chars (a : Authority) : List Char :=
  a.credentialChars ++ a.hostChars

/-- The authority without credentials. -/
def anonymous (a : Authority) : Authority :=
  { a with user := [], password := none }

/-- Whether there are credentials that can be read as text. A password that is no text counts as
missing, and a user name that is no text makes the credentials unreadable. -/
def hasReadableCredentials (a : Authority) : Bool :=
  match Percent.decodeText? a.user with
  | none => false
  | some user => !user.isEmpty || a.password.any fun p => (Percent.decodeText? p).isSome

end Authority

end Url

/-- A URL. -/
structure Url where
  scheme : String
  authority : Option Url.Authority
  path : Url.Path
  query : Option (List Char) := none
  fragment : Option (List Char) := none
  deriving DecidableEq, Repr

namespace Url

/-- The written form of what stands between the scheme and the query. A path that would be taken for
an authority has a dot in front. -/
def middleChars (u : Url) : List Char :=
  match u.authority, u.path with
  | some a, path => '/' :: '/' :: a.chars ++ path.chars
  | none, .segments ([] :: first :: rest) =>
    '/' :: '.' :: Path.chars (.segments ([] :: first :: rest))
  | none, path => path.chars

/-- A part of a URL behind its mark, if there is such a part. -/
def markedChars (mark : Char) : Option (List Char) → List Char
  | some part => mark :: part
  | none => []

/-- The written form, as characters. -/
def chars (u : Url) : List Char :=
  u.scheme.toList ++ ':' :: u.middleChars ++ markedChars '?' u.query ++ markedChars '#' u.fragment

/-- The written form. -/
def text (u : Url) : String :=
  String.ofList u.chars

/-- What a server is asked for: path and query. -/
def target (u : Url) : String :=
  String.ofList (u.path.chars ++ markedChars '?' u.query)

/-- The host, if there is one. -/
def host? (u : Url) : Option Host :=
  u.authority.bind Authority.host

/-- The URL without its credentials, if they can be read. -/
def anonymous (u : Url) : Url :=
  { u with
    authority := u.authority.map fun a => if a.hasReadableCredentials then a.anonymous else a }

end Url

end AlertRelay
