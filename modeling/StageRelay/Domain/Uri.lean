import StageRelay.Domain.Host
import StageRelay.Text.Blank

/-!
# URIs

Of a URI only the host is of interest, but a URI that is broken before its path has none. In the
schemes that are known to name servers, slashes of both kinds count as slashes, and any number of
them may stand before the host.
-/

namespace StageRelay.Uri

/-- What is known about a scheme. -/
inductive Scheme where
  | server
  | file
  | other
deriving DecidableEq, Repr

/-- The schemes that are known to name servers. -/
def serverSchemes : List (List Char) :=
  ["http".toList, "https".toList, "ws".toList, "wss".toList, "ftp".toList]

/-- What is known about the scheme of a name. -/
def Scheme.ofName (cs : List Char) : Scheme :=
  if serverSchemes.contains cs then .server else if cs = "file".toList then .file else .other

/-- The text without controls and blanks at its ends, and without tabs and line ends anywhere. -/
def clean (cs : List Char) : List Char :=
  let isEdge (c : Char) : Bool := c ≤ ' '
  (Text.dropEnd isEdge (cs.dropWhile isEdge)).filter fun c ↦ !(['\t', '\n', '\r'].contains c)

/-- Reads the name of a scheme and the colon after it. -/
def readScheme (cs : List Char) : Option (Scheme × List Char) :=
  let isNext (c : Char) : Bool := c.isAlphanum || ['+', '-', '.'].contains c
  if !cs.head?.any Char.isAlpha then none
  else
    match cs.dropWhile isNext with
    | ':' :: rest => some (.ofName (Text.lower (cs.takeWhile isNext)), rest)
    | _ => none

/-- Whether a character ends the authority of a URI. -/
def endsAuthority (s : Scheme) (c : Char) : Bool :=
  ['/', '?', '#'].contains c || (s != .other && c = '\\')

/-- The authority without the credentials before its last at sign. -/
def dropCredentials (cs : List Char) : List Char :=
  (cs.reverse.takeWhile (· ≠ '@')).reverse

/-- The host and what comes after it; a colon between brackets belongs to the host. -/
def splitHost (inBrackets : Bool) : List Char → List Char × List Char
  | [] => ([], [])
  | c :: cs =>
    if c = ':' && !inBrackets then ([], c :: cs)
    else
      let inside := if c = '[' then true else if c = ']' then false else inBrackets
      let (host, rest) := splitHost inside cs
      (c :: host, rest)

/-- The limit of the numbers that may follow a host. -/
def numberLimit : Nat := 65536

/-- Whether what comes after a host is a colon with a number that is not too large, or nothing. -/
def isNumbered : List Char → Bool
  | [] => true
  | _ :: cs =>
    let digits := cs.takeWhile Char.isDigit
    digits.foldl (fun n c ↦ 10 * n + (c.toNat - '0'.toNat)) 0 < numberLimit
      && (cs.dropWhile Char.isDigit).head?.all (· = '\\')

/-- The host of an authority. -/
def hostOf? (s : Scheme) (authority : List Char) : Option (List Char) :=
  let (host, rest) := splitHost false (dropCredentials authority)
  if host.isEmpty || !isNumbered rest then none
  else if s = .server then Host.ofServer? host
  else Host.ofOther? host

/-- Whether a text is the name of a drive. -/
def isDrive : List Char → Bool
  | [c, d] => c.isAlpha && (d = ':' || d = '|')
  | _ => false

/-- The first part of a path. -/
def firstPart (path : List Char) : List Char :=
  let rest := match path with
    | '/' :: rest => rest
    | '\\' :: rest => rest
    | rest => rest
  rest.takeWhile fun c ↦ !endsAuthority .file c

/-- The host of a file; a file on this host or on a drive has none. -/
def fileHost? (cs : List Char) : Option (List Char) := do
  let host := cs.takeWhile fun c ↦ !endsAuthority .file c
  let path := cs.dropWhile fun c ↦ !endsAuthority .file c
  if host.isEmpty || isDrive host || isDrive (firstPart path) then none
  let name ← Host.ofServer? host
  if name = "localhost".toList then none else some name

/-- The host of a URI. -/
def host? (uri : List Char) : Option (List Char) := do
  let (scheme, rest) ← readScheme (clean uri)
  let isSlash (c : Char) : Bool := c = '/' || c = '\\'
  match scheme with
  | .server =>
    hostOf? scheme ((rest.dropWhile isSlash).takeWhile fun c ↦ !endsAuthority scheme c)
  | .file =>
    match rest with
    | a :: b :: rest => if isSlash a && isSlash b then fileHost? rest else none
    | _ => none
  | .other =>
    match rest with
    | '/' :: '/' :: rest => hostOf? scheme (rest.takeWhile fun c ↦ !endsAuthority scheme c)
    | _ => none

end StageRelay.Uri
