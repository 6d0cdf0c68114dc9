import ContainerLaunch.Host.Ip
import ContainerLaunch.Host.Name
import ContainerLaunch.Lifecycle.Url
import ContainerLaunch.Text.Case
import ContainerLaunch.Text.Numeral
import ContainerLaunch.Text.Percent
import ContainerLaunch.Text.Pieces
/-!
# Addresses on the web

An address is kept in its normal form: the scheme in lower case, the host in ASCII, the port only if
the scheme does not stand for it, the path without its dots, and everything escaped that may not stand
as it is. An address that is made from another one, such as the one of a request below a base, is
brought to its normal form again.
-/

namespace ContainerLaunch.Lifecycle

/-- The parts of an address that have a bound. -/
inductive AddressPart where
  | scheme | authority | path | query | fragment
  deriving DecidableEq, Repr

/-- The name of a part. -/
def AddressPart.name : AddressPart → String
  | .scheme => "scheme"
  | .authority => "authority"
  | .path => "path"
  | .query => "query"
  | .fragment => "fragment"

/-- Why a text is no address, or nothing can be asked for there. -/
inductive AddressError where
  | tooLong
  | control (c : Char) (position : Nat)
  | notIPv4 (host : String)
  | notIPv6 (host : String)
  | notName (host : String)
  | notPort (port : String)
  | partTooLong (part : AddressPart)
  /-- The host cannot be read back. -/
  | unreadableHost (e : Host.HostError)
  /-- The host and the port cannot be sent, because they are not ASCII. -/
  | notAscii (authority : String)
  deriving DecidableEq, Repr

namespace AddressError

/-- An ASCII character. -/
def isAscii (c : Char) : Bool := c.toNat < 128

/-- The wording for a text that should be ASCII: where the first other characters stand. -/
def asciiMessage (s : List Char) : String :=
  let start := (s.takeWhile isAscii).length
  let others := (s.dropWhile isAscii).takeWhile (!isAscii ·)
  let place := match others with
    | [c] =>
      "character '" ++ String.ofList (Text.codePointEscape c) ++ "' in position " ++ toString start
    | _ =>
      "characters in position " ++ toString start ++ "-" ++ toString (start + others.length - 1)
  "'ascii' codec can't encode " ++ place ++ ": ordinal not in range(128)"

/-- The wording of an address error. -/
def message : AddressError → String
  | .tooLong => "URL too long"
  | .control c position =>
    "Invalid non-printable ASCII character in URL, " ++ Text.quoted (String.ofList [c]) ++
      " at position " ++ toString position ++ "."
  | .notIPv4 host => "Invalid IPv4 address: " ++ Text.quoted host
  | .notIPv6 host => "Invalid IPv6 address: " ++ Text.quoted host
  | .notName host => "Invalid IDNA hostname: " ++ Text.quoted host
  | .notPort port => "Invalid port: " ++ Text.quoted port
  | .partTooLong part => "URL component '" ++ part.name ++ "' too long"
  | .unreadableHost e => e.message
  | .notAscii authority => asciiMessage authority.toList

end AddressError

/-- The parts of an address as they are written. -/
structure AddressParts where
  scheme : List Char
  authority : List Char
  path : List Char
  query? : Option (List Char)
  fragment? : Option (List Char)
  deriving DecidableEq, Repr

/-- An address in normal form. An address of sixteen bytes is a host without brackets here. -/
structure Address where
  scheme : List Char
  user : List Char
  host : List Char
  port? : Option Int
  path : List Char
  query? : Option (List Char)
  fragment? : Option (List Char)
  deriving DecidableEq, Repr

/-- An address as it reads, in the parts that say where a request goes. -/
structure Target where
  scheme : String
  host : String
  port? : Option Int
  path : String
  deriving DecidableEq, Repr

/-- The length that no address, and no part of one, may exceed. -/
def maxAddressLength : Nat := 65536

namespace AddressParts

/-- Takes a text apart. -/
def ofText (text : List Char) : AddressParts :=
  let (scheme, rest) := Url.splitScheme text
  let (authority, rest) := Url.splitAuthority rest
  let (rest, fragment?) := Text.cut '#' rest
  let (path, query?) := Text.cut '?' rest
  { scheme, authority := authority.getD [], path, query?, fragment? }

/-- The first part that is too long. -/
def tooLong? (p : AddressParts) : Option AddressPart :=
  let sized : List (AddressPart × List Char) :=
    [(.scheme, p.scheme), (.authority, p.authority), (.path, p.path), (.query, p.query?.getD []),
      (.fragment, p.fragment?.getD [])]
  (sized.find? fun part => maxAddressLength < part.2.length).map (·.1)

/-- The host of what follows the user, and what follows the host: a text in brackets, or everything
before a colon. -/
def splitHost (address : List Char) : List Char × List Char :=
  if address.head? == some '[' && address.contains ']' then
    let rest := (address.reverse.takeWhile (· != ']')).reverse
    (address.take (address.length - rest.length), rest)
  else (address.takeWhile (· != ':'), address.dropWhile (· != ':'))

/-- The user, the host and the port of an authority. -/
def splitAuthority (authority : List Char) : List Char × List Char × List Char :=
  let address := Url.afterUser authority
  let (host, rest) := splitHost address
  let port := match rest with
    | ':' :: port => port
    | rest => rest
  (authority.take (authority.length - address.length - 1), host, port)

end AddressParts

namespace Address

/-! ## Characters that may stand as they are -/

/-- A visible ASCII character that is none of some others. -/
def isVisibleBut (others : List Char) (c : Char) : Bool :=
  0x20 < c.toNat && c.toNat < 0x7f && !others.contains c

/-- What may stand in a fragment. -/
def isFragmentChar : Char → Bool := isVisibleBut ['\x22', '<', '>', '\x60']

/-- What may stand in a query. -/
def isQueryChar : Char → Bool := isVisibleBut ['\x22', '#', '<', '>']

/-- What may stand in a path. -/
def isPathChar (c : Char) : Bool :=
  isQueryChar c && !(['?', '\x60', '\x7b', '\x7d'] : List Char).contains c

/-- What may stand in the user. -/
def isUserChar (c : Char) : Bool :=
  isPathChar c && !(['/', ';', '=', '@', '[', '\\', ']', '^', '|'] : List Char).contains c

/-- What may stand in the name of a host. -/
def isHostChar : Char → Bool :=
  isVisibleBut ['#', '/', ':', '<', '>', '?', '@', '[', ']', '^']

/-! ## Normal forms of the parts -/

/-- The port that a scheme stands for. -/
def defaultPort? (scheme : List Char) : Option Int :=
  match String.ofList scheme with
  | "http" | "ws" => some 80
  | "https" | "wss" => some 443
  | "ftp" => some 21
  | _ => none

/-- The port, unless the scheme stands for it. -/
def normalPort (scheme port : List Char) : Except AddressError (Option Int) :=
  if port.isEmpty then .ok none
  else match Text.wholeNumber? port with
    | some n => .ok (if defaultPort? scheme = some n then none else some n)
    | none => .error (.notPort (String.ofList port))

/-- The lengths of the runs of digits between the other characters. -/
def digitRuns (s : List Char) : List Nat :=
  s.foldr (fun c runs =>
    if c.isDigit then match runs with
      | run :: more => (run + 1) :: more
      | [] => [1]
    else 0 :: runs) [0]

/-- Four numbers with one character between any two of them, which may be a digit too: a run of digits
is as many numbers as one wants, if each of them but the last takes a digit for itself and one for the
character after it. -/
def isFourNumbers (s : List Char) : Bool :=
  let runs := digitRuns s
  !runs.contains 0 && runs.length ≤ 4 && 4 ≤ runs.length + runs.foldr (fun run n => (run - 1) / 2 + n) 0

/-- The host in ASCII: what looks like an address of four bytes or stands in brackets has to be an
address, everything else is a name. -/
def normalHost (host : List Char) : Except AddressError (List Char) :=
  if host.isEmpty then .ok []
  else if isFourNumbers host then
    if Host.isIPv4 host then .ok host else .error (.notIPv4 (String.ofList host))
  else if host.head? == some '[' && host.getLast? == some ']' then
    let inner := (host.drop 1).dropLast
    if Host.isIPv6 inner then .ok inner else .error (.notIPv6 (String.ofList host))
  else if host.all AddressError.isAscii then
    .ok (Text.Percent.encode isHostChar (host.map Char.toLower))
  else (Host.Name.encode (Text.lower host)).mapError fun _ => .notName (String.ofList host)

/-- Adds a segment to those of a path, which are given back to front. One dot says nothing, two dots
take the last segment back, but not the nothing before the first slash. -/
def addSegment (segments : List (List Char)) (segment : List Char) : List (List Char) :=
  if segment = ['.'] then segments
  else if segment = ['.', '.'] then if segments = [[]] then segments else segments.drop 1
  else segment :: segments

/-- The path without segments of dots. -/
def resolveDots (path : List Char) : List Char :=
  ['/'].intercalate ((Text.pieces '/' path).foldl addSegment []).reverse

/-- The address of some parts. Dots mean something only where there is more than a path. -/
def normalize (p : AddressParts) : Except AddressError Address := do
  let scheme := p.scheme.map Char.toLower
  let (user, host, port) := AddressParts.splitAuthority p.authority
  let host ← normalHost host
  let port? ← normalPort scheme port
  let isPath := scheme.isEmpty && user.isEmpty && host.isEmpty && port?.isNone
  return {
    scheme, host, port?
    user := Text.Percent.encode isUserChar user
    path := Text.Percent.encode isPathChar (if isPath then p.path else resolveDots p.path)
    query? := p.query?.map (Text.Percent.encode isQueryChar)
    fragment? := p.fragment?.map (Text.Percent.encode isFragmentChar) }

/-! ## Addresses -/

/-- A control of ASCII. -/
def isControl (c : Char) : Bool := c.toNat < 0x20 || c.toNat == 0x7f

/-- The address that a text stands for. -/
def ofText (text : List Char) : Except AddressError Address :=
  if maxAddressLength < text.length then .error .tooLong
  else
    match text.dropWhile (!isControl ·) with
    | c :: _ => .error (.control c (text.takeWhile (!isControl ·)).length)
    | [] => normalize (.ofText text)

/-- The host as it stands before a port. -/
def bracketed (host : List Char) : List Char :=
  if host.contains ':' then '[' :: host ++ [']'] else host

/-- The host and the port. -/
def hostAndPort (a : Address) : List Char :=
  bracketed a.host ++ (a.port?.map fun port => ':' :: (toString port).toList).getD []

/-- The parts of an address. -/
def parts (a : Address) : AddressParts where
  scheme := a.scheme
  authority := (if a.user.isEmpty then [] else a.user ++ ['@']) ++ a.hostAndPort
  path := a.path
  query? := a.query?
  fragment? := a.fragment?

/-- The address of parts that were put together. -/
def ofParts (p : AddressParts) : Except AddressError Address :=
  match p.tooLong? with
  | some part => .error (.partTooLong part)
  | none => normalize p

/-- The path with the query after it. -/
def location (a : Address) : List Char :=
  (if a.path.isEmpty then ['/'] else a.path) ++ (a.query?.map ('?' :: ·)).getD []

/-- The address with another path and query. -/
def withLocation (a : Address) (location : List Char) : Except AddressError Address :=
  let (path, query?) := Text.cut '?' location
  ofParts { a.parts with path, query? }

/-- The address with another query. -/
def withQuery (a : Address) (query : List Char) : Except AddressError Address :=
  ofParts { a.parts with query? := some query }

/-- The address with a slash at the end of its path and query, if there is none yet. -/
def asBase (a : Address) : Except AddressError Address :=
  if a.location.getLast? == some '/' then .ok a else a.withLocation (a.location ++ ['/'])

/-- The address of something below a base. -/
def below (a : Address) (name : List Char) : Except AddressError Address :=
  a.withLocation (a.location ++ name)

/-- The host as it reads. -/
def readableHost (a : Address) : Except AddressError (List Char) :=
  if ['x', 'n', '-', '-'].isPrefixOf a.host then
    (Host.Name.decode a.host).mapError .unreadableHost
  else .ok a.host

/-- Where a request to an address goes. A host has to be sent with it, in ASCII. -/
def target (a : Address) : Except AddressError Target := do
  let host ← a.readableHost
  if !host.isEmpty && !a.hostAndPort.all AddressError.isAscii then
    throw (.notAscii (String.ofList a.hostAndPort))
  return {
    scheme := String.ofList a.scheme
    host := String.ofList host
    port? := a.port?
    path := String.ofList (Text.Percent.decode (if a.path.isEmpty then ['/'] else a.path)) }

end Address

end ContainerLaunch.Lifecycle
