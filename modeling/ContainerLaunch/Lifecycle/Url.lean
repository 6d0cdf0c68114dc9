import ContainerLaunch.Host.Ip
import ContainerLaunch.Text.Quoted
/-!
# URLs

A URL is taken apart into scheme, authority and path. What stands in brackets in the authority has to be
an address; an authority must hold no character that turns into a separator once it is put into its
compatibility form.
-/

namespace ContainerLaunch.Lifecycle

/-- Why a URL cannot be taken apart. -/
inductive UrlError where
  | unbalancedBrackets
  | notAddress (host : String)
  | bracketedIPv4
  | notFutureAddress
  | ambiguousAuthority (authority : String)
  deriving DecidableEq, Repr

/-- The wording of a URL error. -/
def UrlError.message : UrlError → String
  | .unbalancedBrackets => "Invalid IPv6 URL"
  | .notAddress host => Text.quoted host ++ " does not appear to be an IPv4 or IPv6 address"
  | .bracketedIPv4 => "An IPv4 address cannot be in brackets"
  | .notFutureAddress => "IPvFuture address is invalid"
  | .ambiguousAuthority authority =>
    "netloc '" ++ authority ++ "' contains invalid characters under NFKC normalization"

/-- The parts of a URL that count here. -/
structure Url where
  scheme : String
  authority : String
  path : String
  deriving DecidableEq, Repr

namespace Url

/-! ## Brackets and characters -/

/-- An address of a future version: `v`, its number, a point, and something. -/
def isFutureAddress (s : List Char) : Bool :=
  match s with
  | 'v' :: rest =>
    let version := rest.takeWhile Text.isHexDigit
    match rest.dropWhile Text.isHexDigit with
    | '.' :: address => !version.isEmpty && !address.isEmpty
    | _ => false
  | _ => false

/-- Checks what stands in brackets. -/
def checkBracketed (host : List Char) : Except UrlError Unit :=
  if host.head? == some 'v' then
    if isFutureAddress host then .ok () else .error .notFutureAddress
  else if Host.isIPv4 host then .error .bracketedIPv4
  else if Host.isIPv6 host then .ok ()
  else .error (.notAddress (String.ofList host))

/-- The part of an authority after the user. -/
def afterUser (authority : List Char) : List Char :=
  (authority.reverse.takeWhile (· != '@')).reverse

/-- The host that the brackets of an authority are about. Nothing may stand between the user and an
opening bracket, and only a port after the closing one. Brackets that stand before the user alone are
about the host too. -/
def bracketedHost (authority : List Char) : Except UrlError (List Char) :=
  let address := afterUser authority
  match address.dropWhile (· != '[') with
  | '[' :: inner =>
    let rest := (inner.dropWhile (· != ']')).drop 1
    if address.head? == some '[' && (rest.isEmpty || rest.head? == some ':') then
      .ok (inner.takeWhile (· != ']'))
    else .error .unbalancedBrackets
  | _ => .ok (address.takeWhile (· != ':'))

/-- Checks the brackets of an authority. -/
def checkBrackets (authority : List Char) : Except UrlError Unit :=
  match authority.contains '[', authority.contains ']' with
  | false, false => .ok ()
  | true, true => do checkBracketed (← bracketedHost authority)
  | _, _ => .error .unbalancedBrackets

/-- The characters whose compatibility form holds a slash, question mark, hash, at sign or colon. -/
def ambiguousCodes : List Nat :=
  [0x2047, 0x2048, 0x2049, 0x2100, 0x2101, 0x2105, 0x2106, 0x2a74, 0xfe13, 0xfe16, 0xfe55, 0xfe56,
    0xfe5f, 0xfe6b, 0xff03, 0xff0f, 0xff1a, 0xff1f, 0xff20]

/-- Checks the characters of an authority. -/
def checkAuthority (authority : List Char) : Except UrlError Unit :=
  if authority.any fun c => ambiguousCodes.contains c.toNat then
    .error (.ambiguousAuthority (String.ofList authority))
  else .ok ()

/-! ## Parts -/

/-- A control or the space: none of them counts at the start of a URL. -/
def isSkipped (c : Char) : Bool := c.toNat ≤ 0x20

/-- A character that counts nowhere in a URL. -/
def isDropped (c : Char) : Bool := c == '\t' || c == '\r' || c == '\n'

/-- The URL without what does not count. -/
def clean (url : List Char) : List Char := (url.dropWhile isSkipped).filter (!isDropped ·)

/-- A character of a scheme. -/
def isSchemeChar (c : Char) : Bool := c.isAlphanum || c == '+' || c == '-' || c == '.'

/-- The scheme in lower case, and the rest. A text before a colon that is no scheme belongs to the
rest. -/
def splitScheme (url : List Char) : List Char × List Char :=
  let before := url.takeWhile (· != ':')
  match url.dropWhile (· != ':') with
  | ':' :: rest =>
    match before with
    | first :: _ =>
      if first.isAlpha && before.all isSchemeChar then (before.map Char.toLower, rest)
      else ([], url)
    | [] => ([], url)
  | _ => ([], url)

/-- A character that ends the authority. -/
def endsAuthority (c : Char) : Bool := c == '/' || c == '?' || c == '#'

/-- The authority and the rest; without two slashes there is none. -/
def splitAuthority (url : List Char) : Option (List Char) × List Char :=
  match url with
  | '/' :: '/' :: rest =>
    (some (rest.takeWhile (!endsAuthority ·)), rest.dropWhile (!endsAuthority ·))
  | url => (none, url)

/-- Takes a URL apart. -/
def parse (text : String) : Except UrlError Url := do
  let (scheme, rest) := splitScheme (clean text.toList)
  let (authority, rest) := splitAuthority rest
  match authority with
  | some authority => checkBrackets authority
  | none => .ok ()
  let authority := authority.getD []
  checkAuthority authority
  return {
    scheme := String.ofList scheme
    authority := String.ofList authority
    path := String.ofList ((rest.takeWhile (· != '#')).takeWhile (· != '?')) }

end Url

end ContainerLaunch.Lifecycle
