import PreviewServer.Url.Address
import PreviewServer.Url.Domain
import PreviewServer.Url.Path

/-!
# URLs

Reads a complete `http` or `https` URL as browsers do.  Blanks and control characters around it and
line breaks and tabs within it do not count; any number of slashes of either kind may stand before
the authority; the host has to be a domain name or an address, the port a number of two bytes.
What is kept is the host and what a server needs: the path in its normal form and the query.
-/

namespace PreviewServer

/-- What a URL names as its host. -/
inductive Host where
  /-- A domain name in its ASCII form. -/
  | domain (name : String)
  /-- An IPv4 address as one number. -/
  | ipv4 (address : Nat)
  /-- An IPv6 address as eight groups of sixteen bits. -/
  | ipv6 (groups : List Nat)
  deriving DecidableEq, Repr

/-- A complete URL of a web resource. -/
structure Url where
  /-- The host. -/
  host : Host
  /-- The port, if one is written. -/
  port : Option Nat
  /-- The segments of the path, in normal form and escaped; there is at least one. -/
  segments : List Url.Segment
  /-- The query, escaped. -/
  query : Option (List Char)

namespace Url

/-! ### The authority -/

/-- Reads a host. -/
def host? (text : List Char) : Option Host :=
  match text with
  | '[' :: inner =>
    if inner.getLast? = some ']' then (ipv6? inner.dropLast).map .ipv6 else none
  | text =>
    match Utf8.decode? (Percent.decode (Utf8.encode (String.ofList text))) with
    | none => none
    | some name =>
      match domainToAscii? name.toList with
      | none => none
      | some [] => none
      | some name =>
        -- A name whose last label is a number has to be an address.
        if endsInNumber name then (ipv4? name).map .ipv4 else some (.domain (String.ofList name))

/-- Reads a port; no digits at all name no port. -/
def port? (digits : List Char) : Option (Option Nat) :=
  if digits = [] then some none
  else if digits.all Char.isDigit then
    match numberInBase? 10 digits with
    | some n => if n < portLimit then some (some n) else none
    | none => none
  else none

/-- The text without its part up to the last at sign, which names a user. -/
def withoutUser (authority : List Char) : List Char :=
  (authority.reverse.takeWhile (· ≠ '@')).reverse

/-- The host in an authority and what follows the colon after it.  Colons in square brackets belong
to the host. -/
def cutPort (inBrackets : Bool) : List Char → List Char × List Char
  | [] => ([], [])
  | c :: cs =>
    if c = ':' ∧ !inBrackets then ([], cs)
    else
      let inBrackets := if c = '[' then true else if c = ']' then false else inBrackets
      let (host, port) := cutPort inBrackets cs
      (c :: host, port)

/-! ### The whole URL -/

/-- Whether a character ends the authority. -/
def endsAuthority (c : Char) : Bool := c = '/' || c = '\x5c' || c = '?' || c = '#'

/-- Whether a character ends the path. -/
def endsPath (c : Char) : Bool := c = '?' || c = '#'

/-- The text that is read: blanks and control characters at both ends and line breaks and tabs
anywhere do not count. -/
def clean (text : List Char) : List Char :=
  let isOuter := fun c : Char => c.toNat ≤ 0x20
  let inner := ((text.dropWhile isOuter).reverse.dropWhile isOuter).reverse
  inner.filter fun c => c ≠ '\t' ∧ c ≠ '\n' ∧ c ≠ '\r'

/-- The schemes of the URLs that are read. -/
def schemes : List (List Char) := ["http:".toList, "https:".toList]

/-- The text behind the scheme, if it is one of those that are read. -/
def behindScheme? (text : List Char) : Option (List Char) :=
  (schemes.find? (·.isPrefixOf text)).map fun s => text.drop s.length

/-- Reads a URL. -/
def parse? (text : List Char) : Option Url :=
  match behindScheme? (clean text) with
  | none => none
  | some text =>
    -- However many slashes there are, the authority comes next.
    let text := text.dropWhile fun c => c = '/' || c = '\x5c'
    let authority := text.takeWhile (!endsAuthority ·)
    let rest := text.dropWhile (!endsAuthority ·)
    let (hostText, portText) := cutPort false (withoutUser authority)
    match host? hostText, port? portText with
    | some host, some port =>
      let pathText := rest.takeWhile (!endsPath ·)
      let query :=
        match rest.dropWhile (!endsPath ·) with
        | '?' :: q =>
          some (Percent.encodeBytes Percent.query (Utf8.encode (String.ofList (before '#' q))))
        | _ => none
      some { host := host, port := port, segments := readPath pathText, query := query }
    | _, _ => none

end Url

end PreviewServer
