import QueryImpact.Cypher.Host

/-!
# Addresses of graph databases

An address is a URL: a scheme, then for most addresses a host and the number of an endpoint.
Blanks and control characters around it and tabs and line breaks inside it do not count.  An
address without a scheme or without a host is read again as what follows the scheme `bolt`.  By
some schemes the connection is secure, and the host has to be able to prove who it is.
-/

namespace QueryImpact.Cypher

/-- Why an address is refused. -/
inductive AddressFault where
  /-- There is no scheme. -/
  | relative
  /-- The host is missing or refused. -/
  | host (fault : HostFault)
  /-- The endpoint is no number of 16 bits. -/
  | invalidEndpoint
  /-- No connection is made by the scheme. -/
  | unsupportedScheme (scheme : String)
  /-- The host cannot prove who it is. -/
  | invalidServerName (name : String)
deriving DecidableEq

/-- The wording of a host fault. -/
def HostFault.message : HostFault → String
  | empty => "empty host"
  | invalidNumber => "invalid IPv4 address"
  | invalidBrackets => "invalid IPv6 address"
  | invalidCharacter => "invalid domain character"
  | invalidDomain => "invalid international domain name"

/-- The wording of an address fault. -/
def AddressFault.message : AddressFault → String
  | relative => "Invalid URI: relative URL without a base"
  | host fault => "Invalid URI: " ++ fault.message
  | invalidEndpoint => "Invalid URI: invalid port number"
  | unsupportedScheme scheme => "Unsupported URI scheme: " ++ scheme
  | invalidServerName name => "Invalid DNS name: " ++ name

/-- How the part after a scheme is read. -/
inductive SchemeClass where
  /-- A scheme of files, which need no host. -/
  | file
  /-- A scheme whose host is a domain name that must be there. -/
  | domain
  /-- Any other scheme. -/
  | plain
deriving DecidableEq

namespace SchemeClass

/-- The class of a scheme. -/
def ofScheme (scheme : String) : SchemeClass :=
  if scheme = "file" then file
  else if scheme ∈ ["http", "https", "ws", "wss", "ftp"] then domain
  else plain

/-- Whether a backslash counts as a slash. -/
def backslashDivides : SchemeClass → Bool
  | plain => false
  | _ => true

/-- Whether a character ends the part with the host. -/
def endsAuthority (kind : SchemeClass) (c : Char) : Bool :=
  c = '/' || c = '?' || c = '#' || (c = '\\' && kind.backslashDivides)

end SchemeClass

/-- A scheme and the host, when there is one. -/
structure Address where
  /-- The scheme, in lower case. -/
  scheme : String
  /-- The host. -/
  host : Option Host
deriving DecidableEq

namespace Address

/-- Blanks and control characters of ASCII. -/
def isEdge (c : Char) : Bool :=
  c.toNat ≤ 0x20

/-- Tabs and line breaks. -/
def isIgnored (c : Char) : Bool :=
  c = '\t' || c = '\n' || c = '\r'

/-- What counts of a text. -/
def significant (text : String) : List Char :=
  (((text.toList.dropWhile isEdge).reverse.dropWhile isEdge).reverse).filter (!isIgnored ·)

/-- Whether a character may stand in a scheme. -/
def isSchemeCharacter (c : Char) : Bool :=
  c.isAlphanum || c = '+' || c = '-' || c = '.'

/-- The scheme of a text, and what follows its colon. -/
def scheme? (chars : List Char) : Option (String × List Char) := do
  let (scheme, rest) ← Text.cutFirst ':' chars
  let first ← scheme.head?
  if first.isAlpha && scheme.all isSchemeCharacter then
    some (String.ofList (scheme.map Char.toLower), rest)
  else none

/-! ## Hosts -/

/-- Divide a host from what follows it: the first colon outside of brackets. -/
def hostLength (inBrackets : Bool) : List Char → Nat
  | [] => 0
  | c :: rest =>
      if c = ':' && !inBrackets then 0
      else hostLength (c = '[' || (inBrackets && c != ']')) rest + 1

/-- Check the digits of an endpoint; a backslash ends them. -/
def checkEndpoint (chars : List Char) : Except AddressFault Unit :=
  let digits := chars.takeWhile Char.isDigit
  match chars.dropWhile Char.isDigit with
  | [] => if Nat.ofDigitChars 10 digits 0 < 65536 then .ok () else .error .invalidEndpoint
  | c :: _ =>
      if c = '\\' && Nat.ofDigitChars 10 digits 0 < 65536 then .ok () else .error .invalidEndpoint

/-- Read the text of a host. -/
def readHost (kind : SchemeClass) (chars : List Char) : Except AddressFault Host :=
  (if kind = .plain then Host.ofText chars else Host.ofDomainText chars).mapError .host

/-- Read a host and its endpoint. -/
def hostAndEndpoint (kind : SchemeClass) (chars : List Char) :
    Except AddressFault (Option Host) := do
  let length := hostLength false chars
  let text := chars.take length
  let rest := chars.drop length
  if text = [] && (kind != .plain || rest != []) then throw (.host .empty)
  let host ← readHost kind text
  checkEndpoint (rest.drop 1)
  return if text = [] then none else some host

/-- Whether a text names a user: a colon alone does not. -/
def namesUser (user : List Char) : Bool :=
  user != [] && user != [':']

/-- Read the part with the host: the user in front of the last at-sign is left out.  After a user
there has to be a host. -/
def authority (kind : SchemeClass) (chars : List Char) :
    Except AddressFault (Option Host) := do
  let inside := chars.takeWhile (!kind.endsAuthority ·)
  let following := chars.dropWhile (!kind.endsAuthority ·)
  match Text.cutLast '@' inside with
  | none => hostAndEndpoint kind inside
  | some (user, text) =>
      if user = [] && text = [] && following != [] then throw (.host .empty)
      match ← hostAndEndpoint kind text with
      | none => if namesUser user then throw (.host .empty) else return none
      | some host => return some host

/-! ## Hosts of files -/

/-- Whether a text is a drive letter. -/
def isDriveLetter : List Char → Bool
  | [letter, mark] => letter.isAlpha && (mark = ':' || mark = '|')
  | _ => false

/-- Replace the percent codes of dots. -/
def undot : List Char → List Char
  | '%' :: '2' :: 'e' :: rest => '.' :: undot rest
  | '%' :: '2' :: 'E' :: rest => '.' :: undot rest
  | c :: rest => c :: undot rest
  | [] => []

/-- Whether the path that the segments lead to, from a path that is given with the last segment
first, passes a drive letter at its start.  Two dots lead back, though never over a drive letter. -/
def startsAtDrive (path : List (List Char)) : List (List Char) → Bool
  | [] => false
  | segment :: rest =>
      if undot segment = ['.'] then startsAtDrive path rest
      else if undot segment = ['.', '.'] then
        startsAtDrive (if path.head?.any isDriveLetter then path else path.tail) rest
      else (path.isEmpty && isDriveLetter segment) || startsAtDrive (segment :: path) rest

/-- The segments of the path of a file. -/
def fileSegments (chars : List Char) : List (List Char) :=
  let path := chars.takeWhile fun c => !(c = '?' || c = '#')
  Text.pieces '/' ((path.map fun c => if c = '\\' then '/' else c).drop 1)

/-- Read the host of a file, which is left out when it is this computer or when the path starts at
a drive. -/
def fileHost (chars : List Char) : Except AddressFault (Option Host) := do
  let text := chars.takeWhile (!SchemeClass.file.endsAuthority ·)
  if text = [] || isDriveLetter text then return none
  let host ← readHost .file text
  if host = .name "localhost" || startsAtDrive [] (fileSegments (chars.drop text.length)) then
    return none
  else return some host

/-- Read a whole address. -/
def parse (text : String) : Except AddressFault Address := do
  let some (scheme, rest) := scheme? (significant text) | throw .relative
  match SchemeClass.ofScheme scheme, rest with
  | .domain, rest =>
      let afterSlashes := rest.dropWhile fun c => c = '/' || c = '\\'
      return ⟨scheme, ← authority .domain afterSlashes⟩
  | .plain, '/' :: '/' :: rest => return ⟨scheme, ← authority .plain rest⟩
  | .file, first :: second :: rest =>
      if (first = '/' || first = '\\') && (second = '/' || second = '\\') then
        return ⟨scheme, ← fileHost rest⟩
      else return ⟨scheme, none⟩
  | _, _ => return ⟨scheme, none⟩

/-- Read an address that may lack its scheme. -/
def parseWithDefault (text : String) : Except AddressFault Address :=
  match parse text with
  | .ok ⟨scheme, some host⟩ => .ok ⟨scheme, some host⟩
  | .ok ⟨_, none⟩ => parse ("bolt://" ++ text)
  | .error .relative => parse ("bolt://" ++ text)
  | .error fault => .error fault

/-- The schemes by which a connection is made. -/
def schemes : List String :=
  ["bolt", "bolt+s", "bolt+ssc", "neo4j", "neo4j+s", "neo4j+ssc"]

/-- The schemes by which the connection is secure. -/
def secureSchemes : List String :=
  ["bolt+s", "bolt+ssc", "neo4j+s", "neo4j+ssc"]

/-- Check that the host can prove who it is, where the connection is secure. -/
def checkServer (address : Address) : Except AddressFault Unit :=
  match address.host with
  | some host =>
      if address.scheme ∈ secureSchemes && !host.canProveItself then
        .error (.invalidServerName host.text)
      else .ok ()
  | none => .ok ()

/-- The address that a text stands for, when a connection to it can be tried. -/
def ofText (text : String) : Except AddressFault Address := do
  let address ← parseWithDefault text
  if address.scheme ∉ schemes then throw (.unsupportedScheme address.scheme)
  address.checkServer
  return address

end Address

end QueryImpact.Cypher
