import QueryImpact.Cypher.HostNumber
import QueryImpact.DomainName.Name
import QueryImpact.DomainName.ServerName

/-!
# Hosts

A host is a name or a number.  Some schemes take any text for a name, and others take domain names
only.  A name whose last part is a number is a number.
-/

namespace QueryImpact.Cypher

/-- Why the text of a host is refused. -/
inductive HostFault where
  /-- Nothing is left of the name. -/
  | empty
  /-- The host ends in a number, and is no number of 32 bits. -/
  | invalidNumber
  /-- A host in brackets is no number of 128 bits. -/
  | invalidBrackets
  /-- The host has a character that hosts cannot have. -/
  | invalidCharacter
  /-- The host is no domain name. -/
  | invalidDomain
deriving DecidableEq

/-- A host. -/
inductive Host where
  /-- A host with a name. -/
  | name (text : String)
  /-- A host with a number of 32 bits. -/
  | number (value : Nat)
  /-- A host with a number of 128 bits, as it is written in brackets. -/
  | bracketed (text : String)
deriving DecidableEq

namespace Host

/-- A host in brackets, without the opening one. -/
def ofBrackets (chars : List Char) : Except HostFault Host :=
  match chars.reverse with
  | ']' :: inner =>
      if HostNumber.isGrouped inner.reverse then .ok (bracketed (String.ofList inner.reverse))
      else .error .invalidBrackets
  | _ => .error .invalidBrackets

/-- Whether no host can have the character. -/
def isForbidden (c : Char) : Bool :=
  c ∈ ['\x00', '\t', '\n', '\r', ' ', '#', '/', ':', '<', '>', '?', '@', '[', '\\', ']', '^', '|']

/-- The host of a scheme that takes any name. -/
def ofText (chars : List Char) : Except HostFault Host :=
  match chars with
  | '[' :: rest => ofBrackets rest
  | _ =>
      if chars.any isForbidden then .error .invalidCharacter
      else .ok (name (String.ofList (Text.percentEncode chars)))

/-- The host with a domain name that has been read. -/
def ofDomainName (domain : List Char) : Except HostFault Host :=
  if domain = [] then .error .empty
  else if HostNumber.endsInNumber domain then
    match HostNumber.number? domain with
    | some value => .ok (number value)
    | none => .error .invalidNumber
  else .ok (name (String.ofList domain))

/-- The host of a scheme that takes domain names, which may have percent codes. -/
def ofDomainText (chars : List Char) : Except HostFault Host :=
  match chars with
  | '[' :: rest => ofBrackets rest
  | _ =>
      match (Text.percentDecode? chars).bind DomainName.read? with
      | some domain => ofDomainName domain
      | none => .error .invalidDomain

/-- Whether a host can be asked to prove who it is: a name has to be the name of a server, or a
number in dots. -/
def canProveItself : Host → Bool
  | name text => DomainName.isServerName text.toList || HostNumber.isDotted text.toList
  | number _ => true
  | bracketed _ => true

/-- The text of a host. -/
def text : Host → String
  | name text => text
  | number value => toString value
  | bracketed text => "[" ++ text ++ "]"

end Host

end QueryImpact.Cypher
