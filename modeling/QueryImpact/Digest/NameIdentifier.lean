import QueryImpact.Digest.Sha1

/-!
# Identifiers made from names

A name-based identifier (version 5 of the universally unique identifiers) is the front of the
SHA-1 digest of a namespace followed by the name, with the version and the variant written over
six of its bits.
-/

namespace QueryImpact.Digest

/-- The namespace of object identifiers. -/
def objectNamespace : List UInt8 :=
  [0x6b, 0xa7, 0xb8, 0x12, 0x9d, 0xad, 0x11, 0xd1, 0x80, 0xb4, 0x00, 0xc0, 0x4f, 0xd4, 0x30,
    0xc8]

/-- The sixteen bytes of the identifier of a name in a namespace. -/
def nameIdentifier (namespaceBytes name : List UInt8) : List UInt8 :=
  let front := (sha1 (namespaceBytes ++ name)).take 16
  let versioned := front.modify 6 fun byte => (byte &&& 0x0f) ||| 0x50
  versioned.modify 8 fun byte => (byte &&& 0x3f) ||| 0x80

/-- The two hexadecimal digits of a byte. -/
def hexByte (byte : UInt8) : List Char :=
  [Nat.digitChar (byte.toNat / 16), Nat.digitChar (byte.toNat % 16)]

/-- The identifier of a text among the object identifiers, as hexadecimal digits. -/
def textIdentifier (text : String) : String :=
  String.ofList ((nameIdentifier objectNamespace text.toUTF8.toList).flatMap hexByte)

end QueryImpact.Digest
