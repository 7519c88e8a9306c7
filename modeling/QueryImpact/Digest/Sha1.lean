/-!
# SHA-1

The message is padded to whole blocks of 64 bytes.  Each block is spread to eighty words, and
eighty rounds mix them into a state of five words.
-/

namespace QueryImpact.Digest

/-- The five words of the hash state. -/
structure Sha1State where
  /-- First word. -/
  a : UInt32
  /-- Second word. -/
  b : UInt32
  /-- Third word. -/
  c : UInt32
  /-- Fourth word. -/
  d : UInt32
  /-- Fifth word. -/
  e : UInt32

/-- The state before the first block. -/
def Sha1State.initial : Sha1State :=
  ⟨0x67452301, 0xefcdab89, 0x98badcfe, 0x10325476, 0xc3d2e1f0⟩

/-- Rotate a word to the left. -/
def rotateLeft (word : UInt32) (count : UInt32) : UInt32 :=
  (word <<< count) ||| (word >>> (32 - count))

/-- The bytes of a number, most significant first. -/
def bigEndian (width : Nat) (value : Nat) : List UInt8 :=
  (List.range width).map fun index =>
    UInt8.ofNat (value / Nat.pow 256 (width - 1 - index) % 256)

/-- The message followed by a single one bit, zeros and its length in bits. -/
def padded (message : List UInt8) : List UInt8 :=
  let zeros := (119 - message.length % 64) % 64
  message ++ 0x80 :: List.replicate zeros 0 ++ bigEndian 8 (message.length * 8)

/-- The word made of four bytes, most significant first. -/
def wordOfBytes (bytes : List UInt8) : UInt32 :=
  bytes.foldl (fun word byte => (word <<< 8) ||| byte.toUInt32) 0

/-- The sixteen words of a block. -/
def blockWords (block : List UInt8) : Array UInt32 :=
  ((List.range 16).map fun index => wordOfBytes ((block.drop (4 * index)).take 4)).toArray

/-- Spread the sixteen words of a block to eighty. -/
def schedule (block : List UInt8) : Array UInt32 :=
  (List.range 64).foldl
    (fun words _ =>
      let index := words.size
      let mixed :=
        words.getD (index - 3) 0 ^^^ words.getD (index - 8) 0 ^^^ words.getD (index - 14) 0 ^^^
          words.getD (index - 16) 0
      words.push (rotateLeft mixed 1))
    (blockWords block)

/-- The mixing function and constant of a round. -/
def roundMix (round : Nat) (b c d : UInt32) : UInt32 × UInt32 :=
  if round < 20 then ((b &&& c) ||| ((~~~b) &&& d), 0x5a827999)
  else if round < 40 then (b ^^^ c ^^^ d, 0x6ed9eba1)
  else if round < 60 then ((b &&& c) ||| (b &&& d) ||| (c &&& d), 0x8f1bbcdc)
  else (b ^^^ c ^^^ d, 0xca62c1d6)

/-- One round. -/
def Sha1State.round (state : Sha1State) (round : Nat) (word : UInt32) : Sha1State :=
  let (mixed, constant) := roundMix round state.b state.c state.d
  let next := rotateLeft state.a 5 + mixed + state.e + constant + word
  ⟨next, state.a, rotateLeft state.b 30, state.c, state.d⟩

/-- Mix a block into the state. -/
def Sha1State.absorb (state : Sha1State) (block : List UInt8) : Sha1State :=
  let words := schedule block
  let mixed :=
    (List.range 80).foldl (fun mixed round => mixed.round round (words.getD round 0)) state
  ⟨state.a + mixed.a, state.b + mixed.b, state.c + mixed.c, state.d + mixed.d,
    state.e + mixed.e⟩

/-- Mix the blocks of a padded message into a state. -/
def Sha1State.absorbAll (state : Sha1State) (bytes : List UInt8) : Sha1State :=
  (List.range (bytes.length / 64)).foldl
    (fun state index => state.absorb ((bytes.drop (64 * index)).take 64)) state

/-- The twenty bytes of the SHA-1 digest of a message. -/
def sha1 (message : List UInt8) : List UInt8 :=
  let state := Sha1State.initial.absorbAll (padded message)
  [state.a, state.b, state.c, state.d, state.e].flatMap fun word => bigEndian 4 word.toNat

end QueryImpact.Digest
