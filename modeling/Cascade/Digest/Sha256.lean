/-!
# SHA-256

The digest of a byte sequence by the secure hash algorithm of 256 bits: the
message is padded to whole blocks of 64 bytes, and every block is mixed into a
state of eight words.
-/

namespace Cascade

/-- A digest: the eight words of the final state, from the first to the last. -/
structure Digest where
  a : UInt32
  b : UInt32
  c : UInt32
  d : UInt32
  e : UInt32
  f : UInt32
  g : UInt32
  h : UInt32
deriving DecidableEq, Inhabited

namespace Digest

/-- The state before the first block. -/
def initial : Digest :=
  ⟨0x6a09e667, 0xbb67ae85, 0x3c6ef372, 0xa54ff53a,
    0x510e527f, 0x9b05688c, 0x1f83d9ab, 0x5be0cd19⟩

/-- The constants of the sixty-four rounds. -/
def roundConstants : Array UInt32 := #[
  0x428a2f98, 0x71374491, 0xb5c0fbcf, 0xe9b5dba5, 0x3956c25b, 0x59f111f1, 0x923f82a4, 0xab1c5ed5,
  0xd807aa98, 0x12835b01, 0x243185be, 0x550c7dc3, 0x72be5d74, 0x80deb1fe, 0x9bdc06a7, 0xc19bf174,
  0xe49b69c1, 0xefbe4786, 0x0fc19dc6, 0x240ca1cc, 0x2de92c6f, 0x4a7484aa, 0x5cb0a9dc, 0x76f988da,
  0x983e5152, 0xa831c66d, 0xb00327c8, 0xbf597fc7, 0xc6e00bf3, 0xd5a79147, 0x06ca6351, 0x14292967,
  0x27b70a85, 0x2e1b2138, 0x4d2c6dfc, 0x53380d13, 0x650a7354, 0x766a0abb, 0x81c2c92e, 0x92722c85,
  0xa2bfe8a1, 0xa81a664b, 0xc24b8b70, 0xc76c51a3, 0xd192e819, 0xd6990624, 0xf40e3585, 0x106aa070,
  0x19a4c116, 0x1e376c08, 0x2748774c, 0x34b0bcb5, 0x391c0cb3, 0x4ed8aa4a, 0x5b9cca4f, 0x682e6ff3,
  0x748f82ee, 0x78a5636f, 0x84c87814, 0x8cc70208, 0x90befffa, 0xa4506ceb, 0xbef9a3f7, 0xc67178f2]

/-- A word rotated to the right by fewer than 32 places. -/
def rotateRight (word places : UInt32) : UInt32 :=
  (word >>> places) ||| (word <<< (32 - places))

/-- The byte at a position of the message, zero beyond its end. -/
def byteAt (bytes : ByteArray) (position : Nat) : UInt32 :=
  if inside : position < bytes.size then bytes[position].toUInt32 else 0

/-- The word that starts at a position, most significant byte first. -/
def wordAt (bytes : ByteArray) (position : Nat) : UInt32 :=
  (byteAt bytes position <<< 24) ||| (byteAt bytes (position + 1) <<< 16) |||
    (byteAt bytes (position + 2) <<< 8) ||| byteAt bytes (position + 3)

/-- The message schedule of the block at a position: its sixteen words, and
forty-eight more mixed from earlier ones. -/
def schedule (bytes : ByteArray) (position : Nat) : Array UInt32 :=
  let block := Nat.fold 16 (fun index _ words => words.push (wordAt bytes (position + 4 * index)))
    (Array.emptyWithCapacity 64)
  Nat.fold 48 (fun index _ words =>
    let second := words.getD (index + 14) 0
    let fifteenth := words.getD (index + 1) 0
    let small := rotateRight fifteenth 7 ^^^ rotateRight fifteenth 18 ^^^ (fifteenth >>> 3)
    let large := rotateRight second 17 ^^^ rotateRight second 19 ^^^ (second >>> 10)
    words.push (words.getD index 0 + small + words.getD (index + 9) 0 + large)) block

/-- One round with a round constant and a scheduled word. -/
def round (state : Digest) (constant word : UInt32) : Digest :=
  let large := rotateRight state.e 6 ^^^ rotateRight state.e 11 ^^^ rotateRight state.e 25
  let choice := (state.e &&& state.f) ^^^ ((~~~state.e) &&& state.g)
  let first := state.h + large + choice + constant + word
  let small := rotateRight state.a 2 ^^^ rotateRight state.a 13 ^^^ rotateRight state.a 22
  let majority := (state.a &&& state.b) ^^^ (state.a &&& state.c) ^^^ (state.b &&& state.c)
  ⟨first + small + majority, state.a, state.b, state.c, state.d + first, state.e, state.f, state.g⟩

/-- Mixes one block into the state. -/
def compress (state : Digest) (words : Array UInt32) : Digest :=
  let mixed := Nat.fold 64 (fun index _ mixed =>
    mixed.round (roundConstants.getD index 0) (words.getD index 0)) state
  ⟨state.a + mixed.a, state.b + mixed.b, state.c + mixed.c, state.d + mixed.d,
    state.e + mixed.e, state.f + mixed.f, state.g + mixed.g, state.h + mixed.h⟩

/-- The message followed by a one bit, zero bits up to eight bytes before the
end of a block, and the length of the message in bits. -/
def padded (bytes : ByteArray) : ByteArray :=
  let zeros := (119 - bytes.size % 64) % 64
  let marked := Nat.fold zeros (fun _ _ (message : ByteArray) => message.push 0) (bytes.push 0x80)
  Nat.fold 8 (fun index _ (message : ByteArray) =>
    message.push (UInt8.ofNat ((8 * bytes.size) >>> (8 * (7 - index))))) marked

/-- The digest of a byte sequence. -/
def ofBytes (bytes : ByteArray) : Digest :=
  let message := padded bytes
  Nat.fold (message.size / 64) (fun index _ state =>
    state.compress (schedule message (64 * index))) initial

/-- The words of a digest. -/
def words (digest : Digest) : List UInt32 :=
  [digest.a, digest.b, digest.c, digest.d, digest.e, digest.f, digest.g, digest.h]

/-- A word in eight hexadecimal digits. -/
def wordHex (word : UInt32) : List Char :=
  let digits := Nat.toDigits 16 word.toNat
  List.replicate (8 - digits.length) '0' ++ digits

/-- The sixty-four lower-case hexadecimal digits of a digest. -/
def hex (digest : Digest) : String :=
  String.ofList (digest.words.flatMap wordHex)

/-- The first byte of a digest. -/
def firstByte (digest : Digest) : Nat :=
  (digest.a >>> 24).toNat

end Digest

end Cascade
