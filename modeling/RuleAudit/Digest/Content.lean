import RuleAudit.Text.Blank
import RuleAudit.Text.Snippet

/-!
# Digests of contents

The digest of a byte sequence in 32 bytes: the padded message is taken in blocks of sixteen words, each
of which is stirred into eight words of state. Two contents count as the same when they differ in blank
lines and white space at line ends only.
-/

namespace RuleAudit.Digest

/-! ## SHA-256 -/

/-- The words of state before the first block. -/
def initialState : List UInt32 := [
  0x6a09e667, 0xbb67ae85, 0x3c6ef372, 0xa54ff53a, 0x510e527f, 0x9b05688c, 0x1f83d9ab, 0x5be0cd19]

/-- The constants of the sixty-four rounds. -/
def roundConstants : List UInt32 := [
  0x428a2f98, 0x71374491, 0xb5c0fbcf, 0xe9b5dba5, 0x3956c25b, 0x59f111f1, 0x923f82a4, 0xab1c5ed5,
  0xd807aa98, 0x12835b01, 0x243185be, 0x550c7dc3, 0x72be5d74, 0x80deb1fe, 0x9bdc06a7, 0xc19bf174,
  0xe49b69c1, 0xefbe4786, 0x0fc19dc6, 0x240ca1cc, 0x2de92c6f, 0x4a7484aa, 0x5cb0a9dc, 0x76f988da,
  0x983e5152, 0xa831c66d, 0xb00327c8, 0xbf597fc7, 0xc6e00bf3, 0xd5a79147, 0x06ca6351, 0x14292967,
  0x27b70a85, 0x2e1b2138, 0x4d2c6dfc, 0x53380d13, 0x650a7354, 0x766a0abb, 0x81c2c92e, 0x92722c85,
  0xa2bfe8a1, 0xa81a664b, 0xc24b8b70, 0xc76c51a3, 0xd192e819, 0xd6990624, 0xf40e3585, 0x106aa070,
  0x19a4c116, 0x1e376c08, 0x2748774c, 0x34b0bcb5, 0x391c0cb3, 0x4ed8aa4a, 0x5b9cca4f, 0x682e6ff3,
  0x748f82ee, 0x78a5636f, 0x84c87814, 0x8cc70208, 0x90befffa, 0xa4506ceb, 0xbef9a3f7, 0xc67178f2]

/-- A word turned to the right by a number of bits. -/
def turned (word count : UInt32) : UInt32 :=
  (word >>> count) ||| (word <<< (32 - count))

/-- The bytes of a number, the highest first. -/
def bigEndian : (count : Nat) → Nat → List UInt8
  | 0, _ => []
  | count + 1, number => (number / 256 ^ count).toUInt8 :: bigEndian count number

/-- The message with a one bit, zeros and its length in bits behind it, so that it fills blocks of
sixty-four bytes. -/
def padded (message : List UInt8) : List UInt8 :=
  let zeros := (119 - message.length % 64) % 64
  message ++ [0x80] ++ List.replicate zeros 0 ++ bigEndian 8 (message.length * 8)

/-- The words of a byte sequence, the highest byte first. -/
def wordsOf : List UInt8 → List UInt32
  | a :: b :: c :: d :: rest =>
    ((a.toUInt32 <<< 24) ||| (b.toUInt32 <<< 16) ||| (c.toUInt32 <<< 8) ||| d.toUInt32)
      :: wordsOf rest
  | _ => []

/-- The list of words behind the first ones of a block. The last sixteen words are given, the
latest first. -/
def extended : (count : Nat) → List UInt32 → List UInt32
  | 0, _ => []
  | count + 1, latest =>
    let two := latest.getD 1 0
    let seven := latest.getD 6 0
    let fifteen := latest.getD 14 0
    let sixteen := latest.getD 15 0
    let low := turned fifteen 7 ^^^ turned fifteen 18 ^^^ (fifteen >>> 3)
    let high := turned two 17 ^^^ turned two 19 ^^^ (two >>> 10)
    let next := sixteen + low + seven + high
    next :: extended count ((next :: latest).take 16)

/-- The eight words of state within a block. -/
structure Stir where
  a : UInt32
  b : UInt32
  c : UInt32
  d : UInt32
  e : UInt32
  f : UInt32
  g : UInt32
  h : UInt32

/-- One round with a word of the block and a constant. -/
def Stir.step (state : Stir) (word constant : UInt32) : Stir :=
  let sum := turned state.e 6 ^^^ turned state.e 11 ^^^ turned state.e 25
  let choice := (state.e &&& state.f) ^^^ (~~~state.e &&& state.g)
  let first := state.h + sum + choice + constant + word
  let other := turned state.a 2 ^^^ turned state.a 13 ^^^ turned state.a 22
  let majority := (state.a &&& state.b) ^^^ (state.a &&& state.c) ^^^ (state.b &&& state.c)
  { a := first + (other + majority), b := state.a, c := state.b, d := state.c
    e := state.d + first, f := state.e, g := state.f, h := state.g }

/-- The state after a block. -/
def absorb (state : List UInt32) (block : List UInt32) : List UInt32 :=
  match state with
  | [a, b, c, d, e, f, g, h] =>
    let words := block ++ extended 48 block.reverse
    let final : Stir := (words.zip roundConstants).foldl
      (fun (stir : Stir) (word, constant) => stir.step word constant) ⟨a, b, c, d, e, f, g, h⟩
    [a + final.a, b + final.b, c + final.c, d + final.d,
      e + final.e, f + final.f, g + final.g, h + final.h]
  | other => other

/-- The state after all blocks of a list of words. -/
def absorbAll (state : List UInt32) : (blocks : Nat) → List UInt32 → List UInt32
  | 0, _ => state
  | blocks + 1, words => absorbAll (absorb state (words.take 16)) blocks (words.drop 16)

/-- The SHA-256 digest of a byte sequence. -/
def sha256 (message : List UInt8) : List UInt8 :=
  let words := wordsOf (padded message)
  (absorbAll initialState (words.length / 16) words).flatMap fun word => bigEndian 4 word.toNat

/-! ## Significant lines -/

/-- The lines of a content without the white space at their ends, blank ones left out. -/
def significantLines (content : String) : List String :=
  ((Text.lines content).map Text.trimEnd).filter (!·.isEmpty)

/-- The bytes of lines, with a line feed behind each of them. -/
def bytesOfLines (lines : List String) : List UInt8 :=
  lines.flatMap fun line => line.toUTF8.toList ++ [10]

/-- The digest of the significant lines of a content, unless there are none. -/
def ofContent? (content : String) : Option (List UInt8) :=
  match significantLines content with
  | [] => none
  | lines => some (sha256 (bytesOfLines lines))

/-- Bytes in base sixteen, in lower case. -/
def hex (bytes : List UInt8) : String :=
  String.ofList (bytes.flatMap fun byte =>
    [Nat.digitChar (byte.toNat / 16), Nat.digitChar (byte.toNat % 16)])

end RuleAudit.Digest
