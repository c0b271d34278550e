/-
# UTF-8

`encode` writes a text as bytes.  `decode` reads bytes one at a time: the first byte of a
character says how many continuation bytes are owed and bounds the next one, so that overlong
forms, surrogates and values past U+10FFFF are refused at the earliest byte that shows them.

A refusal names the bytes at fault: the first byte of the character and the continuation bytes
that were still good.
-/
import Jenkinsfile.Text.Basic

namespace Jenkinsfile.Utf8

/-- The bytes of a text. -/
def encode (t : Text) : List UInt8 := t.flatMap String.utf8EncodeChar

/-! ## 1. Refusals -/

/-- Why bytes are not UTF-8. -/
inductive Cause
  /-- No character begins with this byte. -/
  | startByte
  /-- A continuation byte is owed and the next byte is not a possible one. -/
  | continuationByte
  /-- A continuation byte is owed and there are no more bytes. -/
  | endOfData
  deriving DecidableEq, Repr

/-- The bytes at fault: those at `first` to `last`, the first of which is `byte`. -/
structure Malformed where
  byte : UInt8
  first : Nat
  last : Nat
  cause : Cause
  deriving DecidableEq, Repr

def Cause.message : Cause → Text
  | .startByte => "invalid start byte".toList
  | .continuationByte => "invalid continuation byte".toList
  | .endOfData => "unexpected end of data".toList

/-- The byte itself is shown when it is the only one at fault. -/
def Malformed.message (m : Malformed) : Text :=
  let place :=
    if m.first = m.last then
      "byte 0x".toList ++ Text.hex 2 m.byte.toNat ++ " in position ".toList ++ Text.ofNat m.first
    else
      "bytes in position ".toList ++ Text.ofNat m.first ++ ['-'] ++ Text.ofNat m.last
  "'utf-8' codec can't decode ".toList ++ place ++ ": ".toList ++ m.cause.message

/-! ## 2. Reading -/

/-- What is owed after some bytes of a character: how many continuation bytes, and between which
bounds the next one lies.  `value` holds the bits read so far. -/
structure Owed where
  value : Nat
  count : Nat
  low : Nat
  high : Nat

/-- What the first byte of a character of several bytes leaves owed. -/
def Owed.ofFirst? (byte : UInt8) : Option Owed :=
  let b := byte.toNat
  if 0xc2 ≤ b ∧ b ≤ 0xdf then some ⟨b - 0xc0, 1, 0x80, 0xbf⟩
  else if 0xe0 ≤ b ∧ b ≤ 0xef then
    some ⟨b - 0xe0, 2, if b = 0xe0 then 0xa0 else 0x80, if b = 0xed then 0x9f else 0xbf⟩
  else if 0xf0 ≤ b ∧ b ≤ 0xf4 then
    some ⟨b - 0xf0, 3, if b = 0xf0 then 0x90 else 0x80, if b = 0xf4 then 0x8f else 0xbf⟩
  else none

/-- A character under way: its first byte, where that stands, and what is owed. -/
structure Begun where
  byte : UInt8
  first : Nat
  owed : Owed

/-- Reads the bytes from position `pos` on. -/
def decodeFrom (pos : Nat) : (begun : Option Begun) → List UInt8 → Except Malformed Text
  | none, [] => .ok []
  | some c, [] => .error ⟨c.byte, c.first, pos - 1, .endOfData⟩
  | none, b :: bytes =>
    if b.toNat < 0x80 then
      (decodeFrom (pos + 1) none bytes).map (Char.ofNat b.toNat :: ·)
    else
      match Owed.ofFirst? b with
      | none => .error ⟨b, pos, pos, .startByte⟩
      | some owed => decodeFrom (pos + 1) (some ⟨b, pos, owed⟩) bytes
  | some c, b :: bytes =>
    if c.owed.low ≤ b.toNat ∧ b.toNat ≤ c.owed.high then
      let value := 64 * c.owed.value + (b.toNat - 0x80)
      if c.owed.count ≤ 1 then
        (decodeFrom (pos + 1) none bytes).map (Char.ofNat value :: ·)
      else
        let owed := ⟨value, c.owed.count - 1, 0x80, 0xbf⟩
        decodeFrom (pos + 1) (some ⟨c.byte, c.first, owed⟩) bytes
    else
      .error ⟨c.byte, c.first, pos - 1, .continuationByte⟩

/-- The text that bytes stand for. -/
def decode (bytes : List UInt8) : Except Malformed Text := decodeFrom 0 none bytes

example : decode [0x41, 0xc3, 0xa9] = .ok "Aé".toList := by cbv

example : decode [0x41, 0xed, 0xa0, 0x80] = .error ⟨0xed, 1, 1, .continuationByte⟩ := by cbv

example : decode [0xf0, 0x9f, 0x98] = .error ⟨0xf0, 0, 2, .endOfData⟩ := by cbv

end Jenkinsfile.Utf8
