import Hyperscript.Text

/-!
# UTF-8

Texts as bytes. Reading goes byte by byte and tells where and why it stops.
-/
namespace Hyperscript

namespace Utf8

inductive Reason where
  | startByte | continuationByte | endOfData
  deriving DecidableEq, Repr

def Reason.text : Reason → Text
  | .startByte => "invalid start byte"
  | .continuationByte => "invalid continuation byte"
  | .endOfData => "unexpected end of data"

/-- Bytes that are not the encoding of a code point. -/
structure Malformed where
  reason : Reason
  position : Nat
  /-- The bytes from the position on that belong together. -/
  bytes : List UInt8
  deriving DecidableEq, Repr

def Malformed.message (e : Malformed) : Text :=
  let place : Text :=
    match e.bytes with
    | [b] => "byte 0x" ++ Text.ofNatHex 2 b.toNat ++ " in position " ++ Text.ofNat e.position
    | _ =>
      "bytes in position " ++ Text.ofNat e.position ++ "-" ++
        Text.ofNat (e.position + e.bytes.length - 1)
  "'utf-8' codec can't decode " ++ place ++ ": " ++ e.reason.text

/-- A code point of which some bytes have been read. -/
structure Pending where
  /-- The bytes that are still to come. -/
  missing : Nat
  /-- The least and the greatest byte that may come next. -/
  low : Nat := 0x80
  high : Nat := 0xbf
  value : Nat
  /-- The bytes that have been read. -/
  bytes : List UInt8

/-- What the first byte of a code point of several bytes says of the others. The bounds on the next
byte exclude overlong encodings, surrogates and numbers that are too large. -/
def lead? (byte : UInt8) : Option Pending :=
  let b := byte.toNat
  if 0xc2 ≤ b && b ≤ 0xdf then some { missing := 1, value := b - 0xc0, bytes := [byte] }
  else if 0xe0 ≤ b && b ≤ 0xef then
    some
      { missing := 2, value := b - 0xe0, bytes := [byte]
        low := if b = 0xe0 then 0xa0 else 0x80
        high := if b = 0xed then 0x9f else 0xbf }
  else if 0xf0 ≤ b && b ≤ 0xf4 then
    some
      { missing := 3, value := b - 0xf0, bytes := [byte]
        low := if b = 0xf0 then 0x90 else 0x80
        high := if b = 0xf4 then 0x8f else 0xbf }
  else none

def codePoint (n : Nat) : CodePoint := Fin.ofNat 0x110000 n

/-- Reads from a position on, with the code points before it in reverse. -/
def decodeFrom : Nat → Option Pending → Text → List UInt8 → Except Malformed Text
  | _, none, done, [] => .ok done.reverse
  | position, some p, _, [] => .error ⟨.endOfData, position - p.bytes.length, p.bytes⟩
  | position, none, done, b :: rest =>
    if b < 0x80 then decodeFrom (position + 1) none (codePoint b.toNat :: done) rest
    else
      match lead? b with
      | some p => decodeFrom (position + 1) (some p) done rest
      | none => .error ⟨.startByte, position, [b]⟩
  | position, some p, done, b :: rest =>
    let value := 64 * p.value + (b.toNat - 0x80)
    if b.toNat < p.low || p.high < b.toNat then
      .error ⟨.continuationByte, position - p.bytes.length, p.bytes⟩
    else if p.missing ≤ 1 then decodeFrom (position + 1) none (codePoint value :: done) rest
    else
      decodeFrom (position + 1)
        (some { missing := p.missing - 1, value, bytes := p.bytes ++ [b] }) done rest

def decode (bytes : List UInt8) : Except Malformed Text := decodeFrom 0 none [] bytes

def encodeCodePoint (c : CodePoint) : List UInt8 :=
  let n := c.val
  let tail (k : Nat) : Nat := 0x80 + n / Nat.pow 64 k % 64
  let bytes :=
    if n < 0x80 then [n]
    else if n < 0x800 then [0xc0 + n / 64, tail 0]
    else if n < 0x10000 then [0xe0 + n / Nat.pow 64 2, tail 1, tail 0]
    else [0xf0 + n / Nat.pow 64 3, tail 2, tail 1, tail 0]
  bytes.map UInt8.ofNat

def encode (t : Text) : List UInt8 := t.flatMap encodeCodePoint

end Utf8

namespace Text

/-- Every line end becomes a line feed. -/
def universalNewlines : Text → Text
  | [] => []
  | c :: rest =>
    if c = '\r' then
      if rest.head? == some (CodePoint.ofChar '\n') then universalNewlines rest
      else '\n' :: universalNewlines rest
    else c :: universalNewlines rest

end Text

end Hyperscript
