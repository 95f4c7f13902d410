import BusBridge.Wire.Bytes
/-!
# Hexadecimal text of bytes

Two lowercase digits for each byte. `Hex.spaced` separates the bytes by one space, as the frame dump
does; `Hex.compact` does not separate them.
-/

namespace BusBridge.Hex

/-- The digit of a value below 16. -/
def digit (n : Nat) : Char :=
  if n < 10 then Char.ofNat (48 + n) else Char.ofNat (87 + n)

/-- The two digits of a byte. -/
def byte (b : UInt8) : List Char :=
  [digit (b.toNat / 16), digit (b.toNat % 16)]

def spacedChars : Bytes → List Char
  | [] => []
  | b :: rest => byte b ++ rest.flatMap fun c => ' ' :: byte c

/-- Bytes separated by one space: `00 23 ff`. -/
def spaced (bytes : Bytes) : String :=
  String.ofList (spacedChars bytes)

/-- Bytes one after the other: `0023ff`. -/
def compact (bytes : Bytes) : String :=
  String.ofList (bytes.flatMap byte)

/-- The bytes in brackets, separated by one space: `[00 23 ff]`. -/
def bracketed (bytes : Bytes) : String :=
  "[" ++ spaced bytes ++ "]"

/-- An identifier, always with two digits: `0x04`. -/
def ident (b : UInt8) : String :=
  "0x" ++ String.ofList (byte b)

/-- A number, without leading zero: `0x4`. -/
def number (b : UInt8) : String :=
  "0x" ++ String.ofList (if b.toNat < 16 then [digit b.toNat] else byte b)

end BusBridge.Hex
