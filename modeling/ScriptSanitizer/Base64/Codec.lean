import ScriptSanitizer.Text.Basic

/-!
# Base64

The standard alphabet with canonical padding.  Encoding writes three bytes as four symbols and
pads the last group.  Decoding wants complete groups and padding only at the end; it passes over
bits of the last symbol that no byte takes.  Symbols are bytes, and offsets count them.
-/

namespace ScriptSanitizer

namespace Base64

/-- The padding symbol, `=`. -/
def pad : UInt8 := 61

/-- The symbol with a given value below 64. -/
def symbol (value : Nat) : UInt8 :=
  if value < 26 then (65 + value).toUInt8
  else if value < 52 then (71 + value).toUInt8
  else if value < 62 then (value - 4).toUInt8
  else if value = 62 then 43
  else 47

/-- The value of a symbol. -/
def value? (byte : UInt8) : Option Nat :=
  let code := byte.toNat
  if 65 ≤ code ∧ code ≤ 90 then some (code - 65)
  else if 97 ≤ code ∧ code ≤ 122 then some (code - 71)
  else if 48 ≤ code ∧ code ≤ 57 then some (code + 4)
  else if code = 43 then some 62
  else if code = 47 then some 63
  else none

/-- Why symbols do not decode. -/
inductive DecodeError where
  /-- A byte stands where no symbol of its kind may stand. -/
  | invalidSymbol (offset : Nat) (byte : UInt8)
  /-- The last group has a single symbol. -/
  | invalidLength (length : Nat)
  /-- The last group is not padded to four symbols. -/
  | invalidPadding
  deriving DecidableEq

/-- The wording of an error. -/
def DecodeError.message : DecodeError → String
  | .invalidSymbol offset byte =>
    "Invalid symbol " ++ toString byte.toNat ++ ", offset " ++ toString offset ++ "."
  | .invalidLength length => "Invalid input length: " ++ toString length
  | .invalidPadding => "Invalid padding"

/-- The bytes that the values of one group give: one byte less than there are values. -/
def groupBytes : List Nat → List UInt8
  | [a, b] => [(a * 4 + b / 16).toUInt8]
  | [a, b, c] => [(a * 4 + b / 16).toUInt8, (b % 16 * 16 + c / 4).toUInt8]
  | [a, b, c, d] =>
    [(a * 4 + b / 16).toUInt8, (b % 16 * 16 + c / 4).toUInt8, (c % 4 * 64 + d).toUInt8]
  | _ => []

/-- The value of the symbol at an offset. -/
def valueAt (offset : Nat) (byte : UInt8) : Except DecodeError Nat :=
  match value? byte with
  | some value => .ok value
  | none => .error (.invalidSymbol offset byte)

/-- The values of the last group and the number of its padding symbols.  Padding stands behind
two symbols at least, and nothing stands behind padding. -/
def lastGroup (offset index : Nat) (padding : List Nat) :
    List UInt8 → Except DecodeError (List Nat × Nat)
  | [] => .ok ([], padding.length)
  | byte :: rest =>
    if byte = pad then
      if index < 2 then .error (.invalidSymbol (offset + index) byte)
      else lastGroup offset (index + 1) (padding ++ [offset + index]) rest
    else
      match padding with
      | first :: _ => .error (.invalidSymbol first pad)
      | [] => do
        let value ← valueAt (offset + index) byte
        let (values, padded) ← lastGroup offset (index + 1) [] rest
        .ok (value :: values, padded)

/-- Decode the last group. -/
def decodeLast (offset : Nat) (symbols : List UInt8) : Except DecodeError (List UInt8) := do
  let (values, padded) ← lastGroup offset 0 [] symbols
  if !symbols.isEmpty && values.length < 2 then
    .error (.invalidLength (offset + values.length))
  else if (values.length + padded) % 4 ≠ 0 then .error .invalidPadding
  else .ok (groupBytes values)

/-- Decode from an offset: groups of four with something behind them, then the last group. -/
def decodeFrom (offset : Nat) : List UInt8 → Except DecodeError (List UInt8)
  | a :: b :: c :: d :: e :: rest => do
    let values := [← valueAt offset a, ← valueAt (offset + 1) b, ← valueAt (offset + 2) c,
      ← valueAt (offset + 3) d]
    let bytes ← decodeFrom (offset + 4) (e :: rest)
    .ok (groupBytes values ++ bytes)
  | symbols => decodeLast offset symbols

/-- The byte behind the last complete group, if it is alone there and is no symbol: it is
reported before anything in front of it. -/
def strayByte? (symbols : List UInt8) : Option UInt8 :=
  if symbols.length % 4 = 1 then
    symbols.getLast?.filter fun byte => byte != pad && (value? byte).isNone
  else none

/-- The bytes that symbols stand for. -/
def decode (symbols : List UInt8) : Except DecodeError (List UInt8) :=
  match strayByte? symbols with
  | some byte => .error (.invalidSymbol (symbols.length - 1) byte)
  | none => decodeFrom 0 symbols

/-- The padded symbols that stand for bytes. -/
def encode : List UInt8 → List UInt8
  | a :: b :: c :: rest =>
    symbol (a.toNat / 4) :: symbol (a.toNat % 4 * 16 + b.toNat / 16) ::
      symbol (b.toNat % 16 * 4 + c.toNat / 64) :: symbol (c.toNat % 64) :: encode rest
  | [a, b] =>
    [symbol (a.toNat / 4), symbol (a.toNat % 4 * 16 + b.toNat / 16),
      symbol (b.toNat % 16 * 4), pad]
  | [a] => [symbol (a.toNat / 4), symbol (a.toNat % 4 * 16), pad, pad]
  | [] => []

end Base64

end ScriptSanitizer
