import ScriptSanitizer.MultiMap

/-!
# Form encoding

The notation of query strings: pieces joined by ampersands, a name and a value joined by the first
equals sign, a plus for a space, and a percent sign with two hexadecimal digits for a byte.
Reading never fails: empty pieces are passed over, a percent sign without digits stands for
itself, and bytes that are not UTF-8 show as U+FFFD.
-/

namespace ScriptSanitizer

namespace FormEncoding

/-- The bytes that a component writes. -/
def decodeBytes : Text → List UInt8
  | '+' :: rest => 0x20 :: decodeBytes rest
  | '%' :: high :: low :: rest =>
    match hexDigit? high, hexDigit? low with
    | some high, some low => (high * 16 + low).toUInt8 :: decodeBytes rest
    | _, _ => 0x25 :: decodeBytes (high :: low :: rest)
  | character :: rest => Utf8.encodeChar character ++ decodeBytes rest
  | [] => []

/-- The text that a component writes. -/
def decodeComponent (component : Text) : Text := Utf8.decodeLossy (decodeBytes component)

/-- The name and the value that a piece writes. -/
def decodePair (piece : Text) : Text × Text :=
  let name := piece.takeWhile (· != '=')
  (decodeComponent name, decodeComponent (piece.drop (name.length + 1)))

/-- The pairs of a name and a value that a query string writes. -/
def decode (query : Text) : List (Text × Text) :=
  ((splitAtEach '&' query).filter fun piece => !piece.isEmpty).map decodePair

/-- A byte that stands for itself. -/
def isLiteral (byte : UInt8) : Bool :=
  let character := Char.ofNat byte.toNat
  character.isAlphanum || character ∈ ['*', '-', '.', '_']

/-- The spelling of a byte. -/
def encodeByte (byte : UInt8) : Text :=
  if isLiteral byte then [Char.ofNat byte.toNat]
  else if byte = 0x20 then ['+']
  else
    ['%', (Nat.digitChar (byte.toNat / 16)).toUpper, (Nat.digitChar (byte.toNat % 16)).toUpper]

/-- The spelling of a component. -/
def encodeComponent (text : Text) : Text := (Utf8.encode text).flatMap encodeByte

/-- The query string for pairs of a name and a value. -/
def encode (pairs : List (Text × Text)) : Text :=
  ['&'].intercalate (pairs.map fun pair =>
    encodeComponent pair.1 ++ '=' :: encodeComponent pair.2)

end FormEncoding

/-- The map of the pairs that a query string writes. -/
def MultiMap.ofQuery (query : Text) : MultiMap := ofPairs (FormEncoding.decode query)

end ScriptSanitizer
