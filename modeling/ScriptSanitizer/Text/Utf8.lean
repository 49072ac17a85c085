import ScriptSanitizer.Text.Basic

/-!
# UTF-8

The encoding form of a text, its length in bytes, and the two readings of arbitrary bytes: the
strict one, which refuses malformed input, and the lossy one, which puts U+FFFD for each maximal
malformed sequence.  Both readings follow one automaton, whose states are the well-formed
beginnings of an encoded character.
-/

namespace ScriptSanitizer

namespace Utf8

/-- The bytes that encode one character. -/
def encodeChar (character : Char) : List UInt8 :=
  let code := character.toNat
  if code < 0x80 then [code.toUInt8]
  else if code < 0x800 then [(0xC0 + code / 64).toUInt8, (0x80 + code % 64).toUInt8]
  else if code < 0x10000 then
    [(0xE0 + code / 4096).toUInt8, (0x80 + code / 64 % 64).toUInt8, (0x80 + code % 64).toUInt8]
  else
    [(0xF0 + code / 262144).toUInt8, (0x80 + code / 4096 % 64).toUInt8,
      (0x80 + code / 64 % 64).toUInt8, (0x80 + code % 64).toUInt8]

/-- The bytes that encode a text. -/
def encode (text : Text) : List UInt8 := text.flatMap encodeChar

/-- The number of bytes that encode a text. -/
def byteLength : Text → Nat
  | [] => 0
  | character :: rest => character.utf8Size + byteLength rest

@[simp]
theorem byteLength_nil : byteLength [] = 0 := rfl

@[simp]
theorem byteLength_cons (character : Char) (text : Text) :
    byteLength (character :: text) = character.utf8Size + byteLength text := rfl

@[simp]
theorem byteLength_append (left right : Text) :
    byteLength (left ++ right) = byteLength left + byteLength right := by
  induction left with
  | nil => simp
  | cons character left ih => simp [ih, Nat.add_assoc]

/-- How much of an encoded character has been read. -/
inductive State where
  /-- Between two characters. -/
  | between
  /-- Inside a character whose bits so far are `value`: `pending` bytes follow the next one,
  which lies between `low` and `high`. -/
  | within (value pending low high : Nat)
  deriving DecidableEq

/-- Read the first byte of a character; `none` stands for a malformed sequence. -/
def start (byte : Nat) : List (Option Char) × State :=
  if byte < 0x80 then ([some (Char.ofNat byte)], .between)
  else if byte < 0xC2 then ([none], .between)
  else if byte < 0xE0 then ([], .within (byte - 0xC0) 0 0x80 0xBF)
  else if byte = 0xE0 then ([], .within 0 1 0xA0 0xBF)
  else if byte = 0xED then ([], .within 0xD 1 0x80 0x9F)
  else if byte < 0xF0 then ([], .within (byte - 0xE0) 1 0x80 0xBF)
  else if byte = 0xF0 then ([], .within 0 2 0x90 0xBF)
  else if byte < 0xF4 then ([], .within (byte - 0xF0) 2 0x80 0xBF)
  else if byte = 0xF4 then ([], .within 4 2 0x80 0x8F)
  else ([none], .between)

/-- Read one byte.  A byte that cannot go on ends a malformed sequence and starts anew. -/
def next : State → Nat → List (Option Char) × State
  | .between, byte => start byte
  | .within value pending low high, byte =>
    if low ≤ byte ∧ byte ≤ high then
      let value := value * 64 + (byte - 0x80)
      match pending with
      | 0 => ([some (Char.ofNat value)], .between)
      | pending + 1 => ([], .within value pending 0x80 0xBF)
    else (none :: (start byte).1, (start byte).2)

/-- The characters that bytes encode, with `none` for each maximal malformed sequence. -/
def unitsFrom : State → List UInt8 → List (Option Char)
  | .between, [] => []
  | .within .., [] => [none]
  | state, byte :: rest =>
    (next state byte.toNat).1 ++ unitsFrom (next state byte.toNat).2 rest

/-- The characters of a byte string, with `none` for each maximal malformed sequence. -/
def units (bytes : List UInt8) : List (Option Char) := unitsFrom .between bytes

/-- The text that bytes encode, with U+FFFD for each maximal malformed sequence. -/
def decodeLossy (bytes : List UInt8) : Text := (units bytes).map (·.getD '\uFFFD')

/-- The text that bytes encode; malformed bytes encode none. -/
def decode? (bytes : List UInt8) : Option Text := (units bytes).mapM id

end Utf8

end ScriptSanitizer
