import ScriptSanitizer.Binary64.Shortest
import ScriptSanitizer.Json.Basic

/-!
# Writing JSON documents

The compact and the indented form of a value.  Strings escape what they must and nothing else;
numbers that are not whole are written with the fewest digits that read back, and always with a
point or an exponent.
-/

namespace ScriptSanitizer

namespace Json

/-- The spelling of a character inside a string. -/
def escapeChar (character : Char) : Text :=
  match character with
  | '"' => ['\\', '"']
  | '\\' => ['\\', '\\']
  | '\x08' => ['\\', 'b']
  | '\x0c' => ['\\', 'f']
  | '\n' => ['\\', 'n']
  | '\r' => ['\\', 'r']
  | '\t' => ['\\', 't']
  | _ =>
    if character < ' ' then
      ['\\', 'u', '0', '0', Nat.digitChar (character.toNat / 16),
        Nat.digitChar (character.toNat % 16)]
    else [character]

/-- A string in its quotation marks. -/
def quote (string : Text) : Text := '"' :: string.flatMap escapeChar ++ ['"']

/-- Digits with the power of ten of their last one.  Numbers from 1e-5 up to 1e16 have a point,
others an exponent with its sign. -/
def formatDecimal (digits : Text) (power : Int) : Text :=
  let point := digits.length + power
  if 0 ≤ power ∧ point ≤ 16 then digits ++ List.replicate power.toNat '0' ++ ['.', '0']
  else if 0 < point ∧ point ≤ 16 then
    digits.take point.toNat ++ '.' :: digits.drop point.toNat
  else if -5 < point ∧ point ≤ 0 then
    ['0', '.'] ++ List.replicate (-point).toNat '0' ++ digits
  else
    let exponent := point - 1
    let mantissa :=
      match digits with
      | first :: second :: rest => first :: '.' :: second :: rest
      | _ => digits
    mantissa ++ 'e' :: (if 0 ≤ exponent then '+' else '-') :: digitsOf 10 exponent.natAbs

/-- The digits of a float. -/
def formatFloat (number : Binary64) : Text :=
  let magnitude :=
    if number.isZero then ['0', '.', '0']
    else
      let (significand, power) := number.shortest
      formatDecimal (digitsOf 10 significand) power
  if number.negative then '-' :: magnitude else magnitude

/-- The digits of a whole number. -/
def formatInteger (number : Int) : Text :=
  if number < 0 then '-' :: digitsOf 10 number.natAbs else digitsOf 10 number.natAbs

/-- The digits of a number. -/
def Number.format : Number → Text
  | integer value => formatInteger value
  | float value => formatFloat value

namespace Value

mutual

/-- The compact form of a value. -/
def compact : Value → Text
  | null => "null".toList
  | bool true => "true".toList
  | bool false => "false".toList
  | number value => value.format
  | string value => quote value
  | array items => '[' :: compactItems items ++ [']']
  | object members => '\x7b' :: compactMembers members ++ ['\x7d']

/-- The compact forms of items, with commas between them. -/
def compactItems : List Value → Text
  | [] => []
  | [item] => item.compact
  | item :: items => item.compact ++ ',' :: compactItems items

/-- The compact forms of members, with commas between them. -/
def compactMembers : List (Text × Value) → Text
  | [] => []
  | [(name, value)] => quote name ++ ':' :: value.compact
  | (name, value) :: members => quote name ++ ':' :: value.compact ++ ',' :: compactMembers members

end

/-- A new line at a depth. -/
def newLine (depth : Nat) : Text := '\n' :: List.replicate (2 * depth) ' '

mutual

/-- The indented form of a value at a depth: an item or a member a line, and empty brackets
closed at once. -/
def pretty (depth : Nat) : Value → Text
  | null => "null".toList
  | bool true => "true".toList
  | bool false => "false".toList
  | number value => value.format
  | string value => quote value
  | array [] => ['[', ']']
  | array (item :: items) =>
    '[' :: prettyItems (depth + 1) (item :: items) ++ newLine depth ++ [']']
  | object [] => ['\x7b', '\x7d']
  | object (member :: members) =>
    '\x7b' :: prettyMembers (depth + 1) (member :: members) ++ newLine depth ++ ['\x7d']

/-- The lines of items. -/
def prettyItems (depth : Nat) : List Value → Text
  | [] => []
  | [item] => newLine depth ++ item.pretty depth
  | item :: items => newLine depth ++ item.pretty depth ++ ',' :: prettyItems depth items

/-- The lines of members. -/
def prettyMembers (depth : Nat) : List (Text × Value) → Text
  | [] => []
  | [(name, value)] => newLine depth ++ quote name ++ ':' :: ' ' :: value.pretty depth
  | (name, value) :: members =>
    newLine depth ++ quote name ++ ':' :: ' ' :: value.pretty depth ++
      ',' :: prettyMembers depth members

end

end Value

end Json

end ScriptSanitizer
