import ScriptSanitizer.Binary64.Basic
import ScriptSanitizer.Text.Basic

/-!
# JSON values

The values that JSON documents write.  A reader keeps the members of an object in the order of
their names, each name once; other makers of values may put them in any order.
-/

namespace ScriptSanitizer

namespace Json

/-- A number. -/
inductive Number where
  /-- A whole number. -/
  | integer (value : Int)
  /-- Any other number. -/
  | float (value : Binary64)
  deriving DecidableEq

/-- A value. -/
inductive Value where
  /-- Nothing. -/
  | null
  /-- A truth value. -/
  | bool (value : Bool)
  /-- A number. -/
  | number (value : Number)
  /-- A string. -/
  | string (value : Text)
  /-- Values in order. -/
  | array (items : List Value)
  /-- Values under names. -/
  | object (members : List (Text × Value))

/-- Put a value under a name, in the place of a value that stands there, and otherwise in front of
the first larger name. -/
def insertMember {Content : Type} (name : Text) (value : Content) :
    List (Text × Content) → List (Text × Content)
  | [] => [(name, value)]
  | member :: members =>
    if name = member.1 then (name, value) :: members
    else if name < member.1 then (name, value) :: member :: members
    else member :: insertMember name value members

namespace Value

mutual

/-- The value with every string in it changed; names stay as they are. -/
def mapStrings (change : Text → Text) : Value → Value
  | null => null
  | bool value => bool value
  | number value => number value
  | string value => string (change value)
  | array items => array (mapItems change items)
  | object members => object (mapMembers change members)

/-- Items with every string in them changed. -/
def mapItems (change : Text → Text) : List Value → List Value
  | [] => []
  | item :: items => item.mapStrings change :: mapItems change items

/-- Members with every string in their values changed. -/
def mapMembers (change : Text → Text) : List (Text × Value) → List (Text × Value)
  | [] => []
  | (name, value) :: members => (name, value.mapStrings change) :: mapMembers change members

end

mutual

/-- The strings in a value, in order; names are not among them. -/
def strings : Value → List Text
  | null => []
  | bool _ => []
  | number _ => []
  | string value => [value]
  | array items => stringsOfItems items
  | object members => stringsOfMembers members

/-- The strings in items. -/
def stringsOfItems : List Value → List Text
  | [] => []
  | item :: items => item.strings ++ stringsOfItems items

/-- The strings in the values of members. -/
def stringsOfMembers : List (Text × Value) → List Text
  | [] => []
  | (_, value) :: members => value.strings ++ stringsOfMembers members

end

end Value

end Json

end ScriptSanitizer
