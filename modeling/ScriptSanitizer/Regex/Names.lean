import ScriptSanitizer.Regex.Tree

/-!
# Classes by name

The named classes of ASCII, and the general categories, scripts, editions and properties of the
Unicode standard under the names and short names it gives them.  Case, spaces, underscores and
hyphens do not matter in the latter, nor does a leading `is`.
-/

namespace ScriptSanitizer

namespace Regex

/-- The class of several ranges. -/
def ranges (bounds : List (Char × Char)) : CharClass :=
  bounds.foldr (fun (low, high) others => .union (.range low high) others) .none

/-- The named classes of ASCII. -/
def asciiClasses : List (String × CharClass) :=
  [("alnum", ranges [('0', '9'), ('A', 'Z'), ('a', 'z')]),
    ("alpha", ranges [('A', 'Z'), ('a', 'z')]),
    ("ascii", ranges [('\x00', '\x7f')]),
    ("blank", .oneOf ['\t', ' ']),
    ("cntrl", ranges [('\x00', '\x1f'), ('\x7f', '\x7f')]),
    ("digit", ranges [('0', '9')]),
    ("graph", ranges [('!', '~')]),
    ("lower", ranges [('a', 'z')]),
    ("print", ranges [(' ', '~')]),
    ("punct", ranges [('!', '/'), (':', '@'), ('[', '\x60'), ('\x7b', '~')]),
    ("space", ranges [('\t', '\r'), (' ', ' ')]),
    ("upper", ranges [('A', 'Z')]),
    ("word", ranges [('0', '9'), ('A', 'Z'), ('_', '_'), ('a', 'z')]),
    ("xdigit", ranges [('0', '9'), ('A', 'F'), ('a', 'f')])]

/-- The general categories and their groups. -/
def categoryNames : List (List String × List Unicode.Category) :=
  [(["c", "other"], [.control, .format, .unassigned, .privateUse]),
    (["cc", "control", "cntrl"], [.control]),
    (["cf", "format"], [.format]),
    (["cn", "unassigned"], [.unassigned]),
    (["co", "privateuse"], [.privateUse]),
    (["l", "letter"],
      [.uppercaseLetter, .lowercaseLetter, .titlecaseLetter, .modifierLetter, .otherLetter]),
    (["lc", "casedletter"], [.uppercaseLetter, .lowercaseLetter, .titlecaseLetter]),
    (["ll", "lowercaseletter"], [.lowercaseLetter]),
    (["lm", "modifierletter"], [.modifierLetter]),
    (["lo", "otherletter"], [.otherLetter]),
    (["lt", "titlecaseletter"], [.titlecaseLetter]),
    (["lu", "uppercaseletter"], [.uppercaseLetter]),
    (["m", "mark", "combiningmark"], [.nonspacingMark, .spacingMark, .enclosingMark]),
    (["mc", "spacingmark"], [.spacingMark]),
    (["me", "enclosingmark"], [.enclosingMark]),
    (["mn", "nonspacingmark"], [.nonspacingMark]),
    (["n", "number"], [.decimalNumber, .letterNumber, .otherNumber]),
    (["nd", "decimalnumber", "digit"], [.decimalNumber]),
    (["nl", "letternumber"], [.letterNumber]),
    (["no", "othernumber"], [.otherNumber]),
    (["p", "punctuation", "punct"],
      [.connectorPunctuation, .dashPunctuation, .openPunctuation, .closePunctuation,
        .initialPunctuation, .finalPunctuation, .otherPunctuation]),
    (["pc", "connectorpunctuation"], [.connectorPunctuation]),
    (["pd", "dashpunctuation"], [.dashPunctuation]),
    (["pe", "closepunctuation"], [.closePunctuation]),
    (["pf", "finalpunctuation"], [.finalPunctuation]),
    (["pi", "initialpunctuation"], [.initialPunctuation]),
    (["po", "otherpunctuation"], [.otherPunctuation]),
    (["ps", "openpunctuation"], [.openPunctuation]),
    (["s", "symbol"], [.currencySymbol, .modifierSymbol, .mathSymbol, .otherSymbol]),
    (["sc", "currencysymbol"], [.currencySymbol]),
    (["sk", "modifiersymbol"], [.modifierSymbol]),
    (["sm", "mathsymbol"], [.mathSymbol]),
    (["so", "othersymbol"], [.otherSymbol]),
    (["z", "separator"], [.spaceSeparator, .lineSeparator, .paragraphSeparator]),
    (["zl", "lineseparator"], [.lineSeparator]),
    (["zp", "paragraphseparator"], [.paragraphSeparator]),
    (["zs", "spaceseparator"], [.spaceSeparator])]

/-- A name without what does not matter in it. -/
def normalName (name : Text) : String :=
  let stem : Text × Bool :=
    match name with
    | first :: second :: rest =>
      if first.toLower == 'i' && second.toLower == 's' then (rest, true) else (name, false)
    | _ => (name, false)
  let letters := (stem.1.filter fun letter =>
    letter != ' ' && letter != '_' && letter != '-' && letter.toNat < 0x80).map Char.toLower
  if stem.2 && letters == ['c'] then "isc" else String.ofList letters

/-- The general category or group of categories with a name. -/
def categoryNamed? (name : String) : Option CharClass :=
  if name = "any" then some .any
  else if name = "assigned" then some (.complement (.category .unassigned))
  else if name = "ascii" then some (.range '\x00' '\x7f')
  else (categoryNames.find? fun entry => entry.1.contains name).map fun entry => .categories entry.2

/-- The class with a name of its own: a property, a general category or a script. -/
def classNamed? (name : Text) : Option CharClass :=
  let name := normalName name
  let property : Option CharClass :=
    if name = "cf" || name = "sc" || name = "lc" then none
    else (Unicode.Property.table.lookup name).map .property
  property <|> categoryNamed? name <|> (Unicode.Script.table.lookup name).map .script

/-- The class of the characters for which the named property has the named value.  A value that no
character has is no name. -/
def classWithValue? (property value : Text) : Option CharClass :=
  let property := normalName property
  let value := normalName value
  if property = "gc" || property = "generalcategory" then categoryNamed? value
  else if property = "sc" || property = "script" then
    (Unicode.Script.table.lookup value).map .script
  else if property = "scx" || property = "scriptextensions" then
    (Unicode.Script.table.lookup value).map .scriptExtension
  else if property = "gcb" || property = "graphemeclusterbreak" then
    (Unicode.GraphemeBreak.table.lookup value).map .graphemeBreak
  else if property = "wb" || property = "wordbreak" then
    (Unicode.WordBreak.table.lookup value).map .wordBreak
  else if property = "sb" || property = "sentencebreak" then
    (Unicode.SentenceBreak.table.lookup value).map .sentenceBreak
  else if property = "age" then (Unicode.Edition.named? value).map .assignedBy
  else none

end Regex

end ScriptSanitizer
