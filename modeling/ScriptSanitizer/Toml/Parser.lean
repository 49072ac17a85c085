import ScriptSanitizer.Toml.Scalar

/-!
# Reading TOML documents

A document is a sequence of lines, each blank, a key with its value, or a header.  Arrays and
inline tables may span lines, and nest to a bounded depth.

Main operation: `Document.ofText?`.
-/

namespace ScriptSanitizer

namespace Toml

/-- The text behind blanks within the line. -/
def skipGap (text : Text) : Text := text.dropWhile isGap

/-- The text behind a comment, if one stands in front. -/
def skipComment : Text → Text
  | '#' :: rest => rest.dropWhile isPrintable
  | text => text

/-- The text behind the end of a line; a document may end without one. -/
def lineEnd? : Text → Option Text
  | [] => some []
  | '\n' :: rest => some rest
  | '\r' :: '\n' :: rest => some rest
  | _ => none

/-- The text behind blanks, comments and line ends; `comment` tells that it starts inside a
comment. -/
def skipSpaceFrom : Bool → Text → Text
  | _, [] => []
  | _, '\r' :: '\n' :: rest => skipSpaceFrom false rest
  | comment, front :: rest =>
    if front = '\n' then skipSpaceFrom false rest
    else if comment then
      if isPrintable front then skipSpaceFrom true rest else front :: rest
    else if isGap front then skipSpaceFrom false rest
    else if front = '#' then skipSpaceFrom true rest
    else front :: rest

/-- The text behind all blanks, comments and line ends in front. -/
def skipSpace (text : Text) : Text := skipSpaceFrom false text

/-- A character of a bare key. -/
def isKeyCharacter (character : Char) : Bool :=
  character.isAlphanum || character == '_' || character == '-'

/-- Read a key without dots. -/
def readSimpleKey (text : Text) : Option (Text × Text) :=
  match text with
  | '"' :: rest => readBasic 0 rest
  | '\'' :: rest => readLiteral rest
  | _ =>
    let key := text.takeWhile isKeyCharacter
    if key.isEmpty then none else some (key, text.drop key.length)

/-- Read the parts of a key, with dots between them, and the blanks behind. -/
def readKey : Nat → Text → Option (List Text × Text)
  | 0, _ => none
  | turns + 1, text => do
    let (key, rest) ← readSimpleKey (skipGap text)
    match skipGap rest with
    | '.' :: rest =>
      let (keys, rest) ← readKey turns rest
      some (key :: keys, rest)
    | rest => some ([key], rest)

/-- Read a key, the equals sign behind it, and its value. -/
def readEntry (readValue : Text → Option (Value × Text)) (text : Text) :
    Option ((List Text × Value) × Text) := do
  match ← readKey (text.length + 1) text with
  | (keys, '=' :: rest) =>
    let (value, rest) ← readValue (skipGap rest)
    some ((keys, value), rest)
  | _ => none

/-- Read the items of an array behind its bracket. -/
def readItems (readValue : Text → Option (Value × Text)) : Nat → Text → Option (List Value × Text)
  | 0, _ => none
  | turns + 1, text =>
    match skipSpace text with
    | ']' :: rest => some ([], rest)
    | text => do
      let (value, rest) ← readValue text
      match skipSpace rest with
      | ']' :: rest => some ([value], rest)
      | ',' :: rest =>
        let (values, rest) ← readItems readValue turns rest
        some (value :: values, rest)
      | _ => none

/-- Read the entries of an inline table behind its brace, into those so far. -/
def readInline (readValue : Text → Option (Value × Text)) :
    Nat → Entries → Text → Option (Entries × Text)
  | 0, _, _ => none
  | turns + 1, entries, text =>
    match skipSpace text with
    | '\x7d' :: rest => some (entries, rest)
    | text => do
      let ((keys, value), rest) ← readEntry readValue text
      let entries ← entries.insert true keys value
      match skipSpace rest with
      | '\x7d' :: rest => some (entries, rest)
      | ',' :: rest => readInline readValue turns entries rest
      | _ => none

/-- Read a value; `inner` reads the values inside its brackets, if any may be opened. -/
def readValueWith (inner : Option (Text → Option (Value × Text))) (text : Text) :
    Option (Value × Text) :=
  match text with
  | '"' :: _ => do
    let (string, rest) ← readString text
    some (.string string, rest)
  | '\'' :: _ => do
    let (string, rest) ← readString text
    some (.string string, rest)
  | '[' :: rest => do
    let (items, rest) ← readItems (← inner) (rest.length + 1) rest
    some (.array items, rest)
  | '\x7b' :: rest => do
    let (entries, rest) ← readInline (← inner) (rest.length + 1) [] rest
    some (.table .inline entries, rest)
  | _ => readBare text

/-- Read a value in which at most so many brackets are open at a time. -/
def readValue : Nat → Text → Option (Value × Text)
  | 0 => readValueWith none
  | depth + 1 => readValueWith (some (readValue depth))

/-- How many brackets may be open at a time. -/
def maximalDepth : Nat := 80

/-- A document as far as it has been read. -/
structure Document where
  /-- The entries of the document. -/
  entries : Entries
  /-- The table that the last header has opened. -/
  path : List Text

namespace Document

/-- The document without lines. -/
def empty : Document := ⟨[], []⟩

/-- Read a line up to the comment that may end it. -/
def readLine (document : Document) (text : Text) : Option (Document × Text) :=
  match skipGap text with
  | [] => some (document, [])
  | '#' :: rest => some (document, '#' :: rest)
  | '\n' :: rest => some (document, '\n' :: rest)
  | '\r' :: rest => some (document, '\r' :: rest)
  | '[' :: '[' :: rest => do
    match ← readKey (rest.length + 1) rest with
    | (path, ']' :: ']' :: rest) => some (⟨← document.entries.openItem path, path⟩, rest)
    | _ => none
  | '[' :: rest => do
    match ← readKey (rest.length + 1) rest with
    | (path, ']' :: rest) => some (⟨← document.entries.openTable path, path⟩, rest)
    | _ => none
  | text => do
    let ((keys, value), rest) ← readEntry (readValue maximalDepth) text
    some (⟨← document.entries.insertAt document.path keys value, document.path⟩, rest)

/-- Read lines to the end of the text. -/
def readLines : Nat → Document → Text → Option Document
  | 0, document, _ => some document
  | turns + 1, document, text =>
    if text.isEmpty then some document
    else do
      let (document, rest) ← document.readLine text
      readLines turns document (← lineEnd? (skipComment (skipGap rest)))

/-- The text without the mark that may precede it. -/
def dropMark : Text → Text
  | '\uFEFF' :: rest => rest
  | text => text

/-- The entries that a text writes. -/
def ofText? (text : Text) : Option Entries := do
  let text := dropMark text
  some (← readLines (text.length + 1) empty text).entries

end Document

end Toml

end ScriptSanitizer
