import Stencil.Toml.Scalar

/-!
# Reading TOML

A document is read line by line.  Headers open tables, and all other lines give values to keys of
the table that was opened last.
-/

namespace Stencil
namespace Toml

/-- The characters after the visible ones of a comment. -/
def skipComment (text : List Char) : List Char :=
  text.dropWhile isVisible

/-- The characters after the end of a line, on which only a comment may still stand. -/
def endLine (text : List Char) : Option (List Char) :=
  let text :=
    match skipBlank text with
    | '#' :: text => skipComment text
    | text => text
  if text.isEmpty then some [] else lineBreak? text

/-- The characters after spaces, comments and line breaks, where the text may start inside a
comment. -/
def skipLines : (commented : Bool) → List Char → Option (List Char)
  | _, [] => some []
  | _, '\n' :: text => skipLines false text
  | _, '\r' :: '\n' :: text => skipLines false text
  | commented, character :: text =>
    if commented then if isVisible character then skipLines true text else none
    else if isBlank character then skipLines false text
    else if character = '#' then skipLines true text
    else some (character :: text)

mutual

/-- Reads a value with at most `fuel` nested calls and at most `room` arrays and tables inside each
other. -/
def readValue : (fuel room : Nat) → List Char → Option (Toml × List Char)
  | 0, _, _ => none
  | fuel + 1, room, text =>
    match text, room with
    | '"' :: text, _ => (readText '"' text).map fun (read, rest) =>
        (.scalar (.text (String.ofList read)), rest)
    | '\'' :: text, _ => (readText '\'' text).map fun (read, rest) =>
        (.scalar (.text (String.ofList read)), rest)
    | '[' :: _, 0 => none
    | '{' :: _, 0 => none
    | '[' :: text, room + 1 =>
      (readItems fuel room text).map fun (items, rest) => (.array items, rest)
    | '{' :: text, room + 1 =>
      match skipBlank text with
      | '}' :: text => some (.table .inline [], text)
      | text =>
        (readFields fuel room [] text).map fun (fields, rest) => (.table .inline fields, rest)
    | text, _ => readWord text

/-- Reads the values of an array and its closing bracket. -/
def readItems : (fuel room : Nat) → List Char → Option (List Toml × List Char)
  | 0, _, _ => none
  | fuel + 1, room, text =>
    match skipLines false text with
    | some (']' :: text) => some ([], text)
    | some text =>
      match readValue fuel room text with
      | none => none
      | some (item, text) =>
        match skipLines false text with
        | some (',' :: text) =>
          (readItems fuel room text).map fun (items, rest) => (item :: items, rest)
        | some (']' :: text) => some ([item], text)
        | _ => none
    | none => none

/-- Reads the fields of a table between braces, and the closing brace. -/
def readFields : (fuel room : Nat) → Fields → List Char → Option (Fields × List Char)
  | 0, _, _, _ => none
  | fuel + 1, room, fields, text =>
    match readKey text with
    | some (keys, '=' :: text) =>
      match readValue fuel room (skipBlank text) with
      | none => none
      | some (value, text) =>
        match assign .inlineDotted value keys fields, skipBlank text with
        | some fields, ',' :: text => readFields fuel room fields text
        | some fields, '}' :: text => some (fields, text)
        | _, _ => none
    | _ => none

end

/-- What has been read of a document. -/
structure Document where
  /-- All tables. -/
  root : Toml
  /-- The path of the table that was opened last. -/
  path : List String

namespace Document

/-- A document without a line. -/
def empty : Document where
  root := .table .defined []
  path := []

/-- Opens the table at a path. -/
def openAt (document : Document) (opening : String → Form → Fields → Option Toml)
    (path : List String) : Option Document :=
  match path.getLast? with
  | none => none
  | some key => (onPath (opening key) path.dropLast document.root).map fun root => ⟨root, path⟩

/-- Gives a value to a key of the table that was opened last. -/
def assignAt (document : Document) (keys : List String) (value : Toml) : Option Document :=
  let change (form : Form) (fields : Fields) : Option Toml :=
    (assign .dotted value keys fields).map (table form)
  (onPath change document.path document.root).map fun root => { document with root }

/-- Reads a line that is not empty. -/
def readLine (document : Document) (text : List Char) : Option (Document × List Char) :=
  match text with
  | '[' :: '[' :: text =>
    match readKey text with
    | some (path, ']' :: ']' :: text) =>
      (document.openAt addTable path).map fun document => (document, text)
    | _ => none
  | '[' :: text =>
    match readKey text with
    | some (path, ']' :: text) =>
      (document.openAt openTable path).map fun document => (document, text)
    | _ => none
  | text =>
    match readKey text with
    | some (keys, '=' :: text) => do
      let (value, text) ← readValue (2 * text.length + 1) depthLimit (skipBlank text)
      let document ← document.assignAt keys value
      return (document, text)
    | _ => none

/-- Reads at most `fuel` lines. -/
def readLines : (fuel : Nat) → Document → List Char → Option Document
  | 0, document, text => if text.isEmpty then some document else none
  | fuel + 1, document, text => do
    let text ← skipLines false text
    match text with
    | [] => return document
    | text =>
      let (document, rest) ← document.readLine text
      let rest ← endLine rest
      readLines fuel document rest

end Document

/-- The document that a text denotes. -/
def read? (text : List Char) : Option Toml :=
  (Document.readLines (text.length + 1) .empty text).map Document.root

end Toml
end Stencil
