import StagedSynthesis.Toml.Scalar

/-!
# Settings documents

How keys, arrays, tables and whole files are written, and the tree that a file describes. A file
that breaks a rule of the format describes nothing.
-/

namespace StagedSynthesis.Toml

/-! ## Keys -/

/-- A character of a key that needs no quotes. -/
def isKeyCharacter (c : Char) : Bool :=
  c.isAlphanum || c = '-' || c = '_'

/-- One part of a key: quoted, or of characters that need no quotes. -/
def keyPart : Reader String
  | '"' :: rest => (basicBody rest).map fun (body, rest) => (String.ofList body, rest)
  | '\'' :: rest => (literalBody rest).map fun (body, rest) => (String.ofList body, rest)
  | text =>
      match text.takeWhile isKeyCharacter with
      | [] => none
      | part => some (String.ofList part, text.dropWhile isKeyCharacter)

/-- Values are nested less deep than this, and keys have fewer parts than this. -/
def nestingLimit : Nat :=
  80

/-- The parts of a dotted key after the first, of which there are at most so many, each behind a
dot. Blanks may surround each part. -/
def furtherParts (count : Nat) (text : List Char) : Option (List String × List Char) :=
  match count, skipSpace text with
  | 0, '.' :: _ => none
  | count + 1, '.' :: rest => do
      let (part, rest) ← keyPart (skipSpace rest)
      let (parts, rest) ← furtherParts count rest
      some (part :: parts, rest)
  | _, rest => some ([], rest)

/-- A dotted key, as the parts before the last and the last. -/
def dottedKey : Reader (List String × String) := fun text => do
  let (first, rest) ← keyPart (skipSpace text)
  let (others, rest) ← furtherParts (nestingLimit - 2) rest
  let parts := first :: others
  some ((parts.dropLast, parts.getLast?.getD first), rest)

/-! ## Arrays and tables -/

/-- The text after blanks, line endings and whole comments. A comment has to end with its line. -/
def skipFiller (text : List Char) : Option (List Char) :=
  match skipSpace text with
  | '#' :: comment =>
      match afterNewline? (comment.dropWhile isPlain) with
      | none => none
      | some rest => if rest.length < text.length then skipFiller rest else none
  | other =>
      match afterNewline? other with
      | none => some other
      | some rest => if rest.length < text.length then skipFiller rest else none
termination_by text.length

/-- The elements of an array and the closing bracket. A comma may follow the last element. -/
def arrayElements (element : Reader Value) (text : List Char) :
    Option (List Value × List Char) := do
  match ← skipFiller text with
  | ']' :: rest => some ([], rest)
  | start =>
      let (value, rest) ← element start
      match ← skipFiller rest with
      | ']' :: rest => some ([value], rest)
      | ',' :: rest =>
          if rest.length < text.length then do
            let (values, rest) ← arrayElements element rest
            some (value :: values, rest)
          else
            none
      | _ => none
termination_by text.length

/-- A key, an equals sign and a value. -/
def keyValue (value : Reader Value) : Reader ((List String × String) × Value) := fun text => do
  let (key, rest) ← dottedKey text
  let rest ← afterWord? ['='] rest
  let (value, rest) ← value (skipSpace rest)
  some ((key, value), rest)

/-- The entries of a table between braces, of which there is at least one, and the closing
brace. -/
def inlineEntries (value : Reader Value) (entries : Entries) (text : List Char) :
    Option (Entries × List Char) := do
  let (((path, key), value'), rest) ← keyValue value text
  let entries ← entries.insert path key value'
  match skipSpace rest with
  | '\x7d' :: rest => some (entries, rest)
  | ',' :: rest =>
      if rest.length < text.length then inlineEntries value entries rest else none
  | _ => none
termination_by text.length

/-- A table after its opening brace. -/
def inlineTable (value : Reader Value) : Reader Value := fun text =>
  match skipSpace text with
  | '\x7d' :: rest => some (.table .inline [], rest)
  | start => (inlineEntries value [] start).map fun (entries, rest) =>
      (.table .inline entries, rest)

/-- A value in which arrays and tables are nested at most so deep. -/
def value : Nat → Reader Value
  | 0 => scalar
  | depth + 1 => fun text =>
      match text with
      | '[' :: rest =>
          (arrayElements (value depth) rest).map fun (values, rest) => (.array values, rest)
      | '\x7b' :: rest => inlineTable (value depth) rest
      | _ => scalar text

/-! ## Documents -/

/-- The text after the end of a line: blanks, a comment, and a line ending or the end of the
file. -/
def afterLine? (text : List Char) : Option (List Char) :=
  let rest := match skipSpace text with
    | '#' :: comment => comment.dropWhile isPlain
    | other => other
  match rest with
  | [] => some []
  | _ => afterNewline? rest

/-- The tree described so far and the header under which entries are added. -/
structure Draft where
  header : List String := []
  root : Entries := []

/-- Read one line that is not blank: a comment, a header, or a key and its value. -/
def Draft.line (draft : Draft) : List Char → Option (Draft × List Char)
  | '[' :: '[' :: text => do
      let ((path, key), rest) ← dottedKey text
      let rest ← afterWord? [']', ']'] rest
      let rest ← afterLine? rest
      let root ← draft.root.openRow path key
      some (⟨path ++ [key], root⟩, rest)
  | '[' :: text => do
      let ((path, key), rest) ← dottedKey text
      let rest ← afterWord? [']'] rest
      let rest ← afterLine? rest
      let root ← draft.root.openTable path key
      some (⟨path ++ [key], root⟩, rest)
  | text =>
      match afterLine? text with
      | some rest => some (draft, rest)
      | none => do
          let (((path, key), value), rest) ← keyValue (value (nestingLimit - 1)) text
          let rest ← afterLine? rest
          let root ← draft.root.insertUnder draft.header path key value
          some ({ draft with root := root }, rest)

/-- Read lines to the end of the file. -/
def Draft.lines (draft : Draft) (text : List Char) : Option Entries :=
  match skipSpace text with
  | [] => some draft.root
  | start =>
      match draft.line start with
      | none => none
      | some (draft, rest) => if rest.length < text.length then draft.lines rest else none
termination_by text.length

/-- The tree that the text of a file describes. A byte order mark may lead the text. -/
def parse (text : String) : Option Entries :=
  match text.toList with
  | '\ufeff' :: rest => Draft.lines {} rest
  | start => Draft.lines {} start

end StagedSynthesis.Toml
