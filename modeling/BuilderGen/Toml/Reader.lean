import BuilderGen.Schema.Reader
import BuilderGen.Toml.Quoted
import BuilderGen.Toml.Scalar
import BuilderGen.Toml.Tree

/-!
# Reading TOML texts

A text is a sequence of lines: headers that open a table, and entries that assign a value to a key
in the table opened last. Values may span lines only inside brackets and tripled quotes. Brackets
may be nested eighty deep, and a key may have eighty parts.
-/

namespace BuilderGen.Toml

open BuilderGen.Data (Node)
open BuilderGen.Schema (Manifest SchemaError)

/-! ## 1. Blanks -/

/-- The text behind the blanks of a line. -/
def skipSpace (s : List Char) : List Char := s.dropWhile isSpace

/-- The text behind a comment, which reaches up to the end of its line. -/
def skipComment : List Char → Option (List Char)
  | [] => some []
  | c :: rest =>
    if startsLine (c :: rest) then some (c :: rest)
    else if isPlain c then skipComment rest
    else none

/-- The text behind blanks, comments and line ends. -/
def skipLines : Nat → List Char → Option (List Char)
  | 0, s => some s
  | fuel + 1, s =>
    match skipSpace s with
    | '#' :: rest => (skipComment rest).bind (skipLines fuel)
    | s => if startsLine s then skipLines fuel (dropLineEnd s) else some s

/-! ## 2. Keys -/

/-- Whether a key may hold a character without quotes. -/
def isBareKeyChar (c : Char) : Bool := c.isAlphanum || c == '_' || c == '-'

/-- A part of a key, and what follows it. -/
def readKeyPart (s : List Char) : Option (String × List Char) :=
  match scanShort? s with
  | some quoted => quoted.map fun (key, rest) => (String.ofList key, rest)
  | none =>
    let key := s.takeWhile isBareKeyChar
    if key.isEmpty then none else some (String.ofList key, s.dropWhile isBareKeyChar)

/-- The parts of a key, and what follows it and the blanks behind it. At most `fuel` parts are
read. -/
def readKeyParts : Nat → List Char → Option (List String × List Char)
  | 0, _ => none
  | fuel + 1, s => do
    let (part, rest) ← readKeyPart (skipSpace s)
    match skipSpace rest with
    | '.' :: rest => do
      let (path, rest) ← readKeyParts fuel rest
      return (part :: path, rest)
    | rest => return ([part], rest)

/-- How many parts a key may have. -/
def maxKeyParts : Nat := 80

/-- A key, which may be dotted, and what follows it and the blanks behind it. -/
def readKey (s : List Char) : Option (List String × List Char) := readKeyParts maxKeyParts s

/-! ## 3. Values -/

/-- Whether a bare scalar ends in front of a character. -/
def endsScalar (c : Char) : Bool :=
  isSpace c || c == '\n' || c == '\r' || c == ',' || c == ']' || c == '}' || c == '#'

/-- A bare scalar, and what follows it. The time behind a date may follow a blank. -/
def readScalar (s : List Char) : Option (Node × List Char) :=
  let first := s.takeWhile (!endsScalar ·)
  let rest := s.dropWhile (!endsScalar ·)
  match date? first, rest with
  | some (_, []), ' ' :: c :: more =>
    if c.isDigit then
      let second := (c :: more).takeWhile (!endsScalar ·)
      (scalar? (first ++ ' ' :: second)).map (·, (c :: more).dropWhile (!endsScalar ·))
    else (scalar? first).map (·, rest)
  | _, _ => (scalar? first).map (·, rest)

/-- The text at the value of an entry in braces, from the text behind its key. The equals sign may
have line ends and comments around it. -/
def readAssigned (s : List Char) : Option (List Char) :=
  match skipLines s.length s with
  | some ('=' :: rest) => skipLines rest.length rest
  | _ => none

/-- How deep brackets may be nested. -/
def maxNesting : Nat := 80

mutual

/-- A value, and what follows it. -/
def readValue : Nat → Nat → List Char → Option (Node × List Char)
  | 0, _, _ => none
  | fuel + 1, depth, s =>
    match scanQuoted? s with
    | some quoted => quoted.map fun (text, rest) => (.text (String.ofList text), rest)
    | none =>
      match s with
      | '[' :: rest =>
        if depth < maxNesting then
          (readItems fuel (depth + 1) rest).map fun (items, rest) => (.list items, rest)
        else none
      | '{' :: rest =>
        if depth < maxNesting then
          (readEntries fuel (depth + 1) [] rest).map fun (es, rest) =>
            (.table (entryNodes es), rest)
        else none
      | s => readScalar s

/-- The items of an array up to its closing bracket, and what follows it. -/
def readItems : Nat → Nat → List Char → Option (List Node × List Char)
  | 0, _, _ => none
  | fuel + 1, depth, s =>
    match skipLines s.length s with
    | none => none
    | some (']' :: rest) => some ([], rest)
    | some s =>
      match readValue fuel depth s with
      | none => none
      | some (item, rest) =>
        match skipLines rest.length rest with
        | some (',' :: rest) =>
          (readItems fuel depth rest).map fun (items, rest) => (item :: items, rest)
        | some (']' :: rest) => some ([item], rest)
        | _ => none

/-- The entries of a table in braces up to the closing one, and what follows it. -/
def readEntries : Nat → Nat → Entries → List Char → Option (Entries × List Char)
  | 0, _, _, _ => none
  | fuel + 1, depth, entries, s =>
    match skipLines s.length s with
    | none => none
    | some ('}' :: rest) => some (entries, rest)
    | some s =>
      match readKey s with
      | none => none
      | some (path, rest) =>
        match readAssigned rest with
        | none => none
        | some rest =>
          match readValue fuel depth rest with
          | none => none
          | some (value, rest) =>
            match assign false .header value path entries, skipLines rest.length rest with
            | some entries, some (',' :: rest) => readEntries fuel depth entries rest
            | some entries, some ('}' :: rest) => some (entries, rest)
            | _, _ => none

end

/-! ## 4. Lines -/

/-- A document under construction, and the path of the table opened last. -/
structure Draft where
  root : Entries
  current : List String

/-- The text behind the end of a line, with blanks and a comment in front of it. -/
def finishLine (s : List Char) : Option (List Char) :=
  match skipSpace s with
  | [] => some []
  | '#' :: rest => (skipComment rest).map dropLineEnd
  | s => if startsLine s then some (dropLineEnd s) else none

/-- A line with a header or an entry, and what follows the line. -/
def readLine (d : Draft) (s : List Char) : Option (Draft × List Char) :=
  match s with
  | '[' :: '[' :: rest =>
    match readKey rest with
    | some (path, ']' :: ']' :: rest) => do
      let root ← openElement path d.root
      return (⟨root, path⟩, ← finishLine rest)
    | _ => none
  | '[' :: rest =>
    match readKey rest with
    | some (path, ']' :: rest) => do
      let root ← openTable path d.root
      return (⟨root, path⟩, ← finishLine rest)
    | _ => none
  | s =>
    match readKey s with
    | some (path, '=' :: rest) => do
      let (value, rest) ← readValue (2 * rest.length + 2) 0 (skipSpace rest)
      let root ← within (assign false .header value path) d.current d.root
      return (⟨root, d.current⟩, ← finishLine rest)
    | _ => none

/-- The document that lines build. -/
def readLines : Nat → Draft → List Char → Option Draft
  | 0, _, _ => none
  | fuel + 1, d, s =>
    match skipLines s.length s with
    | none => none
    | some [] => some d
    | some s => (readLine d s).bind fun (d, rest) => readLines fuel d rest

/-- The text without a byte order mark at its front. -/
def dropMark : List Char → List Char
  | '\ufeff' :: rest => rest
  | s => s

/-- The document that a text holds, if the text is well formed. -/
def read? (text : String) : Option Node :=
  let s := dropMark text.toList
  (readLines (s.length + 1) ⟨[], []⟩ s).map fun d => .table (entryNodes d.root)

end BuilderGen.Toml

namespace BuilderGen.Schema

/-- The manifest that a TOML text describes. -/
def Manifest.ofToml (text : String) : Except SchemaError Manifest :=
  match (Toml.read? text).bind (Manifest.ofNode? .toml) with
  | some m => .ok m
  | none => .error (.malformed .toml)

end BuilderGen.Schema
