import BuilderGen.Number.Digit
import BuilderGen.Text.Blank
import BuilderGen.Text.Numeric

/-!
# Patterns of values

A filter may narrow a directive down to a field with a certain value, which a regular expression
describes. Only the values of spans are looked at, and there are no spans; so all that matters of a
pattern is whether it is well formed.

A pattern consists of characters, classes in brackets, groups, alternatives and repetitions. The
tables of Unicode are not at hand: among characters there are no categories, no edges of words and
no equal treatment of upper and lower case, all of which exist among bytes. Counts in braces do not
occur, because a closing brace ends the field.
-/

namespace BuilderGen.Log.Pattern

/-! ## 1. Modes -/

/-- How a part of a pattern is read. -/
structure Modes where
  /-- Whether upper and lower case are treated alike. -/
  ignoresCase : Bool
  /-- Whether the pattern is about characters, not about bytes. -/
  unicode : Bool
  /-- Whether blanks and comments may stand between the parts. -/
  spaced : Bool
deriving DecidableEq, Repr

/-- How a pattern is read at its start. -/
def Modes.initial : Modes := ⟨false, true, false⟩

/-- The letters that stand for modes, and the sign that turns those behind it off. -/
def modeLetters : List Char := ['i', 'm', 's', 'U', 'u', 'R', 'x', '-']

/-- Whether letters set modes: each stands once, and the sign is not the last. -/
def areModes (letters : List Char) : Bool :=
  letters.all modeLetters.contains && letters.eraseDups.length == letters.length
    && letters.getLast? != some '-'

/-- The modes that letters set. -/
def Modes.set (m : Modes) (letters : List Char) : Modes :=
  let on := letters.takeWhile (· != '-')
  let off := letters.dropWhile (· != '-')
  let mode (letter : Char) (old : Bool) : Bool := on.contains letter || old && !off.contains letter
  ⟨mode 'i' m.ignoresCase, mode 'u' m.unicode, mode 'x' m.spaced⟩

/-- The text behind blanks and comments. A comment reaches up to the end of its line. -/
def skipStrewn : Nat → List Char → List Char
  | fuel + 1, c :: rest =>
    if Text.isBlank c then skipStrewn fuel rest
    else if c = '#' then skipStrewn fuel ((rest.dropWhile (· != '\n')).drop 1)
    else c :: rest
  | _, s => s

/-- The text behind what may stand between two parts. -/
def Modes.skip (m : Modes) (s : List Char) : List Char :=
  if m.spaced then skipStrewn s.length s else s

/-! ## 2. Single parts -/

/-- A part that stands for itself, for a category or for a place. -/
inductive Atom where
  | literal (c : Char)
  /-- A character by its number in two digits, or a byte where the pattern is about bytes. -/
  | byte (c : Char)
  | category
  | complement
  /-- The start or the end of a word, or a place that is neither. -/
  | wordEdge
  /-- The start or the end of the text. -/
  | edge
deriving DecidableEq, Repr

/-- The character that a part stands for. -/
def Atom.char? : Atom → Option Char
  | .literal c => some c
  | .byte c => some c
  | _ => none

/-- Whether a part may stand outside of classes. -/
def Modes.admits (m : Modes) : Atom → Bool
  | .literal _ => !(m.ignoresCase && m.unicode)
  | .byte c => if m.unicode then !m.ignoresCase else c.toNat < 0x80
  | .category | .wordEdge => !m.unicode
  | .complement => false
  | .edge => true

/-- Whether a part may stand in a class. -/
def Modes.admitsInClass (m : Modes) : Atom → Bool
  | .literal c | .byte c => if m.unicode then !m.ignoresCase else c.toNat < 0x80
  | .category => !m.unicode
  | _ => false

/-- The character whose number hexadecimal digits write. -/
def charOf? (digits : List Char) : Option Char :=
  match Number.hexNumber? digits with
  | some n => if h : n.isValidChar then some (Char.ofNatAux n h) else none
  | none => none

/-- A character by its number in so many digits, and what follows it. -/
def readCode? (count : Nat) (s : List Char) : Option (Char × List Char) :=
  if s.length < count then none else (charOf? (s.take count)).map (·, s.drop count)

/-- Whether a character stands for itself behind a backslash. -/
def isEscapable (c : Char) : Bool := c.toNat < 0x80 && !c.isAlphanum

/-- The part that a backslash starts, from the text behind it, and what follows the part. -/
def readEscape? : List Char → Option (Atom × List Char)
  | [] => none
  | c :: rest =>
    if c == 'x' then (readCode? 2 rest).map fun (c, rest) => (.byte c, rest)
    else if c == 'u' then (readCode? 4 rest).map fun (c, rest) => (.literal c, rest)
    else if c == 'U' then (readCode? 8 rest).map fun (c, rest) => (.literal c, rest)
    else if c == 'd' || c == 's' || c == 'w' then some (.category, rest)
    else if c == 'D' || c == 'S' || c == 'W' then some (.complement, rest)
    else if c == 'b' || c == 'B' || c == '<' || c == '>' then some (.wordEdge, rest)
    else if c == 'A' || c == 'z' then some (.edge, rest)
    else if ['a', 'f', 'n', 'r', 't', 'v'].contains c || isEscapable c then
      some (.literal c, rest)
    else none

/-! ## 3. Classes -/

/-- A part of a class, and what follows it. -/
def readItem? : List Char → Option (Atom × List Char)
  | [] => none
  | '\\' :: rest => readEscape? rest
  | c :: rest => some (.literal c, rest)

/-- What follows a part of a class or a range of characters in it. A dash in front of a dash or of
the closing bracket makes no range. -/
def readRange? (m : Modes) (s : List Char) : Option (List Char) := do
  let (first, rest) ← readItem? s
  let rest := m.skip rest
  let behindDash := match rest with
    | '-' :: more => some (m.skip more)
    | _ => none
  match behindDash with
  | none | some (']' :: _) | some ('-' :: _) =>
    if m.admitsInClass first then some rest else none
  | some next =>
    let (last, rest) ← readItem? next
    let low ← first.char?
    let high ← last.char?
    if low ≤ high && m.admitsInClass first && m.admitsInClass last then some rest else none

/-- What follows an opening bracket and the signs behind it, which are read in a way of their own: a
closing bracket that comes first, and dashes, stand for themselves. -/
def openClass? (m : Modes) (s : List Char) : Option (List Char) :=
  let s := m.skip s
  let negated := s.head? == some '^'
  if negated && !m.unicode || m.ignoresCase && m.unicode then none
  else
    match if negated then m.skip (s.drop 1) else s with
    | ']' :: rest => some rest
    | s => some (s.dropWhile fun c => c == '-' || m.spaced && Text.isBlank c)

/-- What follows a class, from the text inside it. The class stands in `depth` others. -/
def readClass? (m : Modes) : Nat → Nat → List Char → Option (List Char)
  | 0, _, _ => none
  | fuel + 1, depth, s =>
    match m.skip s, depth with
    | [], _ => none
    | '[' :: rest, depth => (openClass? m rest).bind (readClass? m fuel (depth + 1))
    | ']' :: rest, 0 => some rest
    | ']' :: rest, depth + 1 => readClass? m fuel depth rest
    | '&' :: '&' :: rest, depth | '-' :: '-' :: rest, depth | '~' :: '~' :: rest, depth =>
      readClass? m fuel depth rest
    | s, depth => (readRange? m s).bind (readClass? m fuel depth)

/-! ## 4. Groups -/

/-- Whether a text names a group. -/
def isGroupName : List Char → Bool
  | [] => false
  | c :: rest =>
    (c == '_' || Text.isAlphabetic c)
      && rest.all fun c => ['_', '.', '[', ']'].contains c || Text.isAlphanumeric c

/-- Where a reader is in a pattern. -/
structure Place where
  modes : Modes
  /-- The modes outside of the open groups, the innermost first. -/
  outer : List Modes
  /-- Whether there is something in front that can be repeated. -/
  repeatable : Bool
  /-- The names of groups so far. -/
  names : List (List Char)

/-- The start of a pattern. -/
def Place.start : Place := ⟨.initial, [], false, []⟩

/-- The place inside a group that is opened. -/
def Place.enter (p : Place) (inside : Modes) : Place :=
  { p with modes := inside, outer := p.modes :: p.outer, repeatable := false }

/-- Enters a group with a name, from the text behind the bracket in front of the name. -/
def enterNamed? (p : Place) (s : List Char) : Option (Place × List Char) :=
  let name := s.takeWhile (· != '>')
  match s.dropWhile (· != '>') with
  | [] => none
  | _ :: rest =>
    if isGroupName name && !p.names.contains name then
      some ({ p.enter p.modes with names := name :: p.names }, rest)
    else none

/-- Sets modes for the rest of the group, or enters one in which they are set. -/
def setModes? (p : Place) (s : List Char) : Option (Place × List Char) :=
  let letters := s.takeWhile fun c => c != ':' && c != ')'
  if !areModes letters then none
  else
    match s.drop letters.length with
    | ':' :: rest => some (p.enter (p.modes.set letters), rest)
    | ')' :: rest =>
      if letters.isEmpty then none
      else some ({ p with modes := p.modes.set letters, repeatable := false }, rest)
    | _ => none

/-- The place behind what an opening parenthesis starts. Nothing looks ahead or back. -/
def openGroup? (p : Place) : List Char → Option (Place × List Char)
  | '?' :: '=' :: _ | '?' :: '!' :: _ | '?' :: '<' :: '=' :: _ | '?' :: '<' :: '!' :: _ => none
  | '?' :: 'P' :: '<' :: s | '?' :: '<' :: s => enterNamed? p s
  | '?' :: s => setModes? p s
  | s => some (p.enter p.modes, s)

/-! ## 5. Whole patterns -/

/-- What follows a part outside of classes. -/
def readAtom? (m : Modes) : List Char → Option (List Char)
  | [] => none
  | '.' :: rest => if m.unicode then some rest else none
  | '^' :: rest | '$' :: rest => some rest
  | '\\' :: rest =>
    (readEscape? rest).bind fun (atom, rest) => if m.admits atom then some rest else none
  | c :: rest => if m.admits (.literal c) then some rest else none

/-- Whether a text is the rest of a well-formed pattern. -/
def isRest : Nat → Place → List Char → Bool
  | 0, _, _ => false
  | fuel + 1, p, s =>
    match p.modes.skip s with
    | [] => p.outer.isEmpty
    | '(' :: rest =>
      match openGroup? p (p.modes.skip rest) with
      | some (p, rest) => isRest fuel p rest
      | none => false
    | ')' :: rest =>
      match p.outer with
      | [] => false
      | m :: outer => isRest fuel { p with modes := m, outer, repeatable := true } rest
    | '|' :: rest => isRest fuel { p with repeatable := false } rest
    | '[' :: rest =>
      match (openClass? p.modes rest).bind (readClass? p.modes (rest.length + 1) 0) with
      | some rest => isRest fuel { p with repeatable := true } rest
      | none => false
    | '{' :: _ => false
    | '?' :: rest | '*' :: rest | '+' :: rest => p.repeatable && isRest fuel p rest
    | s =>
      match readAtom? p.modes s with
      | some rest => isRest fuel { p with repeatable := true } rest
      | none => false

/-- Whether a text is a well-formed pattern. -/
def isWellFormed (s : List Char) : Bool := isRest (s.length + 1) .start s

/-! ## 6. Numbers -/

/-- Whether a text is decimal digits with a point among them or none, and at least one digit. -/
def isPlainNumber (s : List Char) : Bool :=
  let digits := s.takeWhile (· != '.') ++ (s.dropWhile (· != '.')).drop 1
  !digits.isEmpty && digits.all Char.isDigit

/-- The text without the sign at its front. -/
def dropSign : List Char → List Char
  | '+' :: rest | '-' :: rest => rest
  | s => s

/-- Whether a text writes a number, an infinity, or the result of an undefined operation. -/
def isNumber (s : List Char) : Bool :=
  let s := dropSign s
  let exponent := s.dropWhile (!Number.isExponentMark ·)
  let digits := dropSign (exponent.drop 1)
  ["inf", "infinity", "nan"].contains (String.ofList (s.map Char.toLower))
    || isPlainNumber (s.takeWhile (!Number.isExponentMark ·))
      && (exponent.isEmpty || !digits.isEmpty && digits.all Char.isDigit)

/-- Whether a text describes values: it is one of a scalar kind, or a well-formed pattern. -/
def describesValues (s : List Char) : Bool := isNumber s || isWellFormed s

end BuilderGen.Log.Pattern
