import BuilderGen.Number.Scaled

/-!
# The tokens of a JSON text

A text is cut into punctuation, words, numbers and strings. A string keeps its escapes of code
units until it is looked at: whether two halves make a pair is a question of its value, not of its
form. A number keeps its digits for the same reason.
-/

namespace BuilderGen.Json

open BuilderGen.Number (Numeral digit hexNumber? isExponentMark)

/-! ## 1. Characters -/

/-- The four characters that may stand between two tokens. -/
def isSpace (c : Char) : Bool := c == ' ' || c == '\t' || c == '\n' || c == '\r'

/-! ## 2. Strings -/

/-- One element of a string: a character, or the half of a surrogate pair. -/
inductive Unit16 where
  | char (c : Char)
  | half (n : Nat)
deriving DecidableEq, Repr

/-- The element that an escaped code unit stands for. -/
def Unit16.ofCode (n : Nat) : Unit16 :=
  if 0xD800 ≤ n && n ≤ 0xDFFF then .half n else .char (Char.ofNat n)

/-- The character behind a backslash, for the escapes of one letter. -/
def shortEscape? : Char → Option Char
  | '"' => some '"'
  | '\\' => some '\\'
  | '/' => some '/'
  | 'b' => some '\x08'
  | 'f' => some '\x0c'
  | 'n' => some '\n'
  | 'r' => some '\r'
  | 't' => some '\t'
  | _ => none

/-- A scanned string with one more element at its front. -/
def pushUnit (u : Unit16) (scanned : List Unit16 × List Char) : List Unit16 × List Char :=
  (u :: scanned.1, scanned.2)

/-- The elements of a string up to its closing quote, and the text behind it. -/
def scanString : List Char → Option (List Unit16 × List Char)
  | [] => none
  | '"' :: rest => some ([], rest)
  | '\\' :: 'u' :: a :: b :: c :: d :: rest =>
    match hexNumber? [a, b, c, d] with
    | some n => (scanString rest).map (pushUnit (.ofCode n))
    | none => none
  | '\\' :: e :: rest =>
    match shortEscape? e with
    | some c => (scanString rest).map (pushUnit (.char c))
    | none => none
  | c :: rest =>
    if c == '\\' || c.toNat < 0x20 then none
    else (scanString rest).map (pushUnit (.char c))

/-- The characters of a string, if every half of a pair meets its other half. -/
def joinUnits : List Unit16 → Option (List Char)
  | [] => some []
  | .char c :: rest => (joinUnits rest).map (c :: ·)
  | .half h :: .half l :: rest =>
    if h < 0xDC00 && 0xDC00 ≤ l then
      (joinUnits rest).map (Char.ofNat (0x10000 + (h - 0xD800) * 0x400 + (l - 0xDC00)) :: ·)
    else none
  | .half _ :: _ => none

/-! ## 3. Numbers -/

/-- The digits that a number part consists of, if there is at least one and nothing else. -/
def digits? (s : List Char) : Option (List Nat) :=
  if !s.isEmpty && s.all Char.isDigit then some (s.map digit) else none

/-- The digits before the point: no zero at the front of another digit. -/
def whole? (s : List Char) : Option (List Nat) :=
  match s with
  | '0' :: _ :: _ => none
  | s => digits? s

/-- The exponent behind its mark: digits with an optional sign. -/
def exponent? : List Char → Option Int
  | '+' :: s => (digits? s).map fun ds => (Number.digitsValue 0 ds : Int)
  | '-' :: s => (digits? s).map fun ds => -(Number.digitsValue 0 ds : Int)
  | s => (digits? s).map fun ds => (Number.digitsValue 0 ds : Int)

/-- A number without its sign. -/
def unsigned? (negative : Bool) (s : List Char) : Option Numeral := do
  let mantissa := s.takeWhile (!isExponentMark ·)
  let exponent ← match s.dropWhile (!isExponentMark ·) with
    | [] => pure none
    | _ :: e => (exponent? e).map some
  let whole ← whole? (mantissa.takeWhile (· != '.'))
  let fraction ← match mantissa.dropWhile (· != '.') with
    | [] => pure none
    | _ :: f => (digits? f).map some
  return ⟨negative, whole, fraction, exponent⟩

/-- The number that a run of number characters writes. -/
def numeral? : List Char → Option Numeral
  | '-' :: s => unsigned? true s
  | s => unsigned? false s

/-- The characters of which numbers consist. -/
def isNumberChar (c : Char) : Bool :=
  c.isDigit || c == '-' || c == '+' || c == '.' || isExponentMark c

/-! ## 4. Tokens -/

/-- A token of a JSON text. -/
inductive Token where
  | openTable
  | closeTable
  | openList
  | closeList
  | colon
  | comma
  | null
  | bool (b : Bool)
  | number (n : Numeral)
  | string (units : List Unit16)
deriving DecidableEq, Repr

/-- The token that a punctuation character is. -/
def punctuation? : Char → Option Token
  | '{' => some .openTable
  | '}' => some .closeTable
  | '[' => some .openList
  | ']' => some .closeList
  | ':' => some .colon
  | ',' => some .comma
  | _ => none

/-- The token that a run of letters is. -/
def word? (s : List Char) : Option Token :=
  if s = ['n', 'u', 'l', 'l'] then some .null
  else if s = ['t', 'r', 'u', 'e'] then some (.bool true)
  else if s = ['f', 'a', 'l', 's', 'e'] then some (.bool false)
  else none

/-- The token at the front of a text that starts with the character `c`, and the text behind it. -/
def scanToken (c : Char) (rest : List Char) : Option (Token × List Char) :=
  match punctuation? c with
  | some t => some (t, rest)
  | none =>
    if c == '"' then (scanString rest).map fun (units, rest) => (.string units, rest)
    else if c.isAlpha then
      (word? (c :: rest.takeWhile Char.isAlpha)).map (·, rest.dropWhile Char.isAlpha)
    else if isNumberChar c then
      (numeral? (c :: rest.takeWhile isNumberChar)).map fun n =>
        (.number n, rest.dropWhile isNumberChar)
    else none

theorem length_dropWhile_le {α : Type} (p : α → Bool) (l : List α) :
    (l.dropWhile p).length ≤ l.length := (List.dropWhile_sublist p).length_le

theorem length_of_map_pushUnit {u : Unit16} {o : Option (List Unit16 × List Char)} {n : Nat}
    {units : List Unit16} {rest : List Char} (h : o.map (pushUnit u) = some (units, rest))
    (ho : ∀ units rest, o = some (units, rest) → rest.length ≤ n) : rest.length ≤ n := by
  obtain ⟨⟨us, r⟩, hr, he⟩ := Option.map_eq_some_iff.1 h
  obtain ⟨-, rfl⟩ := Prod.mk.inj he
  exact ho us r hr

/-- What follows a string is no longer than the text that was scanned. -/
theorem length_of_scanString {s rest : List Char} {units : List Unit16}
    (h : scanString s = some (units, rest)) : rest.length ≤ s.length := by
  fun_induction scanString s generalizing units rest with
  | case1 => simp at h
  | case2 r => simp_all
  | case3 a b c d r n _ ih =>
    have := length_of_map_pushUnit h fun _ _ => ih
    simp
    omega
  | case4 => simp at h
  | case5 e r _ c _ ih =>
    have := length_of_map_pushUnit h fun _ _ => ih
    simp
    omega
  | case6 => simp at h
  | case7 => simp at h
  | case8 c r _ _ _ _ ih =>
    have := length_of_map_pushUnit h fun _ _ => ih
    simp
    omega

/-- What follows a token is no longer than what followed its first character. -/
theorem length_of_scanToken {c : Char} {s rest : List Char} {t : Token}
    (h : scanToken c s = some (t, rest)) : rest.length ≤ s.length := by
  unfold scanToken at h
  split at h
  · simp at h
    simp [h.2]
  · split at h
    · obtain ⟨⟨units, r⟩, hu, hr⟩ := Option.map_eq_some_iff.1 h
      simp only [Prod.mk.injEq] at hr
      exact hr.2 ▸ length_of_scanString hu
    · split at h
      · obtain ⟨w, -, hr⟩ := Option.map_eq_some_iff.1 h
        simp only [Prod.mk.injEq] at hr
        exact hr.2 ▸ length_dropWhile_le _ _
      · split at h
        · obtain ⟨n, -, hr⟩ := Option.map_eq_some_iff.1 h
          simp only [Prod.mk.injEq] at hr
          exact hr.2 ▸ length_dropWhile_le _ _
        · simp at h

/-- The tokens of a text. -/
def tokens : List Char → Option (List Token)
  | [] => some []
  | c :: rest =>
    if isSpace c then tokens rest
    else
      match _scanned : scanToken c rest with
      | none => none
      | some (t, rest') => (tokens rest').map (t :: ·)
termination_by s => s.length
decreasing_by
  · simp
  · have := length_of_scanToken _scanned
    simp
    omega

end BuilderGen.Json
