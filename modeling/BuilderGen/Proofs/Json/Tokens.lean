import BuilderGen.Json.Printer
import BuilderGen.Json.Reader
import BuilderGen.Proofs.Text.Blank
import Mathlib.Data.Nat.Digits.Defs

/-!
# The tokens of a printed document

A printed document is cut into the tokens that it was written from, and the cutting goes on with
what stands behind it. Strings come back with all their characters, whichever are escaped, and whole
numbers with all their digits.

* `scanString_quote`: a quoted string is scanned up to its closing quote;
* `numberNode_numeralOf`: a whole number of 64 bits is the value of its digits;
* `Plain`: the documents without fractions, and with whole numbers of 64 bits;
* `tokensOf`, `cutsInto_print`: the tokens of a document, and that its text is cut into them.
-/

namespace BuilderGen.Json

open BuilderGen.Data (Node)
open BuilderGen.Number (Numeral digit digitsValue hexNumber? isExponentMark)

/-! ## 1. Strings -/

/-- Each control character is told by its last two digits. -/
theorem hexNumber?_hexChar : ∀ n < 0x20,
    hexNumber? ['0', '0', hexChar (n / 16), hexChar (n % 16)] = some n := by
  decide

/-- A character is written as an escape of one letter, as its number, or as it stands. -/
theorem escapeChar_cases (c : Char) :
    (∃ e, escapeChar c = ['\\', e] ∧ shortEscape? e = some c ∧ e ≠ 'u') ∨
    (c.toNat < 0x20 ∧ escapeChar c =
      ['\\', 'u', '0', '0', hexChar (c.toNat / 16), hexChar (c.toNat % 16)]) ∨
    (c ≠ '"' ∧ c ≠ '\\' ∧ ¬ c.toNat < 0x20 ∧ escapeChar c = [c]) := by
  by_cases hshort : c ∈ ['"', '\\', '\x08', '\x0c', '\n', '\r', '\t']
  · simp only [List.mem_cons, List.not_mem_nil, or_false] at hshort
    rcases hshort with rfl | rfl | rfl | rfl | rfl | rfl | rfl <;>
      exact .inl ⟨_, rfl, rfl, by decide⟩
  · simp only [List.mem_cons, List.not_mem_nil, or_false, not_or] at hshort
    obtain ⟨hquote, hbackslash, hb, hf, hn, hr, ht⟩ := hshort
    have hother : escapeChar c = if c.toNat < 0x20 then
        ['\\', 'u', '0', '0', hexChar (c.toNat / 16), hexChar (c.toNat % 16)] else [c] := by
      simp only [escapeChar, hquote, hbackslash, hb, hf, hn, hr, ht, if_false]
    rw [hother]
    by_cases hcontrol : c.toNat < 0x20
    · exact .inr (.inl ⟨hcontrol, if_pos hcontrol⟩)
    · exact .inr (.inr ⟨hquote, hbackslash, hcontrol, if_neg hcontrol⟩)

/-- The written form of a character is scanned as this character. -/
theorem scanString_escapeChar (c : Char) (rest : List Char) :
    scanString (escapeChar c ++ rest) = (scanString rest).map (pushUnit (.char c)) := by
  rcases escapeChar_cases c with ⟨e, hc, he, hu⟩ | ⟨hcontrol, hc⟩ | ⟨hq, hb, hcontrol, hc⟩
  · rw [hc, List.cons_append, List.singleton_append, scanString, he]
    exact fun _ _ _ _ _ h _ => hu h
  · have hcode : Unit16.ofCode c.toNat = .char c := by
      rw [Unit16.ofCode, if_neg (by simp; omega), Char.ofNat_toNat]
    rw [hc]
    simp only [List.cons_append, List.nil_append]
    rw [scanString, hexNumber?_hexChar _ hcontrol]
    dsimp only
    rw [hcode]
  · rw [hc, List.singleton_append, scanString]
    · simp [hb, hcontrol]
    all_goals simp_all

/-- **A quoted string is scanned up to its closing quote**, and has its own characters. -/
theorem scanString_quote (s rest : List Char) :
    scanString (s.flatMap escapeChar ++ '"' :: rest) = some (s.map .char, rest) := by
  induction s with
  | nil => rfl
  | cons c s ih =>
    rw [List.flatMap_cons, List.append_assoc, scanString_escapeChar, ih]
    rfl

/-- Characters without halves of pairs are joined as they stand. -/
theorem joinUnits_map_char (s : List Char) : joinUnits (s.map .char) = some s := by
  induction s with
  | nil => rfl
  | cons c s ih => rw [List.map_cons, joinUnits, ih, Option.map_some]

theorem stringNode_map_char (s : String) : stringNode (s.toList.map .char) = .text s := by
  rw [stringNode, joinUnits_map_char]
  dsimp only
  rw [String.ofList_toList]

theorem keyOf_map_char (s : String) : keyOf (.string (s.toList.map .char)) = some (some s) := by
  rw [keyOf, joinUnits_map_char, Option.map_some, String.ofList_toList]

/-! ## 2. Whole numbers -/

/-- The number that the text of a whole number writes. -/
def numeralOf (n : Int) : Numeral :=
  ⟨decide (n < 0), (Nat.toDigits 10 n.natAbs).map digit, none, none⟩

theorem digitsValue_toDigits (n : Nat) : digitsValue 0 ((Nat.toDigits 10 n).map digit) = n := by
  rw [digitsValue, List.foldl_map]
  exact Nat.ofDigitChars_eq_foldl.symm.trans Nat.ofDigitChars_ten_toDigits

/-- The first digit of a number is not zero, unless the number is. -/
theorem head?_toDigits {n : Nat} (hn : 0 < n) : (Nat.toDigits 10 n).head? ≠ some '0' := by
  have hdigit : ∀ d < 10, 0 < d → Nat.digitChar d ≠ '0' := by decide
  induction n using Nat.strongRecOn with
  | ind n ih =>
    by_cases hlt : n < 10
    · rw [Nat.toDigits_of_lt_base hlt]
      exact fun e => hdigit n hlt hn (Option.some.inj e)
    · have hhead := ih (n / 10) (by omega) (by omega)
      rw [Nat.toDigits_of_base_le (by decide) (by omega), List.head?_append]
      cases hd : Nat.toDigits 10 (n / 10) with
      | nil => exact absurd hd Nat.toDigits_ne_nil
      | cons c rest =>
        rw [hd] at hhead
        exact hhead

/-- The digits of a number have no zero in front of others. -/
theorem whole?_toDigits (n : Nat) :
    whole? (Nat.toDigits 10 n) = some ((Nat.toDigits 10 n).map digit) := by
  have hall : ∀ c ∈ Nat.toDigits 10 n, c.isDigit = true :=
    fun c hc => Nat.isDigit_of_mem_toDigits (by decide) (by decide) hc
  have hdigits : digits? (Nat.toDigits 10 n) = some ((Nat.toDigits 10 n).map digit) := by
    rw [digits?, if_pos]
    simpa [Nat.toDigits_ne_nil] using hall
  rcases Nat.eq_zero_or_pos n with rfl | hn
  · rfl
  · have hhead := head?_toDigits hn
    rw [whole?, hdigits]
    rintro c rest e
    rw [e] at hhead
    exact hhead rfl

/-- The decimal digits. -/
theorem mem_of_isDigit {c : Char} (hc : c.isDigit = true) : c ∈ "0123456789".toList := by
  have hchar : ∀ n < 58, 48 ≤ n → Char.ofNat n ∈ "0123456789".toList := by decide
  have hrange : 48 ≤ c.toNat ∧ c.toNat ≤ 57 := by
    simpa [Char.isDigit, UInt32.le_iff_toNat_le] using hc
  rw [← Char.ofNat_toNat c]
  exact hchar c.toNat (by omega) hrange.1

/-- The digits are neither a mark nor a point. -/
theorem unsigned?_toDigits (negative : Bool) (n : Nat) :
    unsigned? negative (Nat.toDigits 10 n) =
      some ⟨negative, (Nat.toDigits 10 n).map digit, none, none⟩ := by
  have hdigits : "0123456789".toList.all (fun c => !isExponentMark c && c != '.') = true := by
    decide
  have hall : ∀ c ∈ Nat.toDigits 10 n, (!isExponentMark c) = true ∧ (c != '.') = true := by
    intro c hc
    have hdigit := Nat.isDigit_of_mem_toDigits (by decide) (by decide) hc
    exact Bool.and_eq_true_iff.1 (List.all_eq_true.1 hdigits c (mem_of_isDigit hdigit))
  have hmark : (Nat.toDigits 10 n).takeWhile (!isExponentMark ·) = Nat.toDigits 10 n :=
    List.takeWhile_eq_self_iff.2 fun c hc => (hall c hc).1
  have hpoint : (Nat.toDigits 10 n).takeWhile (· != '.') = Nat.toDigits 10 n :=
    List.takeWhile_eq_self_iff.2 fun c hc => (hall c hc).2
  have hnomark : (Nat.toDigits 10 n).dropWhile (!isExponentMark ·) = [] :=
    List.dropWhile_eq_nil_iff.2 fun c hc => (hall c hc).1
  have hnopoint : (Nat.toDigits 10 n).dropWhile (· != '.') = [] :=
    List.dropWhile_eq_nil_iff.2 fun c hc => (hall c hc).2
  rw [unsigned?]
  simp only [hmark, hnomark, hpoint, hnopoint, whole?_toDigits]
  rfl

/-- **The text of a whole number writes its digits.** -/
theorem numeral?_intText (n : Int) : numeral? (intText n) = some (numeralOf n) := by
  rw [intText, numeralOf]
  by_cases hn : n < 0
  · rw [if_pos hn, numeral?, unsigned?_toDigits, decide_eq_true hn]
  · have hminus : ∀ rest, Nat.toDigits 10 n.natAbs ≠ '-' :: rest := by
      intro rest e
      have hc : '-' ∈ Nat.toDigits 10 n.natAbs := e ▸ List.mem_cons_self
      have hdigit := Nat.isDigit_of_mem_toDigits (by decide) (by decide) hc
      exact absurd hdigit (by decide)
    rw [if_neg hn, numeral?, unsigned?_toDigits, decide_eq_false hn]
    exact hminus

/-- **A whole number of 64 bits is the value of its digits.** -/
theorem numberNode_numeralOf {n : Int} (hn : -(2 ^ 63) ≤ n ∧ n < 2 ^ 64) :
    numberNode (numeralOf n) = .int n := by
  have hlow : Nat.pow 2 63 = 2 ^ 63 := rfl
  have hhigh : Number.maxWord = 2 ^ 64 - 1 := rfl
  rw [numberNode, numeralOf]
  simp only [Option.isSome_none, Bool.or_self, Bool.false_eq_true, if_false, digitsValue_toDigits,
    hlow, hhigh, decide_eq_true_eq]
  by_cases hneg : n < 0
  · rw [if_pos hneg, if_pos (by simp; omega)]
    congr 1
    omega
  · rw [if_neg hneg, if_pos (by omega)]
    congr 1
    omega

/-! ## 3. Tokens at the front of a text -/

/-- A text that no word and no number runs into: it is empty, or starts with a comma or a bracket
that closes. -/
def Ends (rest : List Char) : Prop := ∀ c ∈ rest.head?, c = ',' ∨ c = ']' ∨ c = '\x7d'

theorem ends_nil : Ends [] := fun _ h => nomatch h

theorem ends_cons {c : Char} (hc : c = ',' ∨ c = ']' ∨ c = '\x7d') (rest : List Char) :
    Ends (c :: rest) := by
  intro d hd
  cases hd
  exact hc

/-- A run of characters stops where the text behind it starts. -/
theorem takeWhile_of_ends {p : Char → Bool} (hp : ∀ c, c = ',' ∨ c = ']' ∨ c = '\x7d' → p c = false)
    {front rest : List Char} (hfront : ∀ c ∈ front, p c = true) (hrest : Ends rest) :
    (front ++ rest).takeWhile p = front ∧ (front ++ rest).dropWhile p = rest := by
  have hout : Text.StartsOutside p rest := fun c hc => hp c (hrest c hc)
  exact Text.takeWhile_of_startsOutside hfront hout

theorem tokens_cons {c : Char} {rest behind : List Char} {t : Token} (hc : isSpace c = false)
    (hscan : scanToken c rest = some (t, behind)) :
    tokens (c :: rest) = (tokens behind).map (t :: ·) := by
  rw [tokens, if_neg (Bool.eq_false_iff.1 hc)]
  split
  · rename_i hnone
    rw [hscan] at hnone
    cases hnone
  · rename_i hsome
    rw [hscan] at hsome
    cases hsome
    rfl

theorem tokens_punctuation {c : Char} {t : Token} (hc : punctuation? c = some t)
    (rest : List Char) : tokens (c :: rest) = (tokens rest).map (t :: ·) := by
  have hspace : isSpace c = false := by
    unfold punctuation? at hc
    split at hc <;> first | rfl | cases hc
  exact tokens_cons hspace (by rw [scanToken, hc])

/-- The words consist of letters. -/
theorem letters_of_word? {c : Char} {front : List Char} {t : Token}
    (hword : word? (c :: front) = some t) :
    punctuation? c = none ∧ c ≠ '"' ∧ isSpace c = false ∧ c.isAlpha = true ∧
      front.all Char.isAlpha = true := by
  rw [word?] at hword
  split at hword
  case isTrue h =>
    cases h
    decide
  case isFalse =>
    split at hword
    case isTrue h =>
      cases h
      decide
    case isFalse =>
      split at hword
      case isTrue h =>
        cases h
        decide
      case isFalse => cases hword

theorem tokens_word {c : Char} {front rest : List Char} {t : Token}
    (hword : word? (c :: front) = some t) (hrest : Ends rest) :
    tokens (c :: (front ++ rest)) = (tokens rest).map (t :: ·) := by
  obtain ⟨hpunctuation, hquote, hspace, hc, hfront⟩ := letters_of_word? hword
  have halpha : ∀ d, d = ',' ∨ d = ']' ∨ d = '\x7d' → d.isAlpha = false := by
    rintro d (rfl | rfl | rfl) <;> decide
  obtain ⟨htake, hdrop⟩ := takeWhile_of_ends halpha (List.all_eq_true.1 hfront) hrest
  refine tokens_cons hspace ?_
  rw [scanToken, hpunctuation]
  dsimp only
  rw [if_neg (by simpa using hquote), if_pos hc, htake, hdrop, hword]
  rfl

/-- A run of number characters is a number if it writes one. -/
theorem tokens_number {c : Char} {front rest : List Char} {n : Numeral}
    (hnumeral : numeral? (c :: front) = some n)
    (hchars : ∀ d ∈ c :: front, d ∈ "-0123456789".toList) (hrest : Ends rest) :
    tokens (c :: (front ++ rest)) = (tokens rest).map (.number n :: ·) := by
  have hall : "-0123456789".toList.all (fun d => decide (punctuation? d = none ∧ d ≠ '"' ∧
      isSpace d = false ∧ d.isAlpha = false ∧ isNumberChar d = true)) = true := by
    decide
  have hplain : ∀ d ∈ c :: front, punctuation? d = none ∧ d ≠ '"' ∧ isSpace d = false ∧
      d.isAlpha = false ∧ isNumberChar d = true :=
    fun d hd => of_decide_eq_true (List.all_eq_true.1 hall d (hchars d hd))
  have hends : ∀ d, d = ',' ∨ d = ']' ∨ d = '\x7d' → isNumberChar d = false := by
    rintro d (rfl | rfl | rfl) <;> decide
  obtain ⟨hpunctuation, hquote, hspace, hletter, hc⟩ := hplain c List.mem_cons_self
  have hfront : ∀ d ∈ front, isNumberChar d = true :=
    fun d hd => (hplain d (List.mem_cons_of_mem c hd)).2.2.2.2
  obtain ⟨htake, hdrop⟩ := takeWhile_of_ends hends hfront hrest
  refine tokens_cons hspace ?_
  rw [scanToken, hpunctuation]
  dsimp only
  rw [if_neg (by simpa using hquote), if_neg (by simp [hletter]), if_pos hc, htake, hdrop, hnumeral]
  rfl

theorem mem_intText {n : Int} {c : Char} (hc : c ∈ intText n) : c ∈ "-0123456789".toList := by
  have hdigit : ∀ c ∈ Nat.toDigits 10 n.natAbs, c ∈ "-0123456789".toList := by
    intro c hc
    have hc := Nat.isDigit_of_mem_toDigits (by decide) (by decide) hc
    exact List.mem_cons_of_mem '-' (mem_of_isDigit hc)
  rw [intText] at hc
  split at hc
  · rcases List.mem_cons.1 hc with rfl | hc
    · exact List.mem_cons_self
    · exact hdigit c hc
  · exact hdigit c hc

theorem tokens_intText (n : Int) {rest : List Char} (hrest : Ends rest) :
    tokens (intText n ++ rest) = (tokens rest).map (.number (numeralOf n) :: ·) := by
  have hnumeral := numeral?_intText n
  have hchars : ∀ c ∈ intText n, c ∈ "-0123456789".toList := fun c hc => mem_intText hc
  cases htext : intText n with
  | nil =>
    rw [htext] at hnumeral
    cases hnumeral
  | cons c front =>
    rw [htext] at hnumeral hchars
    exact tokens_number hnumeral hchars hrest

theorem tokens_quote (s rest : List Char) :
    tokens (quote s ++ rest) = (tokens rest).map (.string (s.map .char) :: ·) := by
  have hquote : quote s ++ rest = '"' :: (s.flatMap escapeChar ++ '"' :: rest) := by
    simp [quote]
  rw [hquote]
  refine tokens_cons (by decide) ?_
  rw [scanToken, show punctuation? '"' = none from rfl]
  dsimp only
  rw [if_pos (by decide), scanString_quote]
  rfl

/-! ## 4. Documents -/

/-- A document without fractions, with whole numbers of 64 bits, and with keys that are texts. -/
inductive Plain : Node → Prop
  | null : Plain .null
  | bool (b : Bool) : Plain (.bool b)
  | int {n : Int} (hn : -(2 ^ 63) ≤ n ∧ n < 2 ^ 64) : Plain (.int n)
  | text (s : String) : Plain (.text s)
  | list {items : List Node} (hitems : ∀ n ∈ items, Plain n) : Plain (.list items)
  | table {entries : List (String × Node)} (hentries : ∀ e ∈ entries, Plain e.2) :
      Plain (.ofEntries entries)

mutual

/-- The tokens of a plain document. -/
def tokensOf : Node → List Token
  | .null | .real _ | .unreadable => [.null]
  | .bool b => [.bool b]
  | .int n => [.number (numeralOf n)]
  | .text s => [.string (s.toList.map .char)]
  | .list items => .openList :: (itemTokens items ++ [.closeList])
  | .table entries => .openTable :: (entryTokens entries ++ [.closeTable])

/-- The tokens of the items of a list. -/
def itemTokens : List Node → List Token
  | [] => []
  | [n] => tokensOf n
  | n :: m :: rest => tokensOf n ++ .comma :: itemTokens (m :: rest)

/-- The tokens of the entries of a table. -/
def entryTokens : List (Option String × Node) → List Token
  | [] => []
  | [(k, n)] => .string ((k.getD "").toList.map .char) :: .colon :: tokensOf n
  | (k, n) :: e :: rest =>
    .string ((k.getD "").toList.map .char) :: .colon ::
      (tokensOf n ++ .comma :: entryTokens (e :: rest))

end

/-- The text of a document is cut into its tokens, whatever stands behind it. -/
def CutsInto (front : List Char) (ts : List Token) : Prop :=
  ∀ rest, Ends rest → tokens (front ++ rest) = (tokens rest).map (ts ++ ·)

theorem cutsInto_printItems {items : List Node}
    (hitems : ∀ n ∈ items, CutsInto (print n) (tokensOf n)) :
    CutsInto (printItems items) (itemTokens items) := by
  intro rest hrest
  induction items with
  | nil =>
    rw [printItems, itemTokens]
    simp
  | cons n items ih =>
    have hn := hitems n List.mem_cons_self
    cases items with
    | nil => exact hn rest hrest
    | cons m items =>
      have hbehind := ih fun k hk => hitems k (List.mem_cons_of_mem n hk)
      rw [printItems, itemTokens, List.append_assoc, List.cons_append,
        hn _ (ends_cons (.inl rfl) _), tokens_punctuation (t := .comma) rfl, hbehind]
      simp only [Option.map_map, Function.comp_def, List.append_assoc, List.cons_append]

/-- A key, its colon and its document are cut, whatever stands behind them. -/
theorem tokens_entry (k : String) {n : Node} (hn : CutsInto (print n) (tokensOf n))
    {rest : List Char} (hrest : Ends rest) :
    tokens (quote k.toList ++ ':' :: (print n ++ rest)) =
      (tokens rest).map fun ts =>
        .string (k.toList.map .char) :: .colon :: (tokensOf n ++ ts) := by
  rw [tokens_quote, tokens_punctuation (t := .colon) rfl, hn rest hrest]
  simp only [Option.map_map, Function.comp_def]

theorem cutsInto_printEntries {entries : List (String × Node)}
    (hentries : ∀ e ∈ entries, CutsInto (print e.2) (tokensOf e.2)) :
    CutsInto (printEntries (entries.map fun e => (some e.1, e.2)))
      (entryTokens (entries.map fun e => (some e.1, e.2))) := by
  intro rest hrest
  induction entries with
  | nil =>
    rw [List.map_nil, printEntries, entryTokens]
    simp
  | cons e entries ih =>
    obtain ⟨k, n⟩ := e
    have hn := hentries (k, n) List.mem_cons_self
    cases entries with
    | nil =>
      rw [List.map_cons, List.map_nil, printEntries, entryTokens, List.append_assoc,
        List.cons_append]
      exact tokens_entry k hn hrest
    | cons f entries =>
      have hbehind := ih fun e he => hentries e (List.mem_cons_of_mem (k, n) he)
      simp only [List.map_cons, printEntries, entryTokens, List.append_assoc, List.cons_append,
        Option.getD_some] at hbehind ⊢
      rw [tokens_entry k hn (ends_cons (.inl rfl) _), tokens_punctuation (t := .comma) rfl, hbehind]
      simp only [Option.map_map, Function.comp_def]

/-- Items between two brackets are cut as they are cut alone. -/
theorem CutsInto.bracket {front : List Char} {ts : List Token} (h : CutsInto front ts)
    {a b : Char} {opening closing : Token} (ha : punctuation? a = some opening)
    (hb : punctuation? b = some closing) (hends : b = ']' ∨ b = '\x7d') :
    CutsInto (a :: front ++ [b]) (opening :: (ts ++ [closing])) := by
  intro rest _
  rw [List.append_assoc, List.cons_append, tokens_punctuation ha, List.singleton_append,
    h _ (ends_cons (.inr hends) rest), tokens_punctuation hb]
  simp only [Option.map_map, Function.comp_def, List.append_assoc, List.cons_append,
    List.nil_append]

/-- **The text of a plain document is cut into its tokens**, and the cutting goes on behind it. -/
theorem cutsInto_print {n : Node} (hn : Plain n) : CutsInto (print n) (tokensOf n) := by
  induction hn with
  | null => exact fun _ => tokens_word rfl
  | bool b =>
    cases b with
    | true => exact fun _ => tokens_word rfl
    | false => exact fun _ => tokens_word rfl
  | int hn => exact fun _ => tokens_intText _
  | text s => exact fun rest _ => tokens_quote s.toList rest
  | list hitems ih => exact (cutsInto_printItems ih).bracket rfl rfl (.inl rfl)
  | table hentries ih => exact (cutsInto_printEntries ih).bracket rfl rfl (.inr rfl)

theorem tokens_text {n : Node} (hn : Plain n) : tokens (text n).toList = some (tokensOf n) := by
  have hall := cutsInto_print hn [] ends_nil
  rw [List.append_nil, tokens] at hall
  rw [text, String.toList_ofList, hall, Option.map_some, List.append_nil]

end BuilderGen.Json
