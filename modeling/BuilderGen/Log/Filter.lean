import BuilderGen.Log.Event
import BuilderGen.Log.Pattern

/-!
# Which events are shown

A filter is a list of directives. A directive sets the least weight of the shown events, for all
components or for those whose name starts in a certain way, and for all events or for those with a
certain field. Of several that concern an event, the one with the longest start decides, of equally
long ones one on a field, of these the one whose field comes last in the order of texts, and of
equal ones the last. An event that no directive concerns is not shown.

A filter is written with commas between its directives. A directive is a level, or a component with
brackets behind it that narrow it down, and then a level behind an equals sign; all but the first of
brackets and component may be missing, and without a level everything is shown. Brackets with the
name of a span or the value of a field are about spans; as there are no spans, they show nothing.
-/

namespace BuilderGen.Log

/-- The weight up to which events are shown. -/
inductive Threshold where
  | off
  | upTo (level : Level)
deriving DecidableEq, Repr

/-- Whether events of a level are shown. -/
def Threshold.shows : Threshold → Level → Bool
  | .off, _ => false
  | .upTo limit, level => level.rank ≤ limit.rank

/-- What is shown of the events of components whose names start with `start`. -/
structure Directive where
  start : String
  /-- The field without which an event is not meant. -/
  field : Option String
  threshold : Threshold
deriving DecidableEq, Repr

/-- A filter. -/
abbrev Filter := List Directive

/-! ## 1. Filtering -/

/-- Whether a directive concerns an event. -/
def Directive.concerns (d : Directive) (e : Event) : Bool :=
  d.start.toList.isPrefixOf e.target.toList && d.field.all e.fieldNames.contains

/-- Whether a field narrows less down than another one, or comes before it. -/
def isBelow : Option String → Option String → Bool
  | none, field => field.isSome
  | some _, none => false
  | some a, some b => a < b

/-- The more specific one of two directives; the second one if they are equally specific. -/
def moreSpecific (a b : Directive) : Directive :=
  if b.start.length < a.start.length || b.start.length == a.start.length && isBelow b.field a.field
  then a else b

/-- The directive that decides on an event. -/
def Filter.deciding (f : Filter) (e : Event) : Option Directive :=
  (f.filter fun d => d.concerns e).foldl
    (fun best d => some ((best.map (moreSpecific · d)).getD d)) none

/-- Whether an event is shown. -/
def Filter.shows (f : Filter) (e : Event) : Bool :=
  (f.deciding e).any fun d => d.threshold.shows e.level

/-! ## 2. Written filters -/

/-- The number that decimal digits write, with a plus sign in front of them or not. -/
def number? (s : List Char) : Option Nat :=
  let digits := match s with
    | '+' :: rest => rest
    | s => s
  if !digits.isEmpty && digits.all Char.isDigit then
    some (digits.foldl (fun n c => 10 * n + (c.toNat - '0'.toNat)) 0)
  else none

/-- The threshold of a number, from zero for nothing to five for everything. -/
def numberedThreshold? : Nat → Option Threshold
  | 0 => some .off
  | 1 => some (.upTo .error)
  | 2 => some (.upTo .warn)
  | 3 => some (.upTo .info)
  | 4 => some (.upTo .debug)
  | 5 => some (.upTo .trace)
  | _ => none

/-- The threshold of a word; case does not count. -/
def namedThreshold? (word : String) : Option Threshold :=
  if word = "off" then some .off
  else if word = "error" then some (.upTo .error)
  else if word = "warn" then some (.upTo .warn)
  else if word = "info" then some (.upTo .info)
  else if word = "debug" then some (.upTo .debug)
  else if word = "trace" then some (.upTo .trace)
  else none

/-- The threshold that a number or a word stands for. -/
def threshold? (s : List Char) : Option Threshold :=
  ((number? s).bind numberedThreshold?).or (namedThreshold? (String.ofList (s.map Char.toLower)))

/-- Whether a directive on components may start with a character. -/
def startsDirective (c : Char) : Bool :=
  c == '-' || c == ':' || c == '_' || Text.isAlphanumeric c

/-- The level behind an equals sign; none means all. -/
def levelBehind? : List Char → Option Threshold
  | [] => some (.upTo .trace)
  | s => threshold? s

/-- What brackets narrow a directive down to. -/
inductive Scope where
  /-- Spans alone. -/
  | spans
  /-- Events with a field. -/
  | field (name : String)
deriving DecidableEq, Repr

/-- What braces narrow a directive down to. A field with a value is one of a span. -/
def fieldScope? (s : List Char) : Option Scope :=
  match s.dropWhile (· != '=') with
  | [] => if s.isEmpty then none else some (.field (String.ofList s))
  | _ :: values =>
    if Pattern.describesValues (values.takeWhile (· != '=')) then some .spans else none

/-- The first place from a given one on where a character is of some kind. -/
def placeOf (isSought : Char → Bool) (form : List Char) (start : Nat) : Nat :=
  start + (form.drop start).findIdx isSought

/-- The characters of a part from one place up to another. -/
def cut (part : List Char) (first last : Nat) : List Char := (part.drop first).take (last - first)

/-- What brackets narrow a directive down to, and the place behind them, from the place inside
them. -/
def readScope? (form part : List Char) (start : Nat) : Option (Scope × Nat) :=
  let stop := placeOf (fun c => c == ']' || c == '{') form start
  match form.drop stop with
  | ']' :: _ => some (.spans, stop + 1)
  | '{' :: _ =>
    let last := placeOf (· == '}') form (stop + 1)
    match form.drop last, fieldScope? (cut part (stop + 1) last) with
    | '}' :: ']' :: _, some scope =>
      some (if (cut part start stop).isEmpty then scope else .spans, last + 2)
    | _, _ => none
  | _ => none

/-- The level from a place behind brackets on. -/
def levelFrom? (form part : List Char) (place : Nat) : Option Threshold :=
  match form.drop place with
  | [] => some (.upTo .trace)
  | '=' :: _ => levelBehind? (part.drop (place + 1))
  | _ => none

/-- The directives with brackets at a place. -/
def scoped? (form part : List Char) (place : Nat) : Option Filter := do
  let (scope, next) ← readScope? form part (place + 1)
  let threshold ← levelFrom? form part next
  return match scope with
    | .spans => []
    | .field name => [⟨String.ofList (part.take place), some name, threshold⟩]

/-- The directives that a part of a written filter stands for, if it is well formed. Blanks at its
ends are passed over where its form is looked at, but not where its pieces are taken from the places
that were found. -/
def directive? (part : List Char) : Option Filter :=
  let form := Text.trimEnd (Text.trimStart part)
  let place := placeOf (fun c => c == '=' || c == '[') form 0
  if !(form.head?.any fun c => c == '[' || startsDirective c) then none
  else
    match form.drop place with
    | '[' :: _ => scoped? form part place
    | '=' :: _ =>
      (levelBehind? (part.drop (place + 1))).map fun t =>
        [⟨String.ofList (part.take place), none, t⟩]
    | _ =>
      match threshold? part with
      | some t => some [⟨"", none, t⟩]
      | none => some [⟨String.ofList part, none, .upTo .trace⟩]

/-- The parts of a text between commas. -/
def splitAtCommas : List Char → List (List Char)
  | [] => [[]]
  | c :: rest =>
    if c = ',' then [] :: splitAtCommas rest
    else
      match splitAtCommas rest with
      | [] => [[c]]
      | s :: more => (c :: s) :: more

/-- The filter that a text writes. -/
def Filter.parse? (text : String) : Option Filter :=
  (((splitAtCommas text.toList).filter (!·.isEmpty)).mapM directive?).map List.flatten

/-- The filter for a number of requests for more output. -/
def Filter.ofVerbosity (n : Nat) : Filter :=
  let level : Level := match n with
    | 0 => .warn
    | 1 => .info
    | 2 => .debug
    | _ => .trace
  [⟨"proxydsl", none, .upTo level⟩, ⟨"proxydsl_core", none, .upTo level⟩]

/-- The filter of a run: a written one if there is one and it is well formed, else the one for the
number of requests. -/
def Filter.choose (written : Option String) (verbosity : Nat) : Filter :=
  (written.bind Filter.parse?).getD (.ofVerbosity verbosity)

end BuilderGen.Log
