import Coll.Logging.Event
import Coll.Logging.Pattern
import Coll.Text.Numeral

/-!
Directives: what is told of the events that come from a component, that lie in a span and that
have a field.
-/

namespace Coll.Logging

/-- The least important level that is told; `none` tells nothing. -/
abbrev Threshold := Option Level

/-- A threshold by name or number. Case does not matter. -/
def Threshold.ofName? (name : List Char) : Option Threshold :=
  match Text.readDecimal? name with
  | some 0 => some none
  | some 1 => some (some .error)
  | some 2 => some (some .warn)
  | some 3 => some (some .info)
  | some 4 => some (some .debug)
  | some 5 => some (some .trace)
  | _ =>
    match String.ofList (name.map Char.toLower) with
    | "off" => some none
    | "error" => some (some .error)
    | "warn" => some (some .warn)
    | "info" => some (some .info)
    | "debug" => some (some .debug)
    | "trace" => some (some .trace)
    | _ => none

structure FieldTest where
  name : String
  /-- Whether its value has to be a certain one. -/
  hasValue : Bool
  deriving DecidableEq, Repr

namespace FieldTest

/-- Decimal numbers with a fraction or an exponent, without a sign. -/
def isMagnitude (cs : List Char) : Bool :=
  let (whole, rest) := cs.span Char.isDigit
  let (fraction, rest) :=
    match rest with
    | '.' :: rest => rest.span Char.isDigit
    | rest => ([], rest)
  let exponent :=
    match rest with
    | 'e' :: '+' :: ds | 'e' :: '-' :: ds | 'e' :: ds => some ds
    | _ => none
  !(whole.isEmpty && fraction.isEmpty) &&
    match exponent with
    | some ds => !ds.isEmpty && ds.all Char.isDigit
    | none => rest.isEmpty

/-- A value that can be asked for: a number or a regular expression. Only a number with a plus
sign is no expression. -/
def isValue (cs : List Char) : Bool :=
  match cs.map Char.toLower with
  | '+' :: number =>
    isMagnitude number || ["inf", "infinity", "nan"].contains (String.ofList number)
  | _ => Pattern.isWellFormed cs

/-- Reads a test: a name, or a name and a value with `=` between. What follows a second `=` does
not count. -/
def ofText? (text : List Char) : Option FieldTest :=
  match text.span (· != '=') with
  | ([], []) => none
  | (name, []) => some ⟨String.ofList name, false⟩
  | (name, _ :: rest) =>
    if isValue (rest.takeWhile (· != '=')) then some ⟨String.ofList name, true⟩ else none

end FieldTest

structure Directive where
  /-- What the name of the component begins with. -/
  component : Option String := none
  /-- The span that an event must lie in. -/
  span : Option String := none
  /-- The field that an event, or the span that it lies in, must have. -/
  field : Option FieldTest := none
  threshold : Threshold := some .trace
  deriving DecidableEq, Repr

namespace Directive

/-- The part of a directive that is being read. A number tells at which offset the part began. -/
inductive Stage where
  | start
  | component
  | span (first : Nat)
  | field (first : Nat)
  | fieldDone
  | spanDone
  | threshold (first : Nat)
  deriving DecidableEq, Repr

structure Draft where
  stage : Stage := .start
  directive : Directive := {}

def startsComponent (c : Char) : Bool :=
  c == '-' || c == ':' || c == '_' || Unicode.isAlphabetic c || Unicode.isNumeric c

def piece (text : List Char) (first past : Nat) : List Char := (text.take past).drop first

/-- Reads the character `c`, which stands at the offset `i`. Pieces are cut out of `text`. -/
def Draft.read (text : List Char) (draft : Draft) (c : Char) (i : Nat) : Option Draft :=
  let directive := draft.directive
  match draft.stage, c with
  | .start, '[' => some { draft with stage := .span (i + 1) }
  | .start, c => if startsComponent c then some { draft with stage := .component } else none
  | .component, '=' =>
    some ⟨.threshold (i + 1), { directive with component := String.ofList (piece text 0 i) }⟩
  | .component, '[' =>
    some ⟨.span (i + 1), { directive with component := String.ofList (piece text 0 i) }⟩
  | .span first, ']' =>
    some ⟨.spanDone, { directive with span := String.ofList (piece text first i) }⟩
  | .span first, '\x7b' =>
    let name := piece text first i
    some ⟨.field (i + 1),
      { directive with span := if name.isEmpty then none else some (String.ofList name) }⟩
  | .field first, '\x7d' => do
    return ⟨.fieldDone, { directive with field := ← FieldTest.ofText? (piece text first i) }⟩
  | .fieldDone, ']' => some { draft with stage := .spanDone }
  | .fieldDone, _ => none
  | .spanDone, '=' => some { draft with stage := .threshold (i + 1) }
  | .spanDone, _ => none
  | .component, _ | .span _, _ | .field _, _ | .threshold _, _ => some draft

/-- Reads characters, the first of which stands at the offset `i`. -/
def Draft.readAll (text : List Char) : List Char → Nat → Draft → Option Draft
  | [], _, draft => some draft
  | c :: rest, i, draft => do Draft.readAll text rest (i + 1) (← draft.read text c i)

/-- The directive, when all has been read. A lone word is a threshold if it is the name of one,
else a component, of which everything is told. -/
def Draft.finish? (text : List Char) (draft : Draft) : Option Directive :=
  match draft.stage with
  | .component =>
    match Threshold.ofName? text with
    | some threshold => some { threshold }
    | none => some { component := String.ofList text }
  | .threshold first =>
    match text.drop first with
    | [] => some draft.directive
    | name => (Threshold.ofName? name).map fun threshold => { draft.directive with threshold }
  | .spanDone => some draft.directive
  | _ => none

/-- A text without the white space at both of its ends. -/
def trim (text : List Char) : List Char :=
  ((text.dropWhile Unicode.isWhiteSpace).reverse.dropWhile Unicode.isWhiteSpace).reverse

/-- Reads a directive. White space at the ends is passed over when the parts are told apart, but
the offsets at which they are then cut count it: behind a blank every part is cut too early. -/
def ofText? (text : List Char) : Option Directive := do
  (← Draft.readAll text (trim text) 0 {}).finish? text

/-- Whether the directive asks for a span. The program opens none, so it tells nothing then. -/
def asksForSpan (directive : Directive) : Bool :=
  directive.span.isSome || directive.field.any (·.hasValue)

def concerns (directive : Directive) (event : Event) : Bool :=
  !directive.asksForSpan &&
    directive.component.all (·.toList.isPrefixOf event.component.name.toList) &&
    directive.field.all (event.hasField ·.name)

/-- Whether the directive lets an event that it is about through. -/
def passes (directive : Directive) (event : Event) : Bool :=
  directive.threshold.any (event.level.rank ≤ ·.rank)

/-- Whether `a` decides instead of `b` if both are about an event: it gives more of the name of
the component, or as much of it and a field, or as much and a later field. -/
def precedes (a b : Directive) : Bool :=
  let length (d : Directive) : Nat := d.component.elim 0 (·.length)
  if length a = length b then
    match a.field, b.field with
    | some _, none => true
    | some f, some g => g.name < f.name
    | none, _ => false
  else length b < length a

end Directive

end Coll.Logging
