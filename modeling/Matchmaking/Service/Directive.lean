import Matchmaking.Number.Width
import Matchmaking.Service.Pattern
import Matchmaking.Text.Blank
import Matchmaking.Text.Utf8
import Matchmaking.Trace.Log

/-!
# Directives of a log filter

A directive is a threshold for the lines of one part of the program, written
`target[span{field=value}]=threshold`; everything but one of these may be left out. It is read
character by character, each of which leads from one stage to the next.
-/

namespace Matchmaking.Service

open Text Number

/-- What a directive asks about the fields of a line. -/
structure FieldTest where
  name : String
  /-- Whether a value is asked for too. -/
  valued : Bool
  deriving DecidableEq, Repr

/-- What one directive of a filter says. -/
structure Directive where
  /-- How the name of the part must start; nothing for all parts. -/
  target : Option String
  /-- The span that the directive is about; nothing for lines in any place. -/
  span : Option String
  /-- The field that a line must have. -/
  field : Option FieldTest
  /-- The weight of the least important line that passes. -/
  threshold : Nat
  deriving DecidableEq, Repr

namespace Directive

/-! ## Thresholds -/

def thresholdNames : List (String × Nat) :=
  [("", 1), ("off", 0), ("error", 1), ("warn", 2), ("info", 3), ("debug", 4), ("trace", 5)]

/-- The threshold that a text names, in any case, or by its number. -/
def threshold? (cs : List Char) : Option Nat :=
  match readNat mostUnsigned64 cs with
  | .ok n => if n ≤ 5 then some n else thresholdNames.lookup (String.ofList cs)
  | .error _ => thresholdNames.lookup (String.ofList (cs.map Char.toLower))

/-- The threshold of a directive that does not say. -/
def everything : Nat := 5

def bare : Directive := ⟨none, none, none, everything⟩

/-- A directive that is either a threshold for all parts or a part with everything. -/
def ofWord (cs : List Char) : Directive :=
  match threshold? cs with
  | some n => { bare with threshold := n }
  | none => { bare with target := some (String.ofList cs) }

/-! ## Fields -/

/-- Whether a text is a number with a sign in front, which need not be a pattern. -/
def isSignedNumber : List Char → Bool
  | '+' :: cs =>
    let words := ["inf", "infinity", "nan"]
    if words.contains (String.ofList (cs.map Char.toLower)) then true
    else
      let (whole, rest) := cs.span Char.isDigit
      let (part, rest) := if rest.head? = some '.' then rest.tail.span Char.isDigit else ([], rest)
      let exponent := match rest with
        | [] => true
        | e :: '-' :: ds | e :: '+' :: ds | e :: ds =>
          (e = 'e' || e = 'E') && ds ≠ [] && ds.all Char.isDigit
      (whole ≠ [] || part ≠ []) && exponent
  | _ => false

/-- Reads a field between braces: a name, and a value that is a number or a pattern. -/
def field? (cs : List Char) : Option FieldTest :=
  let (name, rest) := cs.span (· ≠ '=')
  let value := rest.tail.takeWhile (· ≠ '=')
  if cs = [] then none
  else if rest = [] then some ⟨String.ofList name, false⟩
  else if isSignedNumber value ∨ Pattern.isWellFormed value then some ⟨String.ofList name, true⟩
  else none

/-! ## Reading -/

/-- Where the reading of a directive stands; pieces begin at places that are counted in bytes. -/
inductive Stage where
  | start
  /-- In a threshold or a target. -/
  | word (begun : Nat)
  /-- In the name of a span, behind its bracket. -/
  | span (begun : Nat)
  /-- In a field, behind its brace. -/
  | field (begun : Nat)
  /-- Behind the field. -/
  | fields
  /-- Behind the span. -/
  | target
  /-- In a threshold, behind its equals sign. -/
  | level (begun : Nat)

/-- The piece of a text between two places, if they do not cut a character. -/
def piece? (text : List UInt8) (begun ended : Nat) : Option (List Char) :=
  (ofBytes? ((text.take ended).drop begun)).map String.toList

def mayStart (c : Char) : Bool := ['-', ':', '_'].contains c || isAlphanumeric c

def step? (text : List UInt8) (stage : Stage) (d : Directive) (place : Nat) (c : Char) :
    Option (Stage × Directive) :=
  match stage, c with
  | .start, '[' => some (.span (place + 1), d)
  | .start, c => if mayStart c then some (.word place, d) else none
  | .word begun, '=' => do
    let target := String.ofList (← piece? text begun place)
    return (.level (place + 1), { d with target := some target })
  | .word begun, '[' => do
    let target := String.ofList (← piece? text begun place)
    return (.span (place + 1), { d with target := some target })
  | .span begun, ']' => do
    let span := String.ofList (← piece? text begun place)
    return (.target, { d with span := some span })
  | .span begun, '\x7b' => do
    let cs ← piece? text begun place
    let span := if cs = [] then none else some (String.ofList cs)
    return (.field (place + 1), { d with span })
  | .field begun, '\x7d' => do
    let field ← field? (← piece? text begun place)
    return (.fields, { d with field := some field })
  | .fields, ']' => some (.target, d)
  | .fields, _ => none
  | .target, '=' => some (.level (place + 1), d)
  | .target, _ => none
  | stage, _ => some (stage, d)

def finish? (text : List UInt8) (stage : Stage) (d : Directive) : Option Directive :=
  match stage with
  | .word begun => (piece? text begun text.length).map ofWord
  | .target => some d
  | .level begun => do
    let cs ← piece? text begun text.length
    let threshold ← if cs = [] then some everything else threshold? cs
    return { d with threshold }
  | _ => none

def scan? (text : List UInt8) : Stage → Directive → (place : Nat) → List Char → Option Directive
  | stage, d, _, [] => finish? text stage d
  | stage, d, place, c :: cs =>
    (step? text stage d place c).bind fun (stage, d) => scan? text stage d (place + c.utf8Size) cs

/-- Reads a directive. Places are counted from the first character that is not blank, but pieces are
cut from the text with its blanks. -/
def parse? (cs : List Char) : Option Directive :=
  scan? (bytes (String.ofList cs)) .start bare 0 (trimChars cs)

/-! ## Meaning -/

/-- Whether a directive is about lines as such, and not about lines inside a span. -/
def isUnconditional (d : Directive) : Bool := d.span.isNone && d.field.all (!·.valued)

/-- Whether a line has a field; the message of a line is one. -/
def hasField (line : LogLine) (name : String) : Bool :=
  name == "message" || (line.fields.lookup name).isSome

def applies (d : Directive) (part : String) (line : LogLine) : Bool :=
  d.target.all (fun t => t.toList.isPrefixOf part.toList) && d.field.all (hasField line ·.name)

/-- How specific a directive is: by the bytes of its target, then by whether it asks for a field. -/
def rank (d : Directive) : Nat × Nat :=
  ((d.target.map (·.utf8ByteSize + 1)).getD 0, d.field.toList.length)

def fieldName (d : Directive) : String := (d.field.map (·.name)).getD ""

/-- Whether a directive takes precedence over one that stands before it: of two that are equally
specific the one with the later field name, and of two for one field the later directive. -/
def overrides (later earlier : Directive) : Bool :=
  if later.rank = earlier.rank then earlier.fieldName ≤ later.fieldName
  else earlier.rank.1 < later.rank.1 ||
    (earlier.rank.1 == later.rank.1 && earlier.rank.2 < later.rank.2)

end Directive

end Matchmaking.Service
