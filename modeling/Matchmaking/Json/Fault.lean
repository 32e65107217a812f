import Matchmaking.Number.Shortest
import Matchmaking.Text.Quoted

/-!
# What can be wrong with a document

A document is refused for its form, when the bytes are not JSON, or for its content, when they are
JSON but not of the wanted shape. Each cause has one wording.
-/

namespace Matchmaking.Json

open Text Number

/-- What is wrong with the form of a document. -/
inductive Flaw where
  | endInList
  | endInObject
  | endInText
  | endInValue
  | expectedColon
  | expectedCommaOrListEnd
  | expectedCommaOrObjectEnd
  | expectedIdent
  | expectedValue
  | invalidEscape
  | invalidNumber
  | numberOutOfRange
  | invalidCodePoint
  | controlCharacter
  | keyNotText
  | loneSurrogate
  | endInEscape
  | trailingComma
  | trailingCharacters
  | tooDeep
  deriving DecidableEq, Repr

def Flaw.message : Flaw → String
  | .endInList => "EOF while parsing a list"
  | .endInObject => "EOF while parsing an object"
  | .endInText => "EOF while parsing a string"
  | .endInValue => "EOF while parsing a value"
  | .expectedColon => "expected `:`"
  | .expectedCommaOrListEnd => "expected `,` or `]`"
  | .expectedCommaOrObjectEnd => "expected `,` or `\x7d`"
  | .expectedIdent => "expected ident"
  | .expectedValue => "expected value"
  | .invalidEscape => "invalid escape"
  | .invalidNumber => "invalid number"
  | .numberOutOfRange => "number out of range"
  | .invalidCodePoint => "invalid unicode code point"
  | .controlCharacter => "control character (\\u0000-\\u001F) found while parsing a string"
  | .keyNotText => "key must be a string"
  | .loneSurrogate => "lone leading surrogate in hex escape"
  | .endInEscape => "unexpected end of hex escape"
  | .trailingComma => "trailing comma"
  | .trailingCharacters => "trailing characters"
  | .tooDeep => "recursion limit exceeded"

/-- What was found where something else was expected. -/
inductive Found where
  | null
  | flag (b : Bool)
  | integer (n : Int)
  | float (x : Float)
  | text (s : String)
  | list
  | object

/-- How a message names what was found. -/
def Found.describe : Found → String
  | .null => "null"
  | .flag b => s!"boolean `{b}`"
  | .integer n => s!"integer `{n}`"
  | .float x => s!"floating point `{floatText x}`"
  | .text s => s!"string {quoted s}"
  | .list => "sequence"
  | .object => "map"

inductive Fault where
  /-- The bytes are not a document. -/
  | flaw (cause : Flaw)
  /-- A value of another type stands where one of the expected kind is due. -/
  | wrongType (found : Found) (expected : String)
  /-- An integer is outside the expected type. -/
  | wrongValue (found : Int) (expected : String)
  | missingField (name : String)
  | duplicateField (name : String)
  /-- A record written as a list ends before an element that it needs. -/
  | wrongLength (found : Nat) (record : String) (size : Nat)
  /-- A text is refused by the rules of the type it should name a value of. -/
  | refused (why : String)

def Fault.message : Fault → String
  | .flaw cause => cause.message
  | .wrongType found expected => s!"invalid type: {found.describe}, expected {expected}"
  | .wrongValue found expected => s!"invalid value: integer `{found}`, expected {expected}"
  | .missingField name => s!"missing field `{name}`"
  | .duplicateField name => s!"duplicate field `{name}`"
  | .wrongLength found record size =>
    s!"invalid length {found}, expected struct {record} with {size} elements"
  | .refused why => why

/-- Whether the document is well formed up to the fault and has the wrong content. -/
def Fault.isContent : Fault → Bool
  | .flaw _ => false
  | _ => true

/-- A step from a value to a part of it. -/
inductive Step where
  | member (name : String)
  | item (index : Nat)
  deriving DecidableEq, Repr

/-- A fault with the way to the value in which it arose. -/
structure Failure where
  path : List Step
  fault : Fault

/-- The text of a way: members are joined by dots, items are numbered in brackets. -/
def pathText : List Step → String
  | [] => ""
  | .member name :: rest => rest.foldl extend name
  | .item i :: rest => rest.foldl extend s!"[{i}]"
where
  extend (front : String) : Step → String
    | .member name => front ++ "." ++ name
    | .item i => s!"{front}[{i}]"

/-- The wording of a fault after the way to it. -/
def Failure.located (f : Failure) : String :=
  if f.path.isEmpty then f.fault.message else s!"{pathText f.path}: {f.fault.message}"

end Matchmaking.Json
