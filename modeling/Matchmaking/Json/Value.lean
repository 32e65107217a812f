import Matchmaking.Number.Shortest
import Matchmaking.Text.Numeral
import Matchmaking.Text.Quoted

/-!
# JSON values and their text

Values of the interchange format, and their compact text: no blanks, members in the order given,
characters raw except where the format forbids it.
-/

namespace Matchmaking.Json

open Text Number

inductive Value where
  | null
  | flag (b : Bool)
  | integer (n : Int)
  | float (x : Float)
  | text (s : String)
  | list (items : List Value)
  | object (members : List (String × Value))
  deriving Inhabited

/-- One character inside a text: quote, backslash and controls are escaped, the rest stands for
itself. -/
def escapeChar (c : Char) : List Char :=
  if c = '"' then ['\\', '"']
  else if c = '\\' then ['\\', '\\']
  else if c = '\x08' then ['\\', 'b']
  else if c = '\x0C' then ['\\', 'f']
  else if c = '\n' then ['\\', 'n']
  else if c = '\r' then ['\\', 'r']
  else if c = '\t' then ['\\', 't']
  else if c.toNat < 0x20 then
    ['\\', 'u', '0', '0'] ++ (if c.toNat < 0x10 then ['0'] else []) ++ hexDigits c.toNat
  else [c]

def textChars (s : String) : List Char := '"' :: s.toList.flatMap escapeChar ++ ['"']

def integerChars (n : Int) : List Char :=
  if n < 0 then '-' :: digits n.natAbs else digits n.natAbs

namespace Value

mutual

def chars : Value → List Char
  | .null => "null".toList
  | .flag true => "true".toList
  | .flag false => "false".toList
  | .integer n => integerChars n
  | .float x => (floatText x).toList
  | .text s => textChars s
  | .list items => '[' :: itemChars items ++ [']']
  | .object members => '{' :: memberChars members ++ ['}']

def itemChars : List Value → List Char
  | [] => []
  | [v] => v.chars
  | v :: w :: rest => v.chars ++ ',' :: itemChars (w :: rest)

def memberChars : List (String × Value) → List Char
  | [] => []
  | [(name, v)] => textChars name ++ ':' :: v.chars
  | (name, v) :: w :: rest => textChars name ++ ':' :: v.chars ++ ',' :: memberChars (w :: rest)

end

def render (v : Value) : String := String.ofList v.chars

def ofList {α : Type} (encode : α → Value) (items : List α) : Value := .list (items.map encode)

/-- A member that is left out if there is nothing to say. -/
def optional {α : Type} (name : String) (encode : α → Value) : Option α → List (String × Value)
  | none => []
  | some a => [(name, encode a)]

end Value

end Matchmaking.Json
