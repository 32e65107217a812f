import Matchmaking.Number.Width
import Matchmaking.Text.Blank
import Matchmaking.Text.Numeral
import Matchmaking.Time.Date

/-!
# Timestamps

Moments of universal time to the nanosecond, leap seconds included, and their text. A timestamp is
written in the one form `YYYY-MM-DDTHH:MM:SS[.fraction]Z`; it is read from any spelling of date,
time and offset that differs from it in blanks, digit counts, separator and offset.
-/

namespace Matchmaking.Time

open Text Number

/-- A moment of universal time. Nanoseconds from a whole second on are those of a leap second that
follows the second, at the end of a minute or within it. -/
structure Timestamp where
  date : Date
  hour : Fin 24
  minute : Fin 60
  second : Fin 60
  nano : Fin 2000000000
  deriving DecidableEq

/-- Why a text is no timestamp. -/
inductive TimestampError where
  | invalid
  | tooShort
  | trailing
  | outOfRange
  /-- The moment exists at its offset but not in universal time. -/
  | impossible
  deriving DecidableEq, Repr

def TimestampError.message : TimestampError → String
  | .invalid => "input contains invalid characters"
  | .tooShort => "premature end of input"
  | .trailing => "trailing input"
  | .outOfRange => "input is out of range"
  | .impossible => "no possible date and time matching input"

namespace Timestamp

/-- The year as written: four digits, with a sign and at least four digits outside 0 to 9999. -/
def yearText (year : Int) : String :=
  if 0 ≤ year ∧ year ≤ 9999 then padded 4 year.toNat
  else (if year < 0 then "-" else "+") ++ padded 4 year.natAbs

/-- The fraction of a second as written: the fewest of 3, 6 or 9 digits that say it, none for a
whole second. -/
def fractionText (nano : Nat) : String :=
  if nano = 0 then ""
  else if nano % 1000000 = 0 then "." ++ padded 3 (nano / 1000000)
  else if nano % 1000 = 0 then "." ++ padded 6 (nano / 1000)
  else "." ++ padded 9 nano

/-- Date and time as written. A leap second has the number after that of its second: 60 at the end
of a minute, and within a minute that of the next second. -/
def localText (t : Timestamp) : String :=
  yearText t.date.year ++ "-" ++ padded 2 t.date.month ++ "-" ++ padded 2 t.date.day ++ "T" ++
    padded 2 t.hour ++ ":" ++ padded 2 t.minute ++ ":" ++
    padded 2 (t.second + t.nano / 1000000000) ++ fractionText (t.nano % 1000000000)

def text (t : Timestamp) : String := t.localText ++ "Z"

/-- The text with the offset in numbers. -/
def offsetText (t : Timestamp) : String := t.localText ++ "+00:00"

/-! ## Reading -/

/-- A reader of the front of a text. -/
abbrev Scanner := StateT (List Char) (Except TimestampError)

def blanks : Scanner Unit := fun cs => .ok ((), dropBlank cs)

def spanDigits : (most : Nat) → List Char → List Nat × List Char
  | 0, cs => ([], cs)
  | _, [] => ([], [])
  | most + 1, c :: cs =>
    match digitValue c with
    | none => ([], c :: cs)
    | some d => ((spanDigits most cs).map (d :: ·) id)

def someDigits (most : Nat) : Scanner (List Nat) := fun cs =>
  match cs, spanDigits most cs with
  | [], _ => .error .tooShort
  | _ :: _, ([], _) => .error .invalid
  | _ :: _, (ds, rest) => .ok (ds, rest)

def ofDecimal (ds : List Nat) : Nat := ds.foldl (fun n d => n * 10 + d) 0

/-- Reads a number of one or two digits within bounds, after blanks. -/
def component (least most : Nat) : Scanner Nat := do
  blanks
  let n := ofDecimal (← someDigits 2)
  if least ≤ n ∧ n ≤ most then pure n else throw .outOfRange

def separator (mark : Char) : Scanner Unit := fun
  | [] => .error .tooShort
  | c :: cs => if c = mark then .ok ((), cs) else .error .invalid

def spacedSeparator (mark : Char) : Scanner Unit := do
  blanks
  separator mark

def allDigits (most : Nat) : Scanner Nat := fun cs =>
  match someDigits cs.length cs with
  | .ok (ds, rest) => if ofDecimal ds ≤ most then .ok (ofDecimal ds, rest) else .error .outOfRange
  | .error e => .error e

/-- Reads a year after blanks: up to four digits, or a sign and any number of digits that stays
within 32 bits. -/
def year : Scanner Int := do
  blanks
  match ← get with
  | '-' :: cs => set cs; return -(← allDigits (mostSigned32 + 1) : Nat)
  | '+' :: cs => set cs; return (← allDigits mostSigned32 : Nat)
  | _ => return ofDecimal (← someDigits 4)

def timeMark : Scanner Unit := fun
  | [] => .error .tooShort
  | c :: cs => if c = 't' ∨ c = 'T' ∨ c = ' ' then .ok ((), cs) else .error .invalid

/-- Reads an optional fraction of a second, in nanoseconds; digits after the ninth are dropped. -/
def fraction : Scanner (Fin 1000000000) := do
  match ← get with
  | '.' :: cs =>
    set cs
    let ds ← someDigits 9
    modify (·.dropWhile fun c => (digitValue c).isSome)
    return Fin.ofNat _ (ofDecimal ds * Nat.pow 10 (9 - ds.length))
  | _ => return 0

/-- Reads exactly two digits; a text of less than two bytes is too short for them. -/
def twoDigits : Scanner Nat := fun
  | a :: b :: cs =>
    match digitValue a, digitValue b with
    | some x, some y => .ok (x * 10 + y, cs)
    | _, _ => .error .invalid
  | [c] => .error (if c.utf8Size = 1 then .tooShort else .invalid)
  | [] => .error .tooShort

def firstThree (cs : List Char) : List Char := (cs.take 3).map Char.toLower

/-- Reads an offset from universal time, in minutes: `Z`, `UTC`, or a sign and four digits with
colons and blanks allowed in the middle. -/
def offset : Scanner Int := do
  blanks
  match ← get with
  | [] => throw .tooShort
  | c :: cs =>
    if firstThree (c :: cs) = ['u', 't', 'c'] then
      set (cs.drop 2)
      return 0
    else if c = 'Z' ∨ c = 'z' then
      set cs
      return 0
    else if c = '+' ∨ c = '-' ∨ c = '\u2212' then
      set cs
      let hours ← twoDigits
      modify (·.dropWhile fun c => c = ':' || isBlank c)
      let minutes ← twoDigits
      if minutes < 60 then
        let total : Nat := hours * 60 + minutes
        return if c = '+' then total else -(total : Int)
      else throw .outOfRange
    else throw .invalid

/-- A number of a second up to 60 with a fraction: second 60 is a leap second after second 59. -/
def ofSixty (second : Nat) (nano : Fin 1000000000) : Fin 60 × Fin 2000000000 :=
  if second = 60 then (59, ⟨nano + 1000000000, by omega⟩)
  else (Fin.ofNat 60 second, ⟨nano, by omega⟩)

/-- The moment of universal time that a date and time at an offset in minutes name. -/
def atOffset (date : Date) (hour minute : Nat) (second : Fin 60) (nano : Fin 2000000000)
    (offset : Int) : Except TimestampError Timestamp :=
  let minutes : Int := hour * 60 + minute - offset
  let day? :=
    if minutes < 0 then date.prev?
    else if 1440 ≤ minutes then date.next?
    else some date
  match day? with
  | none => .error .impossible
  | some day =>
    let ofDay := (minutes % 1440).toNat
    .ok ⟨day, Fin.ofNat 24 (ofDay / 60), Fin.ofNat 60 ofDay, second, nano⟩

/-- Reads a timestamp off the front of a text. Numbers out of their range are refused where they
stand, a day that its month does not have at the end. -/
def scan : Scanner Timestamp := do
  let year ← year
  spacedSeparator '-'
  let month ← component 1 12
  spacedSeparator '-'
  let day ← component 1 31
  timeMark
  let hour ← component 0 23
  spacedSeparator ':'
  let minute ← component 0 59
  spacedSeparator ':'
  let second ← component 0 60
  let nano ← fraction
  let offset ← offset
  if !(dropBlank (← get)).isEmpty then throw .trailing
  match Date.of? year month day with
  | none => throw .outOfRange
  | some date =>
    if 1440 ≤ offset.natAbs then throw .outOfRange
    else
      let (second, nano) := ofSixty second nano
      liftM (atOffset date hour minute second nano offset)

def parse (s : String) : Except TimestampError Timestamp :=
  (scan s.toList).map (·.1)

end Timestamp

end Matchmaking.Time
