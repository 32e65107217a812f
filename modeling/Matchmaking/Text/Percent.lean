import Matchmaking.Text.Numeral
import Matchmaking.Text.Quoted
import Matchmaking.Text.Utf8

/-!
# Percent signs

Characters that may not stand for themselves are written as the bytes of their UTF-8 form, each a
percent sign with two digits. Main statements: a byte written so is read back, and characters that
are not reserved stay as they are.
-/

namespace Matchmaking.Text.Percent

def digit (n : Nat) : Char := Char.ofNat (if n < 10 then 48 + n else 55 + n)

def byte (b : UInt8) : List Char := ['%', digit (b.toNat / 16), digit (b.toNat % 16)]

/-- Whether a character may stand for itself: controls and characters outside ASCII never may, and
`reserved` says which others may not. -/
def isPlain (reserved : List Char) (c : Char) : Bool :=
  0x20 ≤ c.toNat && c.toNat < 0x7F && !reserved.contains c

/-- A character, written with percent signs unless it may stand for itself. -/
def encodeChar (reserved : List Char) (c : Char) : List Char :=
  if isPlain reserved c then [c] else (bytes (String.singleton c)).flatMap byte

def encode (reserved : List Char) (cs : List Char) : String :=
  String.ofList (cs.flatMap (encodeChar reserved))

def value? (b : UInt8) : Option Nat := digitIn? 16 (Char.ofNat b.toNat)

/-- Reads percent signs with two digits; others stand for themselves. -/
def decode : List UInt8 → List UInt8
  | a :: b :: c :: rest =>
    match value? b, value? c with
    | some high, some low =>
      if a = 0x25 then UInt8.ofNat (high * 16 + low) :: decode rest
      else a :: decode (b :: c :: rest)
    | _, _ => a :: decode (b :: c :: rest)
  | bs => bs

def decodeText? (cs : List Char) : Option String := ofBytes? (decode (bytes (String.ofList cs)))

/-- Characters that may stand for themselves do. -/
theorem encode_of_plain {reserved cs : List Char} (h : ∀ c ∈ cs, isPlain reserved c = true) :
    encode reserved cs = String.ofList cs := by
  have hflat : cs.flatMap (encodeChar reserved) = cs := by
    induction cs with
    | nil => rfl
    | cons c cs ih =>
      rw [List.flatMap_cons, ih fun d hd => h d (List.mem_cons_of_mem c hd), encodeChar,
        if_pos (h c List.mem_cons_self), List.singleton_append]
  rw [encode, hflat]

theorem value?_digit (n : Nat) (h : n < 16) :
    value? (UInt8.ofNat (digit n).toNat) = some n := by
  have all : ∀ n : Fin 16, value? (UInt8.ofNat (digit n).toNat) = some n.val := by decide
  exact all ⟨n, h⟩

/-- The bytes of a byte written with a percent sign. -/
theorem decode_byte (b : UInt8) (rest : List UInt8) :
    decode ((byte b).map (fun c => UInt8.ofNat c.toNat) ++ rest) = b :: decode rest := by
  have hb : b.toNat < 256 := b.toNat_lt
  have hhigh := value?_digit (b.toNat / 16) (by omega)
  have hlow := value?_digit (b.toNat % 16) (by omega)
  have hmark : UInt8.ofNat ('%' : Char).toNat = 0x25 := by decide
  have hsum : b.toNat / 16 * 16 + b.toNat % 16 = b.toNat := by omega
  simp only [byte, List.map_cons, List.map_nil, List.cons_append, List.nil_append, decode, hhigh,
    hlow, hmark, hsum, if_true, UInt8.ofNat_toNat]

end Matchmaking.Text.Percent
