/-!
# Bytes and text

Texts as lists of UTF-8 bytes, the strict reading of bytes as text, and the forgiving one, which
puts a replacement character where bytes do not form a character. Main statement: the strict
reading gives back any text from its bytes.
-/

namespace Matchmaking.Text

def bytes (s : String) : List UInt8 := s.toUTF8.data.toList

def ofBytes? (bs : List UInt8) : Option String := String.fromUTF8? ⟨bs.toArray⟩

@[simp] theorem ofBytes?_bytes (s : String) : ofBytes? (bytes s) = some s := by
  have h : (⟨(bytes s).toArray⟩ : ByteArray) = s.toByteArray := by simp [bytes]
  rw [ofBytes?, h, String.fromUTF8?, dif_pos s.isValidUTF8]
  rfl

/-- Whether a byte continues a character of several bytes. -/
def isTail (b : UInt8) : Bool := 0x80 ≤ b && b ≤ 0xBF

/-- How many tail bytes a first byte calls for, and the range its second byte must lie in. -/
def tailsAfter (b : UInt8) : Option (Nat × UInt8 × UInt8) :=
  if 0xC2 ≤ b && b ≤ 0xDF then some (1, 0x80, 0xBF)
  else if b == 0xE0 then some (2, 0xA0, 0xBF)
  else if b == 0xED then some (2, 0x80, 0x9F)
  else if 0xE1 ≤ b && b ≤ 0xEF then some (2, 0x80, 0xBF)
  else if b == 0xF0 then some (3, 0x90, 0xBF)
  else if b == 0xF4 then some (3, 0x80, 0x8F)
  else if 0xF1 ≤ b && b ≤ 0xF3 then some (3, 0x80, 0xBF)
  else none

/-- The bytes that go with a first byte: the tail bytes found, at most as many as it calls for. -/
def takeTails (b : UInt8) (bs : List UInt8) : List UInt8 :=
  match tailsAfter b, bs with
  | some (n, low, high), c :: cs =>
    if low ≤ c && c ≤ high then c :: (cs.take (n - 1)).takeWhile isTail else []
  | _, _ => []

/-- The characters of bytes that need not be UTF-8: each well-formed character is kept, and each
longest run that only begins a character, or a byte that cannot begin one, becomes U+FFFD. -/
def lossyChars : Nat → List UInt8 → List Char
  | _, [] => []
  | 0, _ => []
  | n + 1, b :: bs =>
    if b < 0x80 then Char.ofNat b.toNat :: lossyChars n bs
    else
      let tails := takeTails b bs
      let here := match ofBytes? (b :: tails) with
        | some s => s.toList
        | none => ['\uFFFD']
      here ++ lossyChars n (bs.drop tails.length)

def lossy (bs : List UInt8) : String := String.ofList (lossyChars bs.length bs)

end Matchmaking.Text
