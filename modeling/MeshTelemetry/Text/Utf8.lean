/-!
Text as bytes: the UTF-8 form of a string and its reading.
-/

namespace MeshTelemetry.Text

/-- The bytes of a string in UTF-8. -/
def utf8 (s : String) : List UInt8 :=
  s.toUTF8.toList

/-- The string that the bytes spell, if they are well-formed UTF-8. -/
def ofUtf8? (bytes : List UInt8) : Option String :=
  String.fromUTF8? ⟨bytes.toArray⟩

/-- A byte between two bounds. -/
def within (low high b : UInt8) : Bool :=
  low ≤ b && b ≤ high

/-- A byte inside a character. -/
def isTail (b : UInt8) : Bool :=
  within 0x80 0xbf b

/-- The first two bytes of a character of two. -/
def opensTwo (a b : UInt8) : Bool :=
  within 0xc2 0xdf a && isTail b

/-- The first two bytes of a character of three. -/
def opensThree (a b : UInt8) : Bool :=
  (a = 0xe0 && within 0xa0 0xbf b) || (a = 0xed && within 0x80 0x9f b) ||
    (within 0xe1 0xef a && a ≠ 0xed && isTail b)

/-- The first two bytes of a character of four. -/
def opensFour (a b : UInt8) : Bool :=
  (a = 0xf0 && within 0x90 0xbf b) || (a = 0xf4 && within 0x80 0x8f b) ||
    (within 0xf1 0xf3 a && isTail b)

/-- How many bytes at the front are whole characters, behind `count` of them. -/
def textLength (count : Nat) : List UInt8 → Nat
  | [] => count
  | [a] => if a < 0x80 then count + 1 else count
  | [a, b] =>
    if a < 0x80 then textLength (count + 1) [b]
    else if opensTwo a b then count + 2
    else count
  | [a, b, c] =>
    if a < 0x80 then textLength (count + 1) [b, c]
    else if opensTwo a b then textLength (count + 2) [c]
    else if opensThree a b && isTail c then count + 3
    else count
  | a :: b :: c :: d :: rest =>
    if a < 0x80 then textLength (count + 1) (b :: c :: d :: rest)
    else if opensTwo a b then textLength (count + 2) (c :: d :: rest)
    else if opensThree a b && isTail c then textLength (count + 3) (d :: rest)
    else if opensFour a b && isTail c && isTail d then textLength (count + 4) rest
    else count

/-- Length of a string in bytes. -/
def byteLength (s : String) : Nat :=
  s.utf8ByteSize

end MeshTelemetry.Text
