namespace Switchover

abbrev Bytes := List UInt8

namespace Bytes

def ascii (text : String) : Bytes :=
  text.toList.map fun c => UInt8.ofNat c.toNat

def utf8 (text : String) : Bytes :=
  text.toUTF8.data.toList

def text? (bytes : Bytes) : Option String :=
  String.fromUTF8? ⟨bytes.toArray⟩

def text (bytes : Bytes) : String :=
  (text? bytes).getD ""

def nat16 (high low : UInt8) : Nat :=
  high.toNat * 256 + low.toNat

def nat24 (high middle low : UInt8) : Nat :=
  high.toNat * 65536 + nat16 middle low

def nat32 (b₃ b₂ b₁ b₀ : UInt8) : Nat :=
  b₃.toNat * 16777216 + nat24 b₂ b₁ b₀

def ofNat16 (n : Nat) : Bytes :=
  [UInt8.ofNat (n / 256), UInt8.ofNat n]

def ofNat24 (n : Nat) : Bytes :=
  UInt8.ofNat (n / 65536) :: ofNat16 n

def ofNat32 (n : Nat) : Bytes :=
  UInt8.ofNat (n / 16777216) :: ofNat24 n

def isBlank (b : UInt8) : Bool :=
  b == 0x20 || b == 0x09 || b == 0x0a || b == 0x0c || b == 0x0d

def trim (bytes : Bytes) : Bytes :=
  ((bytes.dropWhile isBlank).reverse.dropWhile isBlank).reverse

def lowerCase (b : UInt8) : UInt8 :=
  if 0x41 ≤ b && b ≤ 0x5a then b + 0x20 else b

/-- Equality up to the case of ASCII letters. -/
def sameText (left right : Bytes) : Bool :=
  left.map lowerCase == right.map lowerCase

def comma : UInt8 := 0x2c

def elements (bytes : Bytes) : List Bytes :=
  (bytes.splitOn comma).map trim

def isTokenByte (b : UInt8) : Bool :=
  (0x30 ≤ b && b ≤ 0x39) || (0x41 ≤ b && b ≤ 0x5a) || (0x61 ≤ b && b ≤ 0x7a) ||
    (ascii "!#$%&'*+-.^_|~").contains b || b == 0x60

def isToken (bytes : Bytes) : Bool :=
  !bytes.isEmpty && bytes.all isTokenByte

end Bytes
end Switchover
