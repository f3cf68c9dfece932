/-!
# UTF-8

Texts as bytes. A byte sequence that is no text is refused with the length of its longest part from
the start that is one.
-/

namespace ModelBench.Text.Utf8

/-- The bytes of a text. -/
def encode (s : String) : List UInt8 := s.toList.flatMap String.utf8EncodeChar

/-- Whether a byte continues a character and lies in the given range. -/
def inRange (first last b : UInt8) : Bool := first ≤ b && b ≤ last

/-- Whether a byte continues a character. -/
def continues (b : UInt8) : Bool := inRange 0x80 0xBF b

/-- The six bits a continuation byte carries. -/
def low (b : UInt8) : Nat := b.toNat % 64

/-- The range of the byte after `b` in a character of three bytes. -/
def second3 (b : UInt8) : UInt8 × UInt8 :=
  if b == 0xE0 then (0xA0, 0xBF) else if b == 0xED then (0x80, 0x9F) else (0x80, 0xBF)

/-- The range of the byte after `b` in a character of four bytes. -/
def second4 (b : UInt8) : UInt8 × UInt8 :=
  if b == 0xF0 then (0x90, 0xBF) else if b == 0xF4 then (0x80, 0x8F) else (0x80, 0xBF)

/-- The character that the bytes start with, and the number of bytes it takes. -/
def first : List UInt8 → Option (Char × Nat)
  | [] => none
  | b :: rest =>
    if b < 0x80 then some (Char.ofNat b.toNat, 1)
    else if inRange 0xC2 0xDF b then
      match rest with
      | c :: _ =>
        if continues c then some (Char.ofNat (b.toNat % 32 * 64 + low c), 2) else none
      | [] => none
    else if inRange 0xE0 0xEF b then
      match rest with
      | c :: d :: _ =>
        if inRange (second3 b).1 (second3 b).2 c && continues d then
          some (Char.ofNat ((b.toNat % 16 * 64 + low c) * 64 + low d), 3)
        else none
      | _ => none
    else if inRange 0xF0 0xF4 b then
      match rest with
      | c :: d :: e :: _ =>
        if inRange (second4 b).1 (second4 b).2 c && continues d && continues e then
          some (Char.ofNat (((b.toNat % 8 * 64 + low c) * 64 + low d) * 64 + low e), 4)
        else none
      | _ => none
    else none

/-- The characters of the bytes that come after the next `skip` ones, the next one standing at
`position`. -/
def decodeAt : (skip position : Nat) → List UInt8 → Except Nat (List Char)
  | _, _, [] => .ok []
  | skip + 1, position, _ :: rest => decodeAt skip (position + 1) rest
  | 0, position, b :: rest =>
    match first (b :: rest) with
    | none => .error position
    | some (c, size) => do
      let text ← decodeAt (size - 1) (position + 1) rest
      return c :: text

/-- The text the bytes hold, or the position of the first byte that is part of no character. -/
def decode (bytes : List UInt8) : Except Nat String :=
  (decodeAt 0 0 bytes).map String.ofList

end ModelBench.Text.Utf8
