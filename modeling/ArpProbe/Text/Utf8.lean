/-!
# UTF-8

A byte sequence is read one character at a time. Where no character starts, the longest beginning
of a character (at least one byte) is one fault: `decode?` then gives up, `decodeLossy` puts the
replacement character in its place.
-/

namespace ArpProbe.Utf8

/-- What a lead byte asks for: the number of bytes that follow, and the range of the first. -/
structure Lead where
  count : Nat
  lo : UInt8
  hi : UInt8

/-- No byte below `C2` or above `F4` leads, and the narrower ranges after `E0`, `ED`, `F0` and `F4`
keep out overlong forms, surrogates and numbers past `10FFFF`. -/
def lead? (b : UInt8) : Option Lead :=
  if b < 0xc2 then none
  else if b ≤ 0xdf then some ⟨1, 0x80, 0xbf⟩
  else if b = 0xe0 then some ⟨2, 0xa0, 0xbf⟩
  else if b = 0xed then some ⟨2, 0x80, 0x9f⟩
  else if b ≤ 0xef then some ⟨2, 0x80, 0xbf⟩
  else if b = 0xf0 then some ⟨3, 0x90, 0xbf⟩
  else if b < 0xf4 then some ⟨3, 0x80, 0xbf⟩
  else if b = 0xf4 then some ⟨3, 0x80, 0x8f⟩
  else none

/-- The bytes after a lead byte: `count` of them, the first in `lo … hi`, the others in `80 … BF`.
Returns those found and whether all were. -/
def tail : Nat → UInt8 → UInt8 → List UInt8 → List UInt8 × Bool
  | 0, _, _, _ => ([], true)
  | _ + 1, _, _, [] => ([], false)
  | count + 1, lo, hi, b :: bytes =>
    if lo ≤ b ∧ b ≤ hi then
      let (found, complete) := tail count 0x80 0xbf bytes
      (b :: found, complete)
    else ([], false)

/-- The bits that a lead byte contributes when `count` bytes follow it. -/
def leadBits (count : Nat) (b : UInt8) : Nat :=
  b.toNat % Nat.pow 2 (6 - count)

/-- The code point spelled by a lead byte and the bytes after it. -/
def codePoint (b : UInt8) (found : List UInt8) : Nat :=
  found.foldl (fun n t => 64 * n + t.toNat % 64) (leadBits found.length b)

/-- What the bytes `b :: bytes` start with, a character or a fault (`none`), and the number of bytes
that it takes after `b`. -/
def piece (b : UInt8) (bytes : List UInt8) : Option Char × Nat :=
  if b < 0x80 then (some (Char.ofNat b.toNat), 0)
  else match lead? b with
    | none => (none, 0)
    | some ⟨count, lo, hi⟩ =>
      let (found, complete) := tail count lo hi bytes
      (if complete then some (Char.ofNat (codePoint b found)) else none, found.length)

/-- The characters and faults of a byte sequence, in order. -/
def pieces : List UInt8 → List (Option Char)
  | [] => []
  | b :: bytes => (piece b bytes).1 :: pieces (bytes.drop (piece b bytes).2)
termination_by bytes => bytes.length
decreasing_by simp only [List.length_drop, List.length_cons]; omega

/-- The text of a sequence without faults. -/
def decode? (bytes : List UInt8) : Option String :=
  ((pieces bytes).mapM id).map String.ofList

/-- The text of any sequence, with `U+FFFD` for each fault. -/
def decodeLossy (bytes : List UInt8) : String :=
  String.ofList ((pieces bytes).map (·.getD '\ufffd'))

/-- The bytes of a text. -/
def encode (text : String) : List UInt8 :=
  text.toList.flatMap String.utf8EncodeChar

/-- The number of bytes of a text. -/
def size (text : List Char) : Nat :=
  (text.flatMap String.utf8EncodeChar).length

end ArpProbe.Utf8
