import ArpProbe.Text.Field
import ArpProbe.Text.Hex
import ArpProbe.Text.Utf8

/-!
# Hardware addresses

A hardware address has six bytes and is written as six groups of two hexadecimal digits with colons
between them.
-/

namespace ArpProbe

/-- A 48-bit hardware address. -/
structure Mac where
  b0 : UInt8
  b1 : UInt8
  b2 : UInt8
  b3 : UInt8
  b4 : UInt8
  b5 : UInt8
deriving DecidableEq, Repr, Inhabited

namespace Mac

/-- The number of bytes of a hardware address. -/
def byteLength : Nat := 6

/-- The bytes in the order in which they are sent. -/
def toBytes (m : Mac) : List UInt8 :=
  [m.b0, m.b1, m.b2, m.b3, m.b4, m.b5]

@[simp] theorem length_toBytes (m : Mac) : m.toBytes.length = 6 := rfl

/-- The address with the first six of the given bytes; bytes that are missing are zero. -/
def ofBytes (bytes : List UInt8) : Mac :=
  ⟨bytes.getD 0 0, bytes.getD 1 0, bytes.getD 2 0, bytes.getD 3 0, bytes.getD 4 0, bytes.getD 5 0⟩

@[simp] theorem ofBytes_toBytes (m : Mac) : ofBytes m.toBytes = m := rfl

@[simp] theorem ofBytes_toBytes_append (m : Mac) (bytes : List UInt8) :
    ofBytes (m.toBytes ++ bytes) = m := rfl

/-- The address of every station on a network. -/
def broadcast : Mac := ⟨0xff, 0xff, 0xff, 0xff, 0xff, 0xff⟩

/-- The address with no bit set. -/
def zero : Mac := ⟨0, 0, 0, 0, 0, 0⟩

def isBroadcast (m : Mac) : Bool :=
  m == broadcast

/-! ## Written form -/

/-- Six groups of two lower-case digits, with colons between them. -/
def chars (m : Mac) : List Char :=
  [':'].intercalate (m.toBytes.map Hex.byte)

/-- The written form as text. -/
def text (m : Mac) : String :=
  String.ofList m.chars

/-- Why a text is not read as a hardware address. -/
inductive ParseError
  | groupCount
  | groupLength
  | notHex
deriving DecidableEq, Repr

def ParseError.message : ParseError → String
  | .groupCount => "MAC address must have 6 groups"
  | .groupLength => "MAC address group must be 2 hex digits"
  | .notHex => "MAC address group is not hex"

/-- The value of a group: two digits, or one digit after a plus sign. -/
def groupValue? : List Char → Option UInt8
  | [first, second] => do
    let low ← Hex.value? second
    if first = '+' then return UInt8.ofNat low
    let high ← Hex.value? first
    return UInt8.ofNat (16 * high + low)
  | _ => none

/-- The values of exactly `count` groups. Groups are looked at in order, so the first fault decides
the error. A group takes two bytes before its digits are looked at. -/
def readGroups : Nat → List (List Char) → Except ParseError (List UInt8)
  | 0, [] => .ok []
  | 0, _ :: _ => .error .groupCount
  | _ + 1, [] => .error .groupCount
  | count + 1, group :: groups =>
    if Utf8.size group ≠ 2 then .error .groupLength
    else match groupValue? group with
      | none => .error .notHex
      | some byte => (readGroups count groups).map (byte :: ·)

/-- Reads six groups with colons between them. -/
def parse (text : String) : Except ParseError Mac :=
  (readGroups byteLength (Text.fields ':' text.toList)).map ofBytes

end Mac

end ArpProbe
