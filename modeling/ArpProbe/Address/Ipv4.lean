import ArpProbe.Text.Decimal
import ArpProbe.Text.Field

/-!
# IPv4 addresses

Four octets, written as decimal numbers with dots between them, and read as one 32-bit number where
networks are concerned.
-/

namespace ArpProbe

/-- An IPv4 address. -/
structure Ipv4 where
  a : UInt8
  b : UInt8
  c : UInt8
  d : UInt8
deriving DecidableEq, Repr, Inhabited

namespace Ipv4

/-- The bytes in the order in which they are sent. -/
def toBytes (ip : Ipv4) : List UInt8 :=
  [ip.a, ip.b, ip.c, ip.d]

@[simp] theorem length_toBytes (ip : Ipv4) : ip.toBytes.length = 4 := rfl

/-- The address with the first four of the given bytes; bytes that are missing are zero. -/
def ofBytes (bytes : List UInt8) : Ipv4 :=
  ⟨bytes.getD 0 0, bytes.getD 1 0, bytes.getD 2 0, bytes.getD 3 0⟩

@[simp] theorem ofBytes_toBytes (ip : Ipv4) : ofBytes ip.toBytes = ip := rfl

@[simp] theorem ofBytes_toBytes_append (ip : Ipv4) (bytes : List UInt8) :
    ofBytes (ip.toBytes ++ bytes) = ip := rfl

/-! ## The 32-bit number -/

/-- The address as a number, the first octet in the highest bits. -/
def bits (ip : Ipv4) : BitVec 32 :=
  BitVec.ofNat 32 (((ip.a.toNat * 256 + ip.b.toNat) * 256 + ip.c.toNat) * 256 + ip.d.toNat)

/-- The address with the given bits. -/
def ofBits (v : BitVec 32) : Ipv4 where
  a := UInt8.ofNat (v.toNat / 256 / 256 / 256)
  b := UInt8.ofNat (v.toNat / 256 / 256)
  c := UInt8.ofNat (v.toNat / 256)
  d := UInt8.ofNat v.toNat

@[simp] theorem bits_ofBits (v : BitVec 32) : (ofBits v).bits = v := by
  have bound := v.isLt
  apply BitVec.eq_of_toNat_eq
  simp only [bits, ofBits, UInt8.toNat_ofNat', BitVec.toNat_ofNat]
  omega

@[simp] theorem ofBits_bits (ip : Ipv4) : ofBits ip.bits = ip := by
  obtain ⟨a, b, c, d⟩ := ip
  have ha := a.toNat_lt
  have hb := b.toNat_lt
  have hc := c.toNat_lt
  have hd := d.toNat_lt
  simp only [bits, ofBits, BitVec.toNat_ofNat, mk.injEq, ← UInt8.toNat_inj, UInt8.toNat_ofNat']
  omega

/-- The netmask of a network whose first `length` bits are fixed. -/
def netmask (length : Fin 33) : Ipv4 :=
  ofBits (BitVec.allOnes 32 <<< (32 - length.val))

/-! ## Written form -/

/-- Four decimal numbers with dots between them. -/
def chars (ip : Ipv4) : List Char :=
  ['.'].intercalate (ip.toBytes.map fun octet => Nat.toDigits 10 octet.toNat)

/-- The written form as text. -/
def text (ip : Ipv4) : String :=
  String.ofList ip.chars

/-- Reads an octet at the front of a text: all the digits there, of which there are one to three,
with a leading zero only in front of nothing else, and a value below 256. -/
def readOctet? (text : List Char) : Option (UInt8 × List Char) :=
  let digits := text.takeWhile Char.isDigit
  if digits.length = 0 ∨ 3 < digits.length then none
  else if digits.head? = some '0' ∧ digits.length ≠ 1 then none
  else if 255 < Decimal.value digits then none
  else some (UInt8.ofNat (Decimal.value digits), text.dropWhile Char.isDigit)

/-- Reads an address at the front of a text, and returns what follows. -/
def read? (text : List Char) : Option (Ipv4 × List Char) := do
  let (a, text) ← readOctet? text
  let (b, text) ← readOctet? (← Text.skip? '.' text)
  let (c, text) ← readOctet? (← Text.skip? '.' text)
  let (d, text) ← readOctet? (← Text.skip? '.' text)
  return (⟨a, b, c, d⟩, text)

end Ipv4

end ArpProbe
