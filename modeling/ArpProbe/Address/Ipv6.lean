import ArpProbe.Address.Ipv4
import ArpProbe.Bytes
import ArpProbe.Text.Hex

/-!
# IPv6 addresses

Eight groups of sixteen bits. The written form replaces one run of zero groups by `::`, and the last
two groups may be given as an IPv4 address. An address whose first ten bytes are zero and whose next
two are `ff` stands for the IPv4 address in its last four bytes.
-/

namespace ArpProbe

/-- An IPv6 address. -/
structure Ipv6 where
  groups : List UInt16
  length_groups : groups.length = 8
deriving DecidableEq, Repr

namespace Ipv6

/-- The two groups that hold an IPv4 address. -/
def groupsOf (ip : Ipv4) : List UInt16 :=
  [Bytes.word ip.toBytes, Bytes.word (ip.toBytes.drop 2)]

/-- The IPv4 address in two groups. -/
def ipv4Of (high low : UInt16) : Ipv4 :=
  Ipv4.ofBytes (Bytes.ofWord high ++ Bytes.ofWord low)

/-- The IPv4 address that a mapped address stands for. -/
def mapped? (ip : Ipv6) : Option Ipv4 :=
  match ip.groups with
  | [0, 0, 0, 0, 0, 0xffff, high, low] => some (ipv4Of high low)
  | _ => none

/-- The mapped address that stands for an IPv4 address. -/
def ofIpv4 (ip : Ipv4) : Ipv6 where
  groups := [0, 0, 0, 0, 0, 0xffff] ++ groupsOf ip
  length_groups := rfl

/-! ## Written form -/

/-- The number of zero groups from position `start` on. -/
def zerosAt (groups : List UInt16) (start : Nat) : Nat :=
  ((groups.drop start).takeWhile (· == 0)).length

/-- Start and length of the longest run of zero groups, the first among equals. -/
def longestZeros (groups : List UInt16) : Nat × Nat :=
  (List.range groups.length).foldl
    (fun best start => if best.2 < zerosAt groups start then (start, zerosAt groups start) else best)
    (0, 0)

/-- Groups without leading zeros, with colons between them. -/
def joinGroups (groups : List UInt16) : List Char :=
  [':'].intercalate (groups.map fun group => Hex.number group.toNat)

/-- The canonical form: dotted for a mapped address, otherwise lower-case groups in which `::` takes
the place of the longest run of at least two zero groups. -/
def chars (ip : Ipv6) : List Char :=
  match ip.mapped? with
  | some v4 => [':', ':', 'f', 'f', 'f', 'f', ':'] ++ v4.chars
  | none =>
    let (start, length) := longestZeros ip.groups
    if 1 < length then
      joinGroups (ip.groups.take start) ++ [':', ':'] ++ joinGroups (ip.groups.drop (start + length))
    else joinGroups ip.groups

/-- The canonical form as text. -/
def text (ip : Ipv6) : String :=
  String.ofList ip.chars

/-- Reads a group at the front of a text: all the hexadecimal digits there, of which there are one
to four. -/
def readGroup? (text : List Char) : Option (UInt16 × List Char) :=
  let digits := (text.takeWhile fun c => (Hex.value? c).isSome).filterMap Hex.value?
  if digits.length = 0 ∨ 4 < digits.length then none
  else some (UInt16.ofNat (digits.foldl (16 * · + ·) 0), text.drop digits.length)

/-- A run of groups at the front of a text. -/
structure Run where
  groups : List UInt16
  endsInIpv4 : Bool
  rest : List Char

/-- Reads as many groups as there are, at most `limit`, with colons between them. Where two more fit,
an IPv4 address is tried first and ends the run. Before the first group there is no colon. -/
def readGroups (first : Bool) : Nat → List Char → Run
  | 0, text => ⟨[], false, text⟩
  | limit + 1, text =>
    let start? := if first then some text else Text.skip? ':' text
    match if limit = 0 then none else start?.bind Ipv4.read? with
    | some (ip, rest) => ⟨groupsOf ip, true, rest⟩
    | none =>
      match start?.bind readGroup? with
      | none => ⟨[], false, text⟩
      | some (group, rest) =>
        let run := readGroups false limit rest
        { run with groups := group :: run.groups }

/-- Reads an address at the front of a text, and returns what follows: eight groups, or fewer with
one `::` for at least one zero group. -/
def read? (text : List Char) : Option (Ipv6 × List Char) := do
  let head := readGroups true 8 text
  if h : head.groups.length = 8 then return (⟨head.groups, h⟩, head.rest)
  if head.endsInIpv4 then none
  let text ← Text.skip? ':' (← Text.skip? ':' head.rest)
  let tail := readGroups true (7 - head.groups.length) text
  let zeros := List.replicate (8 - head.groups.length - tail.groups.length) 0
  let groups := head.groups ++ zeros ++ tail.groups
  if h : groups.length = 8 then return (⟨groups, h⟩, tail.rest) else none

end Ipv6

end ArpProbe
