import ArpProbe.Host.Interface
import Mathlib.Data.Set.Defs
import Mathlib.Tactic.Lemma

/-!
# The addresses of a network

An address is in a network if it agrees with the address of the network where the netmask has ones.
A netmask of some length has all of its ones in front, so the network is an interval: what agrees in
the leading bits lies between the address with all other bits cleared and the address with all other
bits set, and nothing else does. `contains_exact` puts together what follows for networks of one
length, of two lengths, and for netmasks with ones in any places.
-/

namespace ArpProbe

/-! ## Masks and leading bits -/

namespace Bits

variable {w length : Nat} {x y z mask : BitVec w}

/-- What a mask leaves of two numbers is the same if they agree where it has ones. -/
lemma and_eq_and_iff : x &&& mask = y &&& mask ↔
    ∀ i, mask.getMsbD i = true → x.getMsbD i = y.getMsbD i := by
  constructor
  · intro same i one
    have bit := congrArg (BitVec.getMsbD · i) same
    simpa only [BitVec.getMsbD_and, one, Bool.and_true] using bit
  · intro agree
    refine BitVec.eq_of_getMsbD_eq fun i _ => ?_
    rw [BitVec.getMsbD_and, BitVec.getMsbD_and]
    cases one : mask.getMsbD i with
    | false => rw [Bool.and_false, Bool.and_false]
    | true => rw [agree i one]

/-- The leading bits are what is left when all others are shifted out. -/
lemma ushiftRight_eq_iff (bound : length ≤ w) :
    x >>> (w - length) = y >>> (w - length) ↔ ∀ i < length, x.getMsbD i = y.getMsbD i := by
  constructor
  · intro same i leading
    have bit := congrArg (BitVec.getMsbD · (i + (w - length))) same
    have place : i + (w - length) < w := by omega
    have kept : ¬ i + (w - length) < w - length := by omega
    simpa [BitVec.getMsbD_ushiftRight, place, kept] using bit
  · intro agree
    refine BitVec.eq_of_getMsbD_eq fun i place => ?_
    rw [BitVec.getMsbD_ushiftRight, BitVec.getMsbD_ushiftRight]
    by_cases filled : i < w - length
    · simp [filled]
    · rw [agree (i - (w - length)) (by omega)]

lemma ushiftRight_le_ushiftRight (le : x ≤ y) (n : Nat) : x >>> n ≤ y >>> n := by
  rw [BitVec.le_def] at le ⊢
  simp only [BitVec.toNat_ushiftRight, Nat.shiftRight_eq_div_pow]
  exact Nat.div_le_div_right le

/-- What lies between two numbers with the same leading bits has these too. -/
lemma ushiftRight_eq_of_between {low high : BitVec w} {n : Nat} (above : low ≤ y) (below : y ≤ high)
    (low_eq : low >>> n = x >>> n) (high_eq : high >>> n = x >>> n) : x >>> n = y >>> n := by
  refine BitVec.le_antisymm ?_ ?_
  · rw [← low_eq]
    exact ushiftRight_le_ushiftRight above n
  · rw [← high_eq]
    exact ushiftRight_le_ushiftRight below n

/-- Bits that are cleared make a number no larger. -/
lemma and_le (x mask : BitVec w) : x &&& mask ≤ x := by
  rw [BitVec.le_def, BitVec.toNat_and]
  exact Nat.and_le_left

lemma le_or (x mask : BitVec w) : x ≤ x ||| mask := by
  rw [BitVec.le_def, BitVec.toNat_or]
  exact Nat.left_le_or

/-- Where all bits outside of a mask are set, only those inside matter. -/
lemma or_not_eq (x mask : BitVec w) : x ||| ~~~mask = (x &&& mask) ||| ~~~mask := by
  refine BitVec.eq_of_getMsbD_eq fun i place => ?_
  simp only [BitVec.getMsbD_or, BitVec.getMsbD_and, BitVec.getMsbD_not]
  cases mask.getMsbD i <;> simp [place]

/-- Whatever the mask, what agrees with `x` on it is not below `x` with the bits outside cleared,
and not above `x` with them set. -/
lemma between_of_and_eq_and (agree : x &&& mask = y &&& mask) :
    x &&& mask ≤ y ∧ y ≤ x ||| ~~~mask := by
  constructor
  · rw [agree]
    exact and_le y mask
  · rw [or_not_eq x, agree, ← or_not_eq y]
    exact le_or y (~~~mask)

end Bits

/-! ## Netmasks -/

namespace Ipv4

variable {length : Fin 33}

/-- The leading bits of a netmask are ones, as many as its length says. -/
lemma getMsbD_netmask (length : Fin 33) (i : Nat) :
    (netmask length).bits.getMsbD i = decide (i < length.val) := by
  have bound := length.isLt
  rw [netmask, bits_ofBits, BitVec.getMsbD_shiftLeft, BitVec.getMsbD_allOnes]
  congr 1
  rw [eq_iff_iff]
  omega

variable {ip dst : Ipv4}

/-- Addresses between the ends of a network agree with it in the leading bits. -/
lemma agree_of_between (above : ip.bits &&& (netmask length).bits ≤ dst.bits)
    (below : dst.bits ≤ ip.bits ||| ~~~(netmask length).bits) :
    ∀ i < length.val, ip.bits.getMsbD i = dst.bits.getMsbD i := by
  have bound : length.val ≤ 32 := Nat.le_of_lt_succ length.isLt
  rw [← Bits.ushiftRight_eq_iff bound]
  -- both ends have the leading bits of the address
  refine Bits.ushiftRight_eq_of_between above below ?_ ?_
  · rw [Bits.ushiftRight_eq_iff bound]
    intro i leading
    rw [BitVec.getMsbD_and, getMsbD_netmask, decide_eq_true leading, Bool.and_true]
  · rw [Bits.ushiftRight_eq_iff bound]
    intro i leading
    rw [BitVec.getMsbD_or, BitVec.getMsbD_not, getMsbD_netmask, decide_eq_true leading]
    simp

end Ipv4

/-! ## Membership -/

namespace LocalAddress

variable {address : LocalAddress} {ip dst other : Ipv4} {length : Fin 33}

/-- An address is in a network if the masked bits agree. -/
lemma contains_iff : address.contains dst = true ↔
    address.ip.bits &&& address.netmask.bits = dst.bits &&& address.netmask.bits :=
  beq_iff_eq

/-- Where the netmask has ones, bits have to agree. -/
lemma contains_iff_getMsbD : address.contains dst = true ↔
    ∀ i, address.netmask.bits.getMsbD i = true →
      address.ip.bits.getMsbD i = dst.bits.getMsbD i :=
  contains_iff.trans Bits.and_eq_and_iff

/-- With a prefix for a mask, the leading bits agree. -/
lemma contains_netmask_iff : contains ⟨ip, .netmask length⟩ dst = true ↔
    ∀ i < length.val, ip.bits.getMsbD i = dst.bits.getMsbD i := by
  simp only [contains_iff_getMsbD, Ipv4.getMsbD_netmask, decide_eq_true_eq]

/-- With a prefix for a mask, a network is an interval of numbers. -/
lemma contains_netmask_iff_between : contains ⟨ip, .netmask length⟩ dst = true ↔
    ip.bits &&& (Ipv4.netmask length).bits ≤ dst.bits ∧
      dst.bits ≤ ip.bits ||| ~~~(Ipv4.netmask length).bits := by
  constructor
  · intro contains
    have agree := contains_iff.1 contains
    exact Bits.between_of_and_eq_and agree
  · rintro ⟨above, below⟩
    exact contains_netmask_iff.2 (Ipv4.agree_of_between above below)

/-- Sharing a network of one length is an equivalence of addresses. -/
lemma equivalence_contains (length : Fin 33) :
    Equivalence fun ip dst : Ipv4 => contains ⟨ip, .netmask length⟩ dst = true := by
  simp only [contains_netmask_iff]
  refine ⟨fun ip i leading => rfl, fun same i leading => ?_, fun first second i leading => ?_⟩
  · exact (same i leading).symm
  · exact (first i leading).trans (second i leading)

/-- A longer netmask fixes more bits. -/
lemma contains_of_longer {shorter longer : Fin 33} (le : shorter ≤ longer)
    (contains : contains ⟨ip, .netmask longer⟩ dst = true) :
    LocalAddress.contains ⟨ip, .netmask shorter⟩ dst = true := by
  rw [contains_netmask_iff] at contains ⊢
  intro i leading
  exact contains i (Nat.lt_of_lt_of_le leading le)

/-- Bits where the netmask has zeros do not matter. -/
lemma contains_eq_of_and_eq
    (same : dst.bits &&& address.netmask.bits = other.bits &&& address.netmask.bits) :
    address.contains dst = address.contains other := by
  rw [contains, contains, same]

lemma contains_self (address : LocalAddress) : address.contains address.ip = true :=
  contains_iff.2 rfl

/-- Which addresses a network contains.

For a netmask of a length from 0 to 32, which has so many ones and then zeros, they are the
addresses from the one with all bits outside of the netmask cleared to the one with all of them set,
and these are the addresses with the same leading bits. So networks of one length are the classes of
an equivalence, and a longer netmask makes a part of the network of a shorter one. For a netmask
with ones in any places, only the bits in these places matter, and they all have to agree; the
address of the network itself is always in it. -/
theorem contains_exact (ip : Ipv4) :
    (∀ (length : Fin 33) (dst : Ipv4),
      let mask := (Ipv4.netmask length).bits
      (∀ i, mask.getMsbD i = decide (i < length.val)) ∧
      (contains ⟨ip, .netmask length⟩ dst = true ↔
        ip.bits &&& mask ≤ dst.bits ∧ dst.bits ≤ ip.bits ||| ~~~mask) ∧
      (contains ⟨ip, .netmask length⟩ dst = true ↔
        ∀ i < length.val, ip.bits.getMsbD i = dst.bits.getMsbD i)) ∧
    (∀ length : Fin 33,
      Equivalence fun ip dst : Ipv4 => contains ⟨ip, .netmask length⟩ dst = true) ∧
    (∀ shorter longer : Fin 33, shorter ≤ longer →
      {dst | contains ⟨ip, .netmask longer⟩ dst = true} ⊆
        {dst | contains ⟨ip, .netmask shorter⟩ dst = true}) ∧
    (∀ netmask : Ipv4,
      (∀ dst other : Ipv4, dst.bits &&& netmask.bits = other.bits &&& netmask.bits →
        contains ⟨ip, netmask⟩ dst = contains ⟨ip, netmask⟩ other) ∧
      (∀ dst, contains ⟨ip, netmask⟩ dst = true ↔
        ∀ i, netmask.bits.getMsbD i = true → ip.bits.getMsbD i = dst.bits.getMsbD i) ∧
      contains ⟨ip, netmask⟩ ip = true) := by
  refine ⟨fun length dst => ?_, equivalence_contains, fun shorter longer le dst => ?_,
    fun netmask => ?_⟩
  · exact ⟨Ipv4.getMsbD_netmask length, contains_netmask_iff_between, contains_netmask_iff⟩
  · exact contains_of_longer le
  · let address : LocalAddress := ⟨ip, netmask⟩
    refine ⟨fun dst other same => ?_, fun dst => ?_, address.contains_self⟩
    · exact @contains_eq_of_and_eq address dst other same
    · exact @contains_iff_getMsbD address dst

/-- With no ones in the netmask all addresses share a network, and with ones only an address is
alone in its own. -/
example :
    let ip : Ipv4 := ⟨10, 0, 0, 1⟩
    contains ⟨ip, .netmask 0⟩ ⟨192, 168, 1, 10⟩ = true ∧
      contains ⟨ip, .netmask 32⟩ ⟨10, 0, 0, 0⟩ = false := by
  decide

end LocalAddress

end ArpProbe
