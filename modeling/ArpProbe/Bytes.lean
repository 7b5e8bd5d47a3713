/-!
# Bytes

Frames are lists of bytes. Numbers in them take two bytes, the high one first.
-/

namespace ArpProbe

/-- A sequence of bytes. -/
abbrev Bytes := List UInt8

namespace Bytes

/-- The two bytes of a number, high byte first. -/
def ofWord (w : UInt16) : Bytes :=
  [UInt8.ofNat (w.toNat / 256), UInt8.ofNat (w.toNat % 256)]

/-- The number in the first two bytes; bytes that are missing are zero. -/
def word (bytes : Bytes) : UInt16 :=
  UInt16.ofNat (256 * (bytes.getD 0 0).toNat + (bytes.getD 1 0).toNat)

@[simp] theorem length_ofWord (w : UInt16) : (ofWord w).length = 2 := rfl

@[simp] theorem word_ofWord_append (w : UInt16) (bytes : Bytes) : word (ofWord w ++ bytes) = w := by
  have bound := w.toNat_lt
  apply UInt16.toNat_inj.1
  simp [word, ofWord]
  omega

/-- Two bytes are written back as they were read. -/
theorem ofWord_word {bytes : Bytes} (whole : 2 ≤ bytes.length) :
    ofWord (word bytes) = bytes.take 2 := by
  match bytes, whole with
  | high :: low :: rest, _ =>
    have high_lt := high.toNat_lt
    have low_lt := low.toNat_lt
    have value : (word (high :: low :: rest)).toNat = 256 * high.toNat + low.toNat := by
      simp only [word, List.getD_cons_zero, List.getD_cons_succ, UInt16.toNat_ofNat']
      omega
    have first : (256 * high.toNat + low.toNat) / 256 = high.toNat := by omega
    have second : (256 * high.toNat + low.toNat) % 256 = low.toNat := by omega
    rw [ofWord, value, first, second, UInt8.ofNat_toNat, UInt8.ofNat_toNat]
    rfl

/-- The number with its two bytes exchanged. -/
def swapWord (w : UInt16) : UInt16 :=
  w <<< 8 ||| w >>> 8

/-- The `length` bytes from `start` on, if there are that many. -/
def slice? (bytes : Bytes) (start length : Nat) : Option Bytes :=
  if start + length ≤ bytes.length then some ((bytes.drop start).take length) else none

/-- The bytes with those from `start` on overwritten, if there are enough of them. -/
def patch? (bytes : Bytes) (start : Nat) (new : Bytes) : Option Bytes :=
  if start + new.length ≤ bytes.length then
    some (bytes.take start ++ new ++ bytes.drop (start + new.length))
  else none

/-- Patching bytes changes none of their number. -/
theorem length_patch? {bytes new patched : Bytes} {start : Nat}
    (h : patch? bytes start new = some patched) : patched.length = bytes.length := by
  unfold patch? at h
  split at h
  · cases h; simp; omega
  · cases h

end Bytes

end ArpProbe
