import ArpProbe.Proofs.Address.Compressed

/-!
# The canonical form of an IPv6 address

Of the forms of an address one is canonical, and it is the one that is written (`canonical_iff`). It
denotes the address (`denotes_chars`).
-/

namespace ArpProbe.Ipv6

/-! ## Mapped addresses -/

/-- The two groups of an address made from two groups are these. -/
lemma groupsOf_ipv4Of (high low : UInt16) : groupsOf (ipv4Of high low) = [high, low] := by
  have bytes : (ipv4Of high low).toBytes = Bytes.ofWord high ++ Bytes.ofWord low := rfl
  have second : (Bytes.ofWord high ++ Bytes.ofWord low).drop 2 = Bytes.ofWord low ++ [] := rfl
  rw [groupsOf, bytes, second, Bytes.word_ofWord_append, Bytes.word_ofWord_append]

lemma ipv4Of_groupsOf (ip : Ipv4) :
    ipv4Of (Bytes.word ip.toBytes) (Bytes.word (ip.toBytes.drop 2)) = ip := by
  have high : 2 ≤ ip.toBytes.length := by simp
  have low : 2 ≤ (ip.toBytes.drop 2).length := by simp
  rw [ipv4Of, Bytes.ofWord_word high, Bytes.ofWord_word low]
  rfl

/-- The IPv4 address found in an IPv6 address is the one that it is the mapped form of. -/
lemma mapped?_eq_some_iff {v : Ipv6} {ip : Ipv4} : v.mapped? = some ip ↔ v = ofIpv4 ip := by
  constructor
  · intro mapped
    obtain ⟨groups, length⟩ := v
    unfold mapped? at mapped
    split at mapped
    · next high low same =>
      obtain rfl : groups = [0, 0, 0, 0, 0, 0xffff, high, low] := same
      obtain rfl := Option.some.inj mapped
      simp only [ofIpv4, groupsOf_ipv4Of]
      rfl
    · cases mapped
  · rintro rfl
    exact congrArg some (ipv4Of_groupsOf ip)

/-! ## Runs of zero groups -/

variable {groups before before' after after' : List UInt16} {zeros zeros' : Nat}

/-- From any place on, the groups are the zeros counted there and what follows them. -/
lemma drop_eq (groups : List UInt16) (start : Nat) :
    groups.drop start =
      List.replicate (zerosAt groups start) 0 ++ groups.drop (start + zerosAt groups start) := by
  have run : (groups.drop start).takeWhile (· == 0) = List.replicate (zerosAt groups start) 0 :=
    List.eq_replicate_iff.2 ⟨rfl, fun group member => by simpa using List.mem_takeWhile_imp member⟩
  have window : (groups.drop start).take (zerosAt groups start) =
      List.replicate (zerosAt groups start) 0 := by
    rw [← run]
    exact (List.prefix_iff_eq_take.1 (List.takeWhile_prefix (· == 0))).symm
  rw [← window, ← List.drop_drop, List.take_append_drop]

/-- A run of zeros is no longer than what is counted from its start. -/
lemma le_zerosAt (split : groups = before ++ List.replicate zeros 0 ++ after) :
    zeros ≤ zerosAt groups before.length := by
  rw [zerosAt, split, List.append_assoc, List.drop_left, List.takeWhile_append_of_pos (by simp)]
  simp

/-- The zero groups between the others are the longest run of them, and the first of this length. -/
structure Longest (groups before : List UInt16) (zeros : Nat) (after : List UInt16) : Prop where
  split : groups = before ++ List.replicate zeros 0 ++ after
  first : ∀ {before' zeros' after'}, groups = before' ++ List.replicate zeros' 0 ++ after' →
    zeros' < zeros ∨ zeros' = zeros ∧ before.length ≤ before'.length

/-- There is one longest run of zeros, since of equal ones the first counts. -/
lemma Longest.unique (one : Longest groups before zeros after)
    (other : Longest groups before' zeros' after') :
    before = before' ∧ zeros = zeros' ∧ after = after' := by
  -- neither run is longer than the other, and neither starts before it
  have less := one.first other.split
  have more := other.first one.split
  obtain rfl : zeros = zeros' := by omega
  have same := one.split.symm.trans other.split
  obtain ⟨front, back⟩ := List.append_inj same (by
    rw [List.length_append, List.length_append]
    omega)
  exact ⟨(List.append_inj' front rfl).1, rfl, back⟩

/-- What is known after the first `count` places have been tried. -/
lemma longestZeros_below (groups : List UInt16) (count : Nat) :
    ∃ best, (List.range count).foldl (fun best start =>
        if best.2 < zerosAt groups start then (start, zerosAt groups start) else best) (0, 0) = best ∧
      (∀ start < count, zerosAt groups start ≤ best.2) ∧
      (∀ start < best.1, zerosAt groups start < best.2) ∧
      (best.2 = 0 ∨ best.2 = zerosAt groups best.1) := by
  induction count with
  | zero => exact ⟨(0, 0), rfl, nofun, nofun, .inl rfl⟩
  | succ count ih =>
    -- one more place is tried at the end of the list
    obtain ⟨best, run, most, first, own⟩ := ih
    rw [List.range_succ, List.foldl_append, run, List.foldl_cons, List.foldl_nil]
    refine ⟨_, rfl, ?_⟩
    split_ifs with more
    · refine ⟨fun start below => ?_, fun start below => ?_, .inr rfl⟩
      · obtain below | rfl := Nat.lt_succ_iff_lt_or_eq.1 below
        · exact Nat.le_of_lt (Nat.lt_of_le_of_lt (most start below) more)
        · exact Nat.le_refl _
      · exact Nat.lt_of_le_of_lt (most start below) more
    · refine ⟨fun start below => ?_, first, own⟩
      obtain below | rfl := Nat.lt_succ_iff_lt_or_eq.1 below
      · exact most start below
      · exact Nat.le_of_not_lt more

/-- The scan over all places finds the longest run of zeros. -/
lemma longest_longestZeros (groups : List UInt16) :
    Longest groups (groups.take (longestZeros groups).1) (longestZeros groups).2
      (groups.drop ((longestZeros groups).1 + (longestZeros groups).2)) := by
  obtain ⟨⟨start, zeros⟩, run, most, first, own⟩ := longestZeros_below groups groups.length
  rw [longestZeros, run]
  dsimp only at most first own ⊢
  constructor
  · obtain rfl | own := own
    · simp
    · rw [own, List.append_assoc, ← drop_eq, List.take_append_drop]
  · intro before' zeros' after' split
    have known := le_zerosAt split
    -- behind the end of the groups there are no zeros either
    have bound : zerosAt groups before'.length ≤ zeros := by
      by_cases inside : before'.length < groups.length
      · exact most _ inside
      · rw [zerosAt, List.drop_eq_nil_of_le (Nat.le_of_not_lt inside)]
        exact Nat.zero_le zeros
    have shorter : (groups.take start).length ≤ start := List.length_take_le start groups
    by_cases before : before'.length < start
    · exact .inl (Nat.lt_of_le_of_lt known (first _ before))
    · omega

/-! ## Written form -/

/-- The one form that an address is written in: dotted if it is mapped, otherwise all groups if no
two zeros are next to each other, otherwise a gap for the longest run of zeros, the first among
equals. -/
inductive Canonical (v : Ipv6) : List Char → Prop
  | mapped (ip : Ipv4) (same : v = ofIpv4 ip) :
      Canonical v ([':', ':', 'f', 'f', 'f', 'f', ':'] ++ ip.chars)
  | full (own : ∀ ip, v ≠ ofIpv4 ip) (apart : ∀ before after, v.groups ≠ before ++ [0, 0] ++ after) :
      Canonical v (joinGroups v.groups)
  | compressed {before after : List UInt16} {zeros : Nat} (own : ∀ ip, v ≠ ofIpv4 ip)
      (longest : Longest v.groups before zeros after) (several : 2 ≤ zeros) :
      Canonical v (joinGroups before ++ [':', ':'] ++ joinGroups after)

lemma mapped?_eq_none_iff {v : Ipv6} : v.mapped? = none ↔ ∀ ip, v ≠ ofIpv4 ip := by
  simp only [Option.eq_none_iff_forall_ne_some, ne_eq, mapped?_eq_some_iff]

/-- A run of at least two zeros starts with two zeros. -/
lemma replicate_eq (several : 2 ≤ zeros) :
    List.replicate zeros (0 : UInt16) = [0, 0] ++ List.replicate (zeros - 2) 0 := by
  obtain ⟨more, rfl⟩ := Nat.exists_eq_add_of_le several
  rw [List.replicate_add, Nat.add_sub_cancel_left]
  rfl

/-- The written form is the canonical one. -/
lemma canonical_chars (v : Ipv6) : Canonical v v.chars := by
  have longest := longest_longestZeros v.groups
  rw [chars]
  cases mapped : v.mapped? with
  | some ip => exact .mapped ip (mapped?_eq_some_iff.1 mapped)
  | none =>
    have own := mapped?_eq_none_iff.1 mapped
    dsimp only
    split_ifs with several
    · exact .compressed own longest several
    · refine .full own fun before after same => several ?_
      have two : v.groups = before ++ List.replicate 2 0 ++ after := same
      have most := longest.first two
      omega

/-- The canonical form is the written one, and there is no other. -/
lemma canonical_iff {v : Ipv6} {text : List Char} : Canonical v text ↔ text = v.chars := by
  constructor
  · intro canonical
    have best := longest_longestZeros v.groups
    cases canonical with
    | mapped ip same => rw [chars, mapped?_eq_some_iff.2 same]
    | full own apart =>
      have few : ¬ 1 < (longestZeros v.groups).2 := by
        intro several
        have split := best.split
        rw [replicate_eq several, ← List.append_assoc, List.append_assoc _ _ (List.drop _ _)] at split
        exact apart _ _ split
      rw [chars, mapped?_eq_none_iff.2 own]
      dsimp only
      rw [if_neg few]
    | compressed own longest several =>
      obtain ⟨rfl, rfl, rfl⟩ := longest.unique best
      rw [chars, mapped?_eq_none_iff.2 own]
      exact (if_pos several).symm
  · rintro rfl
    exact canonical_chars v

/-- The digits of a number are read as the number. -/
lemma digits_number (n : Nat) : ∃ values, List.Forall₂ Hex.Digit (Hex.number n) values ∧
    values.foldl (16 * · + ·) 0 = n := by
  have one (n : Nat) (small : n < 16) : Hex.Digit n.digitChar n := ⟨small, .inl rfl⟩
  induction n using Nat.strongRecOn with
  | ind n ih =>
    rw [Hex.number, Nat.toDigits_eq_if (by decide)]
    split_ifs with small
    · exact ⟨[n], .cons (one n small) .nil, Nat.zero_add n⟩
    · obtain ⟨values, each, value⟩ := ih (n / 16) (by omega)
      refine ⟨values ++ [n % 16], List.rel_append each (.cons (one _ (by omega)) .nil), ?_⟩
      rw [List.foldl_append, value]
      exact Nat.div_add_mod n 16

/-- A group is read back from its hexadecimal number. -/
lemma group_number (group : UInt16) : Group (Hex.number group.toNat) group := by
  obtain ⟨values, each, value⟩ := digits_number group.toNat
  have bound := group.toNat_lt
  have valid : Group _ _ := .intro each Nat.toDigits_ne_nil (by
    rw [Hex.number, Nat.length_toDigits_le_iff (by decide) (by decide)]
    omega)
  rwa [value, UInt16.ofNat_toNat] at valid

/-- Groups joined by colons are a run of groups. -/
lemma spells_joinGroups {groups : List UInt16} (some : groups ≠ []) :
    Spells (joinGroups groups) groups false := by
  induction groups with
  | nil => exact absurd rfl some
  | cons group groups ih =>
    cases groups with
    | nil =>
      rw [joinGroups, List.map_cons, List.map_nil, List.intercalate_singleton]
      exact .last (group_number group)
    | cons next groups =>
      rw [joinGroups, List.map_cons, List.map_cons, List.intercalate_cons_cons, List.append_assoc]
      exact .cons (group_number group) (ih (List.cons_ne_nil next groups))

lemma side_joinGroups (groups : List UInt16) : Side (joinGroups groups) groups false := by
  cases groups with
  | nil => exact .nothing
  | cons group groups => exact .groups (spells_joinGroups (List.cons_ne_nil group groups))

/-- The canonical form is a form. -/
lemma denotes_chars (v : Ipv6) : Denotes v.chars v := by
  generalize text : v.chars = chars
  cases canonical_iff.2 text.symm with
  | mapped ip same =>
    rw [same]
    have front : Group ['f', 'f', 'f', 'f'] 0xffff := group_number 0xffff
    exact .compressed .nothing (.groups (.cons front (.dotted ip))) (by decide : 1 ≤ 5) rfl
  | full own apart =>
    have some : v.groups ≠ [] := by
      rw [← List.length_pos_iff, v.length_groups]
      decide
    exact .full (spells_joinGroups some)
  | compressed own longest several =>
    rw [List.append_assoc]
    exact .compressed (side_joinGroups _) (side_joinGroups _) (by omega) longest.split

end ArpProbe.Ipv6
