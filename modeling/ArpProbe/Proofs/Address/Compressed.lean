import ArpProbe.Address.Ipv6
import ArpProbe.Proofs.Address.Dotted
import ArpProbe.Proofs.Address.Hardware

/-!
# The forms of an IPv6 address

An IPv6 address has many written forms: groups of one to four digits, the last two of them perhaps
as an IPv4 address, and one run of zero groups perhaps left out. `Denotes` lists them without reading
a text from left to right. The reader takes as many groups as it can and tries an IPv4 address before
each, and still finds exactly these forms (`read?_eq_some_nil_iff`).
-/

namespace ArpProbe.Ipv6

/-! ## The grammar -/

/-- One to four hexadecimal digits, of either case, for a group. -/
inductive Group : List Char → UInt16 → Prop
  | intro {digits : List Char} {values : List Nat} (each : List.Forall₂ Hex.Digit digits values)
      (some : digits ≠ []) (short : digits.length ≤ 4) :
      Group digits (UInt16.ofNat (values.foldl (16 * · + ·) 0))

/-- Groups with single colons between them. The last two may be given as an IPv4 address, which the
flag tells. -/
inductive Spells : List Char → List UInt16 → Bool → Prop
  | last {digits : List Char} {group : UInt16} (one : Group digits group) :
      Spells digits [group] false
  | dotted (ip : Ipv4) : Spells ip.chars (groupsOf ip) true
  | cons {digits text : List Char} {group : UInt16} {groups : List UInt16} {mixed : Bool}
      (first : Group digits group) (others : Spells text groups mixed) :
      Spells (digits ++ ':' :: text) (group :: groups) mixed

/-- What stands on one side of the gap of a compressed form: nothing, or groups. -/
inductive Side : List Char → List UInt16 → Bool → Prop
  | nothing : Side [] [] false
  | groups {text : List Char} {groups : List UInt16} {mixed : Bool}
      (spells : Spells text groups mixed) : Side text groups mixed

/-- The text is a form of the address: all eight groups, or those around a gap that stands for at
least one zero group. An IPv4 address can only be at the end. -/
inductive Denotes : List Char → Ipv6 → Prop
  | full {text : List Char} {ip : Ipv6} {mixed : Bool} (spells : Spells text ip.groups mixed) :
      Denotes text ip
  | compressed {front back : List Char} {before after : List UInt16} {mixed : Bool} {zeros : Nat}
      {ip : Ipv6} (left : Side front before false) (right : Side back after mixed)
      (gap : 1 ≤ zeros) (groups : ip.groups = before ++ List.replicate zeros 0 ++ after) :
      Denotes (front ++ ':' :: ':' :: back) ip

/-! ## Groups -/

/-- The text is over, or goes on with a colon. -/
def Ends (text : List Char) : Prop :=
  ∀ c ∈ text.head?, c = ':'

variable {digits text rest : List Char} {group : UInt16} {groups : List UInt16} {mixed : Bool}

lemma ends_nil : Ends [] := nofun

lemma ends_cons (text : List Char) : Ends (':' :: text) := by
  rintro _ ⟨⟩
  rfl

/-- No digit follows, so an IPv4 address in front of the text is over as well. -/
lemma Ends.ipv4 (ends : Ends text) : Ipv4.Ends text := by
  intro c first
  rw [ends c first]
  rfl

/-- Digits have one list of values, which is found if all of them are digits. -/
lemma forall₂_digit_iff {values : List Nat} : List.Forall₂ Hex.Digit digits values ↔
    (∀ c ∈ digits, (Hex.value? c).isSome = true) ∧ digits.filterMap Hex.value? = values := by
  induction digits generalizing values with
  | nil => rw [List.forall₂_nil_left_iff]; simp [eq_comm (a := ([] : List Nat))]
  | cons c digits ih =>
    rw [List.forall₂_cons_left_iff, List.forall_mem_cons, List.filterMap_cons]
    simp only [← Hex.value?_eq_some_iff, ih]
    cases read : Hex.value? c with
    | none => simp
    | some value => simp [eq_comm (a := values)]

lemma Group.notMem (valid : Group digits group) : '.' ∉ digits := by
  obtain ⟨each, -, -⟩ := valid
  intro member
  have digit := (forall₂_digit_iff.1 each).1 '.' member
  cases digit

/-- A group takes all hexadecimal digits in front of a text. -/
lemma readGroup?_eq_some_iff : readGroup? text = some (group, rest) ↔
    ∃ digits, Group digits group ∧ text = digits ++ rest ∧
      ∀ c ∈ rest.head?, (Hex.value? c).isSome = false := by
  constructor
  · -- the reader takes the longest run of digits, and refuses it if it is empty or too long
    intro read
    obtain ⟨run, stop⟩ : ∃ run, text.takeWhile (fun c => (Hex.value? c).isSome) = run := ⟨_, rfl⟩
    have each : List.Forall₂ Hex.Digit run (run.filterMap Hex.value?) := by
      rw [forall₂_digit_iff, ← stop]
      exact ⟨fun c => List.mem_takeWhile_imp, rfl⟩
    have split := List.takeWhile_append_dropWhile (p := fun c => (Hex.value? c).isSome) (l := text)
    unfold readGroup? at read
    dsimp only at read
    rw [stop] at read split
    rw [← each.length_eq] at read
    split_ifs at read with length
    obtain ⟨rfl, rfl⟩ := Prod.mk.inj (Option.some.inj read)
    have left : text.drop run.length = text.dropWhile fun c => (Hex.value? c).isSome :=
      calc text.drop run.length
        _ = (run ++ text.dropWhile fun c => (Hex.value? c).isSome).drop run.length := by rw [split]
        _ = text.dropWhile fun c => (Hex.value? c).isSome := List.drop_left
    rw [not_or, Nat.not_lt] at length
    refine ⟨run, .intro each (fun none => length.1 (congrArg List.length none)) length.2, ?_, ?_⟩
    · rw [left, split]
    · rw [left]
      exact Text.stop_of_dropWhile (fun c => (Hex.value? c).isSome) text
  · rintro ⟨digits, ⟨each, some, short⟩, rfl, stop⟩
    obtain ⟨all, rfl⟩ := forall₂_digit_iff.1 each
    have length := each.length_eq
    have counted : ¬ ((digits.filterMap Hex.value?).length = 0 ∨
        4 < (digits.filterMap Hex.value?).length) := by
      rw [← length, List.length_eq_zero_iff]
      exact not_or.2 ⟨some, Nat.not_lt.2 short⟩
    rw [readGroup?, (Text.takeWhile_append_of_stop all stop).1, if_neg counted, ← length,
      List.drop_left]

/-! ## Runs of groups -/

/-- The text is over, or goes on with a gap. -/
inductive Closed : List Char → Prop
  | ended : Closed []
  | gap (back : List Char) : Closed (':' :: ':' :: back)

lemma Closed.ends (closed : Closed rest) : Ends rest := by
  cases closed with
  | ended => exact ends_nil
  | gap back => exact ends_cons _

/-- The colon that stands before groups, apart from the first. -/
def lead (first : Bool) (text : List Char) : List Char :=
  if first then text else ':' :: text

/-- The reader looks for groups behind the colon that leads to them. -/
lemma start?_eq_some_iff {first : Bool} :
    (if first then some text else Text.skip? ':' text) = some rest ↔ text = lead first rest := by
  cases first with
  | true => simp [lead]
  | false => simp [lead, Text.skip?_eq_some_iff]

/-- No IPv4 address starts with a group, nor with a colon. -/
lemma ipv4_read?_eq_none (undotted : '.' ∉ digits) (ends : Ends rest) :
    Ipv4.read? (digits ++ rest) = none := by
  rw [Option.eq_none_iff_forall_ne_some]
  rintro ⟨ip, left⟩ read
  have split := (Ipv4.read?_eq_some_iff.1 read).1
  rw [Ipv4.chars_eq, List.append_assoc, List.cons_append, List.append_eq_append_iff] at split
  -- the first dot of the address is either behind the digits or among them
  obtain ⟨more, octet, stop⟩ | ⟨more, same, stop⟩ := split
  · cases more with
    | nil => cases ends '.' (by rw [stop]; rfl)
    | cons c more =>
      have colon : c = ':' := ends c (by rw [stop]; rfl)
      refine notMem_toDigits (c := ':') (by decide) ip.a.toNat ?_
      simp [octet, colon]
  · cases more with
    | nil => cases ends '.' (by rw [← List.nil_append rest, ← stop]; rfl)
    | cons c more =>
      obtain ⟨rfl, -⟩ := List.cons.inj stop
      exact undotted (by rw [same]; simp)

/-- A group is read up to the colon behind it. -/
lemma readGroup?_append (valid : Group digits group) (ends : Ends rest) :
    readGroup? (digits ++ rest) = some (group, rest) :=
  readGroup?_eq_some_iff.2 ⟨digits, valid, rfl, fun c first => ends c first ▸ rfl⟩

/-- No group is read where the text is over or goes on with a colon. -/
lemma readGroup?_eq_none (ends : Ends text) : readGroup? text = none := by
  rw [Option.eq_none_iff_forall_ne_some]
  rintro ⟨group, rest⟩ read
  obtain ⟨digits, ⟨each, some, -⟩, rfl, -⟩ := readGroup?_eq_some_iff.1 read
  obtain ⟨c, digits, rfl⟩ := List.exists_cons_of_ne_nil some
  have digit := (forall₂_digit_iff.1 each).1 c List.mem_cons_self
  rw [ends c rfl] at digit
  cases digit

/-- A group is read where two groups have no room, or where no IPv4 address stands. -/
lemma readGroups_cons {first : Bool} {limit : Nat} (valid : Group digits group) (ends : Ends rest) :
    readGroups first (limit + 1) (lead first (digits ++ rest)) =
      { readGroups false limit rest with groups := group :: (readGroups false limit rest).groups } := by
  have start := start?_eq_some_iff.2 (rfl : lead first (digits ++ rest) = _)
  rw [readGroups]
  simp only [start, Option.bind_some, ipv4_read?_eq_none valid.notMem ends, ite_self,
    readGroup?_append valid ends]

/-- An IPv4 address is read where two groups have room, and ends the run. -/
lemma readGroups_dotted {first : Bool} {limit : Nat} (ip : Ipv4) (ends : Ends rest) :
    readGroups first (limit + 2) (lead first (ip.chars ++ rest)) = ⟨groupsOf ip, true, rest⟩ := by
  have start := start?_eq_some_iff.2 (rfl : lead first (ip.chars ++ rest) = _)
  have read := Ipv4.read?_eq_some_iff.2 ⟨(rfl : ip.chars ++ rest = _), ends.ipv4⟩
  rw [readGroups]
  simp only [start, Option.bind_some, read, if_neg (Nat.succ_ne_zero limit)]

/-- A run of groups is over at a gap and at the end of the text. -/
lemma readGroups_closed (first : Bool) (limit : Nat) (closed : Closed text) :
    readGroups first limit text = ⟨[], false, text⟩ := by
  cases limit with
  | zero => rfl
  | succ limit =>
    rw [readGroups]
    cases start : if first then some text else Text.skip? ':' text with
    | none => simp
    | some left =>
      have ends : Ends left := by
        obtain rfl := start?_eq_some_iff.1 start
        cases first with
        | true => exact closed.ends
        | false =>
          obtain ⟨⟩ | ⟨back⟩ := closed
          exact ends_cons back
      have unread : Ipv4.read? ([] ++ left) = none := ipv4_read?_eq_none List.not_mem_nil ends
      rw [List.nil_append] at unread
      simp only [Option.bind_some, unread, ite_self, readGroup?_eq_none ends]

/-- Groups are read back, if they fit and nothing but a gap follows. -/
lemma readGroups_spells (first : Bool) (limit : Nat) (spells : Spells text groups mixed)
    (fits : groups.length ≤ limit) (closed : Closed rest) :
    readGroups first limit (lead first (text ++ rest)) = ⟨groups, mixed, rest⟩ := by
  induction spells generalizing first limit with
  | last one =>
    -- after the last group the reader tries to go on, and stops at the gap or at the end
    obtain ⟨limit, rfl⟩ : ∃ less, limit = less + 1 := Nat.exists_eq_add_of_le' fits
    rw [readGroups_cons one closed.ends, readGroups_closed false limit closed]
  | dotted ip =>
    obtain ⟨limit, rfl⟩ := Nat.exists_eq_add_of_le' fits
    exact readGroups_dotted ip closed.ends
  | cons one others ih =>
    rw [List.length_cons] at fits
    obtain ⟨limit, rfl⟩ := Nat.exists_eq_add_of_le' (Nat.le_of_add_left_le fits)
    rw [List.append_assoc, List.cons_append, readGroups_cons one (ends_cons _)]
    show ({ readGroups false limit (lead false _) with
      groups := _ :: (readGroups false limit (lead false _)).groups } : Run) = _
    rw [ih false limit (Nat.le_of_add_le_add_right fits)]

/-- What is known of a run from the text that it was read from. -/
inductive Reads (first : Bool) : List Char → Run → Prop
  | nothing (text : List Char) : Reads first text ⟨[], false, text⟩
  | groups {spelled : List Char} {groups : List UInt16} {mixed : Bool}
      (spells : Spells spelled groups mixed) (rest : List Char) :
      Reads first (lead first (spelled ++ rest)) ⟨groups, mixed, rest⟩

/-- Whatever the text, what is read is a run of groups in front of the rest, and no longer than
allowed. -/
lemma reads_readGroups (first : Bool) (limit : Nat) (text : List Char) :
    Reads first text (readGroups first limit text) ∧
      (readGroups first limit text).groups.length ≤ limit := by
  induction limit generalizing first text with
  | zero => exact ⟨.nothing text, Nat.le_refl 0⟩
  | succ limit ih =>
    rw [readGroups]
    dsimp only
    -- no colon leads to more groups, or what it leads to is an address, a group or neither
    cases start : if first then some text else Text.skip? ':' text with
    | none => simpa using Reads.nothing text
    | some left =>
      obtain rfl := start?_eq_some_iff.1 start
      split
      -- an IPv4 address fills two places and ends the run
      case h_1 ip rest read =>
        split_ifs at read with room
        obtain ⟨rfl, -⟩ := Ipv4.read?_eq_some_iff.1 read
        refine ⟨.groups (.dotted ip) rest, ?_⟩
        show 2 ≤ limit + 1
        omega
      case h_2 =>
        rw [Option.bind_some]
        cases read : readGroup? left with
        | none => exact ⟨.nothing _, Nat.zero_le _⟩
        | some found =>
          obtain ⟨group, rest⟩ := found
          obtain ⟨digits, valid, rfl, -⟩ := readGroup?_eq_some_iff.1 read
          obtain ⟨others, fits⟩ := ih false rest
          refine ⟨?_, Nat.succ_le_succ fits⟩
          dsimp only
          -- whether the group is the last one is known from what was read behind it
          generalize readGroups false limit rest = run at others fits
          cases others with
          | nothing => exact .groups (.last valid) rest
          | groups spells rest =>
            have longer : Reads first _ _ := .groups (.cons valid spells) rest
            rwa [List.append_assoc, List.cons_append] at longer

/-! ## Addresses -/

/-- What is read at the start of a text is one side of a gap. -/
lemma side_of_readGroups (limit : Nat) (text : List Char) :
    ∃ front, Side front (readGroups true limit text).groups (readGroups true limit text).endsInIpv4 ∧
      text = front ++ (readGroups true limit text).rest := by
  obtain ⟨reads, -⟩ := reads_readGroups true limit text
  generalize readGroups true limit text = run at reads
  cases reads with
  | nothing => exact ⟨[], .nothing, rfl⟩
  | groups spells rest => exact ⟨_, .groups spells, rfl⟩

/-- One side of a gap is read back, if it fits. -/
lemma readGroups_side (limit : Nat) (side : Side text groups mixed) (fits : groups.length ≤ limit)
    (closed : Closed rest) : readGroups true limit (text ++ rest) = ⟨groups, mixed, rest⟩ := by
  cases side with
  | nothing => exact readGroups_closed true limit closed
  | groups spells => exact readGroups_spells true limit spells fits closed

lemma denotes_of_read? {ip : Ipv6} (read : read? text = some (ip, [])) : Denotes text ip := by
  obtain ⟨front, left, split⟩ := side_of_readGroups 8 text
  unfold read? at read
  dsimp only at read
  generalize readGroups true 8 text = head at read left split
  obtain ⟨before, early, stop⟩ := head
  dsimp only at read left split
  split_ifs at read with whole early
  · obtain ⟨rfl, rfl⟩ := Prod.mk.inj (Option.some.inj read)
    rw [List.append_nil] at split
    cases left with
    | nothing => cases whole
    | groups spells => exact .full (split ▸ spells)
  · cases read
  · simp only [Option.bind_eq_bind, Option.bind_eq_some_iff, Text.skip?_eq_some_iff] at read
    obtain ⟨_, rfl, back, rfl, read⟩ := read
    obtain ⟨behind, right, split'⟩ := side_of_readGroups (7 - before.length) back
    have fits := (reads_readGroups true (7 - before.length) back).2
    generalize readGroups true (7 - before.length) back = tail at read right split' fits
    split_ifs at read with length
    obtain ⟨rfl, ended⟩ := Prod.mk.inj (Option.some.inj read)
    rw [ended, List.append_nil] at split'
    rw [List.length_append, List.length_append, List.length_replicate] at length
    -- both sides together leave room for a zero, since the right one was read with one place less
    rw [Bool.not_eq_true] at early
    rw [split, split']
    exact .compressed (early ▸ left) right (by omega) rfl

lemma read?_of_denotes {ip : Ipv6} (denotes : Denotes text ip) : read? text = some (ip, []) := by
  obtain ⟨groups, length⟩ := ip
  cases denotes with
  | full spells =>
    have head := readGroups_spells true 8 spells (Nat.le_of_eq length) .ended
    rw [lead, if_pos rfl, List.append_nil] at head
    simp only [read?, head, dif_pos length, Option.pure_def]
  | @compressed front back before after mixed zeros ip left right gap same =>
    obtain rfl : groups = before ++ List.replicate zeros 0 ++ after := same
    have total := length
    rw [List.length_append, List.length_append, List.length_replicate] at total
    have head := readGroups_side 8 left (by omega) (.gap back)
    have tail := readGroups_side (7 - before.length) right (by omega) .ended
    rw [List.append_nil] at tail
    have missing : 8 - before.length - after.length = zeros := by omega
    -- the gap stands for something, so the groups in front of it are not all
    have fewer : ¬ before.length = 8 := by omega
    rw [read?, head]
    simp only [dif_neg fewer, Text.skip?, if_pos, Option.bind_eq_bind, Option.bind_some, tail,
      missing, dif_pos length]
    rfl

/-- What is read as an address, up to its end, is what denotes one. -/
lemma read?_eq_some_nil_iff {ip : Ipv6} : read? text = some (ip, []) ↔ Denotes text ip :=
  ⟨denotes_of_read?, read?_of_denotes⟩

/-- In front of a gap, and of all other groups than an IPv4 address alone, there is a group. -/
lemma Spells.ipv4_read?_eq_none (spells : Spells text groups mixed)
    (other : mixed = false ∨ groups.length ≠ 2) (closed : Closed rest) :
    Ipv4.read? (text ++ rest) = none := by
  cases spells with
  | last one => exact Ipv6.ipv4_read?_eq_none one.notMem closed.ends
  | dotted ip => exact absurd other (by simp [groupsOf])
  | cons one others =>
    rw [List.append_assoc]
    exact Ipv6.ipv4_read?_eq_none one.notMem (ends_cons _)

/-- No form of an IPv6 address starts with an IPv4 address. -/
lemma Denotes.ipv4_read?_eq_none {ip : Ipv6} (denotes : Denotes text ip) :
    Ipv4.read? text = none := by
  cases denotes with
  | full spells =>
    have several : ip.groups.length ≠ 2 := by
      rw [ip.length_groups]
      decide
    have unread := spells.ipv4_read?_eq_none (.inr several) .ended
    rwa [List.append_nil] at unread
  | compressed left =>
    cases left with
    | nothing => exact Ipv6.ipv4_read?_eq_none List.not_mem_nil (ends_cons _)
    | groups spells => exact spells.ipv4_read?_eq_none (.inl rfl) (.gap _)

end ArpProbe.Ipv6
