import ArpProbe.Address.Input
import ArpProbe.Proofs.Address.Canonical
import ArpProbe.Proofs.Text.Blanks

/-!
# What is made of an address that was given

Without the blanks around it, a text that was given is the dotted form of an IPv4 address, a form of
an IPv6 address, or neither. `ofInput_exact` says what comes of each, and that it is what comes of
the address itself.
-/

namespace ArpProbe

/-! ## Forms of either family -/

/-- No digit is blank, so there are no blanks in a form, at its ends or inside. -/
lemma Hex.Digit.isBlank_eq {c : Char} {value : Nat} (digit : Hex.Digit c value) :
    Text.isBlank c = false := by
  have lower : ∀ value < 16, Text.isBlank value.digitChar = false := by decide
  have upper : ∀ value < 16, Text.isBlank value.digitChar.toUpper = false := by decide
  obtain ⟨small, rfl | rfl⟩ := digit
  · exact lower value small
  · exact upper value small

/-- No character of a dotted quad is a blank. -/
lemma Ipv4.isBlank_eq_of_mem_chars {ip : Ipv4} : ∀ c ∈ ip.chars, Text.isBlank c = false := by
  intro c member
  by_cases digit : c.isDigit = true
  · exact Text.isBlank_eq_of_isDigit digit
  · by_cases dot : c = '.'
    · rw [dot]
      rfl
    · exact absurd member (Ipv4.notMem_chars (Bool.not_eq_true _ ▸ digit) dot ip)

namespace Ipv6

variable {text digits : List Char} {group : UInt16} {groups : List UInt16} {mixed : Bool} {v : Ipv6}

lemma Group.isBlank_eq (valid : Group digits group) : ∀ c ∈ digits, Text.isBlank c = false := by
  obtain ⟨each, -, -⟩ := valid
  intro c member
  obtain ⟨value, read⟩ := Option.isSome_iff_exists.1 ((forall₂_digit_iff.1 each).1 c member)
  exact (Hex.value?_eq_some_iff.1 read).isBlank_eq

lemma Spells.isBlank_eq (spells : Spells text groups mixed) :
    ∀ c ∈ text, Text.isBlank c = false := by
  induction spells with
  | last one => exact one.isBlank_eq
  | dotted ip => exact Ipv4.isBlank_eq_of_mem_chars
  | cons one others ih =>
    rw [List.forall_mem_append, List.forall_mem_cons]
    exact ⟨one.isBlank_eq, rfl, ih⟩

lemma Side.isBlank_eq (side : Side text groups mixed) : ∀ c ∈ text, Text.isBlank c = false := by
  cases side with
  | nothing => nofun
  | groups spells => exact spells.isBlank_eq

/-- The text of an IPv6 address has no blanks in it. -/
lemma Denotes.isBlank_eq (denotes : Denotes text v) : ∀ c ∈ text, Text.isBlank c = false := by
  cases denotes with
  | full spells => exact spells.isBlank_eq
  | compressed left right =>
    rw [List.forall_mem_append, List.forall_mem_cons, List.forall_mem_cons]
    exact ⟨left.isBlank_eq, rfl, rfl, right.isBlank_eq⟩

end Ipv6

namespace Ip

/-- The text is a form of the address. -/
inductive Denotes (text : List Char) : Ip → Prop
  | v4 {ip : Ipv4} (dotted : Ipv4.Dotted text ip) : Denotes text (.v4 ip)
  | v6 {ip : Ipv6} (denotes : Ipv6.Denotes text ip) : Denotes text (.v6 ip)

variable {text : List Char} {ip : Ip}

lemma read?_of_dotted {ip : Ipv4} (dotted : Ipv4.Dotted text ip) : Ipv4.read? text = some (ip, []) :=
  Ipv4.read?_eq_some_iff.2 ⟨by rw [List.append_nil, Ipv4.dotted_iff.1 dotted], Ipv4.ends_nil⟩

/-- A text that denotes an address is parsed to it. -/
lemma parse?_of_denotes (denotes : Denotes text ip) : parse? text = some ip := by
  cases denotes with
  | v4 dotted => rw [parse?, read?, read?_of_dotted dotted]
  | v6 denotes =>
    rw [parse?, read?, denotes.ipv4_read?_eq_none, Ipv6.read?_eq_some_nil_iff.2 denotes]
    rfl

/-- What is parsed to an address denotes it. -/
lemma denotes_of_parse? (parsed : parse? text = some ip) : Denotes text ip := by
  unfold parse? at parsed
  split at parsed
  · next found read =>
    obtain rfl := Option.some.inj parsed
    unfold read? at read
    split at read
    · next v4 rest read4 =>
      obtain ⟨rfl, rfl⟩ := Prod.mk.inj (Option.some.inj read)
      obtain ⟨same, -⟩ := Ipv4.read?_eq_some_iff.1 read4
      rw [List.append_nil] at same
      exact .v4 (Ipv4.dotted_iff.2 same)
    · obtain ⟨⟨v6, rest⟩, read6, same⟩ := Option.map_eq_some_iff.1 read
      obtain ⟨rfl, rfl⟩ := Prod.mk.inj same
      exact .v6 (Ipv6.read?_eq_some_nil_iff.1 read6)
  · cases parsed

/-- Parsing an address and denoting it are the same. -/
lemma parse?_eq_some_iff : parse? text = some ip ↔ Denotes text ip :=
  ⟨denotes_of_parse?, parse?_of_denotes⟩

/-- An IPv6 address stands for an IPv4 address only if it is the mapped one. -/
lemma toIpv4_v6_eq_ok_iff {v : Ipv6} {ip : Ipv4} : (Ip.v6 v).toIpv4 = .ok ip ↔ v = .ofIpv4 ip := by
  rw [← Ipv6.mapped?_eq_some_iff, toIpv4]
  cases v.mapped? with
  | none => simp
  | some mapped => simp

lemma toIpv4_v6_of_forall_ne {v : Ipv6} (own : ∀ ip, v ≠ .ofIpv4 ip) :
    (Ip.v6 v).toIpv4 = .error (.invalidAddress v.text) := by
  rw [toIpv4, Ipv6.mapped?_eq_none_iff.2 own]

end Ip

/-! ## Given addresses -/

namespace Ipv4

variable {given : String} {text : List Char}

/-- A text that denotes an address is taken for that address, blanks around it or not. -/
lemma ofInput_of_denotes {ip : Ip} (stripped : Text.Stripped given.toList text)
    (denotes : Ip.Denotes text ip) : ofInput given = ip.toIpv4 := by
  rw [ofInput, Text.trim_of_stripped stripped, Ip.parse?_eq_some_iff.2 denotes]

/-- A text that denotes no address is refused, and shown as it was given. -/
lemma ofInput_of_forall_not_denotes (stripped : Text.Stripped given.toList text)
    (none : ∀ ip, ¬ Ip.Denotes text ip) : ofInput given = .error (.invalidAddress given) := by
  have unread : Ip.parse? text = .none :=
    Option.eq_none_iff_forall_ne_some.2 fun ip parsed => none ip (Ip.parse?_eq_some_iff.1 parsed)
  rw [ofInput, Text.trim_of_stripped stripped, unread]

/-- The accepted texts are dotted quads and mapped addresses, with blanks around them. -/
lemma ofInput_eq_ok_iff {ip : Ipv4} (stripped : Text.Stripped given.toList text) :
    ofInput given = .ok ip ↔ Dotted text ip ∨ Ipv6.Denotes text (.ofIpv4 ip) := by
  constructor
  · intro accepted
    by_cases none : ∀ ip, ¬ Ip.Denotes text ip
    · rw [ofInput_of_forall_not_denotes stripped none] at accepted
      cases accepted
    · obtain ⟨meant, denotes⟩ := not_forall_not.1 none
      rw [ofInput_of_denotes stripped denotes] at accepted
      cases denotes with
      | v4 dotted =>
        obtain rfl := Except.ok.inj accepted
        exact .inl dotted
      | v6 denotes =>
        rw [Ip.toIpv4_v6_eq_ok_iff] at accepted
        exact .inr (accepted ▸ denotes)
  · rintro (dotted | denotes)
    · exact ofInput_of_denotes stripped (.v4 dotted)
    · rw [ofInput_of_denotes stripped (.v6 denotes), Ip.toIpv4_v6_eq_ok_iff]

/-- The dotted form, and the mapped address with the dotted form or two groups at its end. -/
inductive Usual (ip : Ipv4) : List Char → Prop
  | dotted {text : List Char} (dotted : Dotted text ip) : Usual ip text
  | mapped {text : List Char} (dotted : Dotted text ip) :
      Usual ip (':' :: ':' :: 'f' :: 'f' :: 'f' :: 'f' :: ':' :: text)
  | groups {high low : List Char} {first second : UInt16} (front : Ipv6.Group high first)
      (back : Ipv6.Group low second) (upper : first.toNat = 256 * ip.a.toNat + ip.b.toNat)
      (lower : second.toNat = 256 * ip.c.toNat + ip.d.toNat) :
      Usual ip (':' :: ':' :: 'f' :: 'f' :: 'f' :: 'f' :: ':' :: (high ++ ':' :: low))

/-- The IPv6 address that used to stand for an IPv4 address. -/
def compatible (ip : Ipv4) : Ipv6 where
  groups := [0, 0, 0, 0, 0, 0] ++ Ipv6.groupsOf ip
  length_groups := rfl

/-- The two groups of an address are the ones with its bytes as upper and lower halves. -/
lemma groupsOf_eq {ip : Ipv4} {first second : UInt16}
    (upper : first.toNat = 256 * ip.a.toNat + ip.b.toNat)
    (lower : second.toNat = 256 * ip.c.toNat + ip.d.toNat) : Ipv6.groupsOf ip = [first, second] := by
  have word (w : UInt16) (bytes : Bytes)
      (value : w.toNat = 256 * (bytes.getD 0 0).toNat + (bytes.getD 1 0).toNat) :
      Bytes.word bytes = w := by
    rw [Bytes.word, ← value, UInt16.ofNat_toNat]
  rw [Ipv6.groupsOf, word first ip.toBytes upper, word second (ip.toBytes.drop 2) lower]

/-- The usual spellings of an address denote it. -/
lemma Usual.denotes {ip : Ipv4} (usual : Usual ip text) :
    Dotted text ip ∨ Ipv6.Denotes text (.ofIpv4 ip) := by
  have marker : Ipv6.Group ['f', 'f', 'f', 'f'] 0xffff := Ipv6.group_number 0xffff
  have mapped {back : List Char} {mixed : Bool}
      (spells : Ipv6.Spells back (Ipv6.groupsOf ip) mixed) :
      Ipv6.Denotes (':' :: ':' :: 'f' :: 'f' :: 'f' :: 'f' :: ':' :: back) (.ofIpv4 ip) :=
    .compressed .nothing (.groups (.cons marker spells)) (by decide : 1 ≤ 5) rfl
  cases usual with
  | dotted dotted => exact .inl dotted
  | mapped dotted =>
    rw [dotted_iff.1 dotted]
    exact .inr (mapped (.dotted ip))
  | @groups high low first second front back upper lower =>
    have spells : Ipv6.Spells (high ++ ':' :: low) (Ipv6.groupsOf ip) false := by
      rw [groupsOf_eq upper lower]
      exact .cons front (.last back)
    exact .inr (mapped spells)

lemma isBlank_eq_of_denotes {ip : Ipv4} (denotes : Dotted text ip ∨ Ipv6.Denotes text (.ofIpv4 ip)) :
    ∀ c ∈ text, Text.isBlank c = false := by
  obtain dotted | denotes := denotes
  · rw [dotted_iff.1 dotted]
    exact isBlank_eq_of_mem_chars
  · exact denotes.isBlank_eq

/-- An IPv4 address behind `::` is an address that is not mapped. -/
lemma denotes_compatible (ip : Ipv4) : Ipv6.Denotes (':' :: ':' :: ip.chars) (compatible ip) :=
  .compressed .nothing (.groups (.dotted ip)) (by decide : 1 ≤ 6) rfl

/-- The address that `::` and an IPv4 address spell is never a mapped one. -/
lemma compatible_ne (ip mapped : Ipv4) : compatible ip ≠ .ofIpv4 mapped := by
  intro same
  -- the group in front of the IPv4 address tells them apart
  have groups := congrArg (fun v : Ipv6 => v.groups[5]?) same
  cases groups

/-- An IPv4 address is what a text gives if, without the blanks around it, it is its dotted form or
any form of its mapped address; the usual forms are among these. Another IPv6 address is refused by
its canonical form, of which there is one, and anything else by the text that was given. Whatever is
given for an IPv6 address, it fares as the address does. -/
theorem ofInput_exact :
    (∀ given, ∃! text, Text.Stripped given text) ∧
    (∀ given text, Text.Stripped given.toList text →
      (∀ ip, ofInput given = .ok ip ↔ Dotted text ip ∨ Ipv6.Denotes text (.ofIpv4 ip)) ∧
      (∀ v, Ipv6.Denotes text v → ofInput given = (Ip.v6 v).toIpv4 ∧
        ((∀ ip, v ≠ .ofIpv4 ip) → ofInput given = .error (.invalidAddress (String.ofList v.chars)))) ∧
      ((∀ ip, ¬ Ip.Denotes text ip) → ofInput given = .error (.invalidAddress given))) ∧
    (∀ v, Ipv6.Denotes v.chars v ∧ ∀ text, Ipv6.Canonical v text ↔ text = v.chars) ∧
    (∀ before after, (∀ c ∈ before ++ after, Text.isBlank c = true) → ∀ ip : Ipv4,
      (∀ text, Usual ip text → ofInput (String.ofList (before ++ text ++ after)) = .ok ip) ∧
      ofInput (String.ofList (before ++ ':' :: ':' :: ip.chars ++ after)) =
        .error (.invalidAddress (String.ofList (compatible ip).chars))) := by
  -- trimming leaves one text, which is parsed, and the address that it denotes is validated
  refine ⟨?_, ?_, ?_, ?_⟩
  · intro given
    exact ⟨Text.trim given, Text.stripped_trim given,
      fun text stripped => (Text.trim_of_stripped stripped).symm⟩
  · intro given text stripped
    refine ⟨fun ip => ofInput_eq_ok_iff stripped, fun v denotes => ?_,
      ofInput_of_forall_not_denotes stripped⟩
    have fares := ofInput_of_denotes stripped (.v6 denotes)
    exact ⟨fares, fun own => fares.trans (Ip.toIpv4_v6_of_forall_ne own)⟩
  · exact fun v => ⟨Ipv6.denotes_chars v, fun text => Ipv6.canonical_iff⟩
  · intro before after blank ip
    have stripped {text : List Char} (plain : ∀ c ∈ text, Text.isBlank c = false) :
        Text.Stripped (String.ofList (before ++ text ++ after)).toList text := by
      rw [String.toList_ofList]
      exact Text.stripped_append blank plain
    constructor
    · intro text usual
      have denotes := usual.denotes
      exact (ofInput_eq_ok_iff (stripped (isBlank_eq_of_denotes denotes))).2 denotes
    · have denotes := denotes_compatible ip
      rw [ofInput_of_denotes (stripped denotes.isBlank_eq) (.v6 denotes)]
      exact Ip.toIpv4_v6_of_forall_ne (compatible_ne ip)

end Ipv4

end ArpProbe
