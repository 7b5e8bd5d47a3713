import ArpProbe.Proofs.Frame.RoundTrip

/-!
# Editing a frame

A frame is changed in place: its header field by field, its payload as a whole, and the place where
the payload starts. As long as that place stays behind the header and inside the frame, a frame has
a header with something behind it (`Headed`), every edit keeps it that way (`headed_edit?`), and
what is read from the header is what was written last. `editing_exact` says this for all sequences
of edits, and what is left in a frame whose payload was exchanged.
-/

namespace ArpProbe.Ethernet

/-! ## Edits -/

/-- A change of a frame. -/
inductive Edit
  | dest (mac : Mac)
  | src (mac : Mac)
  | etherType (type : UInt16)
  | payload (bytes : Bytes)
  | payloadOffset (offset : Nat)
deriving DecidableEq, Repr

/-- Makes one change, if it does not miss the frame. -/
def edit? (f : Ethernet) : Edit → Option Ethernet
  | .dest mac => f.setDest? mac
  | .src mac => f.setSrc? mac
  | .etherType type => f.setEtherType? type
  | .payload bytes => some (f.setPayload bytes)
  | .payloadOffset offset => some (f.setPayloadOffset offset)

/-- Makes one change after another, if none of them misses the frame. -/
def editAll? (f : Ethernet) : List Edit → Option Ethernet
  | [] => some f
  | edit :: edits => (f.edit? edit).bind (·.editAll? edits)

/-- The payload may be moved to any place from the end of the header to the end of the frame. -/
def Edit.Fits (f : Ethernet) : Edit → Prop
  | payloadOffset offset => headerLength ≤ offset ∧ offset ≤ f.data.length
  | _ => True

/-- Each edit fits the frame that those before it leave. -/
def AllFit (f : Ethernet) : List Edit → Prop
  | [] => True
  | edit :: edits => edit.Fits f ∧ ∀ g ∈ f.edit? edit, AllFit g edits

instance Edit.decidableFits (f : Ethernet) : (edit : Edit) → Decidable (edit.Fits f)
  | payloadOffset offset =>
    inferInstanceAs (Decidable (headerLength ≤ offset ∧ offset ≤ f.data.length))
  | dest _ | src _ | etherType _ | payload _ => .isTrue trivial

instance decidableAllFit : (f : Ethernet) → (edits : List Edit) → Decidable (AllFit f edits)
  | _, [] => .isTrue trivial
  | f, edit :: edits =>
    have (g : Ethernet) : Decidable (AllFit g edits) := decidableAllFit g edits
    inferInstanceAs (Decidable (edit.Fits f ∧ ∀ g ∈ f.edit? edit, AllFit g edits))

namespace Edit

/-- The station that an edit makes the destination. -/
def dest? : Edit → Option Mac
  | dest mac => some mac
  | _ => none

/-- The station that an edit makes the source. -/
def src? : Edit → Option Mac
  | src mac => some mac
  | _ => none

/-- The type that an edit gives a frame. -/
def etherType? : Edit → Option UInt16
  | etherType type => some type
  | _ => none

end Edit

/-! ## Headers -/

/-- What stands before the payload of a frame. -/
structure Header where
  dest : Mac
  src : Mac
  etherType : UInt16
deriving DecidableEq, Repr

namespace Header

def toBytes (h : Header) : Bytes :=
  h.dest.toBytes ++ (h.src.toBytes ++ Bytes.ofWord h.etherType)

/-- The header in the first 14 bytes. -/
def ofBytes (bytes : Bytes) : Header :=
  ⟨Mac.ofBytes bytes, Mac.ofBytes (bytes.drop 6), Bytes.word (bytes.drop 12)⟩

@[simp] lemma length_toBytes (h : Header) : h.toBytes.length = headerLength := rfl

/-- A header is written as the bytes that it was read from. -/
lemma toBytes_ofBytes {bytes : Bytes} (whole : headerLength ≤ bytes.length) :
    (ofBytes bytes).toBytes = bytes.take headerLength := by
  have long : 14 ≤ bytes.length := whole
  have dest : bytes.take 6 = (Mac.ofBytes bytes).toBytes :=
    Mac.take_eq_toBytes_iff.2 ⟨by omega, rfl⟩
  have src : (bytes.drop 6).take 6 = (Mac.ofBytes (bytes.drop 6)).toBytes :=
    Mac.take_eq_toBytes_iff.2 ⟨by rw [List.length_drop]; omega, rfl⟩
  have type : (bytes.drop 12).take 2 = Bytes.ofWord (Bytes.word (bytes.drop 12)) :=
    Bytes.take_two_eq_iff.2 ⟨by rw [List.length_drop]; omega, rfl⟩
  have parts : bytes.take (6 + (6 + 2)) =
      bytes.take 6 ++ ((bytes.drop 6).take 6 ++ (bytes.drop 12).take 2) := by
    rw [List.take_add, List.take_add, List.drop_drop]
  rw [toBytes, ofBytes, ← dest, ← src, ← type, ← parts]
  rfl

/-- The header after an edit. -/
def write (h : Header) : Edit → Header
  | .dest mac => { h with dest := mac }
  | .src mac => { h with src := mac }
  | .etherType type => { h with etherType := type }
  | .payload _ | .payloadOffset _ => h

/-- A field of the header is what was written last, if an edit is known to change the field to what
it writes there. -/
lemma read_foldl_write {α : Type} {read : Header → α} {written? : Edit → Option α}
    (each : ∀ h edit, read (write h edit) = (written? edit).getD (read h)) (edits : List Edit)
    (h : Header) :
    read (edits.foldl write h) = (edits.filterMap written?).getLast?.getD (read h) := by
  induction edits generalizing h with
  | nil => rfl
  | cons edit edits ih =>
    rw [List.foldl_cons, ih, each, List.filterMap_cons]
    cases written? edit with
    | none => rfl
    | some value => rw [List.getLast?_cons, Option.getD_some, Option.getD_some]

end Header

/-! ## Frames with a header -/

/-- The frame starts with the header, and its payload lies behind it. -/
structure Headed (h : Header) (f : Ethernet) : Prop where
  header : f.data.take headerLength = h.toBytes
  behind : headerLength ≤ f.payloadOffset
  inside : f.payloadOffset ≤ f.data.length

section

variable {h : Header} {f g : Ethernet}

/-- A frame is its header and what follows. -/
lemma Headed.data_eq (headed : Headed h f) :
    f.data = h.toBytes ++ f.data.drop headerLength := by
  rw [← headed.header, List.take_append_drop]

/-- Nothing that is read from the frame is missed. -/
lemma Headed.reads (headed : Headed h f) :
    f.dest? = some h.dest ∧ f.src? = some h.src ∧ f.etherType? = some h.etherType ∧
      f.payload? = some (f.data.drop f.payloadOffset) := by
  have long : 14 ≤ f.data.length := headed.behind.trans headed.inside
  have window (start length : Nat) (within : start + length ≤ 14) :
      f.data.slice? start length = some ((f.data.drop start).take length) :=
    if_pos (within.trans long)
  refine ⟨?_, ?_, ?_, if_pos headed.inside⟩
  · rw [dest?, window 0 6 (by decide), headed.data_eq]
    rfl
  · rw [src?, window 6 6 (by decide), headed.data_eq]
    rfl
  · have last : ((h.toBytes ++ f.data.drop headerLength).drop 12).take 2 =
        Bytes.ofWord h.etherType ++ [] := rfl
    rw [etherType?, window 12 2 (by decide), headed.data_eq, last, Option.map_some,
      Bytes.word_ofWord_append]

/-- A new frame has the header that its first bytes say. -/
lemma headed_of_fresh (fresh : f = empty ∨ ∃ bytes, ofBytes bytes = .ok f) :
    Headed (Header.ofBytes f.data) f := by
  rcases fresh with rfl | ⟨bytes, read⟩
  · exact ⟨rfl, Nat.le_refl _, Nat.le_refl _⟩
  · rw [ofBytes] at read
    split_ifs at read with short
    obtain rfl := Except.ok.inj read
    have whole : headerLength ≤ bytes.length := Nat.not_lt.1 short
    exact ⟨(Header.toBytes_ofBytes whole).symm, Nat.le_refl _, whole⟩

/-- A patch of the header leaves the rest of the frame alone. -/
lemma Headed.patch (headed : Headed h f) (start : Nat) (new : Bytes) (next : Header)
    (patched : ∀ rest, (h.toBytes ++ rest).patch? start new = some (next.toBytes ++ rest)) :
    ∃ data, f.data.patch? start new = some data ∧ Headed next { f with data } := by
  have data : f.data.patch? start new = some (next.toBytes ++ f.data.drop headerLength) := by
    rw [← patched, ← headed.data_eq]
  refine ⟨_, data, List.take_left' next.length_toBytes, headed.behind, ?_⟩
  exact headed.inside.trans_eq (Bytes.length_patch? data).symm

/-- An edit that fits never misses the frame, and changes the header to what it writes there. -/
lemma headed_edit? (headed : Headed h f) {edit : Edit} (fits : edit.Fits f) :
    ∃ g, f.edit? edit = some g ∧ Headed (h.write edit) g := by
  -- the first three patch the header in place, and the payload is behind it
  cases edit with
  | dest mac =>
    obtain ⟨data, patched, next⟩ := headed.patch 0 mac.toBytes { h with dest := mac }
      fun rest => if_pos (by simp [headerLength]; omega)
    exact ⟨_, by rw [edit?, setDest?, patched]; rfl, next⟩
  | src mac =>
    obtain ⟨data, patched, next⟩ := headed.patch 6 mac.toBytes { h with src := mac }
      fun rest => if_pos (by simp [headerLength]; omega)
    exact ⟨_, by rw [edit?, setSrc?, patched]; rfl, next⟩
  | etherType type =>
    obtain ⟨data, patched, next⟩ := headed.patch 12 (Bytes.ofWord type)
      { h with etherType := type } fun rest => if_pos (by simp [headerLength])
    exact ⟨_, by rw [edit?, setEtherType?, patched]; rfl, next⟩
  | payload bytes =>
    refine ⟨_, rfl, ?_, headed.behind, ?_⟩
    · show (f.data.take f.payloadOffset ++ bytes).take headerLength = h.toBytes
      have kept : headerLength ≤ (f.data.take f.payloadOffset).length := by
        rw [List.length_take, Nat.min_eq_left headed.inside]
        exact headed.behind
      rw [List.take_append_of_le_length kept, List.take_take, Nat.min_eq_left headed.behind,
        headed.header]
    · show f.payloadOffset ≤ (f.data.take f.payloadOffset ++ bytes).length
      rw [List.length_append, List.length_take, Nat.min_eq_left headed.inside]
      omega
  | payloadOffset offset => exact ⟨_, rfl, headed.header, fits.1, fits.2⟩

/-- Edits that fit keep a frame in order, and leave in its header what they write there. -/
lemma headed_editAll? (headed : Headed h f) {edits : List Edit} (fit : AllFit f edits) :
    ∃ g, f.editAll? edits = some g ∧ Headed (edits.foldl Header.write h) g := by
  induction edits generalizing f h with
  | nil => exact ⟨f, rfl, headed⟩
  | cons edit edits ih =>
    obtain ⟨middle, edited, next⟩ := headed_edit? headed fit.1
    obtain ⟨g, rest, last⟩ := ih next (fit.2 middle edited)
    exact ⟨g, by rw [editAll?, edited, Option.bind_some, rest], last⟩

/-! ## Exchanged payloads -/

/-- Nothing of the payload before is left. -/
lemma Headed.setPayload (headed : Headed h f) (payload : Bytes) :
    (f.setPayload payload).data.take f.payloadOffset = f.data.take f.payloadOffset ∧
      (f.setPayload payload).data.length = f.payloadOffset + payload.length ∧
        (f.setPayload payload).payload? = some payload := by
  have before : (f.data.take f.payloadOffset).length = f.payloadOffset := by
    rw [List.length_take, Nat.min_eq_left headed.inside]
  have length : (f.setPayload payload).data.length = f.payloadOffset + payload.length := by
    show (f.data.take f.payloadOffset ++ payload).length = _
    rw [List.length_append, before]
  refine ⟨List.take_left' before, length, ?_⟩
  have inside : (f.setPayload payload).payloadOffset ≤ (f.setPayload payload).data.length := by
    rw [length]
    exact Nat.le_add_right _ _
  rw [payload?, if_pos inside]
  exact congrArg some (List.drop_left' before)

/-! ## Padding -/

/-- Padding reaches to the shortest length of a frame, and no further. -/
lemma length_toPaddedBytes (f : Ethernet) :
    f.toPaddedBytes.length = max minimumLength f.data.length := by
  rw [toPaddedBytes, List.length_append, List.length_replicate]
  omega

/-- A padded frame is long enough. -/
lemma toPaddedBytes_of_padded (offset : Nat) :
    toPaddedBytes ⟨f.toPaddedBytes, offset⟩ = f.toPaddedBytes := by
  have enough : minimumLength - f.toPaddedBytes.length = 0 := by
    rw [length_toPaddedBytes]
    omega
  rw [toPaddedBytes, enough, List.replicate_zero, List.append_nil]

lemma ofBytes_toPaddedBytes (f : Ethernet) :
    ofBytes f.toPaddedBytes = .ok ⟨f.toPaddedBytes, headerLength⟩ := by
  have whole : headerLength ≤ f.toPaddedBytes.length := by
    rw [length_toPaddedBytes]
    exact Nat.le_trans (by decide) (Nat.le_max_left _ _)
  rw [ofBytes, if_neg (Nat.not_lt.2 whole)]

end

/-! ## All edits -/

/-- Frames under any sequence of edits.

Take a new frame, empty or read from bytes, and edit it in any order, where the payload is only ever
moved to a place from the end of the header to the end of the frame. No edit misses the frame, and
the payload stays in that range. Each field of the header reads as it was written last, or else as
in the first bytes of the new frame, and the payload can be read as well. At any time a new payload
keeps all that stands before its place and is then all that stands behind it. On the wire zeros
follow up to the least length, and a frame that is read back from there is padded already. -/
theorem editing_exact {f : Ethernet} (fresh : f = empty ∨ ∃ bytes, ofBytes bytes = .ok f)
    {edits : List Edit} (fit : AllFit f edits) :
    ∃ g, f.editAll? edits = some g ∧
      (14 ≤ g.payloadOffset ∧ g.payloadOffset ≤ g.data.length) ∧
      g.dest? = some ((edits.filterMap Edit.dest?).getLast?.getD (Mac.ofBytes f.data)) ∧
      g.src? = some ((edits.filterMap Edit.src?).getLast?.getD (Mac.ofBytes (f.data.drop 6))) ∧
      g.etherType? =
        some ((edits.filterMap Edit.etherType?).getLast?.getD (Bytes.word (f.data.drop 12))) ∧
      g.payload? = some (g.data.drop g.payloadOffset) ∧
      (∀ payload, ∃ next, g.edit? (.payload payload) = some next ∧
        next.payloadOffset = g.payloadOffset ∧
        next.data.take g.payloadOffset = g.data.take g.payloadOffset ∧
        next.data.length = g.payloadOffset + payload.length ∧
        next.payload? = some payload) ∧
      g.toPaddedBytes.take g.data.length = g.data ∧
      g.toPaddedBytes.length = max 60 g.data.length ∧
      (∀ byte ∈ g.toPaddedBytes.drop g.data.length, byte = 0) ∧
      ∃ again, ofBytes g.toPaddedBytes = .ok again ∧ again.data = g.toPaddedBytes ∧
        again.toPaddedBytes = g.toPaddedBytes := by
  obtain ⟨g, edited, headed⟩ := headed_editAll? (headed_of_fresh fresh) fit
  obtain ⟨dest, src, etherType, payload⟩ := headed.reads
  have written (h : Header) (edit : Edit) :
      (h.write edit).dest = edit.dest?.getD h.dest ∧ (h.write edit).src = edit.src?.getD h.src ∧
        (h.write edit).etherType = edit.etherType?.getD h.etherType := by
    cases edit <;> exact ⟨rfl, rfl, rfl⟩
  refine ⟨g, edited, ⟨headed.behind, headed.inside⟩, ?_, ?_, ?_, payload, ?_, List.take_left,
    g.length_toPaddedBytes, ?_, _, g.ofBytes_toPaddedBytes, rfl, toPaddedBytes_of_padded _⟩
  · rw [dest, Header.read_foldl_write fun h edit => (written h edit).1]
    rfl
  · rw [src, Header.read_foldl_write fun h edit => (written h edit).2.1]
    rfl
  · rw [etherType, Header.read_foldl_write fun h edit => (written h edit).2.2]
    rfl
  · intro payload
    obtain ⟨kept, length, reads⟩ := headed.setPayload payload
    exact ⟨_, rfl, rfl, kept, length, reads⟩
  · intro byte member
    rw [toPaddedBytes, List.drop_left] at member
    exact List.eq_of_mem_replicate member

/-- The payload is moved back and forth while it gets longer and shorter, and the destination is
written twice. -/
theorem editing_exact_of_shrinking :
    let bytes : Bytes := List.replicate 6 1 ++ List.replicate 6 2 ++ [8, 0] ++ List.replicate 10 9
    let mac : Mac := ⟨2, 0, 0, 0, 0, 1⟩
    let edits : List Edit :=
      [.dest .broadcast, .payloadOffset 24, .payload [1, 2, 3], .payloadOffset 26, .payload [],
        .etherType EtherType.arp, .payloadOffset 15, .payload [7], .dest mac]
    ofBytes bytes = .ok ⟨bytes, 14⟩ ∧ AllFit ⟨bytes, 14⟩ edits ∧
      ∃ g, editAll? ⟨bytes, 14⟩ edits = some g ∧ g.dest? = some mac ∧
        g.src? = some ⟨2, 2, 2, 2, 2, 2⟩ ∧ g.etherType? = some EtherType.arp ∧
        g.payload? = some [7] ∧ g.data.length = 16 := by
  intro bytes mac edits
  have read : ofBytes bytes = .ok ⟨bytes, 14⟩ := rfl
  have fit : AllFit ⟨bytes, 14⟩ edits := by decide
  have left : editAll? ⟨bytes, 14⟩ edits =
      some ⟨mac.toBytes ++ List.replicate 6 2 ++ [8, 6] ++ [9] ++ [7], 15⟩ := rfl
  obtain ⟨g, edited, -, dest, src, etherType, payload, -⟩ :=
    editing_exact (.inr ⟨bytes, read⟩) fit
  obtain rfl := Option.some.inj (edited.symm.trans left)
  exact ⟨read, fit, _, left, dest, src, etherType, payload, rfl⟩

end ArpProbe.Ethernet
