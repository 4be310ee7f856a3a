import ProcedureAtlas.Proofs.Decoding

/-!
# Bytes that cannot be decoded

Only bytes behind a mark can be malformed, since Windows-1252 has a character for every byte. Behind
a mark of UTF-16 they are malformed when a byte is left over or a surrogate lacks its partner.
Behind the mark of UTF-8 they are malformed whenever the whole is not UTF-8, because the mark is a
character of its own and its bytes cannot repair what follows. Main statement: a file that can be
read fails to be decoded in exactly these cases, and without a mark and outside UTF-8 it has one
character for each byte.
-/

namespace ProcedureAtlas

set_option autoImplicit false

namespace Encoding

/-! ## Units -/

theorem readUnits_cons (order : ByteOrder) (first second : UInt8) (rest : Bytes) :
    ∃ unit < 0x10000, order.bytesOf unit = [first, second] ∧
      readUnits order (first :: second :: rest) = (readUnits order rest).map (unit :: ·) := by
  have firstBound := first.toNat_lt
  have secondBound := second.toNat_lt
  cases order with
  | littleEndian =>
      refine ⟨first.toNat + 256 * second.toNat, by omega, ?_, ?_⟩
      · have low : (first.toNat + 256 * second.toNat) % 256 = first.toNat := by omega
        have high : (first.toNat + 256 * second.toNat) / 256 = second.toNat := by omega
        rw [ByteOrder.bytesOf, low, high, UInt8.ofNat_toNat, UInt8.ofNat_toNat]
      · rw [readUnits]
        cases readUnits .littleEndian rest <;> rfl
  | bigEndian =>
      refine ⟨256 * first.toNat + second.toNat, by omega, ?_, ?_⟩
      · have low : (256 * first.toNat + second.toNat) % 256 = second.toNat := by omega
        have high : (256 * first.toNat + second.toNat) / 256 = first.toNat := by omega
        rw [ByteOrder.bytesOf, low, high, UInt8.ofNat_toNat, UInt8.ofNat_toNat]
      · rw [readUnits]
        cases readUnits .bigEndian rest <;> rfl

/-- Bytes in an even number are the bytes of some units; one byte more is left over. -/
theorem readUnits_cases (order : ByteOrder) (bytes : Bytes) :
    bytes.length % 2 = 1 ∧ readUnits order bytes = none ∨
    bytes.length % 2 = 0 ∧ ∃ units, readUnits order bytes = some units ∧
      bytes = units.flatMap order.bytesOf ∧ ∀ unit ∈ units, unit < 0x10000 := by
  induction bytes using List.twoStepInduction with
  | nil => exact .inr ⟨rfl, [], rfl, rfl, List.forall_mem_nil _⟩
  | singleton byte => exact .inl ⟨rfl, rfl⟩
  | cons_cons first second rest ih _ =>
      obtain ⟨unit, bound, written, read⟩ := readUnits_cons order first second rest
      have length : (first :: second :: rest).length % 2 = rest.length % 2 := by
        rw [List.length_cons, List.length_cons]
        omega
      rw [read, length]
      rcases ih with ⟨odd, failed⟩ | ⟨even, units, later, bytes, bounds⟩
      · rw [failed]
        exact .inl ⟨odd, rfl⟩
      · rw [later]
        refine .inr ⟨even, unit :: units, rfl, ?_, List.forall_mem_cons.mpr ⟨bound, bounds⟩⟩
        rw [List.flatMap_cons, written, ← bytes]
        rfl

/-! ## Surrogates -/

/-- A surrogate without its partner: a high one with no low one behind it, or a low one with no high
one in front. -/
def IsUnpaired (before : List Nat) (unit : Nat) (after : List Nat) : Prop :=
  isHighSurrogate unit = true ∧ after.head?.any isLowSurrogate = false ∨
    isLowSurrogate unit = true ∧ before.getLast?.any isHighSurrogate = false

def HasUnpaired (units : List Nat) : Prop :=
  ∃ before unit after, units = before ++ unit :: after ∧ IsUnpaired before unit after

theorem not_isHighSurrogate {unit : Nat} (low : isLowSurrogate unit = true) :
    isHighSurrogate unit = false := by
  unfold isLowSurrogate at low
  unfold isHighSurrogate
  grind

theorem not_isLowSurrogate {unit : Nat} (high : isHighSurrogate unit = true) :
    isLowSurrogate unit = false := by
  by_contra low
  rw [Bool.not_eq_false] at low
  rw [not_isHighSurrogate low] at high
  cases high

/-- A unit that is no high surrogate pairs with nothing behind it. -/
theorem isUnpaired_cons_iff {first unit : Nat} {before after : List Nat}
    (plain : isHighSurrogate first = false) :
    IsUnpaired (first :: before) unit after ↔ IsUnpaired before unit after := by
  have same : (first :: before).getLast?.any isHighSurrogate =
      before.getLast?.any isHighSurrogate := by
    cases before with
    | nil => exact plain
    | cons second before => rw [List.getLast?_cons_cons]
  unfold IsUnpaired
  rw [same]

theorem hasUnpaired_cons_iff {unit : Nat} {units : List Nat}
    (plain : isHighSurrogate unit = false) :
    HasUnpaired (unit :: units) ↔ isLowSurrogate unit = true ∨ HasUnpaired units := by
  constructor
  · rintro ⟨_ | ⟨first, before⟩, other, after, split, unpaired⟩
    · cases split
      rcases unpaired with ⟨high, -⟩ | ⟨low, -⟩
      · rw [plain] at high
        cases high
      · exact .inl low
    · cases split
      exact .inr ⟨before, other, after, rfl, (isUnpaired_cons_iff plain).mp unpaired⟩
  · rintro (low | ⟨before, other, after, rfl, unpaired⟩)
    · exact ⟨[], unit, units, rfl, .inr ⟨low, rfl⟩⟩
    · exact ⟨unit :: before, other, after, rfl, (isUnpaired_cons_iff plain).mpr unpaired⟩

theorem hasUnpaired_high {unit : Nat} {units : List Nat} (high : isHighSurrogate unit = true)
    (alone : units.head?.any isLowSurrogate = false) : HasUnpaired (unit :: units) :=
  ⟨[], unit, units, rfl, .inl ⟨high, alone⟩⟩

theorem hasUnpaired_pair_iff {unit follower : Nat} {units : List Nat}
    (high : isHighSurrogate unit = true) (low : isLowSurrogate follower = true) :
    HasUnpaired (unit :: follower :: units) ↔ HasUnpaired units := by
  have behind : ∀ {before after : List Nat} {other : Nat},
      IsUnpaired (unit :: follower :: before) other after ↔ IsUnpaired before other after := by
    intro before after other
    rw [IsUnpaired, List.getLast?_cons_cons]
    exact isUnpaired_cons_iff (not_isHighSurrogate low)
  constructor
  · rintro ⟨_ | ⟨first, _ | ⟨second, before⟩⟩, other, after, split, unpaired⟩
    · cases split
      simp [IsUnpaired, low, not_isLowSurrogate high] at unpaired
    · cases split
      simp [IsUnpaired, high, not_isHighSurrogate low] at unpaired
    · cases split
      exact ⟨before, other, after, rfl, behind.mp unpaired⟩
  · rintro ⟨before, other, after, rfl, unpaired⟩
    exact ⟨unit :: follower :: before, other, after, rfl, behind.mpr unpaired⟩

theorem readCharacters_eq_none_iff {units : List Nat} :
    readCharacters units = none ↔ HasUnpaired units := by
  -- The reader takes a pair at once, so behind a pair the units count as if nothing were before.
  fun_induction readCharacters units with
  | case1 => simp [HasUnpaired]
  | case2 unit surrogate =>
      rw [eq_self, true_iff]
      rcases Bool.or_eq_true_iff.mp surrogate with high | low
      · exact hasUnpaired_high high rfl
      · exact (hasUnpaired_cons_iff (not_isHighSurrogate low)).mpr (.inl low)
  | case3 unit plain =>
      rw [Bool.not_eq_true, Bool.or_eq_false_iff] at plain
      rw [hasUnpaired_cons_iff plain.1, plain.2]
      simp [HasUnpaired]
  | case4 unit follower rest high low ih =>
      rw [hasUnpaired_pair_iff high low, ← ih]
      cases readCharacters rest <;> simp
  | case5 unit follower rest high alone =>
      rw [eq_self, true_iff]
      exact hasUnpaired_high high (Bool.not_eq_true _ ▸ alone)
  | case6 unit follower rest plain low =>
      rw [eq_self, true_iff]
      exact (hasUnpaired_cons_iff (not_isHighSurrogate low)).mpr (.inl low)
  | case7 unit follower rest notHigh notLow ih =>
      rw [Bool.not_eq_true] at notHigh
      rw [hasUnpaired_cons_iff notHigh, or_iff_right notLow, ← ih]
      cases readCharacters (follower :: rest) <;> simp

/-! ## UTF-16 -/

/-- The bytes are not well-formed UTF-16: one is left over, or a surrogate lacks its partner. -/
def ByteOrder.IsBroken (order : ByteOrder) (bytes : Bytes) : Prop :=
  bytes.length % 2 = 1 ∨ ∃ units, (∀ unit ∈ units, unit < 0x10000) ∧
    bytes = units.flatMap order.bytesOf ∧ HasUnpaired units

theorem readUtf16_eq_none_iff {order : ByteOrder} {bytes : Bytes} :
    readUtf16 order bytes = none ↔ order.IsBroken bytes := by
  unfold readUtf16 ByteOrder.IsBroken
  rcases readUnits_cases order bytes with ⟨odd, failed⟩ | ⟨even, units, read, written, bounds⟩
  · rw [failed]
    simp [odd]
  · have notOdd : ¬bytes.length % 2 = 1 := by omega
    rw [read, or_iff_right notOdd]
    change readCharacters units = none ↔ _
    rw [readCharacters_eq_none_iff]
    constructor
    · intro unpaired
      exact ⟨units, bounds, written, unpaired⟩
    · rintro ⟨others, otherBounds, same, unpaired⟩
      rw [same, readUnits_bytesOf order otherBounds] at read
      cases read
      exact unpaired

/-! ## Windows-1252 -/

private theorem high_bytes_are_written :
    ∀ index < 32, windows1252Byte? (Char.ofNat (windows1252High.getD index 0)) =
      some (UInt8.ofNat (0x80 + index)) := by
  decide

theorem windows1252Byte?_read (byte : UInt8) :
    windows1252Byte? (readWindows1252Byte byte) = some byte := by
  have bound := byte.toNat_lt
  unfold readWindows1252Byte
  split_ifs with inTable
  · have written := high_bytes_are_written (byte.toNat - 0x80) (by omega)
    rw [written, Nat.add_sub_cancel' inTable.1, UInt8.ofNat_toNat]
  · have code : (Char.ofNat byte.toNat).toNat = byte.toNat :=
      toNat_ofNat_of_valid (.inl (by omega))
    unfold windows1252Byte?
    rw [code, if_pos (by omega), UInt8.ofNat_toNat]

theorem windows1252?_read (bytes : Bytes) : windows1252? (readWindows1252 bytes) = some bytes := by
  induction bytes with
  | nil => rfl
  | cons byte bytes ih =>
      exact windows1252?_cons_eq_some_iff.mpr ⟨byte, bytes, windows1252Byte?_read byte, ih, rfl⟩

/-! ## Files -/

/-- The bytes are not UTF-8, and are not what the mark they begin with announces. -/
def IsUndecodable (bytes : Bytes) : Prop :=
  ¬IsUtf8 bytes ∧ (utf8Mark <+: bytes ∨
    ∃ (order : ByteOrder) (rest : Bytes), bytes = order.mark ++ rest ∧ order.IsBroken rest)

theorem isUtf8_marked {rest : Bytes} (later : IsUtf8 rest) : IsUtf8 (utf8Mark ++ rest) := by
  obtain ⟨text, rfl⟩ := later
  exact ⟨byteOrderMark :: text, by rw [Text.utf8_cons, ← utf8_byteOrderMark]; rfl⟩

theorem mark_injective {order other : ByteOrder} {rest behind : Bytes}
    (same : order.mark ++ rest = other.mark ++ behind) : order = other ∧ rest = behind := by
  cases order <;> cases other <;> simp_all [ByteOrder.mark]

theorem markless_of_not {bytes : Bytes} (noUtf8 : ¬utf8Mark <+: bytes)
    (noUtf16 : ∀ order : ByteOrder, ¬order.mark <+: bytes) : ∀ mark ∈ marks, ¬mark <+: bytes := by
  intro mark member
  simp only [marks, List.mem_cons, List.not_mem_nil, or_false] at member
  rcases member with rfl | rfl | rfl
  · exact noUtf8
  · exact noUtf16 .littleEndian
  · exact noUtf16 .bigEndian

theorem readMarked_eq_none_iff {bytes : Bytes} (foreign : ¬IsUtf8 bytes) :
    readMarked bytes = none ↔ utf8Mark <+: bytes ∨
      ∃ (order : ByteOrder) (rest : Bytes), bytes = order.mark ++ rest ∧ order.IsBroken rest := by
  by_cases utf8Marked : utf8Mark <+: bytes
  · obtain ⟨rest, rfl⟩ := utf8Marked
    have failed : readUtf8 rest = none :=
      readUtf8_eq_none_iff.mpr fun later => foreign (isUtf8_marked later)
    exact iff_of_true failed (.inl (List.prefix_append _ _))
  · rw [or_iff_right utf8Marked]
    by_cases marked : ∃ order : ByteOrder, order.mark <+: bytes
    · obtain ⟨order, rest, rfl⟩ := marked
      have read : readMarked (order.mark ++ rest) = readUtf16 order rest := by
        cases order <;> rfl
      rw [read, readUtf16_eq_none_iff]
      constructor
      · intro broken
        exact ⟨order, rest, rfl, broken⟩
      · rintro ⟨other, behind, same, broken⟩
        obtain ⟨rfl, rfl⟩ := mark_injective same
        exact broken
    · rw [not_exists] at marked
      rw [readMarked_of_markless (markless_of_not utf8Marked marked)]
      refine iff_of_false (Option.some_ne_none _) ?_
      rintro ⟨order, rest, rfl, -⟩
      exact marked order (List.prefix_append _ _)

theorem decode_eq_none_iff {bytes : Bytes} : decode bytes = none ↔ IsUndecodable bytes := by
  by_cases utf8 : IsUtf8 bytes
  · obtain ⟨text, rfl⟩ := utf8
    rw [decode_of_readUtf8 (readUtf8_eq_some_iff.mpr rfl)]
    exact iff_of_false (Option.some_ne_none _) fun undecodable => undecodable.1 ⟨text, rfl⟩
  · rw [decode_of_foreign utf8, Option.map_eq_none_iff, readMarked_eq_none_iff utf8, IsUndecodable,
      and_iff_right utf8]

theorem decode_of_markless {bytes : Bytes} (foreign : ¬IsUtf8 bytes)
    (markless : ∀ mark ∈ marks, ¬mark <+: bytes) :
    decode bytes = some (readWindows1252 bytes) := by
  rw [decode_of_foreign foreign, readMarked_of_markless markless, Option.map_some,
    dropMark_of_isUnmarked (isUnmarked_of_windows1252 (windows1252?_read bytes))]

end Encoding

theorem Disk.readSource_of_read {disk : Disk} {path : Bytes} {bytes : Bytes}
    (content : disk.read path = .ok bytes) (root : Bytes) :
    disk.readSource root path =
      (Encoding.decode bytes).elim (.error (.unreadableFile path .invalidCharacters))
        fun text => .ok ⟨Path.label root path, text⟩ := by
  unfold readSource
  simp only [content]
  cases Encoding.decode bytes <;> rfl

/-- A file that can be read fails exactly when its bytes cannot be decoded, and says so. Bytes that
are not UTF-8 and begin with no mark give one character each. -/
theorem Disk.only_undecodable_bytes_fail (disk : Disk) (root path : Bytes) {bytes : Bytes}
    (content : disk.read path = .ok bytes) :
    ((∃ failure, disk.readSource root path = .error failure) ↔ Encoding.IsUndecodable bytes) ∧
    (Encoding.IsUndecodable bytes →
      disk.readSource root path = .error (.unreadableFile path .invalidCharacters)) ∧
    (¬Encoding.IsUndecodable bytes →
      ∃ text, disk.readSource root path = .ok ⟨Path.label root path, text⟩) ∧
    (¬Encoding.IsUtf8 bytes → (∀ mark ∈ Encoding.marks, ¬mark <+: bytes) →
      ∃ text, disk.readSource root path = .ok ⟨Path.label root path, text⟩ ∧
        text.length = bytes.length ∧ Encoding.windows1252? text = some bytes) := by
  rw [readSource_of_read content root, ← Encoding.decode_eq_none_iff]
  refine ⟨?_, ?_, ?_, ?_⟩
  · cases Encoding.decode bytes <;> simp
  · intro failed
    rw [failed, Option.elim_none]
  · intro decoded
    obtain ⟨text, read⟩ := Option.ne_none_iff_exists'.mp decoded
    exact ⟨text, by rw [read, Option.elim_some]⟩
  · intro foreign markless
    rw [Encoding.decode_of_markless foreign markless]
    exact ⟨_, rfl, List.length_map _, Encoding.windows1252?_read bytes⟩

/-- A high surrogate in front of a letter, and two bytes, one without a character of its own. -/
theorem Disk.lone_surrogate_fails :
    (Disk.holding [0xFE, 0xFF, 0xD8, 0x3D, 0x00, 0x41]).readSource [0x70] [0x70, 0x2F, 0x61] =
      .error (.unreadableFile [0x70, 0x2F, 0x61] .invalidCharacters) ∧
    ∃ text, (Disk.holding [0x81, 0xFF]).readSource [0x70] [0x70, 0x2F, 0x61] = .ok ⟨['a'], text⟩ ∧
      text.length = 2 ∧ Encoding.windows1252? text = some [0x81, 0xFF] := by
  constructor
  · refine (Disk.only_undecodable_bytes_fail _ _ _ rfl).2.1
      ⟨Encoding.not_isUtf8 (by decide) _, .inr ⟨.bigEndian, [0xD8, 0x3D, 0x00, 0x41], rfl, .inr ?_⟩⟩
    exact ⟨[0xD83D, 0x41], by decide, by decide, Encoding.hasUnpaired_high rfl rfl⟩
  · exact (Disk.only_undecodable_bytes_fail (Disk.holding [0x81, 0xFF]) _ _ rfl).2.2.2
      (Encoding.not_isUtf8 (by decide) _) (by decide)

end ProcedureAtlas
