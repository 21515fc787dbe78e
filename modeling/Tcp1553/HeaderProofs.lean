import Tcp1553.FramingProofs

/-! # The header bytes behind a command word

    `parseStream` shifts the header bytes into one 16-bit word and masks only the
    last of them.  `WireFormatProofs` reads the fields back for a subaddress in
    range; here the bytes are arbitrary, as the parser accepts them.

    A subaddress byte has three bits more than its field.  They fall on the T/R
    bit and on the two lowest bits of the RT field (`trField_spill`,
    `rtField_spill`), and `headerFields_iff` says which headers survive that. -/

namespace TcpWire

/-- Cutting a word to 16 bits leaves a field below bit 16 alone. -/
theorem field_ofNat (x : Nat) {k n : Nat} (h : k + n ≤ 16) :
    ((UInt16.ofNat x).toNat >>> k) % 2 ^ n = (x >>> k) % 2 ^ n := by
  refine Nat.eq_of_testBit_eq fun i => ?_
  rw [UInt16.toNat_ofNat', Nat.testBit_mod_two_pow, Nat.testBit_mod_two_pow,
    Nat.testBit_shiftRight, Nat.testBit_shiftRight, Nat.testBit_mod_two_pow]
  by_cases hi : i < n
  · have hlow : k + i < 16 := by omega
    rw [decide_eq_true hlow, Bool.true_and]
  · rw [decide_eq_false hi, Bool.false_and, Bool.false_and]

/-- A shift left undone by a longer shift right. -/
theorem shiftLeft_shiftRight_of_le (x : Nat) {k n : Nat} (h : k ≤ n) :
    (x <<< k) >>> n = x >>> (n - k) := by
  obtain ⟨m, rfl⟩ := Nat.exists_eq_add_of_le h
  rw [Nat.shiftRight_add, Nat.shiftLeft_shiftRight, Nat.add_sub_cancel_left]

/-- Bits above the width of a number are not there. -/
theorem shiftRight_eq_zero_of_lt {x n : Nat} (h : x < 2 ^ n) : x >>> n = 0 := by
  rw [Nat.shiftRight_eq_div_pow, Nat.div_eq_of_lt h]

/-- Bit 0 is the parity. -/
theorem testBit_zero_iff (x : Nat) : x.testBit 0 = true ↔ x % 2 = 1 := by
  rw [Nat.testBit_zero, decide_eq_true_iff]

section Spill

variable (rt sa wc : UInt8) (tr : Bool)

/-- A field of the assembled word, one part for each header byte. -/
theorem field_commandWord {k n : Nat} (h : k + n ≤ 16) :
    ((commandWord rt tr sa wc).toNat >>> k) % 2 ^ n
      = ((rt.toNat <<< 11) >>> k ||| (tr.toNat <<< 10) >>> k ||| (sa.toNat <<< 5) >>> k
          ||| (wc.toNat % 32) >>> k) % 2 ^ n := by
  rw [commandWord, field_ofNat _ h, and_31, Nat.shiftRight_or_distrib, Nat.shiftRight_or_distrib,
    Nat.shiftRight_or_distrib]

/-- **The RT field** also collects the two top bits of the subaddress byte. -/
theorem rtField_spill :
    rtField (commandWord rt tr sa wc) = (rt.toNat ||| sa.toNat >>> 6) % 32 := by
  have htr : tr.toNat ≤ 1 := Bool.toNat_le tr
  have hwc : wc.toNat % 32 < 2 ^ 11 := by omega
  rw [rtField, and_31, show (32 : Nat) = 2 ^ 5 from rfl, field_commandWord rt sa wc tr (by omega),
    shiftLeft_shiftRight_of_le _ (by omega), shiftLeft_shiftRight_of_le _ (by omega),
    shiftLeft_shiftRight_of_le _ (by omega), shiftRight_eq_zero_of_lt hwc,
    shiftRight_eq_zero_of_lt (by omega : tr.toNat < 2 ^ 1), Nat.or_zero, Nat.or_zero]
  rfl

/-- **The T/R bit** also collects bit 5 of the subaddress byte. -/
theorem trField_spill :
    trField (commandWord rt tr sa wc) = (tr.toNat ||| sa.toNat >>> 5) % 2 := by
  have hwc : wc.toNat % 32 < 2 ^ 10 := by omega
  have hrt : (rt.toNat <<< 11) >>> 10 % 2 = 0 := by
    rw [Nat.shiftRight_eq_div_pow, Nat.shiftLeft_eq]
    omega
  rw [trField, and_one, show (2 : Nat) = 2 ^ 1 from rfl, field_commandWord rt sa wc tr (by omega),
    shiftLeft_shiftRight_of_le tr.toNat (Nat.le_refl 10),
    shiftLeft_shiftRight_of_le sa.toNat (by omega), shiftRight_eq_zero_of_lt hwc, Nat.or_zero,
    Nat.or_assoc, Nat.or_mod_two_pow]
  show ((rt.toNat <<< 11) >>> 10 % 2 ||| _) = _
  rw [hrt, Nat.zero_or]
  rfl

/-- **The SA field** is the subaddress byte, modulo its five bits. -/
theorem saField_spill : saField (commandWord rt tr sa wc) = sa.toNat % 32 := by
  have hwc : wc.toNat % 32 < 2 ^ 5 := by omega
  have hrt : (rt.toNat <<< 11) >>> 5 % 2 ^ 5 = 0 := by
    rw [Nat.shiftRight_eq_div_pow, Nat.shiftLeft_eq]
    omega
  have htr : (tr.toNat <<< 10) >>> 5 % 2 ^ 5 = 0 := by
    rw [Nat.shiftRight_eq_div_pow, Nat.shiftLeft_eq]
    omega
  rw [saField, and_31, show (32 : Nat) = 2 ^ 5 from rfl, field_commandWord rt sa wc tr (by omega),
    shiftLeft_shiftRight_of_le sa.toNat (Nat.le_refl 5), shiftRight_eq_zero_of_lt hwc, Nat.or_zero,
    Nat.or_mod_two_pow, Nat.or_mod_two_pow, hrt, htr, Nat.zero_or, Nat.zero_or]
  rfl

/-- **The word-count field** is the count modulo its five bits. -/
theorem wcField_spill : wcField (commandWord rt tr sa wc) = wc.toNat % 32 := by
  have hrt : (rt.toNat <<< 11) % 2 ^ 5 = 0 := by
    rw [Nat.shiftLeft_eq]
    omega
  have htr : (tr.toNat <<< 10) % 2 ^ 5 = 0 := by
    rw [Nat.shiftLeft_eq]
    omega
  have hsa : (sa.toNat <<< 5) % 2 ^ 5 = 0 := by
    rw [Nat.shiftLeft_eq]
    omega
  have hfield := field_commandWord rt sa wc tr (k := 0) (n := 5) (by omega)
  simp only [Nat.shiftRight_zero] at hfield
  rw [wcField, and_31, show (32 : Nat) = 2 ^ 5 from rfl, hfield, Nat.or_mod_two_pow,
    Nat.or_mod_two_pow, Nat.or_mod_two_pow, hrt, htr, hsa, Nat.zero_or, Nat.zero_or, Nat.zero_or]
  exact Nat.mod_mod _ _

end Spill

end TcpWire

namespace TcpHeader

open TcpWire TcpParser TcpFraming StreamScanner

/-- The command word carries the header of the packet: direction, addresses and
    count, each cut to its field. -/
structure HeaderFields (packet : List UInt8) (cmd1 : UInt16) : Prop where
  tr : trField cmd1 = 1 ↔ byteAt packet 2 = 0x01
  rt : rtField cmd1 = (byteAt packet 3).toNat % 32
  sa : saField cmd1 = (byteAt packet 4).toNat % 32
  wc : wcField cmd1 = (byteAt packet 5).toNat % 32

/-- What the subaddress byte has above its five bits falls on ones. -/
structure SpillsOnOnes (mode rt sa : UInt8) : Prop where
  bit5 : sa.toNat.testBit 5 = true → mode = 0x01
  bit6 : sa.toNat.testBit 6 = true → rt.toNat.testBit 0 = true
  bit7 : sa.toNat.testBit 7 = true → rt.toNat.testBit 1 = true

/-- The T/R bit keeps the direction unless bit 5 sets it. -/
theorem trField_iff (mode rt sa wc : UInt8) :
    (trField (commandWord rt (mode == 0x01) sa wc) = 1 ↔ mode = 0x01)
      ↔ (sa.toNat.testBit 5 = true → mode = 0x01) := by
  have hbit : trField (commandWord rt (mode == 0x01) sa wc) = 1
      ↔ mode = 0x01 ∨ sa.toNat.testBit 5 = true := by
    rw [trField_spill, ← testBit_zero_iff, Nat.testBit_or, Nat.testBit_shiftRight,
      Bool.or_eq_true]
    refine or_congr_left ?_
    by_cases hmode : mode = 0x01
    · simp [hmode]
    · simp [hmode, beq_eq_false_iff_ne.mpr hmode]
  rw [hbit]
  constructor
  · intro h h5
    exact h.mp (Or.inr h5)
  · intro h
    exact ⟨fun hor => hor.elim id h, Or.inl⟩

/-- The RT field keeps the address unless bits 6 and 7 add to it. -/
theorem rtField_iff (rt sa wc : UInt8) (tr : Bool) :
    rtField (commandWord rt tr sa wc) = rt.toNat % 32
      ↔ (sa.toNat.testBit 6 = true → rt.toNat.testBit 0 = true) ∧
        (sa.toNat.testBit 7 = true → rt.toNat.testBit 1 = true) := by
  have hbyte : sa.toNat < 2 ^ 8 := UInt8.toNat_lt sa
  have hbit : ∀ i, ((rt.toNat ||| sa.toNat >>> 6) % 2 ^ 5).testBit i
      = (decide (i < 5) && (rt.toNat.testBit i || sa.toNat.testBit (6 + i))) := by
    intro i
    rw [Nat.testBit_mod_two_pow, Nat.testBit_or, Nat.testBit_shiftRight]
  rw [rtField_spill, show (32 : Nat) = 2 ^ 5 from rfl]
  constructor
  · intro heq
    have hsame : ∀ i, i < 5 → sa.toNat.testBit (6 + i) = true → rt.toNat.testBit i = true := by
      intro i hi hset
      have hi' := hbit i
      rw [heq, Nat.testBit_mod_two_pow, decide_eq_true hi, hset, Bool.or_true] at hi'
      exact hi'
    exact ⟨hsame 0 (by omega), hsame 1 (by omega)⟩
  · rintro ⟨h6, h7⟩
    refine Nat.eq_of_testBit_eq fun i => ?_
    rw [hbit, Nat.testBit_mod_two_pow]
    -- a byte has no bit above the seventh
    have hcover : sa.toNat.testBit (6 + i) = true → rt.toNat.testBit i = true := by
      intro hset
      match i with
      | 0 => exact h6 hset
      | 1 => exact h7 hset
      | j + 2 =>
          have hbig : sa.toNat < 2 ^ (6 + (j + 2)) :=
            Nat.lt_of_lt_of_le hbyte (Nat.pow_le_pow_right (by omega) (by omega))
          rw [Nat.testBit_lt_two_pow hbig] at hset
          cases hset
    cases hset : sa.toNat.testBit (6 + i) with
    | false => rw [Bool.or_false]
    | true => rw [hcover hset, Bool.true_or]

/-- Which headers survive the assembly. -/
theorem headerFields_iff (packet : List UInt8) :
    HeaderFields packet (decodeFrame packet).cmd1
      ↔ SpillsOnOnes (byteAt packet 2) (byteAt packet 3) (byteAt packet 4) := by
  have hcmd : (decodeFrame packet).cmd1
      = commandWord (byteAt packet 3) (byteAt packet 2 == 0x01) (byteAt packet 4)
          (byteAt packet 5) := rfl
  rw [hcmd]
  constructor
  · rintro ⟨htr, hrt, -, -⟩
    obtain ⟨h6, h7⟩ := (rtField_iff _ _ _ _).mp hrt
    exact ⟨(trField_iff _ _ _ _).mp htr, h6, h7⟩
  · rintro ⟨h5, h6, h7⟩
    exact ⟨(trField_iff _ _ _ _).mpr h5, (rtField_iff _ _ _ _).mpr ⟨h6, h7⟩,
      saField_spill _ _ _ _, wcField_spill _ _ _ _⟩

/-- A packet on its own is decoded. -/
theorem transactions_isFrame {packet : List UInt8} (h : IsFrame packet) :
    transactions (ProtocolParser.reset.parseStream packet).1 = [decodeFrame packet] := by
  have hscan := scan_frame h.1 h.2 []
  rw [List.append_nil, scan_none parserScanner (next_nil parserScanner)] at hscan
  show transactions (scan parserScanner packet).1 = [decodeFrame packet]
  rw [hscan]
  rfl

/-- **When the header arrives.**  For every accepted packet the one transaction
    emitted carries its header exactly when the bits above the subaddress fall on
    ones. -/
theorem emitted_headerFields_iff {packet : List UInt8} (h : IsFrame packet) :
    ∃ trans, transactions (ProtocolParser.reset.parseStream packet).1 = [trans] ∧
      (HeaderFields packet trans.cmd1
        ↔ SpillsOnOnes (byteAt packet 2) (byteAt packet 3) (byteAt packet 4)) :=
  ⟨decodeFrame packet, transactions_isFrame h, headerFields_iff packet⟩

/-- A packet with the given header and an empty payload. -/
def headerPacket (mode rt sa wc : UInt8) : List UInt8 :=
  [0xAA, 0x55, mode, rt, sa, wc] ++ List.replicate 64 0

theorem isFrame_headerPacket {mode : UInt8} (h : mode = 0x00 ∨ mode = 0x01) (rt sa wc : UInt8) :
    IsFrame (headerPacket mode rt sa wc) :=
  ⟨rfl, Nat.le_refl 70, ⟨rfl, rfl⟩, h⟩

/-- Subaddress `0x62` in a transmit packet for terminal 1: its bits fall on ones. -/
theorem emitted_headerFields_iff_spill :
    ∃ trans, transactions
        (ProtocolParser.reset.parseStream (headerPacket 0x01 0x01 0x62 0x05)).1 = [trans] ∧
      (HeaderFields (headerPacket 0x01 0x01 0x62 0x05) trans.cmd1
        ↔ SpillsOnOnes 0x01 0x01 0x62) :=
  emitted_headerFields_iff (isFrame_headerPacket (Or.inr rfl) 0x01 0x62 0x05)

/-- A receive packet for subaddress 32 is shown as a transmit command. -/
theorem receive_shown_as_transmit :
    ¬∀ packet, IsFrame packet → ∀ trans,
      transactions (ProtocolParser.reset.parseStream packet).1 = [trans] →
        HeaderFields packet trans.cmd1 := by
  intro hall
  have hf := isFrame_headerPacket (Or.inl rfl) 0x05 0x20 0x01
  have hfields := hall _ hf _ (transactions_isFrame hf)
  have htr := hfields.tr.mp (by decide)
  exact absurd htr (by decide)

end TcpHeader
