import Mathlib.Data.List.Basic
import Mathlib.Data.Nat.Bitwise

/-! # The 70-byte wire format and the 1553 command word

    The data the bus controller and the bus monitor share: the packed packet
    the controller writes, the transaction the monitor decodes, and the 16-bit
    command word both sides read their addresses from.  Bytes are `UInt8`,
    words `UInt16`; the C++ integer promotions are spelled out on `Nat` with
    the final truncation written where the source assigns.

    The arithmetic that later files rest on is `commandWord_toNat`: with the
    subaddress in range the four fields of the command word do not overlap. -/

namespace TcpWire

/-- The payload is always 32 words. -/
def kFixedPayloadBytes : Nat := 64

/-- Header and payload. -/
def kTcp1553PacketBytes : Nat := 6 + kFixedPayloadBytes

@[simp] theorem kTcp1553PacketBytes_eq : kTcp1553PacketBytes = 70 := rfl

/-- A byte of a buffer the source indexes; every use is within bounds. -/
def byteAt (buf : List UInt8) (i : Nat) : UInt8 := buf.getD i 0

/-- Bytes further down the buffer. -/
theorem byteAt_drop (buf : List UInt8) (k i : Nat) :
    byteAt (buf.drop k) i = byteAt buf (k + i) := by
  simp only [byteAt, List.getD_eq_getElem?_getD, List.getElem?_drop]

/-- Bytes already buffered do not change when more arrive. -/
theorem byteAt_append {buf : List UInt8} {i : Nat} (h : i < buf.length)
    (more : List UInt8) : byteAt (buf ++ more) i = byteAt buf i := by
  simp only [byteAt, List.getD_eq_getElem?_getD, List.getElem?_append_left h]

/-- Bytes behind a prefix. -/
theorem byteAt_append_right (front buf : List UInt8) (i : Nat) :
    byteAt (front ++ buf) (front.length + i) = byteAt buf i := by
  simp only [byteAt, List.getD_eq_getElem?_getD,
    List.getElem?_append_right (Nat.le_add_right _ _), Nat.add_sub_cancel_left]

/-! ## The command word -/

/-- `(rt << 11) | (tr << 10) | (sa << 5) | (wc & 0x1F)`, cut to 16 bits. -/
def commandWord (rt : UInt8) (tr : Bool) (sa wc : UInt8) : UInt16 :=
  UInt16.ofNat ((rt.toNat <<< 11) ||| (tr.toNat <<< 10) ||| (sa.toNat <<< 5)
    ||| (wc.toNat &&& 0x1F))

/-- `(cmd >> 11) & 0x1F`. -/
def rtField (cmd : UInt16) : Nat := (cmd.toNat >>> 11) &&& 0x1F

/-- `(cmd >> 10) & 0x01`. -/
def trField (cmd : UInt16) : Nat := (cmd.toNat >>> 10) &&& 0x01

/-- `(cmd >> 5) & 0x1F`. -/
def saField (cmd : UInt16) : Nat := (cmd.toNat >>> 5) &&& 0x1F

/-- `cmd & 0x1F`. -/
def wcField (cmd : UInt16) : Nat := cmd.toNat &&& 0x1F

/-- A mask of five ones is a remainder. -/
theorem and_31 (n : Nat) : n &&& 0x1F = n % 32 := Nat.and_two_pow_sub_one_eq_mod n 5

/-- A mask of one one is a parity. -/
theorem and_one (n : Nat) : n &&& 0x01 = n % 2 := Nat.and_two_pow_sub_one_eq_mod n 1

/-- Or-ing a value into the low bits of a shifted one adds it. -/
theorem shiftLeft_or {n k low : Nat} (h : low < 2 ^ k) :
    n <<< k ||| low = n * 2 ^ k + low := by
  rw [← Nat.shiftLeft_add_eq_or_of_lt h, Nat.shiftLeft_eq]

/-- **The fields do not overlap** when the subaddress byte is in range. -/
theorem commandWord_toNat {rt sa wc : UInt8} {tr : Bool} (hsa : sa.toNat < 32) :
    (commandWord rt tr sa wc).toNat
      = (rt.toNat % 32) * 2048 + tr.toNat * 1024 + sa.toNat * 32 + wc.toNat % 32 := by
  have htr : tr.toNat ≤ 1 := Bool.toNat_le tr
  -- each or puts its field below the lowest bit of the ones before
  have h1 : rt.toNat <<< 11 ||| tr.toNat <<< 10 = (2 * rt.toNat + tr.toNat) <<< 10 := by
    rw [shiftLeft_or (by rw [Nat.shiftLeft_eq]; omega), Nat.shiftLeft_eq, Nat.shiftLeft_eq]
    omega
  have h2 : (2 * rt.toNat + tr.toNat) <<< 10 ||| sa.toNat <<< 5
      = (32 * (2 * rt.toNat + tr.toNat) + sa.toNat) <<< 5 := by
    rw [shiftLeft_or (by rw [Nat.shiftLeft_eq]; omega), Nat.shiftLeft_eq, Nat.shiftLeft_eq]
    omega
  have h3 : (32 * (2 * rt.toNat + tr.toNat) + sa.toNat) <<< 5 ||| wc.toNat % 32
      = (32 * (2 * rt.toNat + tr.toNat) + sa.toNat) * 2 ^ 5 + wc.toNat % 32 :=
    shiftLeft_or (Nat.mod_lt _ (by decide))
  rw [commandWord, and_31, h1, h2, h3, UInt16.toNat_ofNat']
  omega

section Fields

variable {rt sa wc : UInt8} {tr : Bool}

/-- The RT field is the RT byte, modulo its five bits. -/
theorem rtField_commandWord (hsa : sa.toNat < 32) :
    rtField (commandWord rt tr sa wc) = rt.toNat % 32 := by
  have htr : tr.toNat ≤ 1 := Bool.toNat_le tr
  rw [rtField, and_31, Nat.shiftRight_eq_div_pow, commandWord_toNat hsa]
  omega

/-- The T/R bit is the direction. -/
theorem trField_commandWord (hsa : sa.toNat < 32) :
    trField (commandWord rt tr sa wc) = tr.toNat := by
  have htr : tr.toNat ≤ 1 := Bool.toNat_le tr
  rw [trField, and_one, Nat.shiftRight_eq_div_pow, commandWord_toNat hsa]
  omega

/-- The SA field is the subaddress byte. -/
theorem saField_commandWord (hsa : sa.toNat < 32) :
    saField (commandWord rt tr sa wc) = sa.toNat := by
  have htr : tr.toNat ≤ 1 := Bool.toNat_le tr
  rw [saField, and_31, Nat.shiftRight_eq_div_pow, commandWord_toNat hsa]
  omega

/-- The word-count field is the count modulo its five bits. -/
theorem wcField_commandWord (hsa : sa.toNat < 32) :
    wcField (commandWord rt tr sa wc) = wc.toNat % 32 := by
  have htr : tr.toNat ≤ 1 := Bool.toNat_le tr
  rw [wcField, and_31, commandWord_toNat hsa]
  omega

end Fields

/-! ## Data words -/

/-- Words a header announces: `0` stands for 32 and nothing exceeds 32. -/
def meaningfulWords (wc : UInt8) : Nat :=
  if wc = 0 then 32 else if wc.toNat > 32 then 32 else wc.toNat

/-- `(payload[2 i] << 8) | payload[2 i + 1]`. -/
def payloadWord (payload : List UInt8) (i : Nat) : UInt16 :=
  UInt16.ofNat (((byteAt payload (i * 2)).toNat <<< 8) ||| (byteAt payload (i * 2 + 1)).toNat)

/-- The payload loop of the parser. -/
def payloadWords (payload : List UInt8) (words : Nat) : List UInt16 :=
  (List.range words).map (payloadWord payload)

/-- A header never announces more than the payload holds. -/
theorem meaningfulWords_le (wc : UInt8) : meaningfulWords wc ≤ 32 := by
  unfold meaningfulWords
  split
  · exact Nat.le_refl _
  · split <;> omega

/-- It announces at least one word. -/
theorem meaningfulWords_pos (wc : UInt8) : 0 < meaningfulWords wc := by
  unfold meaningfulWords
  split
  · exact Nat.zero_lt_succ 31
  · rename_i hne
    have hpos : 0 < wc.toNat := Nat.pos_of_ne_zero fun hzero => hne (UInt8.toNat_inj.mp hzero)
    split <;> omega

@[simp] theorem length_payloadWords (payload : List UInt8) (words : Nat) :
    (payloadWords payload words).length = words := by
  rw [payloadWords, List.length_map, List.length_range]

@[simp] theorem getElem_payloadWords {payload : List UInt8} {words i : Nat}
    (hi : i < (payloadWords payload words).length) :
    (payloadWords payload words)[i] = payloadWord payload i := by
  simp only [payloadWords, List.getElem_map, List.getElem_range]

/-- A payload word is big-endian. -/
theorem payloadWord_eq (payload : List UInt8) (i : Nat) :
    payloadWord payload i
      = UInt16.ofNat (256 * (byteAt payload (2 * i)).toNat
          + (byteAt payload (2 * i + 1)).toNat) := by
  have hlow : (byteAt payload (i * 2 + 1)).toNat < 2 ^ 8 := UInt8.toNat_lt _
  rw [payloadWord, shiftLeft_or hlow, Nat.mul_comm i 2]
  congr 1
  omega

/-! ## The monitor's transaction -/

/-- One decoded bus transaction. -/
structure MessageTransaction where
  fullTimetag      : UInt64 := 0
  lastTimetagLData : UInt32 := 0
  lastTimetagHData : UInt32 := 0
  cmd1             : UInt16 := 0
  bus1             : Char := Char.ofNat 0
  cmd1Valid        : Bool := false
  cmd2             : UInt16 := 0
  bus2             : Char := Char.ofNat 0
  cmd2Valid        : Bool := false
  stat1            : UInt16 := 0
  stat1Bus         : Char := Char.ofNat 0
  stat1Valid       : Bool := false
  stat2            : UInt16 := 0
  stat2Bus         : Char := Char.ofNat 0
  stat2Valid       : Bool := false
  dataWords        : List UInt16 := []
  errorWord        : UInt32 := 0
  errorValid       : Bool := false
  deriving DecidableEq, Repr

/-- `clear` puts every field back to its default. -/
def MessageTransaction.clear (_trans : MessageTransaction) : MessageTransaction := {}

/-! ## The controller's packet -/

/-- `htons` on a little-endian host: swap the two bytes. -/
def htons (w : UInt16) : UInt16 := UInt16.ofNat (w.toNat % 256 * 256 + w.toNat / 256)

/-- `ntohs` swaps them back. -/
def ntohs (w : UInt16) : UInt16 := htons w

/-- The swapped word, with no truncation left. -/
theorem htons_toNat (w : UInt16) :
    (htons w).toNat = w.toNat % 256 * 256 + w.toNat / 256 := by
  have hw : w.toNat < 65536 := UInt16.toNat_lt w
  have hlo : w.toNat % 256 < 256 := Nat.mod_lt _ (by decide)
  have hhi : w.toNat / 256 < 256 := by omega
  rw [htons, UInt16.toNat_ofNat', Nat.mod_eq_of_lt (by omega)]

/-- The low byte moves up. -/
theorem htons_div (w : UInt16) : (htons w).toNat / 256 = w.toNat % 256 := by
  have hw : w.toNat < 65536 := UInt16.toNat_lt w
  have hhi : w.toNat / 256 < 256 := by omega
  rw [htons_toNat]
  omega

/-- The high byte moves down. -/
theorem htons_mod (w : UInt16) : (htons w).toNat % 256 = w.toNat / 256 := by
  have hw : w.toNat < 65536 := UInt16.toNat_lt w
  have hhi : w.toNat / 256 < 256 := by omega
  rw [htons_toNat]
  omega

/-- How a little-endian host lays a 16-bit word out in memory. -/
def storeUInt16 (w : UInt16) : List UInt8 :=
  [UInt8.ofNat (w.toNat % 256), UInt8.ofNat (w.toNat / 256)]

/-- The packed packet structure. -/
structure Qemu1553Packet where
  magic0    : UInt8
  magic1    : UInt8
  mode      : UInt8
  rt        : UInt8
  sa        : UInt8
  wc        : UInt8
  dataWords : Vector UInt16 32
  deriving DecidableEq, Repr

/-- The bytes of the packed structure, as `write` sees them. -/
def Qemu1553Packet.bytes (p : Qemu1553Packet) : List UInt8 :=
  [p.magic0, p.magic1, p.mode, p.rt, p.sa, p.wc] ++ p.dataWords.toList.flatMap storeUInt16

/-- A stored list of words takes two bytes each. -/
theorem length_flatMap_storeUInt16 (ws : List UInt16) :
    (ws.flatMap storeUInt16).length = 2 * ws.length := by
  induction ws with
  | nil => rfl
  | cons w ws ih =>
      rw [List.flatMap_cons, List.length_append, ih, List.length_cons]
      show 2 + 2 * ws.length = 2 * (ws.length + 1)
      omega

/-- A packet is 70 bytes. -/
theorem Qemu1553Packet.length_bytes (p : Qemu1553Packet) : p.bytes.length = 70 := by
  rw [Qemu1553Packet.bytes, List.length_append, length_flatMap_storeUInt16,
    Vector.length_toList]
  rfl

/-- Byte pairs of stored words read back, as memory order, the words. -/
theorem byteAt_flatMap_storeUInt16 (ws : List UInt16) {i : Nat} (h : i < ws.length) :
    byteAt (ws.flatMap storeUInt16) (2 * i) = UInt8.ofNat ((ws.getD i 0).toNat % 256)
      ∧ byteAt (ws.flatMap storeUInt16) (2 * i + 1)
          = UInt8.ofNat ((ws.getD i 0).toNat / 256) := by
  induction ws generalizing i with
  | nil => exact absurd h (Nat.not_lt_zero _)
  | cons w ws ih =>
      cases i with
      | zero => exact ⟨rfl, rfl⟩
      | succ i =>
          have hi : i < ws.length := Nat.lt_of_succ_lt_succ h
          exact ih hi

/-- A word stored in network order reads back through the parser's shifts. -/
theorem payloadWord_store_htons (ws : List UInt16) {i : Nat} (h : i < ws.length) :
    payloadWord ((ws.map htons).flatMap storeUInt16) i = ws.getD i 0 := by
  have hlen : i < (ws.map htons).length := by rw [List.length_map]; exact h
  have hget : (ws.map htons).getD i 0 = htons (ws.getD i 0) := by
    simp only [List.getD_eq_getElem?_getD, List.getElem?_map, List.getElem?_eq_getElem h,
      Option.map_some, Option.getD_some]
  obtain ⟨hhi, hlo⟩ := byteAt_flatMap_storeUInt16 (ws.map htons) hlen
  have hw : (ws.getD i 0).toNat < 65536 := UInt16.toNat_lt _
  -- htons and the host's byte order cancel: the high byte comes first in memory
  rw [payloadWord_eq, hhi, hlo, hget, htons_mod, htons_div]
  apply UInt16.toNat_inj.mp
  rw [UInt8.toNat_ofNat', UInt8.toNat_ofNat', UInt16.toNat_ofNat',
    Nat.mod_eq_of_lt (by omega : (ws.getD i 0).toNat / 256 < 2 ^ 8),
    Nat.mod_eq_of_lt (by omega : (ws.getD i 0).toNat % 256 < 2 ^ 8),
    Nat.mod_eq_of_lt (by omega)]
  omega

/-! ## Reading a packet structure back -/

/-- How a little-endian host reads a 16-bit word from memory. -/
def loadUInt16 (low high : UInt8) : UInt16 := UInt16.ofNat (low.toNat + 256 * high.toNat)

/-- The packed structure over 70 bytes of memory. -/
def Qemu1553Packet.ofBytes (memory : List UInt8) : Qemu1553Packet where
  magic0    := byteAt memory 0
  magic1    := byteAt memory 1
  mode      := byteAt memory 2
  rt        := byteAt memory 3
  sa        := byteAt memory 4
  wc        := byteAt memory 5
  dataWords := Vector.ofFn fun i : Fin 32 =>
    loadUInt16 (byteAt memory (6 + 2 * i.val)) (byteAt memory (6 + (2 * i.val + 1)))

/-- `read(fd, &packet, sizeof(packet))` when it returns these bytes: what they do
    not cover keeps its contents. -/
def Qemu1553Packet.readInto (packet : Qemu1553Packet) (bytes : List UInt8) : Qemu1553Packet :=
  .ofBytes (bytes ++ packet.bytes.drop bytes.length)

theorem loadUInt16_store (w : UInt16) :
    loadUInt16 (UInt8.ofNat (w.toNat % 256)) (UInt8.ofNat (w.toNat / 256)) = w := by
  have hw : w.toNat < 65536 := UInt16.toNat_lt w
  apply UInt16.toNat_inj.mp
  rw [loadUInt16, UInt8.toNat_ofNat', UInt8.toNat_ofNat', UInt16.toNat_ofNat']
  omega

/-- The structure survives the way through memory. -/
theorem Qemu1553Packet.ofBytes_bytes (p : Qemu1553Packet) : ofBytes p.bytes = p := by
  obtain ⟨m0, m1, mode, rt, sa, wc, words⟩ := p
  rw [ofBytes, Qemu1553Packet.mk.injEq]
  refine ⟨rfl, rfl, rfl, rfl, rfl, rfl, ?_⟩
  -- word i is stored in the two bytes from 6 + 2 i on
  refine Vector.ext fun i hi => ?_
  have hlen : i < words.toList.length := by rw [Vector.length_toList]; exact hi
  obtain ⟨hlow, hhigh⟩ := byteAt_flatMap_storeUInt16 words.toList hlen
  have hword : words.toList.getD i 0 = words[i] := by
    rw [List.getD_eq_getElem?_getD, List.getElem?_eq_getElem hlen, Option.getD_some]
    rfl
  rw [Vector.getElem_ofFn, Qemu1553Packet.bytes]
  show loadUInt16 (byteAt ([m0, m1, mode, rt, sa, wc] ++ _) ([m0, m1, mode, rt, sa, wc].length + _))
    (byteAt ([m0, m1, mode, rt, sa, wc] ++ _) ([m0, m1, mode, rt, sa, wc].length + _)) = words[i]
  rw [byteAt_append_right, byteAt_append_right, hlow, hhigh, hword, loadUInt16_store]

/-- A whole packet replaces all of the structure. -/
theorem Qemu1553Packet.readInto_bytes (old p : Qemu1553Packet) : old.readInto p.bytes = p := by
  have hnil : old.bytes.drop p.bytes.length = [] := by
    rw [p.length_bytes, ← old.length_bytes, List.drop_length]
  rw [readInto, hnil, List.append_nil, ofBytes_bytes]

end TcpWire
