import Tcp1553.ControllerProofs
import Tcp1553.HeaderProofs

/-! # The two decoders of the wire format

    The controller reads a reply into the packed structure and converts its words
    with `ntohs`; the monitor's parser scans the bytes.  `storeResponse_payload` is
    what they have in common: the words stored at the front of `receivedData` are
    the words the parser decodes.  `decodersAgree_iff` is what sets them apart: the
    controller looks at the length of a reply only, the parser also at its sync
    pattern and mode. -/

namespace TcpController

open TcpWire TcpParser TcpFraming TcpHeader TcpEncoder StreamScanner

/-- A word read from memory and swapped is big-endian. -/
theorem ntohs_loadUInt16 (high low : UInt8) :
    ntohs (loadUInt16 high low) = UInt16.ofNat (256 * high.toNat + low.toNat) := by
  have hhigh : high.toNat < 256 := UInt8.toNat_lt high
  have hlow : low.toNat < 256 := UInt8.toNat_lt low
  have hload : (loadUInt16 high low).toNat = high.toNat + 256 * low.toNat := by
    rw [loadUInt16, UInt16.toNat_ofNat', Nat.mod_eq_of_lt (by omega)]
  apply UInt16.toNat_inj.mp
  rw [ntohs, htons_toNat, hload, UInt16.toNat_ofNat',
    Nat.mod_eq_of_lt (by omega : 256 * high.toNat + low.toNat < 2 ^ 16)]
  omega

/-- A word of the structure is a word of the parser's payload. -/
theorem ntohs_dataWords (memory : List UInt8) {i : Nat} (hi : i < 32) :
    ntohs ((Qemu1553Packet.ofBytes memory).dataWords[i]) = payloadWord (memory.drop 6) i := by
  show ntohs ((Vector.ofFn fun i : Fin 32 =>
    loadUInt16 (byteAt memory (6 + 2 * i.val)) (byteAt memory (6 + (2 * i.val + 1))))[i]) = _
  rw [Vector.getElem_ofFn, ntohs_loadUInt16, payloadWord_eq, byteAt_drop, byteAt_drop]

/-- Seventy bytes fill the structure. -/
theorem readInto_full (packet : Qemu1553Packet) {bytes : List UInt8} (h : bytes.length = 70) :
    packet.readInto bytes = .ofBytes bytes := by
  have hnil : packet.bytes.drop bytes.length = [] := by
    rw [h, ← packet.length_bytes, List.drop_length]
  rw [Qemu1553Packet.readInto, hnil, List.append_nil]

/-- Both decoders take the same number of words from a header. -/
theorem lt_meaningfulWords_iff (wc : UInt8) {i : Nat} (hi : i < 32) :
    i < meaningfulWords wc ↔ i < if wc = 0 then 32 else wc.toNat := by
  rw [meaningfulWords]
  by_cases h0 : wc = 0
  · rw [if_pos h0, if_pos h0]
  · rw [if_neg h0, if_neg h0]
    by_cases hbig : wc.toNat > 32
    · rw [if_pos hbig]
      omega
    · rw [if_neg hbig]

/-- A stored word: the parser's, or the one that was there. -/
theorem getElem_storeResponse (memory : List UInt8) (receivedData : Vector UInt16 32) {i : Nat}
    (hi : i < 32) :
    (storeResponse (.ofBytes memory) receivedData)[i]
      = if i < meaningfulWords (byteAt memory 5) then payloadWord (memory.drop 6) i
        else receivedData[i] := by
  have hcount := lt_meaningfulWords_iff (byteAt memory 5) hi
  rw [storeResponse, Vector.getElem_ofFn]
  by_cases hlt : i < meaningfulWords (byteAt memory 5)
  · rw [if_pos hlt, ← ntohs_dataWords memory hi]
    exact if_pos (hcount.mp hlt)
  · rw [if_neg hlt]
    exact if_neg fun h => hlt (hcount.mpr h)

/-- **What the controller stores**: the parser's words, in front of what was there. -/
theorem storeResponse_payload (memory : List UInt8) (receivedData : Vector UInt16 32) :
    (storeResponse (.ofBytes memory) receivedData).toList
      = (decodeFrame memory).dataWords
          ++ receivedData.toList.drop (decodeFrame memory).dataWords.length := by
  have hdecoded : (decodeFrame memory).dataWords
      = payloadWords (memory.drop 6) (meaningfulWords (byteAt memory 5)) := rfl
  have hle := meaningfulWords_le (byteAt memory 5)
  have hwords := length_payloadWords (memory.drop 6) (meaningfulWords (byteAt memory 5))
  rw [hdecoded]
  refine List.ext_getElem ?_ ?_
  · rw [List.length_append, hwords, List.length_drop, Vector.length_toList, Vector.length_toList]
    omega
  · intro i hi hi'
    rw [Vector.length_toList] at hi
    rw [Vector.getElem_toList, getElem_storeResponse memory receivedData hi]
    by_cases hlt : i < meaningfulWords (byteAt memory 5)
    · rw [if_pos hlt, List.getElem_append_left (by omega), getElem_payloadWords]
    · rw [if_neg hlt, List.getElem_append_right (by omega), List.getElem_drop,
        Vector.getElem_toList]
      congr 1
      omega

/-- Of 70 bytes the parser decodes a frame at their front, or nothing. -/
theorem transactions_of_length_70 {r : List UInt8} (hlen : r.length = 70) :
    transactions (ProtocolParser.reset.parseStream r).1
      = if FrameAt r then [decodeFrame r] else [] := by
  by_cases hf : FrameAt r
  · rw [if_pos hf]
    exact transactions_isFrame ⟨hlen, hf⟩
  · rw [if_neg hf]
    have hdecoded := transactions_fired r
    -- there is room for a frame at offset 0 only
    have hnone : firedOffsets 0 (scan parserScanner r).1 = [] := by
      refine List.eq_nil_iff_forall_not_mem.mpr fun o ho => hf ?_
      have hvalid := ((mem_firedOffsets_iff r o).mp ho).1
      obtain rfl : o = 0 := by
        have := hvalid.1
        omega
      exact validOffset_iff.mp hvalid
    rw [hnone] at hdecoded
    exact List.forall₂_nil_left_iff.mp hdecoded

/-- The controller accepts the reply exactly when the parser decodes one
    transaction from it, and then stores the words of that transaction. -/
structure DecodersAgree (response : Qemu1553Packet) (receivedData : Vector UInt16 32)
    (r : List UInt8) : Prop where
  accepts : (endSend response receivedData (some r)).1 = 0 ↔
    ∃ trans, transactions (ProtocolParser.reset.parseStream r).1 = [trans]
  stores  : ∀ trans, transactions (ProtocolParser.reset.parseStream r).1 = [trans] →
    (endSend response receivedData (some r)).2.toList
      = trans.dataWords ++ receivedData.toList.drop trans.dataWords.length

/-- **When the decoders agree** on a reply read in full: when it starts with the
    sync pattern and a known mode. -/
theorem decodersAgree_iff {r : List UInt8} (hlen : r.length = 70) (response : Qemu1553Packet)
    (receivedData : Vector UInt16 32) :
    DecodersAgree response receivedData r ↔
      byteAt r 0 = 0xAA ∧ byteAt r 1 = 0x55 ∧ (byteAt r 2 = 0x00 ∨ byteAt r 2 = 0x01) := by
  have hframe : FrameAt r ↔
      byteAt r 0 = 0xAA ∧ byteAt r 1 = 0x55 ∧ (byteAt r 2 = 0x00 ∨ byteAt r 2 = 0x01) :=
    ⟨fun h => ⟨h.2.1.1, h.2.1.2, h.2.2⟩, fun h => ⟨by omega, ⟨h.1, h.2.1⟩, h.2.2⟩⟩
  have hend : endSend response receivedData (some r)
      = (0, storeResponse (.ofBytes r) receivedData) := by
    rw [endSend]
    show (if 6 ≤ r.length then _ else _) = _
    rw [if_pos (by omega), readInto_full response hlen]
  have htrans := transactions_of_length_70 hlen
  rw [← hframe]
  constructor
  · intro h
    by_contra hbad
    rw [if_neg hbad] at htrans
    obtain ⟨trans, hone⟩ := h.accepts.mp (by rw [hend])
    rw [htrans] at hone
    cases hone
  · intro hf
    rw [if_pos hf] at htrans
    refine ⟨⟨fun _ => ⟨_, htrans⟩, fun _ => by rw [hend]⟩, fun trans hone => ?_⟩
    obtain rfl : decodeFrame r = trans := (List.cons.inj (htrans.symm.trans hone)).1
    rw [hend]
    exact storeResponse_payload r receivedData

/-- The controller's own packet, sent back, is decoded alike. -/
theorem decodersAgree_iff_echo :
    DecodersAgree (framePacket syncFrame) (Vector.replicate 32 0) (packetBytes syncFrame) ↔
      byteAt (packetBytes syncFrame) 0 = 0xAA ∧ byteAt (packetBytes syncFrame) 1 = 0x55 ∧
        (byteAt (packetBytes syncFrame) 2 = 0x00 ∨ byteAt (packetBytes syncFrame) 2 = 0x01) :=
  decodersAgree_iff (length_packetBytes syncFrame) (framePacket syncFrame) (Vector.replicate 32 0)

/-- Seventy zeros are a reply for the controller and nothing for the parser. -/
theorem zeros_accepted_as_reply :
    ¬∀ response receivedData r, r.length = 70 → DecodersAgree response receivedData r := by
  intro hall
  have hlen : (List.replicate 70 (0 : UInt8)).length = 70 := List.length_replicate
  have h := hall (framePacket syncFrame) (Vector.replicate 32 0) _ hlen
  obtain ⟨trans, hone⟩ := h.accepts.mp rfl
  rw [transactions_of_length_70 hlen, if_neg (by decide)] at hone
  cases hone

end TcpController
