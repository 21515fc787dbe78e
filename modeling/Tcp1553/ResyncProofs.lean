import Tcp1553.CaptureProofs
import Tcp1553.FramingProofs

/-! # Finding the frames again

    A capture can start in the middle of a packet, and a stream can be damaged.
    What stands before the first whole packet is arbitrary then, and a false
    header in it may swallow the beginning of that packet.

    `resynchronises` bounds the damage: a window that starts in front of the
    packets ends inside the first of them, the rest of which holds no sync pattern
    and is skipped byte by byte, so that from the second packet on every packet is
    decoded. -/

namespace TcpFraming

open TcpWire TcpParser TcpCapture StreamScanner

/-- The sync pattern occurs in the packet only at its front. -/
def SyncOnlyInFront (packet : List UInt8) : Prop :=
  ∀ k : Nat, packet[k]? = some 0xAA → packet[k + 1]? = some 0x55 → k = 0

/-- The transaction is decoded from a window of the stream that starts among the
    first `n` bytes. -/
def FromWindow (stream : List UInt8) (n : Nat) (trans : MessageTransaction) : Prop :=
  ∃ o, o < n ∧ ValidOffset stream o ∧ trans = decodeFrame (stream.drop o)

/-- A window of a later part of the stream is a window of the stream. -/
theorem FromWindow.of_drop {stream : List UInt8} {w n : Nat} {trans : MessageTransaction}
    (h : FromWindow (stream.drop w) (n - w) trans) : FromWindow stream n trans := by
  obtain ⟨o, ho, hvalid, htrans⟩ := h
  rw [List.drop_drop] at htrans
  rw [validOffset_iff, List.drop_drop] at hvalid
  exact ⟨w + o, by omega, validOffset_iff.mpr hvalid, htrans⟩

/-- Two neighbouring bytes of a list are an infix of it. -/
theorem infix_of_getElem? {bytes : List UInt8} {a b : UInt8} {k : Nat}
    (ha : bytes[k]? = some a) (hb : bytes[k + 1]? = some b) : [a, b] <:+: bytes := by
  obtain ⟨hk, rfl⟩ := List.getElem?_eq_some_iff.mp ha
  obtain ⟨hk', rfl⟩ := List.getElem?_eq_some_iff.mp hb
  refine ⟨bytes.take k, bytes.drop (k + 1 + 1), ?_⟩
  rw [List.append_assoc, List.cons_append, List.cons_append, List.nil_append,
    ← List.drop_eq_getElem_cons hk', ← List.drop_eq_getElem_cons hk, List.take_append_drop]

/-- An infix of two bytes stands at neighbouring places. -/
theorem getElem?_of_infix {bytes : List UInt8} {a b : UInt8} (h : [a, b] <:+: bytes) :
    ∃ k : Nat, bytes[k]? = some a ∧ bytes[k + 1]? = some b := by
  obtain ⟨front, rest, rfl⟩ := h
  have hget : ∀ i, (front ++ [a, b] ++ rest)[front.length + i]? = ([a, b] ++ rest)[i]? := by
    intro i
    rw [List.append_assoc, List.getElem?_append_right (Nat.le_add_right _ _),
      Nat.add_sub_cancel_left]
  exact ⟨front.length, hget 0, hget 1⟩

/-- Behind its first byte such a packet holds no sync pattern. -/
theorem syncOnlyInFront_iff {packet : List UInt8} :
    SyncOnlyInFront packet ↔ NoSync (packet.drop 1) := by
  constructor
  · intro h hin
    obtain ⟨k, h0, h1⟩ := getElem?_of_infix hin
    rw [List.getElem?_drop] at h0 h1
    have hfront := h (1 + k) h0 h1
    omega
  · intro h k h0 h1
    cases k with
    | zero => rfl
    | succ k =>
        have hin : [0xAA, 0x55] <:+: packet.drop 1 := by
          refine infix_of_getElem? (k := k) ?_ ?_
          · rw [List.getElem?_drop, Nat.add_comm]
            exact h0
          · rw [List.getElem?_drop, Nat.add_comm]
            exact h1
        exact absurd hin h

instance (packet : List UInt8) : Decidable (SyncOnlyInFront packet) :=
  decidable_of_iff _ syncOnlyInFront_iff.symm

/-- What a window leaves of a packet holds no sync pattern. -/
theorem SyncOnlyInFront.noSync_drop {packet : List UInt8} (h : SyncOnlyInFront packet) {k : Nat}
    (hk : 0 < k) : NoSync (packet.drop k) := by
  have hbehind := (syncOnlyInFront_iff.mp h).drop (k - 1)
  rw [List.drop_drop, Nat.add_sub_cancel' hk] at hbehind
  exact hbehind

theorem transactions_frames (packets : List (List UInt8)) :
    transactions (packets.map fun p => .messageDecoded (decodeFrame p))
      = packets.map decodeFrame := by
  rw [← transactions_map_decoded (packets.map decodeFrame), List.map_map]
  rfl

/-- The end of a packet, cut by a window, in front of whole packets. -/
theorem scan_cut_packet {tail : List UInt8} (htail : NoSync tail) {packets : List (List UInt8)}
    (hframes : ∀ p ∈ packets, IsFrame p) :
    transactions (scan parserScanner (tail ++ packets.flatten)).1 = packets.map decodeFrame ∧
      (packets ≠ [] → (scan parserScanner (tail ++ packets.flatten)).2 = []) := by
  cases packets with
  | nil =>
      rw [List.flatten_nil, List.append_nil]
      exact ⟨scan_junk tail htail, fun h => absurd rfl h⟩
  | cons p ps =>
      obtain ⟨hlen, hf⟩ := hframes p List.mem_cons_self
      have hps := scan_frames ps fun q hq => hframes q (List.mem_cons_of_mem _ hq)
      obtain ⟨hevents, hrest⟩ := scan_junk_frame hlen hf ps.flatten tail htail
      rw [List.flatten_cons, ← List.append_assoc, hevents, hrest, hps, transactions_frames]
      exact ⟨rfl, fun _ => rfl⟩

/-- What the drain of such a stream emits: `before`, then the packets behind the
    first. -/
structure Resynced (stream : List UInt8) (n : Nat) (first : List UInt8)
    (packets : List (List UInt8)) (before : List MessageTransaction) : Prop where
  emitted : transactions (scan parserScanner stream).1 = before ++ packets.map decodeFrame
  early   : ∀ trans ∈ before, FromWindow stream n trans ∨ trans = decodeFrame first
  empty   : packets ≠ [] → (scan parserScanner stream).2 = []

/-- One pass of the loop in front of the packets. -/
theorem Resynced.of_step {stream first : List UInt8} {packets : List (List UInt8)} {n : Nat}
    {e : ParserEvent} {before : List MessageTransaction}
    (hnext : parserScanner.next stream = some e) (hn : 0 < n)
    (h : Resynced (stream.drop (parserScanner.width e)) (n - parserScanner.width e) first packets
      before) :
    Resynced stream n first packets (transactions [e] ++ before) := by
  have hscan := scan_some parserScanner hnext
  refine ⟨?_, ?_, ?_⟩
  · rw [hscan, List.append_assoc, ← h.emitted, ← transactions_append]
    rfl
  · intro trans hin
    rcases List.mem_append.mp hin with hhead | hlater
    · cases e with
      | warn w => cases hhead
      | messageDecoded t =>
          obtain rfl : trans = t := List.mem_singleton.mp hhead
          obtain ⟨hf, ht⟩ := frameAt_of_decoded hnext
          exact Or.inl ⟨0, hn, validOffset_iff.mpr hf, ht⟩
    · exact (h.early trans hlater).imp_left FromWindow.of_drop
  · intro hne
    rw [hscan]
    exact h.empty hne

/-- Packets with nothing in front of them. -/
theorem resynced_packets {first : List UInt8} {packets : List (List UInt8)} (hfirst : IsFrame first)
    (hframes : ∀ p ∈ packets, IsFrame p) :
    Resynced (first ++ packets.flatten) 0 first packets [decodeFrame first] := by
  have hscan := scan_frames (first :: packets) (List.forall_mem_cons.mpr ⟨hfirst, hframes⟩)
  rw [List.flatten_cons] at hscan
  refine ⟨?_, fun trans hin => Or.inr (List.mem_singleton.mp hin), fun _ => ?_⟩
  · rw [hscan, transactions_frames]
    rfl
  · rw [hscan]

/-- A window that reaches into the first packet hides it. -/
theorem resynced_window {first : List UInt8} {packets : List (List UInt8)} (hfirst : IsFrame first)
    (hsync : SyncOnlyInFront first) (hframes : ∀ p ∈ packets, IsFrame p) {g : List UInt8}
    (hlong : g.length < 70) (m : Nat) :
    Resynced ((g ++ first ++ packets.flatten).drop 70) m first packets [] := by
  have hlen := hfirst.1
  have hdrop : (g ++ first ++ packets.flatten).drop 70
      = first.drop (70 - g.length) ++ packets.flatten := by
    rw [List.append_assoc, List.drop_append, List.drop_of_length_le (Nat.le_of_lt hlong),
      List.nil_append, List.drop_append_of_le_length (by omega)]
  obtain ⟨hemitted, hempty⟩ :=
    scan_cut_packet (hsync.noSync_drop (Nat.sub_pos_of_lt hlong)) hframes
  rw [hdrop]
  exact ⟨hemitted, (fun _ h => by cases h), hempty⟩

/-- The drain of arbitrary bytes followed by packets. -/
theorem scan_resynced {first : List UInt8} {packets : List (List UInt8)} (hfirst : IsFrame first)
    (hsync : SyncOnlyInFront first) (hframes : ∀ p ∈ packets, IsFrame p) (g : List UInt8) :
    ∃ before, Resynced (g ++ first ++ packets.flatten) g.length first packets before := by
  -- induction on what is left in front of the packets
  induction hn : g.length using Nat.strong_induction_on generalizing g with
  | _ n ih =>
      subst hn
      cases g with
      | nil => exact ⟨_, resynced_packets hfirst hframes⟩
      | cons b g =>
          have hpos : 0 < (b :: g).length := Nat.succ_pos _
          have hlong : 70 < (b :: g ++ first ++ packets.flatten).length := by
            have := hfirst.1
            simp only [List.length_append, List.length_cons]
            omega
          cases hnext : parserScanner.next (b :: g ++ first ++ packets.flatten) with
          | none => rcases parseStep_wait hnext with h | ⟨-, h⟩ <;> omega
          | some e =>
              have hwidth := parserScanner.width_pos hnext
              by_cases hin : parserScanner.width e ≤ (b :: g).length
              · -- the pass ends in front of the packets
                have hdrop : (b :: g ++ first ++ packets.flatten).drop (parserScanner.width e)
                    = (b :: g).drop (parserScanner.width e) ++ first ++ packets.flatten := by
                  rw [List.append_assoc, List.drop_append_of_le_length hin, ← List.append_assoc]
                obtain ⟨before, h⟩ := ih _ (Nat.sub_lt hpos hwidth)
                  ((b :: g).drop (parserScanner.width e)) List.length_drop
                exact ⟨_, Resynced.of_step hnext hpos (hdrop ▸ h)⟩
              · have he : parserScanner.width e = 70 := by
                  cases e with
                  | warn w => exact absurd hpos hin
                  | messageDecoded t => rfl
                have hrest := resynced_window hfirst hsync hframes
                  (Nat.lt_of_not_le (he ▸ hin)) ((b :: g).length - parserScanner.width e)
                rw [← he] at hrest
                exact ⟨_, Resynced.of_step hnext hpos hrest⟩

/-- **Self-synchronisation.**  Behind arbitrary bytes every packet from the second
    on is decoded, however the stream is cut; before them come only windows that
    start among those bytes and the first packet. -/
theorem parseChunks_resynchronises (g p : List UInt8) (ps chunks : List (List UInt8))
    (hframes : ∀ q ∈ p :: ps, IsFrame q) (hsync : ∀ q ∈ p :: ps, SyncOnlyInFront q)
    (hcut : chunks.flatten = g ++ (p :: ps).flatten) :
    ∃ before, transactions (ProtocolParser.reset.parseChunks chunks).1
        = before ++ ps.map decodeFrame ∧
      (∀ trans ∈ before,
        FromWindow (g ++ (p :: ps).flatten) g.length trans ∨ trans = decodeFrame p) ∧
      (ps ≠ [] → (ProtocolParser.reset.parseChunks chunks).2.accumulator = []) := by
  obtain ⟨before, h⟩ := scan_resynced (hframes p List.mem_cons_self) (hsync p List.mem_cons_self)
    (fun q hq => hframes q (List.mem_cons_of_mem _ hq)) g
  rw [List.append_assoc, ← List.flatten_cons] at h
  rw [parseChunks_flatten, hcut]
  exact ⟨before, h.emitted, h.early, h.empty⟩

/-- A capture that starts behind a false header: the window swallows all but three
    bytes of the first packet. -/
def lateCapture : List UInt8 :=
  [0xAA, 0x55, 0x01] ++ [samplePacket 0x00 0x00, samplePacket 0x00 0xAA].flatten

/-- The same capture, cut in the middle of the second packet. -/
theorem parseChunks_resynchronises_lateCapture :
    ∃ before, transactions
        (ProtocolParser.reset.parseChunks [lateCapture.take 90, lateCapture.drop 90]).1
        = before ++ [decodeFrame (samplePacket 0x00 0xAA)] ∧
      (∀ trans ∈ before,
        FromWindow lateCapture 3 trans ∨ trans = decodeFrame (samplePacket 0x00 0x00)) ∧
      ([samplePacket 0x00 0xAA] ≠ [] →
        (ProtocolParser.reset.parseChunks
          [lateCapture.take 90, lateCapture.drop 90]).2.accumulator = []) := by
  refine parseChunks_resynchronises [0xAA, 0x55, 0x01] (samplePacket 0x00 0x00)
    [samplePacket 0x00 0xAA] _ (by decide) (by decide +kernel) ?_
  rw [List.flatten_cons, List.flatten_singleton, List.take_append_drop]
  rfl

end TcpFraming
