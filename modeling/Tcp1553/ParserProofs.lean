import Tcp1553.ScannerProofs
import Tcp1553.WireFormatProofs

/-! # The stream parser

    `parseStep` is one pass of the `while` body of `ProtocolParser::parseStream`:
    skip a byte that is not the sync pattern, wait for a full frame, resync on a
    bad mode, or decode and remove a frame.  The loop itself is the drain loop of
    `StreamScanner`; the parser is a scanner because each of the four decisions
    reads only bytes that are already there.

    * `parseStep_frame`, `parseStep_warn`, `parseStep_wait` say once what a pass
      can do, in terms of `FrameAt`;
    * `parserScanner` packages them with the stability proof;
    * `ProtocolParser` carries the invariant that the loop has run to its end;
    * `parseChunks_flatten`: how the stream is cut does not matter. -/

namespace TcpParser

open TcpWire StreamScanner

/-- What the loop reports: a log line or a call of `onMessageDecoded`. -/
inductive ParserEvent where
  | warn (text : String)
  | messageDecoded (trans : MessageTransaction)
  deriving DecidableEq, Repr

/-- Bytes the loop erases along with an event. -/
def eventWidth : ParserEvent → Nat
  | .warn _ => 1
  | .messageDecoded _ => kTcp1553PacketBytes

/-- `"0123456789ABCDEF"[n]`. -/
def hexDigit (n : Nat) : Char :=
  ['0', '1', '2', '3', '4', '5', '6', '7', '8', '9', 'A', 'B', 'C', 'D', 'E', 'F'].getD n '0'

/-- A byte as the log prints it. -/
def hexByte (b : UInt8) : String :=
  String.singleton (hexDigit (b.toNat >>> 4)) ++ String.singleton (hexDigit (b.toNat &&& 0x0F))

/-- Decode the full frame at the front of the accumulator. -/
def decodeFrame (acc : List UInt8) : MessageTransaction :=
  let mode := byteAt acc 2
  let rt := byteAt acc 3
  let sa := byteAt acc 4
  let wc := byteAt acc 5
  let tr := mode == 0x01
  { ({} : MessageTransaction).clear with
    cmd1 := commandWord rt tr sa wc
    bus1 := 'A'
    cmd1Valid := true
    dataWords := payloadWords (acc.drop 6) (meaningfulWords wc)
    stat1 := 0
    stat1Valid := false }

/-- One pass of the `while` body; `none` is the loop condition failing or the
    `break` that waits for more bytes. -/
def parseStep (acc : List UInt8) : Option ParserEvent :=
  if acc.length < 6 then none
  -- resync: skip one byte
  else if byteAt acc 0 ≠ 0xAA ∨ byteAt acc 1 ≠ 0x55 then
    some (.warn ("ProtocolParser: Skipping bad magic byte: 0x" ++ hexByte (byteAt acc 0)))
  -- wait for the rest of the frame
  else if acc.length < kTcp1553PacketBytes then none
  -- an unknown mode costs one byte, not the frame
  else if byteAt acc 2 ≠ 0x00 ∧ byteAt acc 2 ≠ 0x01 then
    some (.warn ("ProtocolParser: Invalid mode 0x" ++ hexByte (byteAt acc 2) ++ ", resyncing."))
  else some (.messageDecoded (decodeFrame acc))

/-! ## What one pass can do -/

/-- The sync pattern is at the front. -/
def SyncAt (acc : List UInt8) : Prop := byteAt acc 0 = 0xAA ∧ byteAt acc 1 = 0x55

/-- A complete frame with a known mode is at the front. -/
def FrameAt (acc : List UInt8) : Prop :=
  70 ≤ acc.length ∧ SyncAt acc ∧ (byteAt acc 2 = 0x00 ∨ byteAt acc 2 = 0x01)

instance (acc : List UInt8) : Decidable (SyncAt acc) := inferInstanceAs (Decidable (_ ∧ _))

instance (acc : List UInt8) : Decidable (FrameAt acc) := inferInstanceAs (Decidable (_ ∧ _))

/-- A frame at the front is decoded. -/
theorem parseStep_frame {acc : List UInt8} (h : FrameAt acc) :
    parseStep acc = some (.messageDecoded (decodeFrame acc)) := by
  obtain ⟨hlen, ⟨h0, h1⟩, hmode⟩ := h
  have hbad : ¬(byteAt acc 2 ≠ 0x00 ∧ byteAt acc 2 ≠ 0x01) := by
    rintro ⟨ha, hb⟩
    exact hmode.elim ha hb
  rw [parseStep, if_neg (by omega), if_neg (by simp [h0, h1]), if_neg (by simp; omega),
    if_neg hbad]

/-- Nothing else is decoded. -/
theorem frameAt_of_decoded {acc : List UInt8} {t : MessageTransaction}
    (h : parseStep acc = some (.messageDecoded t)) : FrameAt acc ∧ t = decodeFrame acc := by
  unfold parseStep at h
  split at h
  · cases h
  · split at h
    · cases Option.some.inj h
    · rename_i hsync
      split at h
      · cases h
      · rename_i hlen
        split at h
        · cases Option.some.inj h
        · rename_i hmode
          have ht := ParserEvent.messageDecoded.inj (Option.some.inj h)
          rw [not_or, not_not, not_not] at hsync
          rw [kTcp1553PacketBytes_eq] at hlen
          refine ⟨⟨by omega, hsync, ?_⟩, ht.symm⟩
          by_cases hm : byteAt acc 2 = 0x00
          · exact Or.inl hm
          · exact Or.inr (by_contra fun hm' => hmode ⟨hm, hm'⟩)

/-- A pass that skips a byte has seen that no frame starts there. -/
theorem parseStep_warn {acc : List UInt8} {w : String}
    (h : parseStep acc = some (.warn w)) : 6 ≤ acc.length ∧ ¬FrameAt acc := by
  refine ⟨?_, ?_⟩
  · unfold parseStep at h
    split at h
    · cases h
    · omega
  · intro hf
    rw [parseStep_frame hf] at h
    cases Option.some.inj h

/-- A pass that waits holds a short tail or the start of a frame. -/
theorem parseStep_wait {acc : List UInt8} (h : parseStep acc = none) :
    acc.length < 6 ∨ (SyncAt acc ∧ acc.length < 70) := by
  unfold parseStep at h
  split at h
  · exact Or.inl (by assumption)
  · split at h
    · cases h
    · rename_i hsync
      split at h
      · rw [not_or, not_not, not_not] at hsync
        exact Or.inr ⟨hsync, by assumption⟩
      · split at h
        · cases h
        · cases h

/-- Without the sync pattern, a pass over six bytes skips one. -/
theorem parseStep_skip {acc : List UInt8} (hlen : 6 ≤ acc.length) (hsync : ¬SyncAt acc) :
    ∃ w, parseStep acc = some (.warn w) := by
  have hbad : byteAt acc 0 ≠ 0xAA ∨ byteAt acc 1 ≠ 0x55 := by
    by_cases h0 : byteAt acc 0 = 0xAA
    · exact Or.inr fun h1 => hsync ⟨h0, h1⟩
    · exact Or.inl h0
  rw [parseStep, if_neg (by omega), if_pos hbad]
  exact ⟨_, rfl⟩

/-! ## The parser is a scanner -/

/-- More bytes do not undo a frame. -/
theorem FrameAt.append {acc : List UInt8} (h : FrameAt acc) (more : List UInt8) :
    FrameAt (acc ++ more) := by
  obtain ⟨hlen, ⟨h0, h1⟩, hmode⟩ := h
  refine ⟨?_, ⟨?_, ?_⟩, ?_⟩
  · rw [List.length_append]
    omega
  · rw [byteAt_append (by omega)]; exact h0
  · rw [byteAt_append (by omega)]; exact h1
  · rw [byteAt_append (by omega)]; exact hmode

/-- A payload word is read from the frame itself. -/
theorem payloadWord_append {payload : List UInt8} {i : Nat} (h : 2 * i + 1 < payload.length)
    (more : List UInt8) : payloadWord (payload ++ more) i = payloadWord payload i := by
  simp only [payloadWord]
  rw [byteAt_append (by omega), byteAt_append (by omega)]

/-- The payload loop reads the frame itself. -/
theorem payloadWords_append {payload : List UInt8} {n : Nat} (h : 2 * n ≤ payload.length)
    (more : List UInt8) : payloadWords (payload ++ more) n = payloadWords payload n := by
  refine List.map_congr_left ?_
  intro i hi
  have hin : i < n := List.mem_range.mp hi
  exact payloadWord_append (by omega) more

/-- Decoding reads the 70 bytes of the frame and nothing behind them. -/
theorem decodeFrame_append {acc : List UInt8} (h : 70 ≤ acc.length) (more : List UInt8) :
    decodeFrame (acc ++ more) = decodeFrame acc := by
  have hwords : 2 * meaningfulWords (byteAt acc 5) ≤ (acc.drop 6).length := by
    have := meaningfulWords_le (byteAt acc 5)
    rw [List.length_drop]
    omega
  have hdrop : (acc ++ more).drop 6 = acc.drop 6 ++ more :=
    List.drop_append_of_le_length (by omega)
  simp only [decodeFrame, hdrop]
  rw [byteAt_append (by omega), byteAt_append (by omega), byteAt_append (by omega),
    byteAt_append (by omega), payloadWords_append hwords]

/-- **No decision depends on what has not arrived.** -/
theorem parseStep_stable {acc : List UInt8} {e : ParserEvent} (more : List UInt8)
    (h : parseStep acc = some e) : parseStep (acc ++ more) = some e := by
  cases e with
  | messageDecoded t =>
      obtain ⟨hf, ht⟩ := frameAt_of_decoded h
      rw [parseStep_frame (hf.append more), decodeFrame_append hf.1, ht]
  | warn w =>
      obtain ⟨hlen, -⟩ := parseStep_warn h
      have hlen' : ¬(acc ++ more).length < 6 := by
        rw [List.length_append]
        omega
      -- the bytes a warning was decided on are still at the front
      have b0 := byteAt_append (show 0 < acc.length by omega) more
      have b1 := byteAt_append (show 1 < acc.length by omega) more
      have b2 := byteAt_append (show 2 < acc.length by omega) more
      rw [parseStep, if_neg (by omega)] at h
      rw [parseStep, if_neg hlen', b0, b1, b2]
      by_cases hsync : byteAt acc 0 ≠ 0xAA ∨ byteAt acc 1 ≠ 0x55
      · rw [if_pos hsync] at h ⊢
        exact h
      · rw [if_neg hsync] at h ⊢
        by_cases hshort : acc.length < kTcp1553PacketBytes
        · rw [if_pos hshort] at h
          cases h
        · rw [if_neg hshort] at h
          rw [if_neg (by rw [List.length_append]; omega)]
          by_cases hmode : byteAt acc 2 ≠ 0x00 ∧ byteAt acc 2 ≠ 0x01
          · rw [if_pos hmode] at h ⊢
            exact h
          · rw [if_neg hmode] at h
            cases Option.some.inj h

/-- Every pass erases at least one byte. -/
theorem eventWidth_pos (e : ParserEvent) : 0 < eventWidth e := by
  cases e with
  | warn w => exact Nat.one_pos
  | messageDecoded t =>
      show 0 < kTcp1553PacketBytes
      decide

/-- No pass erases more than is buffered. -/
theorem eventWidth_le {acc : List UInt8} {e : ParserEvent} (h : parseStep acc = some e) :
    eventWidth e ≤ acc.length := by
  cases e with
  | warn w =>
      have := (parseStep_warn h).1
      show 1 ≤ acc.length
      omega
  | messageDecoded t => exact (frameAt_of_decoded h).1.1

/-- The `while` body with its cost and the proof that it never looks ahead. -/
def parserScanner : Scanner UInt8 ParserEvent where
  next      := parseStep
  width     := eventWidth
  width_pos := fun {_ e} _ => eventWidth_pos e
  width_le  := eventWidth_le
  stable    := parseStep_stable

/-! ## The parser object -/

/-- The accumulator between two calls: the loop has run to its end on it. -/
structure ProtocolParser where
  accumulator : List UInt8
  settled     : Settled parserScanner accumulator

@[ext] theorem ProtocolParser.ext {p q : ProtocolParser}
    (h : p.accumulator = q.accumulator) : p = q := by
  cases p; cases q; cases h; rfl

/-- A new parser, and a parser after `reset`. -/
def ProtocolParser.reset : ProtocolParser := ⟨[], rfl⟩

/-- `parseStream`: append the new bytes, then run the loop. -/
def ProtocolParser.parseStream (p : ProtocolParser) (buffer : List UInt8) :
    List ParserEvent × ProtocolParser :=
  let r := feed parserScanner p.accumulator buffer
  (r.1, ⟨r.2, feed_settled parserScanner p.accumulator buffer⟩)

/-- The transactions handed to the callback, in order. -/
def transactions : List ParserEvent → List MessageTransaction
  | [] => []
  | .warn _ :: es => transactions es
  | .messageDecoded t :: es => t :: transactions es

/-- Callback order follows event order. -/
theorem transactions_append (es fs : List ParserEvent) :
    transactions (es ++ fs) = transactions es ++ transactions fs := by
  induction es with
  | nil => rfl
  | cons e es ih =>
      cases e with
      | warn w => exact ih
      | messageDecoded t => exact congrArg (t :: ·) ih

/-- One `parseStream` call per chunk. -/
def ProtocolParser.parseChunks (p : ProtocolParser) :
    List (List UInt8) → List ParserEvent × ProtocolParser
  | [] => ([], p)
  | c :: cs =>
      let r := p.parseStream c
      let r' := r.2.parseChunks cs
      (r.1 ++ r'.1, r'.2)

/-- Chunk by chunk is a sequence of arrivals. -/
theorem parseChunks_feedAll (p : ProtocolParser) (chunks : List (List UInt8)) :
    ((p.parseChunks chunks).1, (p.parseChunks chunks).2.accumulator)
      = feedAll parserScanner p.accumulator chunks := by
  induction chunks generalizing p with
  | nil => rfl
  | cons c cs ih =>
      have hrec := ih (p.parseStream c).2
      have h1 := congrArg Prod.fst hrec
      have h2 := congrArg Prod.snd hrec
      show ((p.parseStream c).1 ++ ((p.parseStream c).2.parseChunks cs).1,
        ((p.parseStream c).2.parseChunks cs).2.accumulator) = _
      rw [show ((p.parseStream c).2.parseChunks cs).1 = _ from h1,
        show ((p.parseStream c).2.parseChunks cs).2.accumulator = _ from h2]
      rfl

/-- The object says nothing about a parser beyond what some call leaves. -/
theorem parser_reachable (p : ProtocolParser) :
    (ProtocolParser.reset.parseStream p.accumulator).2 = p := by
  apply ProtocolParser.ext
  show (scan parserScanner ([] ++ p.accumulator)).2 = p.accumulator
  rw [List.nil_append, scan_none parserScanner p.settled]

/-- Cutting the stream changes neither the events nor the parser. -/
theorem parseChunks_flatten (p : ProtocolParser) (chunks : List (List UInt8)) :
    p.parseChunks chunks = p.parseStream chunks.flatten := by
  have h := (parseChunks_feedAll p chunks).trans
    (feedAll_flatten parserScanner chunks p.settled)
  have hev := congrArg Prod.fst h
  have hacc := congrArg Prod.snd h
  exact Prod.ext hev (ProtocolParser.ext hacc)

/-- Two calls are one call on both buffers. -/
theorem parseStream_append (p : ProtocolParser) (xs ys : List UInt8) :
    p.parseStream (xs ++ ys)
      = ((p.parseStream xs).1 ++ ((p.parseStream xs).2.parseStream ys).1,
          ((p.parseStream xs).2.parseStream ys).2) := by
  have h := parseChunks_flatten p [xs, ys]
  rw [List.flatten_cons, List.flatten_singleton] at h
  rw [← h]
  simp only [ProtocolParser.parseChunks, List.append_nil]

/-- A call without bytes does nothing. -/
theorem parseStream_nil (p : ProtocolParser) : p.parseStream [] = ([], p) :=
  (parseChunks_flatten p []).symm

/-- Bytes leave a trace: a transaction, or a rest in the accumulator. -/
theorem scan_trace {xs : List UInt8} (h : xs ≠ []) :
    transactions (scan parserScanner xs).1 ≠ [] ∨ (scan parserScanner xs).2 ≠ [] := by
  induction xs using scan_induction parserScanner with
  | hstop xs hnone =>
      rw [scan_none parserScanner hnone]
      exact Or.inr h
  | hstep xs e hsome ih =>
      rw [scan_some parserScanner hsome]
      cases e with
      | messageDecoded t => exact Or.inl (List.cons_ne_nil _ _)
      | warn w =>
          -- one byte of at least six is skipped
          refine ih ?_
          have hlen := (parseStep_warn hsome).1
          have hrest : (xs.drop 1).length = xs.length - 1 := List.length_drop
          show xs.drop 1 ≠ []
          intro hnil
          rw [hnil, List.length_nil] at hrest
          omega

/-- Every transaction is the decoding of a frame. -/
theorem mem_transactions_scan {xs : List UInt8} {t : MessageTransaction}
    (h : t ∈ transactions (scan parserScanner xs).1) : ∃ frame, FrameAt frame ∧ t = decodeFrame frame := by
  induction xs using scan_induction parserScanner with
  | hstop xs hnone =>
      rw [scan_none parserScanner hnone] at h
      cases h
  | hstep xs e hsome ih =>
      rw [scan_some parserScanner hsome] at h
      cases e with
      | warn w => exact ih h
      | messageDecoded t' =>
          rcases List.mem_cons.mp h with rfl | hlater
          · exact ⟨xs, frameAt_of_decoded hsome⟩
          · exact ih hlater

/-- **Chunking invariance of the parser.**  From any accumulator earlier calls
    can leave, any cut of the stream emits the same transactions in the same
    order and leaves the same accumulator as one call on the whole. -/
theorem parseStream_chunking (p : ProtocolParser) (chunks : List (List UInt8)) :
    transactions (p.parseChunks chunks).1 = transactions (p.parseStream chunks.flatten).1 ∧
      (p.parseChunks chunks).2.accumulator
        = (p.parseStream chunks.flatten).2.accumulator := by
  rw [parseChunks_flatten]
  exact ⟨rfl, rfl⟩

end TcpParser
