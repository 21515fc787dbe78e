import Tcp1553.RelayProofs

/-! # The two word counts of a transaction

    `parseStream` takes the number of data words from the whole count byte of a
    packet, with 0 for 32 and nothing above 32.  `formatAndRelayTransaction` prints
    the count it finds in the command word, where only five bits of that byte are
    left.  `decodeFrame_counts_iff` compares the two rules on one packet and
    `counts_agree_iff` on a stream. -/

namespace TcpRelay

open TcpWire TcpParser TcpFraming StreamScanner

/-- The count the text of a transaction shows. -/
def actualWc (trans : MessageTransaction) : Nat :=
  if wcField trans.cmd1 = 0 then 32 else wcField trans.cmd1

/-- It stands behind `WC:`. -/
theorem headerText_actualWc (trans : MessageTransaction) :
    headerText trans
      = "Bus: " ++ String.singleton trans.bus1 ++ " Type: "
          ++ (if trField trans.cmd1 ≠ 0 then "RT to BC" else "BC to RT")
          ++ " RT: " ++ toString (rtField trans.cmd1) ++ " SA: " ++ toString (saField trans.cmd1)
          ++ " WC: " ++ toString (actualWc trans) ++ " Header: AA 55\n" := rfl

/-- Count bytes that are in range, or lose nothing when cut to five bits. -/
def CountAgrees (wc : UInt8) : Prop := wc.toNat ≤ 32 ∨ wc.toNat % 32 = 0

instance (wc : UInt8) : Decidable (CountAgrees wc) := inferInstanceAs (Decidable (_ ∨ _))

/-- The clamped count and the masked one. -/
theorem meaningfulWords_eq_masked_iff (wc : UInt8) :
    meaningfulWords wc = (if wc.toNat % 32 = 0 then 32 else wc.toNat % 32) ↔ CountAgrees wc := by
  have hmod : wc.toNat % 32 < 32 := Nat.mod_lt _ (by decide)
  rw [meaningfulWords, CountAgrees]
  by_cases h0 : wc = 0
  · subst h0
    exact ⟨fun _ => Or.inl (by decide), fun _ => rfl⟩
  · have hpos : wc.toNat ≠ 0 := fun h => h0 (UInt8.toNat_inj.mp h)
    rw [if_neg h0]
    by_cases hbig : wc.toNat > 32
    · -- the data has 32 words, so the masked count has to be that of 0
      rw [if_pos hbig]
      by_cases hmask : wc.toNat % 32 = 0
      · rw [if_pos hmask]
        exact ⟨fun _ => Or.inr hmask, fun _ => rfl⟩
      · rw [if_neg hmask]
        exact ⟨fun h => absurd h.symm (Nat.ne_of_lt hmod),
          fun h => h.elim (fun hle => absurd hle (Nat.not_le.mpr hbig)) (fun h => absurd h hmask)⟩
    · rw [if_neg hbig]
      refine ⟨fun _ => Or.inl (Nat.not_lt.mp hbig), fun _ => ?_⟩
      split <;> omega

/-- **One packet.**  Its data and its printed count agree for some count bytes only. -/
theorem decodeFrame_counts_iff (frame : List UInt8) :
    (decodeFrame frame).dataWords.length = actualWc (decodeFrame frame)
      ↔ CountAgrees (byteAt frame 5) := by
  have hwords : (decodeFrame frame).dataWords.length = meaningfulWords (byteAt frame 5) :=
    length_payloadWords (frame.drop 6) (meaningfulWords (byteAt frame 5))
  have hfield : wcField (decodeFrame frame).cmd1 = (byteAt frame 5).toNat % 32 :=
    wcField_spill (byteAt frame 3) (byteAt frame 4) (byteAt frame 5) (byteAt frame 2 == 0x01)
  rw [hwords, actualWc, hfield]
  exact meaningfulWords_eq_masked_iff (byteAt frame 5)

/-- **Many packets**, each decoded at its own offset. -/
theorem forall_counts_iff {s : List UInt8} {fired : List Nat} {ts : List MessageTransaction}
    (hdecoded : List.Forall₂ (fun o t => t = decodeFrame (s.drop o)) fired ts) :
    (∀ trans ∈ ts, trans.dataWords.length = actualWc trans)
      ↔ ∀ o ∈ fired, CountAgrees (byteAt s (o + 5)) := by
  induction hdecoded with
  | nil => exact ⟨fun _ o ho => (by cases ho), fun _ t ht => (by cases ht)⟩
  | cons hhead _ ih =>
      rw [List.forall_mem_cons, List.forall_mem_cons, ih, hhead, decodeFrame_counts_iff,
        byteAt_drop]

/-- **When the counts agree.**  In a stream cut in any way, every emitted transaction
    has as many words as its text says exactly when every packet of the greedy
    framing has such a count byte. -/
theorem counts_agree_iff (chunks : List (List UInt8)) :
    ∃ fired left,
      GreedyFraming chunks.flatten fired
        (transactions (ProtocolParser.reset.parseChunks chunks).1) left ∧
      ((∀ trans ∈ transactions (ProtocolParser.reset.parseChunks chunks).1,
          trans.dataWords.length = actualWc trans)
        ↔ ∀ o ∈ fired, CountAgrees (byteAt chunks.flatten (o + 5))) := by
  rw [parseChunks_flatten]
  exact ⟨_, _, greedyFraming_fired chunks.flatten,
    forall_counts_iff (transactions_fired chunks.flatten)⟩

/-- A count byte of 33 gives 32 words and the text `WC: 1`. -/
theorem words_exceed_actualWc :
    ¬∀ chunks, ∀ trans ∈ transactions (ProtocolParser.reset.parseChunks chunks).1,
      trans.dataWords.length = actualWc trans := by
  intro hall
  have hone := TcpHeader.transactions_isFrame
    (TcpHeader.isFrame_headerPacket (Or.inl rfl) 0x05 0x02 0x21)
  have hcount := hall [TcpHeader.headerPacket 0x00 0x05 0x02 0x21]
  rw [parseChunks_flatten, List.flatten_singleton, hone] at hcount
  have hbad := (decodeFrame_counts_iff _).mp (hcount _ List.mem_cons_self)
  exact absurd hbad (by decide)

end TcpRelay
