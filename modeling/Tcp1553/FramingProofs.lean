import Mathlib.Data.List.Forall2
import Mathlib.Data.List.Pairwise
import Tcp1553.ParserProofs

/-! # What the parser accepts: greedy leftmost framing

    The loop interleaves three erase rules with a wait rule and never states its
    grammar.  This file states it.  An offset is *valid* when a complete frame
    with a known mode starts there; the parser fires at exactly those valid
    offsets that no earlier fired frame covers.

    `GreedyFraming` is that grammar, written on the bytes of the stream alone,
    with no reference to the loop; `greedyFraming_unique` shows that it leaves
    no freedom, and `parseStream_greedy` that the loop implements it. -/

namespace TcpFraming

open TcpWire TcpParser StreamScanner

/-- A complete frame with a known mode starts at offset `o` of the stream. -/
def ValidOffset (s : List UInt8) (o : Nat) : Prop :=
  o + 70 ≤ s.length ∧ s[o]? = some 0xAA ∧ s[o + 1]? = some 0x55 ∧
    (s[o + 2]? = some 0x00 ∨ s[o + 2]? = some 0x01)

/-- Words the header at `o` announces. -/
def wordCountAt (s : List UInt8) (o : Nat) : Nat :=
  if (byteAt s (o + 5)).toNat = 0 then 32 else min 32 (byteAt s (o + 5)).toNat

/-- The big-endian words behind the header at `o`. -/
def wordsAt (s : List UInt8) (o : Nat) : List UInt16 :=
  (List.range (wordCountAt s o)).map fun i =>
    UInt16.ofNat (256 * (byteAt s (o + 6 + 2 * i)).toNat + (byteAt s (o + 6 + 2 * i + 1)).toNat)

/-- The greedy leftmost framing of a stream: the offsets `fired`, what is
    emitted for them, and what is left. -/
structure GreedyFraming (s : List UInt8) (fired : List Nat)
    (emitted : List MessageTransaction) (left : List UInt8) : Prop where
  increasing : fired.Pairwise (· < ·)
  exact      : ∀ o, o ∈ fired ↔ ValidOffset s o ∧ ∀ f ∈ fired, ¬(f < o ∧ o < f + 70)
  decoded    : List.Forall₂ (fun o t => t.dataWords = wordsAt s o) fired emitted
  suffix     : ∃ k, left = s.drop k ∧ ∀ f ∈ fired, f + 70 ≤ k
  short      : left.length < 70
  aligned    : left.length < 6 ∨ [0xAA, 0x55] <+: left

/-- The rule "valid and not covered by an earlier fired offset" decides every
    offset, so the stream determines the framing. -/
theorem greedyFraming_unique {s : List UInt8} {fired fired' : List Nat}
    {emitted emitted' : List MessageTransaction} {left left' : List UInt8}
    (h : GreedyFraming s fired emitted left) (h' : GreedyFraming s fired' emitted' left') :
    fired = fired' := by
  -- whether an offset is fired depends on smaller ones only
  have hmem : ∀ o, o ∈ fired ↔ o ∈ fired' := by
    intro o
    induction o using Nat.strong_induction_on with
    | _ o ih =>
        rw [h.exact o, h'.exact o]
        constructor
        · rintro ⟨hv, hfree⟩
          exact ⟨hv, fun f hf hin => hfree f ((ih f hin.1).mpr hf) hin⟩
        · rintro ⟨hv, hfree⟩
          exact ⟨hv, fun f hf hin => hfree f ((ih f hin.1).mp hf) hin⟩
  have hnd : fired.Nodup := h.increasing.imp fun hlt => Nat.ne_of_lt hlt
  have hnd' : fired'.Nodup := h'.increasing.imp fun hlt => Nat.ne_of_lt hlt
  have hperm : fired.Perm fired' := (List.perm_ext_iff_of_nodup hnd hnd').mpr hmem
  exact hperm.eq_of_pairwise (fun a b _ _ hab hba => absurd hab (Nat.lt_asymm hba))
    h.increasing h'.increasing

/-! ## From the loop to the grammar -/

/-- A frame at an offset is a frame at the front of the rest. -/
theorem validOffset_iff {s : List UInt8} {o : Nat} :
    ValidOffset s o ↔ FrameAt (s.drop o) := by
  have hget : ∀ {i : Nat} {b : UInt8}, o + i < s.length →
      (s[o + i]? = some b ↔ byteAt (s.drop o) i = b) := by
    intro i b hi
    rw [byteAt_drop, byteAt, List.getD_eq_getElem?_getD, List.getElem?_eq_getElem hi,
      Option.getD_some, Option.some_inj]
  constructor
  · rintro ⟨hlen, h0, h1, hmode⟩
    refine ⟨?_, ⟨(hget (i := 0) (by omega)).mp h0, (hget (by omega)).mp h1⟩,
      hmode.imp (hget (by omega)).mp (hget (by omega)).mp⟩
    rw [List.length_drop]
    omega
  · rintro ⟨hlen, ⟨h0, h1⟩, hmode⟩
    rw [List.length_drop] at hlen
    exact ⟨by omega, (hget (i := 0) (by omega)).mpr h0, (hget (by omega)).mpr h1,
      hmode.imp (hget (by omega)).mpr (hget (by omega)).mpr⟩

/-- The two spellings of the word count agree. -/
theorem meaningfulWords_byteAt (s : List UInt8) (o : Nat) :
    meaningfulWords (byteAt (s.drop o) 5) = wordCountAt s o := by
  rw [byteAt_drop, meaningfulWords, wordCountAt]
  by_cases h0 : byteAt s (o + 5) = 0
  · rw [if_pos h0, if_pos (by rw [h0]; rfl)]
  · have hne : (byteAt s (o + 5)).toNat ≠ 0 := fun h => h0 (UInt8.toNat_inj.mp h)
    rw [if_neg h0, if_neg hne]
    by_cases hbig : (byteAt s (o + 5)).toNat > 32
    · rw [if_pos hbig, Nat.min_eq_left (by omega)]
    · rw [if_neg hbig, Nat.min_eq_right (by omega)]

/-- Decoding at an offset reads the big-endian words behind its header. -/
theorem decodeFrame_dataWords (s : List UInt8) (o : Nat) :
    (decodeFrame (s.drop o)).dataWords = wordsAt s o := by
  show payloadWords ((s.drop o).drop 6) (meaningfulWords (byteAt (s.drop o) 5)) = wordsAt s o
  rw [meaningfulWords_byteAt, payloadWords, wordsAt]
  refine List.map_congr_left ?_
  intro i _
  rw [payloadWord_eq, byteAt_drop, byteAt_drop, byteAt_drop, byteAt_drop, ← Nat.add_assoc,
    ← Nat.add_assoc, ← Nat.add_assoc]

/-- Calls of the callback are the hits of the scanner. -/
def isDecoded : ParserEvent → Bool
  | .warn _ => false
  | .messageDecoded _ => true

/-- The offsets at which the callback fired, counted from `k`. -/
def firedOffsets (k : Nat) (es : List ParserEvent) : List Nat :=
  (hits parserScanner isDecoded k es).map Prod.fst

/-- A log line costs one byte. -/
theorem width_of_miss {acc : List UInt8} {e : ParserEvent}
    (_h : parserScanner.next acc = some e) (he : isDecoded e = false) :
    parserScanner.width e = 1 := by
  cases e with
  | warn w => rfl
  | messageDecoded t => cases he

/-- The loop waits only when no complete frame is left. -/
theorem wait_no_hit {acc : List UInt8} (h : parserScanner.next acc = none) :
    ∀ o e, parserScanner.next (acc.drop o) = some e → isDecoded e = false := by
  intro o e he
  cases e with
  | warn w => rfl
  | messageDecoded t =>
      have hlen := (frameAt_of_decoded he).1.1
      rw [List.length_drop] at hlen
      rcases parseStep_wait h with hshort | ⟨-, hshort⟩ <;> omega

/-- Each emitted transaction is the decoding at its own offset. -/
theorem forall₂_hits (s : List UInt8) :
    ∀ (es : List ParserEvent) (k : Nat),
      (∀ o e, (o, e) ∈ hits parserScanner isDecoded k es →
        parserScanner.next (s.drop o) = some e) →
      List.Forall₂ (fun o t => t = decodeFrame (s.drop o)) (firedOffsets k es)
        (transactions es) := by
  intro es
  induction es with
  | nil => intro k _; exact List.Forall₂.nil
  | cons e es ih =>
      intro k hall
      cases e with
      | warn w =>
          rw [firedOffsets, hits_cons_miss parserScanner rfl]
          rw [hits_cons_miss parserScanner rfl] at hall
          exact ih _ hall
      | messageDecoded t =>
          rw [firedOffsets, hits_cons_hit parserScanner rfl]
          rw [hits_cons_hit parserScanner rfl] at hall
          have ht := (frameAt_of_decoded (hall k _ List.mem_cons_self)).2
          exact List.Forall₂.cons ht
            (ih _ fun o e he => hall o e (List.mem_cons_of_mem _ he))

/-- Membership in the fired offsets, spelled with the grammar. -/
theorem mem_firedOffsets_iff (s : List UInt8) (o : Nat) :
    o ∈ firedOffsets 0 (scan parserScanner s).1 ↔
      ValidOffset s o ∧
        ∀ f ∈ firedOffsets 0 (scan parserScanner s).1, ¬(f < o ∧ o < f + 70) := by
  have hiff := hits_greedy parserScanner width_of_miss wait_no_hit s 0 o
  have hwidth : ∀ {f : Nat} {e : ParserEvent},
      (f, e) ∈ hits parserScanner isDecoded 0 (scan parserScanner s).1 →
        parserScanner.width e = 70 := by
    intro f e he
    have hd : isDecoded e = true := (List.mem_filter.mp he).2
    cases e with
    | warn w => cases hd
    | messageDecoded t => rfl
  constructor
  · intro hmem
    obtain ⟨⟨o', e⟩, he, rfl⟩ := List.mem_map.mp hmem
    obtain ⟨-, hnext, hd, hfree⟩ := (hiff e).mp he
    refine ⟨?_, ?_⟩
    · cases e with
      | warn w => cases hd
      | messageDecoded t => exact validOffset_iff.mpr (frameAt_of_decoded hnext).1
    · intro f hf hin
      obtain ⟨⟨f', c⟩, hc, rfl⟩ := List.mem_map.mp hf
      refine hfree f' c hc ?_
      rw [hwidth hc]
      exact hin
  · rintro ⟨hv, hfree⟩
    refine List.mem_map.mpr ⟨(o, .messageDecoded (decodeFrame (s.drop o))), ?_, rfl⟩
    refine (hiff _).mpr ⟨Nat.zero_le _, parseStep_frame (validOffset_iff.mp hv), rfl, ?_⟩
    intro f c hc hin
    rw [hwidth hc] at hin
    exact hfree f (List.mem_map.mpr ⟨(f, c), hc, rfl⟩) hin

/-- The transactions of a stream are its decodings at the fired offsets. -/
theorem transactions_fired (s : List UInt8) :
    List.Forall₂ (fun o t => t = decodeFrame (s.drop o))
      (firedOffsets 0 (scan parserScanner s).1) (transactions (scan parserScanner s).1) := by
  refine forall₂_hits s _ 0 ?_
  intro o e he
  exact ((hits_greedy parserScanner width_of_miss wait_no_hit s 0 o e).mp he).2.1

/-- Fired offsets increase, because recognised items do not overlap. -/
theorem firedOffsets_increasing (s : List UInt8) :
    (firedOffsets 0 (scan parserScanner s).1).Pairwise (· < ·) := by
  refine List.pairwise_map.mpr (List.Pairwise.filter _ ?_)
  refine (starts_scan_disjoint parserScanner s 0).imp fun {p q} hpq => ?_
  exact Nat.lt_of_lt_of_le (Nat.lt_add_of_pos_right (eventWidth_pos p.2)) hpq

/-- A fired frame ends where the scan does or before. -/
theorem firedOffsets_le_span {s : List UInt8} {o : Nat}
    (h : o ∈ firedOffsets 0 (scan parserScanner s).1) :
    o + 70 ≤ span parserScanner (scan parserScanner s).1 := by
  obtain ⟨⟨o', e⟩, he, rfl⟩ := List.mem_map.mp h
  have hle := starts_scan_le parserScanner s 0 o' e (List.mem_of_mem_filter he)
  have hd : isDecoded e = true := (List.mem_filter.mp he).2
  rw [Nat.zero_add] at hle
  cases e with
  | warn w => cases hd
  | messageDecoded t => exact hle

/-- A pass that waits has a header to come or the magic in front. -/
theorem magic_of_wait {acc : List UInt8} (h : parseStep acc = none) :
    acc.length < 6 ∨ [0xAA, 0x55] <+: acc := by
  rcases parseStep_wait h with hshort | ⟨⟨h0, h1⟩, -⟩
  · exact Or.inl hshort
  · match acc with
    | [] => exact Or.inl (Nat.zero_lt_succ 5)
    | [_] => exact Or.inl (by decide : 1 < 6)
    | a :: b :: rest =>
        have ha : a = 0xAA := h0
        have hb : b = 0x55 := h1
        exact Or.inr ⟨rest, by rw [ha, hb]; rfl⟩

/-- The fired offsets are a greedy leftmost framing of the stream. -/
theorem greedyFraming_fired (s : List UInt8) :
    GreedyFraming s (firedOffsets 0 (scan parserScanner s).1)
      (transactions (ProtocolParser.reset.parseStream s).1)
      (ProtocolParser.reset.parseStream s).2.accumulator where
  increasing := firedOffsets_increasing s
  exact      := mem_firedOffsets_iff s
  decoded    := by
    refine (transactions_fired s).imp ?_
    rintro o t rfl
    exact decodeFrame_dataWords s o
  suffix     := ⟨_, scan_rest parserScanner s, fun _ hf => firedOffsets_le_span hf⟩
  short      := by
    rcases parseStep_wait (ProtocolParser.reset.parseStream s).2.settled with hshort | ⟨-, hshort⟩
    · exact Nat.lt_trans hshort (by decide)
    · exact hshort
  aligned    := magic_of_wait (ProtocolParser.reset.parseStream s).2.settled

/-- **The parser accepts the greedy leftmost framing** of a stream given in one
    call to a fresh parser. -/
theorem parseStream_greedy (s : List UInt8) :
    ∃ fired, GreedyFraming s fired
      (transactions (ProtocolParser.reset.parseStream s).1)
      (ProtocolParser.reset.parseStream s).2.accumulator :=
  ⟨firedOffsets 0 (scan parserScanner s).1, greedyFraming_fired s⟩

/-! ## Junk between frames -/

/-- No `0xAA` is immediately followed by `0x55`. -/
def NoSync (junk : List UInt8) : Prop := ¬[0xAA, 0x55] <:+: junk

instance (junk : List UInt8) : Decidable (NoSync junk) := inferInstanceAs (Decidable (¬_))

theorem NoSync.tail {b : UInt8} {junk : List UInt8} (h : NoSync (b :: junk)) :
    NoSync junk := fun hin => h (hin.trans (List.suffix_cons b junk).isInfix)

theorem NoSync.drop {junk : List UInt8} (h : NoSync junk) (k : Nat) : NoSync (junk.drop k) :=
  fun hin => h (hin.trans (List.drop_suffix k junk).isInfix)

/-- The first two bytes of a buffer that starts with the sync pattern. -/
theorem syncAt_cons {a b : UInt8} {rest : List UInt8} (h : SyncAt (a :: b :: rest)) :
    a = 0xAA ∧ b = 0x55 := h

/-- Junk holds no frame. -/
theorem NoSync.not_frameAt {junk : List UInt8} (h : NoSync junk) : ¬FrameAt junk := by
  rintro ⟨hlen, hsync, -⟩
  match junk with
  | [] => exact absurd hlen (by decide)
  | [_] => exact absurd hlen (by decide : ¬70 ≤ 1)
  | a :: b :: rest =>
      obtain ⟨rfl, rfl⟩ := syncAt_cons hsync
      exact h ⟨[], rest, rfl⟩

/-- Junk on its own emits nothing. -/
theorem scan_junk (junk : List UInt8) (h : NoSync junk) :
    transactions (scan parserScanner junk).1 = [] := by
  induction junk using scan_induction parserScanner with
  | hstop xs hnone =>
      rw [scan_none parserScanner hnone]
      rfl
  | hstep xs e hsome ih =>
      rw [scan_some parserScanner hsome]
      cases e with
      | warn w => exact ih (h.drop _)
      | messageDecoded t => exact absurd (frameAt_of_decoded hsome).1 h.not_frameAt

/-- A frame at the front is decoded and removed. -/
theorem scan_frame {frame : List UInt8} (hlen : frame.length = 70) (hf : FrameAt frame)
    (rest : List UInt8) :
    scan parserScanner (frame ++ rest)
      = (.messageDecoded (decodeFrame frame) :: (scan parserScanner rest).1,
          (scan parserScanner rest).2) := by
  have hnext : parserScanner.next (frame ++ rest) = some (.messageDecoded (decodeFrame frame)) :=
    parseStep_stable rest (parseStep_frame hf)
  have hdrop : (frame ++ rest).drop 70 = rest := List.drop_left' hlen
  rw [scan_some parserScanner hnext]
  show (_ :: (scan parserScanner ((frame ++ rest).drop 70)).1,
    (scan parserScanner ((frame ++ rest).drop 70)).2) = _
  rw [hdrop]

/-- A 70-byte frame on its own. -/
def IsFrame (frame : List UInt8) : Prop := frame.length = 70 ∧ FrameAt frame

instance (frame : List UInt8) : Decidable (IsFrame frame) := inferInstanceAs (Decidable (_ ∧ _))

/-- Whole frames back to back are decoded one by one, with nothing left. -/
theorem scan_frames :
    ∀ frames : List (List UInt8), (∀ f ∈ frames, IsFrame f) →
      scan parserScanner frames.flatten
        = (frames.map fun f => .messageDecoded (decodeFrame f), []) := by
  intro frames
  induction frames with
  | nil => intro _; rfl
  | cons f frames ih =>
      intro hall
      obtain ⟨hlen, hf⟩ := hall f List.mem_cons_self
      rw [List.flatten_cons, scan_frame hlen hf,
        ih fun g hg => hall g (List.mem_cons_of_mem _ hg)]
      rfl

theorem transactions_map_decoded (ts : List MessageTransaction) :
    transactions (ts.map ParserEvent.messageDecoded) = ts := by
  induction ts with
  | nil => rfl
  | cons t ts ih => exact congrArg (t :: ·) ih

/-- **Junk in front of a frame is skipped byte by byte**, also when it ends in
    the first byte of the sync pattern. -/
theorem scan_junk_frame {frame : List UInt8} (hlen : frame.length = 70) (hf : FrameAt frame)
    (rest : List UInt8) :
    ∀ junk, NoSync junk →
      transactions (scan parserScanner (junk ++ frame ++ rest)).1
          = decodeFrame frame :: transactions (scan parserScanner rest).1 ∧
        (scan parserScanner (junk ++ frame ++ rest)).2 = (scan parserScanner rest).2 := by
  intro junk
  induction junk with
  | nil =>
      intro _
      rw [List.nil_append, scan_frame hlen hf]
      exact ⟨rfl, rfl⟩
  | cons b junk ih =>
      intro hj
      have hnosync : ¬SyncAt (b :: junk ++ frame ++ rest) := by
        intro hsync
        cases junk with
        | nil =>
            -- the junk ends here: the next byte is the frame's own 0xAA
            have h0 : byteAt frame 0 = 0xAA := hf.2.1.1
            have h1 : byteAt ([b] ++ frame ++ rest) 1 = 0x55 := hsync.2
            rw [List.append_assoc, show 1 = [b].length + 0 from rfl, byteAt_append_right,
              byteAt_append (by omega), h0] at h1
            exact absurd h1 (by decide)
        | cons c junk =>
            obtain ⟨rfl, rfl⟩ := syncAt_cons hsync
            exact hj ⟨[], junk, rfl⟩
      have hlong : 6 ≤ (b :: junk ++ frame ++ rest).length := by
        rw [List.length_append, List.length_append]
        omega
      obtain ⟨w, hw⟩ := parseStep_skip hlong hnosync
      have hnext : parserScanner.next (b :: junk ++ frame ++ rest) = some (.warn w) := hw
      rw [scan_some parserScanner hnext]
      exact ih hj.tail

end TcpFraming
