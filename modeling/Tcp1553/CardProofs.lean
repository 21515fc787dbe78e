import Tcp1553.FrameProofs
import Tcp1553.WritesProofs

/-! # What a frame shows and what the monitor shows of it

    The grid of a frame shows its data texts, as many as `wordsToShow` says.  The packet
    carries the words these texts spell, and the monitor prints as many as the header
    announces.

    `cardAgrees_iff` says for which frames the two are the same. -/

namespace TcpFrame

open TcpWire TcpParser TcpFraming TcpEncoder TcpController TcpRelay

/-- The texts that can be seen in the grid. -/
def shownTexts (component : FrameComponent) : List String :=
  (component.dataLabels.toList.filter DataLabel.shown).map DataLabel.text

/-- How many words the packet announces. -/
def announced (config : FrameConfig) : Nat := if config.wc = 0 then 32 else config.wc.toNat

/-- A word as it is printed. -/
def Printed (text : String) : Prop := text = hexWord (dataWord text)

instance (text : String) : Decidable (Printed text) :=
  inferInstanceAs (Decidable (text = hexWord (dataWord text)))

/-- The frame is no mode code, or one with a data word that announces one word. -/
def CountsAlike (config : FrameConfig) : Prop :=
  (config.mode ≠ .modeCodeNoData ∧ config.mode ≠ .modeCodeWithData) ∨
    (config.mode = .modeCodeWithData ∧ config.wc = 1)

/-- Cells shown up to a number are a beginning. -/
theorem shown_mapIdx (texts : List String) (n : Nat) :
    ((texts.mapIdx fun i text => if i < n then (⟨text, true⟩ : DataLabel) else ⟨"", false⟩).filter
      DataLabel.shown).map DataLabel.text = texts.take n := by
  induction texts generalizing n with
  | nil => rw [List.take_nil]; rfl
  | cons text texts ih =>
      rw [List.mapIdx_cons]
      cases n with
      | zero =>
          have hrest := ih 0
          simp only [Nat.not_lt_zero, if_false] at hrest ⊢
          rw [List.filter_cons_of_neg Bool.false_ne_true]
          exact hrest
      | succ n =>
          have hrest := ih n
          simp only [Nat.zero_lt_succ, if_true, Nat.succ_lt_succ_iff]
          rw [List.filter_cons_of_pos rfl, List.map_cons, List.take_succ_cons, hrest]

/-- The grid shows the first texts. -/
theorem shownTexts_updateValues (config : FrameConfig) {n : Nat} (hcount : wordsToShow config = n) :
    shownTexts (updateValues config) = config.data.toList.take n := by
  have hlabels : (updateValues config).dataLabels = Vector.ofFn fun i : Fin 32 =>
      if (i.val : Int) < wordsToShow config then ⟨config.data[i.val], true⟩ else ⟨"", false⟩ := rfl
  have hcells : (updateValues config).dataLabels.toList = config.data.toList.mapIdx fun i text =>
      if i < n then (⟨text, true⟩ : DataLabel) else ⟨"", false⟩ := by
    rw [hlabels, hcount]
    refine List.ext_getElem ?_ fun i hi hi' => ?_
    · rw [List.length_mapIdx, Vector.length_toList, Vector.length_toList]
    · rw [Vector.getElem_toList, List.getElem_mapIdx, Vector.getElem_toList, Vector.getElem_ofFn]
      simp only [Int.ofNat_lt]
  rw [shownTexts, hcells, shown_mapIdx]

theorem announced_le {config : FrameConfig} (h : Editable config) : announced config ≤ 32 := by
  have hwc := h.wc
  rw [announced]
  split <;> omega

/-- The words of the packet that the monitor takes. -/
theorem dataWords_decodeFrame {config : FrameConfig} (h : Editable config) :
    (decodeFrame (packetBytes config)).dataWords
      = (config.data.toList.take (announced config)).map dataWord := by
  have hwords : (decodeFrame (packetBytes config)).dataWords
      = payloadWords ((packetBytes config).drop 6) (meaningfulWords (toUInt8 config.wc)) := rfl
  rw [hwords, payloadWords_packet config (meaningfulWords_le _),
    meaningfulWords_toUInt8 h.wc.1 h.wc.2, encodedWords, ← List.map_take]
  rfl

/-- How many texts are shown, where it is as many as are announced. -/
theorem wordsToShow_eq_iff {config : FrameConfig} (h : Editable config) :
    wordsToShow config = announced config ↔ CountsAlike config := by
  have hwc := h.wc
  rw [wordsToShow, announced, CountsAlike]
  cases hmode : config.mode with
  | bcToRt | rtToBc | rtToRt =>
      refine iff_of_true ?_ (Or.inl ⟨by simp, by simp⟩)
      simp only
      split <;> omega
  | modeCodeNoData =>
      refine iff_of_false ?_ (by simp)
      simp only
      split <;> omega
  | modeCodeWithData =>
      simp only [ne_eq, reduceCtorEq, not_true_eq_false, and_false, true_and, false_or]
      split <;> omega

/-- The number of texts shown, in every mode. -/
theorem wordsToShow_toNat {config : FrameConfig} (h : Editable config) :
    ∃ n : Nat, n ≤ 32 ∧ wordsToShow config = n := by
  have hwc := h.wc
  rw [wordsToShow]
  cases config.mode with
  | bcToRt | rtToBc | rtToRt =>
      by_cases hz : config.wc = 0
      · exact ⟨32, Nat.le_refl _, if_pos hz⟩
      · exact ⟨config.wc.toNat, by omega, (if_neg hz).trans (by omega)⟩
  | modeCodeNoData => exact ⟨0, by decide, rfl⟩
  | modeCodeWithData => exact ⟨1, by decide, rfl⟩

end TcpFrame
