import Tcp1553.FrameProofs
import Tcp1553.SegmentProofs

/-! # Words nobody received

    `FrameComponent::sendFrame` leaves its array `received` uninitialised, as
    `sendAcyclicFrame` does its structure `response`.  The first function copies all 32
    words of its array into the frame after a transmit request and after an RT-to-RT
    transfer; the second fills in the words the reply announces, from as many bytes
    as one `read` returned, and only for a transmit request.

    `determined_iff` says for which sends nothing of either memory is left in the
    frame. -/

namespace TcpFrame

open TcpWire TcpParser TcpFraming TcpEncoder TcpController TcpRelay

/-! ## Send once -/

/-- `sendFrame` up to `CallAfter`: the words the queued closure captured.  The
    descriptor is the one there is behind `initialize`, where that was called. -/
def FrameComponent.sendFrame (s : FrameComponent) (currentClientFd bytesSent : Int)
    (response : Qemu1553Packet) (received : Vector UInt16 32) (bytes : Option (List UInt8)) :
    Option (Vector UInt16 32) :=
  let r := sendAcyclicFrame s.config currentClientFd bytesSent response received bytes
  if r.1 = 0 ∧ (s.config.mode = .rtToBc ∨ s.config.mode = .rtToRt) then some r.2 else none

/-- The queued closure, when there is one. -/
def FrameComponent.runQueued (s : FrameComponent) : Option (Vector UInt16 32) → FrameComponent
  | none => s
  | some received => updateValues { s.config with data := received.map hexWord }

/-- What is queued, by the connection and the mode. -/
theorem sendFrame_eq (s : FrameComponent) (currentClientFd bytesSent : Int)
    (response : Qemu1553Packet) (received : Vector UInt16 32) (bytes : Option (List UInt8)) :
    s.sendFrame currentClientFd bytesSent response received bytes
      = if currentClientFd < 0 ∨ bytesSent < 0 then none
        else if s.config.mode = .rtToBc then
          (if (endSend response received bytes).1 = 0 then some (endSend response received bytes).2
          else none)
        else if s.config.mode = .rtToRt then some received
        else none := by
  by_cases hfailed : currentClientFd < 0 ∨ bytesSent < 0
  · rw [if_pos hfailed, FrameComponent.sendFrame, sendAcyclicFrame_failed _ hfailed]
    exact if_neg fun h => absurd (show (-1 : Int) = 0 from h.1) (by decide)
  · obtain ⟨hfd, hsent⟩ := not_or.mp hfailed
    rw [if_neg hfailed]
    by_cases hmode : s.config.mode = .rtToBc
    · rw [FrameComponent.sendFrame, sendAcyclicFrame_reading hmode hfd hsent, if_pos hmode]
      simp only [hmode, true_or, and_true]
    · rw [FrameComponent.sendFrame, sendAcyclicFrame_written hmode hfd hsent, if_neg hmode]
      simp only [hmode, false_or, true_and]

/-- A word of the frame that came with the reply. -/
def Received (config : FrameConfig) (currentClientFd bytesSent : Int) (bytes : Option (List UInt8))
    (i : Nat) : Prop :=
  config.mode = .rtToBc ∧ ¬currentClientFd < 0 ∧ ¬bytesSent < 0 ∧
    ∃ bs, bytes = some bs ∧ i < wordCountAt bs 0 ∧ 8 + 2 * i ≤ bs.length

/-- The frame holds nothing of the two memories: its configuration is the same
    whatever they held, and words that were not received keep their text.  `s` is the
    frame when it is sent and `t` the frame when the update runs. -/
structure Determined (s t : FrameComponent) (currentClientFd bytesSent : Int)
    (bytes : Option (List UInt8)) : Prop where
  independent : ∀ response response' received received',
    (t.runQueued (s.sendFrame currentClientFd bytesSent response received bytes)).config
      = (t.runQueued (s.sendFrame currentClientFd bytesSent response' received' bytes)).config
  kept : ∀ response received i, (hi : i < 32) →
    ¬Received s.config currentClientFd bytesSent bytes i →
      (t.runQueued (s.sendFrame currentClientFd bytesSent response received bytes)).config.data[i]
        = t.config.data[i]

/-- A reply without a header, or one of 70 bytes that announces all 32 words. -/
def WholeOrNone : Option (List UInt8) → Prop
  | none => True
  | some bs => bs.length < 6 ∨ 70 ≤ bs.length ∧ wordCountAt bs 0 = 32

/-- Sends that copy nothing back, and requests whose reply fills the whole array. -/
def Harmless (config : FrameConfig) (currentClientFd bytesSent : Int)
    (bytes : Option (List UInt8)) : Prop :=
  currentClientFd < 0 ∨ bytesSent < 0 ∨ (config.mode ≠ .rtToBc ∧ config.mode ≠ .rtToRt) ∨
    config.mode = .rtToBc ∧ WholeOrNone bytes

/-- The texts of two arrays are the same only when the arrays are. -/
theorem runQueued_some_inj (t : FrameComponent) {v v' : Vector UInt16 32} :
    (t.runQueued (some v)).config = (t.runQueued (some v')).config ↔ v = v' := by
  constructor
  · intro h
    have hdata : v.map hexWord = v'.map hexWord := congrArg FrameConfig.data h
    ext i hi
    have hword : (v.map hexWord)[i] = (v'.map hexWord)[i] := by rw [hdata]
    rw [Vector.getElem_map, Vector.getElem_map] at hword
    exact congrArg UInt16.toNat (hexWord_inj.mp hword)
  · intro h
    rw [h]

/-- **A reply leaves nothing of the memories** when it fills the array. -/
theorem endSend_determined_iff {bs : List UInt8} (h6 : 6 ≤ bs.length) :
    (∀ response response' received received',
        (endSend response received (some bs)).2 = (endSend response' received' (some bs)).2)
      ↔ 70 ≤ bs.length ∧ wordCountAt bs 0 = 32 := by
  have hle := wordCountAt_le bs 0
  have h31 : 31 < 32 := by decide
  constructor
  · intro hall
    have hlast : ∀ response response' received received',
        (endSend response received (some bs)).2[31]
          = (endSend response' received' (some bs)).2[31] := by
      intro response response' received received'
      rw [hall response response' received received']
    have hcount : wordCountAt bs 0 = 32 := by
      by_contra hfew
      -- the last word is that of the array
      have h := hlast (stackOf 0) (stackOf 0) (Vector.replicate 32 0) (Vector.replicate 32 1)
      rw [getElem_endSend _ _ h6 h31, getElem_endSend _ _ h6 h31, if_neg (by omega),
        if_neg (by omega), Vector.getElem_replicate, Vector.getElem_replicate] at h
      exact absurd h (by decide)
    refine ⟨?_, hcount⟩
    -- it does not depend on the structure, so it was read
    exact covered_of_same_word h6 (Vector.replicate 32 0) h31 (by omega) fun response response' =>
      hlast response response' _ _
  · rintro ⟨hlen, hcount⟩ response response' received received'
    ext i hi
    rw [getElem_endSend _ _ h6 hi, getElem_endSend _ _ h6 hi, if_pos (by omega), if_pos (by omega),
      payloadWord_read response (by omega), payloadWord_read response' (by omega)]

section Cases

variable {s t : FrameComponent} {currentClientFd bytesSent : Int} {bytes : Option (List UInt8)}

/-- Where nothing is queued the frame stays as it is. -/
theorem Determined.of_none (h : ∀ response received,
    s.sendFrame currentClientFd bytesSent response received bytes = none) :
    Determined s t currentClientFd bytesSent bytes where
  independent := fun _ _ _ _ => by rw [h, h]
  kept := fun _ _ _ _ _ => by rw [h]; rfl

/-- Where the array is queued as it came, its memory is in the frame. -/
theorem not_determined_transfer (h : ∀ response received,
    s.sendFrame currentClientFd bytesSent response received bytes = some received) :
    ¬Determined s t currentClientFd bytesSent bytes := by
  intro hd
  have hsame := hd.independent (stackOf 0) (stackOf 0) (Vector.replicate 32 0)
    (Vector.replicate 32 1)
  rw [h, h, runQueued_some_inj] at hsame
  exact absurd hsame (by decide)

/-- Where a reply has been read, it has to fill the array. -/
theorem determined_reply_iff {bs : List UInt8} (h6 : 6 ≤ bs.length)
    (hmode : s.config.mode = .rtToBc) (hfd : ¬currentClientFd < 0) (hsent : ¬bytesSent < 0) :
    Determined s t currentClientFd bytesSent (some bs)
      ↔ 70 ≤ bs.length ∧ wordCountAt bs 0 = 32 := by
  have hqueued : ∀ response received,
      s.sendFrame currentClientFd bytesSent response received (some bs)
        = some (endSend response received (some bs)).2 := by
    intro response received
    rw [sendFrame_eq, if_neg (not_or.mpr ⟨hfd, hsent⟩), if_pos hmode,
      if_pos ((endSend_ret_iff response received bs).mpr h6)]
  rw [← endSend_determined_iff h6]
  constructor
  · intro hd response response' received received'
    have hsame := hd.independent response response' received received'
    rw [hqueued, hqueued, runQueued_some_inj] at hsame
    exact hsame
  · intro hall
    obtain ⟨hlen, hcount⟩ := (endSend_determined_iff h6).mp hall
    refine ⟨fun response response' received received' => ?_, fun _ _ i hi hmissing => ?_⟩
    · rw [hqueued, hqueued, hall response response' received received']
    · -- every word was received
      exact absurd ⟨hmode, hfd, hsent, bs, rfl, by omega, by omega⟩ hmissing

end Cases

/-- **When the frame holds no indeterminate memory.**  For every mode, connection and
    reply: when nothing is copied back, or a whole reply of 32 words is. -/
theorem determined_iff (s t : FrameComponent) (currentClientFd bytesSent : Int)
    (bytes : Option (List UInt8)) :
    Determined s t currentClientFd bytesSent bytes
      ↔ Harmless s.config currentClientFd bytesSent bytes := by
  have hqueued := fun response received =>
    sendFrame_eq s currentClientFd bytesSent response received bytes
  by_cases hfailed : currentClientFd < 0 ∨ bytesSent < 0
  · simp only [if_pos hfailed] at hqueued
    exact iff_of_true (.of_none hqueued) (or_assoc.mp (Or.inl hfailed))
  · obtain ⟨hfd, hsent⟩ := not_or.mp hfailed
    simp only [if_neg hfailed] at hqueued
    rw [Harmless, or_iff_right hfd, or_iff_right hsent]
    by_cases hmode : s.config.mode = .rtToBc
    · simp only [if_pos hmode] at hqueued
      rw [or_iff_right fun h => h.1 hmode, and_iff_right hmode]
      match bytes with
      | none => exact iff_of_true (.of_none hqueued) trivial
      | some bs =>
          by_cases h6 : 6 ≤ bs.length
          · rw [determined_reply_iff h6 hmode hfd hsent]
            exact (or_iff_right (Nat.not_lt.mpr h6)).symm
          · refine iff_of_true (.of_none fun response received => ?_) (Or.inl (Nat.not_le.mp h6))
            rw [hqueued, if_neg fun h => h6 ((endSend_ret_iff response received bs).mp h)]
    · simp only [if_neg hmode] at hqueued
      rw [or_iff_left fun h => hmode h.1, and_iff_right hmode]
      by_cases htransfer : s.config.mode = .rtToRt
      · simp only [if_pos htransfer] at hqueued
        exact iff_of_false (not_determined_transfer hqueued) fun h => h htransfer
      · simp only [if_neg htransfer] at hqueued
        exact iff_of_true (.of_none hqueued) htransfer

/-- An RT-to-RT transfer that was written copies the array back as it was. -/
theorem transfer_copies_memory :
    ¬∀ s bytes, Determined s s 3 70 bytes := by
  intro hall
  refine not_determined_transfer (fun response received => ?_)
    (hall (updateValues { syncFrame with mode := .rtToRt }) none)
  rw [sendFrame_eq]
  rfl

end TcpFrame
