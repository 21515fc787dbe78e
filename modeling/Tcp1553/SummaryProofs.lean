import Tcp1553.CardProofs
import Tcp1553.ReadBackProofs

/-! # What the summary of a frame tells

    `updateValues` prints the bus, the addresses and the count of a frame, in another
    way for each kind of transfer.  A mode code is printed without its count, which
    only the command word in brackets has, in five bits.

    `readSummary` reads the line again.  `summaries_eq_iff` says which frames have the
    same line, and `sameCard_decoded` that those which also show the same data are the
    same to the monitor. -/

namespace TcpFrame

open TextReaders TcpWire TcpParser TcpFraming TcpHeader TcpEncoder TcpController TcpRelay

/-! ## The reader -/

/-- What the line shows of a configuration. -/
structure Transfer where
  bus  : Char
  mode : BcMode
  rt   : Int
  sa   : Int
  rt2  : Int
  sa2  : Int
  wc   : Int
  deriving DecidableEq, Repr

/-- What it should show: the second addresses of a transfer between terminals, and the
    count of a mode code as far as the command word has it. -/
def transferOf (config : FrameConfig) : Transfer where
  bus  := config.bus
  mode := config.mode
  rt   := config.rt
  sa   := config.sa
  rt2  := if config.mode = .rtToRt then config.rt2 else 0
  sa2  := if config.mode = .rtToRt then config.sa2 else 0
  wc   := if config.mode = .modeCodeNoData ∨ config.mode = .modeCodeWithData then config.wc % 32
    else config.wc

/-- The command word up to the closing bracket. -/
def bracketed : Reader UInt16 := do
  let cmd ← dataDigits
  literal "]"
  return cmd

/-- A line that begins with `BC -> RT`. -/
def readReceive (bus : Char) : Reader Transfer := do
  let rt ← number
  if ← keyword " | SA " true <|> keyword " | MC " false then
    let sa ← number
    literal " | WC "
    let wc ← number
    literal " ["
    let _ ← bracketed
    return { bus, mode := .bcToRt, rt, sa, rt2 := 0, sa2 := 0, wc }
  else
    let sa ← number
    let mode ← keyword " (w/ data) [" .modeCodeWithData <|> keyword " [" .modeCodeNoData
    let cmd ← bracketed
    return { bus, mode, rt, sa, rt2 := 0, sa2 := 0, wc := wcField cmd }

/-- A line that begins with `RT`. -/
def readTransmit (bus : Char) : Reader Transfer := do
  let rt ← number
  if ← keyword " -> BC | SA " true <|> keyword "(SA" false then
    let sa ← number
    literal " | WC "
    let wc ← number
    literal " ["
    let _ ← bracketed
    return { bus, mode := .rtToBc, rt, sa, rt2 := 0, sa2 := 0, wc }
  else
    let sa ← number
    literal ") -> RT "
    let rt2 ← number
    literal "(SA"
    let sa2 ← number
    literal ") | WC "
    let wc ← number
    literal " ["
    let _ ← bracketed
    return { bus, mode := .rtToRt, rt, sa, rt2, sa2, wc }

/-- A summary line. -/
def summaryLine : Reader Transfer := do
  literal "Bus: "
  let bus ← anyChar
  literal " | "
  if ← keyword "BC -> RT " true <|> keyword "RT " false then readReceive bus
  else readTransmit bus

/-- The transfer that a line shows. -/
def readSummary (text : String) : Option Transfer := (summaryLine.run text.toList).map Prod.fst

/-! ## What is printed is read -/

theorem reads_bracketed (cmd : UInt16) : Reads bracketed (hexWord cmd ++ "]") cmd Anything :=
  reads_then (reads_dataDigits cmd) (reads_return (f := fun _ => cmd) (reads_literal "]"))

section Lines

variable (bus : Char) (rt sa wc : Nat) (cmd : UInt16)

theorem reads_bcToRt :
    Reads (readReceive bus) (toString rt ++ (" | SA " ++ (toString sa ++ (" | WC "
      ++ (toString wc ++ (" [" ++ (hexWord cmd ++ "]"))))))) ⟨bus, .bcToRt, rt, sa, 0, 0, wc⟩
      Anything := by
  rw [readReceive]
  refine reads_numberThen (noneOf_cons rfl _) (by decide)
    (reads_then (reads_orElse_left (reads_keyword " | SA " true)) ?_)
  refine reads_numberThen (noneOf_cons rfl _) (by decide) (reads_then (reads_literal " | WC ") ?_)
  refine reads_numberThen (noneOf_cons rfl _) (by decide) (reads_then (reads_literal " [") ?_)
  exact reads_return (f := fun _ => (⟨bus, .bcToRt, rt, sa, 0, 0, wc⟩ : Transfer))
    (reads_bracketed cmd)

/-- A mode code, with the word behind its number that says whether it has data. -/
theorem reads_modeCode {mode : BcMode} {word : String} {c : Char} {cs : List Char}
    (hword : word.toList = c :: cs) (hdigit : c.isDigit = false)
    (hmode : Reads (keyword " (w/ data) [" .modeCodeWithData <|> keyword " [" .modeCodeNoData) word
      mode Anything) :
    Reads (readReceive bus) (toString rt ++ (" | MC " ++ (toString sa ++ (word
      ++ (hexWord cmd ++ "]"))))) ⟨bus, mode, rt, sa, 0, 0, wcField cmd⟩ Anything := by
  have hkeyword : Reads (keyword " | SA " true <|> keyword " | MC " false) " | MC " false Anything :=
    reads_orElse_right
      (fun rest _ => keyword_fails [' ', '|', ' '] rfl (noneOf_cons (by decide) _))
      (reads_keyword " | MC " false)
  rw [readReceive]
  refine reads_numberThen (noneOf_cons rfl _) (by decide) (reads_then hkeyword ?_)
  refine reads_numberThen (hword ▸ noneOf_cons hdigit cs) (fun hempty => ?_) (reads_then hmode ?_)
  · rw [hempty] at hword
    cases hword
  exact reads_return (f := fun cmd => (⟨bus, mode, rt, sa, 0, 0, wcField cmd⟩ : Transfer))
    (reads_bracketed cmd)

theorem reads_rtToBc :
    Reads (readTransmit bus) (toString rt ++ (" -> BC | SA " ++ (toString sa ++ (" | WC "
      ++ (toString wc ++ (" [" ++ (hexWord cmd ++ "]"))))))) ⟨bus, .rtToBc, rt, sa, 0, 0, wc⟩
      Anything := by
  rw [readTransmit]
  refine reads_numberThen (noneOf_cons rfl _) (by decide)
    (reads_then (reads_orElse_left (reads_keyword " -> BC | SA " true)) ?_)
  refine reads_numberThen (noneOf_cons rfl _) (by decide) (reads_then (reads_literal " | WC ") ?_)
  refine reads_numberThen (noneOf_cons rfl _) (by decide) (reads_then (reads_literal " [") ?_)
  exact reads_return (f := fun _ => (⟨bus, .rtToBc, rt, sa, 0, 0, wc⟩ : Transfer))
    (reads_bracketed cmd)

theorem reads_rtToRt (rt2 sa2 : Nat) :
    Reads (readTransmit bus) (toString rt ++ ("(SA" ++ (toString sa ++ (") -> RT "
      ++ (toString rt2 ++ ("(SA" ++ (toString sa2 ++ (") | WC " ++ (toString wc
      ++ (" [" ++ (hexWord cmd ++ "]"))))))))))) ⟨bus, .rtToRt, rt, sa, rt2, sa2, wc⟩
      Anything := by
  have hkeyword : Reads (keyword " -> BC | SA " true <|> keyword "(SA" false) "(SA" false Anything :=
    reads_orElse_right (fun rest _ => keyword_fails [] rfl (noneOf_cons (by decide) _))
      (reads_keyword "(SA" false)
  rw [readTransmit]
  refine reads_numberThen (noneOf_cons rfl _) (by decide) (reads_then hkeyword ?_)
  refine reads_numberThen (noneOf_cons rfl _) (by decide) (reads_then (reads_literal ") -> RT ") ?_)
  refine reads_numberThen (noneOf_cons rfl _) (by decide) (reads_then (reads_literal "(SA") ?_)
  refine reads_numberThen (noneOf_cons rfl _) (by decide) (reads_then (reads_literal ") | WC ") ?_)
  refine reads_numberThen (noneOf_cons rfl _) (by decide) (reads_then (reads_literal " [") ?_)
  exact reads_return (f := fun _ => (⟨bus, .rtToRt, rt, sa, rt2, sa2, wc⟩ : Transfer))
    (reads_bracketed cmd)

end Lines

theorem readSummary_of_reads {text : String} {t : Transfer}
    (h : Reads summaryLine text t Anything) : readSummary text = some t := by
  have hrun := h [] trivial
  rw [List.append_nil] at hrun
  rw [readSummary, hrun]
  rfl

theorem readSummary_receive (bus : Char) {text : String} {t : Transfer}
    (h : Reads (readReceive bus) text t Anything) :
    readSummary ("Bus: " ++ (String.singleton bus ++ (" | " ++ ("BC -> RT " ++ text)))) = some t := by
  have hkeyword : Reads (keyword "BC -> RT " true <|> keyword "RT " false) "BC -> RT " true Anything :=
    reads_orElse_left (reads_keyword "BC -> RT " true)
  exact readSummary_of_reads (reads_then (reads_literal "Bus: ") (reads_then (reads_anyChar bus)
    (reads_then (reads_literal " | ") (reads_then hkeyword h))))

theorem readSummary_transmit (bus : Char) {text : String} {t : Transfer}
    (h : Reads (readTransmit bus) text t Anything) :
    readSummary ("Bus: " ++ (String.singleton bus ++ (" | " ++ ("RT " ++ text)))) = some t := by
  have hkeyword : Reads (keyword "BC -> RT " true <|> keyword "RT " false) "RT " false Anything :=
    reads_orElse_right (fun rest _ => keyword_fails [] rfl (noneOf_cons (by decide) _))
      (reads_keyword "RT " false)
  exact readSummary_of_reads (reads_then (reads_literal "Bus: ") (reads_then (reads_anyChar bus)
    (reads_then (reads_literal " | ") (reads_then hkeyword h))))

/-- The count of a mode code is that of its command word. -/
theorem wcField_cmdVal {config : FrameConfig} (h : Editable config) :
    (wcField (cmdVal config) : Int) = config.wc % 32 := by
  have hsendable : Sendable { config with mode := .bcToRt } := ⟨Or.inl rfl, h.rt, h.sa, h.wc⟩
  have hwc := toUInt8_toNat h.wc.1 (by have hle := h.wc.2; omega)
  -- the word does not depend on the mode
  have hmode : cmdVal config = cmdVal { config with mode := .bcToRt } := rfl
  rw [hmode, cmdVal_eq hsendable, wcField_commandWord hsendable.sa_toUInt8_lt, Int.natCast_emod, hwc]
  rfl

/-- **The summary is read back.** -/
theorem readSummary_updateValues {config : FrameConfig} (h : Editable config) :
    readSummary (updateValues config).summaryText = some (transferOf config) := by
  have hcount := wcField_cmdVal h
  obtain ⟨rt, hrt⟩ := Int.eq_ofNat_of_zero_le h.rt.1
  obtain ⟨sa, hsa⟩ := Int.eq_ofNat_of_zero_le h.sa.1
  obtain ⟨rt2, hrt2⟩ := Int.eq_ofNat_of_zero_le h.rt2.1
  obtain ⟨sa2, hsa2⟩ := Int.eq_ofNat_of_zero_le h.sa2.1
  obtain ⟨wc, hwc⟩ := Int.eq_ofNat_of_zero_le h.wc.1
  have hnumeral : ∀ n : Nat, toString (n : Int) = toString n := fun _ => rfl
  have hsummary : (updateValues config).summaryText
      = summaryHead config ++ " [" ++ hexWord (cmdVal config) ++ "]" := rfl
  rw [hsummary, summaryHead, transferOf, hrt, hsa, hrt2, hsa2, hwc]
  simp only [hnumeral]
  rw [hwc] at hcount
  generalize cmdVal config = cmd at hcount ⊢
  cases config.mode with
  | bcToRt =>
      have hread := readSummary_receive config.bus (reads_bcToRt config.bus rt sa wc cmd)
      simp only [String.append_assoc] at hread ⊢
      exact hread
  | rtToBc =>
      have hread := readSummary_transmit config.bus (reads_rtToBc config.bus rt sa wc cmd)
      simp only [String.append_assoc] at hread ⊢
      exact hread
  | rtToRt =>
      have hread := readSummary_transmit config.bus
        (reads_rtToRt config.bus rt sa wc cmd rt2 sa2)
      simp only [String.append_assoc] at hread ⊢
      exact hread
  | modeCodeNoData =>
      have hmode : Reads (keyword " (w/ data) [" .modeCodeWithData <|> keyword " [" .modeCodeNoData)
          " [" BcMode.modeCodeNoData Anything :=
        reads_orElse_right (fun rest _ => keyword_fails [' '] rfl (noneOf_cons (by decide) _))
          (reads_keyword " [" _)
      have hread := readSummary_receive config.bus
        (reads_modeCode config.bus rt sa cmd rfl rfl hmode)
      rw [hcount] at hread
      simp only [String.append_assoc] at hread ⊢
      exact hread
  | modeCodeWithData =>
      have hmode : Reads (keyword " (w/ data) [" .modeCodeWithData <|> keyword " [" .modeCodeNoData)
          " (w/ data) [" BcMode.modeCodeWithData Anything :=
        reads_orElse_left (reads_keyword " (w/ data) [" _)
      have hread := readSummary_receive config.bus
        (reads_modeCode config.bus rt sa cmd rfl rfl hmode)
      rw [hcount] at hread
      simp only [String.append_assoc] at hread ⊢
      exact hread

/-! ## Frames that look the same -/

/-- Counts that agree in five bits. -/
theorem cmdVal_congr {c d : FrameConfig} (hc : Editable c) (hd : Editable d) (hrt : c.rt = d.rt)
    (hsa : c.sa = d.sa) (hwc : c.wc % 32 = d.wc % 32) : cmdVal c = cmdVal d := by
  have hcwc := hc.wc
  have hdwc := hd.wc
  have hmask : (BitVec.ofInt 32 c.wc &&& 0x1F) = (BitVec.ofInt 32 d.wc &&& 0x1F) := by
    have hcases : c.wc = d.wc ∨ (c.wc = 0 ∧ d.wc = 32) ∨ (c.wc = 32 ∧ d.wc = 0) := by omega
    rcases hcases with heq | ⟨hzero, hall⟩ | ⟨hall, hzero⟩
    · rw [heq]
    · rw [hzero, hall]
      rfl
    · rw [hzero, hall]
      rfl
  rw [cmdVal, cmdVal, hrt, hsa, hmask]

theorem summaryText_eq (config : FrameConfig) : (updateValues config).summaryText
    = summaryHead config ++ " [" ++ hexWord (cmdVal config) ++ "]" := rfl

/-- **Frames with the same summary** are those that show the same transfer. -/
theorem summaries_eq_iff {c d : FrameConfig} (hc : Editable c) (hd : Editable d) :
    (updateValues c).summaryText = (updateValues d).summaryText ↔ transferOf c = transferOf d := by
  constructor
  · intro heq
    have hread := readSummary_updateValues hc
    rw [heq, readSummary_updateValues hd] at hread
    exact (Option.some.inj hread).symm
  · intro heq
    rw [transferOf, transferOf, Transfer.mk.injEq] at heq
    obtain ⟨hbus, hmode, hrt, hsa, hrt2, hsa2, hwc⟩ := heq
    rw [← hmode] at hrt2 hsa2 hwc
    have hcount : c.wc % 32 = d.wc % 32 := by
      split at hwc
      · exact hwc
      · rw [hwc]
    rw [summaryText_eq, summaryText_eq, cmdVal_congr hc hd hrt hsa hcount, summaryHead, summaryHead,
      ← hmode, hbus, hrt, hsa]
    cases hm : c.mode with
    | bcToRt | rtToBc =>
        rw [hm] at hwc
        rw [show c.wc = d.wc from hwc]
    | rtToRt =>
        rw [hm] at hrt2 hsa2 hwc
        rw [show c.rt2 = d.rt2 from hrt2, show c.sa2 = d.sa2 from hsa2, show c.wc = d.wc from hwc]
    | modeCodeNoData | modeCodeWithData => rfl

/-- Counts of the same transfer, unless it is a mode code that stands for another one. -/
theorem wc_eq_of_transferOf {c d : FrameConfig} (hc : Editable c) (hd : Editable d)
    (halike : CountsAlike c) (heq : transferOf c = transferOf d) : c.wc = d.wc := by
  have hcwc := hc.wc
  have hdwc := hd.wc
  have hmode : c.mode = d.mode := congrArg Transfer.mode heq
  have hwc : (transferOf c).wc = (transferOf d).wc := congrArg Transfer.wc heq
  rw [transferOf, transferOf, ← hmode] at hwc
  rcases halike with ⟨hnone, hwith⟩ | ⟨hwith, hone⟩
  · have hcode : ¬(c.mode = .modeCodeNoData ∨ c.mode = .modeCodeWithData) := not_or.mpr ⟨hnone, hwith⟩
    simp only [if_neg hcode] at hwc
    exact hwc
  · simp only [if_pos (Or.inr hwith : c.mode = .modeCodeNoData ∨ c.mode = .modeCodeWithData)] at hwc
    omega

/-- What a packet is decoded to is in two fields. -/
theorem decodeFrame_congr {p q : List UInt8} (hcmd : (decodeFrame p).cmd1 = (decodeFrame q).cmd1)
    (hdata : (decodeFrame p).dataWords = (decodeFrame q).dataWords) :
    decodeFrame p = decodeFrame q := by
  have hfields : ∀ r, decodeFrame r = { ({} : MessageTransaction).clear with
      cmd1 := (decodeFrame r).cmd1
      bus1 := 'A'
      cmd1Valid := true
      dataWords := (decodeFrame r).dataWords
      stat1 := 0
      stat1Valid := false } := fun _ => rfl
  rw [hfields p, hfields q, hcmd, hdata]

/-- The grid shows what is sent. -/
theorem shownTexts_of_alike {config : FrameConfig} (h : Editable config) (halike : CountsAlike config) :
    shownTexts (updateValues config) = config.data.toList.take (announced config) :=
  shownTexts_updateValues config ((wordsToShow_eq_iff h).mpr halike)

end TcpFrame
