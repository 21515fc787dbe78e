import Tcp1553.DataTextProofs
import Tcp1553.RelayProofs

/-! # What a frame shows of itself

    `FrameComponent::updateValues` prints a frame: its label, a summary line that ends
    in a command word, and a grid of data words.  The command word is computed once
    more, next to the one the parser assembles from the packet.

    `cmdVal_eq` says which word it is, a receive command whatever the mode, and
    `summary_iff` for which frames the bus shows the same. -/

namespace TcpFrame

open TcpWire TcpParser TcpFraming TcpHeader TcpEncoder TcpRelay

/-! ## The component -/

/-- A cell of the data grid. -/
structure DataLabel where
  text  : String
  shown : Bool
  deriving DecidableEq, Repr

/-- The part of a `FrameComponent` that depends on its configuration. -/
structure FrameComponent where
  config      : FrameConfig
  label       : String
  summaryText : String
  dataLabels  : Vector DataLabel 32

/-- The summary in front of the command word. -/
def summaryHead (config : FrameConfig) : String :=
  "Bus: " ++ String.singleton config.bus ++ " | " ++
    match config.mode with
    | .bcToRt =>
        "BC -> RT " ++ toString config.rt ++ " | SA " ++ toString config.sa
          ++ " | WC " ++ toString config.wc
    | .rtToBc =>
        "RT " ++ toString config.rt ++ " -> BC | SA " ++ toString config.sa
          ++ " | WC " ++ toString config.wc
    | .rtToRt =>
        "RT " ++ toString config.rt ++ "(SA" ++ toString config.sa ++ ") -> RT "
          ++ toString config.rt2 ++ "(SA" ++ toString config.sa2 ++ ") | WC "
          ++ toString config.wc
    | .modeCodeNoData => "BC -> RT " ++ toString config.rt ++ " | MC " ++ toString config.sa
    | .modeCodeWithData =>
        "BC -> RT " ++ toString config.rt ++ " | MC " ++ toString config.sa ++ " (w/ data)"

/-- `uint16_t cmdVal = (config.rt << 11) | (config.sa << 5) | (config.wc & 0x1F)`, the
    operands being `int`. -/
def cmdVal (config : FrameConfig) : UInt16 :=
  let word := (BitVec.ofInt 32 config.rt <<< 11) ||| (BitVec.ofInt 32 config.sa <<< 5)
    ||| (BitVec.ofInt 32 config.wc &&& 0x1F)
  ⟨word.setWidth 16⟩

/-- How many cells of the grid are shown. -/
def wordsToShow (config : FrameConfig) : Int :=
  match config.mode with
  | .modeCodeNoData => 0
  | .modeCodeWithData => 1
  | _ => if config.wc = 0 then 32 else config.wc

/-- `updateValues`; nothing of what was shown before stays. -/
def updateValues (config : FrameConfig) : FrameComponent where
  config      := config
  label       := if config.label = "" then "Untitled Frame" else config.label
  summaryText := summaryHead config ++ " [" ++ hexWord (cmdVal config) ++ "]"
  dataLabels  := Vector.ofFn fun i : Fin 32 =>
    if (i.val : Int) < wordsToShow config then ⟨config.data.get i, true⟩ else ⟨"", false⟩

/-! ## Words as text -/

theorem hexValue_hexDigit : ∀ d < 16, hexValue (hexDigit d) = some d := by decide

/-- Four digits of a word. -/
theorem nibbles (w : UInt16) :
    w.toNat >>> 12 < 16 ∧ (w.toNat >>> 8) &&& 0x0F < 16 ∧ (w.toNat >>> 4) &&& 0x0F < 16 ∧
      w.toNat &&& 0x0F < 16 ∧
      digitsValue [w.toNat >>> 12, (w.toNat >>> 8) &&& 0x0F, (w.toNat >>> 4) &&& 0x0F,
        w.toNat &&& 0x0F] = w.toNat := by
  have hw : w.toNat < 65536 := UInt16.toNat_lt w
  have hmask : ∀ n : Nat, n &&& 0x0F = n % 16 := fun n => Nat.and_two_pow_sub_one_eq_mod n 4
  simp only [hmask, Nat.shiftRight_eq_div_pow, digitsValue, List.foldl_cons, List.foldl_nil]
  omega

/-- **A word that was shown or received is sent as it is**: the data loop reads back
    what the display printed. -/
theorem dataWord_hexWord (w : UInt16) : dataWord (hexWord w) = w := by
  obtain ⟨h3, h2, h1, h0, hvalue⟩ := nibbles w
  have hchars : (hexWord w).toList = [hexDigit (w.toNat >>> 12),
      hexDigit ((w.toNat >>> 8) &&& 0x0F), hexDigit ((w.toNat >>> 4) &&& 0x0F),
      hexDigit (w.toNat &&& 0x0F)] := String.toList_ofList
  have hdigits : (hexWord w).toList.filterMap hexValue = [w.toNat >>> 12,
      (w.toNat >>> 8) &&& 0x0F, (w.toNat >>> 4) &&& 0x0F, w.toNat &&& 0x0F] := by
    rw [hchars, List.filterMap_cons_some (hexValue_hexDigit _ h3),
      List.filterMap_cons_some (hexValue_hexDigit _ h2),
      List.filterMap_cons_some (hexValue_hexDigit _ h1),
      List.filterMap_cons_some (hexValue_hexDigit _ h0), List.filterMap_nil]
  have hnumeral : IsNumeral (hexWord w) := by
    refine ⟨by rw [hchars]; exact List.cons_ne_nil _ _, fun c hc => ?_⟩
    rw [hchars] at hc
    simp only [List.mem_cons, List.not_mem_nil, or_false] at hc
    rcases hc with rfl | rfl | rfl | rfl <;> rw [hexValue_hexDigit _ (by assumption)] <;> rfl
  have hlen : (hexWord w).length ≤ 4 := by
    rw [← String.length_toList, hchars]
    exact Nat.le_refl 4
  rw [dataWord_of_isNumeral hnumeral hlen, strictWord, if_pos hnumeral, hdigits, hvalue,
    UInt16.ofNat_toNat]

/-- Different words have different texts. -/
theorem hexWord_inj {w w' : UInt16} : hexWord w = hexWord w' ↔ w = w' := by
  constructor
  · intro h
    rw [← dataWord_hexWord w, h, dataWord_hexWord]
  · intro h
    rw [h]

/-! ## The command word -/

/-- A small `int`, shifted. -/
theorem toNat_ofInt_shiftLeft {n : Nat} (h : n < 32) {k : Nat} (hk : k ≤ 11) :
    (BitVec.ofInt 32 (n : Int) <<< k).toNat = n <<< k := by
  have hpow : 2 ^ k ≤ 2 ^ 11 := Nat.pow_le_pow_right (by decide) hk
  have hsmall : n * 2 ^ k < 2 ^ 32 :=
    calc n * 2 ^ k ≤ 32 * 2 ^ 11 := Nat.mul_le_mul (Nat.le_of_lt h) hpow
      _ < 2 ^ 32 := by decide
  rw [BitVec.toNat_shiftLeft, BitVec.ofInt_natCast, BitVec.toNat_ofNat,
    Nat.mod_eq_of_lt (by omega : n < 2 ^ 32), Nat.shiftLeft_eq, Nat.mod_eq_of_lt hsmall]

/-- **The word of the summary** is a receive command. -/
theorem cmdVal_eq {config : FrameConfig} (h : Sendable config) :
    cmdVal config = commandWord (toUInt8 config.rt) false (toUInt8 config.sa)
      (toUInt8 config.wc) := by
  have hrange := h.rt
  have hsub := h.sa
  have hcount := h.wc
  have hrt := toUInt8_toNat hrange.1 (by omega)
  have hsa := toUInt8_toNat hsub.1 (by omega)
  have hwc := toUInt8_toNat hcount.1 (by omega)
  generalize (toUInt8 config.rt) = rt at hrt ⊢
  generalize (toUInt8 config.sa) = sa at hsa ⊢
  generalize (toUInt8 config.wc) = wc at hwc ⊢
  have hwcBits : (BitVec.ofInt 32 (wc.toNat : Int) &&& 0x1F).toNat = wc.toNat &&& 0x1F := by
    rw [BitVec.toNat_and, BitVec.ofInt_natCast, BitVec.toNat_ofNat,
      Nat.mod_eq_of_lt (by omega : wc.toNat < 2 ^ 32)]
    rfl
  apply UInt16.toNat_inj.mp
  rw [cmdVal, ← hrt, ← hsa, ← hwc, commandWord, UInt16.toNat_ofBitVec, BitVec.toNat_setWidth,
    BitVec.toNat_or, BitVec.toNat_or, toNat_ofInt_shiftLeft (by omega) (Nat.le_refl 11),
    toNat_ofInt_shiftLeft (by omega) (by omega), hwcBits, UInt16.toNat_ofNat']
  -- no direction is or-ed in
  rw [Bool.toNat_false, Nat.zero_shiftLeft, Nat.or_zero]

/-- The summary ends in a command word. -/
def ShowsCommand (config : FrameConfig) (cmd : UInt16) : Prop :=
  (updateValues config).summaryText = summaryHead config ++ " [" ++ hexWord cmd ++ "]"

theorem showsCommand_iff (config : FrameConfig) (cmd : UInt16) :
    ShowsCommand config cmd ↔ cmdVal config = cmd := by
  rw [ShowsCommand, ← hexWord_inj]
  show summaryHead config ++ " [" ++ hexWord (cmdVal config) ++ "]"
    = summaryHead config ++ " [" ++ hexWord cmd ++ "]" ↔ _
  rw [String.append_left_inj, String.append_right_inj]

/-- The two words differ in the direction or not at all. -/
theorem cmdVal_eq_decoded_iff {config : FrameConfig} (h : Sendable config) :
    cmdVal config = (decodeFrame (packetBytes config)).cmd1 ↔ config.mode = .bcToRt := by
  have hsa := h.sa_toUInt8_lt
  rw [cmdVal_eq h, decodeFrame_cmd1]
  constructor
  · intro heq
    have htr := congrArg trField heq
    rw [trField_commandWord hsa, trField_commandWord hsa] at htr
    refine h.mode.resolve_right fun hmode => ?_
    rw [hmode] at htr
    exact absurd htr (by decide)
  · intro hmode
    rw [hmode]
    rfl

/-- **When the summary shows the word on the bus.**  For a frame in range the monitor
    decodes one transaction, and the summary ends in its command word exactly when the
    frame is a receive command. -/
theorem summary_iff {config : FrameConfig} (h : Sendable config) :
    ∃ trans, transactions (ProtocolParser.reset.parseStream (packetBytes config)).1 = [trans] ∧
      (ShowsCommand config trans.cmd1 ↔ config.mode = .bcToRt) :=
  ⟨decodeFrame (packetBytes config),
    transactions_isFrame ⟨length_packetBytes config, frameAt_packetBytes config⟩,
    (showsCommand_iff config _).trans (cmdVal_eq_decoded_iff h)⟩

theorem summary_iff_syncFrame :
    ∃ trans, transactions
        (ProtocolParser.reset.parseStream (packetBytes syncFrame)).1 = [trans] ∧
      (ShowsCommand syncFrame trans.cmd1 ↔ syncFrame.mode = .bcToRt) :=
  summary_iff sendable_syncFrame

/-- A transmit request is shown as a receive command. -/
theorem request_shown_as_receive :
    ¬∀ config, Sendable config → ∀ trans,
      transactions (ProtocolParser.reset.parseStream (packetBytes config)).1 = [trans] →
        ShowsCommand config trans.cmd1 := by
  intro hall
  have hshows := hall syncFrame sendable_syncFrame _
    (transactions_isFrame ⟨length_packetBytes syncFrame, frameAt_packetBytes syncFrame⟩)
  have hmode := (cmdVal_eq_decoded_iff sendable_syncFrame).mp ((showsCommand_iff _ _).mp hshows)
  exact absurd hmode (by decide)

end TcpFrame
