import Mathlib.Data.List.Forall2
import Mathlib.Data.Vector.Basic
import Tcp1553.FramingProofs

/-! # The controller's packets, and decoding them

    `framePacket` is the part of `BusController::sendAcyclicFrame` that fills the
    packed structure from a `FrameConfig`; `stoul` is the conversion its data
    loop relies on, with the white space, sign, prefix and overflow behaviour of
    the C++ library.

    The bridge to the parser is `decodeFrame_packet`: what the monitor decodes
    from one packet, field by field.  `monitor_undoes_controller` lifts it to
    lists of packets with junk around them, cut in any way. -/

namespace TcpEncoder

open TcpWire TcpParser TcpFraming StreamScanner

/-- Transfer kinds the editor offers. -/
inductive BcMode where
  | bcToRt
  | rtToBc
  | rtToRt
  | modeCodeNoData
  | modeCodeWithData
  deriving DecidableEq, Repr

/-- A frame as the user configured it. -/
structure FrameConfig where
  label : String
  bus   : Char
  rt    : Int
  sa    : Int
  rt2   : Int
  sa2   : Int
  wc    : Int
  mode  : BcMode
  data  : Vector String 32
  deriving DecidableEq, Repr

/-! ## `std::stoul(text, nullptr, 16)` -/

/-- `isspace`: blank, or one of the five control characters 9 to 13. -/
def isSpace (c : Char) : Bool := c.toNat == 32 || (9 ≤ c.toNat && c.toNat ≤ 13)

/-- Value of a hexadecimal digit. -/
def hexValue (c : Char) : Option Nat :=
  if 48 ≤ c.toNat ∧ c.toNat ≤ 57 then some (c.toNat - 48)
  else if 65 ≤ c.toNat ∧ c.toNat ≤ 70 then some (c.toNat - 55)
  else if 97 ≤ c.toNat ∧ c.toNat ≤ 102 then some (c.toNat - 87)
  else none

/-- The longest run of hexadecimal digits. -/
def hexDigits : List Char → List Nat
  | [] => []
  | c :: cs =>
      match hexValue c with
      | some d => d :: hexDigits cs
      | none => []

/-- An optional sign; `true` is a minus. -/
def takeSign : List Char → Bool × List Char
  | '-' :: cs => (true, cs)
  | '+' :: cs => (false, cs)
  | cs => (false, cs)

/-- An optional `0x`, which counts as a prefix only before a digit. -/
def dropHexPrefix : List Char → List Char
  | '0' :: x :: d :: cs =>
      if (x = 'x' ∨ x = 'X') ∧ (hexValue d).isSome then d :: cs else '0' :: x :: d :: cs
  | cs => cs

/-- The converted `unsigned long`; `none` is either of the two exceptions. -/
def stoul (text : String) : Option Nat :=
  let signed := takeSign (text.toList.dropWhile isSpace)
  let digits := hexDigits (dropHexPrefix signed.2)
  let value := digits.foldl (fun n d => n * 16 + d) 0
  -- invalid_argument
  if digits = [] then none
  -- out_of_range
  else if 2 ^ 64 ≤ value then none
  else some (if signed.1 then (2 ^ 64 - value) % 2 ^ 64 else value)

/-- The 16-bit value the data loop obtains from one string. -/
def dataWord (text : String) : UInt16 :=
  match stoul text with
  | some v => UInt16.ofNat v
  | none => 0

/-! ## The packet -/

/-- Conversion of an `int` to `uint8_t`. -/
def toUInt8 (n : Int) : UInt8 := UInt8.ofNat (n % 256).toNat

/-- The packet `sendAcyclicFrame` fills for a frame. -/
def framePacket (config : FrameConfig) : Qemu1553Packet where
  magic0 := 0xAA
  magic1 := 0x55
  mode :=
    if config.mode = .bcToRt then 0x00
    else if config.mode = .rtToBc then 0x01
    -- the three other modes go out as receive commands
    else 0x00
  rt := toUInt8 config.rt
  sa := toUInt8 config.sa
  wc := toUInt8 config.wc
  dataWords := config.data.map fun text => htons (dataWord text)

/-- The 70 bytes handed to `write`. -/
def packetBytes (config : FrameConfig) : List UInt8 := (framePacket config).bytes

/-- The values the encoder obtained from the data strings. -/
def encodedWords (config : FrameConfig) : List UInt16 := config.data.toList.map dataWord

theorem length_packetBytes (config : FrameConfig) : (packetBytes config).length = 70 :=
  (framePacket config).length_bytes

theorem length_encodedWords (config : FrameConfig) : (encodedWords config).length = 32 := by
  rw [encodedWords, List.length_map, Vector.length_toList]

/-- The payload is the encoded words in network order. -/
theorem packetBytes_payload (config : FrameConfig) :
    (packetBytes config).drop 6
      = ((encodedWords config).map htons).flatMap storeUInt16 := by
  have hmap : (framePacket config).dataWords.toList = (encodedWords config).map htons := by
    rw [encodedWords, List.map_map]
    exact Vector.toList_map
  show (framePacket config).dataWords.toList.flatMap storeUInt16 = _
  rw [hmap]

/-- The mode byte is always one the parser knows. -/
theorem framePacket_mode (config : FrameConfig) :
    (framePacket config).mode = 0x00 ∨ (framePacket config).mode = 0x01 := by
  show (if config.mode = .bcToRt then (0x00 : UInt8)
    else if config.mode = .rtToBc then 0x01 else 0x00) = 0x00 ∨ _
  by_cases h0 : config.mode = .bcToRt
  · exact Or.inl (if_pos h0)
  · by_cases h1 : config.mode = .rtToBc
    · refine Or.inr ?_
      show (if config.mode = .bcToRt then (0x00 : UInt8)
        else if config.mode = .rtToBc then 0x01 else 0x00) = 0x01
      rw [if_neg h0, if_pos h1]
    · refine Or.inl ?_
      rw [if_neg h0, if_neg h1]

/-- Every packet is a frame the parser accepts. -/
theorem frameAt_packetBytes (config : FrameConfig) : FrameAt (packetBytes config) :=
  ⟨Nat.le_of_eq (length_packetBytes config).symm, ⟨rfl, rfl⟩, framePacket_mode config⟩

/-- Byte values in range survive the conversion. -/
theorem toUInt8_toNat {n : Int} (h0 : 0 ≤ n) (h : n < 256) : ((toUInt8 n).toNat : Int) = n := by
  rw [toUInt8, UInt8.toNat_ofNat']
  omega

/-! ## What the monitor decodes from one packet -/

/-- The ranges the editor and the protocol allow, for the two data modes. -/
structure Sendable (config : FrameConfig) : Prop where
  mode : config.mode = .bcToRt ∨ config.mode = .rtToBc
  rt   : 0 ≤ config.rt ∧ config.rt < 32
  sa   : 0 ≤ config.sa ∧ config.sa < 32
  wc   : 0 ≤ config.wc ∧ config.wc ≤ 32

/-- The transaction shows the frame: direction, addresses, count and words. -/
structure Shows (config : FrameConfig) (trans : MessageTransaction) : Prop where
  tr   : trField trans.cmd1 = 1 ↔ config.mode = .rtToBc
  rt   : (rtField trans.cmd1 : Int) = config.rt
  sa   : (saField trans.cmd1 : Int) = config.sa
  wc   : (wcField trans.cmd1 : Int) = config.wc % 32
  data : trans.dataWords
    = (encodedWords config).take (if config.wc = 0 then 32 else config.wc.toNat)

/-- Words read back from the payload of a packet. -/
theorem payloadWords_packet (config : FrameConfig) {n : Nat} (h : n ≤ 32) :
    payloadWords ((packetBytes config).drop 6) n = (encodedWords config).take n := by
  have hlen := length_encodedWords config
  rw [packetBytes_payload]
  refine List.ext_getElem ?_ ?_
  · rw [length_payloadWords, List.length_take]
    omega
  · intro i hi hi'
    rw [length_payloadWords] at hi
    have hi32 : i < (encodedWords config).length := by omega
    rw [List.getElem_take, getElem_payloadWords, payloadWord_store_htons _ hi32,
      List.getD_eq_getElem?_getD, List.getElem?_eq_getElem hi32, Option.getD_some]

/-- Words the parser takes from a packet with an announced count in range. -/
theorem meaningfulWords_toUInt8 {n : Int} (h0 : 0 ≤ n) (h : n ≤ 32) :
    meaningfulWords (toUInt8 n) = if n = 0 then 32 else n.toNat := by
  have hval := toUInt8_toNat h0 (by omega : n < 256)
  rw [meaningfulWords]
  by_cases hz : n = 0
  · subst hz
    rfl
  · have hne : toUInt8 n ≠ 0 := by
      intro hc
      rw [hc] at hval
      exact hz hval.symm
    rw [if_neg hne, if_neg hz, if_neg (by omega)]
    omega

/-- The word of the parser has the direction in it. -/
theorem decodeFrame_cmd1 (config : FrameConfig) :
    (decodeFrame (packetBytes config)).cmd1
      = commandWord (toUInt8 config.rt) (decide (config.mode = .rtToBc)) (toUInt8 config.sa)
          (toUInt8 config.wc) := by
  have hcmd : (decodeFrame (packetBytes config)).cmd1
      = commandWord (toUInt8 config.rt) ((framePacket config).mode == 0x01)
          (toUInt8 config.sa) (toUInt8 config.wc) := rfl
  have hmode : ((framePacket config).mode == 0x01) = decide (config.mode = .rtToBc) := by
    show ((if config.mode = .bcToRt then (0x00 : UInt8)
      else if config.mode = .rtToBc then 0x01 else 0x00) == 0x01) = _
    cases config.mode <;> rfl
  rw [hcmd, hmode]

theorem Sendable.sa_toUInt8_lt {config : FrameConfig} (h : Sendable config) :
    (toUInt8 config.sa).toNat < 32 := by
  have hrange := h.sa
  have hsa := toUInt8_toNat hrange.1 (by omega)
  omega

/-- **One packet, decoded.** -/
theorem decodeFrame_packet {config : FrameConfig} (h : Sendable config) :
    Shows config (decodeFrame (packetBytes config)) := by
  have hrt := toUInt8_toNat h.rt.1 (by have := h.rt.2; omega)
  have hsa := toUInt8_toNat h.sa.1 (by have := h.sa.2; omega)
  have hwc := toUInt8_toNat h.wc.1 (by have := h.wc.2; omega)
  have hsa32 := h.sa_toUInt8_lt
  have hcmd := decodeFrame_cmd1 config
  have hrange := h.rt.2
  refine ⟨?_, ?_, ?_, ?_, ?_⟩
  · rw [hcmd, trField_commandWord hsa32, Bool.toNat_eq_one, decide_eq_true_iff]
  · rw [hcmd, rtField_commandWord hsa32]
    omega
  · rw [hcmd, saField_commandWord hsa32]
    exact hsa
  · rw [hcmd, wcField_commandWord hsa32]
    omega
  · show payloadWords ((packetBytes config).drop 6) (meaningfulWords (toUInt8 config.wc)) = _
    rw [payloadWords_packet config (meaningfulWords_le _),
      meaningfulWords_toUInt8 h.wc.1 h.wc.2]

/-! ## Lists of packets with junk around them -/

/-- The stream on the wire: each packet behind some junk. -/
def wireStream : List (List UInt8 × FrameConfig) → List UInt8 → List UInt8
  | [], trailing => trailing
  | (junk, config) :: rest, trailing => junk ++ packetBytes config ++ wireStream rest trailing

/-- The drain of such a stream emits one transaction per packet. -/
theorem scan_wireStream {trailing : List UInt8} (htrail : NoSync trailing) :
    ∀ items : List (List UInt8 × FrameConfig),
      (∀ it ∈ items, NoSync it.1) → (∀ it ∈ items, Sendable it.2) →
      List.Forall₂ Shows (items.map Prod.snd)
        (transactions (scan parserScanner (wireStream items trailing)).1) := by
  intro items
  induction items with
  | nil =>
      intro _ _
      rw [wireStream, scan_junk trailing htrail]
      exact List.Forall₂.nil
  | cons it items ih =>
      intro hjunk hsend
      obtain ⟨junk, config⟩ := it
      have hhead := scan_junk_frame (length_packetBytes config) (frameAt_packetBytes config)
        (wireStream items trailing) junk (hjunk _ List.mem_cons_self)
      rw [wireStream, hhead.1]
      refine List.Forall₂.cons ?_ ?_
      · exact decodeFrame_packet (hsend _ List.mem_cons_self)
      · exact ih (fun it hit => hjunk it (List.mem_cons_of_mem _ hit))
          (fun it hit => hsend it (List.mem_cons_of_mem _ hit))

/-- **Monitor decoding undoes controller encoding**, for any list of frames,
    any junk without the sync pattern around their packets and any cut of the
    resulting stream. -/
theorem monitor_undoes_controller (items : List (List UInt8 × FrameConfig))
    (trailing : List UInt8) (chunks : List (List UInt8))
    (hjunk : ∀ it ∈ items, NoSync it.1) (htrail : NoSync trailing)
    (hsend : ∀ it ∈ items, Sendable it.2)
    (hcut : chunks.flatten = wireStream items trailing) :
    List.Forall₂ Shows (items.map Prod.snd)
      (transactions (ProtocolParser.reset.parseChunks chunks).1) := by
  rw [parseChunks_flatten, hcut]
  exact scan_wireStream htrail items hjunk hsend

/-- A transmit request whose payload is full of sync patterns. -/
def syncFrame : FrameConfig where
  label := "status request"
  bus   := 'A'
  rt    := 5
  sa    := 2
  rt2   := 0
  sa2   := 0
  wc    := 0
  mode  := .rtToBc
  data  := Vector.replicate 32 "AA55"

theorem sendable_syncFrame : Sendable syncFrame where
  mode := Or.inr rfl
  rt   := by decide
  sa   := by decide
  wc   := by decide

/-- Junk that ends in half a sync pattern, two packets, and a cut inside the first. -/
theorem monitor_undoes_controller_syncFrame :
    List.Forall₂ Shows [syncFrame, syncFrame]
      (transactions (ProtocolParser.reset.parseChunks
        [(wireStream [([0x00, 0xAA], syncFrame), ([], syncFrame)] [0x55]).take 40,
          (wireStream [([0x00, 0xAA], syncFrame), ([], syncFrame)] [0x55]).drop 40]).1) := by
  refine monitor_undoes_controller [([0x00, 0xAA], syncFrame), ([], syncFrame)] [0x55] _
    ?_ (by decide) ?_ ?_
  · simp only [List.mem_cons, List.not_mem_nil, or_false, forall_eq_or_imp, forall_eq]
    decide
  · simp only [List.mem_cons, List.not_mem_nil, or_false, forall_eq_or_imp, forall_eq]
    exact ⟨sendable_syncFrame, sendable_syncFrame⟩
  · rw [List.flatten_cons, List.flatten_singleton, List.take_append_drop]

end TcpEncoder
