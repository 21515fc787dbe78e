import Mathlib.Data.Nat.Digits.Defs
import Tcp1553.EncoderProofs
import Tcp1553.HeaderProofs

/-! # What the data strings are sent as

    The data loop of `sendAcyclicFrame` converts each string with `std::stoul` and
    keeps 16 bits of the result; a string that throws is sent as 0.  It does so in
    every mode.

    `numeralOf` is the part of a string that `stoul` reads.  `dataWord_eq_zero_iff`
    and `dataWord_numeral` say what becomes of it; from them follow
    `carriesNoData_iff`, which strings make an empty payload, and
    `encodedStrictly_iff`, which short strings are sent as what they say. -/

namespace TcpEncoder

open TcpWire TcpParser TcpFraming TcpHeader

/-! ## Digits -/

/-- The number a list of digits stands for. -/
def digitsValue (ds : List Nat) : Nat := ds.foldl (fun n d => n * 16 + d) 0

/-- The last digit read is the lowest. -/
theorem digitsValue_eq_ofDigits (ds : List Nat) : digitsValue ds = Nat.ofDigits 16 ds.reverse := by
  rw [digitsValue, List.foldl_eq_foldr_reverse, Nat.ofDigits_eq_foldr]
  congr 1
  funext d n
  rw [Nat.cast_id, Nat.add_comm, Nat.mul_comm]

theorem digitsValue_lt {ds : List Nat} (h : ∀ d ∈ ds, d < 16) :
    digitsValue ds < 16 ^ ds.length := by
  have hrev : ∀ d ∈ ds.reverse, d < 16 := fun d hd => h d (List.mem_reverse.mp hd)
  rw [digitsValue_eq_ofDigits, ← List.length_reverse]
  exact Nat.ofDigits_lt_base_pow_length (by decide) hrev

/-- Sixteen bits are the last four digits. -/
theorem digitsValue_mod {ds : List Nat} (h : ∀ d ∈ ds, d < 16) :
    digitsValue ds % 65536 = digitsValue (ds.drop (ds.length - 4)) := by
  have hrev : ∀ d ∈ ds.reverse, d < 16 := fun d hd => h d (List.mem_reverse.mp hd)
  rw [digitsValue_eq_ofDigits, digitsValue_eq_ofDigits, ← List.take_reverse]
  exact Nat.ofDigits_mod_pow_eq_ofDigits_take 4 (by decide) ds.reverse hrev

theorem digitsValue_eq_zero_iff (ds : List Nat) : digitsValue ds = 0 ↔ ∀ d ∈ ds, d = 0 := by
  have hzero : ∀ es : List Nat, Nat.ofDigits 16 es = 0 ↔ ∀ d ∈ es, d = 0 := by
    intro es
    induction es with
    | nil => exact ⟨fun _ d hd => (by cases hd), fun _ => rfl⟩
    | cons d es ih =>
        rw [Nat.ofDigits_cons, List.forall_mem_cons, Nat.add_eq_zero_iff, Nat.mul_eq_zero, ih]
        exact and_congr_right' (or_iff_right (by decide))
  rw [digitsValue_eq_ofDigits, hzero]
  exact forall_congr' fun d => imp_congr_left List.mem_reverse

/-! ## The numeral in a string -/

/-- The digits `stoul` reads, behind white space, a sign and a prefix. -/
def numeralOf (text : String) : List Nat :=
  hexDigits (dropHexPrefix (takeSign (text.toList.dropWhile isSpace)).2)

theorem stoul_eq (text : String) :
    stoul text
      = if numeralOf text = [] then none
        else if 2 ^ 64 ≤ digitsValue (numeralOf text) then none
        else some (if (takeSign (text.toList.dropWhile isSpace)).1
          then (2 ^ 64 - digitsValue (numeralOf text)) % 2 ^ 64
          else digitsValue (numeralOf text)) := rfl

theorem hexValue_lt {c : Char} {d : Nat} (h : hexValue c = some d) : d < 16 := by
  rw [hexValue] at h
  split at h
  · cases h
    omega
  · split at h
    · cases h
      omega
    · split at h
      · cases h
        omega
      · cases h

theorem hexDigits_lt (cs : List Char) : ∀ d ∈ hexDigits cs, d < 16 := by
  induction cs with
  | nil => intro d hd; cases hd
  | cons c cs ih =>
      rw [hexDigits]
      cases hc : hexValue c with
      | none => intro d hd; cases hd
      | some d => exact List.forall_mem_cons.mpr ⟨hexValue_lt hc, ih⟩

/-- Strings that are sent as 0: no number, one out of range, or one that ends in four
    zeros. -/
def ReadsAsZero (text : String) : Prop :=
  numeralOf text = [] ∨ 2 ^ 64 ≤ digitsValue (numeralOf text) ∨
    ∀ d ∈ (numeralOf text).drop ((numeralOf text).length - 4), d = 0

instance (text : String) : Decidable (ReadsAsZero text) :=
  inferInstanceAs (Decidable (_ ∨ _ ∨ _))

/-- **The strings that are sent as 0.**  A sign makes no difference to it. -/
theorem dataWord_eq_zero_iff (text : String) : dataWord text = 0 ↔ ReadsAsZero text := by
  have hdigits : ∀ d ∈ numeralOf text, d < 16 := hexDigits_lt _
  have hword : ∀ v : Nat, UInt16.ofNat v = 0 ↔ v % 65536 = 0 := by
    intro v
    rw [← UInt16.toNat_inj, UInt16.toNat_ofNat']
    exact Iff.rfl
  rw [dataWord, stoul_eq, ReadsAsZero, ← digitsValue_eq_zero_iff, ← digitsValue_mod hdigits]
  by_cases hnone : numeralOf text = []
  · rw [if_pos hnone]
    exact ⟨fun _ => Or.inl hnone, fun _ => rfl⟩
  · rw [if_neg hnone]
    by_cases hbig : 2 ^ 64 ≤ digitsValue (numeralOf text)
    · rw [if_pos hbig]
      exact ⟨fun _ => Or.inr (Or.inl hbig), fun _ => rfl⟩
    · rw [if_neg hbig]
      have hstrip : ∀ P : Prop, (numeralOf text = [] ∨ 2 ^ 64 ≤ digitsValue (numeralOf text) ∨ P)
          ↔ P := fun P => by simp only [hnone, hbig, false_or]
      rw [hstrip]
      show UInt16.ofNat _ = 0 ↔ _
      rw [hword]
      split
      · -- the complement of a multiple of 65536 is one
        omega
      · exact Iff.rfl

/-! ## Requests -/

/-- A word is sent as two zero bytes only when it is 0. -/
theorem storeUInt16_htons_zero_iff (w : UInt16) :
    (∀ b ∈ storeUInt16 (htons w), b = 0) ↔ w = 0 := by
  have hw : w.toNat < 65536 := UInt16.toNat_lt w
  rw [storeUInt16, htons_mod, htons_div]
  constructor
  · intro hall
    have hhigh := congrArg UInt8.toNat (hall _ List.mem_cons_self)
    have hlow := congrArg UInt8.toNat (hall _ (List.mem_cons_of_mem _ List.mem_cons_self))
    rw [UInt8.toNat_ofNat', Nat.mod_eq_of_lt (by omega)] at hhigh hlow
    apply UInt16.toNat_inj.mp
    show w.toNat = 0
    rw [← Nat.div_add_mod w.toNat 256, show w.toNat / 256 = 0 from hhigh,
      show w.toNat % 256 = 0 from hlow]
  · rintro rfl b hb
    simpa using hb

/-- A request without data: nothing but zeros in its payload, and nothing but zeros
    shown for it by the monitor. -/
structure CarriesNoData (config : FrameConfig) : Prop where
  payload : (packetBytes config).drop 6 = List.replicate 64 0
  decoded : ∀ trans ∈ transactions (ProtocolParser.reset.parseStream (packetBytes config)).1,
    ∀ w ∈ trans.dataWords, w = 0

/-- The payload is empty when every string is sent as 0. -/
theorem payload_zero_iff (config : FrameConfig) :
    (packetBytes config).drop 6 = List.replicate 64 0 ↔ ∀ w ∈ encodedWords config, w = 0 := by
  have hlen : ((packetBytes config).drop 6).length = 64 := by
    rw [List.length_drop, length_packetBytes]
  rw [List.eq_replicate_iff, and_iff_right hlen, packetBytes_payload]
  simp only [List.mem_flatMap, List.mem_map]
  constructor
  · intro hall w hw
    exact (storeUInt16_htons_zero_iff w).mp fun b hb => hall b ⟨_, ⟨w, hw, rfl⟩, hb⟩
  · rintro hall b ⟨_, ⟨w, hw, rfl⟩, hb⟩
    exact (storeUInt16_htons_zero_iff w).mpr (hall w hw) b hb

/-- **When a request carries no data.**  The mode has no part in it: every string has
    to be one that is sent as 0. -/
theorem carriesNoData_iff (config : FrameConfig) :
    CarriesNoData config ↔ ∀ text ∈ config.data.toList, ReadsAsZero text := by
  have hwords : (∀ w ∈ encodedWords config, w = 0)
      ↔ ∀ text ∈ config.data.toList, ReadsAsZero text := by
    rw [encodedWords, List.forall_mem_map]
    exact forall₂_congr fun text _ => dataWord_eq_zero_iff text
  rw [← hwords]
  constructor
  · intro h
    exact (payload_zero_iff config).mp h.payload
  · intro h
    refine ⟨(payload_zero_iff config).mpr h, fun trans htrans w hw => ?_⟩
    rw [transactions_isFrame ⟨length_packetBytes config, frameAt_packetBytes config⟩] at htrans
    obtain rfl := List.mem_singleton.mp htrans
    -- the words decoded are the first of those sent
    have hshown : w ∈ payloadWords ((packetBytes config).drop 6)
        (meaningfulWords (toUInt8 config.wc)) := hw
    rw [payloadWords_packet config (meaningfulWords_le _)] at hshown
    exact h w (List.mem_of_mem_take hshown)

/-- A request whose strings hold words received earlier sends these words out. -/
theorem request_carries_data :
    ¬∀ config : FrameConfig, config.mode = .rtToBc → CarriesNoData config := by
  intro hall
  have hzero := (payload_zero_iff syncFrame).mp (hall syncFrame rfl).payload
  have hword : dataWord "AA55" ∈ encodedWords syncFrame := by
    refine List.mem_map_of_mem ?_
    show "AA55" ∈ (Vector.replicate 32 "AA55").toList
    rw [Vector.toList_replicate]
    exact List.mem_replicate.mpr ⟨by decide, rfl⟩
  have hdigits : numeralOf "AA55" = [10, 10, 5, 5] := by
    rw [numeralOf, show ("AA55" : String).toList = ['A', 'A', '5', '5'] from rfl]
    rfl
  have hreads := (dataWord_eq_zero_iff _).mp (hzero _ hword)
  rw [ReadsAsZero, hdigits] at hreads
  exact absurd hreads (by decide)

/-! ## Short strings -/

/-- A text of hexadecimal digits and nothing else. -/
def IsNumeral (text : String) : Prop :=
  text.toList ≠ [] ∧ ∀ c ∈ text.toList, (hexValue c).isSome = true

instance (text : String) : Decidable (IsNumeral text) := inferInstanceAs (Decidable (_ ∧ _))

/-- The word a text of at most four characters should be sent as: what it says, or 0
    when it is no numeral. -/
def strictWord (text : String) : UInt16 :=
  if IsNumeral text then UInt16.ofNat (digitsValue (text.toList.filterMap hexValue)) else 0

theorem hexDigits_of_digits {cs : List Char} (h : ∀ c ∈ cs, (hexValue c).isSome = true) :
    hexDigits cs = cs.filterMap hexValue := by
  induction cs with
  | nil => rfl
  | cons c cs ih =>
      obtain ⟨hc, hcs⟩ := List.forall_mem_cons.mp h
      obtain ⟨d, hd⟩ := Option.isSome_iff_exists.mp hc
      rw [hexDigits, hd, List.filterMap_cons_some hd, ih hcs]

/-- No digit is a blank. -/
theorem isSpace_of_digit {c : Char} (h : (hexValue c).isSome = true) : isSpace c = false := by
  rw [isSpace, Bool.or_eq_false_iff, Bool.and_eq_false_iff, beq_eq_false_iff_ne]
  simp only [decide_eq_false_iff_not]
  rw [hexValue] at h
  split at h
  · omega
  · split at h
    · omega
    · split at h
      · omega
      · cases h

/-- A numeral has no sign. -/
theorem takeSign_of_digits {cs : List Char} (h : ∀ c ∈ cs, (hexValue c).isSome = true) :
    takeSign cs = (false, cs) := by
  unfold takeSign
  split
  · exact absurd (h _ List.mem_cons_self) (by decide)
  · exact absurd (h _ List.mem_cons_self) (by decide)
  · rfl

/-- A numeral has no prefix. -/
theorem dropHexPrefix_of_digits {cs : List Char} (h : ∀ c ∈ cs, (hexValue c).isSome = true) :
    dropHexPrefix cs = cs := by
  unfold dropHexPrefix
  split
  · rename_i x d rest
    refine if_neg ?_
    rintro ⟨hx | hx, -⟩
    · subst hx
      exact absurd (h 'x' (List.mem_cons_of_mem _ List.mem_cons_self)) (by decide)
    · subst hx
      exact absurd (h 'X' (List.mem_cons_of_mem _ List.mem_cons_self)) (by decide)
  · rfl

/-- There is nothing in front of the digits of a numeral. -/
theorem takeSign_of_isNumeral {text : String} (h : IsNumeral text) :
    takeSign (text.toList.dropWhile isSpace) = (false, text.toList) := by
  have hblank : text.toList.dropWhile isSpace = text.toList := by
    cases hcs : text.toList with
    | nil => rfl
    | cons c cs =>
        have hc := isSpace_of_digit (h.2 c (hcs ▸ List.mem_cons_self))
        rw [List.dropWhile_cons, hc]
        rfl
  rw [hblank, takeSign_of_digits h.2]

/-- `stoul` reads all of a numeral. -/
theorem numeralOf_of_isNumeral {text : String} (h : IsNumeral text) :
    numeralOf text = text.toList.filterMap hexValue := by
  rw [numeralOf, takeSign_of_isNumeral h, dropHexPrefix_of_digits h.2, hexDigits_of_digits h.2]

theorem numeralOf_ne_nil {text : String} (h : IsNumeral text) : numeralOf text ≠ [] := by
  rw [numeralOf_of_isNumeral h, ne_eq, List.filterMap_eq_nil_iff]
  intro hnone
  obtain ⟨c, hc⟩ := List.exists_mem_of_ne_nil _ h.1
  have hdigit := h.2 c hc
  rw [hnone c hc] at hdigit
  cases hdigit

theorem length_hexDigits_le (cs : List Char) : (hexDigits cs).length ≤ cs.length := by
  induction cs with
  | nil => exact Nat.le_refl 0
  | cons c cs ih =>
      rw [hexDigits]
      cases hexValue c with
      | none => exact Nat.zero_le _
      | some d => exact Nat.succ_le_succ ih

theorem length_dropHexPrefix_le (cs : List Char) : (dropHexPrefix cs).length ≤ cs.length := by
  unfold dropHexPrefix
  split
  · split
    · simp only [List.length_cons]
      omega
    · exact Nat.le_refl _
  · exact Nat.le_refl _

theorem length_takeSign_le (cs : List Char) : (takeSign cs).2.length ≤ cs.length := by
  unfold takeSign
  split
  · exact Nat.le_succ _
  · exact Nat.le_succ _
  · exact Nat.le_refl _

/-- A numeral is no longer than its text. -/
theorem length_numeralOf_le (text : String) : (numeralOf text).length ≤ text.length := by
  calc (numeralOf text).length
      ≤ (dropHexPrefix (takeSign (text.toList.dropWhile isSpace)).2).length :=
        length_hexDigits_le _
    _ ≤ (takeSign (text.toList.dropWhile isSpace)).2.length := length_dropHexPrefix_le _
    _ ≤ (text.toList.dropWhile isSpace).length := length_takeSign_le _
    _ ≤ text.toList.length := (List.dropWhile_suffix _).length_le
    _ = text.length := String.length_toList

/-- Four digits fit in a word. -/
theorem digitsValue_numeralOf_lt {text : String} (hlen : text.length ≤ 4) :
    digitsValue (numeralOf text) < 65536 := by
  calc digitsValue (numeralOf text) < 16 ^ (numeralOf text).length :=
        digitsValue_lt (hexDigits_lt _)
    _ ≤ 16 ^ 4 := Nat.pow_le_pow_right (by decide)
        (Nat.le_trans (length_numeralOf_le text) hlen)
    _ = 65536 := rfl

/-- A numeral of at most four digits is sent as its value. -/
theorem dataWord_of_isNumeral {text : String} (h : IsNumeral text) (hlen : text.length ≤ 4) :
    dataWord text = strictWord text := by
  have hlt := digitsValue_numeralOf_lt hlen
  have hsmall : ¬2 ^ 64 ≤ digitsValue (numeralOf text) := by omega
  rw [strictWord, if_pos h, dataWord, stoul_eq, if_neg (numeralOf_ne_nil h), if_neg hsmall,
    takeSign_of_isNumeral h, ← numeralOf_of_isNumeral h]
  rfl

/-- **The short strings that are sent strictly**: numerals, and texts in which `stoul`
    finds no digit or only zeros. -/
theorem dataWord_eq_strictWord_iff {text : String} (hlen : text.length ≤ 4) :
    dataWord text = strictWord text ↔ IsNumeral text ∨ ∀ d ∈ numeralOf text, d = 0 := by
  by_cases h : IsNumeral text
  · exact ⟨fun _ => Or.inl h, fun _ => dataWord_of_isNumeral h hlen⟩
  · have hlt := digitsValue_numeralOf_lt hlen
    have hsmall : ¬2 ^ 64 ≤ digitsValue (numeralOf text) := by omega
    have hall : (numeralOf text).drop ((numeralOf text).length - 4) = numeralOf text := by
      rw [Nat.sub_eq_zero_of_le (Nat.le_trans (length_numeralOf_le text) hlen), List.drop_zero]
    rw [strictWord, if_neg h, dataWord_eq_zero_iff, ReadsAsZero, hall, or_iff_right h,
      or_iff_right hsmall]
    constructor
    · rintro (hnone | hzeros)
      · rw [hnone]
        intro d hd
        cases hd
      · exact hzeros
    · exact Or.inr

/-- The payload, string by string. -/
theorem payloadWords_eq_map_iff (config : FrameConfig) (word : String → UInt16) :
    payloadWords ((packetBytes config).drop 6) 32 = config.data.toList.map word
      ↔ ∀ text ∈ config.data.toList, dataWord text = word text := by
  have hwords : (encodedWords config).take 32 = encodedWords config := by
    rw [← length_encodedWords config, List.take_length]
  rw [payloadWords_packet config (Nat.le_refl 32), hwords, encodedWords, List.map_inj_left]

/-- **When data text is encoded strictly.**  For strings of at most four characters
    the payload words are the values of the numerals and 0 for everything else exactly
    when every other string has no digit but zeros where `stoul` looks for one. -/
theorem encodedStrictly_iff (config : FrameConfig)
    (htext : ∀ text ∈ config.data.toList, text.length ≤ 4) :
    payloadWords ((packetBytes config).drop 6) 32 = config.data.toList.map strictWord
      ↔ ∀ text ∈ config.data.toList, IsNumeral text ∨ ∀ d ∈ numeralOf text, d = 0 := by
  rw [payloadWords_eq_map_iff]
  exact forall₂_congr fun text htxt => dataWord_eq_strictWord_iff (htext text htxt)

/-- A frame all of whose words are entered as the same text. -/
def textFrame (text : String) : FrameConfig :=
  { syncFrame with mode := .bcToRt, data := Vector.replicate 32 text }

theorem mem_textFrame {text t : String} : t ∈ (textFrame text).data.toList ↔ t = text := by
  show t ∈ (Vector.replicate 32 text).toList ↔ _
  rw [Vector.toList_replicate, List.mem_replicate]
  exact and_iff_right (by decide)

theorem encodedStrictly_iff_textFrame :
    payloadWords ((packetBytes (textFrame "0x0")).drop 6) 32
        = (textFrame "0x0").data.toList.map strictWord
      ↔ ∀ text ∈ (textFrame "0x0").data.toList, IsNumeral text ∨ ∀ d ∈ numeralOf text, d = 0 :=
  encodedStrictly_iff (textFrame "0x0") fun text htxt => by
    rw [mem_textFrame.mp htxt]
    decide

/-- `1G` is sent as 1. -/
theorem malformed_text_sent :
    ¬∀ config : FrameConfig, config.mode = .bcToRt →
      (∀ text ∈ config.data.toList, text.length ≤ 4) →
        payloadWords ((packetBytes config).drop 6) 32 = config.data.toList.map strictWord := by
  intro hall
  have hlen : ("1G" : String).length ≤ 4 := by decide
  have hwords := hall (textFrame "1G") rfl fun text htxt => mem_textFrame.mp htxt ▸ hlen
  have hword := (payloadWords_eq_map_iff _ _).mp hwords "1G" (mem_textFrame.mpr rfl)
  have hchars : ("1G" : String).toList = ['1', 'G'] := rfl
  rcases (dataWord_eq_strictWord_iff hlen).mp hword with hnumeral | hzero
  · rw [IsNumeral, hchars] at hnumeral
    have hG := hnumeral.2 'G' (List.mem_cons_of_mem _ List.mem_cons_self)
    exact absurd hG (by decide)
  · have hdigits : numeralOf "1G" = [1] := by
      rw [numeralOf, hchars]
      rfl
    rw [hdigits] at hzero
    exact absurd (hzero 1 List.mem_cons_self) (by decide)

end TcpEncoder
