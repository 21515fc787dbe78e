import Tcp1553.CountProofs
import Tcp1553.FrameProofs
import Tcp1553.ReaderProofs

/-! # Reading the monitor's text

    `formatAndRelayTransaction` prints a transaction as three lines and an empty one:
    the clock, the command word field by field, and the data words, eight on a line.
    `processAndRelayData` appends what it prints to `m_pendingMessages`.

    `readRecord` reads such lines again, and `texts_determine` says that it finds in
    the text of any transactions what they were.  `readBack_session` says what can be
    read off the view when a session has ended. -/

namespace TcpRelay

open TextReaders TcpWire TcpParser TcpEncoder

/-! ## The reader -/

/-- What the text shows of a transaction. -/
structure Record where
  bus1      : Char
  tr        : Nat
  rt        : Nat
  sa        : Nat
  wordCount : Nat
  dataWords : List UInt16
  deriving DecidableEq, Repr

/-- What it should show. -/
def recordOf (trans : MessageTransaction) : Record where
  bus1      := trans.bus1
  tr        := trField trans.cmd1
  rt        := rtField trans.cmd1
  sa        := saField trans.cmd1
  wordCount := actualWc trans
  dataWords := trans.dataWords

/-- The line of the clock, which is skipped. -/
def timeLine : Reader Unit := do
  literal "Time: "
  let _ ← spanning (· != '\n')
  literal "\n"

/-- The T/R bit. -/
def typeStr : Reader Nat := keyword "RT to BC" 1 <|> keyword "BC to RT" 0

/-- A hexadecimal digit. -/
def hexChar : Reader Nat := do
  match hexValue (← anyChar) with
  | some d => return d
  | none => failure

/-- Four hexadecimal digits. -/
def dataDigits : Reader UInt16 := do
  let d3 ← hexChar
  let d2 ← hexChar
  let d1 ← hexChar
  let d0 ← hexChar
  return UInt16.ofNat (digitsValue [d3, d2, d1, d0])

/-- What stands behind a data word, and whether another one follows. -/
def afterWord : Reader Bool :=
  keyword " \n" false <|> keyword " " true <|> keyword "\n      " true <|> keyword "\n" false

/-- The data words up to the end of their last line. -/
def dataLines : Reader (List UInt16) := fun cs => (listOf dataDigits afterWord cs.length).run cs

/-- A record up to the empty line behind it. -/
def readRecord : Reader Record := do
  timeLine
  literal "Bus: "
  let bus1 ← anyChar
  literal " Type: "
  let tr ← typeStr
  literal " RT: "
  let rt ← number
  literal " SA: "
  let sa ← number
  literal " WC: "
  let wordCount ← number
  literal " Header: AA 55\n"
  literal "Data: "
  let dataWords ← dataLines
  literal "\n"
  return { bus1, tr, rt, sa, wordCount, dataWords }

/-- The records of a text. -/
def readBack (text : String) : Option (List Record) := readAll readRecord text

/-! ## The clock and the command word -/

theorem isDigit_of_mem_padded {width n : Nat} {c : Char} (h : c ∈ (padded width n).toList) :
    c.isDigit = true := by
  rw [padded, String.toList_append, String.toList_ofList] at h
  rcases List.mem_append.mp h with hzero | hdigit
  · rw [(List.mem_replicate.mp hzero).2]
    rfl
  · exact isDigit_of_mem_toString hdigit

/-- The text has no line break. -/
def OneLine (text : String) : Prop := ∀ c ∈ text.toList, (c != '\n') = true

theorem OneLine.append {text text' : String} (h : OneLine text) (h' : OneLine text') :
    OneLine (text ++ text') := by
  intro c hc
  rw [String.toList_append] at hc
  exact (List.mem_append.mp hc).elim (h c) (h' c)

theorem oneLine_padded (width n : Nat) : OneLine (padded width n) := by
  intro c hc
  refine bne_iff_ne.mpr fun hnewline => ?_
  have hdigit := isDigit_of_mem_padded hc
  rw [hnewline] at hdigit
  exact absurd hdigit (by decide)

theorem oneLine_putTime (now : WallClock) : OneLine (putTime now) := by
  have hcolon : OneLine ":" := List.forall_mem_singleton.mpr rfl
  exact ((((oneLine_padded 2 now.hour).append hcolon).append (oneLine_padded 2 now.minute)).append
    hcolon).append (oneLine_padded 2 now.second)

/-- The clock as it is printed. -/
def clockText (now : WallClock) : String :=
  putTime now ++ ("." ++ (padded 6 (now.fullUs % 1000000) ++ "us"))

theorem oneLine_clockText (now : WallClock) : OneLine (clockText now) := by
  have hdot : OneLine "." := List.forall_mem_singleton.mpr rfl
  have hunit : OneLine "us" :=
    List.forall_mem_cons.mpr ⟨rfl, List.forall_mem_singleton.mpr rfl⟩
  exact (oneLine_putTime now).append (hdot.append ((oneLine_padded 6 _).append hunit))

/-- **The line of the clock** is skipped, whatever the time. -/
theorem reads_timeLine (now : WallClock) :
    Reads timeLine ("Time: " ++ (clockText now ++ "\n")) () Anything := by
  exact reads_then (reads_literal "Time: ")
    (reads_bind (reads_spanning (oneLine_clockText now)) (reads_literal "\n")
      fun rest _ => noneOf_cons rfl rest)

theorem reads_typeStr (cmd : UInt16) :
    Reads typeStr (if trField cmd ≠ 0 then "RT to BC" else "BC to RT") (trField cmd) Anything := by
  have hbit : trField cmd = 0 ∨ trField cmd = 1 := by
    rw [trField, and_one]
    exact Nat.mod_two_eq_zero_or_one _
  rcases hbit with hbit | hbit
  · rw [hbit]
    exact reads_orElse_right (fun rest _ => keyword_fails [] rfl (noneOf_cons (by decide) _))
      (reads_keyword _ _)
  · rw [hbit]
    exact reads_orElse_left (reads_keyword _ _)

/-! ## The data words -/

theorem reads_hexChar {d : Nat} (h : d < 16) :
    Reads hexChar (String.singleton (hexDigit d)) d Anything := by
  intro rest _
  rw [hexChar, StateT.run_bind, reads_anyChar (hexDigit d) rest trivial]
  show (match hexValue (hexDigit d) with
    | some d => pure d
    | none => failure : Reader Nat).run rest = _
  rw [TcpFrame.hexValue_hexDigit d h]
  rfl

theorem hexWord_eq (w : UInt16) :
    hexWord w = String.singleton (hexDigit (w.toNat >>> 12))
      ++ (String.singleton (hexDigit ((w.toNat >>> 8) &&& 0x0F))
        ++ (String.singleton (hexDigit ((w.toNat >>> 4) &&& 0x0F))
          ++ String.singleton (hexDigit (w.toNat &&& 0x0F)))) := by
  rw [hexWord, ← String.toList_inj]
  simp only [String.toList_append, String.toList_singleton, String.toList_ofList, List.cons_append,
    List.nil_append]

/-- **A data word** is read as it was. -/
theorem reads_dataDigits (w : UInt16) : Reads dataDigits (hexWord w) w Anything := by
  obtain ⟨h3, h2, h1, h0, hvalue⟩ := TcpFrame.nibbles w
  rw [hexWord_eq]
  refine reads_then (reads_hexChar h3) (reads_then (reads_hexChar h2)
    (reads_then (reads_hexChar h1) ?_))
  have hlast := reads_return (f := fun d0 => UInt16.ofNat (digitsValue [w.toNat >>> 12,
    (w.toNat >>> 8) &&& 0x0F, (w.toNat >>> 4) &&& 0x0F, d0])) (reads_hexChar h0)
  rw [hvalue, UInt16.ofNat_toNat] at hlast
  exact hlast

/-- A blank in front of another word. -/
theorem reads_afterWord_blank : Reads afterWord " " true (NoneOf (· == '\n')) :=
  -- the other word with a blank goes on with a line break
  reads_orElse_right (fun _ hrest => keyword_fails [' '] rfl hrest)
    (reads_orElse_left ((reads_keyword " " true).mono fun _ _ => trivial))

/-- A line break in front of another word. -/
theorem reads_afterWord_break : Reads afterWord "\n      " true Anything := by
  refine reads_orElse_right (fun rest _ => keyword_fails [] rfl (noneOf_cons (by decide) _)) ?_
  refine reads_orElse_right (fun rest _ => keyword_fails [] rfl (noneOf_cons (by decide) _)) ?_
  exact reads_orElse_left (reads_keyword "\n      " true)

/-- The end of a short line. -/
theorem reads_afterWord_end : Reads afterWord " \n" false Anything :=
  reads_orElse_left (reads_keyword " \n" false)

/-- The end of a line of eight. -/
theorem reads_afterWord_endFull : Reads afterWord "\n" false (NoneOf (· == ' ')) := by
  refine reads_orElse_right (fun rest _ => keyword_fails [] rfl (noneOf_cons (by decide) _)) ?_
  refine reads_orElse_right (fun rest _ => keyword_fails [] rfl (noneOf_cons (by decide) _)) ?_
  refine reads_orElse_right (fun rest hrest => keyword_fails ['\n'] rfl hrest) ?_
  exact (reads_keyword "\n" false).mono fun _ _ => trivial

/-- Data words begin with no line break. -/
theorem noneOf_dataText (size i : Nat) (w : UInt16) (ws : List UInt16) (tail : String)
    (rest : List Char) :
    NoneOf (· == '\n') ((dataText size i (w :: ws) ++ tail).toList ++ rest) := by
  have hdigit : ∀ d < 16, (hexDigit d == '\n') = false := by decide
  intro c hc
  rw [dataText, String.append_assoc, String.append_assoc, hexWord, String.toList_append,
    String.toList_ofList] at hc
  obtain rfl := Option.some.inj hc
  exact hdigit _ (TcpFrame.nibbles w).1

/-- **The data loop.**  From any word on, the words are read back, however many there
    are and wherever the lines break. -/
theorem reads_dataText {size : Nat} (ws : List UInt16) :
    ∀ (w : UInt16) (i k : Nat), i + (ws.length + 1) = size → ws.length < k →
      Reads (listOf dataDigits afterWord k) (dataText size i (w :: ws) ++ "\n") (w :: ws)
        (NoneOf (· == ' ')) := by
  induction ws with
  | nil =>
      intro w i k hsize hk
      obtain ⟨k, rfl⟩ := Nat.exists_eq_succ_of_ne_zero (Nat.pos_iff_ne_zero.mp hk)
      have hlast : ¬i + 1 < size := Nat.not_lt.mpr (Nat.le_of_eq hsize.symm)
      rw [dataText, dataText, String.append_empty, if_neg hlast, String.append_assoc]
      by_cases hfull : (i + 1) % 8 = 0
      · rw [if_pos hfull, String.empty_append]
        exact reads_listOf_last (reads_dataDigits w) reads_afterWord_endFull (fun _ _ => trivial) k
      · rw [if_neg hfull]
        exact (reads_listOf_last (reads_dataDigits w) reads_afterWord_end (fun _ _ => trivial)
          k).mono fun _ _ => trivial
  | cons w' ws ih =>
      intro w i k hsize hk
      obtain ⟨k, rfl⟩ := Nat.exists_eq_succ_of_ne_zero (Nat.ne_of_gt (Nat.zero_lt_of_lt hk))
      have hmore : i + 1 < size := by
        rw [← hsize, List.length_cons]
        omega
      have htail := ih w' (i + 1) k (by rw [← hsize, List.length_cons]; omega)
        (Nat.lt_of_succ_lt_succ hk)
      rw [dataText, if_pos hmore, String.append_assoc, String.append_assoc]
      by_cases hfull : (i + 1) % 8 = 0
      · rw [if_pos hfull]
        exact reads_listOf_cons (reads_dataDigits w) reads_afterWord_break htail
          (fun _ => trivial) (fun _ _ => trivial)
      · rw [if_neg hfull]
        exact reads_listOf_cons (reads_dataDigits w) reads_afterWord_blank htail
          (fun _ => trivial) (fun rest _ => noneOf_dataText size (i + 1) w' ws "\n" rest)

/-- A text has at least as many characters as data words. -/
theorem length_le_dataText (size : Nat) (ws : List UInt16) :
    ∀ i, ws.length ≤ (dataText size i ws).toList.length := by
  induction ws with
  | nil => exact fun _ => Nat.zero_le _
  | cons w ws ih =>
      intro i
      have hrest := ih (i + 1)
      have hword : (hexWord w).toList.length = 4 := by
        rw [hexWord, String.toList_ofList]
        rfl
      rw [dataText, String.toList_append, String.toList_append, List.length_append,
        List.length_append, hword, List.length_cons]
      omega

theorem dataLines_run (cs : List Char) :
    dataLines.run cs = (listOf dataDigits afterWord cs.length).run cs := rfl

/-- **The lines of the data words.** -/
theorem reads_dataLines {ws : List UInt16} (hne : ws ≠ []) :
    Reads dataLines (dataText ws.length 0 ws ++ "\n") ws (NoneOf (· == ' ')) := by
  intro rest hrest
  have hlen := length_le_dataText ws.length ws 0
  have hroom : ws.length ≤ ((dataText ws.length 0 ws ++ "\n").toList ++ rest).length := by
    rw [String.toList_append, List.length_append, List.length_append]
    omega
  rw [dataLines_run]
  generalize ((dataText ws.length 0 ws ++ "\n").toList ++ rest).length = k at hroom ⊢
  obtain ⟨w, ws, rfl⟩ := List.exists_cons_of_ne_nil hne
  rw [List.length_cons] at hroom
  exact reads_dataText ws w 0 k (Nat.zero_add _) hroom rest hrest

/-! ## Records -/

/-- A record as the text it is printed as, part by part. -/
theorem formatAndRelayTransaction_eq {trans : MessageTransaction} (hvalid : trans.cmd1Valid = true)
    (hdata : trans.dataWords ≠ []) (now : WallClock) :
    formatAndRelayTransaction trans now
      = ("Time: " ++ (clockText now ++ "\n")) ++ ("Bus: " ++ (String.singleton trans.bus1
        ++ (" Type: " ++ ((if trField trans.cmd1 ≠ 0 then "RT to BC" else "BC to RT")
        ++ (" RT: " ++ (toString (rtField trans.cmd1) ++ (" SA: " ++ (toString (saField trans.cmd1)
        ++ (" WC: " ++ (toString (actualWc trans) ++ (" Header: AA 55\n" ++ ("Data: "
        ++ ((dataText trans.dataWords.length 0 trans.dataWords ++ "\n") ++ "\n"))))))))))))) := by
  have hunit : ("us\n" : String) = "us" ++ "\n" := rfl
  rw [formatAndRelayTransaction, if_pos hvalid, if_pos hdata, headerText_actualWc, clockText, hunit]
  simp only [String.append_assoc]

/-- **A record** is read back. -/
theorem reads_record {trans : MessageTransaction} (hvalid : trans.cmd1Valid = true)
    (hdata : trans.dataWords ≠ []) (now : WallClock) :
    Reads readRecord (formatAndRelayTransaction trans now) (recordOf trans) Anything := by
  rw [formatAndRelayTransaction_eq hvalid hdata now]
  refine reads_then (reads_timeLine now) (reads_then (reads_literal "Bus: ")
    (reads_then (reads_anyChar trans.bus1) (reads_then (reads_literal " Type: ")
      (reads_then (reads_typeStr trans.cmd1) (reads_then (reads_literal " RT: ") ?_)))))
  refine reads_numberThen (noneOf_cons rfl _) (by decide) (reads_then (reads_literal " SA: ") ?_)
  refine reads_numberThen (noneOf_cons rfl _) (by decide) (reads_then (reads_literal " WC: ") ?_)
  refine reads_numberThen (noneOf_cons rfl _) (by decide) (reads_then (reads_literal " Header: AA 55\n")
    (reads_then (reads_literal "Data: ") (reads_bind (reads_dataLines hdata)
      (reads_return (reads_literal "\n")) ?_)))
  -- the empty line begins with no blank
  exact fun rest _ => noneOf_cons rfl rest

/-- A transaction whose text has all its lines. -/
def Complete (trans : MessageTransaction) : Prop :=
  trans.cmd1Valid = true ∧ trans.dataWords ≠ []

/-- Texts of such transactions, one behind the other, are read back. -/
theorem readBack_texts {rs : List (MessageTransaction × WallClock)}
    (hrs : ∀ r ∈ rs, Complete r.1) : readBack (texts rs) = some (rs.map fun r => recordOf r.1) := by
  refine readAll_join fun r hr => ⟨fun hempty => ?_, reads_record (hrs r hr).1 (hrs r hr).2 r.2⟩
  rw [← texts_singleton, texts_eq_empty_iff] at hempty
  cases hempty

/-- **The text determines the traffic.**  What is printed for any transactions at any
    times is read back as these transactions, and other ones have another text. -/
theorem texts_determine {rs : List (MessageTransaction × WallClock)}
    (hrs : ∀ r ∈ rs, Complete r.1) :
    readBack (texts rs) = some (rs.map fun r => recordOf r.1) ∧
      ∀ rs' : List (MessageTransaction × WallClock), (∀ r ∈ rs', Complete r.1) →
        texts rs' = texts rs →
          (rs'.map fun r => recordOf r.1) = rs.map fun r => recordOf r.1 := by
  have hread := readBack_texts hrs
  refine ⟨hread, fun rs' hrs' htexts => ?_⟩
  have hread' := readBack_texts hrs'
  rw [htexts, hread] at hread'
  exact (Option.some.inj hread').symm

/-- A line of eight words and one more word, and behind it a full line. -/
def nineAndEight : List (MessageTransaction × WallClock) :=
  [({ cmd1 := 0x0C41, bus1 := 'A', cmd1Valid := true, dataWords := List.replicate 9 0xAA55 },
      ⟨23, 59, 59, 999999⟩),
    ({ cmd1 := 0x0020, bus1 := 'B', cmd1Valid := true, dataWords := List.replicate 8 0x0A },
      ⟨0, 0, 0, 0⟩)]

theorem texts_determine_nineAndEight :
    readBack (texts nineAndEight) = some (nineAndEight.map fun r => recordOf r.1) ∧
      ∀ rs' : List (MessageTransaction × WallClock), (∀ r ∈ rs', Complete r.1) →
        texts rs' = texts nineAndEight →
          (rs'.map fun r => recordOf r.1) = nineAndEight.map fun r => recordOf r.1 :=
  texts_determine (List.forall_mem_cons.mpr ⟨⟨rfl, List.cons_ne_nil _ _⟩,
    List.forall_mem_singleton.mpr ⟨rfl, List.cons_ne_nil _ _⟩⟩)

/-! ## The view -/

/-- A packet has at least one data word. -/
theorem decodeFrame_complete (frame : List UInt8) : Complete (decodeFrame frame) := by
  refine ⟨rfl, List.ne_nil_of_length_pos ?_⟩
  show 0 < (payloadWords (frame.drop 6) (meaningfulWords (byteAt frame 5))).length
  rw [length_payloadWords]
  exact meaningfulWords_pos (byteAt frame 5)

theorem acceptedFrom_complete (s : Relay) (buffer : List UInt8) (wallClock : Nat → WallClock) :
    ∀ r ∈ s.acceptedFrom buffer wallClock, Complete r.1 := by
  intro r hr
  obtain ⟨frame, heq⟩ := acceptedFrom_decoded hr
  rw [heq]
  exact decodeFrame_complete frame

/-- **Run lemma**: only such transactions are relayed. -/
theorem relayed_complete (ls : List RelayLabel) {s : Relay} (h : ∀ r ∈ s.relayed, Complete r.1) :
    ∀ r ∈ (ls.foldl relayStep s).relayed, Complete r.1 := by
  refine relay_invariant (P := fun t => ∀ r ∈ t.relayed, Complete r.1) (fun _ _ _ _ _ ht => ht)
    (fun _ _ ht => ht) ?_ (fun _ _ ht => ht) ls h
  intro t buffer wallClock ht r hr
  exact (List.mem_append.mp hr).elim (ht r) (acceptedFrom_complete t buffer wallClock r)

/-- **What the view holds.**  At the end of a session the text handed over is read back
    as what was relayed up to the last update. -/
theorem readBack_session {s : Relay} (hcb : s.messagesCb = true) (now : Int)
    (ls : List RelayLabel) :
    readBack (String.join (session s now ls).messages)
      = some ((session s now (ls.take (updatedCalls now ls))).relayed.map
          fun r => recordOf r.1) := by
  obtain ⟨_, -, -, hmessages⟩ := handedOver_session hcb now ls
  rw [hmessages]
  exact readBack_texts (relayed_complete _ fun r hr => by cases hr)

end TcpRelay
