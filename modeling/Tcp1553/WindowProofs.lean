import Tcp1553.IndeterminateProofs
import Tcp1553.WritesProofs

/-! # The window that edits a frame

    `FrameCreationFrame` copies a configuration into its controls, enables and
    disables them whenever the mode or the word count changes, and reads all of them
    back in `onSave`.  Its word count is computed from the controls, next to the
    one `updateValues` computes from a configuration.

    `draftStep` is what editing a frame is, on the configuration itself: a word can be
    changed while it is one the frame sends.  `edits_draft` says that the window is
    that editor, event for event, and that saving reads no control that shows no
    number. -/

namespace TcpWindow

open TcpWire TcpParser TcpFraming TcpHeader TcpEncoder TcpController TcpRelay TcpFrame LabelledRuns

/-! ## Controls -/

/-- The numbers a combo box offers. -/
def options (n : Nat) : List String := (List.range n).map toString

/-- A `wxCB_READONLY` combo box over the numbers below `n`: it shows one of them, or
    nothing. -/
structure ComboBox (n : Nat) where
  value : String
  valid : value = "" ∨ value ∈ options n

/-- Constructed with an initial value, which has to be one of the choices. -/
def ComboBox.create (n : Nat) (value : String) : ComboBox n :=
  if h : value ∈ options n then ⟨value, .inr h⟩ else ⟨"", .inl rfl⟩

/-- `ToLong` on what such a box shows: digits, or nothing. -/
def toLong (text : String) : Option Int :=
  if text ≠ "" ∧ text.toList.all Char.isDigit then some (Nat.ofDigitChars 10 text.toList 0)
  else none

/-- A `wxTextCtrl` of the data grid. -/
structure DataField where
  value   : String
  enabled : Bool
  deriving DecidableEq, Repr

/-- The controls of the window.  The choices of `m_modeChoice` stand in the order of
    `BcMode`. -/
structure FrameCreationFrame where
  label            : String
  busChoice        : Fin 2
  modeChoice       : BcMode
  rt1              : ComboBox 32
  sa1              : ComboBox 32
  wc               : ComboBox 33
  rt2              : ComboBox 32
  sa2              : ComboBox 32
  sa1Label         : String
  wcEnabled        : Bool
  cmdWord2Shown    : Bool
  randomizeEnabled : Bool
  dataFields       : Vector DataField 32

/-- `GetStringSelection()[0]` of the bus choice. -/
def busOf (choice : Fin 2) : Char := if choice.val = 0 then 'A' else 'B'

/-- `isMc`. -/
def isMc (mode : BcMode) : Bool := mode == .modeCodeNoData || mode == .modeCodeWithData

/-- `bcSendsData`. -/
def bcSendsData (mode : BcMode) : Bool :=
  mode == .bcToRt || mode == .rtToRt || mode == .modeCodeWithData

/-- The local `wc` of `updateControlStates`; `wc_val` is zero where `ToLong` fails. -/
def FrameCreationFrame.wordCount (w : FrameCreationFrame) : Int :=
  let wc := if isMc w.modeChoice then 1 else (toLong w.wc.value).getD 0
  if wc = 0 ∧ isMc w.modeChoice = false then 32 else wc

/-- `updateControlStates`. -/
def FrameCreationFrame.updateControlStates (w : FrameCreationFrame) : FrameCreationFrame :=
  { w with
    cmdWord2Shown := w.modeChoice == .rtToRt
    sa1Label := if isMc w.modeChoice then "MC:" else "SA:"
    wcEnabled := !isMc w.modeChoice
    randomizeEnabled := bcSendsData w.modeChoice
    dataFields := Vector.ofFn fun i : Fin 32 =>
      { w.dataFields.get i with
        enabled := bcSendsData w.modeChoice && decide ((i.val : Int) < w.wordCount) } }

/-- The constructor, on a component's configuration or on nothing. -/
def FrameCreationFrame.create (source : Option FrameConfig) : FrameCreationFrame :=
  let number (read : FrameConfig → Int) (default : String) : String :=
    (source.map fun config => toString (read config)).getD default
  FrameCreationFrame.updateControlStates
    { label := (source.map FrameConfig.label).getD "New Frame"
      busChoice :=
        if source.map FrameConfig.bus = some 'B' then ⟨1, Nat.one_lt_two⟩ else ⟨0, Nat.two_pos⟩
      modeChoice := (source.map FrameConfig.mode).getD .bcToRt
      rt1 := .create 32 (number FrameConfig.rt "1")
      sa1 := .create 32 (number FrameConfig.sa "1")
      wc := .create 33 (number FrameConfig.wc "1")
      rt2 := .create 32 (number FrameConfig.rt2 "0")
      sa2 := .create 32 (number FrameConfig.sa2 "0")
      sa1Label := "SA:"
      wcEnabled := true
      cmdWord2Shown := true
      randomizeEnabled := true
      dataFields := Vector.ofFn fun i : Fin 32 =>
        ⟨(source.map fun config => config.data.get i).getD "0000", true⟩ }

/-- `onSave` up to the call of the panel.  `val` keeps its value where `ToLong` fails,
    and has none before the first success. -/
def FrameCreationFrame.onSave (w : FrameCreationFrame) : Option FrameConfig := do
  let rt ← toLong w.rt1.value
  let sa := (toLong w.sa1.value).getD rt
  let rt2 := (toLong w.rt2.value).getD sa
  let sa2 := (toLong w.sa2.value).getD rt2
  let wc := (toLong w.wc.value).getD sa2
  return {
    label := if w.label = "" then "Untitled Frame" else w.label
    bus := busOf w.busChoice
    rt := rt
    sa := sa
    rt2 := rt2
    sa2 := sa2
    wc := wc
    mode := w.modeChoice
    data := w.dataFields.map DataField.value }

/-! ## What the user does -/

/-- The events of the window.  A random draw carries a word for every field. -/
inductive WindowLabel where
  | typeLabel (text : String)
  | chooseBus (choice : Fin 2)
  | chooseMode (mode : BcMode)
  | chooseRt1 (n : Fin 32)
  | chooseSa1 (n : Fin 32)
  | chooseWc (n : Fin 33)
  | chooseRt2 (n : Fin 32)
  | chooseSa2 (n : Fin 32)
  | typeData (i : Fin 32) (text : String)
  | randomize (words : Vector UInt16 32)

/-- The item of a list that was picked. -/
def ComboBox.pick {n : Nat} (i : Fin n) : ComboBox n where
  value := toString i.val
  valid := .inr (List.mem_map.mpr ⟨i.val, List.mem_range.mpr i.isLt, rfl⟩)

/-- `onRandomize`. -/
def FrameCreationFrame.onRandomize (w : FrameCreationFrame) (words : Vector UInt16 32) :
    FrameCreationFrame :=
  { w with
    dataFields := Vector.ofFn fun i : Fin 32 =>
      if (w.dataFields.get i).enabled then
        { w.dataFields.get i with value := hexWord (words.get i) }
      else w.dataFields.get i }

/-- One event.  A control that is disabled or hidden takes none, and a data field takes
    at most four characters. -/
def windowStep (w : FrameCreationFrame) : WindowLabel → Option FrameCreationFrame
  | .typeLabel text => some { w with label := text }
  | .chooseBus choice => some { w with busChoice := choice }
  | .chooseMode mode => some { w with modeChoice := mode }.updateControlStates
  | .chooseRt1 n => some { w with rt1 := .pick n }
  | .chooseSa1 n => some { w with sa1 := .pick n }
  | .chooseWc n => if w.wcEnabled then some { w with wc := .pick n }.updateControlStates else none
  | .chooseRt2 n => if w.cmdWord2Shown then some { w with rt2 := .pick n } else none
  | .chooseSa2 n => if w.cmdWord2Shown then some { w with sa2 := .pick n } else none
  | .typeData i text =>
      if (w.dataFields.get i).enabled ∧ text.length ≤ 4 then
        some { w with dataFields := w.dataFields.setIfInBounds i.val ⟨text, true⟩ }
      else none
  | .randomize words => if w.randomizeEnabled then some (w.onRandomize words) else none

/-! ## Editing a configuration -/

/-- Word `i` is one the frame sends. -/
def Sends (config : FrameConfig) (i : Fin 32) : Prop :=
  bcSendsData config.mode = true ∧ (i.val : Int) < wordsToShow config

instance (config : FrameConfig) (i : Fin 32) : Decidable (Sends config i) :=
  inferInstanceAs (Decidable (_ ∧ _))

/-- What an event means for the configuration. -/
def draftStep (config : FrameConfig) : WindowLabel → Option FrameConfig
  | .typeLabel text => some { config with label := text }
  | .chooseBus choice => some { config with bus := busOf choice }
  | .chooseMode mode => some { config with mode := mode }
  | .chooseRt1 n => some { config with rt := n.val }
  | .chooseSa1 n => some { config with sa := n.val }
  | .chooseWc n => if isMc config.mode then none else some { config with wc := n.val }
  | .chooseRt2 n => if config.mode = .rtToRt then some { config with rt2 := n.val } else none
  | .chooseSa2 n => if config.mode = .rtToRt then some { config with sa2 := n.val } else none
  | .typeData i text =>
      if Sends config i ∧ text.length ≤ 4 then
        some { config with data := config.data.setIfInBounds i.val text }
      else none
  | .randomize words =>
      if bcSendsData config.mode then
        some { config with
          data := Vector.ofFn fun i : Fin 32 =>
            if Sends config i then hexWord (words.get i) else config.data.get i }
      else none

/-- A frame that was never configured. -/
def newFrame : FrameConfig where
  label := "New Frame"
  bus   := 'A'
  rt    := 1
  sa    := 1
  rt2   := 0
  sa2   := 0
  wc    := 1
  mode  := .bcToRt
  data  := Vector.replicate 32 "0000"

/-- What a frame without a name is called. -/
def titled (config : FrameConfig) : FrameConfig :=
  { config with label := if config.label = "" then "Untitled Frame" else config.label }

/-! ## Fields and boxes -/

theorem get_eq_getElem {α : Type} {n : Nat} (xs : Vector α n) (i : Fin n) :
    xs.get i = xs[i.val] := rfl

theorem toLong_toString (n : Nat) : toLong (toString n) = some (n : Int) := by
  have hne : toString n ≠ "" := by
    intro h
    have hlist := congrArg String.toList h
    rw [Nat.toString_eq_ofList_toDigits, String.toList_ofList] at hlist
    exact Nat.toDigits_ne_nil hlist
  have hdigits : (toString n).toList.all Char.isDigit = true := by
    rw [List.all_eq_true, Nat.toString_eq_ofList_toDigits, String.toList_ofList]
    exact fun c hc => Nat.isDigit_of_mem_toDigits (by decide) (by decide) hc
  rw [toLong, if_pos ⟨hne, hdigits⟩, Nat.toString_eq_ofList_toDigits, String.toList_ofList,
    Nat.ofDigitChars_ten_toDigits]

/-- A box constructed on a number it offers shows that number. -/
theorem toLong_create {n : Nat} {k : Int} (hk : 0 ≤ k ∧ k < n) :
    toLong (ComboBox.create n (toString k)).value = some k := by
  obtain ⟨m, rfl⟩ := Int.eq_ofNat_of_zero_le hk.1
  have hin : toString ((m : Nat) : Int) ∈ options n :=
    List.mem_map.mpr ⟨m, List.mem_range.mpr (by omega), rfl⟩
  rw [ComboBox.create, dif_pos hin]
  exact toLong_toString m

theorem toLong_pick {n : Nat} (i : Fin n) : toLong (ComboBox.pick i).value = some (i.val : Int) :=
  toLong_toString i.val

/-! ## The window holds a configuration -/

/-- The controls read back as the configuration, and those are enabled that can change
    what it sends. -/
structure Holds (w : FrameCreationFrame) (config : FrameConfig) : Prop where
  label            : w.label = config.label
  bus              : busOf w.busChoice = config.bus
  mode             : w.modeChoice = config.mode
  rt               : toLong w.rt1.value = some config.rt
  sa               : toLong w.sa1.value = some config.sa
  wc               : toLong w.wc.value = some config.wc
  rt2              : toLong w.rt2.value = some config.rt2
  sa2              : toLong w.sa2.value = some config.sa2
  data             : w.dataFields.map DataField.value = config.data
  wcEnabled        : w.wcEnabled = !isMc config.mode
  cmdWord2Shown    : w.cmdWord2Shown = (config.mode == .rtToRt)
  randomizeEnabled : w.randomizeEnabled = bcSendsData config.mode
  enabled          : ∀ i : Fin 32, (w.dataFields.get i).enabled = decide (Sends config i)

/-- The texts of the fields do not depend on the controls being updated. -/
theorem updateControlStates_data (w : FrameCreationFrame) :
    w.updateControlStates.dataFields.map DataField.value = w.dataFields.map DataField.value := by
  refine Vector.ext fun i hi => ?_
  rw [Vector.getElem_map, Vector.getElem_map, FrameCreationFrame.updateControlStates,
    Vector.getElem_ofFn]
  rfl

/-- The window and the component count the same words, where the frame sends any. -/
theorem wordCount_eq {w : FrameCreationFrame} {config : FrameConfig}
    (hmode : w.modeChoice = config.mode) (hwc : toLong w.wc.value = some config.wc)
    (hsends : bcSendsData config.mode = true) : w.wordCount = wordsToShow config := by
  rw [FrameCreationFrame.wordCount, wordsToShow, hmode, hwc]
  cases hm : config.mode with
  | bcToRt | rtToRt => simp [isMc]
  | rtToBc | modeCodeNoData => rw [hm] at hsends; cases hsends
  | modeCodeWithData => simp [isMc]

/-- **An update enables the fields of the words that are sent.** -/
theorem updateControlStates_enabled {w : FrameCreationFrame} {config : FrameConfig}
    (hmode : w.modeChoice = config.mode) (hwc : toLong w.wc.value = some config.wc) (i : Fin 32) :
    (w.updateControlStates.dataFields.get i).enabled = decide (Sends config i) := by
  have hfield : (w.updateControlStates.dataFields.get i).enabled
      = (bcSendsData w.modeChoice && decide ((i.val : Int) < w.wordCount)) := by
    rw [FrameCreationFrame.updateControlStates, get_eq_getElem, Vector.getElem_ofFn]
  rw [hfield, hmode, Bool.eq_iff_iff, Bool.and_eq_true, decide_eq_true_eq, decide_eq_true_eq, Sends]
  refine and_congr_right fun hsends => ?_
  rw [wordCount_eq hmode hwc hsends]

/-- The controls after an update. -/
theorem holds_update {w : FrameCreationFrame} {config : FrameConfig} (hlabel : w.label = config.label)
    (hbus : busOf w.busChoice = config.bus) (hmode : w.modeChoice = config.mode)
    (hrt : toLong w.rt1.value = some config.rt) (hsa : toLong w.sa1.value = some config.sa)
    (hwc : toLong w.wc.value = some config.wc) (hrt2 : toLong w.rt2.value = some config.rt2)
    (hsa2 : toLong w.sa2.value = some config.sa2)
    (hdata : w.dataFields.map DataField.value = config.data) :
    Holds w.updateControlStates config where
  label := hlabel
  bus := hbus
  mode := hmode
  rt := hrt
  sa := hsa
  wc := hwc
  rt2 := hrt2
  sa2 := hsa2
  data := (updateControlStates_data w).trans hdata
  wcEnabled := hmode ▸ rfl
  cmdWord2Shown := hmode ▸ rfl
  randomizeEnabled := hmode ▸ rfl
  enabled := updateControlStates_enabled hmode hwc

/-- What an editor can produce fits into a window. -/
theorem holds_create {config : FrameConfig} (h : Editable config) :
    Holds (.create (some config)) config := by
  refine holds_update rfl ?_ rfl (toLong_create h.rt) (toLong_create h.sa)
    (toLong_create ⟨h.wc.1, by have := h.wc.2; omega⟩) (toLong_create h.rt2)
    (toLong_create h.sa2) ?_
  · rcases h.bus with hbus | hbus <;> simp [hbus, busOf]
  · exact Vector.ext fun i hi => by simp [get_eq_getElem]

theorem holds_create_none : Holds (.create none) newFrame := by
  refine holds_update rfl (by simp [busOf, newFrame]) rfl (toLong_create (n := 32) (k := 1) (by decide))
    (toLong_create (n := 32) (k := 1) (by decide)) (toLong_create (n := 33) (k := 1) (by decide))
    (toLong_create (n := 32) (k := 0) (by decide)) (toLong_create (n := 32) (k := 0) (by decide)) ?_
  exact Vector.ext fun i hi => by simp [newFrame]

/-- Saving reads every number, and no `val` is used that was not set. -/
theorem Holds.onSave {w : FrameCreationFrame} {config : FrameConfig} (h : Holds w config) :
    w.onSave = some (titled config) := by
  rw [FrameCreationFrame.onSave, h.rt, h.sa, h.wc, h.rt2, h.sa2, h.label, h.bus, h.mode, h.data]
  rfl

/-- New texts in the fields; which of them are enabled does not depend on the texts. -/
theorem Holds.fields {w : FrameCreationFrame} {config : FrameConfig} (h : Holds w config)
    {fields : Vector DataField 32} {data : Vector String 32}
    (hdata : fields.map DataField.value = data)
    (henabled : ∀ i : Fin 32, (fields.get i).enabled = decide (Sends config i)) :
    Holds { w with dataFields := fields } { config with data := data } :=
  { h with data := hdata, enabled := henabled }

/-- A text typed into an enabled field. -/
theorem Holds.typeData {w : FrameCreationFrame} {config : FrameConfig} (h : Holds w config)
    {i : Fin 32} (hsends : Sends config i) (text : String) :
    Holds { w with dataFields := w.dataFields.setIfInBounds i.val ⟨text, true⟩ }
      { config with data := config.data.setIfInBounds i.val text } := by
  have henabled : ∀ j : Fin 32,
      ((w.dataFields.setIfInBounds i.val ⟨text, true⟩).get j).enabled = decide (Sends config j) := by
    intro j
    rw [get_eq_getElem, Vector.getElem_setIfInBounds j.isLt]
    by_cases hij : i.val = j.val
    · rw [if_pos hij, ← Fin.eq_of_val_eq hij, decide_eq_true hsends]
    · rw [if_neg hij, ← h.enabled, get_eq_getElem]
  have hdata : (w.dataFields.setIfInBounds i.val ⟨text, true⟩).map DataField.value
      = config.data.setIfInBounds i.val text := by
    rw [Vector.map_setIfInBounds, h.data]
  exact h.fields hdata henabled

/-- Random words in the enabled fields. -/
theorem Holds.randomize {w : FrameCreationFrame} {config : FrameConfig} (h : Holds w config)
    (words : Vector UInt16 32) :
    Holds (w.onRandomize words)
      { config with
        data := Vector.ofFn fun i : Fin 32 =>
          if Sends config i then hexWord (words.get i) else config.data.get i } := by
  have henabled : ∀ j : Fin 32,
      ((w.onRandomize words).dataFields.get j).enabled = decide (Sends config j) := by
    intro j
    rw [FrameCreationFrame.onRandomize, get_eq_getElem, Vector.getElem_ofFn, ← h.enabled j]
    by_cases hj : (w.dataFields.get j).enabled = true
    · rw [if_pos hj]
    · rw [if_neg hj]
  have hdata : (w.onRandomize words).dataFields.map DataField.value
      = Vector.ofFn fun i : Fin 32 =>
          if Sends config i then hexWord (words.get i) else config.data.get i := by
    refine Vector.ext fun j hj => ?_
    rw [Vector.getElem_map, FrameCreationFrame.onRandomize, Vector.getElem_ofFn,
      Vector.getElem_ofFn, h.enabled ⟨j, hj⟩, ← h.data, get_eq_getElem (w.dataFields.map _),
      Vector.getElem_map]
    by_cases hsends : Sends config ⟨j, hj⟩
    · rw [if_pos (decide_eq_true hsends), if_pos hsends]
    · rw [if_neg (fun hd => hsends (of_decide_eq_true hd)), if_neg hsends]
      rfl
  exact h.fields hdata henabled

/-- **One event**: the window takes it when the configuration can be edited so, and
    then holds the edited configuration. -/
theorem step_draft {w : FrameCreationFrame} {config : FrameConfig} (h : Holds w config)
    (l : WindowLabel) : Option.Rel Holds (windowStep w l) (draftStep config l) := by
  cases l with
  | typeLabel text => exact .some { h with label := rfl }
  | chooseBus choice => exact .some { h with bus := rfl }
  | chooseMode mode =>
      exact .some (holds_update h.label h.bus rfl h.rt h.sa h.wc h.rt2 h.sa2 h.data)
  | chooseRt1 n => exact .some { h with rt := toLong_pick n }
  | chooseSa1 n => exact .some { h with sa := toLong_pick n }
  | chooseWc n =>
      rw [windowStep, draftStep, h.wcEnabled]
      cases hmc : isMc config.mode with
      | true => exact .none
      | false =>
          exact .some (holds_update h.label h.bus h.mode h.rt h.sa (toLong_pick n) h.rt2 h.sa2 h.data)
  | chooseRt2 n =>
      by_cases hmode : config.mode = .rtToRt
      · rw [windowStep, draftStep, if_pos hmode, if_pos (h.cmdWord2Shown.trans (beq_iff_eq.mpr hmode))]
        exact .some { h with rt2 := toLong_pick n }
      · rw [windowStep, draftStep, if_neg hmode, h.cmdWord2Shown,
          if_neg (fun heq => hmode (beq_iff_eq.mp heq))]
        exact .none
  | chooseSa2 n =>
      by_cases hmode : config.mode = .rtToRt
      · rw [windowStep, draftStep, if_pos hmode, if_pos (h.cmdWord2Shown.trans (beq_iff_eq.mpr hmode))]
        exact .some { h with sa2 := toLong_pick n }
      · rw [windowStep, draftStep, if_neg hmode, h.cmdWord2Shown,
          if_neg (fun heq => hmode (beq_iff_eq.mp heq))]
        exact .none
  | typeData i text =>
      have henabled : (w.dataFields.get i).enabled = true ↔ Sends config i := by
        rw [h.enabled, decide_eq_true_eq]
      rw [windowStep, draftStep]
      by_cases htype : Sends config i ∧ text.length ≤ 4
      · rw [if_pos htype, if_pos ⟨henabled.mpr htype.1, htype.2⟩]
        exact .some (h.typeData htype.1 text)
      · rw [if_neg htype, if_neg (fun hfield => htype ⟨henabled.mp hfield.1, hfield.2⟩)]
        exact .none
  | randomize words =>
      rw [windowStep, draftStep, h.randomizeEnabled]
      by_cases hsends : bcSendsData config.mode = true
      · rw [if_pos hsends, if_pos hsends]
        exact .some (h.randomize words)
      · rw [if_neg hsends, if_neg hsends]
        exact .none

/-- What the configuration becomes when the window takes an event. -/
theorem Holds.moves {w w' : FrameCreationFrame} {config : FrameConfig} (h : Holds w config)
    {l : WindowLabel} (hstep : windowStep w l = some w') :
    ∃ config', draftStep config l = some config' ∧ Holds w' config' := by
  have hl := step_draft h l
  rw [hstep] at hl
  cases hdraft : draftStep config l with
  | none =>
      rw [hdraft] at hl
      cases hl
  | some config' =>
      rw [hdraft] at hl
      cases hl with
      | some h' => exact ⟨config', rfl, h'⟩

/-- The same over runs, and what is saved then. -/
theorem Holds.saves {w : FrameCreationFrame} {config : FrameConfig} (h : Holds w config)
    (ls : List WindowLabel) :
    (run windowStep w ls).bind FrameCreationFrame.onSave = (run draftStep config ls).map titled := by
  have hruns := run_bisim windowStep (fun w config l h => step_draft h l) ls h
  generalize run windowStep w ls = w' at hruns ⊢
  generalize run draftStep config ls = config' at hruns ⊢
  cases hruns with
  | none => rfl
  | some h' => exact h'.onSave

/-- **The window is an editor of one configuration**: it takes the events that edit the
    configuration it was opened on, and saves what they make of it. -/
theorem edits_draft (source : Option FrameConfig) (hsource : ∀ config ∈ source, Editable config)
    (ls : List WindowLabel) :
    (run windowStep (.create source) ls).bind FrameCreationFrame.onSave
      = (run draftStep (source.getD newFrame) ls).map titled := by
  cases source with
  | none => exact holds_create_none.saves ls
  | some config => exact (holds_create (hsource config rfl)).saves ls

/-- A request turned into a frame that sends one word. -/
theorem edits_draft_syncFrame :
    (run windowStep (.create (some syncFrame))
        [.chooseMode .bcToRt, .chooseWc 1, .typeData 0 "BEEF"]).bind FrameCreationFrame.onSave
      = some { syncFrame with
          mode := .bcToRt
          wc := 1
          data := syncFrame.data.set 0 "BEEF" } :=
  edits_draft (some syncFrame) (fun _ h => Option.some.inj h ▸ editable_syncFrame) _

/-! ## What comes out of windows -/

/-- A configuration as the windows leave it. -/
structure Tidy (config : FrameConfig) : Prop where
  editable : Editable config
  texts    : ∀ text ∈ config.data, text.length ≤ 4

theorem length_hexWord (w : UInt16) : (hexWord w).length = 4 := by
  rw [hexWord, ← String.length_toList, String.toList_ofList]
  rfl

/-- New data words, none of them too long. -/
theorem Tidy.withData {config : FrameConfig} (h : Tidy config) {data : Vector String 32}
    (hdata : ∀ text ∈ data, text.length ≤ 4) : Tidy { config with data := data } :=
  ⟨{ h.editable with }, hdata⟩

/-- Editing keeps a configuration tidy. -/
theorem draftStep_tidy {config config' : FrameConfig} {l : WindowLabel} (h : Tidy config)
    (hstep : draftStep config l = some config') : Tidy config' := by
  have hrt : ∀ n : Fin 32, 0 ≤ (n.val : Int) ∧ (n.val : Int) < 32 := fun n => by omega
  cases l with
  | typeLabel text =>
      cases hstep
      exact ⟨{ h.editable with }, h.texts⟩
  | chooseBus choice =>
      cases hstep
      have hbus : busOf choice = 'A' ∨ busOf choice = 'B' := by
        rw [busOf]
        by_cases h0 : choice.val = 0
        · exact Or.inl (if_pos h0)
        · exact Or.inr (if_neg h0)
      exact ⟨{ h.editable with bus := hbus }, h.texts⟩
  | chooseMode mode =>
      cases hstep
      exact ⟨{ h.editable with }, h.texts⟩
  | chooseRt1 n =>
      cases hstep
      exact ⟨{ h.editable with rt := hrt n }, h.texts⟩
  | chooseSa1 n =>
      cases hstep
      exact ⟨{ h.editable with sa := hrt n }, h.texts⟩
  | chooseWc n =>
      obtain ⟨-, heq⟩ := Option.ite_none_left_eq_some.mp hstep
      cases heq
      have hwc : 0 ≤ (n.val : Int) ∧ (n.val : Int) ≤ 32 := by omega
      exact ⟨{ h.editable with wc := hwc }, h.texts⟩
  | chooseRt2 n =>
      obtain ⟨-, heq⟩ := Option.ite_none_right_eq_some.mp hstep
      cases heq
      exact ⟨{ h.editable with rt2 := hrt n }, h.texts⟩
  | chooseSa2 n =>
      obtain ⟨-, heq⟩ := Option.ite_none_right_eq_some.mp hstep
      cases heq
      exact ⟨{ h.editable with sa2 := hrt n }, h.texts⟩
  | typeData i text =>
      obtain ⟨⟨-, htext⟩, heq⟩ := Option.ite_none_right_eq_some.mp hstep
      cases heq
      refine h.withData fun t ht => ?_
      obtain ⟨j, hj, rfl⟩ := Vector.getElem_of_mem ht
      rw [Vector.getElem_setIfInBounds hj]
      by_cases hij : i.val = j
      · rw [if_pos hij]
        exact htext
      · rw [if_neg hij]
        exact h.texts _ (Vector.getElem_mem hj)
  | randomize words =>
      obtain ⟨-, heq⟩ := Option.ite_none_right_eq_some.mp hstep
      cases heq
      refine h.withData fun t ht => ?_
      obtain ⟨i, hi⟩ := Vector.mem_ofFn.mp ht
      rw [← hi]
      by_cases hsends : Sends config i
      · rw [if_pos hsends]
        exact Nat.le_of_eq (length_hexWord _)
      · rw [if_neg hsends]
        exact h.texts _ (Vector.getElem_mem _)

/-- A frame that was never configured is tidy. -/
theorem tidy_newFrame : Tidy newFrame := by
  refine ⟨by decide, fun text htext => ?_⟩
  rw [(Vector.mem_replicate.mp htext).2]
  decide

/-- A saved frame has a name. -/
theorem titled_label (config : FrameConfig) : (titled config).label ≠ "" := by
  by_cases hempty : config.label = ""
  · show (if config.label = "" then "Untitled Frame" else config.label) ≠ ""
    rw [if_pos hempty]
    decide
  · show (if config.label = "" then "Untitled Frame" else config.label) ≠ ""
    rw [if_neg hempty]
    exact hempty

theorem titled_tidy {config : FrameConfig} (h : Tidy config) : Tidy (titled config) :=
  ⟨{ h.editable with }, h.texts⟩

/-- The words of a reply leave a configuration tidy. -/
theorem received_tidy {config : FrameConfig} (h : Tidy config) (received : Vector UInt16 32) :
    Tidy { config with data := received.map hexWord } := by
  refine h.withData fun text htext => ?_
  obtain ⟨word, -, rfl⟩ := Vector.mem_map.mp htext
  exact Nat.le_of_eq (length_hexWord word)

/-- So does the queued closure of a send, whatever the reply was. -/
theorem runQueued_tidy {t : FrameComponent} (h : Tidy t.config) (queued : Option (Vector UInt16 32)) :
    Tidy (t.runQueued queued).config := by
  cases queued with
  | none => exact h
  | some received => exact received_tidy h received

/-! ## Sending on what was received -/

/-- Events that write no data word. -/
def KeepsData : WindowLabel → Prop
  | .typeData .. | .randomize _ => False
  | _ => True

/-- Such events keep the data. -/
theorem draftStep_data {config config' : FrameConfig} {l : WindowLabel} (hkeeps : KeepsData l)
    (hstep : draftStep config l = some config') : config'.data = config.data := by
  cases l with
  | typeData => cases hkeeps
  | randomize => cases hkeeps
  | typeLabel | chooseBus | chooseMode | chooseRt1 | chooseSa1 =>
      cases hstep
      rfl
  | chooseWc =>
      obtain ⟨-, heq⟩ := Option.ite_none_left_eq_some.mp hstep
      cases heq
      rfl
  | chooseRt2 | chooseSa2 =>
      obtain ⟨-, heq⟩ := Option.ite_none_right_eq_some.mp hstep
      cases heq
      rfl

/-- What is saved of a window is tidy, and has the data it was opened on when no event
    wrote any. -/
theorem saved_run {source : FrameConfig} (h : Tidy source) {ls : List WindowLabel}
    {config : FrameConfig} (hrun : run draftStep source ls = some config) :
    Tidy config ∧ ((∀ l ∈ ls, KeepsData l) → config.data = source.data) := by
  induction ls generalizing source with
  | nil =>
      cases hrun
      exact ⟨h, fun _ => rfl⟩
  | cons l ls ih =>
      obtain ⟨next, hstep, hrest⟩ := run_cons_inv draftStep hrun
      obtain ⟨htidy, hdata⟩ := ih (draftStep_tidy h hstep) hrest
      refine ⟨htidy, fun hkeeps => ?_⟩
      rw [hdata fun m hm => hkeeps m (List.mem_cons_of_mem l hm),
        draftStep_data (hkeeps l List.mem_cons_self) hstep]

/-- **A reply can be sent on.**  Its words are printed on the frame, copied into the edit
    window, saved and read back into a packet.  As long as none of them is edited, the
    monitor decodes the same words from that packet as from the reply, as far as both
    announce them. -/
theorem forwarded {s : FrameComponent} (hs : Tidy s.config) (hmode : s.config.mode = .rtToBc)
    {currentClientFd bytesSent : Int} (hfd : 0 ≤ currentClientFd) (hsent : 0 ≤ bytesSent)
    (response : Qemu1553Packet) (received : Vector UInt16 32) {r : List UInt8} (hr : IsFrame r)
    {ls : List WindowLabel} (hkeeps : ∀ l ∈ ls, KeepsData l) {config : FrameConfig}
    (hsave : (run windowStep (.create (some (s.runQueued
        (s.sendFrame currentClientFd bytesSent response received (some r))).config)) ls).bind
          FrameCreationFrame.onSave = some config) :
    ∃ reply sent, transactions (ProtocolParser.reset.parseStream r).1 = [reply] ∧
      transactions (ProtocolParser.reset.parseStream (packetBytes config)).1 = [sent] ∧
      sent.dataWords.take reply.dataWords.length = reply.dataWords.take sent.dataWords.length := by
  have hstored : s.sendFrame currentClientFd bytesSent response received (some r)
      = some (storeResponse (.ofBytes r) received) := by
    have hend : endSend response received (some r) = (0, storeResponse (.ofBytes r) received) := by
      have hlen := hr.1
      rw [endSend]
      show (if 6 ≤ r.length then _ else _) = _
      rw [if_pos (by omega), readInto_full response hlen]
    rw [sendFrame_eq, if_neg (by omega), if_pos hmode, hend, if_pos rfl]
  rw [hstored, FrameComponent.runQueued, updateValues] at hsave
  set words := storeResponse (.ofBytes r) received with hwords
  -- the window was opened on the words as text
  have hsource := received_tidy hs words
  rw [(holds_create hsource.editable).saves ls] at hsave
  obtain ⟨draft, hrun, rfl⟩ := Option.map_eq_some_iff.mp hsave
  have hencoded : encodedWords (titled draft) = words.toList := by
    have htexts : (titled draft).data = words.map hexWord := (saved_run hsource hrun).2 hkeeps
    rw [encodedWords, htexts, Vector.toList_map, List.map_map]
    exact (List.map_congr_left fun w _ => dataWord_hexWord w).trans (List.map_id _)
  refine ⟨_, _, transactions_isFrame hr,
    transactions_isFrame ⟨length_packetBytes _, frameAt_packetBytes _⟩, ?_⟩
  set reply := (decodeFrame r).dataWords with hreply
  -- both are beginnings of the stored words
  have hsentWords : (decodeFrame (packetBytes (titled draft))).dataWords
      = words.toList.take (meaningfulWords (toUInt8 (titled draft).wc)) := by
    rw [← hencoded, ← payloadWords_packet _ (meaningfulWords_le _)]
    rfl
  have hreplyWords : reply = words.toList.take reply.length := by
    rw [hwords, storeResponse_payload, List.take_left]
  rw [hsentWords, List.length_take, List.take_take]
  conv => rhs; rw [hreplyWords]
  rw [List.take_take, Vector.length_toList, Nat.min_eq_left (meaningfulWords_le _), Nat.min_comm]

/-- A request is answered with its own bytes and turned into a frame for the terminal. -/
theorem forwarded_syncFrame :
    ∃ reply sent,
      transactions (ProtocolParser.reset.parseStream (packetBytes syncFrame)).1 = [reply] ∧
      transactions (ProtocolParser.reset.parseStream (packetBytes (titled
        { ((updateValues syncFrame).runQueued ((updateValues syncFrame).sendFrame 4 70
            (.ofBytes []) (Vector.replicate 32 0) (some (packetBytes syncFrame)))).config with
          mode := .bcToRt }))).1 = [sent] ∧
      sent.dataWords.take reply.dataWords.length = reply.dataWords.take sent.dataWords.length := by
  have htidy : Tidy (updateValues syncFrame).config := by
    refine ⟨editable_syncFrame, fun text htext => ?_⟩
    rw [(Vector.mem_replicate.mp htext).2]
    decide
  have hreply := frameAt_packetBytes syncFrame
  have hkeeps : ∀ l ∈ [WindowLabel.chooseMode .bcToRt], KeepsData l := by
    intro l hl
    rw [List.mem_singleton.mp hl]
    trivial
  exact forwarded htidy rfl (by decide : (0 : Int) ≤ 4) (by decide : (0 : Int) ≤ 70) (.ofBytes [])
    (Vector.replicate 32 0) ⟨length_packetBytes _, hreply⟩ hkeeps
    ((holds_create (runQueued_tidy htidy _).editable).saves _)

end TcpWindow
