import Tcp1553.EditorProofs
import Tcp1553.WindowProofs

/-! # The panel with what is in its frames

    The panel of `EditorProofs` knows frames and windows by their identities.  Here
    each frame has its configuration and each window its controls: windows are
    opened on frames, edited side by side and saved, replies are stored in frames
    meanwhile, the sending thread goes on.  Storing a reply is one step here;
    `SharedProofs` takes it apart.

    `Sound` is what every run keeps of the contents, and `desk_faithful` what follows for
    the wire.  `save_eq` says what a Save writes, whatever happened between it and the
    opening of its window. -/

namespace TcpDesk

open TcpWire TcpParser TcpFraming TcpEncoder TcpController TcpRelay TcpFrame TcpSender TcpEditor
  TcpWindow LabelledRuns

/-! ## State -/

/-- An open window. -/
structure Window where
  source   : Option Nat
  controls : FrameCreationFrame

/-- The panel, the configuration of every component made so far, by its number, and
    the windows in the order they were opened, `none` once they are closed. -/
structure Desk where
  panel   : Panel
  configs : List FrameConfig
  windows : List (Option Window)

/-- `addDefaultFrame`. -/
def defaultFrame (label : String) (rt sa wc tr : Int) (words : Vector UInt16 32) : FrameConfig where
  label := label
  bus   := 'A'
  mode  := if tr = 0 then .bcToRt else .rtToBc
  rt    := rt
  sa    := sa
  rt2   := 0
  sa2   := 0
  wc    := wc
  data  := words.map hexWord

/-- `addDefaultFrames`, with what `randomizeData` draws for each frame. -/
def defaultFrames (words : Fin 5 → Vector UInt16 32) : List FrameConfig :=
  [defaultFrame "SATELLITE_U.DT_TRQ_CTRL_RW (RT2/SA4)" 2 4 32 0 (words 0),
    defaultFrame "SATELLITE_Y.DT_SENSOR_DATA.RW_DATA.RW_SPD_MEAS (RT2/SA6)" 2 6 32 1 (words 1),
    defaultFrame "SATELLITE_Y.DT_SENSOR_DATA.GPS_DATA (RT7/SA1)" 7 1 32 1 (words 2),
    defaultFrame "SATELLITE_Y.DT_SENSOR_DATA.STR_DATA.Q_BI (RT21/SA3)" 21 3 32 1 (words 3),
    defaultFrame "SATELLITE_Y.DT_SENSOR_DATA.GYRO_DATA.W_B_MEAS (RT16/SA2)" 16 2 32 1 (words 4)]

def Desk.init (words : Fin 5 → Vector UInt16 32) : Desk where
  panel   := Panel.init
  configs := defaultFrames words
  windows := []

/-- The window, while it is open. -/
def Desk.window (s : Desk) (id : Nat) : Option Window := s.windows[id]?.join

/-! ## Steps -/

/-- The user's events, by frame and window, and the rest of the panel. -/
inductive DeskLabel where
  | onAddFrameClicked
  | onEdit (frame : Nat)
  | window (id : Nat) (l : WindowLabel)
  | onSave (id : Nat)
  | onCancel (id : Nat)
  | onDelete (frame : Nat)
  | sendOnce (frame : Nat) (gotReply : Bool)
  | received (words : Vector UInt16 32)
  | panel (l : PanelLabel)

/-- The next closure is one that stores a reply. -/
def StoresReply (s : Panel) (l : PanelLabel) : Bool :=
  match l, s.uiQueue with
  | .ui .runClosure, .received _ :: _ => true
  | _, _ => false

/-- `received`, as text, in place of the data of a frame. -/
def storeWords (words : Vector UInt16 32) (config : FrameConfig) : FrameConfig :=
  { config with data := words.map hexWord }

/-- One event, of one window, of a frame or of the panel.  The words of a reply come with
    the closure that stores them. -/
def deskStep (s : Desk) : DeskLabel → Option Desk
  | .onAddFrameClicked =>
      if s.panel.uiThread = .idle then
        some { s with windows := s.windows ++ [some ⟨none, .create none⟩] }
      else none
  | .onEdit frame =>
      if s.panel.uiThread = .idle ∧ .destroy frame ∉ s.panel.events then
        s.configs[frame]?.map fun config =>
          { s with windows := s.windows ++ [some ⟨some frame, .create (some config)⟩] }
      else none
  | .window id l =>
      if s.panel.uiThread = .idle then do
        let w ← s.window id
        let controls ← windowStep w.controls l
        return { s with windows := s.windows.set id (some { w with controls := controls }) }
      else none
  | .onSave id => do
      let w ← s.window id
      let config ← w.controls.onSave
      let panel ← s.panel.uiStep (saving w.source)
      return { panel := panel, configs := s.configs ++ [config], windows := s.windows.set id none }
  | .onCancel id =>
      if s.panel.uiThread = .idle then
        (s.window id).map fun _ => { s with windows := s.windows.set id none }
      else none
  | .onDelete frame =>
      if .destroy frame ∉ s.panel.events then
        (s.panel.uiStep (.removeFrame frame)).map fun p => { s with panel := p }
      else none
  | .sendOnce frame gotReply =>
      if s.panel.uiThread = .idle ∧ frame < s.panel.nextFrame ∧ .destroy frame ∉ s.panel.events then
        some { s with
          panel.uiQueue := s.panel.uiQueue ++ if gotReply then [.received frame] else [] }
      else none
  | .received words =>
      match s.panel.uiQueue with
      | .received frame :: _ =>
          (s.panel.uiStep .runClosure).map fun p =>
            { s with panel := p, configs := s.configs.modify frame (storeWords words) }
      | _ => none
  | .panel l =>
      if Unattached l ∧ StoresReply s.panel l = false then
        (panelStep s.panel l).map fun p => { s with panel := p }
      else none

/-- What a step does. -/
inductive Desk.Does (s : Desk) : DeskLabel → Desk → Prop where
  | opens : s.panel.uiThread = .idle → Does s .onAddFrameClicked
      { s with windows := s.windows ++ [some ⟨none, .create none⟩] }
  | edits {frame : Nat} {config : FrameConfig} : s.panel.uiThread = .idle →
      .destroy frame ∉ s.panel.events → s.configs[frame]? = some config →
      Does s (.onEdit frame)
        { s with windows := s.windows ++ [some ⟨some frame, .create (some config)⟩] }
  | moves {id : Nat} {l : WindowLabel} {w : Window} {controls : FrameCreationFrame} :
      s.window id = some w → windowStep w.controls l = some controls → Does s (.window id l)
        { s with windows := s.windows.set id (some { w with controls := controls }) }
  | saves {id : Nat} {w : Window} {config : FrameConfig} {panel : Panel} :
      s.window id = some w → w.controls.onSave = some config →
      s.panel.uiStep (saving w.source) = some panel → Does s (.onSave id)
        { panel := panel, configs := s.configs ++ [config], windows := s.windows.set id none }
  | cancels {id : Nat} {w : Window} : s.panel.uiThread = .idle → s.window id = some w →
      Does s (.onCancel id) { s with windows := s.windows.set id none }
  | removes {frame : Nat} {panel : Panel} : .destroy frame ∉ s.panel.events →
      s.panel.uiStep (.removeFrame frame) = some panel →
      Does s (.onDelete frame) { s with panel := panel }
  | sendsOnce {frame : Nat} {gotReply : Bool} : Does s (.sendOnce frame gotReply)
      { s with panel.uiQueue := s.panel.uiQueue ++ if gotReply then [.received frame] else [] }
  | stores {words : Vector UInt16 32} {frame : Nat} {rest : List Closure} {panel : Panel} :
      s.panel.uiQueue = .received frame :: rest → s.panel.uiStep .runClosure = some panel →
      Does s (.received words)
        { s with panel := panel, configs := s.configs.modify frame (storeWords words) }
  | panel {l : PanelLabel} {panel : Panel} : Unattached l → panelStep s.panel l = some panel →
      Does s (.panel l) { s with panel := panel }

theorem deskStep_cases {s s' : Desk} {l : DeskLabel} (hstep : deskStep s l = some s') :
    s.Does l s' := by
  cases l with
  | onAddFrameClicked =>
      obtain ⟨hidle, heq⟩ := Option.ite_none_right_eq_some.mp hstep
      cases heq
      exact .opens hidle
  | onEdit frame =>
      obtain ⟨⟨hidle, halive⟩, heq⟩ := Option.ite_none_right_eq_some.mp hstep
      obtain ⟨config, hconfig, rfl⟩ := Option.map_eq_some_iff.mp heq
      exact .edits hidle halive hconfig
  | window id l =>
      obtain ⟨-, heq⟩ := Option.ite_none_right_eq_some.mp hstep
      obtain ⟨w, hw, hrest⟩ := Option.bind_eq_some_iff.mp heq
      obtain ⟨controls, hmove, hdone⟩ := Option.bind_eq_some_iff.mp hrest
      cases hdone
      exact .moves hw hmove
  | onSave id =>
      obtain ⟨w, hw, hrest⟩ := Option.bind_eq_some_iff.mp hstep
      obtain ⟨config, hconfig, hrest⟩ := Option.bind_eq_some_iff.mp hrest
      obtain ⟨panel, hpanel, hdone⟩ := Option.bind_eq_some_iff.mp hrest
      cases hdone
      exact .saves hw hconfig hpanel
  | onCancel id =>
      obtain ⟨hidle, heq⟩ := Option.ite_none_right_eq_some.mp hstep
      obtain ⟨w, hw, rfl⟩ := Option.map_eq_some_iff.mp heq
      exact .cancels hidle hw
  | onDelete frame =>
      obtain ⟨halive, heq⟩ := Option.ite_none_right_eq_some.mp hstep
      obtain ⟨panel, hpanel, rfl⟩ := Option.map_eq_some_iff.mp heq
      exact .removes halive hpanel
  | sendOnce frame gotReply =>
      obtain ⟨-, heq⟩ := Option.ite_none_right_eq_some.mp hstep
      cases heq
      exact .sendsOnce
  | received words =>
      rw [deskStep] at hstep
      split at hstep
      · rename_i frame rest hqueue
        obtain ⟨panel, hpanel, rfl⟩ := Option.map_eq_some_iff.mp hstep
        exact .stores hqueue hpanel
      · cases hstep
  | panel l =>
      obtain ⟨⟨hl, -⟩, heq⟩ := Option.ite_none_right_eq_some.mp hstep
      obtain ⟨panel, hpanel, rfl⟩ := Option.map_eq_some_iff.mp heq
      exact .panel hl hpanel

/-! ## Frames made so far -/

/-- Frames made by a step of the panel. -/
def made : PanelLabel → Nat
  | .ui .addFrame | .ui (.updateFrame _) => 1
  | _ => 0

/-- The listed frames have been made. -/
def Known (s : Panel) : Prop := ∀ frame ∈ s.frameComponents, frame < s.nextFrame

/-- A frame is made at the end of the list, under the next number. -/
theorem known_addFrameToList {s : Panel} (h : Known s) : Known s.addFrameToList := by
  intro frame hin
  show frame < s.nextFrame + 1
  rcases List.mem_append.mp hin with hold | hnew
  · exact Nat.lt_succ_of_lt (h frame hold)
  · rw [List.mem_singleton.mp hnew]
    exact Nat.lt_succ_self _

theorem known_removeFrame {s : Panel} (h : Known s) (removed : Nat) : Known (s.removeFrame removed) :=
  fun frame hin => h frame (List.mem_filter.mp hin).1

/-- Stopping and closing leave the list alone. -/
theorem known_stopSendingThread {s : Panel} (h : Known s) (closing : Bool) :
    Known (s.stopSendingThread closing) ∧
      (s.stopSendingThread closing).nextFrame = s.nextFrame := by
  have hsame := sameFrames_stopSendingThread s closing
  refine ⟨fun frame hin => ?_, hsame.next⟩
  rw [hsame.next]
  exact h frame (hsame.listed ▸ hin)

/-- **What a step of the panel makes of the list.** -/
theorem known_panelStep {s s' : Panel} {l : PanelLabel} (h : Known s)
    (hstep : panelStep s l = some s') : Known s' ∧ s'.nextFrame = s.nextFrame + made l := by
  cases l with
  | ui l =>
      rcases uiStep_cases hstep with ⟨-, hhandle⟩ | ⟨closing, -, rfl, -, rfl⟩
      · cases hhandle with
        | toggleClick =>
            have hsame := sameFrames_onSendActiveFramesToggle s
            refine ⟨fun frame hin => ?_, hsame.next⟩
            rw [hsame.next]
            exact h frame (hsame.listed ▸ hin)
        | repeatClick => exact ⟨h, rfl⟩
        | addFrame => exact ⟨known_addFrameToList h, rfl⟩
        | removeFrame => exact ⟨known_removeFrame h _, rfl⟩
        | updateFrame => exact ⟨known_addFrameToList (known_removeFrame h _), rfl⟩
        | clearFrames =>
            exact onClearFramesClicked_induction (P := fun t => Known t ∧ t.nextFrame = s.nextFrame)
              ⟨h, rfl⟩ fun _ frame _ t ht => ⟨known_removeFrame ht.1 frame, ht.2⟩
        | closePanel => exact known_stopSendingThread h true
        | @runClosure c rest hqueue =>
            have hrest : Known { s with uiQueue := rest } := h
            cases c with
            | initFailed | noFrames | loopEnd => exact known_stopSendingThread hrest false
            | snapshot | stopped | destroy | allDisabled | received => exact ⟨hrest, rfl⟩
      · exact ⟨h, rfl⟩
  | send l =>
      obtain ⟨m, -, rfl⟩ := Option.map_eq_some_iff.mp hstep
      exact ⟨h, rfl⟩

/-- Steps that are not started from a window or a frame make none. -/
theorem made_unattached {l : PanelLabel} (hl : Unattached l) : made l = 0 := by
  cases l with
  | send => rfl
  | ui l =>
      cases l with
      | addFrame | updateFrame => exact hl.elim
      | _ => rfl

/-! ## The contents of frames and windows -/

/-- Every component has a configuration the windows could have made, and every open
    window holds one. -/
structure Sound (s : Desk) : Prop where
  known   : Known s.panel
  count   : s.configs.length = s.panel.nextFrame
  tidy    : ∀ config ∈ s.configs, Tidy config ∧ config.label ≠ ""
  windows : ∀ w, some w ∈ s.windows → ∃ draft, Tidy draft ∧ Holds w.controls draft

theorem Desk.mem_window {s : Desk} {id : Nat} {w : Window} (h : s.window id = some w) :
    some w ∈ s.windows :=
  List.mem_of_getElem? (Option.join_eq_some_iff.mp h)

/-- Modifying one entry. -/
theorem mem_modify {α : Type} {l : List α} {i : Nat} {f : α → α} {x : α} (h : x ∈ l.modify i f) :
    x ∈ l ∨ ∃ y ∈ l, x = f y := by
  obtain ⟨j, hj⟩ := List.mem_iff_getElem?.mp h
  rw [List.getElem?_modify] at hj
  obtain ⟨y, hy, rfl⟩ := Option.map_eq_some_iff.mp hj
  by_cases hij : i = j
  · rw [if_pos hij]
    exact Or.inr ⟨y, List.mem_of_getElem? hy, rfl⟩
  · rw [if_neg hij]
    exact Or.inl (List.mem_of_getElem? hy)

/-- What a window saves is tidy and has a name. -/
theorem Sound.saved {s : Desk} (h : Sound s) {w : Window} (hw : some w ∈ s.windows) :
    ∃ config, w.controls.onSave = some config ∧ Tidy config ∧ config.label ≠ "" := by
  obtain ⟨draft, htidy, hholds⟩ := h.windows w hw
  exact ⟨titled draft, hholds.onSave, titled_tidy htidy, titled_label draft⟩

/-- A closed window leaves the others. -/
theorem Sound.close {s : Desk} (h : Sound s) (id : Nat) :
    ∀ w, some w ∈ s.windows.set id none → ∃ draft, Tidy draft ∧ Holds w.controls draft := by
  intro w hw
  rcases List.mem_or_eq_of_mem_set hw with hold | hnone
  · exact h.windows w hold
  · cases hnone

/-- A new window holds something tidy. -/
theorem Sound.openWindow {s : Desk} (h : Sound s) {w : Window}
    (hnew : ∃ draft, Tidy draft ∧ Holds w.controls draft) :
    Sound { s with windows := s.windows ++ [some w] } := by
  refine ⟨h.known, h.count, h.tidy, fun v hv => ?_⟩
  rcases List.mem_append.mp hv with hold | hlast
  · exact h.windows v hold
  · rw [List.mem_singleton, Option.some_inj] at hlast
    rw [hlast]
    exact hnew

/-- The panel moves on and makes no frame. -/
theorem Sound.panelStep {s : Desk} (h : Sound s) {l : PanelLabel} {panel : Panel}
    (hmade : made l = 0) (hstep : panelStep s.panel l = some panel) :
    Sound { s with panel := panel } := by
  obtain ⟨hknown, hnext⟩ := known_panelStep h.known hstep
  refine ⟨hknown, ?_, h.tidy, h.windows⟩
  show s.configs.length = panel.nextFrame
  rw [hnext, hmade, h.count]
  rfl

/-- **Step lemma**: windows, replies and the threads keep every configuration tidy. -/
theorem sound_step (s : Desk) (l : DeskLabel) (s' : Desk) (h : Sound s)
    (hstep : deskStep s l = some s') : Sound s' := by
  cases deskStep_cases hstep with
  | opens => exact h.openWindow ⟨newFrame, tidy_newFrame, holds_create_none⟩
  | edits _ _ hconfig =>
      have htidy := (h.tidy _ (List.mem_of_getElem? hconfig)).1
      exact h.openWindow ⟨_, htidy, holds_create htidy.editable⟩
  | moves hw hmove =>
      obtain ⟨draft, htidy, hholds⟩ := h.windows _ (Desk.mem_window hw)
      obtain ⟨draft', hdraft, hholds'⟩ := hholds.moves hmove
      refine ⟨h.known, h.count, h.tidy, fun v hv => ?_⟩
      rcases List.mem_or_eq_of_mem_set hv with hold | hnew
      · exact h.windows v hold
      · cases hnew
        exact ⟨draft', draftStep_tidy htidy hdraft, hholds'⟩
  | @saves id w config panel hw hconfig hpanel =>
      obtain ⟨saved, hsaved, htidy⟩ := h.saved (Desk.mem_window hw)
      obtain rfl : config = saved := Option.some.inj (hconfig.symm.trans hsaved)
      have hmade : made (.ui (saving w.source)) = 1 := by
        cases w.source <;> rfl
      obtain ⟨hknown, hnext⟩ := known_panelStep (l := .ui (saving w.source)) h.known hpanel
      refine ⟨hknown, ?_, fun c hc => ?_, h.close id⟩
      · show (s.configs ++ [config]).length = panel.nextFrame
        rw [List.length_append, hnext, hmade, h.count]
        rfl
      · rcases List.mem_append.mp hc with hold | hnew
        · exact h.tidy c hold
        · rw [List.mem_singleton.mp hnew]
          exact htidy
  | cancels => exact ⟨h.known, h.count, h.tidy, h.close _⟩
  | @removes frame panel _ hpanel => exact h.panelStep (l := .ui (.removeFrame frame)) rfl hpanel
  | sendsOnce => exact ⟨h.known, h.count, h.tidy, h.windows⟩
  | stores hqueue hpanel =>
      have hrest := h.panelStep (l := .ui .runClosure) rfl hpanel
      refine ⟨hrest.known, ?_, fun c hc => ?_, h.windows⟩
      · rw [List.length_modify]
        exact hrest.count
      · rcases mem_modify hc with hold | ⟨old, hold, rfl⟩
        · exact h.tidy c hold
        · exact ⟨received_tidy (h.tidy old hold).1 _, (h.tidy old hold).2⟩
  | panel hl hpanel => exact h.panelStep (made_unattached hl) hpanel

theorem tidy_defaultFrame {label : String} {rt sa wc : Int} (tr : Int) (words : Vector UInt16 32)
    (hlabel : label ≠ "") (hrt : 0 ≤ rt ∧ rt < 32) (hsa : 0 ≤ sa ∧ sa < 32)
    (hwc : 0 ≤ wc ∧ wc ≤ 32) :
    Tidy (defaultFrame label rt sa wc tr words) ∧
      (defaultFrame label rt sa wc tr words).label ≠ "" := by
  have hzero : (0 : Int) ≤ 0 ∧ (0 : Int) < 32 := by decide
  refine ⟨⟨⟨Or.inl rfl, hrt, hsa, hzero, hzero, hwc⟩, fun text htext => ?_⟩, hlabel⟩
  obtain ⟨word, -, rfl⟩ := Vector.mem_map.mp htext
  exact Nat.le_of_eq (length_hexWord word)

theorem sound_init (words : Fin 5 → Vector UInt16 32) : Sound (Desk.init words) := by
  have hknown : Known Panel.init := by
    show ∀ frame ∈ [0, 1, 2, 3, 4], frame < 5
    decide
  refine ⟨hknown, rfl, ?_, fun w hw => by cases hw⟩
  simp only [Desk.init, defaultFrames, List.forall_mem_cons]
  refine ⟨?_, ?_, ?_, ?_, ?_, fun config hin => by cases hin⟩
  iterate 5 exact tidy_defaultFrame _ _ (by simp) (by decide) (by decide) (by decide)

/-- What the user sees can be sent and read back: every listed frame goes out as a
    packet that shows it, and every open window can be saved. -/
structure Faithful (s : Desk) : Prop where
  frames  : ∀ frame ∈ s.panel.frameComponents, ∃ config, s.configs[frame]? = some config ∧
    Tidy config ∧ config.label ≠ "" ∧ Shows config (decodeFrame (packetBytes config))
  windows : ∀ w, some w ∈ s.windows → ∃ config, w.controls.onSave = some config ∧
    Tidy config ∧ config.label ≠ ""

/-- **Whatever the user does**, with any number of windows open, the sending thread
    running and replies arriving. -/
theorem desk_faithful (words : Fin 5 → Vector UInt16 32) {ls : List DeskLabel} {t : Desk}
    (hrun : run deskStep (Desk.init words) ls = some t) : Faithful t := by
  have hsound := run_invariant deskStep sound_step ls (sound_init words) hrun
  refine ⟨fun frame hin => ?_, fun w hw => hsound.saved hw⟩
  have hlt : frame < t.configs.length := hsound.count ▸ hsound.known frame hin
  obtain ⟨htidy, hlabel⟩ := hsound.tidy _ (List.getElem_mem hlt)
  exact ⟨_, List.getElem?_eq_getElem hlt, htidy, hlabel, shows_editable htidy.editable⟩

/-- A frame is edited while the sending thread runs. -/
theorem desk_faithful_sending :
    ∃ t, run deskStep (Desk.init fun _ => Vector.replicate 32 0)
        [.onEdit 1, .panel (.ui .toggleClick), .panel (.send .testSending),
          .window 0 (.chooseMode .bcToRt), .window 0 (.typeData 3 "xyz"), .onSave 0] = some t ∧
      Faithful t := by
  obtain ⟨t, ht⟩ : ∃ t, run deskStep (Desk.init fun _ => Vector.replicate 32 0)
      [.onEdit 1, .panel (.ui .toggleClick), .panel (.send .testSending),
        .window 0 (.chooseMode .bcToRt), .window 0 (.typeData 3 "xyz"), .onSave 0] = some t :=
    ⟨_, rfl⟩
  exact ⟨t, ht, desk_faithful _ ht⟩

/-! ## From opening a window to saving it -/

/-- The events of one window. -/
def own (id : Nat) : DeskLabel → Option WindowLabel
  | .window j l => if j = id then some l else none
  | _ => none

/-- The window has been opened on the frame and, while it is open, its controls are
    these. -/
def Has (id frame : Nat) (s : Desk) (controls : FrameCreationFrame) : Prop :=
  id < s.windows.length ∧
    ∀ w, s.window id = some w → w.source = some frame ∧ w.controls = controls

theorem window_append (s : Desk) (w : Window) {id : Nat} (hid : id < s.windows.length) :
    ({ s with windows := s.windows ++ [some w] } : Desk).window id = s.window id := by
  rw [Desk.window, Desk.window, List.getElem?_append_left hid]

theorem window_set (s : Desk) (o : Option Window) {id j : Nat} (hid : id < s.windows.length) :
    ({ s with windows := s.windows.set j o } : Desk).window id
      = if j = id then o else s.window id := by
  rw [Desk.window, Desk.window, List.getElem?_set]
  by_cases hj : j = id
  · rw [if_pos hj, if_pos hj, if_pos (hj ▸ hid)]
    rfl
  · rw [if_neg hj, if_neg hj]

/-- A window that is open when one has been closed was open before. -/
theorem window_of_closed {s : Desk} {id j : Nat} {w : Window} (hid : id < s.windows.length)
    (hopen : (s.windows.set j none)[id]?.join = some w) : s.window id = some w := by
  have hset := window_set s none (j := j) hid
  rw [Desk.window, hopen] at hset
  by_cases hj : j = id
  · rw [if_pos hj] at hset
    cases hset
  · rw [if_neg hj] at hset
    exact hset.symm

/-- **Step lemma**: a window moves by its own events only. -/
theorem has_step {id frame : Nat} (s : Desk) (l : DeskLabel) (s' : Desk) (c : FrameCreationFrame)
    (h : Has id frame s c) (hstep : deskStep s l = some s') :
    ∃ c', run windowStep c (own id l).toList = some c' ∧ Has id frame s' c' := by
  obtain ⟨hid, hw⟩ := h
  cases deskStep_cases hstep with
  | opens | edits =>
      refine ⟨c, rfl, ?_, fun w hopen => hw w ?_⟩
      · exact Nat.lt_of_lt_of_le hid (by simp)
      · rw [window_append s _ hid] at hopen
        exact hopen
  | @moves j l v controls hv hmove =>
      by_cases hj : j = id
      · subst hj
        obtain ⟨hsource, rfl⟩ := hw v hv
        refine ⟨controls, ?_, by simpa using hid, fun w hopen => ?_⟩
        · rw [own, if_pos rfl, Option.toList_some, run_cons_of_step windowStep hmove]
          rfl
        · rw [window_set s _ hid, if_pos rfl] at hopen
          cases hopen
          exact ⟨hsource, rfl⟩
      · refine ⟨c, ?_, by simpa using hid, fun w hopen => hw w ?_⟩
        · rw [own, if_neg hj]
          rfl
        · rw [window_set s _ hid, if_neg hj] at hopen
          exact hopen
  | @saves j v config panel =>
      refine ⟨c, rfl, by simpa using hid, fun w hopen => hw w ?_⟩
      exact window_of_closed hid hopen
  | @cancels j =>
      refine ⟨c, rfl, by simpa using hid, fun w hopen => hw w ?_⟩
      exact window_of_closed hid hopen
  | removes | sendsOnce | stores | panel => exact ⟨c, rfl, hid, hw⟩

/-- **What a Save writes.**  Between opening a window on a frame and saving it, other
    windows are edited and saved, replies are stored in the frame and the sending
    thread goes on; the new frame is the one the window was opened on, edited by the
    events of this window, and takes its place at the end of the list. -/
theorem save_eq {words : Fin 5 → Vector UInt16 32} {ms ls : List DeskLabel} {s s₁ s₂ s₃ : Desk}
    {frame : Nat} (hreach : run deskStep (Desk.init words) ms = some s)
    (hopen : deskStep s (.onEdit frame) = some s₁) (hrun : run deskStep s₁ ls = some s₂)
    (hsave : deskStep s₂ (.onSave s.windows.length) = some s₃) :
    ∃ source draft, s.configs[frame]? = some source ∧
      run draftStep source (ls.filterMap (own s.windows.length)) = some draft ∧
      s₃.panel.frameComponents
        = s₂.panel.frameComponents.filter (· ≠ frame) ++ [s₂.panel.nextFrame] ∧
      s₃.configs[s₂.panel.nextFrame]? = some (titled draft) := by
  have hsound := run_invariant deskStep sound_step ms (sound_init words) hreach
  have hsound₂ := run_invariant deskStep sound_step ls
    (sound_step s _ s₁ hsound hopen) hrun
  cases deskStep_cases hopen with
  | @edits _ source _ _ hsource =>
    have hholds := holds_create (hsound.tidy source (List.mem_of_getElem? hsource)).1.editable
    -- the window as it was opened, and as it is saved
    have hhas : Has s.windows.length frame
        { s with windows := s.windows ++ [some ⟨some frame, .create (some source)⟩] }
        (.create (some source)) := by
      refine ⟨by simp, fun w hw => ?_⟩
      rw [Desk.window, List.getElem?_concat_length] at hw
      cases hw
      exact ⟨rfl, rfl⟩
    obtain ⟨controls, hcontrols, -, hlast⟩ :=
      run_projects deskStep (R := Has s.windows.length frame) has_step ls hhas hrun
    cases deskStep_cases hsave with
    | @saves _ w config panel hw hconfig hpanel =>
      obtain ⟨hframe, rfl⟩ := hlast w hw
      have hsaved := hholds.saves (ls.filterMap (own s.windows.length))
      rw [hcontrols, Option.bind_some, hconfig] at hsaved
      obtain ⟨draft, hdraft, rfl⟩ := Option.map_eq_some_iff.mp hsaved.symm
      refine ⟨source, draft, hsource, hdraft, ?_, ?_⟩
      · rw [hframe] at hpanel
        rcases uiStep_cases hpanel with ⟨-, hhandle⟩ | ⟨_, -, hjoin, -, -⟩
        · cases hhandle with
          | updateFrame => rfl
        · cases hjoin
      · rw [← hsound₂.count]
        exact List.getElem?_concat_length

/-- A reply is stored while the frame is edited, and overwritten. -/
theorem save_eq_reply :
    ∃ (s₂ s₃ : Desk) (source draft : FrameConfig), deskStep s₂ (.onSave 0) = some s₃ ∧
      (defaultFrames fun _ => Vector.replicate 32 0)[1]? = some source ∧
      run draftStep source [.chooseRt1 9] = some draft ∧
      s₃.panel.frameComponents = s₂.panel.frameComponents.filter (· ≠ 1) ++ [s₂.panel.nextFrame] ∧
      s₃.configs[s₂.panel.nextFrame]? = some (titled draft) := by
  obtain ⟨s₁, s₂, s₃, hopen, hrun, hsave⟩ : ∃ s₁ s₂ s₃,
      deskStep (Desk.init fun _ => Vector.replicate 32 0) (.onEdit 1) = some s₁ ∧
      run deskStep s₁ [.sendOnce 1 true, .window 0 (.chooseRt1 9),
        .received (Vector.replicate 32 7)] = some s₂ ∧
      deskStep s₂ (.onSave 0) = some s₃ := ⟨_, _, _, rfl, rfl, rfl⟩
  have hstart : run deskStep (Desk.init fun _ => Vector.replicate 32 0) []
      = some (Desk.init fun _ => Vector.replicate 32 0) := rfl
  obtain ⟨source, draft, hsource, hdraft, hframes, hconfig⟩ := save_eq hstart hopen hrun hsave
  exact ⟨s₂, s₃, source, draft, hsave, hsource, hdraft, hframes, hconfig⟩

end TcpDesk
