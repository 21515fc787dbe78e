import Mathlib.Data.List.Count
import Tcp1553.SenderProofs

/-! # Frames and the windows that edit them

    A frame is edited in a window of its own, which keeps a pointer to the component
    it was opened on.  Saving it is removing that component and adding a new one:
    `removeFrame` takes the component off the list and posts the closure that
    destroys it, and neither asks whether it was listed.

    `OnePlace` is the invariant: a component is listed, or its destruction is queued,
    or it is destroyed, and each of these once.  `destroyedOnce_iff` says which
    operations keep it, the sending thread running or not. -/

namespace TcpEditor

open LabelledRuns TcpSender

/-! ## The windows -/

/-- The panel and the open `FrameCreationFrame` windows, each by its
    `m_sourceComponent`. -/
structure Editor where
  panel   : Panel
  windows : List (Option Nat)
  deriving DecidableEq, Repr

/-- The constructed panel, no window open. -/
def Editor.init : Editor where
  panel   := Panel.init
  windows := []

/-- What the user does with frames and windows, and the rest of the panel. -/
inductive EditorLabel where
  | onAddFrameClicked
  | onEdit (frame : Nat)
  | onSave (source : Option Nat)
  | onCancel (source : Option Nat)
  | onDelete (frame : Nat)
  | panel (l : PanelLabel)
  deriving DecidableEq, Repr

/-- What saving a window asks of the panel. -/
def saving : Option Nat → UiLabel
  | some frame => .updateFrame frame
  | none => .addFrame

/-- Steps of the panel that are not started from a window or a frame. -/
def Unattached : PanelLabel → Prop
  | .ui .toggleClick | .ui .repeatClick | .ui .clearFrames | .ui .runClosure | .ui .join
  | .send _ => True
  | .ui .addFrame | .ui (.removeFrame _) | .ui (.updateFrame _) | .ui .closePanel => False

instance : (l : PanelLabel) → Decidable (Unattached l)
  | .ui .toggleClick | .ui .repeatClick | .ui .clearFrames | .ui .runClosure | .ui .join
  | .send _ => isTrue trivial
  | .ui .addFrame | .ui (.removeFrame _) | .ui (.updateFrame _) | .ui .closePanel => isFalse id

/-- The handlers of the windows and of the frames.  A frame that is detached from
    the list keeps its buttons until it is destroyed. -/
def editorStep (s : Editor) : EditorLabel → Option Editor
  | .onAddFrameClicked =>
      if s.panel.uiThread = .idle then some { s with windows := s.windows ++ [none] } else none
  | .onEdit frame =>
      if s.panel.uiThread = .idle ∧ frame < s.panel.nextFrame ∧ .destroy frame ∉ s.panel.events then
        some { s with windows := s.windows ++ [some frame] }
      else none
  | .onSave source =>
      if source ∈ s.windows then
        (s.panel.uiStep (saving source)).map fun p =>
          { panel := p, windows := s.windows.erase source }
      else none
  | .onCancel source =>
      if s.panel.uiThread = .idle ∧ source ∈ s.windows then
        some { s with windows := s.windows.erase source }
      else none
  | .onDelete frame =>
      if .destroy frame ∉ s.panel.events then
        (s.panel.uiStep (.removeFrame frame)).map fun p => { s with panel := p }
      else none
  | .panel l =>
      if Unattached l then (panelStep s.panel l).map fun p => { s with panel := p } else none

/-- What a step does. -/
inductive Editor.Does (s : Editor) : EditorLabel → Editor → Prop where
  | opens : Does s .onAddFrameClicked { s with windows := s.windows ++ [none] }
  | edits {frame : Nat} : .destroy frame ∉ s.panel.events →
      Does s (.onEdit frame) { s with windows := s.windows ++ [some frame] }
  | adds : Does s (.onSave none)
      { panel := s.panel.addFrameToList, windows := s.windows.erase none }
  | updates {frame : Nat} : frame < s.panel.nextFrame → Does s (.onSave (some frame))
      { panel := (s.panel.removeFrame frame).addFrameToList, windows := s.windows.erase (some frame) }
  | cancels {source : Option Nat} : Does s (.onCancel source)
      { s with windows := s.windows.erase source }
  | removes {frame : Nat} : .destroy frame ∉ s.panel.events → frame < s.panel.nextFrame →
      Does s (.onDelete frame) { s with panel := s.panel.removeFrame frame }
  | panel {l : PanelLabel} {p : Panel} : Unattached l → panelStep s.panel l = some p →
      Does s (.panel l) { s with panel := p }

theorem editorStep_cases {s s' : Editor} {l : EditorLabel} (hstep : editorStep s l = some s') :
    s.Does l s' := by
  cases l with
  | onAddFrameClicked =>
      obtain ⟨-, heq⟩ := Option.ite_none_right_eq_some.mp hstep
      cases heq
      exact .opens
  | onEdit frame =>
      obtain ⟨⟨-, -, halive⟩, heq⟩ := Option.ite_none_right_eq_some.mp hstep
      cases heq
      exact .edits halive
  | onSave source =>
      obtain ⟨-, heq⟩ := Option.ite_none_right_eq_some.mp hstep
      obtain ⟨p, hsave, rfl⟩ := Option.map_eq_some_iff.mp heq
      rcases uiStep_cases hsave with ⟨-, hhandle⟩ | ⟨_, -, hjoin, -, -⟩
      · cases source with
        | none =>
            cases hhandle
            exact .adds
        | some frame =>
            cases hhandle with
            | updateFrame hlt => exact .updates hlt
      · cases source <;> cases hjoin
  | onCancel source =>
      obtain ⟨-, heq⟩ := Option.ite_none_right_eq_some.mp hstep
      cases heq
      exact .cancels
  | onDelete frame =>
      obtain ⟨halive, heq⟩ := Option.ite_none_right_eq_some.mp hstep
      obtain ⟨p, hremove, rfl⟩ := Option.map_eq_some_iff.mp heq
      rcases uiStep_cases hremove with ⟨-, hhandle⟩ | ⟨_, -, hjoin, -, -⟩
      · cases hhandle with
        | removeFrame hlt => exact .removes halive hlt
      · cases hjoin
  | panel l =>
      obtain ⟨hl, heq⟩ := Option.ite_none_right_eq_some.mp hstep
      obtain ⟨p, hpanel, rfl⟩ := Option.map_eq_some_iff.mp heq
      exact .panel hl hpanel

/-! ## The property -/

/-- Destructions of the frame that are queued or have been carried out. -/
def scheduled (s : Panel) (frame : Nat) : Nat :=
  s.uiQueue.count (.destroy frame) + s.events.count (.destroy frame)

/-- The frames an operation works on. -/
def operands (s : Panel) : EditorLabel → List Nat
  | .onEdit frame | .onSave (some frame) | .onDelete frame => [frame]
  | .panel (.ui .clearFrames) => if s.isSending = true then [] else s.frameComponents
  | .panel (.ui .runClosure) =>
      match s.uiQueue with
      | .destroy frame :: _ => [frame]
      | _ => []
  | _ => []

/-- The operation finds its frames alive and leaves none to be destroyed twice;
    saving an edit window leaves as many frames as there were. -/
structure Clean (s : Editor) (l : EditorLabel) (s' : Editor) : Prop where
  alive : ∀ frame ∈ operands s.panel l, FrameEvent.destroy frame ∉ s.panel.events
  once  : ∀ frame, scheduled s'.panel frame ≤ 1
  kept  : ∀ frame, l = .onSave (some frame) →
    s'.panel.frameComponents.length = s.panel.frameComponents.length

/-- The operation, where it is possible, is clean. -/
def DestroyedOnce (s : Editor) (l : EditorLabel) : Prop :=
  ∀ s', editorStep s l = some s' → Clean s l s'

/-- The frame that a Save or a Remove gives to `removeFrame`. -/
def EditorLabel.removed : EditorLabel → Option Nat
  | .onSave source => source
  | .onDelete frame => some frame
  | _ => none

/-- Save and Remove, where they are possible, find their frame on the list. -/
def FindsListed (s : Editor) (l : EditorLabel) : Prop :=
  ∀ s', editorStep s l = some s' → ∀ frame, l.removed = some frame →
    frame ∈ s.panel.frameComponents

/-! ## Where a frame is -/

/-- The number of places a frame is in. -/
def places (s : Panel) (frame : Nat) : Nat := s.frameComponents.count frame + scheduled s frame

/-- Every frame made so far is in one place. -/
def OnePlace (s : Panel) : Prop :=
  ∀ frame, places s frame = if frame < s.nextFrame then 1 else 0

/-- A listed frame is listed once and is not about to be destroyed. -/
theorem OnePlace.listed {s : Panel} (h : OnePlace s) {frame : Nat}
    (hin : frame ∈ s.frameComponents) :
    frame < s.nextFrame ∧ s.frameComponents.count frame = 1 ∧ scheduled s frame = 0 := by
  have hone := h frame
  have hpos : 0 < s.frameComponents.count frame := List.count_pos_iff.mpr hin
  rw [places] at hone
  split at hone
  · rename_i hlt
    exact ⟨hlt, by omega, by omega⟩
  · omega

/-- Any other frame made so far is destroyed, or about to be. -/
theorem OnePlace.unlisted {s : Panel} (h : OnePlace s) {frame : Nat} (hlt : frame < s.nextFrame)
    (hout : frame ∉ s.frameComponents) : scheduled s frame = 1 := by
  have hone := h frame
  rw [places, if_pos hlt, List.count_eq_zero.mpr hout, Nat.zero_add] at hone
  exact hone

theorem OnePlace.scheduled_le {s : Panel} (h : OnePlace s) (frame : Nat) :
    scheduled s frame ≤ 1 := by
  have hone := h frame
  rw [places] at hone
  split at hone <;> omega

theorem not_destroyed {s : Panel} {frame : Nat} (h : scheduled s frame = 0) :
    FrameEvent.destroy frame ∉ s.events :=
  List.count_eq_zero.mp (Nat.add_eq_zero_iff.mp h).2

theorem OnePlace.nodup {s : Panel} (h : OnePlace s) : s.frameComponents.Nodup := by
  refine List.nodup_iff_count_le_one.mpr fun frame => ?_
  by_cases hin : frame ∈ s.frameComponents
  · exact Nat.le_of_eq (h.listed hin).2.1
  · rw [List.count_eq_zero.mpr hin]
    exact Nat.zero_le 1

/-! ## Adding and removing -/

theorem onePlace_addFrameToList {s : Panel} (h : OnePlace s) : OnePlace s.addFrameToList := by
  intro frame
  have hplaces : places s.addFrameToList frame
      = places s frame + if s.nextFrame = frame then 1 else 0 := by
    show (s.frameComponents ++ [s.nextFrame]).count frame + scheduled s frame = _
    rw [List.count_append, List.count_singleton, places]
    simp only [beq_iff_eq]
    omega
  rw [hplaces, h frame]
  show _ = if frame < s.nextFrame + 1 then 1 else 0
  split <;> split <;> split <;> omega

/-- Removing a frame is one more destruction of it. -/
theorem scheduled_removeFrame (s : Panel) (frame g : Nat) :
    scheduled (s.removeFrame frame) g = scheduled s g + if frame = g then 1 else 0 := by
  show (s.uiQueue ++ [Closure.destroy frame]).count (Closure.destroy g)
    + (s.events ++ [FrameEvent.removeFrame frame]).count (FrameEvent.destroy g) = _
  rw [List.count_append, List.count_append, List.count_singleton, List.count_singleton, scheduled]
  simp only [beq_iff_eq, Closure.destroy.injEq, reduceCtorEq, if_false]
  omega

theorem count_removeFrame (s : Panel) (frame g : Nat) :
    (s.removeFrame frame).frameComponents.count g
      = if frame = g then 0 else s.frameComponents.count g := by
  show (s.frameComponents.filter (· ≠ frame)).count g = _
  by_cases heq : frame = g
  · rw [if_pos heq, List.count_eq_zero]
    intro hin
    exact of_decide_eq_true (List.mem_filter.mp hin).2 heq.symm
  · rw [if_neg heq]
    exact List.count_filter (decide_eq_true (Ne.symm heq))

/-- A listed frame goes from the list to the queue. -/
theorem places_removeFrame {s : Panel} {frame : Nat} (h : s.frameComponents.count frame = 1)
    (g : Nat) : places (s.removeFrame frame) g = places s g := by
  rw [places, places, count_removeFrame, scheduled_removeFrame]
  by_cases heq : frame = g
  · subst heq
    rw [if_pos rfl, if_pos rfl, h]
    omega
  · rw [if_neg heq, if_neg heq]
    rfl

theorem onePlace_removeFrame {s : Panel} (h : OnePlace s) {frame : Nat}
    (hin : frame ∈ s.frameComponents) : OnePlace (s.removeFrame frame) :=
  fun g => (places_removeFrame (h.listed hin).2.1 g).trans (h g)

/-- Saving an edit window on a listed frame: one frame less, one frame more. -/
theorem length_updateFrame {s : Panel} (h : OnePlace s) {frame : Nat}
    (hin : frame ∈ s.frameComponents) :
    (s.removeFrame frame).addFrameToList.frameComponents.length = s.frameComponents.length := by
  have herase : s.frameComponents.filter (· ≠ frame) = s.frameComponents.erase frame := by
    rw [h.nodup.erase_eq_filter]
    refine List.filter_congr fun g _ => ?_
    rw [Bool.eq_iff_iff, decide_eq_true_iff, bne_iff_ne]
  show (s.frameComponents.filter (· ≠ frame) ++ [s.nextFrame]).length = _
  rw [herase, List.length_append, List.length_erase_of_mem hin]
  exact Nat.sub_add_cancel (List.length_pos_of_mem hin)

/-- Distinct listed frames, removed one after the other. -/
theorem places_foldl_removeFrame (frames : List Nat) :
    ∀ s : Panel, frames.Nodup → (∀ frame ∈ frames, s.frameComponents.count frame = 1) →
      (frames.foldl Panel.removeFrame s).nextFrame = s.nextFrame ∧
        ∀ g, places (frames.foldl Panel.removeFrame s) g = places s g := by
  induction frames with
  | nil => intro s _ _; exact ⟨rfl, fun _ => rfl⟩
  | cons frame frames ih =>
      intro s hnodup hlisted
      obtain ⟨hnew, hrest⟩ := List.nodup_cons.mp hnodup
      -- the others are still listed
      have hothers : ∀ g ∈ frames, (s.removeFrame frame).frameComponents.count g = 1 := by
        intro g hg
        have hne : frame ≠ g := by
          rintro rfl
          exact hnew hg
        rw [count_removeFrame, if_neg hne]
        exact hlisted g (List.mem_cons_of_mem _ hg)
      obtain ⟨hnext, hplaces⟩ := ih (s.removeFrame frame) hrest hothers
      refine ⟨hnext, fun g => (hplaces g).trans ?_⟩
      exact places_removeFrame (hlisted frame List.mem_cons_self) g

theorem onePlace_onClearFramesClicked {s : Panel} (h : OnePlace s) :
    OnePlace s.onClearFramesClicked ∧ s.onClearFramesClicked.nextFrame = s.nextFrame := by
  rw [Panel.onClearFramesClicked]
  split
  · exact ⟨h, rfl⟩
  · obtain ⟨hnext, hplaces⟩ := places_foldl_removeFrame s.frameComponents s h.nodup
      fun frame hin => (h.listed hin).2.1
    refine ⟨fun g => ?_, hnext⟩
    rw [hplaces, hnext]
    exact h g

/-! ## The rest of the panel -/

/-- A step that moves no frame. -/
structure SameFrames (s s' : Panel) : Prop where
  listed    : s'.frameComponents = s.frameComponents
  next      : s'.nextFrame = s.nextFrame
  scheduled : ∀ frame, scheduled s' frame = scheduled s frame

theorem SameFrames.onePlace {s s' : Panel} (hsame : SameFrames s s') (h : OnePlace s) :
    OnePlace s' := by
  intro frame
  rw [places, hsame.listed, hsame.scheduled, hsame.next]
  exact h frame

/-- Closures and events that destroy nothing may be added freely. -/
theorem sameFrames_append {s s' : Panel} (posts : List Closure) (events : List FrameEvent)
    (hlisted : s'.frameComponents = s.frameComponents) (hnext : s'.nextFrame = s.nextFrame)
    (hqueue : s'.uiQueue = s.uiQueue ++ posts) (hevents : s'.events = s.events ++ events)
    (hposts : ∀ frame, .destroy frame ∉ posts) (hnone : ∀ frame, .destroy frame ∉ events) :
    SameFrames s s' := by
  refine ⟨hlisted, hnext, fun frame => ?_⟩
  rw [scheduled, hqueue, hevents, List.count_append, List.count_append,
    List.count_eq_zero.mpr (hposts frame), List.count_eq_zero.mpr (hnone frame)]
  rfl

/-- The queue and the events as they were. -/
theorem sameFrames_rest {s s' : Panel} (hlisted : s'.frameComponents = s.frameComponents)
    (hnext : s'.nextFrame = s.nextFrame) (hqueue : s'.uiQueue = s.uiQueue)
    (hevents : s'.events = s.events) : SameFrames s s' := by
  refine ⟨hlisted, hnext, fun frame => ?_⟩
  rw [scheduled, hqueue, hevents]
  rfl

theorem sameFrames_stopSendingThread (s : Panel) (closing : Bool) :
    SameFrames s (s.stopSendingThread closing) := by
  rw [Panel.stopSendingThread]
  split
  · exact sameFrames_rest rfl rfl rfl rfl
  · exact sameFrames_append [.stopped] [] rfl rfl rfl
      (List.append_nil _).symm (by simp) (by simp)

theorem sameFrames_onSendActiveFramesToggle (s : Panel) :
    SameFrames s { s with sendToggle := !s.sendToggle }.onSendActiveFramesToggle := by
  rw [Panel.onSendActiveFramesToggle]
  split
  · split
    · exact sameFrames_rest rfl rfl rfl rfl
    · rw [Panel.startSendingThread]
      split <;> exact sameFrames_rest rfl rfl rfl rfl
  · have hstop := sameFrames_stopSendingThread { s with sendToggle := !s.sendToggle } false
    exact ⟨hstop.listed, hstop.next, hstop.scheduled⟩

/-- The sending thread destroys nothing. -/
theorem sends_destroy {s : Panel} {thread : SendThread} {l : SendLabel} {m : SendMove}
    (h : s.Sends thread l m) :
    (∀ frame, .destroy frame ∉ m.posts) ∧ ∀ frame, .destroy frame ∉ m.events := by
  cases h <;> simp

/-- Running the closure that destroys a frame moves it on. -/
theorem onePlace_runClosure {s : Panel} {c : Closure} {rest : List Closure} (h : OnePlace s)
    (hqueue : s.uiQueue = c :: rest) :
    OnePlace ({ s with uiQueue := rest }.runClosure c) ∧
      ({ s with uiQueue := rest }.runClosure c).nextFrame = s.nextFrame := by
  have hpop : (∀ frame, c ≠ .destroy frame) → SameFrames s { s with uiQueue := rest } := by
    intro hother
    refine ⟨rfl, rfl, fun frame => ?_⟩
    rw [scheduled, scheduled, hqueue, List.count_cons_of_ne (hother frame)]
  cases c with
  | destroy frame =>
      refine ⟨fun g => Eq.trans ?_ (h g), rfl⟩
      rw [places, places, scheduled, scheduled, hqueue]
      show s.frameComponents.count g + (rest.count (Closure.destroy g)
        + (s.events ++ [FrameEvent.destroy frame]).count (FrameEvent.destroy g)) = _
      rw [List.count_append, List.count_singleton, List.count_cons]
      simp only [beq_iff_eq, Closure.destroy.injEq, FrameEvent.destroy.injEq]
      omega
  | initFailed session | noFrames session | loopEnd session =>
      have hstop := sameFrames_stopSendingThread { s with uiQueue := rest } false
      exact ⟨hstop.onePlace ((hpop fun _ hc => by cases hc).onePlace h), hstop.next⟩
  | snapshot promise | stopped | allDisabled | received frame =>
      have hsame := hpop fun _ hc => by cases hc
      exact ⟨SameFrames.onePlace (s := s) ⟨rfl, rfl, hsame.scheduled⟩ h, rfl⟩

/-- **What the rest of the panel does to frames**: every one stays in one place, and
    none is made. -/
theorem onePlace_panelStep {s s' : Panel} {l : PanelLabel} (hl : Unattached l) (h : OnePlace s)
    (hstep : panelStep s l = some s') : OnePlace s' ∧ s'.nextFrame = s.nextFrame := by
  cases l with
  | ui l =>
      rcases uiStep_cases hstep with ⟨-, hhandle⟩ | ⟨closing, -, -, -, rfl⟩
      · cases hhandle with
        | toggleClick =>
            have hsame := sameFrames_onSendActiveFramesToggle s
            exact ⟨hsame.onePlace h, hsame.next⟩
        | repeatClick => exact ⟨h, rfl⟩
        | clearFrames => exact onePlace_onClearFramesClicked h
        | runClosure hqueue => exact onePlace_runClosure h hqueue
        | addFrame | removeFrame | updateFrame | closePanel => exact hl.elim
      · have hsame : SameFrames s { s with
            sendThread := none
            uiThread := afterStop closing
            uiQueue := s.uiQueue ++ [.stopped] } :=
          sameFrames_append [.stopped] [] rfl rfl rfl (List.append_nil _).symm (by simp) (by simp)
        exact ⟨hsame.onePlace h, rfl⟩
  | send l =>
      obtain ⟨m, hmove, rfl⟩ := Option.map_eq_some_iff.mp hstep
      obtain ⟨thread, -, hsends⟩ := sendMove_cases hmove
      obtain ⟨hposts, hevents⟩ := sends_destroy hsends
      have hsame : SameFrames s (s.apply m) := sameFrames_append _ _ rfl rfl rfl rfl hposts hevents
      exact ⟨hsame.onePlace h, rfl⟩

/-! ## Which operations are clean -/

theorem onePlace_init : OnePlace Panel.init := by
  intro frame
  show [0, 1, 2, 3, 4].count frame + 0 = if frame < 5 then 1 else 0
  split
  · rename_i hlt
    revert frame
    decide
  · rename_i hge
    rw [List.count_eq_zero.mpr (fun hin => hge ?_)]
    simp only [List.mem_cons, List.not_mem_nil, or_false] at hin
    omega

/-- **Step lemma**: operations that find their frame listed keep every frame in one
    place. -/
theorem onePlace_step (s : Editor) (l : EditorLabel) (s' : Editor) (h : OnePlace s.panel)
    (hok : FindsListed s l) (hstep : editorStep s l = some s') : OnePlace s'.panel := by
  have hlisted := hok s' hstep
  cases editorStep_cases hstep with
  | opens | edits | cancels => exact h
  | adds => exact onePlace_addFrameToList h
  | updates => exact onePlace_addFrameToList (onePlace_removeFrame h (hlisted _ rfl))
  | removes => exact onePlace_removeFrame h (hlisted _ rfl)
  | panel hl hpanel => exact (onePlace_panelStep hl h hpanel).1

/-- What a step of the panel works on is listed or the next to be destroyed. -/
theorem operands_panel {s : Panel} {l : PanelLabel} {frame : Nat}
    (hin : frame ∈ operands s (.panel l)) :
    frame ∈ s.frameComponents ∨ ∃ rest, s.uiQueue = .destroy frame :: rest := by
  cases l with
  | send l => cases hin
  | ui l =>
      cases l with
      | clearFrames =>
          rw [operands] at hin
          split at hin
          · cases hin
          · exact Or.inl hin
      | runClosure =>
          rw [operands] at hin
          split at hin
          · rename_i rest hqueue
            obtain rfl := List.mem_singleton.mp hin
            exact Or.inr ⟨rest, hqueue⟩
          · cases hin
      | _ => cases hin

/-- What an operation works on is alive, if Save and Remove find it listed. -/
theorem alive_of_findsListed {s s' : Editor} {l : EditorLabel} (h : OnePlace s.panel)
    (hok : FindsListed s l) (hstep : editorStep s l = some s') :
    ∀ frame ∈ operands s.panel l, FrameEvent.destroy frame ∉ s.panel.events := by
  have halive : ∀ frame ∈ s.panel.frameComponents, FrameEvent.destroy frame ∉ s.panel.events :=
    fun frame hin => not_destroyed (h.listed hin).2.2
  have hlisted := hok s' hstep
  intro frame hin
  cases editorStep_cases hstep with
  | opens | adds | cancels => cases hin
  | edits hframe =>
      rw [List.mem_singleton.mp hin]
      exact hframe
  | updates | removes =>
      obtain rfl := List.mem_singleton.mp hin
      exact halive _ (hlisted _ rfl)
  | panel =>
      rcases operands_panel hin with hframe | ⟨rest, hqueue⟩
      · exact halive _ hframe
      · -- what is queued has not been carried out
        intro hdead
        have hle := h.scheduled_le frame
        have hdead : 0 < s.panel.events.count (.destroy frame) := List.count_pos_iff.mpr hdead
        rw [scheduled, hqueue, List.count_cons_self] at hle
        omega

/-- **Which operations are clean**: those whose Save or Remove finds its frame
    listed. -/
theorem destroyedOnce_step_iff {s : Editor} (h : OnePlace s.panel) (l : EditorLabel) :
    DestroyedOnce s l ↔ FindsListed s l := by
  constructor
  · intro hclean s' hstep frame hremoved
    have honce := (hclean s' hstep).once frame
    by_contra hout
    cases editorStep_cases hstep with
    | opens | edits | cancels | panel | adds => cases hremoved
    | updates hlt | removes _ hlt =>
        cases hremoved
        have hagain := scheduled_removeFrame s.panel frame frame
        rw [h.unlisted hlt hout, if_pos rfl] at hagain
        have honce : scheduled (s.panel.removeFrame frame) frame ≤ 1 := honce
        omega
  · intro hok s' hstep
    have hplace := onePlace_step s l s' h hok hstep
    refine ⟨alive_of_findsListed h hok hstep, hplace.scheduled_le, ?_⟩
    rintro frame rfl
    have hlisted := hok s' hstep frame rfl
    cases editorStep_cases hstep with
    | updates => exact length_updateFrame h hlisted

/-- **When frames are destroyed once.**  In a run, with the sending thread in between
    or not, every operation is clean exactly when every Save of an edit window and
    every Remove finds its frame still listed. -/
theorem destroyedOnce_iff (ls : List EditorLabel) :
    Guarded editorStep DestroyedOnce Editor.init ls
      ↔ Guarded editorStep FindsListed Editor.init ls :=
  guarded_iff editorStep (fun s l (h : OnePlace s.panel) => destroyedOnce_step_iff h l)
    onePlace_step ls onePlace_init

/-- Two windows on one frame, both saved: the frame is destroyed twice, and there is
    one frame more. -/
theorem savedTwice_destroys_twice :
    ¬∀ ls, Guarded editorStep DestroyedOnce Editor.init ls := by
  intro hall
  have hfirst := hall [.onEdit 0, .onEdit 0, .onSave (some 0), .onSave (some 0)]
  obtain ⟨-, hsecond⟩ := (guarded_cons_of_step editorStep rfl _).mp hfirst
  obtain ⟨-, hsave⟩ := (guarded_cons_of_step editorStep rfl _).mp hsecond
  obtain ⟨-, hagain⟩ := (guarded_cons_of_step editorStep rfl _).mp hsave
  obtain ⟨hclean, -⟩ := (guarded_cons_of_step editorStep rfl _).mp hagain
  exact absurd ((hclean _ rfl).once 0) (by decide)

end TcpEditor
