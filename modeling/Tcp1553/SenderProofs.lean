import Mathlib.Data.List.Nodup
import Mathlib.Data.List.Perm.Basic
import Tcp1553.RunProofs

/-! # The sending panel: UI thread, sending thread, queued closures

    `BusControllerPanel` is two threads around one queue.  The UI thread runs the
    handlers and, between them, the closures given to `CallAfter`, one at a time
    and in posting order.  The sending thread runs `sendActiveFramesLoop`: in
    every round it posts a closure that takes a snapshot of the frame list, waits
    for it, and goes through the snapshot.

    Frames and promises are identities.  A label is one step of one thread;
    `sendMove` is what a step of the sending thread does, so that what it leaves
    alone is plain from the definition.

    `Sound` is what every run keeps: the UI thread joins only after it has cleared
    `m_isSending`, outside a join a cleared flag means that there is no thread, and
    a promise is in the queue or fulfilled, not both. -/

namespace TcpSender

open LabelledRuns

/-! ## State -/

/-- Closures given to `CallAfter`.  Those that stop the sender carry the sending
    session that posted them. -/
inductive Closure where
  | initFailed (session : Nat)
  | snapshot (promise : Nat)
  | noFrames (session : Nat)
  | allDisabled
  | loopEnd (session : Nat)
  | stopped
  | destroy (frame : Nat)
  | received (frame : Nat)
  deriving DecidableEq, Repr

/-- Where `sendActiveFramesLoop` is. -/
inductive SendThread where
  | loopTest
  | initBc
  | initFailed
  | post
  | waiting (promise : Nat)
  | noFrames
  | forFrames (rest : List Nat) (sentAny : Bool)
  | checking (frame : Nat) (rest : List Nat) (sentAny : Bool)
  | sending (frame : Nat) (rest : List Nat)
  | afterFor (sentAny : Bool)
  | noneSent
  | repeatTest
  | leaving
  | finished
  deriving DecidableEq, Repr

/-- The UI thread: between two handlers, in the join of `stopSendingThread`, or
    past the destructor of the panel. -/
inductive UiThread where
  | idle
  | joining (closing : Bool)
  | closed
  deriving DecidableEq, Repr

/-- What happens to frames, in order. -/
inductive FrameEvent where
  | removeFrame (frame : Nat)
  | destroy (frame : Nat)
  | isActive (frame : Nat)
  | sendFrame (frame : Nat)
  deriving DecidableEq, Repr

/-- The panel.  `sendThread` is `none` while `m_sendThread` is not joinable;
    `overwritten` records an assignment to it while it was. -/
structure Panel where
  isSending       : Bool
  isRepeatOn      : Bool
  sendToggle      : Bool
  repeatToggle    : Bool
  frameComponents : List Nat
  nextFrame       : Nat
  uiThread        : UiThread
  uiQueue         : List Closure
  sendThread      : Option SendThread
  session         : Nat
  nextPromise     : Nat
  fulfilled       : List (Nat × List Nat)
  overwritten     : Bool
  events          : List FrameEvent
  deriving DecidableEq, Repr

/-- The constructed panel, with its five default frames. -/
def Panel.init : Panel where
  isSending       := false
  isRepeatOn      := false
  sendToggle      := false
  repeatToggle    := false
  frameComponents := [0, 1, 2, 3, 4]
  nextFrame       := 5
  uiThread        := .idle
  uiQueue         := []
  sendThread      := none
  session         := 0
  nextPromise     := 0
  fulfilled       := []
  overwritten     := false
  events          := []

/-! ## The UI thread -/

/-- `startSendingThread`. -/
def Panel.startSendingThread (s : Panel) : Panel :=
  if s.isSending = true then s
  else
    { s with
      isSending := true
      isRepeatOn := s.repeatToggle
      sendThread := some .loopTest
      session := s.session + 1
      overwritten := s.overwritten || s.sendThread.isSome }

/-- Where the UI thread is once `stopSendingThread` has returned. -/
def afterStop (closing : Bool) : UiThread := if closing then .closed else .idle

/-- `stopSendingThread` up to its join, or to its end when there is nothing to
    join. -/
def Panel.stopSendingThread (s : Panel) (closing : Bool) : Panel :=
  match s.sendThread with
  | some _ => { s with isSending := false, uiThread := .joining closing }
  | none =>
      { s with
        isSending := false
        uiThread := afterStop closing
        uiQueue := s.uiQueue ++ [.stopped] }

/-- `addFrameToList`. -/
def Panel.addFrameToList (s : Panel) : Panel :=
  { s with frameComponents := s.frameComponents ++ [s.nextFrame], nextFrame := s.nextFrame + 1 }

/-- `removeFrame`. -/
def Panel.removeFrame (s : Panel) (frame : Nat) : Panel :=
  { s with
    frameComponents := s.frameComponents.filter (· ≠ frame)
    uiQueue := s.uiQueue ++ [.destroy frame]
    events := s.events ++ [.removeFrame frame] }

/-- `onSendActiveFramesToggle`, after the click has changed the toggle. -/
def Panel.onSendActiveFramesToggle (s : Panel) : Panel :=
  if s.sendToggle = true then
    if s.isSending = true then s else s.startSendingThread
  else s.stopSendingThread false

/-- `onClearFramesClicked`. -/
def Panel.onClearFramesClicked (s : Panel) : Panel :=
  if s.isSending = true then s else s.frameComponents.foldl Panel.removeFrame s

/-- What a queued closure does when the UI thread runs it. -/
def Panel.runClosure (s : Panel) : Closure → Panel
  | .initFailed _ | .noFrames _ | .loopEnd _ => s.stopSendingThread false
  | .snapshot promise => { s with fulfilled := s.fulfilled ++ [(promise, s.frameComponents)] }
  | .stopped => { s with sendToggle := false }
  | .destroy frame => { s with events := s.events ++ [.destroy frame] }
  | .allDisabled | .received _ => s

/-- Handlers of the UI thread, the next closure, and the end of a join. -/
inductive UiLabel where
  | toggleClick
  | repeatClick
  | addFrame
  | removeFrame (frame : Nat)
  | updateFrame (frame : Nat)
  | clearFrames
  | closePanel
  | runClosure
  | join
  deriving DecidableEq, Repr

/-- A handler or closure while the UI thread is idle. -/
def Panel.handle (s : Panel) : UiLabel → Option Panel
  | .toggleClick => some { s with sendToggle := !s.sendToggle }.onSendActiveFramesToggle
  -- m_isRepeatOn follows the toggle also during a session
  | .repeatClick => some { s with repeatToggle := !s.repeatToggle, isRepeatOn := !s.repeatToggle }
  | .addFrame => some s.addFrameToList
  | .removeFrame frame => if frame < s.nextFrame then some (s.removeFrame frame) else none
  | .updateFrame frame =>
      if frame < s.nextFrame then some (s.removeFrame frame).addFrameToList else none
  | .clearFrames => some s.onClearFramesClicked
  | .closePanel => some (s.stopSendingThread true)
  | .runClosure =>
      match s.uiQueue with
      | [] => none
      | c :: rest => some ({ s with uiQueue := rest }.runClosure c)
  | .join => none

/-- The step of the UI thread. -/
def Panel.uiStep (s : Panel) (l : UiLabel) : Option Panel :=
  match s.uiThread with
  | .idle => s.handle l
  | .joining closing =>
      if l = .join ∧ s.sendThread = some .finished then
        some { s with
          sendThread := none
          uiThread := afterStop closing
          uiQueue := s.uiQueue ++ [.stopped] }
      else none
  | .closed => none

/-! ## The sending thread -/

/-- Steps of `sendActiveFramesLoop`, with what it is told by others: whether the
    controller is or gets initialised, whether a frame is active, whether the
    controller got a reply. -/
inductive SendLabel where
  | testSending
  | initBc (ok : Bool)
  | postInitFailed
  | postSnapshot
  | getFrames
  | postNoFrames
  | nextFrame
  | isActive (active : Bool)
  | sendFrame (gotReply : Bool)
  | testAfterFor
  | postAllDisabled
  | testRepeat
  | postLoopEnd
  deriving DecidableEq, Repr

/-- What one step of the sending thread does: where it goes, the closures it
    posts, the frames it calls, the promises it makes. -/
structure SendMove where
  thread   : SendThread
  posts    : List Closure := []
  events   : List FrameEvent := []
  promises : Nat := 0

/-- `sendActiveFramesLoop`. -/
def Panel.sendMove (s : Panel) : Option SendThread → SendLabel → Option SendMove
  -- while (m_isSending)
  | some .loopTest, .testSending =>
      some { thread := if s.isSending then .initBc else .leaving }
  | some .initBc, .initBc ok => some { thread := if ok then .post else .initFailed }
  | some .initFailed, .postInitFailed =>
      some { thread := .leaving, posts := [.initFailed s.session] }
  | some .post, .postSnapshot =>
      some { thread := .waiting s.nextPromise, posts := [.snapshot s.nextPromise], promises := 1 }
  -- future.get() returns once the closure has run
  | some (.waiting promise), .getFrames =>
      (s.fulfilled.lookup promise).map fun frames =>
        { thread := if frames = [] then .noFrames else .forFrames frames false }
  | some .noFrames, .postNoFrames => some { thread := .leaving, posts := [.noFrames s.session] }
  | some (.forFrames [] sentAny), .nextFrame => some { thread := .afterFor sentAny }
  | some (.forFrames (frame :: rest) sentAny), .nextFrame =>
      some { thread := if s.isSending then .checking frame rest sentAny else .afterFor sentAny }
  | some (.checking frame rest sentAny), .isActive active =>
      some {
        thread := if active then .sending frame rest else .forFrames rest sentAny
        events := [.isActive frame] }
  | some (.sending frame rest), .sendFrame gotReply =>
      some {
        thread := .forFrames rest true
        posts := if gotReply then [.received frame] else []
        events := [.sendFrame frame] }
  -- if (!m_isSending) break, then if (!sentAny)
  | some (.afterFor sentAny), .testAfterFor =>
      some { thread := if s.isSending then (if sentAny then .repeatTest else .noneSent) else .leaving }
  | some .noneSent, .postAllDisabled => some { thread := .repeatTest, posts := [.allDisabled] }
  | some .repeatTest, .testRepeat =>
      some { thread := if s.isRepeatOn then .loopTest else .leaving }
  -- every way out of the loop posts the last closure
  | some .leaving, .postLoopEnd => some { thread := .finished, posts := [.loopEnd s.session] }
  | _, _ => none

/-- The panel after such a step. -/
def Panel.apply (s : Panel) (m : SendMove) : Panel :=
  { s with
    sendThread := some m.thread
    uiQueue := s.uiQueue ++ m.posts
    events := s.events ++ m.events
    nextPromise := s.nextPromise + m.promises }

/-- Steps of either thread. -/
inductive PanelLabel where
  | ui (l : UiLabel)
  | send (l : SendLabel)
  deriving DecidableEq, Repr

/-- The interleaving of the two threads. -/
def panelStep (s : Panel) : PanelLabel → Option Panel
  | .ui l => s.uiStep l
  | .send l => (s.sendMove s.sendThread l).map s.apply

/-! ## What a step does

    `Handles` and `Sends` list the ways a handler and a step of the sending thread
    can go, each with its guard. -/

/-- What a handler or closure does. -/
inductive Panel.Handles (s : Panel) : UiLabel → Panel → Prop where
  | toggleClick :
      Handles s .toggleClick { s with sendToggle := !s.sendToggle }.onSendActiveFramesToggle
  | repeatClick :
      Handles s .repeatClick { s with repeatToggle := !s.repeatToggle, isRepeatOn := !s.repeatToggle }
  | addFrame : Handles s .addFrame s.addFrameToList
  | removeFrame {frame : Nat} : frame < s.nextFrame →
      Handles s (.removeFrame frame) (s.removeFrame frame)
  | updateFrame {frame : Nat} : frame < s.nextFrame →
      Handles s (.updateFrame frame) (s.removeFrame frame).addFrameToList
  | clearFrames : Handles s .clearFrames s.onClearFramesClicked
  | closePanel : Handles s .closePanel (s.stopSendingThread true)
  | runClosure {c : Closure} {rest : List Closure} : s.uiQueue = c :: rest →
      Handles s .runClosure ({ s with uiQueue := rest }.runClosure c)

theorem handle_cases {s s' : Panel} {l : UiLabel} (h : s.handle l = some s') : s.Handles l s' := by
  cases l with
  | toggleClick => cases h; exact .toggleClick
  | repeatClick => cases h; exact .repeatClick
  | addFrame => cases h; exact .addFrame
  | removeFrame frame =>
      obtain ⟨hlt, heq⟩ := Option.ite_none_right_eq_some.mp h
      cases heq
      exact .removeFrame hlt
  | updateFrame frame =>
      obtain ⟨hlt, heq⟩ := Option.ite_none_right_eq_some.mp h
      cases heq
      exact .updateFrame hlt
  | clearFrames => cases h; exact .clearFrames
  | closePanel => cases h; exact .closePanel
  | runClosure =>
      rw [Panel.handle] at h
      split at h
      · cases h
      · rename_i c rest hqueue
        cases h
        exact .runClosure hqueue
  | join => cases h

/-- **What the UI thread can do**: handle something while idle, or finish a join. -/
theorem uiStep_cases {s s' : Panel} {l : UiLabel} (hstep : s.uiStep l = some s') :
    (s.uiThread = .idle ∧ s.Handles l s') ∨
      ∃ closing, s.uiThread = .joining closing ∧ l = .join ∧ s.sendThread = some .finished ∧
        s' = { s with
          sendThread := none
          uiThread := afterStop closing
          uiQueue := s.uiQueue ++ [.stopped] } := by
  rw [Panel.uiStep] at hstep
  split at hstep
  · rename_i hidle
    exact Or.inl ⟨hidle, handle_cases hstep⟩
  · rename_i closing hjoin
    obtain ⟨⟨rfl, hfinished⟩, heq⟩ := Option.ite_none_right_eq_some.mp hstep
    exact Or.inr ⟨closing, hjoin, rfl, hfinished, (Option.some.inj heq).symm⟩
  · cases hstep

/-- **Clear All, frame by frame**: what every removal of a listed frame keeps. -/
theorem onClearFramesClicked_induction {P : Panel → Prop} {s : Panel} (h : P s)
    (hremove : s.isSending = false → ∀ frame ∈ s.frameComponents, ∀ t, P t →
      P (t.removeFrame frame)) : P s.onClearFramesClicked := by
  rw [Panel.onClearFramesClicked]
  split
  · exact h
  · rename_i hoff
    have hsending := Bool.eq_false_iff.mpr hoff
    exact List.foldlRecOn s.frameComponents Panel.removeFrame h
      fun t ht frame hin => hremove hsending frame hin t ht

/-- What a step of the sending thread does. -/
inductive Panel.Sends (s : Panel) : SendThread → SendLabel → SendMove → Prop where
  | goesOn : s.isSending = true → Sends s .loopTest .testSending { thread := .initBc }
  | loopEnds : s.isSending = false → Sends s .loopTest .testSending { thread := .leaving }
  | initialised : Sends s .initBc (.initBc true) { thread := .post }
  | notInitialised : Sends s .initBc (.initBc false) { thread := .initFailed }
  | initFailed : Sends s .initFailed .postInitFailed
      { thread := .leaving, posts := [.initFailed s.session] }
  | snapshot : Sends s .post .postSnapshot
      { thread := .waiting s.nextPromise, posts := [.snapshot s.nextPromise], promises := 1 }
  | gotNone {promise : Nat} : s.fulfilled.lookup promise = some [] →
      Sends s (.waiting promise) .getFrames { thread := .noFrames }
  | gotFrames {promise : Nat} {frames : List Nat} : s.fulfilled.lookup promise = some frames →
      frames ≠ [] → Sends s (.waiting promise) .getFrames { thread := .forFrames frames false }
  | noFrames : Sends s .noFrames .postNoFrames
      { thread := .leaving, posts := [.noFrames s.session] }
  | forEnds {sentAny : Bool} : Sends s (.forFrames [] sentAny) .nextFrame
      { thread := .afterFor sentAny }
  | nextFrame {frame : Nat} {rest : List Nat} {sentAny : Bool} : s.isSending = true →
      Sends s (.forFrames (frame :: rest) sentAny) .nextFrame
        { thread := .checking frame rest sentAny }
  | forBreaks {frame : Nat} {rest : List Nat} {sentAny : Bool} : s.isSending = false →
      Sends s (.forFrames (frame :: rest) sentAny) .nextFrame { thread := .afterFor sentAny }
  | active {frame : Nat} {rest : List Nat} {sentAny : Bool} :
      Sends s (.checking frame rest sentAny) (.isActive true)
        { thread := .sending frame rest, events := [.isActive frame] }
  | inactive {frame : Nat} {rest : List Nat} {sentAny : Bool} :
      Sends s (.checking frame rest sentAny) (.isActive false)
        { thread := .forFrames rest sentAny, events := [.isActive frame] }
  | replied {frame : Nat} {rest : List Nat} : Sends s (.sending frame rest) (.sendFrame true)
      { thread := .forFrames rest true, posts := [.received frame], events := [.sendFrame frame] }
  | notReplied {frame : Nat} {rest : List Nat} : Sends s (.sending frame rest) (.sendFrame false)
      { thread := .forFrames rest true, events := [.sendFrame frame] }
  | broken {sentAny : Bool} : s.isSending = false →
      Sends s (.afterFor sentAny) .testAfterFor { thread := .leaving }
  | someSent : s.isSending = true →
      Sends s (.afterFor true) .testAfterFor { thread := .repeatTest }
  | noneSent : s.isSending = true →
      Sends s (.afterFor false) .testAfterFor { thread := .noneSent }
  | allDisabled : Sends s .noneSent .postAllDisabled
      { thread := .repeatTest, posts := [.allDisabled] }
  | repeats : s.isRepeatOn = true → Sends s .repeatTest .testRepeat { thread := .loopTest }
  | repeatEnds : s.isRepeatOn = false → Sends s .repeatTest .testRepeat { thread := .leaving }
  | leaves : Sends s .leaving .postLoopEnd { thread := .finished, posts := [.loopEnd s.session] }

theorem sendMove_cases {s : Panel} {thread : Option SendThread} {l : SendLabel} {m : SendMove}
    (h : s.sendMove thread l = some m) : ∃ t, thread = some t ∧ s.Sends t l m := by
  rw [Panel.sendMove.eq_def] at h
  split at h
  · cases h
    cases hsending : s.isSending with
    | false => exact ⟨_, rfl, .loopEnds hsending⟩
    | true => exact ⟨_, rfl, .goesOn hsending⟩
  · rename_i ok
    cases h
    cases ok with
    | false => exact ⟨_, rfl, .notInitialised⟩
    | true => exact ⟨_, rfl, .initialised⟩
  · cases h
    exact ⟨_, rfl, .initFailed⟩
  · cases h
    exact ⟨_, rfl, .snapshot⟩
  · obtain ⟨frames, hlookup, rfl⟩ := Option.map_eq_some_iff.mp h
    by_cases hempty : frames = []
    · subst hempty
      exact ⟨_, rfl, .gotNone hlookup⟩
    · rw [if_neg hempty]
      exact ⟨_, rfl, .gotFrames hlookup hempty⟩
  · cases h
    exact ⟨_, rfl, .noFrames⟩
  · cases h
    exact ⟨_, rfl, .forEnds⟩
  · cases h
    cases hsending : s.isSending with
    | false => exact ⟨_, rfl, .forBreaks hsending⟩
    | true => exact ⟨_, rfl, .nextFrame hsending⟩
  · rename_i active
    cases h
    cases active with
    | false => exact ⟨_, rfl, .inactive⟩
    | true => exact ⟨_, rfl, .active⟩
  · rename_i gotReply
    cases h
    cases gotReply with
    | false => exact ⟨_, rfl, .notReplied⟩
    | true => exact ⟨_, rfl, .replied⟩
  · rename_i sentAny
    cases h
    cases hsending : s.isSending with
    | false => exact ⟨_, rfl, .broken hsending⟩
    | true =>
        cases sentAny with
        | false => exact ⟨_, rfl, .noneSent hsending⟩
        | true => exact ⟨_, rfl, .someSent hsending⟩
  · cases h
    exact ⟨_, rfl, .allDisabled⟩
  · cases h
    cases hrepeat : s.isRepeatOn with
    | false => exact ⟨_, rfl, .repeatEnds hrepeat⟩
    | true => exact ⟨_, rfl, .repeats hrepeat⟩
  · cases h
    exact ⟨_, rfl, .leaves⟩
  · cases h

/-! ## What every run keeps -/

/-- The promise a closure will fulfil. -/
def Closure.promise? : Closure → Option Nat
  | .snapshot promise => some promise
  | _ => none

/-- Promises to come and promises kept. -/
def promisesOf (s : Panel) : List Nat :=
  s.uiQueue.filterMap Closure.promise? ++ s.fulfilled.map Prod.fst

/-- The invariant of the two threads. -/
structure Sound (s : Panel) : Prop where
  joining  : ∀ closing, s.uiThread = .joining closing → s.isSending = false
  settled  : s.uiThread = .idle → s.isSending = false → s.sendThread = none
  promises : (promisesOf s).Nodup
  made     : ∀ p ∈ promisesOf s, p < s.nextPromise

theorem sound_init : Sound Panel.init where
  joining  := fun _ h => nomatch h
  settled  := fun _ _ => rfl
  promises := List.nodup_nil
  made     := fun _ hp => nomatch hp

/-- A step that leaves threads and promises alone keeps them sound. -/
theorem Sound.of_same {s s' : Panel} (h : Sound s) (hui : s'.uiThread = s.uiThread)
    (hsending : s'.isSending = s.isSending) (hthread : s'.sendThread = s.sendThread)
    (hprom : promisesOf s' = promisesOf s) (hnext : s'.nextPromise = s.nextPromise) :
    Sound s' := by
  refine ⟨?_, ?_, ?_, ?_⟩
  · rw [hui, hsending]
    exact h.joining
  · rw [hui, hsending, hthread]
    exact h.settled
  · rw [hprom]
    exact h.promises
  · rw [hprom, hnext]
    exact h.made

/-- Closures that fulfil nothing may be posted freely. -/
theorem promisesOf_post (s : Panel) {posts : List Closure} (h : posts.filterMap Closure.promise? = []) :
    promisesOf { s with uiQueue := s.uiQueue ++ posts } = promisesOf s := by
  rw [promisesOf, List.filterMap_append, h, List.append_nil]
  rfl

theorem sound_removeFrame {s : Panel} (h : Sound s) (frame : Nat) : Sound (s.removeFrame frame) :=
  h.of_same rfl rfl rfl (promisesOf_post s rfl) rfl

theorem sound_addFrameToList {s : Panel} (h : Sound s) : Sound s.addFrameToList :=
  h.of_same rfl rfl rfl rfl rfl

theorem sound_stopSendingThread {s : Panel} (h : Sound s) (closing : Bool) :
    Sound (s.stopSendingThread closing) := by
  rw [Panel.stopSendingThread]
  split
  · refine ⟨fun _ _ => rfl, (fun hc => by cases hc), h.promises, h.made⟩
  · rename_i hnone
    have hprom := promisesOf_post s (rfl : [Closure.stopped].filterMap Closure.promise? = [])
    refine ⟨fun _ _ => rfl, fun _ _ => hnone, ?_, ?_⟩
    · exact hprom ▸ h.promises
    · exact hprom ▸ h.made

theorem sound_startSendingThread {s : Panel} (h : Sound s) (hidle : s.uiThread = .idle) :
    Sound s.startSendingThread := by
  rw [Panel.startSendingThread]
  split
  · exact h
  · exact ⟨(fun _ hc => by cases hidle.symm.trans hc), (fun _ hc => by cases hc), h.promises, h.made⟩

theorem sound_onSendActiveFramesToggle {s : Panel} (h : Sound s) (hidle : s.uiThread = .idle) :
    Sound s.onSendActiveFramesToggle := by
  rw [Panel.onSendActiveFramesToggle]
  split
  · split
    · exact h
    · exact sound_startSendingThread h hidle
  · exact sound_stopSendingThread h false

theorem sound_onClearFramesClicked {s : Panel} (h : Sound s) : Sound s.onClearFramesClicked :=
  onClearFramesClicked_induction h fun _ frame _ _ ht => sound_removeFrame ht frame

/-- Taking the closure off the queue and running it keeps the panel sound. -/
theorem sound_runClosure {s : Panel} {c : Closure} {rest : List Closure} (h : Sound s)
    (hqueue : s.uiQueue = c :: rest) : Sound ({ s with uiQueue := rest }.runClosure c) := by
  have hpop : c.promise? = none → Sound { s with uiQueue := rest } := by
    intro hno
    refine h.of_same rfl rfl rfl ?_ rfl
    rw [promisesOf, promisesOf, hqueue, List.filterMap_cons_none hno]
  cases c with
  | snapshot promise =>
      -- the promise moves from the queue to the fulfilled ones
      have hs : promisesOf s = promise :: (rest.filterMap Closure.promise?
          ++ s.fulfilled.map Prod.fst) := by
        rw [promisesOf, hqueue]
        rfl
      have hs' : promisesOf ({ s with uiQueue := rest }.runClosure (.snapshot promise))
          = (rest.filterMap Closure.promise? ++ s.fulfilled.map Prod.fst) ++ [promise] := by
        show rest.filterMap Closure.promise?
          ++ (s.fulfilled ++ [(promise, s.frameComponents)]).map Prod.fst = _
        rw [List.map_append, List.append_assoc]
        rfl
      have hperm : (promisesOf ({ s with uiQueue := rest }.runClosure (.snapshot promise))).Perm
          (promisesOf s) := by
        rw [hs, hs']
        exact List.perm_append_singleton _ _
      exact ⟨h.joining, h.settled, hperm.nodup_iff.mpr h.promises,
        fun p hp => h.made p (hperm.mem_iff.mp hp)⟩
  | initFailed session | noFrames session | loopEnd session =>
      exact sound_stopSendingThread (hpop rfl) false
  | stopped | destroy frame => exact (hpop rfl).of_same rfl rfl rfl rfl rfl
  | allDisabled | received frame => exact hpop rfl

theorem sound_handle {s s' : Panel} {l : UiLabel} (h : Sound s) (hidle : s.uiThread = .idle)
    (hhandle : s.Handles l s') : Sound s' := by
  cases hhandle with
  | toggleClick =>
      have hclick : Sound { s with sendToggle := !s.sendToggle } :=
        h.of_same rfl rfl rfl rfl rfl
      exact sound_onSendActiveFramesToggle hclick hidle
  | repeatClick => exact h.of_same rfl rfl rfl rfl rfl
  | addFrame => exact sound_addFrameToList h
  | removeFrame => exact sound_removeFrame h _
  | updateFrame => exact sound_addFrameToList (sound_removeFrame h _)
  | clearFrames => exact sound_onClearFramesClicked h
  | closePanel => exact sound_stopSendingThread h true
  | runClosure hqueue => exact sound_runClosure h hqueue

/-- **What the sending thread posts**: a promise it has just made, or nothing that
    fulfils one. -/
theorem sends_posts {s : Panel} {thread : SendThread} {l : SendLabel} {m : SendMove}
    (h : s.Sends thread l m) :
    (m.posts = [.snapshot s.nextPromise] ∧ m.promises = 1) ∨
      (m.posts.filterMap Closure.promise? = [] ∧ m.promises = 0) := by
  cases h with
  | snapshot => exact Or.inl ⟨rfl, rfl⟩
  | _ => exact Or.inr ⟨rfl, rfl⟩

theorem sound_apply {s : Panel} {m : SendMove} {l : SendLabel} (h : Sound s)
    (hmove : s.sendMove s.sendThread l = some m) : Sound (s.apply m) := by
  obtain ⟨thread, hthread, hsends⟩ := sendMove_cases hmove
  have hsettled : s.uiThread = .idle → s.isSending = false → (s.apply m).sendThread = none := by
    intro hidle hs
    rw [h.settled hidle hs] at hthread
    cases hthread
  rcases sends_posts hsends with ⟨hposts, hmade⟩ | ⟨hposts, hmade⟩
  · -- the new promise is larger than all of the old ones
    have hperm : (promisesOf (s.apply m)).Perm (s.nextPromise :: promisesOf s) := by
      show ((s.uiQueue ++ m.posts).filterMap Closure.promise? ++ s.fulfilled.map Prod.fst).Perm _
      rw [hposts, List.filterMap_append, List.append_assoc]
      exact List.perm_middle
    have hnext : (s.apply m).nextPromise = s.nextPromise + 1 := by
      show s.nextPromise + m.promises = _
      rw [hmade]
    refine ⟨h.joining, hsettled, ?_, ?_⟩
    · refine hperm.nodup_iff.mpr (List.nodup_cons.mpr ⟨fun hin => ?_, h.promises⟩)
      exact Nat.lt_irrefl _ (h.made _ hin)
    · intro p hp
      rw [hnext]
      rcases List.mem_cons.mp (hperm.mem_iff.mp hp) with rfl | hold
      · exact Nat.lt_succ_self _
      · exact Nat.lt_succ_of_lt (h.made p hold)
  · have hprom : promisesOf (s.apply m) = promisesOf s := by
      show (s.uiQueue ++ m.posts).filterMap Closure.promise? ++ s.fulfilled.map Prod.fst = _
      rw [List.filterMap_append, hposts, List.append_nil]
      rfl
    refine ⟨h.joining, hsettled, hprom ▸ h.promises, ?_⟩
    intro p hp
    rw [hprom] at hp
    exact Nat.lt_of_lt_of_le (h.made p hp) (Nat.le_add_right _ _)

/-- **Step lemma** of the two threads. -/
theorem sound_step (s : Panel) (l : PanelLabel) (s' : Panel) (h : Sound s)
    (hstep : panelStep s l = some s') : Sound s' := by
  cases l with
  | ui l =>
      rcases uiStep_cases hstep with ⟨hidle, hhandle⟩ | ⟨closing, hjoin, -, -, rfl⟩
      · exact sound_handle h hidle hhandle
      · have hprom := promisesOf_post s (rfl : [Closure.stopped].filterMap Closure.promise? = [])
        refine ⟨?_, fun _ _ => rfl, hprom ▸ h.promises, hprom ▸ h.made⟩
        intro c hc
        cases closing <;> cases hc
  | send l =>
      obtain ⟨m, hmove, rfl⟩ := Option.map_eq_some_iff.mp hstep
      exact sound_apply h hmove

/-- **Run lemma** of the two threads. -/
theorem sound_run {ls : List PanelLabel} {s : Panel} (hrun : run panelStep Panel.init ls = some s) :
    Sound s :=
  run_invariant panelStep sound_step ls sound_init hrun

/-- Only promises on record are fulfilled. -/
theorem lookup_fulfilled {s : Panel} {promise : Nat} (h : promise ∉ s.fulfilled.map Prod.fst) :
    s.fulfilled.lookup promise = none := by
  refine List.lookup_eq_none_iff.mpr fun a ha => bne_iff_ne.mpr ?_
  rintro rfl
  exact h (List.mem_map_of_mem ha)

/-- A promise whose closure is still queued is not fulfilled. -/
theorem Sound.lookup_queued {s : Panel} (h : Sound s) {promise : Nat}
    (hin : .snapshot promise ∈ s.uiQueue) : s.fulfilled.lookup promise = none := by
  have hqueued : promise ∈ s.uiQueue.filterMap Closure.promise? :=
    List.mem_filterMap.mpr ⟨_, hin, rfl⟩
  refine lookup_fulfilled fun hkept => ?_
  exact (List.nodup_append.mp h.promises).2.2 promise hqueued promise hkept rfl

/-- A new promise is not fulfilled. -/
theorem Sound.lookup_nextPromise {s : Panel} (h : Sound s) :
    s.fulfilled.lookup s.nextPromise = none := by
  refine lookup_fulfilled fun hkept => ?_
  exact Nat.lt_irrefl _ (h.made _ (List.mem_append_right _ hkept))

end TcpSender
