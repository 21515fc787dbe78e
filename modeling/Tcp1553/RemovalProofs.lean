import Tcp1553.SenderProofs

/-! # Removing frames while they are sent

    The sending loop goes through a snapshot of the frame list; a frame removed in
    the meantime is still in the snapshot, and a closure destroys it.  `ahead` is
    the part of the snapshot the loop has not dealt with.

    Clear All refuses while the sender runs, and with the join of every stop that
    is enough.  Remove and the saving of an edit window do not ask.
    `spared_never_called`: no removed frame is called as long as none is removed while
    it is ahead of the loop, and a frame that is, the loop left to itself calls. -/

namespace TcpSender

open LabelledRuns

/-! ## The property -/

/-- The loop calls the frame. -/
def FrameEvent.Calls (e : FrameEvent) (frame : Nat) : Prop := e = .isActive frame ∨ e = .sendFrame frame

/-- The frame has been removed, or destroyed. -/
def FrameEvent.Ends (e : FrameEvent) (frame : Nat) : Prop :=
  e = .removeFrame frame ∨ e = .destroy frame

/-- No frame is called after it was removed or destroyed. -/
def NeverAfterRemoval (s : Panel) : Prop :=
  s.events.Pairwise fun a b => ∀ frame, a.Ends frame → ¬b.Calls frame

/-- Frames of its snapshot that a loop has not dealt with. -/
def aheadOf (fulfilled : List (Nat × List Nat)) : Option SendThread → List Nat
  | some (.waiting promise) => (fulfilled.lookup promise).getD []
  | some (.forFrames rest _) => rest
  | some (.checking frame rest _) => frame :: rest
  | some (.sending frame rest) => frame :: rest
  | _ => []

/-- Frames the sending thread has ahead of it. -/
def ahead (s : Panel) : List Nat := aheadOf s.fulfilled s.sendThread

/-- Remove and the saving of an edit window spare the frames ahead of the loop. -/
def SparesAhead (s : Panel) : PanelLabel → Prop
  | .ui (.removeFrame frame) | .ui (.updateFrame frame) => frame ∉ ahead s
  | _ => True

instance (s : Panel) : (l : PanelLabel) → Decidable (SparesAhead s l)
  | .ui (.removeFrame frame) | .ui (.updateFrame frame) =>
      inferInstanceAs (Decidable (frame ∉ ahead s))
  | .ui .toggleClick | .ui .repeatClick | .ui .addFrame | .ui .clearFrames | .ui .closePanel
  | .ui .runClosure | .ui .join | .send _ => isTrue trivial

/-- The frame has been removed or destroyed by now. -/
def Ended (s : Panel) (frame : Nat) : Prop := ∃ e ∈ s.events, e.Ends frame

/-- What holds while removals spare the loop: frames ahead of it and listed frames
    are alive, and only removed frames are to be destroyed. -/
structure Safe (s : Panel) : Prop where
  ordered : NeverAfterRemoval s
  ahead   : ∀ frame ∈ ahead s, ¬Ended s frame
  listed  : ∀ frame ∈ s.frameComponents, frame < s.nextFrame ∧ ¬Ended s frame
  queued  : ∀ frame, .destroy frame ∈ s.uiQueue → Ended s frame
  known   : ∀ frame, Ended s frame → frame < s.nextFrame

theorem safe_init : Safe Panel.init where
  ordered := List.Pairwise.nil
  ahead   := fun _ h => nomatch h
  listed  := by
    intro frame h
    refine ⟨?_, ?_⟩
    · revert frame
      decide
    · rintro ⟨e, he, -⟩
      cases he
  queued  := fun _ h => nomatch h
  known   := fun _ ⟨_, he, _⟩ => nomatch he

/-! ## The UI thread -/

/-- Steps without frame events keep the panel safe if the loop gets no frames but
    listed ones. -/
theorem Safe.of_quiet {s s' : Panel} (h : Safe s) (hevents : s'.events = s.events)
    (hahead : ∀ frame ∈ TcpSender.ahead s', frame ∈ TcpSender.ahead s ∨ frame ∈ s.frameComponents)
    (hframes : s'.frameComponents = s.frameComponents) (hnext : s'.nextFrame = s.nextFrame)
    (hqueue : ∀ frame, .destroy frame ∈ s'.uiQueue → .destroy frame ∈ s.uiQueue) : Safe s' := by
  have hended : ∀ frame, Ended s' frame ↔ Ended s frame := by
    intro frame
    rw [Ended, Ended, hevents]
  refine ⟨?_, ?_, ?_, ?_, ?_⟩
  · rw [NeverAfterRemoval, hevents]
    exact h.ordered
  · intro frame hin
    rw [hended]
    rcases hahead frame hin with hold | hlisted
    · exact h.ahead frame hold
    · exact (h.listed frame hlisted).2
  · intro frame hin
    rw [hended, hnext]
    rw [hframes] at hin
    exact h.listed frame hin
  · intro frame hin
    exact (hended frame).mpr (h.queued frame (hqueue frame hin))
  · intro frame hin
    rw [hnext]
    exact h.known frame ((hended frame).mp hin)

/-- **The end of a frame** that is not ahead of the loop and no longer listed keeps
    the panel safe. -/
theorem Safe.end_frame {s s' : Panel} (h : Safe s) {frame : Nat} {e : FrameEvent}
    (he : e = .removeFrame frame ∨ e = .destroy frame) (hevents : s'.events = s.events ++ [e])
    (hahead : TcpSender.ahead s' = TcpSender.ahead s) (hspared : frame ∉ TcpSender.ahead s)
    (hframes : ∀ g ∈ s'.frameComponents, g ∈ s.frameComponents ∧ g ≠ frame)
    (hnext : s'.nextFrame = s.nextFrame) (hlt : frame < s.nextFrame)
    (hqueue : ∀ g, .destroy g ∈ s'.uiQueue → .destroy g ∈ s.uiQueue ∨ g = frame) : Safe s' := by
  have hends : ∀ g, e.Ends g ↔ g = frame := by
    intro g
    rcases he with rfl | rfl <;> simp [FrameEvent.Ends, eq_comm]
  have hcalls : ∀ g, ¬e.Calls g := by
    intro g
    rcases he with rfl | rfl <;> simp [FrameEvent.Calls]
  have hended : ∀ g, Ended s' g ↔ Ended s g ∨ g = frame := by
    intro g
    simp only [Ended, hevents, List.mem_append, List.mem_singleton, or_and_right, exists_or,
      exists_eq_left, hends]
  refine ⟨?_, ?_, ?_, ?_, ?_⟩
  · rw [NeverAfterRemoval, hevents]
    refine List.pairwise_append.mpr ⟨h.ordered, List.pairwise_singleton _ _, ?_⟩
    intro a _ b hb g _
    rw [List.mem_singleton.mp hb]
    exact hcalls g
  · intro g hin
    rw [hahead] at hin
    rw [hended]
    rintro (hold | rfl)
    · exact h.ahead g hin hold
    · exact hspared hin
  · intro g hin
    obtain ⟨hg, hne⟩ := hframes g hin
    rw [hended, hnext]
    refine ⟨(h.listed g hg).1, ?_⟩
    rintro (hold | heq)
    · exact (h.listed g hg).2 hold
    · exact hne heq
  · intro g hin
    rw [hended]
    exact (hqueue g hin).imp_left (h.queued g)
  · intro g hin
    rw [hnext]
    rcases (hended g).mp hin with hold | rfl
    · exact h.known g hold
    · exact hlt

theorem safe_removeFrame {s : Panel} (h : Safe s) {frame : Nat} (hspared : frame ∉ ahead s)
    (hlt : frame < s.nextFrame) : Safe (s.removeFrame frame) := by
  refine h.end_frame (Or.inl rfl) rfl rfl hspared ?_ rfl hlt ?_
  · intro g hin
    obtain ⟨hg, hne⟩ := List.mem_filter.mp hin
    exact ⟨hg, of_decide_eq_true hne⟩
  · intro g hin
    rcases List.mem_append.mp hin with hold | hnew
    · exact Or.inl hold
    · cases List.mem_singleton.mp hnew
      exact Or.inr rfl

theorem safe_addFrameToList {s : Panel} (h : Safe s) : Safe s.addFrameToList := by
  refine ⟨h.ordered, h.ahead, ?_, h.queued, fun g hin => Nat.lt_succ_of_lt (h.known g hin)⟩
  intro frame hin
  rcases List.mem_append.mp hin with hold | hnew
  · exact ⟨Nat.lt_succ_of_lt (h.listed frame hold).1, (h.listed frame hold).2⟩
  · -- the new identity is larger than every removed one
    obtain rfl := List.mem_singleton.mp hnew
    exact ⟨Nat.lt_succ_self _, fun hend => Nat.lt_irrefl _ (h.known _ hend)⟩

theorem safe_stopSendingThread {s : Panel} (h : Safe s) (closing : Bool) :
    Safe (s.stopSendingThread closing) := by
  rw [Panel.stopSendingThread]
  split
  · exact h.of_quiet rfl (fun _ hin => Or.inl hin) rfl rfl fun _ hin => hin
  · refine h.of_quiet rfl (fun _ hin => Or.inl hin) rfl rfl fun frame hin => ?_
    rcases List.mem_append.mp hin with hold | hnew
    · exact hold
    · cases List.mem_singleton.mp hnew

theorem safe_startSendingThread {s : Panel} (h : Safe s) : Safe s.startSendingThread := by
  rw [Panel.startSendingThread]
  split
  · exact h
  · exact h.of_quiet rfl (fun _ hin => by cases hin) rfl rfl fun _ hin => hin

theorem safe_onSendActiveFramesToggle {s : Panel} (h : Safe s) :
    Safe s.onSendActiveFramesToggle := by
  rw [Panel.onSendActiveFramesToggle]
  split
  · split
    · exact h
    · exact safe_startSendingThread h
  · exact safe_stopSendingThread h false

/-- Clear All spares the loop: with the flag cleared and no join under way there is
    no loop. -/
theorem safe_onClearFramesClicked {s : Panel} (h : Safe s) (hs : Sound s)
    (hidle : s.uiThread = .idle) : Safe s.onClearFramesClicked := by
  have hkept : Safe s.onClearFramesClicked ∧
      s.onClearFramesClicked.nextFrame = s.nextFrame ∧
        s.onClearFramesClicked.sendThread = s.sendThread := by
    refine onClearFramesClicked_induction
      (P := fun t => Safe t ∧ t.nextFrame = s.nextFrame ∧ t.sendThread = s.sendThread)
      ⟨h, rfl, rfl⟩ ?_
    rintro hoff frame hin t ⟨ht, hnext, hthread⟩
    have hspared : frame ∉ ahead t := by
      rw [ahead, hthread, hs.settled hidle hoff]
      exact List.not_mem_nil
    have hlt : frame < t.nextFrame := by
      rw [hnext]
      exact (h.listed frame hin).1
    exact ⟨safe_removeFrame ht hspared hlt, hnext, hthread⟩
  exact hkept.1

/-- A snapshot gives the loop listed frames only. -/
theorem aheadOf_snapshot {fulfilled : List (Nat × List Nat)} {promise : Nat} {frames : List Nat}
    {thread : Option SendThread} {frame : Nat}
    (hin : frame ∈ aheadOf (fulfilled ++ [(promise, frames)]) thread) :
    frame ∈ aheadOf fulfilled thread ∨ frame ∈ frames := by
  rw [aheadOf.eq_def] at hin
  split at hin
  · rename_i p
    show frame ∈ (fulfilled.lookup p).getD [] ∨ frame ∈ frames
    rw [List.lookup_append] at hin
    cases hold : fulfilled.lookup p with
    | some old =>
        rw [hold] at hin
        exact Or.inl hin
    | none =>
        rw [hold, Option.none_or, List.lookup_cons] at hin
        split at hin
        · exact Or.inr hin
        · cases hin
  · exact Or.inl hin
  · exact Or.inl hin
  · exact Or.inl hin
  · cases hin

theorem safe_runClosure {s : Panel} {c : Closure} {rest : List Closure} (h : Safe s)
    (hqueue : s.uiQueue = c :: rest) : Safe ({ s with uiQueue := rest }.runClosure c) := by
  have hrest : ∀ frame, .destroy frame ∈ rest → .destroy frame ∈ s.uiQueue := by
    intro frame hin
    rw [hqueue]
    exact List.mem_cons_of_mem _ hin
  have hpop : Safe { s with uiQueue := rest } :=
    h.of_quiet rfl (fun _ hin => Or.inl hin) rfl rfl hrest
  cases c with
  | initFailed session => exact safe_stopSendingThread hpop false
  | noFrames session => exact safe_stopSendingThread hpop false
  | loopEnd session => exact safe_stopSendingThread hpop false
  | snapshot promise => exact hpop.of_quiet rfl (fun _ hin => aheadOf_snapshot hin) rfl rfl fun _ hin => hin
  | allDisabled => exact hpop
  | stopped => exact hpop.of_quiet rfl (fun _ hin => Or.inl hin) rfl rfl fun _ hin => hin
  | received frame => exact hpop
  | destroy frame =>
      -- only removed frames are queued, so it is neither ahead nor listed
      have hended := h.queued frame (by rw [hqueue]; exact List.mem_cons_self)
      refine hpop.end_frame (Or.inr rfl) rfl rfl (fun hin => h.ahead frame hin hended) ?_ rfl
        (h.known frame hended) fun _ hin => Or.inl hin
      rintro g hin
      refine ⟨hin, ?_⟩
      rintro rfl
      exact (h.listed g hin).2 hended

theorem safe_handle {s s' : Panel} {l : UiLabel} (h : Safe s) (hs : Sound s)
    (hidle : s.uiThread = .idle) (hok : SparesAhead s (.ui l)) (hhandle : s.Handles l s') :
    Safe s' := by
  cases hhandle with
  | toggleClick =>
      exact safe_onSendActiveFramesToggle
        (h.of_quiet rfl (fun _ hin => Or.inl hin) rfl rfl fun _ hin => hin)
  | repeatClick => exact h.of_quiet rfl (fun _ hin => Or.inl hin) rfl rfl fun _ hin => hin
  | addFrame => exact safe_addFrameToList h
  | removeFrame hlt => exact safe_removeFrame h hok hlt
  | updateFrame hlt => exact safe_addFrameToList (safe_removeFrame h hok hlt)
  | clearFrames => exact safe_onClearFramesClicked h hs hidle
  | closePanel => exact safe_stopSendingThread h true
  | runClosure hqueue => exact safe_runClosure h hqueue

/-! ## The sending thread -/

/-- **What the loop does to the frames ahead of it**: it calls the first, and keeps
    or drops the rest. -/
theorem sends_frames {s : Panel} {thread : SendThread} {l : SendLabel} {m : SendMove}
    (hs : Sound s) (hsends : s.Sends thread l m) :
    (∀ e ∈ m.events, ∃ frame ∈ aheadOf s.fulfilled thread, e.Calls frame) ∧
      (∀ frame ∈ aheadOf s.fulfilled m.thread, frame ∈ aheadOf s.fulfilled thread) ∧
      ∀ frame, .destroy frame ∉ m.posts := by
  cases hsends with
  | snapshot =>
      -- nobody has run the new closure yet
      simp [aheadOf, hs.lookup_nextPromise]
  | gotNone hlookup => simp [aheadOf]
  | gotFrames hlookup => simp [aheadOf, hlookup]
  | active => simp [aheadOf, FrameEvent.Calls]
  | inactive => simpa [aheadOf, FrameEvent.Calls] using fun _ h => Or.inr h
  | replied => simpa [aheadOf, FrameEvent.Calls] using fun _ h => Or.inr h
  | notReplied => simpa [aheadOf, FrameEvent.Calls] using fun _ h => Or.inr h
  | _ => simp [aheadOf]

theorem safe_apply {s : Panel} {l : SendLabel} {m : SendMove} (h : Safe s) (hs : Sound s)
    (hmove : s.sendMove s.sendThread l = some m) : Safe (s.apply m) := by
  obtain ⟨thread, hthread, hsends⟩ := sendMove_cases hmove
  obtain ⟨hcalls, hahead, hposts⟩ := sends_frames hs hsends
  rw [← hthread] at hcalls hahead
  -- calls end nothing
  have hnoend : ∀ e ∈ m.events, ∀ frame, ¬e.Ends frame := by
    intro e he frame hend
    obtain ⟨g, -, hg⟩ := hcalls e he
    rcases hg with rfl | rfl <;> rcases hend with hend | hend <;> cases hend
  have hended : ∀ frame, Ended (s.apply m) frame ↔ Ended s frame := by
    intro frame
    constructor
    · rintro ⟨e, he, hend⟩
      rcases List.mem_append.mp he with hold | hnew
      · exact ⟨e, hold, hend⟩
      · exact absurd hend (hnoend e hnew frame)
    · rintro ⟨e, he, hend⟩
      exact ⟨e, List.mem_append_left _ he, hend⟩
  refine ⟨?_, ?_, ?_, ?_, ?_⟩
  · refine List.pairwise_append.mpr ⟨h.ordered, ?_, ?_⟩
    · exact List.pairwise_of_forall_mem_list fun a ha _ _ frame hend =>
        absurd hend (hnoend a ha frame)
    · intro a ha b hb frame hend hcall
      obtain ⟨g, hg, hcall'⟩ := hcalls b hb
      have heq : g = frame := by
        rcases hcall' with rfl | rfl <;> rcases hcall with hc | hc <;> cases hc <;> rfl
      rw [heq] at hg
      exact h.ahead frame hg ⟨a, ha, hend⟩
  · intro frame hin
    rw [hended]
    exact h.ahead frame (hahead frame hin)
  · intro frame hin
    rw [hended]
    exact h.listed frame hin
  · intro frame hin
    rw [hended]
    rcases List.mem_append.mp hin with hold | hnew
    · exact h.queued frame hold
    · exact absurd hnew (hposts frame)
  · intro frame hin
    exact h.known frame ((hended frame).mp hin)

/-- **Step lemma**: removals that spare the loop keep the panel safe. -/
theorem safe_step (s : Panel) (l : PanelLabel) (s' : Panel) (h : Sound s ∧ Safe s)
    (hok : SparesAhead s l) (hstep : panelStep s l = some s') : Sound s' ∧ Safe s' := by
  refine ⟨sound_step s l s' h.1 hstep, ?_⟩
  cases l with
  | ui l =>
      rcases uiStep_cases hstep with ⟨hidle, hhandle⟩ | ⟨closing, -, -, -, rfl⟩
      · exact safe_handle h.2 h.1 hidle hok hhandle
      · refine h.2.of_quiet rfl (fun _ hin => by cases hin) rfl rfl fun frame hin => ?_
        rcases List.mem_append.mp hin with hold | hnew
        · exact hold
        · cases List.mem_singleton.mp hnew
  | send l =>
      obtain ⟨m, hmove, rfl⟩ := Option.map_eq_some_iff.mp hstep
      exact safe_apply h.2 h.1 hmove

/-! ## A frame ahead of the loop -/

/-- Sending-thread steps that call the frame. -/
def LeadsToCall (s : Panel) (frame : Nat) : Prop :=
  ∃ (ls : List SendLabel) (t : Panel) (called : List FrameEvent),
    run panelStep s (ls.map .send) = some t ∧ t.events = s.events ++ called ∧
      ∃ e ∈ called, e.Calls frame

/-- One more step in front. -/
theorem LeadsToCall.cons {s : Panel} {l : SendLabel} {m : SendMove} {frame : Nat}
    (hmove : s.sendMove s.sendThread l = some m) (h : LeadsToCall (s.apply m) frame) :
    LeadsToCall s frame := by
  obtain ⟨ls, t, called, hrun, hevents, e, he, hcall⟩ := h
  have hstep : panelStep s (.send l) = some (s.apply m) := by
    rw [panelStep, hmove]
    rfl
  refine ⟨l :: ls, t, m.events ++ called, ?_, ?_, e, List.mem_append_right _ he, hcall⟩
  · rw [List.map_cons, run_cons_of_step panelStep hstep]
    exact hrun
  · rw [hevents, ← List.append_assoc]
    rfl

/-- A step that calls the frame itself. -/
theorem LeadsToCall.now {s : Panel} {l : SendLabel} {m : SendMove} {frame : Nat}
    (hmove : s.sendMove s.sendThread l = some m) (hcall : ∃ e ∈ m.events, e.Calls frame) :
    LeadsToCall s frame := by
  have hstep : panelStep s (.send l) = some (s.apply m) := by
    rw [panelStep, hmove]
    rfl
  refine ⟨[l], s.apply m, m.events, ?_, rfl, hcall⟩
  rw [List.map_singleton, run_cons_of_step panelStep hstep]
  rfl

/-- A loop that is not stopped gets to every frame of the rest of its snapshot. -/
theorem leadsToCall_forFrames {frame : Nat} (rest : List Nat) :
    ∀ {s : Panel} {sentAny : Bool}, s.isSending = true →
      s.sendThread = some (.forFrames rest sentAny) → frame ∈ rest → LeadsToCall s frame := by
  induction rest with
  | nil => intro s sentAny _ _ hin; cases hin
  | cons g rest ih =>
      intro s sentAny hsending hthread hin
      have hmove : s.sendMove s.sendThread .nextFrame
          = some { thread := .checking g rest sentAny } := by
        rw [hthread, Panel.sendMove, if_pos hsending]
      refine LeadsToCall.cons hmove ?_
      rcases List.mem_cons.mp hin with rfl | hrest
      · exact LeadsToCall.now (l := .isActive false) rfl
          ⟨.isActive frame, List.mem_cons_self, Or.inl rfl⟩
      · exact LeadsToCall.cons (l := .isActive false) rfl (ih hsending rfl hrest)

/-- **A frame ahead of the loop is called**, if the loop is left to itself. -/
theorem leadsToCall_ahead {s : Panel} {frame : Nat} (hsending : s.isSending = true)
    (hin : frame ∈ ahead s) : LeadsToCall s frame := by
  rw [ahead, aheadOf.eq_def] at hin
  split at hin
  · -- the snapshot is ready: the loop takes it first
    rename_i promise hthread
    cases hlookup : s.fulfilled.lookup promise with
    | none =>
        rw [hlookup] at hin
        cases hin
    | some frames =>
        rw [hlookup, Option.getD_some] at hin
        have hne : frames ≠ [] := List.ne_nil_of_mem hin
        have hmove : s.sendMove s.sendThread .getFrames
            = some { thread := .forFrames frames false } := by
          rw [hthread, Panel.sendMove, hlookup, Option.map_some, if_neg hne]
        exact LeadsToCall.cons hmove (leadsToCall_forFrames frames hsending rfl hin)
  · rename_i rest sentAny hthread
    exact leadsToCall_forFrames rest hsending hthread hin
  · rename_i g rest sentAny hthread
    have hmove : s.sendMove s.sendThread (.isActive false)
        = some { thread := .forFrames rest sentAny, events := [.isActive g] } := by
      rw [hthread]
      rfl
    rcases List.mem_cons.mp hin with rfl | hrest
    · exact LeadsToCall.now hmove ⟨.isActive frame, List.mem_cons_self, Or.inl rfl⟩
    · exact LeadsToCall.cons hmove (leadsToCall_forFrames rest hsending rfl hrest)
  · rename_i g rest hthread
    have hmove : s.sendMove s.sendThread (.sendFrame false)
        = some { thread := .forFrames rest true, events := [.sendFrame g] } := by
      rw [hthread]
      rfl
    rcases List.mem_cons.mp hin with rfl | hrest
    · exact LeadsToCall.now hmove ⟨.sendFrame frame, List.mem_cons_self, Or.inr rfl⟩
    · exact LeadsToCall.cons hmove (leadsToCall_forFrames rest hsending rfl hrest)
  · cases hin

/-- A call of a removed frame shows in the events. -/
theorem LeadsToCall.not_always {s : Panel} {frame : Nat} (h : LeadsToCall s frame)
    (hended : Ended s frame) :
    ∃ ls : List SendLabel, ¬Always panelStep NeverAfterRemoval s (ls.map .send) := by
  obtain ⟨ls, t, called, hrun, hevents, e, he, hcall⟩ := h
  refine ⟨ls, fun halways => ?_⟩
  have hlast : t.events.Pairwise _ := Always.last panelStep _ halways hrun
  rw [hevents] at hlast
  obtain ⟨a, ha, hend⟩ := hended
  exact (List.pairwise_append.mp hlast).2.2 a ha e he frame hend hcall

/-- A removal that does not spare the loop finds it running, and leaves it so. -/
theorem unspared_step {s s' : Panel} {l : PanelLabel} (hs : Sound s) (hok : ¬SparesAhead s l)
    (hstep : panelStep s l = some s') :
    ∃ frame ∈ ahead s', s'.isSending = true ∧ Ended s' frame := by
  have hrunning : ∀ {frame}, s.uiThread = .idle → frame ∈ ahead s → s.isSending = true := by
    intro frame hidle hin
    -- an idle UI thread with the flag cleared has joined the thread
    by_contra hoff
    rw [ahead, hs.settled hidle (Bool.eq_false_iff.mpr hoff)] at hin
    cases hin
  have hends : ∀ frame, Ended (s.removeFrame frame) frame := fun frame =>
    ⟨.removeFrame frame, List.mem_append_right _ List.mem_cons_self, Or.inl rfl⟩
  cases l with
  | send l => exact absurd trivial hok
  | ui l =>
      rcases uiStep_cases hstep with ⟨hidle, hhandle⟩ | ⟨closing, -, rfl, -, -⟩
      · cases hhandle with
        | @removeFrame frame =>
            have hin : frame ∈ ahead s := Classical.not_not.mp hok
            exact ⟨frame, hin, hrunning hidle hin, hends frame⟩
        | @updateFrame frame =>
            have hin : frame ∈ ahead s := Classical.not_not.mp hok
            exact ⟨frame, hin, hrunning hidle hin, hends frame⟩
        | _ => exact absurd trivial hok
      · exact absurd trivial hok

/-- **No removed frame is called** in a run in which none is removed or edited while it
    is ahead of the sending loop.  Conversely, after any such removal the loop, left to
    itself, calls one; the run that ends before it does not. -/
theorem spared_never_called (ls : List PanelLabel) :
    (Guarded panelStep SparesAhead Panel.init ls →
      Always panelStep NeverAfterRemoval Panel.init ls) ∧
    ∀ s l s', run panelStep Panel.init ls = some s → panelStep s l = some s' →
      ¬SparesAhead s l →
      ∃ ms : List SendLabel, ¬Always panelStep NeverAfterRemoval s' (ms.map .send) := by
  constructor
  · intro h
    exact Always.imp panelStep (fun s (hs : Sound s ∧ Safe s) => hs.2.ordered) ls
      (guarded_always panelStep safe_step ls ⟨sound_init, safe_init⟩ h)
  · intro s l s' hrun hstep hok
    obtain ⟨frame, hin, hsending, hended⟩ := unspared_step (sound_run hrun) hok hstep
    exact (leadsToCall_ahead hsending hin).not_always hended

/-- The loop takes its snapshot; while it deals with frame 0, frame 1 is removed and
    destroyed. -/
def removeDuringLoop : List PanelLabel :=
  [.ui .toggleClick, .send .testSending, .send (.initBc true), .send .postSnapshot,
    .ui .runClosure, .send .getFrames, .send .nextFrame, .ui (.removeFrame 1), .ui .runClosure,
    .send (.isActive false), .send .nextFrame, .send (.isActive true), .send (.sendFrame true)]

/-- Its last steps call and send the destroyed frame. -/
theorem removeDuringLoop_calls :
    ¬∀ ls : List PanelLabel, Always panelStep NeverAfterRemoval Panel.init ls := by
  intro h
  have hrun : ∃ s, run panelStep Panel.init removeDuringLoop = some s ∧
      s.events = [.removeFrame 1, .destroy 1, .isActive 0, .isActive 1, .sendFrame 1] := by
    decide
  obtain ⟨s, hrun, hevents⟩ := hrun
  have hlast : s.events.Pairwise _ := Always.last panelStep _ (h removeDuringLoop) hrun
  rw [hevents] at hlast
  exact List.rel_of_pairwise_cons hlast (List.mem_of_getLast? rfl) 1 (Or.inl rfl) (Or.inr rfl)

/-- A frame removed once the loop is past it: the run meets the condition. -/
theorem never_called_removedBehind :
    Always panelStep NeverAfterRemoval Panel.init
      [.ui .toggleClick, .send .testSending, .send (.initBc true), .send .postSnapshot,
        .ui .runClosure, .send .getFrames, .send .nextFrame, .send (.isActive false),
        .ui (.removeFrame 0), .ui .runClosure, .send .nextFrame, .send (.isActive true)] :=
  (spared_never_called _).1 (by decide)

end TcpSender
