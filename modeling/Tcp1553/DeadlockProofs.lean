import Tcp1553.SenderProofs

/-! # Stopping the sender

    The sending thread waits for the UI thread in `future.get()`, the UI thread
    waits for the sending thread in the join of `stopSendingThread`.  `Deadlock` is
    both at once.

    Clearing `m_isSending` before the join ends the loop only if the thread looks
    at the flag before it waits again.  `StopsSafely` says where a stop may land:
    not between the test at the head of the loop and the return of `future.get()`.
    `no_deadlock_iff`: such stops never deadlock, and any other stop leaves the
    sending thread at most one step away from it. -/

namespace TcpSender

open LabelledRuns

/-- The UI thread is in the join, and the sending thread waits for a closure that
    is still queued. -/
def Deadlock (s : Panel) : Prop :=
  (∃ closing, s.uiThread = .joining closing) ∧
    ∃ promise, s.sendThread = some (.waiting promise) ∧ .snapshot promise ∈ s.uiQueue

/-- The sending thread is about to wait for the UI thread, or does. -/
def AwaitsUi (s : Panel) : Prop :=
  s.sendThread = some .post ∨
    ∃ promise, s.sendThread = some (.waiting promise) ∧ .snapshot promise ∈ s.uiQueue

/-- A closure that calls `stopSendingThread`. -/
def Closure.stops : Closure → Bool
  | .initFailed _ | .noFrames _ | .loopEnd _ => true
  | _ => false

/-- The label makes the idle UI thread call `stopSendingThread`. -/
def callsStop (s : Panel) : UiLabel → Prop
  | .toggleClick => s.sendToggle = true
  | .closePanel => True
  | .runClosure => ∃ c rest, s.uiQueue = c :: rest ∧ c.stops = true
  | _ => False

/-- No stop lands while the sending thread is about to wait or waits for the UI
    thread, and none after which it goes on to wait. -/
def StopsSafely (s : Panel) : PanelLabel → Prop
  | .ui l => s.uiThread = .idle → callsStop s l → ¬AwaitsUi s
  | .send (.initBc true) =>
      s.sendThread = some .initBc → ∀ closing, s.uiThread ≠ .joining closing
  | .send _ => True

/-- The UI thread is in the join and the sending thread awaits it. -/
def Doomed (s : Panel) : Prop := (∃ closing, s.uiThread = .joining closing) ∧ AwaitsUi s

theorem Deadlock.doomed {s : Panel} (h : Deadlock s) : Doomed s := ⟨h.1, Or.inr h.2⟩

theorem not_doomed_of_idle {s : Panel} (h : ∀ closing, s.uiThread ≠ .joining closing) :
    ¬Doomed s := by
  rintro ⟨⟨closing, hc⟩, -⟩
  exact h closing hc

/-! ## Stops -/

/-- A stop dooms the threads exactly when the sending thread awaits the UI. -/
theorem doomed_stopSendingThread_iff (s : Panel) (closing : Bool) :
    Doomed (s.stopSendingThread closing) ↔ AwaitsUi s := by
  rw [Panel.stopSendingThread]
  split
  · exact ⟨fun h => h.2, fun h => ⟨⟨closing, rfl⟩, h⟩⟩
  · rename_i hnone
    constructor
    · rintro ⟨⟨c, hc⟩, -⟩
      cases closing <;> cases hc
    · rintro (hpost | ⟨promise, hwait, -⟩)
      · cases hnone.symm.trans hpost
      · cases hnone.symm.trans hwait

/-- Taking a closure that stops off the queue does not help the sending thread. -/
theorem awaitsUi_pop {s : Panel} {c : Closure} {rest : List Closure}
    (hqueue : s.uiQueue = c :: rest) (hstops : c.stops = true) :
    AwaitsUi { s with uiQueue := rest } ↔ AwaitsUi s := by
  refine or_congr Iff.rfl (exists_congr fun promise => and_congr_right fun _ => ?_)
  show .snapshot promise ∈ rest ↔ .snapshot promise ∈ s.uiQueue
  rw [hqueue, List.mem_cons]
  constructor
  · exact Or.inr
  · rintro (rfl | hin)
    · cases hstops
    · exact hin

/-- Handlers that do not stop leave the UI thread out of any join. -/
theorem startSendingThread_uiThread (s : Panel) :
    s.startSendingThread.uiThread = s.uiThread := by
  rw [Panel.startSendingThread]
  split <;> rfl

theorem onClearFramesClicked_uiThread (s : Panel) :
    s.onClearFramesClicked.uiThread = s.uiThread :=
  onClearFramesClicked_induction (P := fun t => t.uiThread = s.uiThread) rfl
    fun _ _ _ _ ht => ht

/-- What a handler does to the threads, stop by stop. -/
theorem doomed_handle_iff {s s' : Panel} {l : UiLabel} (hidle : s.uiThread = .idle)
    (hhandle : s.Handles l s') : Doomed s' ↔ callsStop s l ∧ AwaitsUi s := by
  have hsame : s'.uiThread = s.uiThread → ¬callsStop s l →
      (Doomed s' ↔ callsStop s l ∧ AwaitsUi s) := by
    intro hui hno
    refine iff_of_false (not_doomed_of_idle fun closing hc => ?_) fun h => hno h.1
    rw [hui, hidle] at hc
    cases hc
  cases hhandle with
  | toggleClick =>
      rw [Panel.onSendActiveFramesToggle]
      by_cases htoggle : s.sendToggle = true
      · have hoff : ¬(!s.sendToggle) = true := by simp [htoggle]
        rw [if_neg hoff, doomed_stopSendingThread_iff]
        exact ⟨fun h => ⟨htoggle, h⟩, fun h => h.2⟩
      · have hon : (!s.sendToggle) = true := by simp [htoggle]
        rw [if_pos hon]
        refine iff_of_false (not_doomed_of_idle fun closing hc => ?_) fun h => htoggle h.1
        split at hc
        · cases hidle.symm.trans hc
        · rw [startSendingThread_uiThread] at hc
          cases hidle.symm.trans hc
  | repeatClick | addFrame | removeFrame | updateFrame => exact hsame rfl id
  | clearFrames => exact hsame (onClearFramesClicked_uiThread s) id
  | closePanel =>
      rw [doomed_stopSendingThread_iff]
      exact ⟨fun h => ⟨trivial, h⟩, fun h => h.2⟩
  | @runClosure c rest hqueue =>
      have hcalls : callsStop s .runClosure ↔ c.stops = true := by
        constructor
        · rintro ⟨c', rest', hq, hs⟩
          rw [hqueue] at hq
          cases hq
          exact hs
        · intro hs
          exact ⟨c, rest, hqueue, hs⟩
      have hstop (hs : c.stops = true) : Doomed
          ({ s with uiQueue := rest }.stopSendingThread false) ↔
            callsStop s .runClosure ∧ AwaitsUi s := by
        rw [doomed_stopSendingThread_iff, awaitsUi_pop hqueue hs]
        exact ⟨fun h => ⟨hcalls.mpr hs, h⟩, fun h => h.2⟩
      have hother (hs : c.stops ≠ true) : ¬callsStop s .runClosure := fun h => hs (hcalls.mp h)
      cases c with
      | initFailed session | noFrames session | loopEnd session => exact hstop rfl
      | snapshot promise | allDisabled | stopped | destroy frame | received frame =>
          exact hsame rfl (hother Bool.false_ne_true)

/-! ## Steps of the sending thread -/

/-- The sending thread gets to its post through a successful initialisation, and
    to its wait from there. -/
theorem sends_awaits {s : Panel} {thread : SendThread} {l : SendLabel} {m : SendMove}
    (h : s.Sends thread l m) :
    (m.thread = .post ↔ thread = .initBc ∧ l = .initBc true) ∧
      ((∃ promise, m.thread = .waiting promise) ↔ thread = .post) := by
  cases h <;> simp

/-- A step of the sending thread dooms the threads when it passes its
    initialisation during a join. -/
theorem doomed_apply_iff {s : Panel} {l : SendLabel} {m : SendMove} (h : ¬Doomed s)
    (hmove : s.sendMove s.sendThread l = some m) :
    Doomed (s.apply m) ↔ ¬StopsSafely s (.send l) := by
  obtain ⟨thread, hthread, hsends⟩ := sendMove_cases hmove
  obtain ⟨hpost, hwait⟩ := sends_awaits hsends
  constructor
  · rintro ⟨⟨closing, hjoin⟩, hawaits⟩ hsafe
    rcases hawaits with hp | ⟨promise, hw, -⟩
    · obtain ⟨rfl, rfl⟩ := hpost.mp (Option.some.inj hp)
      exact hsafe hthread closing hjoin
    · -- a wait would begin at the post, where the threads were doomed before
      obtain rfl := hwait.mp ⟨promise, Option.some.inj hw⟩
      exact h ⟨⟨closing, hjoin⟩, Or.inl hthread⟩
  · intro hbad
    cases hsends with
    | initialised =>
        have hjoin : ∃ closing, s.uiThread = .joining closing := by
          by_contra hno
          exact hbad fun _ closing hc => hno ⟨closing, hc⟩
        exact ⟨hjoin, Or.inl rfl⟩
    | _ => exact absurd trivial hbad

/-- **What one step can do to the stop.** -/
theorem not_doomed_step_iff {s s' : Panel} {l : PanelLabel} (h : ¬Doomed s)
    (hstep : panelStep s l = some s') : ¬Doomed s' ↔ StopsSafely s l := by
  cases l with
  | ui l =>
      rcases uiStep_cases hstep with ⟨hidle, hhandle⟩ | ⟨closing, hjoin, -, -, rfl⟩
      · rw [doomed_handle_iff hidle hhandle, not_and]
        exact ⟨fun hno _ => hno, fun hno => hno hidle⟩
      · refine iff_of_true (not_doomed_of_idle fun c hc => ?_) fun hidle => ?_
        · cases closing <;> cases hc
        · cases hjoin.symm.trans hidle
  | send l =>
      obtain ⟨m, hmove, rfl⟩ := Option.map_eq_some_iff.mp hstep
      rw [doomed_apply_iff h hmove, Classical.not_not]

/-! ## Runs -/

/-- Doomed threads stay so: nobody runs the closure the sending thread waits for. -/
theorem doomed_step {s s' : Panel} {l : PanelLabel} (hs : Sound s) (h : Doomed s)
    (hstep : panelStep s l = some s') : Doomed s' := by
  obtain ⟨⟨closing, hjoin⟩, hawaits⟩ := h
  cases l with
  | ui l =>
      rcases uiStep_cases hstep with ⟨hidle, -⟩ | ⟨c, -, -, hfinished, -⟩
      · cases hjoin.symm.trans hidle
      · rcases hawaits with hp | ⟨promise, hw, -⟩
        · cases hfinished.symm.trans hp
        · cases hfinished.symm.trans hw
  | send l =>
      obtain ⟨m, hmove, rfl⟩ := Option.map_eq_some_iff.mp hstep
      obtain ⟨thread, hthread, hsends⟩ := sendMove_cases hmove
      refine ⟨⟨closing, hjoin⟩, ?_⟩
      rcases hawaits with hp | ⟨promise, hw, hin⟩
      · obtain rfl : thread = .post := Option.some.inj (hthread.symm.trans hp)
        cases hsends
        exact Or.inr ⟨s.nextPromise, rfl, List.mem_append_right _ List.mem_cons_self⟩
      · -- its promise is queued, so it is not fulfilled and the wait goes on
        obtain rfl : thread = .waiting promise := Option.some.inj (hthread.symm.trans hw)
        have hnone := hs.lookup_queued hin
        cases hsends with
        | gotNone hlookup => cases hnone.symm.trans hlookup
        | gotFrames hlookup => cases hnone.symm.trans hlookup

/-- One step of the sending thread turns the doomed threads into a deadlock. -/
theorem Doomed.deadlock {s : Panel} (h : Doomed s) :
    Deadlock s ∨ ∃ s', panelStep s (.send .postSnapshot) = some s' ∧ Deadlock s' := by
  obtain ⟨hjoin, hpost | hwait⟩ := h
  · -- posting the snapshot closure is all that is missing
    refine Or.inr ⟨s.apply ⟨.waiting s.nextPromise, [.snapshot s.nextPromise], [], 1⟩, ?_, hjoin,
      s.nextPromise, rfl, List.mem_append_right _ List.mem_cons_self⟩
    show (s.sendMove s.sendThread .postSnapshot).map s.apply = _
    rw [hpost]
    rfl
  · exact Or.inl ⟨hjoin, hwait⟩

/-- **Stops never deadlock, for exactly the runs in which they land outside the
    round trip to the UI thread.**  In any other run the threads end in a
    deadlock, or one step of the sending thread away from it. -/
theorem no_deadlock_iff (ls : List PanelLabel) :
    (Guarded panelStep StopsSafely Panel.init ls →
      Always panelStep (fun s => ¬Deadlock s) Panel.init ls) ∧
    ∀ t, run panelStep Panel.init ls = some t → ¬Guarded panelStep StopsSafely Panel.init ls →
      Deadlock t ∨ ∃ t', panelStep t (.send .postSnapshot) = some t' ∧ Deadlock t' := by
  have hinit : ¬Doomed Panel.init := not_doomed_of_idle (by simp [Panel.init])
  constructor
  · intro h
    have hstep : ∀ s l s', ¬Doomed s → StopsSafely s l → panelStep s l = some s' → ¬Doomed s' :=
      fun s l s' hs hok hstep => (not_doomed_step_iff hs hstep).mpr hok
    exact Always.imp panelStep (fun s hs (hd : Deadlock s) => hs hd.doomed) ls
      (guarded_always panelStep hstep ls hinit h)
  · intro t hrun hbad
    refine Doomed.deadlock ?_
    -- a bad stop dooms the threads, or finds them doomed
    have henter : ∀ s l s', Sound s → ¬StopsSafely s l → panelStep s l = some s' → Doomed s' := by
      intro s l s' hs hok hstep
      by_cases hd : Doomed s
      · exact doomed_step hs hd hstep
      · exact Classical.not_not.mp fun hd' => hok ((not_doomed_step_iff hd hstep).mp hd')
    exact of_not_guarded panelStep sound_step henter (fun _ _ _ hs hd hstep => doomed_step hs hd hstep)
      ls sound_init hrun hbad

/-! ## A stop at the wrong moment -/

/-- A stop while the sending thread goes through its snapshot. -/
def stopDuringFrames : List PanelLabel :=
  [.ui .toggleClick, .send .testSending, .send (.initBc true), .send .postSnapshot,
    .ui .runClosure, .send .getFrames, .ui .toggleClick]

theorem no_deadlock_stopDuringFrames :
    Always panelStep (fun s => ¬Deadlock s) Panel.init stopDuringFrames := by
  refine (no_deadlock_iff stopDuringFrames).1 ?_
  refine (guarded_cons_of_step panelStep rfl _).mpr ⟨(fun _ hstop => by cases hstop), ?_⟩
  refine (guarded_cons_of_step panelStep rfl _).mpr ⟨trivial, ?_⟩
  refine (guarded_cons_of_step panelStep rfl _).mpr ⟨(fun _ _ hjoin => by cases hjoin), ?_⟩
  refine (guarded_cons_of_step panelStep rfl _).mpr ⟨trivial, ?_⟩
  refine (guarded_cons_of_step panelStep rfl _).mpr ⟨?_, ?_⟩
  · -- the closure at the front is the snapshot, which stops nothing
    rintro - ⟨c, rest, hqueue, hstops⟩
    cases hqueue
    cases hstops
  refine (guarded_cons_of_step panelStep rfl _).mpr ⟨trivial, ?_⟩
  refine (guarded_cons_of_step panelStep rfl _).mpr ⟨?_, trivial⟩
  rintro - - (hpost | ⟨promise, hwait, -⟩)
  · cases hpost
  · cases hwait

/-- A stop between the posting of the snapshot closure and its turn. -/
def stopDuringSnapshot : List PanelLabel :=
  [.ui .toggleClick, .send .testSending, .send (.initBc true), .send .postSnapshot,
    .ui .toggleClick]

theorem stopDuringSnapshot_deadlocks :
    ∃ s, run panelStep Panel.init stopDuringSnapshot = some s ∧ Deadlock s :=
  ⟨_, rfl, ⟨false, rfl⟩, 0, rfl, List.mem_cons_self⟩

end TcpSender
