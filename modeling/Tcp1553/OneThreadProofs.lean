import Tcp1553.SenderProofs

/-! # One sending thread

    A `std::thread` that is assigned to while it is joinable takes the process down.
    `startSendingThread` looks at `m_isSending` only, and the flag is cleared by the
    stop of a user, by the closures the loop posts when it ends on its own, and
    again by every closure that is still queued.

    `ThreadMove` lists what a step does to the thread, its flag and the record of
    sessions.  `oneThread_step` is the invariant and `started_step` the balance of
    threads started and joined; `one_thread` puts them together for runs. -/

namespace TcpSender

open LabelledRuns

/-! ## What a step does to the thread -/

/-- Nobody is in a join, so no handler is being executed. -/
def Panel.NoHandler (s : Panel) : Prop := ∀ closing, s.uiThread ≠ .joining closing

/-- Threads that have to be joined. -/
def Panel.joinable (s : Panel) : Nat := if s.sendThread.isSome = true then 1 else 0

/-- There is a thread in both states or in neither, with the same flag and record. -/
structure SameThread (s s' : Panel) : Prop where
  uiThread    : s'.uiThread = s.uiThread
  isSending   : s'.isSending = s.isSending
  thread      : s'.sendThread.isSome = s.sendThread.isSome
  session     : s'.session = s.session
  overwritten : s'.overwritten = s.overwritten

/-- A step leaves the thread alone, starts one, clears the flag, or joins the thread. -/
inductive ThreadMove (s s' : Panel) : PanelLabel → Prop where
  | keeps {l : PanelLabel} : l ≠ .ui .join → SameThread s s' → ThreadMove s s' l
  | starts {l : PanelLabel} : l ≠ .ui .join → s.uiThread = .idle → s.isSending = false →
      s'.uiThread = .idle → s'.isSending = true → s'.sendThread.isSome = true →
      s'.session = s.session + 1 → s'.overwritten = (s.overwritten || s.sendThread.isSome) →
      ThreadMove s s' l
  | stops {l : PanelLabel} : l ≠ .ui .join → s'.isSending = false →
      s'.sendThread = s.sendThread → (s'.NoHandler → s.sendThread = none) →
      s'.session = s.session → s'.overwritten = s.overwritten → ThreadMove s s' l
  | joins {closing : Bool} : s.uiThread = .joining closing → s'.uiThread = afterStop closing →
      s.sendThread.isSome = true → s'.sendThread = none → s'.isSending = s.isSending →
      s'.session = s.session → s'.overwritten = s.overwritten → ThreadMove s s' (.ui .join)

section Handlers

variable (s : Panel) {l : PanelLabel}

/-- `startSendingThread` in a handler; the toggle is not looked at. -/
theorem startSendingThread_move (toggle : Bool) (hl : l ≠ .ui .join) (hidle : s.uiThread = .idle) :
    ThreadMove s { s with sendToggle := toggle }.startSendingThread l := by
  rw [Panel.startSendingThread]
  split
  · exact .keeps hl ⟨rfl, rfl, rfl, rfl, rfl⟩
  · rename_i hoff
    exact .starts hl hidle (Bool.eq_false_iff.mpr hoff) hidle rfl rfl rfl rfl

/-- `stopSendingThread` in a handler or closure; it looks at the thread only. -/
theorem stopSendingThread_move (toggle : Bool) (queue : List Closure) (closing : Bool)
    (hl : l ≠ .ui .join) :
    ThreadMove s ({ s with sendToggle := toggle, uiQueue := queue }.stopSendingThread closing) l := by
  rw [Panel.stopSendingThread]
  split
  · exact .stops hl rfl rfl (fun hno => absurd rfl (hno closing)) rfl rfl
  · rename_i hnone
    exact .stops hl rfl rfl (fun _ => hnone) rfl rfl

/-- Clear All only removes frames. -/
theorem onClearFramesClicked_same : SameThread s s.onClearFramesClicked :=
  onClearFramesClicked_induction (P := SameThread s) ⟨rfl, rfl, rfl, rfl, rfl⟩
    fun _ _ _ _ h => ⟨h.uiThread, h.isSending, h.thread, h.session, h.overwritten⟩

end Handlers

/-- What a handler or closure does to the thread. -/
theorem handle_threadMove {s s' : Panel} {l : UiLabel} (hidle : s.uiThread = .idle)
    (hhandle : s.Handles l s') : ThreadMove s s' (.ui l) := by
  cases hhandle with
  | toggleClick =>
      rw [Panel.onSendActiveFramesToggle]
      split
      · split
        · exact .keeps (by simp) ⟨rfl, rfl, rfl, rfl, rfl⟩
        · exact startSendingThread_move s _ (by simp) hidle
      · exact stopSendingThread_move s _ s.uiQueue false (by simp)
  | repeatClick | addFrame => exact .keeps (by simp) ⟨rfl, rfl, rfl, rfl, rfl⟩
  | removeFrame | updateFrame => exact .keeps (by simp) ⟨rfl, rfl, rfl, rfl, rfl⟩
  | clearFrames => exact .keeps (by simp) (onClearFramesClicked_same s)
  | closePanel => exact stopSendingThread_move s s.sendToggle s.uiQueue true (by simp)
  | @runClosure c rest hcons =>
      cases c with
      | initFailed session | noFrames session | loopEnd session =>
          exact stopSendingThread_move s s.sendToggle rest false (by simp)
      | snapshot promise | stopped | destroy frame | allDisabled | received frame =>
          exact .keeps (by simp) ⟨rfl, rfl, rfl, rfl, rfl⟩

/-- **What a step does to the thread.** -/
theorem threadMove_of_step {s s' : Panel} {l : PanelLabel} (hstep : panelStep s l = some s') :
    ThreadMove s s' l := by
  cases l with
  | ui l =>
      rcases uiStep_cases hstep with ⟨hidle, hhandle⟩ | ⟨closing, hjoin, rfl, hfinished, rfl⟩
      · exact handle_threadMove hidle hhandle
      · exact .joins hjoin rfl (by rw [hfinished]; rfl) rfl rfl rfl rfl
  | send l =>
      obtain ⟨m, hmove, rfl⟩ := Option.map_eq_some_iff.mp hstep
      obtain ⟨thread, hthread, -⟩ := sendMove_cases hmove
      -- the thread goes on, it does not come or go
      exact .keeps (by simp) ⟨rfl, rfl, by rw [hthread]; rfl, rfl, rfl⟩

/-! ## Every run -/

/-- The thread was never assigned to while joinable, and without a handler and with
    the flag cleared there is none. -/
structure OneThread (s : Panel) : Prop where
  kept    : s.overwritten = false
  settled : s.NoHandler → s.isSending = false → s.sendThread = none

theorem oneThread_init : OneThread Panel.init := ⟨rfl, fun _ _ => rfl⟩

theorem noHandler_of_idle {s : Panel} (h : s.uiThread = .idle) : s.NoHandler := by
  intro closing hjoin
  cases h.symm.trans hjoin

theorem isSome_eq_false {s : Panel} (h : s.sendThread = none) : s.sendThread.isSome = false := by
  rw [h]
  rfl

/-- **Step lemma.** -/
theorem oneThread_step (s : Panel) (l : PanelLabel) (s' : Panel) (h : OneThread s)
    (hstep : panelStep s l = some s') : OneThread s' := by
  cases threadMove_of_step hstep with
  | keeps _ hsame =>
      refine ⟨hsame.overwritten.trans h.kept, fun hno hoff => ?_⟩
      have hnone := h.settled (fun closing hjoin => hno closing (hsame.uiThread.trans hjoin))
        (hsame.isSending.symm.trans hoff)
      have hnone' := hsame.thread.trans (isSome_eq_false hnone)
      exact Option.isNone_iff_eq_none.mp (Option.isSome_eq_false_iff.mp hnone')
  | starts _ hidle hoff _ hon _ _ hover =>
      refine ⟨?_, fun _ hoff' => by rw [hon] at hoff'; cases hoff'⟩
      rw [hover, h.kept, isSome_eq_false (h.settled (noHandler_of_idle hidle) hoff)]
      rfl
  | stops _ _ hthread hnone _ hover =>
      exact ⟨hover.trans h.kept, fun hno _ => hthread.trans (hnone hno)⟩
  | joins _ _ _ hnone _ _ hover => exact ⟨hover.trans h.kept, fun _ _ => hnone⟩

/-- **The balance of a step**: a start and a join change the number of threads there
    are by one, nothing else does. -/
theorem started_step {s s' : Panel} {l : PanelLabel} (h : OneThread s)
    (hstep : panelStep s l = some s') :
    s'.session + s.joinable = s.session + s'.joinable + [l].count (.ui .join) := by
  have hother : l ≠ .ui .join → [l].count (.ui .join) = 0 := fun hl => by
    rw [List.count_cons_of_ne hl, List.count_nil]
  cases threadMove_of_step hstep with
  | keeps hl hsame =>
      rw [hother hl, hsame.session, Panel.joinable, Panel.joinable, hsame.thread, Nat.add_zero]
  | starts hl hidle hoff _ _ hsome hsession =>
      have hnone := isSome_eq_false (h.settled (noHandler_of_idle hidle) hoff)
      rw [hother hl, hsession, Panel.joinable, Panel.joinable, hnone, hsome]
      rfl
  | stops hl _ hthread _ hsession =>
      rw [hother hl, hsession, Panel.joinable, Panel.joinable, hthread, Nat.add_zero]
  | joins _ _ hsome hnone _ hsession =>
      rw [hsession, Panel.joinable, Panel.joinable, hsome, hnone, List.count_singleton_self]
      rfl

/-- **The balance of a run.** -/
theorem started_run (ls : List PanelLabel) {s t : Panel} (h : OneThread s)
    (hrun : run panelStep s ls = some t) :
    t.session + s.joinable = s.session + t.joinable + ls.count (.ui .join) := by
  induction ls generalizing s with
  | nil =>
      cases hrun
      rfl
  | cons l ls ih =>
      obtain ⟨s', hstep, hrest⟩ := run_cons_inv panelStep hrun
      have hfirst := started_step h hstep
      have hlater := ih (oneThread_step s l s' h hstep) hrest
      rw [← List.singleton_append, List.count_append]
      omega

/-- **One sending thread**, in every reachable state: no joinable thread was ever
    overwritten, a cleared flag means no thread unless a handler is being executed,
    and of the threads started all but the present one have been joined. -/
theorem one_thread {ls : List PanelLabel} {s : Panel}
    (hrun : run panelStep Panel.init ls = some s) :
    OneThread s ∧ s.session = s.joinable + ls.count (.ui .join) := by
  have hbalance := started_run ls oneThread_init hrun
  refine ⟨run_invariant panelStep oneThread_step ls oneThread_init hrun, ?_⟩
  rw [show Panel.init.joinable = 0 from rfl, show Panel.init.session = 0 from rfl, Nat.add_zero,
    Nat.zero_add] at hbalance
  exact hbalance

/-- A session that ends on its own, both of its closures, and the next session. -/
def failedRestart : List PanelLabel :=
  [.ui .toggleClick, .send .testSending, .send (.initBc false), .send .postInitFailed,
    .ui .runClosure, .send .postLoopEnd, .ui .join, .ui .runClosure, .ui .runClosure,
    .ui .runClosure, .ui .toggleClick]

/-- The panel behind it. -/
def restarted : Panel :=
  { Panel.init with
    isSending := true
    sendToggle := true
    sendThread := some .loopTest
    session := 2 }

theorem one_thread_failedRestart :
    OneThread restarted ∧ restarted.session = restarted.joinable + failedRestart.count (.ui .join) :=
  one_thread (by decide)

end TcpSender
