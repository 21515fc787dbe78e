import Tcp1553.StaleStopProofs

/-! # What the send button shows

    "Send Active Frames" is a toggle: it is pressed by the user and released by a
    closure that `stopSendingThread` posts, so it can be released late.  A closure left
    from one session releases the button in the next one, and then frames are sent
    while the button says they are not; the click that is to stop them only presses it
    again, since `onSendActiveFramesToggle` finds the sender running.

    `toggle_tells_iff` says which starts lead there, and that a button that is down
    without a session is always released. -/

namespace TcpSender

open LabelledRuns

/-- While frames are sent the button is down. -/
def Tells (s : Panel) : Prop := s.isSending = true → s.sendToggle = true

/-- A button that is down without a session is going to be released, and the loop
    repeats as its button says. -/
structure Settles (s : Panel) : Prop where
  released : s.uiThread = .idle → s.isSending = false → s.sendToggle = true →
    .stopped ∈ s.uiQueue
  repeats  : s.isRepeatOn = s.repeatToggle

/-- The queue releases the button before it stops the sender. -/
def Resets : List Closure → Bool
  | [] => false
  | .stopped :: _ => true
  | c :: rest => c.session?.isNone && Resets rest

/-- No session starts in front of such a queue. -/
def StartsShown (s : Panel) : PanelLabel → Prop
  | .ui .toggleClick => s.uiThread = .idle → s.isSending = false → s.sendToggle = false →
      Resets s.uiQueue = false
  | _ => True

instance (s : Panel) : (l : PanelLabel) → Decidable (StartsShown s l)
  | .ui .toggleClick => inferInstanceAs (Decidable (_ → _ → _ → _))
  | .ui .repeatClick | .ui .addFrame | .ui (.removeFrame _) | .ui (.updateFrame _)
  | .ui .clearFrames | .ui .closePanel | .ui .runClosure | .ui .join | .send _ => isTrue trivial

/-! ## What a step does to the button -/

theorem resets_cons {c : Closure} (hc : c ≠ .stopped) (rest : List Closure) :
    Resets (c :: rest) = (c.session?.isNone && Resets rest) := by
  cases c with
  | stopped => exact absurd rfl hc
  | _ => rfl

/-- Closures posted behind do not matter, unless they release the button. -/
theorem resets_append {posts : List Closure} (hposts : .stopped ∉ posts) (queue : List Closure) :
    Resets queue = false → Resets (queue ++ posts) = false := by
  induction queue with
  | nil =>
      intro _
      rw [List.nil_append]
      induction posts with
      | nil => rfl
      | cons c posts ih =>
          obtain ⟨hc, hrest⟩ := not_or.mp (mt List.mem_cons.mpr hposts)
          rw [resets_cons (Ne.symm hc), ih hrest, Bool.and_false]
  | cons c queue ih =>
      intro h
      by_cases hc : c = .stopped
      · rw [hc] at h
        cases h
      · rw [resets_cons hc] at h
        rw [List.cons_append, resets_cons hc]
        cases hsession : c.session? with
        | some n => rfl
        | none =>
            rw [hsession] at h
            exact ih h

/-- The ways a step can go. -/
inductive ButtonMove (s s' : Panel) (l : PanelLabel) : Prop where
  | keeps {posts : List Closure} : s'.isSending = s.isSending → s'.sendToggle = s.sendToggle →
      s'.uiThread = s.uiThread → s'.uiQueue = s.uiQueue ++ posts → .stopped ∉ posts →
      ButtonMove s s' l
  | runs {c : Closure} {rest : List Closure} : s.uiQueue = c :: rest → c ≠ .stopped →
      c.session? = none → s'.uiQueue = rest → s'.isSending = s.isSending →
      s'.sendToggle = s.sendToggle → s'.uiThread = s.uiThread → ButtonMove s s' l
  | releases {rest : List Closure} : s.uiQueue = .stopped :: rest → s'.isSending = s.isSending →
      s'.sendToggle = false → ButtonMove s s' l
  | starts : l = .ui .toggleClick → s.uiThread = .idle → s.isSending = false →
      s.sendToggle = false → s'.isSending = true → s'.sendToggle = true →
      s'.uiQueue = s.uiQueue → ButtonMove s s' l
  | ignored : s.isSending = true → s.sendToggle = false → s'.isSending = true →
      ButtonMove s s' l
  | stops : s'.isSending = false →
      (s'.uiThread = .idle → s'.sendToggle = true → .stopped ∈ s'.uiQueue) → ButtonMove s s' l

/-- `stopSendingThread` posts the release, or waits for the thread first. -/
theorem stopSendingThread_releases (s : Panel) (closing : Bool) :
    (s.stopSendingThread closing).isSending = false ∧
      ((s.stopSendingThread closing).uiThread = .idle →
        .stopped ∈ (s.stopSendingThread closing).uiQueue) := by
  rw [Panel.stopSendingThread]
  split
  · exact ⟨rfl, fun hidle => by cases hidle⟩
  · exact ⟨rfl, fun _ => List.mem_append_right _ (List.mem_singleton_self _)⟩

theorem onClearFramesClicked_posts (s : Panel) :
    ∃ posts, s.onClearFramesClicked.isSending = s.isSending ∧
      s.onClearFramesClicked.sendToggle = s.sendToggle ∧
      s.onClearFramesClicked.uiThread = s.uiThread ∧
      s.onClearFramesClicked.uiQueue = s.uiQueue ++ posts ∧ .stopped ∉ posts := by
  refine onClearFramesClicked_induction
    (P := fun t => ∃ posts, t.isSending = s.isSending ∧ t.sendToggle = s.sendToggle ∧
      t.uiThread = s.uiThread ∧ t.uiQueue = s.uiQueue ++ posts ∧ .stopped ∉ posts)
    ⟨[], rfl, rfl, rfl, (List.append_nil _).symm, List.not_mem_nil⟩ ?_
  rintro - frame - t ⟨posts, hsending, htoggle, hui, hqueue, hposts⟩
  refine ⟨posts ++ [.destroy frame], hsending, htoggle, hui, ?_, ?_⟩
  · show t.uiQueue ++ [.destroy frame] = _
    rw [hqueue, List.append_assoc]
  · intro hin
    exact (List.mem_append.mp hin).elim hposts (by simp)

/-- **What a handler or closure does to the button.** -/
theorem handle_buttonMove {s s' : Panel} {l : UiLabel} (hidle : s.uiThread = .idle)
    (hhandle : s.Handles l s') : ButtonMove s s' (.ui l) := by
  have hnone : Closure.stopped ∉ ([] : List Closure) := List.not_mem_nil
  cases hhandle with
  | toggleClick =>
      rw [Panel.onSendActiveFramesToggle]
      split
      · rename_i hon
        have htoggle : s.sendToggle = false := by simpa using hon
        split
        · rename_i hsending
          exact .ignored hsending htoggle hsending
        · rename_i hoff
          have hsending : s.isSending = false := Bool.eq_false_iff.mpr hoff
          obtain ⟨hstarted, -, hqueue, -⟩ :=
            startSendingThread_spec (s := { s with sendToggle := !s.sendToggle }) hsending
          refine .starts rfl hidle hsending htoggle hstarted ?_ hqueue
          rw [Panel.startSendingThread, if_neg hoff]
          exact hon
      · obtain ⟨hoff, hreleases⟩ :=
          stopSendingThread_releases { s with sendToggle := !s.sendToggle } false
        exact .stops hoff fun hui _ => hreleases hui
  | repeatClick | addFrame => exact .keeps rfl rfl rfl (List.append_nil _).symm hnone
  | removeFrame | updateFrame => exact .keeps rfl rfl rfl rfl (by simp)
  | clearFrames =>
      obtain ⟨posts, hsending, htoggle, hui, hqueue, hposts⟩ := onClearFramesClicked_posts s
      exact .keeps hsending htoggle hui hqueue hposts
  | closePanel =>
      obtain ⟨hoff, hreleases⟩ := stopSendingThread_releases s true
      exact .stops hoff fun hui _ => hreleases hui
  | @runClosure c rest hqueue =>
      cases c with
      | initFailed | noFrames | loopEnd =>
          obtain ⟨hoff, hreleases⟩ := stopSendingThread_releases { s with uiQueue := rest } false
          exact .stops hoff fun hui _ => hreleases hui
      | stopped => exact .releases hqueue rfl rfl
      | snapshot | destroy | allDisabled | received =>
          exact .runs hqueue (by simp) rfl rfl rfl rfl rfl

/-- What the sending thread posts releases no button. -/
theorem sends_stopped {s : Panel} {thread : SendThread} {l : SendLabel} {m : SendMove}
    (h : s.Sends thread l m) : .stopped ∉ m.posts := by
  cases h <;> simp

/-- **What a step does to the button.** -/
theorem buttonMove_of_step {s s' : Panel} {l : PanelLabel} (h : Sound s)
    (hstep : panelStep s l = some s') : ButtonMove s s' l := by
  cases l with
  | ui l =>
      rcases uiStep_cases hstep with ⟨hidle, hhandle⟩ | ⟨closing, hjoining, -, -, rfl⟩
      · exact handle_buttonMove hidle hhandle
      · exact .stops (h.joining closing hjoining) fun _ _ =>
          List.mem_append_right _ (List.mem_singleton_self _)
  | send l =>
      obtain ⟨m, hmove, rfl⟩ := Option.map_eq_some_iff.mp hstep
      obtain ⟨thread, -, hsends⟩ := sendMove_cases hmove
      exact .keeps rfl rfl rfl rfl (sends_stopped hsends)

/-! ## What holds in every run -/

/-- A button that is down without a session stays so only until it is released. -/
theorem released_step {s s' : Panel} {l : PanelLabel} (hsound : Sound s)
    (h : s.uiThread = .idle → s.isSending = false → s.sendToggle = true → .stopped ∈ s.uiQueue)
    (hstep : panelStep s l = some s') :
    s'.uiThread = .idle → s'.isSending = false → s'.sendToggle = true →
      .stopped ∈ s'.uiQueue := by
  intro hidle hoff hdown
  cases buttonMove_of_step hsound hstep with
  | keeps hsending htoggle hui hqueue _ =>
      rw [hqueue]
      exact List.mem_append_left _ (h (hui ▸ hidle) (hsending ▸ hoff) (htoggle ▸ hdown))
  | runs hcons hc _ hqueue hsending htoggle hui =>
      have hold := h (hui ▸ hidle) (hsending ▸ hoff) (htoggle ▸ hdown)
      rw [hcons] at hold
      rw [hqueue]
      exact (List.mem_cons.mp hold).resolve_left (Ne.symm hc)
  | releases _ _ hup => cases hup.symm.trans hdown
  | starts _ _ _ _ hon | ignored _ _ hon => cases hon.symm.trans hoff
  | stops _ hreleases => exact hreleases hidle hdown

/-- The flag the loop reads is the one the button shows. -/
theorem repeats_step {s s' : Panel} {l : PanelLabel} (h : s.isRepeatOn = s.repeatToggle)
    (hstep : panelStep s l = some s') : s'.isRepeatOn = s'.repeatToggle := by
  have hstop : ∀ (t : Panel) closing, t.isRepeatOn = t.repeatToggle →
      (t.stopSendingThread closing).isRepeatOn = (t.stopSendingThread closing).repeatToggle := by
    intro t closing ht
    rw [Panel.stopSendingThread]
    split <;> exact ht
  cases l with
  | send l =>
      obtain ⟨m, -, rfl⟩ := Option.map_eq_some_iff.mp hstep
      exact h
  | ui l =>
      rcases uiStep_cases hstep with ⟨-, hhandle⟩ | ⟨closing, -, -, -, rfl⟩
      swap
      · exact h
      cases hhandle with
      | toggleClick =>
          rw [Panel.onSendActiveFramesToggle]
          split
          · split
            · exact h
            · rename_i hoff
              rw [Panel.startSendingThread, if_neg hoff]
          · exact hstop _ false h
      | repeatClick => rfl
      | addFrame | removeFrame | updateFrame => exact h
      | clearFrames =>
          exact onClearFramesClicked_induction (P := fun t => t.isRepeatOn = t.repeatToggle) h
            fun _ _ _ _ ht => ht
      | closePanel => exact hstop s true h
      | @runClosure c rest _ =>
          cases c with
          | initFailed | noFrames | loopEnd => exact hstop { s with uiQueue := rest } false h
          | stopped | snapshot | destroy | allDisabled | received => exact h

theorem settles_step (s : Panel) (l : PanelLabel) (s' : Panel) (h : Sound s ∧ Settles s)
    (hstep : panelStep s l = some s') : Sound s' ∧ Settles s' :=
  ⟨sound_step s l s' h.1 hstep,
    released_step h.1 h.2.released hstep, repeats_step h.2.repeats hstep⟩

/-! ## Starts that are shown -/

/-- A session whose button is down, with no release in front of the next stop. -/
def Shown (s : Panel) : Prop :=
  s.isSending = true → s.sendToggle = true ∧ Resets s.uiQueue = false

/-- **Step lemma**: a session that starts shown stays shown. -/
theorem shown_step (s : Panel) (l : PanelLabel) (s' : Panel) (h : Sound s ∧ Shown s)
    (hok : StartsShown s l) (hstep : panelStep s l = some s') : Sound s' ∧ Shown s' := by
  refine ⟨sound_step s l s' h.1 hstep, fun hsending => ?_⟩
  cases buttonMove_of_step h.1 hstep with
  | keeps hsame htoggle _ hqueue hposts =>
      obtain ⟨hdown, hresets⟩ := h.2 (hsame ▸ hsending)
      rw [hqueue]
      exact ⟨htoggle.trans hdown, resets_append hposts _ hresets⟩
  | runs hcons hc hsession hqueue hsame htoggle _ =>
      obtain ⟨hdown, hresets⟩ := h.2 (hsame ▸ hsending)
      rw [hcons, resets_cons hc, hsession] at hresets
      rw [hqueue]
      exact ⟨htoggle.trans hdown, hresets⟩
  | releases hcons hsame _ =>
      obtain ⟨-, hresets⟩ := h.2 (hsame ▸ hsending)
      rw [hcons] at hresets
      cases hresets
  | starts hl hidle hoff hup _ hdown hqueue =>
      subst hl
      rw [hqueue]
      exact ⟨hdown, hok hidle hoff hup⟩
  | ignored hon hup _ => cases hup.symm.trans (h.2 hon).1
  | stops hoff _ => cases hoff.symm.trans hsending

/-! ## Starts in front of a release -/

/-- A click on the button that starts a session. -/
theorem panelStep_start {s : Panel} (hidle : s.uiThread = .idle) (hoff : s.isSending = false)
    (hup : s.sendToggle = false) :
    panelStep s (.ui .toggleClick)
      = some { s with sendToggle := !s.sendToggle }.startSendingThread := by
  rw [panelStep_idle hidle, Panel.handle]
  simp only [Panel.onSendActiveFramesToggle, hup, hoff, Bool.not_false, if_true,
    Bool.false_eq_true, if_false]

/-- The queue is run up to the release, and the session goes on. -/
theorem release_lies (queue : List Closure) :
    ∀ {s : Panel}, s.uiThread = .idle → s.isSending = true → s.uiQueue = queue →
      Resets queue = true → ∃ ks, ¬Always panelStep Tells s ks := by
  -- induction on the queue: nothing in front of the release stops the sender
  induction queue with
  | nil =>
      intro s _ _ _ hresets
      cases hresets
  | cons c rest ih =>
      intro s hidle hsending hqueue hresets
      have hstep := panelStep_runClosure hidle hqueue
      by_cases hc : c = .stopped
      · subst hc
        refine ⟨[.ui .runClosure], fun hall => ?_⟩
        have htells := hall.2 _ hstep
        cases htells hsending
      · rw [resets_cons hc, Bool.and_eq_true] at hresets
        obtain ⟨hsame, -, hui, hrest⟩ :=
          runClosure_keeps (s := { s with uiQueue := rest }) (Option.isNone_iff_eq_none.mp hresets.1)
        obtain ⟨ks, hks⟩ := ih (hui.trans hidle) (hsame.trans hsending) hrest hresets.2
        exact ⟨.ui .runClosure :: ks, fun hall => hks (hall.2 _ hstep)⟩

/-- A session that starts in front of a release is not shown once that is run. -/
theorem start_lies {s : Panel} {l : PanelLabel} (hmiss : ¬StartsShown s l) :
    ∃ ks, ¬Always panelStep Tells s (l :: ks) := by
  match l with
  | .ui .toggleClick =>
      simp only [StartsShown, not_forall, exists_prop, Bool.not_eq_false] at hmiss
      obtain ⟨hidle, hoff, hup, hresets⟩ := hmiss
      have hstep := panelStep_start hidle hoff hup
      obtain ⟨hon, -, hqueue, hui⟩ :=
        startSendingThread_spec (s := { s with sendToggle := !s.sendToggle }) hoff
      obtain ⟨ks, hks⟩ := release_lies s.uiQueue (hui.trans hidle) hon hqueue hresets
      exact ⟨ks, fun hall => hks (hall.2 _ hstep)⟩
  | .ui .repeatClick | .ui .addFrame | .ui (.removeFrame _) | .ui (.updateFrame _)
  | .ui .clearFrames | .ui .closePanel | .ui .runClosure | .ui .join | .send _ =>
      exact absurd trivial hmiss

/-- **What the buttons tell.**  In every run "Repeat" shows what the loop does, and a send
    button that is down without a session is going to be released.  In a run whose
    sessions all start shown, the button is down whenever frames are sent; after any
    other start it can be up while they are. -/
theorem toggle_tells_iff (ls : List PanelLabel) :
    (∀ s, run panelStep Panel.init ls = some s → Settles s) ∧
    (Guarded panelStep StartsShown Panel.init ls → Always panelStep Tells Panel.init ls) ∧
    ∀ s l, run panelStep Panel.init ls = some s → ¬StartsShown s l →
      ∃ ks, ¬Always panelStep Tells s (l :: ks) := by
  refine ⟨fun s hrun => ?_, fun hshown => ?_, fun s l _ hmiss => start_lies hmiss⟩
  · have hinit : Settles Panel.init := ⟨fun _ _ hdown => (by cases hdown), rfl⟩
    exact (run_invariant panelStep settles_step ls ⟨sound_init, hinit⟩ hrun).2
  · have hinit : Shown Panel.init := fun hsending => by cases hsending
    have hall := guarded_always panelStep shown_step ls ⟨sound_init, hinit⟩ hshown
    exact Always.imp panelStep (fun s h hsending => (h.2 hsending).1) ls hall

/-- Stopped, and started again behind the last closure of the loop but in front of the
    release: the frames are sent with the button up. -/
example : ∃ s, run panelStep Panel.init [.ui .toggleClick, .ui .toggleClick, .send .testSending,
    .send .postLoopEnd, .ui .join, .ui .runClosure, .ui .toggleClick, .ui .runClosure] = some s ∧
    s.isSending = true ∧ s.sendToggle = false := ⟨_, rfl, rfl, rfl⟩

end TcpSender
