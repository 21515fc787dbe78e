import Tcp1553.SenderProofs

/-! # Which session a stop ends

    Every way out of `sendActiveFramesLoop` posts a closure that calls
    `stopSendingThread`, also when the UI thread has already stopped and joined the
    thread.  The closure does not say which session it is for, so one that is still
    queued when the next session starts stops that session.

    `OwnStop` is what a session may expect, `StartsClean` the condition for it: no
    session starts in front of such a closure.  Where one does, running the queue is
    all it takes (`stale_stop_ends`). -/

namespace TcpSender

open LabelledRuns

/-- The session that posted a closure which stops the sender. -/
def Closure.session? : Closure → Option Nat
  | .initFailed session | .noFrames session | .loopEnd session => some session
  | _ => none

/-- A step that ends the current session is a user stop, the destruction of the
    panel, or a closure of this session. -/
def OwnStop (s : Panel) (l : PanelLabel) : Prop :=
  s.isSending = true → ∀ s', panelStep s l = some s' → s'.isSending = false →
    l = .ui .toggleClick ∨ l = .ui .closePanel ∨
      (l = .ui .runClosure ∧ ∃ c rest, s.uiQueue = c :: rest ∧ c.session? = some s.session)

/-- No session starts while a closure that stops the sender is queued. -/
def StartsClean (s : Panel) : PanelLabel → Prop
  | .ui .toggleClick => s.uiThread = .idle → s.isSending = false → s.sendToggle = false →
      ∀ c ∈ s.uiQueue, c.session? = none
  | _ => True

instance (s : Panel) : (l : PanelLabel) → Decidable (StartsClean s l)
  | .ui .toggleClick => inferInstanceAs (Decidable (_ → _ → _ → _))
  | .ui .repeatClick | .ui .addFrame | .ui (.removeFrame _) | .ui (.updateFrame _)
  | .ui .clearFrames | .ui .closePanel | .ui .runClosure | .ui .join | .send _ => isTrue trivial

/-! ## What a step does to the session -/

/-- Closures of a later queue are old, or stop nothing but the session `n`. -/
def QueueOf (n : Nat) (old new : List Closure) : Prop :=
  ∀ c ∈ new, c ∈ old ∨ c.session? = none ∨ c.session? = some n

theorem QueueOf.refl (n : Nat) (queue : List Closure) : QueueOf n queue queue :=
  fun _ hc => Or.inl hc

theorem QueueOf.append {n : Nat} {old new posts : List Closure} (h : QueueOf n old new)
    (hposts : ∀ c ∈ posts, c.session? = none ∨ c.session? = some n) :
    QueueOf n old (new ++ posts) := by
  intro c hc
  rcases List.mem_append.mp hc with hnew | hpost
  · exact h c hnew
  · exact Or.inr (hposts c hpost)

/-- A step leaves the session alone, starts one, or ends the current one. -/
inductive SessionMove (s s' : Panel) (l : PanelLabel) : Prop where
  | keeps : s'.isSending = s.isSending → s'.session = s.session →
      QueueOf s.session s.uiQueue s'.uiQueue → SessionMove s s' l
  | starts : l = .ui .toggleClick → s.uiThread = .idle → s.isSending = false →
      s.sendToggle = false → s'.session = s.session + 1 → s'.uiQueue = s.uiQueue →
      SessionMove s s' l
  | stops : l = .ui .toggleClick ∨ l = .ui .closePanel ∨
        (l = .ui .runClosure ∧ ∃ c rest, s.uiQueue = c :: rest ∧ c.session?.isSome) →
      s'.isSending = false → s'.session = s.session →
      QueueOf s.session s.uiQueue s'.uiQueue → SessionMove s s' l

/-- `startSendingThread` begins a new session and posts nothing. -/
theorem startSendingThread_spec {s : Panel} (hoff : s.isSending = false) :
    s.startSendingThread.isSending = true ∧ s.startSendingThread.session = s.session + 1 ∧
      s.startSendingThread.uiQueue = s.uiQueue ∧ s.startSendingThread.uiThread = s.uiThread := by
  rw [Panel.startSendingThread, if_neg (Bool.eq_false_iff.mp hoff)]
  exact ⟨rfl, rfl, rfl, rfl⟩

/-- `stopSendingThread` posts at most the closure that resets the toggle. -/
theorem stopSendingThread_spec (s : Panel) (closing : Bool) :
    (s.stopSendingThread closing).isSending = false ∧
      (s.stopSendingThread closing).session = s.session ∧
      QueueOf s.session s.uiQueue (s.stopSendingThread closing).uiQueue := by
  rw [Panel.stopSendingThread]
  split
  · exact ⟨rfl, rfl, QueueOf.refl _ _⟩
  · refine ⟨rfl, rfl, (QueueOf.refl _ _).append fun c hc => ?_⟩
    rw [List.mem_singleton.mp hc]
    exact Or.inl rfl

theorem onClearFramesClicked_spec (s : Panel) :
    s.onClearFramesClicked.isSending = s.isSending ∧
      s.onClearFramesClicked.session = s.session ∧
      QueueOf s.session s.uiQueue s.onClearFramesClicked.uiQueue := by
  refine onClearFramesClicked_induction
    (P := fun t => t.isSending = s.isSending ∧ t.session = s.session ∧
      QueueOf s.session s.uiQueue t.uiQueue) ⟨rfl, rfl, QueueOf.refl _ _⟩ ?_
  rintro - frame - t ⟨hsending, hsession, hqueue⟩
  refine ⟨hsending, hsession, hqueue.append fun c hc => ?_⟩
  rw [List.mem_singleton.mp hc]
  exact Or.inl rfl

/-- What the sending thread posts stops at most its own session. -/
theorem sends_session {s : Panel} {thread : SendThread} {l : SendLabel} {m : SendMove}
    (h : s.Sends thread l m) :
    ∀ c ∈ m.posts, c.session? = none ∨ c.session? = some s.session := by
  cases h <;> simp [Closure.session?]

theorem handle_sessionMove {s s' : Panel} {l : UiLabel} (hidle : s.uiThread = .idle)
    (hhandle : s.Handles l s') : SessionMove s s' (.ui l) := by
  cases hhandle with
  | toggleClick =>
      rw [Panel.onSendActiveFramesToggle]
      split
      · rename_i hon
        have htoggle : s.sendToggle = false := by simpa using hon
        split
        · exact .keeps rfl rfl (QueueOf.refl _ _)
        · rename_i hoff
          have hsending : s.isSending = false := Bool.eq_false_iff.mpr hoff
          obtain ⟨-, hsession, hqueue, -⟩ :=
            startSendingThread_spec (s := { s with sendToggle := !s.sendToggle }) hsending
          exact .starts rfl hidle hsending htoggle hsession hqueue
      · obtain ⟨hoff, hsession, hqueue⟩ :=
          stopSendingThread_spec { s with sendToggle := !s.sendToggle } false
        exact .stops (Or.inl rfl) hoff hsession hqueue
  | repeatClick => exact .keeps rfl rfl (QueueOf.refl _ _)
  | addFrame => exact .keeps rfl rfl (QueueOf.refl _ _)
  | removeFrame =>
      refine .keeps rfl rfl ((QueueOf.refl _ _).append fun c hc => ?_)
      rw [List.mem_singleton.mp hc]
      exact Or.inl rfl
  | updateFrame =>
      refine .keeps rfl rfl ((QueueOf.refl _ _).append fun c hc => ?_)
      rw [List.mem_singleton.mp hc]
      exact Or.inl rfl
  | clearFrames =>
      obtain ⟨hsending, hsession, hqueue⟩ := onClearFramesClicked_spec s
      exact .keeps hsending hsession hqueue
  | closePanel =>
      obtain ⟨hoff, hsession, hqueue⟩ := stopSendingThread_spec s true
      exact .stops (Or.inr (Or.inl rfl)) hoff hsession hqueue
  | @runClosure c rest hcons =>
      have hpop : QueueOf s.session s.uiQueue rest := by
        intro d hd
        rw [hcons]
        exact Or.inl (List.mem_cons_of_mem _ hd)
      cases c with
      | initFailed session | noFrames session | loopEnd session =>
          obtain ⟨hoff, hsession, hqueue⟩ :=
            stopSendingThread_spec { s with uiQueue := rest } false
          refine .stops (Or.inr (Or.inr ⟨rfl, _, _, hcons, rfl⟩)) hoff hsession fun d hd => ?_
          exact (hqueue d hd).elim (hpop d) Or.inr
      | snapshot promise | stopped | destroy frame | allDisabled | received frame =>
          exact .keeps rfl rfl hpop

/-- **What a step does to the session.** -/
theorem sessionMove_of_step {s s' : Panel} {l : PanelLabel} (hstep : panelStep s l = some s') :
    SessionMove s s' l := by
  cases l with
  | ui l =>
      rcases uiStep_cases hstep with ⟨hidle, hhandle⟩ | ⟨closing, -, -, -, rfl⟩
      · exact handle_sessionMove hidle hhandle
      · refine .keeps rfl rfl ((QueueOf.refl _ _).append fun c hc => ?_)
        rw [List.mem_singleton.mp hc]
        exact Or.inl rfl
  | send l =>
      obtain ⟨m, hmove, rfl⟩ := Option.map_eq_some_iff.mp hstep
      obtain ⟨thread, -, hsends⟩ := sendMove_cases hmove
      exact .keeps rfl rfl ((QueueOf.refl _ _).append (sends_session hsends))

/-! ## Clean starts -/

/-- During a session only its own closures stop the sender. -/
def Fresh (s : Panel) : Prop :=
  s.isSending = true → ∀ c ∈ s.uiQueue, c.session? = none ∨ c.session? = some s.session

/-- **Step lemma**: a session that starts clean stays clean. -/
theorem fresh_step (s : Panel) (l : PanelLabel) (s' : Panel) (h : Fresh s) (hok : StartsClean s l)
    (hstep : panelStep s l = some s') : Fresh s' := by
  intro hsending c hc
  cases sessionMove_of_step hstep with
  | keeps hsame hsession hqueue =>
      rw [hsession]
      exact (hqueue c hc).elim (h (hsame.symm.trans hsending) c) id
  | starts hl hidle hoff htoggle _ hqueue =>
      subst hl
      rw [hqueue] at hc
      exact Or.inl (hok hidle hoff htoggle c hc)
  | stops _ hoff =>
      rw [hoff] at hsending
      cases hsending

/-- A clean session ends as it should. -/
theorem Fresh.ownStop {s : Panel} (h : Fresh s) (l : PanelLabel) : OwnStop s l := by
  intro hsending s' hstep hoff
  cases sessionMove_of_step hstep with
  | keeps hsame =>
      rw [hsame, hsending] at hoff
      cases hoff
  | starts _ _ hidle =>
      rw [hsending] at hidle
      cases hidle
  | stops hlabel =>
      rcases hlabel with htoggle | hclose | ⟨hrun, c, rest, hqueue, hstops⟩
      · exact Or.inl htoggle
      · exact Or.inr (Or.inl hclose)
      · refine Or.inr (Or.inr ⟨hrun, c, rest, hqueue, ?_⟩)
        refine (h hsending c (by rw [hqueue]; exact List.mem_cons_self)).resolve_left fun hnone => ?_
        rw [hnone] at hstops
        cases hstops

/-! ## Starts in front of an old closure -/

/-- A queued closure is of this session or an earlier one. -/
def Posted (s : Panel) : Prop :=
  ∀ c ∈ s.uiQueue, ∀ n, c.session? = some n → n ≤ s.session

theorem posted_step (s : Panel) (l : PanelLabel) (s' : Panel) (h : Posted s)
    (hstep : panelStep s l = some s') : Posted s' := by
  have hqueued : s'.session = s.session → QueueOf s.session s.uiQueue s'.uiQueue → Posted s' := by
    intro hsession hqueue c hc n hn
    rw [hsession]
    rcases hqueue c hc with hold | hnone | hthis
    · exact h c hold n hn
    · rw [hnone] at hn
      cases hn
    · exact Nat.le_of_eq (Option.some.inj (hn.symm.trans hthis))
  cases sessionMove_of_step hstep with
  | keeps _ hsession hqueue => exact hqueued hsession hqueue
  | stops _ _ hsession hqueue => exact hqueued hsession hqueue
  | starts _ _ _ _ hsession hqueue =>
      intro c hc n hn
      rw [hqueue] at hc
      rw [hsession]
      exact Nat.le_succ_of_le (h c hc n hn)

theorem posted_run {ls : List PanelLabel} {s : Panel}
    (hrun : run panelStep Panel.init ls = some s) : Posted s :=
  run_invariant panelStep posted_step ls (fun _ hc => by cases hc) hrun

theorem panelStep_idle {s : Panel} (hidle : s.uiThread = .idle) (l : UiLabel) :
    panelStep s (.ui l) = s.handle l := by
  show s.uiStep l = s.handle l
  rw [Panel.uiStep, hidle]

/-- The idle UI thread takes the next closure off the queue. -/
theorem panelStep_runClosure {s : Panel} {c : Closure} {rest : List Closure}
    (hidle : s.uiThread = .idle) (hqueue : s.uiQueue = c :: rest) :
    panelStep s (.ui .runClosure) = some ({ s with uiQueue := rest }.runClosure c) := by
  rw [panelStep_idle hidle, Panel.handle, hqueue]

/-- A closure that stops the sender clears the flag. -/
theorem runClosure_stops {s : Panel} {c : Closure} {n : Nat} (hc : c.session? = some n) :
    (s.runClosure c).isSending = false := by
  cases c with
  | initFailed session | noFrames session | loopEnd session =>
      exact (stopSendingThread_spec s false).1
  | snapshot promise | stopped | destroy frame | allDisabled | received frame => cases hc

/-- Any other closure leaves the session and the rest of the queue alone. -/
theorem runClosure_keeps {s : Panel} {c : Closure} (hc : c.session? = none) :
    (s.runClosure c).isSending = s.isSending ∧ (s.runClosure c).session = s.session ∧
      (s.runClosure c).uiThread = s.uiThread ∧ (s.runClosure c).uiQueue = s.uiQueue := by
  cases c with
  | initFailed session | noFrames session | loopEnd session => cases hc
  | snapshot promise | stopped | destroy frame | allDisabled | received frame =>
      exact ⟨rfl, rfl, rfl, rfl⟩

/-- An old closure in the queue ends the session once the queue is run up to it. -/
theorem stale_stop_ends (queue : List Closure) :
    ∀ {s : Panel}, s.uiThread = .idle → s.isSending = true → s.uiQueue = queue →
      (∀ c ∈ queue, c.session? ≠ some s.session) → (∃ c ∈ queue, c.session? ≠ none) →
      ∃ ks, ¬Guarded panelStep OwnStop s ks := by
  -- induction on the queue: closures that stop nothing are run, the first that stops ends it
  induction queue with
  | nil =>
      intro s _ _ _ _ hstop
      obtain ⟨c, hc, -⟩ := hstop
      cases hc
  | cons c rest ih =>
      intro s hidle hsending hqueue hold hstop
      have hstep := panelStep_runClosure hidle hqueue
      cases hc : c.session? with
      | some n =>
          refine ⟨[.ui .runClosure], fun hguard => ?_⟩
          have hown := (guarded_cons_of_step panelStep hstep _).mp hguard
          rcases hown.1 hsending _ hstep (runClosure_stops hc) with
            hl | hl | ⟨-, d, rest', hcons, hd⟩
          · cases hl
          · cases hl
          · obtain ⟨rfl, -⟩ := List.cons.inj (hqueue.symm.trans hcons)
            exact hold c List.mem_cons_self hd
      | none =>
          obtain ⟨hsame, hsession, hui, hrest⟩ :=
            runClosure_keeps (s := { s with uiQueue := rest }) hc
          have hlater : ∃ d ∈ rest, d.session? ≠ none := by
            obtain ⟨d, hd, hdstop⟩ := hstop
            rcases List.mem_cons.mp hd with rfl | hin
            · exact absurd hc hdstop
            · exact ⟨d, hin, hdstop⟩
          obtain ⟨ks, hks⟩ := ih (hui.trans hidle) (hsame.trans hsending) hrest
            (fun d hd => by rw [hsession]; exact hold d (List.mem_cons_of_mem _ hd)) hlater
          refine ⟨.ui .runClosure :: ks, fun hguard => hks ?_⟩
          exact ((guarded_cons_of_step panelStep hstep _).mp hguard).2

/-- A session that starts behind a stop closure can be ended by it. -/
theorem stale_start_ends {s : Panel} {l : PanelLabel} (h : Posted s) (hmiss : ¬StartsClean s l) :
    ∃ ks, ¬Guarded panelStep OwnStop s (l :: ks) := by
  match l with
  | .ui .toggleClick =>
      simp only [StartsClean, not_forall, exists_prop] at hmiss
      obtain ⟨hidle, hoff, htoggle, c, hc, hstop⟩ := hmiss
      have hclick : { s with sendToggle := !s.sendToggle }.onSendActiveFramesToggle
          = { s with sendToggle := !s.sendToggle }.startSendingThread := by
        simp only [Panel.onSendActiveFramesToggle, htoggle, hoff, Bool.not_false, if_true,
          Bool.false_eq_true, if_false]
      have hstep : panelStep s (.ui .toggleClick)
          = some { s with sendToggle := !s.sendToggle }.onSendActiveFramesToggle :=
        panelStep_idle hidle .toggleClick
      rw [hclick] at hstep
      obtain ⟨hon, hsession, hqueue, hui⟩ :=
        startSendingThread_spec (s := { s with sendToggle := !s.sendToggle }) hoff
      have hold : ∀ d ∈ s.uiQueue,
          d.session? ≠ some { s with sendToggle := !s.sendToggle }.startSendingThread.session := by
        intro d hd hn
        rw [hsession] at hn
        exact absurd (h d hd _ hn) (Nat.not_succ_le_self _)
      obtain ⟨ks, hks⟩ := stale_stop_ends s.uiQueue (hui.trans hidle) hon hqueue hold ⟨c, hc, hstop⟩
      exact ⟨ks, fun hguard => hks ((guarded_cons_of_step panelStep hstep _).mp hguard).2⟩
  | .ui .repeatClick | .ui .addFrame | .ui (.removeFrame _) | .ui (.updateFrame _)
  | .ui .clearFrames | .ui .closePanel | .ui .runClosure | .ui .join | .send _ =>
      exact absurd trivial hmiss

/-- **When no stop request outlives its session.**  In a run in which every session
    starts with no stop closure queued, every session ends by a user stop, the
    destruction of the panel or a closure of its own.  Conversely, after any other start
    there is a continuation in which the closure of an earlier session ends it; a run
    in which the user is quicker does not show it. -/
theorem cleanStarts_ownStop (ls : List PanelLabel) :
    (Guarded panelStep StartsClean Panel.init ls → Guarded panelStep OwnStop Panel.init ls) ∧
    ∀ s l, run panelStep Panel.init ls = some s → ¬StartsClean s l →
      ∃ ks, ¬Guarded panelStep OwnStop s (l :: ks) := by
  constructor
  · intro hclean
    exact Guarded.imp panelStep (fun _ l hfresh _ => Fresh.ownStop hfresh l) fresh_step ls
      (fun hsending => by cases hsending) hclean
  · intro s l hrun hmiss
    exact stale_start_ends (posted_run hrun) hmiss

/-- The user stops and starts again before the closure at the end of the loop is run. -/
def quickRestart : List PanelLabel :=
  [.ui .toggleClick, .ui .toggleClick, .send .testSending, .send .postLoopEnd, .ui .join,
    .ui .toggleClick]

/-- That closure ends the second session. -/
theorem quickRestart_ended :
    ¬∀ ls, Guarded panelStep OwnStop Panel.init ls := by
  intro hall
  have hguard := hall (quickRestart ++ [.ui .runClosure])
  have hown := (Guarded.after panelStep hguard rfl).1
  rcases hown rfl _ rfl rfl with hl | hl | ⟨-, c, rest, hqueue, hc⟩
  · cases hl
  · cases hl
  · -- the closure at the front was posted by session 1
    obtain ⟨rfl, -⟩ := List.cons.inj hqueue
    exact absurd hc (by decide)

/-- The same, with the queue run before the second session starts. -/
theorem ownStop_slowRestart :
    Guarded panelStep OwnStop Panel.init
      [.ui .toggleClick, .ui .toggleClick, .send .testSending, .send .postLoopEnd, .ui .join,
        .ui .runClosure, .ui .runClosure, .ui .runClosure, .ui .toggleClick, .ui .toggleClick] :=
  (cleanStarts_ownStop _).1 (by decide)

end TcpSender
