import Tcp1553.SenderProofs

/-! # Which frames are sent, and in which order

    Every round of `sendActiveFramesLoop` goes through a snapshot of the list, asks
    each frame whether it is active and sends those that are.  It stops in the
    middle when `m_isSending` is cleared.

    The log has a round for every snapshot, with the session that took it and the frames
    that were asked.  `Ordered` is the invariant: what was asked is a beginning of the
    snapshot, and the whole of it but for one round of a session.  `sends_in_order` is
    what it says of runs. -/

namespace TcpSender

open LabelledRuns

/-! ## What was asked and sent -/

/-- The frame whose toggle was read. -/
def FrameEvent.asked? : FrameEvent → Option Nat
  | .isActive frame => some frame
  | _ => none

/-- The frame that was sent. -/
def FrameEvent.sent? : FrameEvent → Option Nat
  | .sendFrame frame => some frame
  | _ => none

def asked (s : Panel) : List Nat := s.events.filterMap FrameEvent.asked?

def sent (s : Panel) : List Nat := s.events.filterMap FrameEvent.sent?

/-- The snapshots the loop was given, in order. -/
def snapshots (s : Panel) : List (List Nat) := s.fulfilled.map Prod.snd

/-- A frame that was found active and is about to be sent. -/
def pending : Option SendThread → List Nat
  | some (.sending frame _) => [frame]
  | _ => []

/-- The answer a step of the loop got from a frame. -/
def answer : PanelLabel → Option Bool
  | .send (.isActive active) => some active
  | _ => none

/-- The frames that answered yes. -/
def active (frames : List Nat) (answers : List Bool) : List Nat :=
  ((frames.zip answers).filter Prod.snd).map Prod.fst

/-- A round of a session: what was asked in it, and the snapshot it went through. -/
structure Round where
  session : Nat
  asked   : List Nat
  frames  : List Nat

abbrev Log := List Round

/-- Rounds of a session that were not finished. -/
def unfinished (n : Nat) (log : Log) : Nat :=
  log.countP fun round => decide (round.session = n ∧ round.asked ≠ round.frames)

/-- The round that a step begins: the snapshot, and the session that asked for it. -/
def begins (s : Panel) : PanelLabel → List (Nat × List Nat)
  | .ui .runClosure =>
      match s.uiQueue with
      | .snapshot _ :: _ => [(s.session, s.frameComponents)]
      | _ => []
  | _ => []

/-- The rounds that begin along a run. -/
def rounds : Panel → List PanelLabel → List (Nat × List Nat)
  | _, [] => []
  | s, l :: ls => begins s l ++ (panelStep s l).elim [] fun s' => rounds s' ls

/-- The log as such a list. -/
def Log.begun (log : Log) : List (Nat × List Nat) :=
  log.map fun round => (round.session, round.frames)

/-! ## What a step of the UI thread does to the loop -/

/-- Nothing the loop looks at changes, except that the flag may be cleared. -/
structure SameLoop (s s' : Panel) : Prop where
  thread    : s'.sendThread = s.sendThread
  fulfilled : s'.fulfilled = s.fulfilled
  session   : s'.session = s.session
  asked     : asked s' = asked s
  sent      : sent s' = sent s
  sending   : s'.isSending = true → s.isSending = true
  queued    : ∀ promise, .snapshot promise ∈ s'.uiQueue → .snapshot promise ∈ s.uiQueue

theorem SameLoop.refl (s : Panel) : SameLoop s s := ⟨rfl, rfl, rfl, rfl, rfl, id, fun _ => id⟩

/-- A step of the UI thread leaves the loop alone, starts it, joins it, or gives it a
    snapshot. -/
inductive LoopMove (s : Panel) : UiLabel → Panel → Prop where
  | keeps {l : UiLabel} {s' : Panel} : begins s (.ui l) = [] → SameLoop s s' → LoopMove s l s'
  | starts {s' : Panel} : s.uiThread = .idle → s.isSending = false →
      s'.sendThread = some .loopTest → s'.fulfilled = s.fulfilled →
      s'.session = s.session + 1 → s'.events = s.events → s'.uiQueue = s.uiQueue →
      LoopMove s .toggleClick s'
  | joins {s' : Panel} : s.sendThread = some .finished → s'.sendThread = none →
      s'.fulfilled = s.fulfilled → s'.session = s.session → s'.events = s.events →
      s'.uiQueue = s.uiQueue ++ [.stopped] → LoopMove s .join s'
  | takes {promise : Nat} {rest : List Closure} : s.uiQueue = .snapshot promise :: rest →
      LoopMove s .runClosure
        { s with uiQueue := rest, fulfilled := s.fulfilled ++ [(promise, s.frameComponents)] }

/-- Closures that give no snapshot may be added, and events of other kinds. -/
theorem sameLoop_append {s s' : Panel} (posts : List Closure) (events : List FrameEvent)
    (hthread : s'.sendThread = s.sendThread) (hfulfilled : s'.fulfilled = s.fulfilled)
    (hsession : s'.session = s.session) (hsending : s'.isSending = true → s.isSending = true)
    (hqueue : s'.uiQueue = s.uiQueue ++ posts) (hposts : ∀ promise, .snapshot promise ∉ posts)
    (hevents : s'.events = s.events ++ events) (hasked : events.filterMap FrameEvent.asked? = [])
    (hsent : events.filterMap FrameEvent.sent? = []) : SameLoop s s' := by
  refine ⟨hthread, hfulfilled, hsession, ?_, ?_, hsending, fun promise hin => ?_⟩
  · rw [asked, hevents, List.filterMap_append, hasked, List.append_nil, asked]
  · rw [sent, hevents, List.filterMap_append, hsent, List.append_nil, sent]
  · rw [hqueue] at hin
    exact (List.mem_append.mp hin).resolve_right (hposts promise)

theorem sameLoop_removeFrame (s : Panel) (frame : Nat) : SameLoop s (s.removeFrame frame) :=
  sameLoop_append [.destroy frame] [.removeFrame frame] rfl rfl rfl id rfl (by simp) rfl rfl rfl

theorem SameLoop.trans {s t u : Panel} (h : SameLoop s t) (h' : SameLoop t u) : SameLoop s u :=
  ⟨h'.thread.trans h.thread, h'.fulfilled.trans h.fulfilled, h'.session.trans h.session,
    h'.asked.trans h.asked, h'.sent.trans h.sent, fun hon => h.sending (h'.sending hon),
    fun promise hin => h.queued promise (h'.queued promise hin)⟩

theorem sameLoop_stopSendingThread (s : Panel) (closing : Bool) :
    SameLoop s (s.stopSendingThread closing) := by
  rw [Panel.stopSendingThread]
  split
  · exact ⟨rfl, rfl, rfl, rfl, rfl, (fun hon => by cases hon), fun _ => id⟩
  · exact sameLoop_append [.stopped] [] rfl rfl rfl (fun hon => by cases hon) rfl (by simp)
      (List.append_nil _).symm rfl rfl

/-- **What a handler or closure does to the loop.** -/
theorem handle_loopMove {s s' : Panel} {l : UiLabel} (hidle : s.uiThread = .idle)
    (hhandle : s.Handles l s') : LoopMove s l s' := by
  cases hhandle with
  | toggleClick =>
      rw [Panel.onSendActiveFramesToggle]
      split
      · split
        · exact .keeps rfl ⟨rfl, rfl, rfl, rfl, rfl, id, fun _ => id⟩
        · rename_i hoff
          have hoff := Bool.eq_false_iff.mpr hoff
          rw [Panel.startSendingThread, if_neg (by rw [hoff]; exact Bool.false_ne_true)]
          exact .starts hidle hoff rfl rfl rfl rfl rfl
      · have hclick : SameLoop s { s with sendToggle := !s.sendToggle } :=
          ⟨rfl, rfl, rfl, rfl, rfl, id, fun _ => id⟩
        exact .keeps rfl (hclick.trans (sameLoop_stopSendingThread _ false))
  | repeatClick | addFrame => exact .keeps rfl ⟨rfl, rfl, rfl, rfl, rfl, id, fun _ => id⟩
  | removeFrame => exact .keeps rfl (sameLoop_removeFrame s _)
  | updateFrame =>
      exact .keeps rfl
        ((sameLoop_removeFrame s _).trans ⟨rfl, rfl, rfl, rfl, rfl, id, fun _ => id⟩)
  | clearFrames =>
      exact .keeps rfl (onClearFramesClicked_induction (P := SameLoop s) (.refl s)
        fun _ frame _ t ht => ht.trans (sameLoop_removeFrame t frame))
  | closePanel => exact .keeps rfl (sameLoop_stopSendingThread s true)
  | @runClosure c rest hqueue =>
      have hpop : SameLoop s { s with uiQueue := rest } := by
        refine ⟨rfl, rfl, rfl, rfl, rfl, id, fun promise hin => ?_⟩
        rw [hqueue]
        exact List.mem_cons_of_mem c hin
      have hbegins : (∀ promise, c ≠ .snapshot promise) → begins s (.ui .runClosure) = [] := by
        intro hother
        rw [begins, hqueue]
        split
        · rename_i promise _ heq
          exact absurd (List.cons.inj heq).1 (hother promise)
        · rfl
      cases c with
      | snapshot promise => exact .takes hqueue
      | initFailed | noFrames | loopEnd =>
          exact .keeps (hbegins (by simp)) (hpop.trans (sameLoop_stopSendingThread _ false))
      | destroy frame =>
          exact .keeps (hbegins (by simp)) (hpop.trans (sameLoop_append [] [.destroy frame] rfl rfl
            rfl id (List.append_nil _).symm (by simp) rfl rfl rfl))
      | stopped | allDisabled | received =>
          exact .keeps (hbegins (by simp)) (hpop.trans ⟨rfl, rfl, rfl, rfl, rfl, id, fun _ => id⟩)

theorem uiStep_loopMove {s s' : Panel} {l : UiLabel} (hstep : s.uiStep l = some s') :
    LoopMove s l s' := by
  rcases uiStep_cases hstep with ⟨hidle, hhandle⟩ | ⟨_, -, rfl, hfinished, rfl⟩
  · exact handle_loopMove hidle hhandle
  · exact .joins hfinished rfl rfl rfl rfl rfl

/-! ## Unfinished rounds -/

theorem unfinished_append (n : Nat) (before : Log) (round : Round) :
    unfinished n (before ++ [round])
      = unfinished n before + if round.session = n ∧ round.asked ≠ round.frames then 1 else 0 := by
  rw [unfinished, List.countP_append, List.countP_singleton, unfinished]
  simp only [decide_eq_true_eq]

/-- A session that has not begun left no round. -/
theorem unfinished_of_lt {n : Nat} {log : Log} (h : ∀ round ∈ log, round.session < n) :
    unfinished n log = 0 := by
  refine List.countP_eq_zero.mpr fun round hin hleft => ?_
  exact Nat.ne_of_lt (h round hin) (of_decide_eq_true hleft).1

/-- The last round may be left when it is the first of its session. -/
theorem unfinished_le_one {before : Log} {round : Round}
    (hclean : unfinished round.session before = 0) (honce : ∀ n, unfinished n before ≤ 1)
    (n : Nat) : unfinished n (before ++ [round]) ≤ 1 := by
  rw [unfinished_append]
  by_cases hn : round.session = n
  · subst hn
    rw [hclean]
    split <;> omega
  · rw [if_neg fun hboth => hn hboth.1]
    exact honce n

/-! ## The invariant -/

/-- The loop is in the last round, with `rest` still to come, and no other round of the
    session was left. -/
def Mid (s : Panel) (log : Log) (rest : List Nat) : Prop :=
  ∃ (before : Log) (done : List Nat), log = before ++ [⟨s.session, done, done ++ rest⟩] ∧
    unfinished s.session before = 0

/-- What the log has to do with where the loop is.  A running session has left no round,
    unless it was stopped in it. -/
def Stage (s : Panel) (log : Log) : Option SendThread → Prop
  | none => True
  | some (.waiting promise) =>
      (s.fulfilled.lookup promise = none → unfinished s.session log = 0) ∧
        ∀ frames, s.fulfilled.lookup promise = some frames → ∃ before : Log,
          log = before ++ [⟨s.session, [], frames⟩] ∧ unfinished s.session before = 0
  | some (.forFrames rest _) | some (.sending _ rest) => Mid s log rest
  | some (.checking frame rest _) => Mid s log (frame :: rest)
  | some (.afterFor _) | some .leaving | some .finished =>
      unfinished s.session log = 0 ∨ s.isSending = false
  | _ => unfinished s.session log = 0

/-- What was asked is, round by round, a beginning of the snapshot, and a session leaves
    one round at most. -/
structure Ordered (s : Panel) (log : Log) : Prop where
  sound     : Sound s
  queued    : ∀ promise, .snapshot promise ∈ s.uiQueue → s.sendThread = some (.waiting promise)
  snapshots : snapshots s = log.map Round.frames
  prefixes  : ∀ round ∈ log, round.asked <+: round.frames
  asked     : asked s = (log.map Round.asked).flatten
  sessions  : ∀ round ∈ log, round.session ≤ s.session
  once      : ∀ n, unfinished n log ≤ 1
  stage     : Stage s log s.sendThread

/-- The stage does not depend on the rest of the panel. -/
theorem Stage.of_same {s s' : Panel} {log : Log} {thread : Option SendThread}
    (h : Stage s log thread) (hfulfilled : s'.fulfilled = s.fulfilled)
    (hsession : s'.session = s.session) (hsending : s'.isSending = true → s.isSending = true) :
    Stage s' log thread := by
  have hoff : s.isSending = false → s'.isSending = false := by
    intro hoff
    refine Bool.eq_false_iff.mpr fun hon => ?_
    exact Bool.false_ne_true (hoff.symm.trans (hsending hon))
  cases thread with
  | none => trivial
  | some t =>
      cases t with
      | loopTest | initBc | initFailed | post | noFrames | noneSent | repeatTest =>
          show unfinished s'.session log = 0
          rw [hsession]
          exact h
      | waiting promise =>
          rw [Stage, hfulfilled, hsession]
          exact h
      | forFrames | checking | sending =>
          obtain ⟨before, done, hlog, hclean⟩ := h
          exact ⟨before, done, hsession ▸ hlog, hsession ▸ hclean⟩
      | afterFor | leaving | finished =>
          show unfinished s'.session log = 0 ∨ s'.isSending = false
          rw [hsession]
          exact h.imp_right hoff

/-- A round with nothing left to ask is finished. -/
theorem Mid.finished {s : Panel} {log : Log} (h : Mid s log []) : unfinished s.session log = 0 := by
  obtain ⟨before, done, rfl, hclean⟩ := h
  rw [unfinished_append, hclean, if_neg fun hleft => hleft.2 (List.append_nil done).symm]

/-! ## Steps -/

theorem ordered_init : Ordered Panel.init [] where
  sound     := sound_init
  queued    := fun _ hin => by cases hin
  snapshots := rfl
  prefixes  := fun _ hin => by cases hin
  asked     := rfl
  sessions  := fun _ hin => by cases hin
  once      := fun _ => Nat.zero_le 1
  stage     := trivial

/-- A snapshot is queued only while the loop waits for it. -/
theorem Ordered.none_queued {s : Panel} {log : Log} (h : Ordered s log)
    (hthread : ∀ promise, s.sendThread ≠ some (.waiting promise)) (promise : Nat) :
    .snapshot promise ∉ s.uiQueue :=
  fun hin => hthread promise (h.queued promise hin)

/-- The log stays as it is where nothing is asked and no snapshot is given. -/
theorem Ordered.keep {s s' : Panel} {log : Log} (h : Ordered s log) (hsound : Sound s')
    (hfulfilled : s'.fulfilled = s.fulfilled) (hasked : TcpSender.asked s' = TcpSender.asked s)
    (hsession : s.session ≤ s'.session)
    (hqueued : ∀ promise, .snapshot promise ∈ s'.uiQueue →
      s'.sendThread = some (.waiting promise))
    (hstage : Stage s' log s'.sendThread) : Ordered s' log where
  sound     := hsound
  queued    := hqueued
  snapshots := by
    rw [TcpSender.snapshots, hfulfilled]
    exact h.snapshots
  prefixes  := h.prefixes
  asked     := hasked.trans h.asked
  sessions  := fun round hin => Nat.le_trans (h.sessions round hin) hsession
  once      := h.once
  stage     := hstage

/-- The snapshot the loop waits for is given to it: a round begins. -/
theorem Ordered.take {s : Panel} {log : Log} (h : Ordered s log) {promise : Nat}
    {rest : List Closure} (hqueue : s.uiQueue = .snapshot promise :: rest)
    (hsound : Sound { s with
      uiQueue := rest
      fulfilled := s.fulfilled ++ [(promise, s.frameComponents)] }) :
    Ordered { s with uiQueue := rest, fulfilled := s.fulfilled ++ [(promise, s.frameComponents)] }
      (log ++ [⟨s.session, [], s.frameComponents⟩]) := by
  have hfirst : .snapshot promise ∈ s.uiQueue := by
    rw [hqueue]
    exact List.mem_cons_self
  have hwaiting := h.queued promise hfirst
  have hlookup := h.sound.lookup_queued hfirst
  have hclean : unfinished s.session log = 0 := by
    have hstage := h.stage
    rw [hwaiting] at hstage
    exact hstage.1 hlookup
  refine ⟨hsound, fun other hin => ?_, ?_, ?_, ?_, ?_, unfinished_le_one hclean h.once, ?_⟩
  · -- the loop waits for one promise, and that is the one fulfilled
    have hrest : .snapshot other ∈ s.uiQueue := by
      rw [hqueue]
      exact List.mem_cons_of_mem _ hin
    obtain rfl : promise = other := by
      have hother := hwaiting.symm.trans (h.queued other hrest)
      cases hother
      rfl
    have hnodup := h.sound.promises
    rw [promisesOf, hqueue] at hnodup
    have hagain : promise ∈ rest.filterMap Closure.promise? ++ s.fulfilled.map Prod.fst :=
      List.mem_append_left _ (List.mem_filterMap.mpr ⟨_, hin, rfl⟩)
    exact absurd hagain (List.nodup_cons.mp hnodup).1
  · show (s.fulfilled ++ [(promise, s.frameComponents)]).map Prod.snd = _
    rw [List.map_append, List.map_append, ← h.snapshots]
    rfl
  · intro round hin
    rcases List.mem_append.mp hin with hold | hnew
    · exact h.prefixes round hold
    · rw [List.mem_singleton.mp hnew]
      exact List.nil_prefix
  · show TcpSender.asked s = _
    rw [h.asked, List.map_append, List.flatten_append]
    exact (List.append_nil _).symm
  · intro round hin
    rcases List.mem_append.mp hin with hold | hnew
    · exact h.sessions round hold
    · exact Nat.le_of_eq (congrArg Round.session (List.mem_singleton.mp hnew))
  · show Stage _ _ s.sendThread
    rw [hwaiting]
    have hfound : (s.fulfilled ++ [(promise, s.frameComponents)]).lookup promise
        = some s.frameComponents := by
      rw [List.lookup_append, hlookup, Option.none_or, List.lookup_cons, beq_self_eq_true]
    refine ⟨fun hframes => ?_, fun frames hframes => ?_⟩
    · cases hfound.symm.trans hframes
    · obtain rfl := Option.some.inj (hfound.symm.trans hframes)
      exact ⟨log, rfl, hclean⟩

/-- **A step of the UI thread** keeps the log, or opens a round in it. -/
theorem ordered_ui {s s' : Panel} {log : Log} {l : UiLabel} (h : Ordered s log)
    (hstep : s.uiStep l = some s') :
    ∃ log', Ordered s' log' ∧ log'.begun = log.begun ++ begins s (.ui l) := by
  have hsound' : Sound s' := sound_step s (.ui l) s' h.sound hstep
  cases uiStep_loopMove hstep with
  | keeps hnone hsame =>
      refine ⟨log, h.keep hsound' hsame.fulfilled hsame.asked (Nat.le_of_eq hsame.session.symm)
        (fun promise hin => ?_) ?_, ?_⟩
      · rw [hsame.thread]
        exact h.queued promise (hsame.queued promise hin)
      · rw [hsame.thread]
        exact h.stage.of_same hsame.fulfilled hsame.session hsame.sending
      · rw [hnone, List.append_nil]
  | starts hidle hoff hthread hfulfilled hsession hevents hqueue =>
      have hnone := h.sound.settled hidle hoff
      refine ⟨log, h.keep hsound' hfulfilled (by rw [asked, hevents, asked])
        (hsession ▸ Nat.le_succ s.session) ?_ ?_, (List.append_nil _).symm⟩
      · intro promise hin
        refine absurd (hqueue ▸ hin) (h.none_queued (fun other hwaits => ?_) promise)
        cases hnone.symm.trans hwaits
      · -- the session is a new one
        rw [hthread]
        show unfinished s'.session log = 0
        rw [hsession]
        exact unfinished_of_lt fun round hin => Nat.lt_succ_of_le (h.sessions round hin)
  | joins hfinished hnone hfulfilled hsession hevents hqueue =>
      refine ⟨log, h.keep hsound' hfulfilled (by rw [asked, hevents, asked])
        (Nat.le_of_eq hsession.symm) ?_ ?_, (List.append_nil _).symm⟩
      · intro promise hin
        rw [hqueue] at hin
        have hold : .snapshot promise ∈ s.uiQueue :=
          (List.mem_append.mp hin).resolve_right (by simp)
        refine absurd hold (h.none_queued (fun other hwaits => ?_) promise)
        cases hfinished.symm.trans hwaits
      · rw [hnone]
        trivial
  | takes hqueue =>
      refine ⟨_, h.take hqueue hsound', ?_⟩
      rw [begins, hqueue]
      exact List.map_append

/-- A snapshot that is queued is the one the loop waits for, before and after its step. -/
theorem queued_apply {s : Panel} {log : Log} {thread : SendThread} {l : SendLabel} {m : SendMove}
    (h : Ordered s log) (hthread : s.sendThread = some thread) (hsends : s.Sends thread l m)
    {promise : Nat} (hin : .snapshot promise ∈ (s.apply m).uiQueue) :
    m.thread = .waiting promise := by
  rcases List.mem_append.mp hin with hold | hnew
  · have hwaiting := h.queued promise hold
    have hlookup := h.sound.lookup_queued hold
    rw [hthread] at hwaiting
    obtain rfl := Option.some.inj hwaiting
    -- the loop cannot go on before the promise is fulfilled
    cases hsends with
    | gotNone hfound | gotFrames hfound =>
        rw [hlookup] at hfound
        cases hfound
  · cases hsends with
    | snapshot =>
        rw [List.mem_singleton] at hnew
        cases hnew
        rfl
    | replied => simp at hnew
    | _ => simp at hnew

/-- A step of the loop within a stage: nothing is asked. -/
theorem ordered_apply {s : Panel} {log : Log} {thread : SendThread} {l : SendLabel} {m : SendMove}
    (h : Ordered s log) (hthread : s.sendThread = some thread) (hsends : s.Sends thread l m)
    (hsound : Sound (s.apply m)) (hnone : m.events.filterMap FrameEvent.asked? = [])
    (hstage : Stage (s.apply m) log (some m.thread)) : Ordered (s.apply m) log := by
  refine h.keep hsound rfl ?_ (Nat.le_refl _) (fun promise hin => ?_) hstage
  · show (s.events ++ m.events).filterMap FrameEvent.asked? = _
    rw [List.filterMap_append, hnone, List.append_nil, asked]
  · exact congrArg some (queued_apply h hthread hsends hin)

/-- A step of the loop that asks the next frame of the round. -/
theorem ordered_asks {s : Panel} {log : Log} {frame : Nat} {rest : List Nat} {sentAny : Bool}
    {m : SendMove} (h : Ordered s log)
    (hthread : s.sendThread = some (.checking frame rest sentAny))
    (hsound : Sound (s.apply m)) (hasks : m.events = [.isActive frame]) (hposts : m.posts = [])
    (hnext : m.thread = .sending frame rest ∨ m.thread = .forFrames rest sentAny) :
    ∃ log', Ordered (s.apply m) log' ∧ log'.begun = log.begun := by
  have hmid := h.stage
  rw [hthread] at hmid
  obtain ⟨before, done, rfl, hclean⟩ := hmid
  have hmid' : Mid (s.apply m)
      (before ++ [⟨s.session, done ++ [frame], done ++ frame :: rest⟩]) rest :=
    ⟨before, done ++ [frame], by rw [List.append_assoc, List.singleton_append]; rfl, hclean⟩
  have honce : ∀ n, unfinished n before ≤ 1 := by
    intro n
    have hall := h.once n
    rw [unfinished_append] at hall
    exact Nat.le_trans (Nat.le_add_right _ _) hall
  refine ⟨before ++ [⟨s.session, done ++ [frame], done ++ frame :: rest⟩],
    ⟨hsound, fun promise hin => ?_, ?_, ?_, ?_, ?_, unfinished_le_one hclean honce, ?_⟩, ?_⟩
  · have happlied : (s.apply m).uiQueue = s.uiQueue := by
      show s.uiQueue ++ m.posts = _
      rw [hposts, List.append_nil]
    refine absurd (happlied ▸ hin) (h.none_queued (fun other hwaits => ?_) promise)
    cases hthread.symm.trans hwaits
  · show snapshots s = _
    rw [h.snapshots, List.map_append, List.map_append]
    rfl
  · intro round hin
    rcases List.mem_append.mp hin with hold | hnew
    · exact h.prefixes round (List.mem_append_left _ hold)
    · rw [List.mem_singleton.mp hnew]
      exact ⟨rest, by rw [List.append_assoc, List.singleton_append]⟩
  · show (s.events ++ m.events).filterMap FrameEvent.asked? = _
    have hasked := h.asked
    rw [asked] at hasked
    rw [List.filterMap_append, hasked, hasks]
    simp [FrameEvent.asked?]
  · intro round hin
    rcases List.mem_append.mp hin with hold | hnew
    · exact h.sessions round (List.mem_append_left _ hold)
    · exact Nat.le_of_eq (congrArg Round.session (List.mem_singleton.mp hnew))
  · show Stage _ _ (some m.thread)
    rcases hnext with hnext | hnext
    · rw [hnext]
      exact hmid'
    · rw [hnext]
      exact hmid'
  · rw [Log.begun, Log.begun, List.map_append, List.map_append]
    rfl

/-- Where a step of the loop leads, when it asks nothing. -/
theorem stage_apply {s : Panel} {log : Log} {thread : SendThread} {l : SendLabel} {m : SendMove}
    (h : Ordered s log) (hthread : s.sendThread = some thread) (hsends : s.Sends thread l m)
    (hnone : m.events.filterMap FrameEvent.asked? = []) :
    Stage (s.apply m) log (some m.thread) := by
  have hstage := h.stage
  rw [hthread] at hstage
  cases hsends with
  | goesOn | initialised | notInitialised | allDisabled | repeats => exact hstage
  | loopEnds | initFailed | noFrames | repeatEnds => exact Or.inl hstage
  | snapshot =>
      refine ⟨fun _ => hstage, fun frames hlookup => ?_⟩
      have hlookup : s.fulfilled.lookup s.nextPromise = some frames := hlookup
      rw [h.sound.lookup_nextPromise] at hlookup
      cases hlookup
  | gotNone hlookup =>
      obtain ⟨before, rfl, hclean⟩ := hstage.2 [] hlookup
      show unfinished s.session _ = 0
      rw [unfinished_append, hclean, if_neg fun hleft => hleft.2 rfl]
  | gotFrames hlookup =>
      obtain ⟨before, hlog, hclean⟩ := hstage.2 _ hlookup
      exact ⟨before, [], hlog, hclean⟩
  | forEnds => exact Or.inl (Mid.finished hstage)
  | nextFrame => exact hstage
  | forBreaks hoff => exact Or.inr hoff
  | active | inactive => cases hnone
  | replied | notReplied => exact hstage
  | broken | leaves => exact hstage
  | someSent hon | noneSent hon =>
      -- a loop that was stopped does not get here
      exact hstage.resolve_right fun hoff => Bool.false_ne_true (hoff.symm.trans hon)

/-- **A step of the loop** keeps the log, or asks one frame more. -/
theorem ordered_send {s : Panel} {log : Log} {l : SendLabel} {m : SendMove} (h : Ordered s log)
    (hmove : s.sendMove s.sendThread l = some m) :
    ∃ log', Ordered (s.apply m) log' ∧ log'.begun = log.begun := by
  have hsound := sound_apply h.sound hmove
  obtain ⟨thread, hthread, hsends⟩ := sendMove_cases hmove
  have hkeeps : m.events.filterMap FrameEvent.asked? = [] →
      ∃ log', Ordered (s.apply m) log' ∧ log'.begun = log.begun :=
    fun hnone => ⟨log, ordered_apply h hthread hsends hsound hnone
      (stage_apply h hthread hsends hnone), rfl⟩
  cases hsends with
  | active => exact ordered_asks h hthread hsound rfl rfl (Or.inl rfl)
  | inactive => exact ordered_asks h hthread hsound rfl rfl (Or.inr rfl)
  | _ => exact hkeeps rfl

/-- **Step lemma.** -/
theorem ordered_step {s s' : Panel} {l : PanelLabel} {log : Log} (h : Ordered s log)
    (hstep : panelStep s l = some s') :
    ∃ log', Ordered s' log' ∧ log'.begun = log.begun ++ begins s l := by
  cases l with
  | ui l => exact ordered_ui h hstep
  | send l =>
      obtain ⟨m, hmove, rfl⟩ := Option.map_eq_some_iff.mp hstep
      obtain ⟨log', hlog', hbegun⟩ := ordered_send h hmove
      exact ⟨log', hlog', hbegun.trans (List.append_nil _).symm⟩

/-- **Run lemma**: the log has the rounds that the run begins. -/
theorem ordered_run {ls : List PanelLabel} :
    ∀ {s t : Panel} {log : Log}, Ordered s log → run panelStep s ls = some t →
      ∃ log', Ordered t log' ∧ log'.begun = log.begun ++ rounds s ls := by
  induction ls with
  | nil =>
      intro s t log h hrun
      cases hrun
      exact ⟨log, h, (List.append_nil _).symm⟩
  | cons l ls ih =>
      intro s t log h hrun
      obtain ⟨s', hstep, hrest⟩ := run_cons_inv panelStep hrun
      obtain ⟨log', hlog', hbegun⟩ := ordered_step h hstep
      obtain ⟨log'', hlog'', hbegun'⟩ := ih hlog' hrest
      refine ⟨log'', hlog'', ?_⟩
      rw [hbegun', hbegun, rounds, hstep, List.append_assoc]
      rfl

/-! ## The answers of the frames -/

/-- What was sent, and the frame that is about to be, are the frames that answered
    yes. -/
structure Answered (s : Panel) (answers : List Bool) : Prop where
  length : (asked s).length = answers.length
  sent   : sent s ++ pending s.sendThread = active (asked s) answers

/-- One more answer. -/
theorem active_append {frames : List Nat} {answers : List Bool}
    (hlen : frames.length = answers.length) (frame : Nat) (b : Bool) :
    active (frames ++ [frame]) (answers ++ [b])
      = active frames answers ++ if b then [frame] else [] := by
  rw [active, List.zip_append hlen, List.filter_append, List.map_append, active]
  cases b <;> rfl

/-- **Step lemma** of the answers. -/
theorem answered_step {s s' : Panel} {l : PanelLabel} {answers : List Bool} (hsound : Sound s)
    (h : Answered s answers) (hstep : panelStep s l = some s') :
    Answered s' (answers ++ (answer l).toList) := by
  cases l with
  | ui l =>
      show Answered s' (answers ++ [])
      rw [List.append_nil]
      cases uiStep_loopMove hstep with
      | keeps _ hsame =>
          exact ⟨hsame.asked ▸ h.length, by rw [hsame.sent, hsame.thread, hsame.asked, h.sent]⟩
      | starts hidle hoff hthread _ _ hevents =>
          have hsent := h.sent
          rw [hsound.settled hidle hoff] at hsent
          refine ⟨?_, ?_⟩
          · rw [asked, hevents]
            exact h.length
          · rw [sent, asked, hevents, hthread]
            exact hsent
      | joins hfinished hnone _ _ hevents =>
          have hsent := h.sent
          rw [hfinished] at hsent
          refine ⟨?_, ?_⟩
          · rw [asked, hevents]
            exact h.length
          · rw [sent, asked, hevents, hnone]
            exact hsent
      | takes => exact ⟨h.length, h.sent⟩
  | send l =>
      obtain ⟨m, hmove, rfl⟩ := Option.map_eq_some_iff.mp hstep
      obtain ⟨thread, hthread, hsends⟩ := sendMove_cases hmove
      have hsent := h.sent
      rw [hthread] at hsent
      have hasked : asked (s.apply m) = asked s ++ m.events.filterMap FrameEvent.asked? :=
        List.filterMap_append
      have hsent' : sent (s.apply m) = sent s ++ m.events.filterMap FrameEvent.sent? :=
        List.filterMap_append
      refine ⟨?_, ?_⟩
      · rw [hasked, List.length_append, List.length_append, h.length]
        cases hsends <;> rfl
      · rw [hasked, hsent']
        cases hsends with
        | @active frame =>
            show (sent s ++ []) ++ [frame] = active (asked s ++ [frame]) (answers ++ [true])
            rw [active_append h.length, ← hsent]
            rfl
        | @inactive frame =>
            show (sent s ++ []) ++ [] = active (asked s ++ [frame]) (answers ++ [false])
            rw [active_append h.length, ← hsent]
            rfl
        | @replied frame | @notReplied frame =>
            show (sent s ++ [frame]) ++ [] = active (asked s ++ []) (answers ++ [])
            rw [List.append_nil, List.append_nil, List.append_nil]
            exact hsent
        | _ =>
            -- nothing is asked or sent, and no frame is between the two
            show (sent s ++ []) ++ [] = active (asked s ++ []) (answers ++ [])
            simp only [List.append_nil]
            exact (List.append_nil _).symm.trans hsent

/-! ## Runs -/

/-- What was asked and sent in a run, by the rounds of the log and the answers. -/
structure InOrder (s : Panel) (ls : List PanelLabel) (log : Log) : Prop where
  rounds   : log.begun = rounds Panel.init ls
  prefixes : ∀ round ∈ log, round.asked <+: round.frames
  asks     : asked s = (log.map Round.asked).flatten
  once     : ∀ n, unfinished n log ≤ 1
  sends    : sent s ++ pending s.sendThread = active (asked s) (ls.filterMap answer)

/-- Answers are collected one by one. -/
def collect (answers : List Bool) (b : Bool) : Option (List Bool) := some (answers ++ [b])

theorem run_collect (collected answers : List Bool) :
    run collect collected answers = some (collected ++ answers) := by
  induction answers generalizing collected with
  | nil => rw [List.append_nil]; rfl
  | cons b answers ih =>
      show run collect (collected ++ [b]) answers = _
      rw [ih, List.append_assoc, List.singleton_append]

/-- **Which frames are sent, and in which order.**  In every run the loop asks, snapshot
    by snapshot, the frames from the first on; it leaves a snapshot in the middle at
    most once in each session; and it sends the frames that answered yes, in the order
    in which they were asked. -/
theorem sends_in_order {ls : List PanelLabel} {s : Panel}
    (hrun : run panelStep Panel.init ls = some s) : ∃ log, InOrder s ls log := by
  obtain ⟨log, hlog, hbegun⟩ := ordered_run ordered_init hrun
  have hstart : Sound Panel.init ∧ Answered Panel.init [] := ⟨sound_init, rfl, rfl⟩
  obtain ⟨answers, hcollected, -, hanswered⟩ := run_projects panelStep
    (R := fun s answers => Sound s ∧ Answered s answers)
    (fun s l s' answers h hstep => ⟨_, run_collect answers _, sound_step s l s' h.1 hstep,
      answered_step h.1 h.2 hstep⟩) ls hstart hrun
  rw [run_collect, Option.some_inj, List.nil_append] at hcollected
  exact ⟨log, hbegun, hlog.prefixes, hlog.asked, hlog.once, hcollected ▸ hanswered.sent⟩

/-- The first frame is sent, the second is not active, then the session is stopped, and
    the next one is stopped in the middle, too. -/
def stoppedTwice : List PanelLabel :=
  [.ui .toggleClick, .send .testSending, .send (.initBc true), .send .postSnapshot,
    .ui .runClosure, .send .getFrames, .send .nextFrame, .send (.isActive true),
    .send (.sendFrame false), .send .nextFrame, .send (.isActive false), .ui .toggleClick,
    .send .nextFrame, .send .testAfterFor, .send .postLoopEnd, .ui .join, .ui .runClosure,
    .ui .runClosure, .ui .runClosure, .ui .toggleClick, .send .testSending,
    .send (.initBc true), .send .postSnapshot, .ui .runClosure, .send .getFrames,
    .send .nextFrame, .send (.isActive true)]

theorem sends_in_order_stopped :
    ∃ s log, run panelStep Panel.init stoppedTwice = some s ∧ InOrder s stoppedTwice log := by
  obtain ⟨s, hs⟩ : ∃ s, run panelStep Panel.init stoppedTwice = some s := ⟨_, rfl⟩
  obtain ⟨log, hlog⟩ := sends_in_order hs
  exact ⟨s, log, hs, hlog⟩

end TcpSender
