import Tcp1553.ClientFdProofs
import Tcp1553.ControllerProofs

/-! # What is left after a shutdown

    `shutdown` clears `m_isInitialized`, closes the listening socket, takes the
    connection out of `m_clientFd` and joins the accept thread.  `acceptLoop` tests
    `m_isInitialized` after `accept` and closes a connection that came too late, but
    between that test and its exchange the whole of `shutdown` up to the join fits:
    the connection is then installed after the exchange that was to be the last.

    `DropsAll` is what a caller of `shutdown` may rely on.  It holds in the runs
    whose steps meet `KeepsTrack`; any other step can be continued to a shutdown that
    leaves a connection open (`keepsTrack_dropsAll`). -/

namespace TcpClientFd

open LabelledRuns TcpController

/-! ## The state a shutdown leaves -/

/-- The value of `m_clientFd`. -/
def descriptor : Option Nat → Int
  | none => -1
  | some fd => fd

/-- `shutdown` has returned and no send is in progress. -/
def ShutDown (s : Server) : Prop := s.shutdown = .returned ∧ s.sender = .idle

/-- No connection is left: none is installed, each has been closed once, and a later
    send returns -1 and writes nothing. -/
structure NoneSurvives (s : Server) : Prop where
  clientFd : s.clientFd = none
  closed   : ∀ fd < s.opened, s.closed.count fd = 1
  later    : ∀ ls t, run serverStep s ls = some t → t.sender = .idle ∧
    ∀ frame bytesSent,
      beginSend frame (descriptor t.clientFd) bytesSent = ⟨none, false, .returned (-1)⟩

/-- What a caller of `shutdown` may rely on. -/
def DropsAll (s : Server) : Prop := ShutDown s → NoneSurvives s

/-- `shutdown` has made its exchange. -/
def Shutdown.hasTaken : Shutdown → Bool
  | .exchanged _ | .joining | .returned => true
  | .notCalled | .flagged | .serverClosed => false

/-- The accept thread installs nothing after the exchange of `shutdown`. -/
def InstallsInTime (s : Server) : ServerLabel → Prop
  | .acceptExchange => s.shutdown.hasTaken = false
  | _ => True

instance (s : Server) : (l : ServerLabel) → Decidable (InstallsInTime s l)
  | .acceptExchange => inferInstanceAs (Decidable (s.shutdown.hasTaken = false))
  | .acceptTest | .acceptReturn _ | .acceptCheck | .acceptClose | .sendLoad | .sendNoFrame
  | .sendWrite _ | .sendExchange | .sendClose | .shutdownFlag | .shutdownServer
  | .shutdownExchange | .shutdownClose | .shutdownJoin => isTrue trivial

/-- No exchange misplaces a connection. -/
def KeepsTrack (s : Server) (l : ServerLabel) : Prop := FindsOwn s l ∧ InstallsInTime s l

instance (s : Server) (l : ServerLabel) : Decidable (KeepsTrack s l) :=
  inferInstanceAs (Decidable (_ ∧ _))

/-! ## The phases of a shutdown -/

/-- How far `shutdown` has come shows in the flag and in the accept thread. -/
structure Phased (s : Server) : Prop where
  flagged : s.shutdown ≠ .notCalled → s.isInitialized = false
  joined  : s.shutdown = .returned → s.acceptThread = .finished

theorem phased_init : Phased Server.init where
  flagged := fun h => absurd rfl h
  joined  := fun h => by cases h

/-- Steps of the accept thread, which has not finished, and of a send, which leaves
    it alone. -/
theorem Phased.of_same {s s' : Server} (h : Phased s) (hinit : s'.isInitialized = s.isInitialized)
    (hshutdown : s'.shutdown = s.shutdown)
    (hthread : s'.acceptThread = s.acceptThread ∨ s.acceptThread ≠ .finished) : Phased s' := by
  refine ⟨fun hcalled => ?_, fun hreturned => ?_⟩
  · rw [hinit]
    exact h.flagged (hshutdown ▸ hcalled)
  · have hfinished := h.joined (hshutdown.symm.trans hreturned)
    exact hthread.elim (fun hsame => hsame.trans hfinished) (absurd hfinished)

theorem phased_step (s : Server) (l : ServerLabel) (s' : Server) (h : Phased s)
    (hstep : serverStep s l = some s') : Phased s' := by
  cases serverStep_moves hstep with
  | goesOn hthread | loopEnds hthread | connected hthread | acceptFailed hthread
  | noSocket hthread | checked hthread | refused hthread | installed hthread | replaced hthread =>
      exact h.of_same rfl rfl (Or.inr fun hfin => by cases hthread.symm.trans hfin)
  | noClient => exact h
  | loaded | noFrame | written | writeFailed | dropped | sendClosed =>
      exact h.of_same rfl rfl (Or.inl rfl)
  | flagged => exact ⟨fun _ => rfl, fun hret => by cases hret⟩
  | serverClosed hshutdown | taken hshutdown | shutdownClosed hshutdown =>
      refine ⟨fun _ => h.flagged ?_, fun hret => by cases hret⟩
      rw [hshutdown]
      exact fun hnot => by cases hnot
  | joined hshutdown hfinished =>
      refine ⟨fun _ => h.flagged ?_, fun _ => hfinished⟩
      rw [hshutdown]
      exact fun hnot => by cases hnot

/-! ## Shutdowns that leave nothing -/

/-- Nothing is installed once `shutdown` has made its exchange. -/
def Retired (s : Server) : Prop := s.shutdown.hasTaken = true → s.clientFd = none

theorem retired_step (s : Server) (l : ServerLabel) (s' : Server) (h : Retired s)
    (hok : InstallsInTime s l) (hstep : serverStep s l = some s') : Retired s' := by
  cases serverStep_moves hstep with
  | installed hthread =>
      intro htaken
      cases hok.symm.trans htaken
  | dropped | taken => exact fun _ => rfl
  | goesOn | loopEnds | connected | acceptFailed | noSocket | checked | refused | replaced
  | noClient | loaded | noFrame | written | writeFailed | sendClosed => exact h
  | flagged | serverClosed => exact fun htaken => by cases htaken
  | shutdownClosed hshutdown | joined hshutdown =>
      refine fun _ => h ?_
      rw [hshutdown]
      rfl

/-- At rest with nothing installed, the controller is at its end. -/
structure Ended (s : Server) : Prop where
  shutDown : ShutDown s
  thread   : s.acceptThread = .finished
  clientFd : s.clientFd = none

/-- **Nothing happens after the end.** -/
theorem ended_step (s : Server) (l : ServerLabel) (s' : Server) (h : Ended s)
    (hstep : serverStep s l = some s') : Ended s' := by
  obtain ⟨⟨hreturned, hidle⟩, hfinished, hnone⟩ := h
  cases serverStep_moves hstep with
  | noClient => exact ⟨⟨hreturned, hidle⟩, hfinished, hnone⟩
  | goesOn hthread | loopEnds hthread | connected hthread | acceptFailed hthread
  | noSocket hthread | checked hthread | refused hthread | installed hthread | replaced hthread =>
      cases hfinished.symm.trans hthread
  | loaded _ hcur => cases hnone.symm.trans hcur
  | noFrame hsender | written hsender | writeFailed hsender | dropped hsender
  | sendClosed hsender =>
      cases hidle.symm.trans hsender
  | flagged hshutdown | serverClosed hshutdown | taken hshutdown | shutdownClosed hshutdown
  | joined hshutdown =>
      cases hreturned.symm.trans hshutdown

/-- A controller at its end owes each descriptor one close. -/
theorem Ended.noneSurvives {s : Server} (h : Ended s) (hc : Conserved s) : NoneSurvives s where
  clientFd := h.clientFd
  closed   := by
    intro fd hfd
    have hbal := hc fd
    rw [balance, h.clientFd, h.thread, h.shutDown.1, h.shutDown.2, issued, if_pos hfd] at hbal
    exact hbal
  later    := by
    intro ls t hrun
    have ht : Ended t := run_invariant serverStep ended_step ls h hrun
    refine ⟨ht.shutDown.2, fun frame bytesSent => ?_⟩
    rw [ht.clientFd]
    exact if_pos (show (-1 : Int) < 0 by decide)

/-- Where every connection is accounted for and none came late, none survives. -/
theorem dropsAll_of_retired {s : Server} (hp : Phased s) (hr : Retired s) (hc : Conserved s) :
    DropsAll s := by
  intro hdown
  have hnone : s.clientFd = none := hr (by rw [hdown.1]; rfl)
  exact Ended.noneSurvives ⟨hdown, hp.joined hdown.1, hnone⟩ hc

/-! ## Shutdowns that leave something -/

/-- The descriptor a send writes to or has failed to write to. -/
def Sender.uses : Sender → Option Nat
  | .loaded currentClientFd | .failed currentClientFd => some currentClientFd
  | .idle | .exchanged _ _ => none

/-- A send uses an installed descriptor. -/
def UsesInstalled (s : Server) : Prop := ∀ fd, s.sender.uses = some fd → fd ∈ s.installed

theorem usesInstalled_init : UsesInstalled Server.init := fun _ h => by cases h

theorem usesInstalled_step (s : Server) (l : ServerLabel) (s' : Server)
    (h : Sound s ∧ UsesInstalled s) (hstep : serverStep s l = some s') : UsesInstalled s' := by
  cases serverStep_moves hstep with
  | @loaded own _ hcur =>
      intro fd huses
      obtain rfl : own = fd := Option.some.inj huses
      exact h.1.current own hcur
  | writeFailed hsender =>
      intro fd huses
      exact h.2 fd (by rw [hsender]; exact huses)
  | noFrame | written | dropped | sendClosed => exact fun fd huses => by cases huses
  | installed => exact fun fd huses => List.mem_append_left _ (h.2 fd huses)
  | goesOn | loopEnds | connected | acceptFailed | noSocket | checked | refused | replaced
  | noClient | flagged | serverClosed | taken | shutdownClosed | joined => exact h.2

/-- A connection that `shutdown` will not take and no send in progress will drop. -/
def Late (s : Server) : Prop :=
  s.shutdown.hasTaken = true ∧ ∃ fd, s.clientFd = some fd ∧ s.sender.uses ≠ some fd

/-- A connection is lost to `shutdown`. -/
def Survives (s : Server) : Prop := Orphaned s ∨ Late s

/-- What every run keeps. -/
structure Tracked (s : Server) : Prop where
  sound   : Sound s
  bounded : Bounded s
  uses    : UsesInstalled s
  phased  : Phased s

theorem tracked_init : Tracked Server.init where
  sound   := sound_init
  bounded := fun fd => Nat.le_of_eq (conserved_init fd)
  uses    := usesInstalled_init
  phased  := phased_init

theorem tracked_step (s : Server) (l : ServerLabel) (s' : Server) (h : Tracked s)
    (hstep : serverStep s l = some s') : Tracked s' where
  sound   := sound_step s l s' h.sound hstep
  bounded := bounded_step s l s' h.bounded hstep
  uses    := usesInstalled_step s l s' ⟨h.sound, h.uses⟩ hstep
  phased  := phased_step s l s' h.phased hstep

/-- A connection installed now is not the one a send uses. -/
theorem Tracked.fresh {s : Server} (h : Tracked s) {fd : Nat}
    (hthread : s.acceptThread = .checked fd) : s.sender.uses ≠ some fd :=
  fun huses => (h.sound.checked fd (Or.inr hthread)).1 (h.uses fd huses)

/-- A step that misses the guard leaves a connection behind. -/
theorem survives_of_miss {s s' : Server} {l : ServerLabel} (h : Tracked s)
    (hmiss : ¬KeepsTrack s l) (hstep : serverStep s l = some s') : Survives s' := by
  by_cases hfinds : FindsOwn s l
  · have hlate : ¬InstallsInTime s l := fun hin => hmiss ⟨hfinds, hin⟩
    cases serverStep_moves hstep with
    | @installed fd hthread =>
        have htaken : s.shutdown.hasTaken = true := by simpa [InstallsInTime] using hlate
        exact Or.inr ⟨htaken, fd, rfl, h.fresh hthread⟩
    | _ => exact absurd trivial hlate
  · exact Or.inl (orphaned_of_exchange h.sound h.bounded hstep hfinds)

/-- As long as no send loads it, it stays behind. -/
theorem survives_step {s s' : Server} {l : ServerLabel} (h : Tracked s) (hs : Survives s)
    (hl : l ≠ .sendLoad) (hstep : serverStep s l = some s') : Survives s' := by
  by_cases hmiss : KeepsTrack s l
  swap
  · exact survives_of_miss h hmiss hstep
  rcases hs with horphan | ⟨htaken, fd, hcur, huses⟩
  · exact Or.inl (orphaned_step s l s' horphan hstep)
  refine Or.inr ?_
  cases serverStep_moves hstep with
  | noClient | loaded => exact absurd rfl hl
  | installed => cases hmiss.2.symm.trans htaken
  | @dropped own hsender =>
      -- the exchange would have found the late connection
      rcases hmiss.1 own (by rw [hsender]; rfl) with hown | hnone
      · rw [hsender] at huses
        exact absurd (hown.symm.trans hcur) huses
      · cases hnone.symm.trans hcur
  | goesOn | loopEnds | connected | acceptFailed | noSocket | checked | refused | replaced =>
      exact ⟨htaken, fd, hcur, huses⟩
  | noFrame | written | sendClosed => exact ⟨htaken, fd, hcur, fun h => by cases h⟩
  | writeFailed hsender =>
      rw [hsender] at huses
      exact ⟨htaken, fd, hcur, huses⟩
  | flagged hshutdown | serverClosed hshutdown | taken hshutdown =>
      rw [hshutdown] at htaken
      cases htaken
  | shutdownClosed | joined => exact ⟨rfl, fd, hcur, huses⟩

/-- What is left behind is seen when `shutdown` has returned. -/
theorem Survives.not_dropsAll {s : Server} (h : Survives s) (hs : Sound s) (hdown : ShutDown s) :
    ¬DropsAll s := by
  intro hdrops
  have hnone := hdrops hdown
  rcases h with ⟨fd, hin, hlt⟩ | ⟨-, fd, hcur, -⟩
  · have hopened := hs.installed fd hin
    have hissued : issued s fd = 1 := if_pos hopened
    rw [hissued, balance, hnone.closed fd hopened] at hlt
    omega
  · cases hnone.clientFd.symm.trans hcur

/-! ## Every shutdown can return -/

/-- Steps left to the accept thread once `m_isInitialized` is false. -/
def AcceptThread.rank : AcceptThread → Nat
  | .finished => 0
  | .loopTest => 1
  | .exchanged _ => 2
  | .checked _ => 3
  | .accepted _ => 4
  | .accepting => 5

/-- Steps left to a send. -/
def Sender.rank : Sender → Nat
  | .idle => 0
  | .exchanged _ _ => 1
  | .failed _ => 2
  | .loaded _ => 3

/-- Steps left to `shutdown`. -/
def Shutdown.rank : Shutdown → Nat
  | .returned => 0
  | .joining => 1
  | .exchanged _ => 2
  | .serverClosed => 3
  | .flagged => 4
  | .notCalled => 5

def Server.rank (s : Server) : Nat := s.acceptThread.rank + s.sender.rank + s.shutdown.rank

/-- A step towards the end: no send starts. -/
def Advances (s : Server) : Prop :=
  ∃ l s', serverStep s l = some s' ∧ l ≠ .sendLoad ∧ s'.rank < s.rank

/-- A send in progress can be ended. -/
theorem advances_sender {s : Server} (hbusy : s.sender ≠ .idle) : Advances s := by
  cases hsender : s.sender with
  | idle => exact absurd hsender hbusy
  | loaded fd =>
      refine ⟨.sendNoFrame, { s with sender := .idle }, by simp [serverStep, hsender], by simp, ?_⟩
      simp [Server.rank, hsender, Sender.rank]
  | failed fd =>
      refine ⟨.sendExchange, { s with clientFd := none, sender := .exchanged s.clientFd fd },
        by simp [serverStep, hsender], by simp, ?_⟩
      simp [Server.rank, hsender, Sender.rank]
  | exchanged fdToClose fd =>
      refine ⟨.sendClose, _, by simp [serverStep, hsender]; rfl, by simp, ?_⟩
      simp [Server.rank, hsender, Sender.rank]

/-- `shutdown` comes to its join without waiting. -/
theorem advances_shutdown {s : Server} (hjoining : s.shutdown ≠ .joining)
    (hreturned : s.shutdown ≠ .returned) : Advances s := by
  cases hshutdown : s.shutdown with
  | joining => exact absurd hshutdown hjoining
  | returned => exact absurd hshutdown hreturned
  | notCalled =>
      refine ⟨.shutdownFlag, _, by simp [serverStep, hshutdown]; rfl, by simp, ?_⟩
      simp [Server.rank, hshutdown, Shutdown.rank]
  | flagged =>
      refine ⟨.shutdownServer, _, by simp [serverStep, hshutdown]; rfl, by simp, ?_⟩
      simp [Server.rank, hshutdown, Shutdown.rank]
  | serverClosed =>
      refine ⟨.shutdownExchange, _, by simp [serverStep, hshutdown]; rfl, by simp, ?_⟩
      simp [Server.rank, hshutdown, Shutdown.rank]
  | exchanged cFd =>
      refine ⟨.shutdownClose, _, by simp [serverStep, hshutdown]; rfl, by simp, ?_⟩
      simp [Server.rank, hshutdown, Shutdown.rank]

/-- With the flag down the accept thread runs out, and the join returns. -/
theorem advances_join {s : Server} (hinit : s.isInitialized = false)
    (hjoining : s.shutdown = .joining) : Advances s := by
  cases hthread : s.acceptThread with
  | finished =>
      refine ⟨.shutdownJoin, _, by simp [serverStep, hthread, hjoining]; rfl, by simp, ?_⟩
      simp [Server.rank, hthread, hjoining, Shutdown.rank]
  | loopTest =>
      refine ⟨.acceptTest, _, by simp [serverStep, hthread, hinit]; rfl, by simp, ?_⟩
      simp [Server.rank, hthread, AcceptThread.rank]
  | accepting =>
      refine ⟨.acceptReturn false, _, by simp [serverStep, hthread]; rfl, by simp, ?_⟩
      simp [Server.rank, hthread, AcceptThread.rank]
  | accepted newSocket =>
      refine ⟨.acceptCheck, _, by simp [serverStep, hthread, hinit]; rfl, by simp, ?_⟩
      simp [Server.rank, hthread, AcceptThread.rank]
  | checked fd =>
      refine ⟨.acceptExchange, _, by simp [serverStep, hthread]; rfl, by simp, ?_⟩
      simp [Server.rank, hthread, AcceptThread.rank]
  | exchanged oldClient =>
      refine ⟨.acceptClose, _, by simp [serverStep, hthread]; rfl, by simp, ?_⟩
      simp [Server.rank, hthread, AcceptThread.rank]

/-- Short of a shutdown with no send in progress there is always a step towards it. -/
theorem Phased.advances {s : Server} (h : Phased s) (hdown : ¬ShutDown s) : Advances s := by
  by_cases hidle : s.sender = .idle
  swap
  · exact advances_sender hidle
  by_cases hreturned : s.shutdown = .returned
  · exact absurd ⟨hreturned, hidle⟩ hdown
  by_cases hjoining : s.shutdown = .joining
  · exact advances_join (h.flagged (by rw [hjoining]; simp)) hjoining
  · exact advances_shutdown hjoining hreturned

/-- **What is left behind comes to light**: there is a continuation in which
    `shutdown` returns and the connection is still there. -/
theorem survives_reaches {s : Server} (h : Tracked s) (hs : Survives s) :
    ∃ ks t, run serverStep s ks = some t ∧ ¬DropsAll t := by
  have hprogress : ∀ a, Tracked a ∧ Survives a → ¬ShutDown a →
      ∃ l b, serverStep a l = some b ∧ (Tracked b ∧ Survives b) ∧ b.rank < a.rank := by
    intro a ha hdown
    obtain ⟨l, b, hstep, hl, hlt⟩ := ha.1.phased.advances hdown
    exact ⟨l, b, hstep,
      ⟨tracked_step a l b ha.1 hstep, survives_step ha.1 ha.2 hl hstep⟩, hlt⟩
  obtain ⟨ks, t, hrun, ⟨htracked, hsurvives⟩, hdown⟩ :=
    run_reaches serverStep Server.rank hprogress s.rank (Nat.le_refl _) ⟨h, hs⟩
  exact ⟨ks, t, hrun, hsurvives.not_dropsAll htracked.sound hdown⟩

/-- **When no connection survives a shutdown.**  In a run whose steps all meet
    `KeepsTrack` none ever does.  Conversely, after any step that misses it there is a
    continuation in which `shutdown` returns and a connection is left; in others a
    failing send still closes it. -/
theorem keepsTrack_dropsAll (ls : List ServerLabel) :
    (Guarded serverStep KeepsTrack Server.init ls → Always serverStep DropsAll Server.init ls) ∧
    ∀ s l s', run serverStep Server.init ls = some s → serverStep s l = some s' →
      ¬KeepsTrack s l → ∃ ks t, run serverStep s' ks = some t ∧ ¬DropsAll t := by
  constructor
  · intro hguard
    have hinv : ∀ s l s', Phased s ∧ Retired s ∧ Conserved s → KeepsTrack s l →
        serverStep s l = some s' → Phased s' ∧ Retired s' ∧ Conserved s' := by
      rintro s l s' ⟨hp, hr, hc⟩ ⟨hfinds, hintime⟩ hstep
      exact ⟨phased_step s l s' hp hstep, retired_step s l s' hr hintime hstep,
        (conserved_step_iff hc hstep).mpr hfinds⟩
    have hinit : Phased Server.init ∧ Retired Server.init ∧ Conserved Server.init :=
      ⟨phased_init, fun _ => rfl, conserved_init⟩
    exact Always.imp serverStep (fun s hs => dropsAll_of_retired hs.1 hs.2.1 hs.2.2) ls
      (guarded_always serverStep hinv ls hinit hguard)
  · intro s l s' hrun hstep hmiss
    have htracked := run_invariant serverStep tracked_step ls tracked_init hrun
    exact survives_reaches (tracked_step s l s' htracked hstep)
      (survives_of_miss htracked hmiss hstep)

/-! ## A connection accepted just before the shutdown -/

/-- `shutdown` from its start to the join. -/
def shutdownToJoin : List ServerLabel :=
  [.shutdownFlag, .shutdownServer, .shutdownExchange, .shutdownClose]

/-- A simulator is dropped by a failed send, another is dropped by the shutdown, and
    a third one connects too late and is refused. -/
theorem dropsAll_orderlyShutdown :
    Always serverStep DropsAll Server.init
      (connect ++ failingSend ++ connect ++ [.acceptTest, .acceptReturn true] ++ shutdownToJoin
        ++ [.acceptCheck, .shutdownJoin, .sendLoad]) :=
  (keepsTrack_dropsAll _).1 (by decide)

/-- The shutdown falls between the accept thread's test and its exchange. -/
def shutdownBeforeInstall : List ServerLabel :=
  [.acceptTest, .acceptReturn true, .acceptCheck] ++ shutdownToJoin
    ++ [.acceptExchange, .acceptClose, .acceptTest, .shutdownJoin]

/-- Where that leaves the controller: shut down, with a connection. -/
def connectedAfterShutdown : Server where
  isInitialized := false
  listening     := false
  clientFd      := some 0
  acceptThread  := .finished
  sender        := .idle
  shutdown      := .returned
  opened        := 1
  installed     := [0]
  closed        := []

/-- A later send writes to it. -/
theorem shutdownBeforeInstall_survives :
    run serverStep Server.init shutdownBeforeInstall = some connectedAfterShutdown ∧
      ¬DropsAll connectedAfterShutdown ∧
      run serverStep connectedAfterShutdown [.sendLoad, .sendWrite true]
        = some connectedAfterShutdown := by
  refine ⟨rfl, fun hdrops => ?_, rfl⟩
  cases (hdrops ⟨rfl, rfl⟩).clientFd

end TcpClientFd
