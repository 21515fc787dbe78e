import Tcp1553.HandleProofs
import Tcp1553.ShutdownProofs

/-! # Calls that join a thread

    `BM::stop` joins two threads and `BusController::shutdown` one, both on the UI
    thread: as long as they wait, nothing is drawn and no click is handled.

    Each is shown to return however the threads are scheduled.  A rank bounds the steps
    that are left to the caller and to the threads it waits for, and as long as the call
    has not returned one of these steps can be taken.  What is left to the scheduler is
    only to take it; what is left to the system, that `pcap_dispatch` and `accept`
    return. -/

namespace TcpMonitor

open LabelledRuns

/-! ## `BM::stop` -/

/-- Steps left to `stop`. -/
def Caller.rank : Caller → Nat
  | .idle => 0
  | .joiningMonitor => 1
  | .joiningCapture => 2
  | .terminating => 3

/-- Steps left to the monitor thread once its end is requested. -/
def MonitorThread.rank : MonitorThread → Nat
  | .none | .finished => 0
  | .loopTest => 1
  | .receiving => 2

/-- Steps left to the capture thread once it is not to run any more. -/
def CaptureThread.rank : CaptureThread → Nat
  | .none | .finished => 0
  | .loopTest => 1
  | .dispatching => 2

/-- Before that it may go round its loop any number of times. -/
def TcpProxy.rank (p : TcpProxy) : Nat := if p.running = true then 2 else p.captureThread.rank

def Monitor.rank (s : Monitor) : Nat := s.caller.rank + s.monitorThread.rank + s.tcpProxy.rank

/-- The steps a `stop` has to wait for: its own, those of the monitor thread, and those
    of the capture thread behind `m_running = false`, but for the packets that
    `pcap_dispatch` still has. -/
def Drains (s : Monitor) : MonitorLabel → Bool
  | .terminate | .joinCapture | .joinMonitor | .monitorTest | .receive => true
  | .captureTest | .dispatched => !s.tcpProxy.running
  | .start _ | .stop | .packetHandler _ => false

/-- What a `stop` has brought about so far. -/
structure Halting (s : Monitor) : Prop where
  requested : s.caller ≠ .idle → s.monitorThread = .loopTest ∨ s.monitorThread = .receiving →
    s.shutdownRequested = true
  silent    : s.caller = .joiningCapture ∨ s.caller = .joiningMonitor → s.tcpProxy.running = false
  closed    : s.caller = .joiningMonitor → s.tcpProxy.pcapHandle = none

theorem halting_init : Halting Monitor.init where
  requested := fun hbusy => absurd rfl hbusy
  silent    := fun _ => rfl
  closed    := fun _ => rfl

/-- Outside a `stop` nothing has been brought about. -/
theorem Halting.of_idle {s : Monitor} (hidle : s.caller = .idle) : Halting s where
  requested := fun hbusy => absurd hidle hbusy
  silent    := by simp [hidle]
  closed    := by simp [hidle]

/-- A pass of the monitor thread. -/
theorem receive_rest (s : Monitor) :
    s.receive.caller = s.caller ∧ s.receive.monitorThread = .loopTest ∧
      s.receive.shutdownRequested = s.shutdownRequested ∧
      s.receive.tcpProxy.running = s.tcpProxy.running ∧
      s.receive.tcpProxy.captureThread = s.tcpProxy.captureThread ∧
      s.receive.tcpProxy.pcapHandle = s.tcpProxy.pcapHandle := by
  rw [Monitor.receive]
  dsimp only
  split <;> exact ⟨rfl, rfl, rfl, rfl, rfl, rfl⟩

theorem sniffing_caller (s : Monitor) (r : TcpProxy × Bool) : (s.sniffing r).caller = s.caller := by
  rw [Monitor.sniffing]
  split <;> rfl

/-- **Step lemma** of a `stop`. -/
theorem halting_step (s : Monitor) (l : MonitorLabel) (s' : Monitor) (h : Halting s)
    (hstep : monitorStep s l = some s') : Halting s' := by
  cases monitorStep_moves hstep with
  | startActive | stopInactive => exact h
  | starts hidle =>
      refine Halting.of_idle ?_
      rw [sniffing_caller]
      exact hidle
  | stops => exact ⟨fun _ _ => rfl, (by simp), (by simp)⟩
  | terminates hcaller =>
      have hbusy : s.caller ≠ .idle := by simp [hcaller]
      exact ⟨fun _ => h.requested hbusy, fun _ => call_running _ _, (by simp)⟩
  | joinsCapture hcaller =>
      have hbusy : s.caller ≠ .idle := by simp [hcaller]
      refine ⟨fun _ => h.requested hbusy, fun _ => ?_, fun _ => rfl⟩
      exact (call_running _ _).trans (h.silent (Or.inl hcaller))
  | joinsMonitor => exact Halting.of_idle rfl
  | dispatches | captures =>
      refine ⟨h.requested, fun hcaller => ?_, fun hcaller => ?_⟩
      · exact (call_running _ _).trans (h.silent hcaller)
      · exact (call_pcapHandle _ _).trans (h.closed hcaller)
  | captureEnds | dispatched => exact ⟨h.requested, h.silent, h.closed⟩
  | monitorEnds => exact ⟨(fun _ hthread => by simp at hthread), h.silent, h.closed⟩
  | goesOn hthread =>
      exact ⟨fun hbusy _ => h.requested hbusy (Or.inl hthread), h.silent, h.closed⟩
  | receives hthread =>
      obtain ⟨hcaller, -, hrequested, hrunning, -, hhandle⟩ := receive_rest s
      refine ⟨fun hbusy _ => ?_, fun hc => ?_, fun hc => ?_⟩
      · exact hrequested.trans (h.requested (hcaller ▸ hbusy) (Or.inr hthread))
      · exact hrunning.trans (h.silent (hcaller ▸ hc))
      · exact hhandle.trans (h.closed (hcaller ▸ hc))

/-- The capture thread at its loop test or in `pcap_dispatch`. -/
theorem captureRank_le (thread : CaptureThread) : thread.rank ≤ 2 := by
  cases thread <;> decide

/-- `stop` has at most its three steps and those of the two threads before it. -/
theorem rank_le (s : Monitor) : s.rank ≤ 7 := by
  have hcaller : s.caller.rank ≤ 3 := by cases s.caller <;> decide
  have hmonitor : s.monitorThread.rank ≤ 2 := by cases s.monitorThread <;> decide
  have hcapture : s.tcpProxy.rank ≤ 2 := by
    rw [TcpProxy.rank]
    split
    · exact Nat.le_refl 2
    · exact captureRank_le _
  rw [Monitor.rank]
  omega

/-- `terminate` takes rounds away from the capture thread. -/
theorem terminateBegin_rank (p : TcpProxy) : p.terminateBegin.rank ≤ p.rank := by
  have hquiet : p.terminateBegin.running = false := call_running _ _
  have hthread : p.terminateBegin.captureThread = p.captureThread := call_captureThread _ _
  rw [TcpProxy.rank, if_neg (Bool.eq_false_iff.mp hquiet), hthread, TcpProxy.rank]
  split
  · exact captureRank_le _
  · exact Nat.le_refl _

/-- Behind the join nothing is left of it. -/
theorem terminateEnd_rank {p : TcpProxy} (hsilent : p.running = false) :
    p.terminateEnd.rank = 0 := by
  have hquiet : p.terminateEnd.running = false := (call_running _ _).trans hsilent
  rw [TcpProxy.rank, if_neg (Bool.eq_false_iff.mp hquiet), terminateEnd_captureThread]
  rfl

/-- **Every step of a `stop` is one less to wait for.** -/
theorem rank_step {s s' : Monitor} {l : MonitorLabel} (h : Halting s) (hbusy : s.caller ≠ .idle)
    (hstep : monitorStep s l = some s') :
    (if Drains s l = true then 1 else 0) + s'.rank ≤ s.rank := by
  cases monitorStep_moves hstep with
  | startActive hidle | starts hidle | stopInactive hidle | stops hidle =>
      exact absurd hidle hbusy
  | terminates hcaller =>
      have hcapture := terminateBegin_rank s.tcpProxy
      show 1 + (2 + s.monitorThread.rank + s.tcpProxy.terminateBegin.rank) ≤ s.rank
      rw [Monitor.rank, hcaller, Caller.rank]
      omega
  | joinsCapture hcaller =>
      have hcapture := terminateEnd_rank (h.silent (Or.inl hcaller))
      show 1 + (1 + s.monitorThread.rank + s.tcpProxy.terminateEnd.rank) ≤ s.rank
      rw [Monitor.rank, hcaller, Caller.rank, hcapture]
      omega
  | joinsMonitor hcaller =>
      show 1 + (0 + 0 + s.tcpProxy.rank) ≤ s.rank
      rw [Monitor.rank, hcaller, Caller.rank]
      omega
  | dispatches _ hrunning => simp [Drains, Monitor.rank, TcpProxy.rank, hrunning]
  | captureEnds hthread hquiet =>
      simp [Drains, Monitor.rank, TcpProxy.rank, hquiet, hthread, CaptureThread.rank]
      omega
  | captures => simp [Drains, Monitor.rank, TcpProxy.rank]
  | dispatched hthread =>
      cases hrunning : s.tcpProxy.running with
      | true => simp [Drains, Monitor.rank, TcpProxy.rank, hrunning]
      | false =>
          simp [Drains, Monitor.rank, TcpProxy.rank, hrunning, hthread, CaptureThread.rank]
          omega
  | monitorEnds hthread =>
      show 1 + (s.caller.rank + 0 + s.tcpProxy.rank) ≤ s.rank
      rw [Monitor.rank, hthread, MonitorThread.rank]
      omega
  | goesOn hthread hquiet =>
      cases hquiet.symm.trans (h.requested hbusy (Or.inl hthread))
  | receives hthread =>
      obtain ⟨hcaller, hloop, -, hrunning, hcapture, -⟩ := receive_rest s
      have hproxy : s.receive.tcpProxy.rank = s.tcpProxy.rank := by
        rw [TcpProxy.rank, hrunning, hcapture, TcpProxy.rank]
      show 1 + s.receive.rank ≤ s.rank
      simp only [Monitor.rank, hproxy, hcaller, hloop, hthread, MonitorThread.rank]
      omega

/-- What `stop` leaves behind. -/
structure Stopped (s : Monitor) : Prop where
  caller    : s.caller = .idle
  inactive  : s.monitoringActive = false
  capture   : s.tcpProxy.captureThread = .none
  monitor   : s.monitorThread = .none
  handle    : s.tcpProxy.pcapHandle = none
  quiet     : s.tcpProxy.running = false

/-- **A `stop` that returns has joined both threads**: it returns from the join of the
    monitor thread, which it comes to behind that of the capture thread. -/
theorem stopped_of_returned {s s' : Monitor} {l : MonitorLabel} (hsound : Sound s)
    (h : Halting s) (hbusy : s.caller ≠ .idle) (hstep : monitorStep s l = some s')
    (hidle : s'.caller = .idle) : Stopped s' := by
  cases monitorStep_moves hstep with
  | startActive hnone | starts hnone | stopInactive hnone | stops hnone =>
      exact absurd hnone hbusy
  | terminates | joinsCapture => cases hidle
  | joinsMonitor hcaller =>
      exact ⟨rfl, rfl, hsound.closing hcaller, rfl, h.closed hcaller, h.silent (Or.inr hcaller)⟩
  | dispatches | captureEnds | captures | dispatched | monitorEnds | goesOn =>
      exact absurd hidle hbusy
  | receives => exact absurd ((receive_rest s).1.symm.trans hidle) hbusy

/-- **A `stop` never waits in vain.** -/
theorem drains_step {s : Monitor} (h : Halting s) (hbusy : s.caller ≠ .idle) :
    ∃ l s', monitorStep s l = some s' ∧ Drains s l = true := by
  cases hcaller : s.caller with
  | idle => exact absurd hcaller hbusy
  | terminating => exact ⟨.terminate, _, if_pos hcaller, rfl⟩
  | joiningCapture =>
      have hquiet := h.silent (Or.inl hcaller)
      cases hthread : s.tcpProxy.captureThread with
      | none | finished =>
          have hjoinable : s.tcpProxy.CaptureJoinable := by simp [TcpProxy.CaptureJoinable, hthread]
          exact ⟨.joinCapture, _, if_pos ⟨hcaller, hjoinable⟩, rfl⟩
      | loopTest =>
          refine ⟨.captureTest, { s with tcpProxy.captureThread := .finished }, ?_, ?_⟩
          · exact (if_pos hthread).trans (if_neg (Bool.eq_false_iff.mp hquiet))
          · rw [Drains, hquiet]
            rfl
      | dispatching =>
          refine ⟨.dispatched, _, if_pos hthread, ?_⟩
          rw [Drains, hquiet]
          rfl
  | joiningMonitor =>
      cases hthread : s.monitorThread with
      | none | finished =>
          have hjoinable : s.MonitorJoinable := by simp [Monitor.MonitorJoinable, hthread]
          exact ⟨.joinMonitor, _, if_pos ⟨hcaller, hjoinable⟩, rfl⟩
      | loopTest =>
          refine ⟨.monitorTest, _, (if_pos hthread).trans (if_pos ?_), rfl⟩
          exact h.requested hbusy (Or.inl hthread)
      | receiving => exact ⟨.receive, _, if_pos hthread, rfl⟩

/-- **A `stop` returns.**  From any state in which one is under way, and however the three
    threads go on, it has to wait for seven steps at most, and one of them can always
    be taken; any step with which it returns leaves both threads joined and the handle
    closed. -/
theorem stop_returns {before ls : List MonitorLabel} {s t : Monitor}
    (hbefore : run monitorStep Monitor.init before = some s)
    (hrun : run monitorStep s ls = some t)
    (hwaiting : Always monitorStep (fun s => s.caller ≠ .idle) s ls) :
    tally monitorStep Drains s ls ≤ 7 ∧
      (∃ l t', monitorStep t l = some t' ∧ Drains t l = true) ∧
      ∀ l t', monitorStep t l = some t' → t'.caller = .idle → Stopped t' := by
  have hinv : ∀ s l s', Sound s ∧ Halting s → monitorStep s l = some s' → Sound s' ∧ Halting s' :=
    fun s l s' h hstep => ⟨sound_step s l s' h.1 hstep, halting_step s l s' h.2 hstep⟩
  have hs := run_invariant monitorStep hinv before ⟨sound_init, halting_init⟩ hbefore
  have ht := run_invariant monitorStep hinv ls hs hrun
  have hbusy : t.caller ≠ .idle := Always.last monitorStep ls hwaiting hrun
  have htally := tally_le monitorStep Monitor.rank hinv
    (fun s l s' h hbusy _ hstep => rank_step h.2 hbusy hstep) ls hs hwaiting hrun
  exact ⟨Nat.le_trans (Nat.le_of_add_right_le htally) (rank_le s), drains_step ht.2 hbusy,
    fun l t' hstep hidle => stopped_of_returned ht.1 ht.2 hbusy hstep hidle⟩

/-- The monitor is stopped while the capture thread is in `pcap_dispatch`, and waits for
    the monitor thread at last. -/
def stopsDispatching : List MonitorLabel :=
  [.terminate, .dispatched, .captureTest, .joinCapture, .receive, .monitorTest]

/-- A `stop` goes on until it has joined the monitor thread. -/
theorem busy_run {ls : List MonitorLabel} (hnever : .joinMonitor ∉ ls) :
    ∀ {s : Monitor}, s.caller ≠ .idle → Always monitorStep (fun s => s.caller ≠ .idle) s ls := by
  induction ls with
  | nil => exact fun hbusy => hbusy
  | cons l ls ih =>
      intro s hbusy
      obtain ⟨hl, hrest⟩ := not_or.mp (mt List.mem_cons.mpr hnever)
      refine ⟨hbusy, fun s' hstep => ih hrest fun hidle => ?_⟩
      cases monitorStep_moves hstep with
      | startActive hnone | starts hnone | stopInactive hnone | stops hnone =>
          exact absurd hnone hbusy
      | terminates | joinsCapture => cases hidle
      | joinsMonitor => exact absurd rfl hl
      | dispatches | captureEnds | captures | dispatched | monitorEnds | goesOn =>
          exact absurd hidle hbusy
      | receives => exact absurd ((receive_rest s).1.symm.trans hidle) hbusy

theorem stop_returns_dispatching :
    ∃ s t, run monitorStep Monitor.init [.start .opened, .captureTest, .monitorTest, .stop]
          = some s ∧
      run monitorStep s stopsDispatching = some t ∧ tally monitorStep Drains s stopsDispatching ≤ 7 ∧
      (∃ l t', monitorStep t l = some t' ∧ Drains t l = true) ∧
      ∀ l t', monitorStep t l = some t' → t'.caller = .idle → Stopped t' := by
  obtain ⟨s, t, hbefore, hrun, hcaller⟩ : ∃ s t, run monitorStep Monitor.init
      [.start .opened, .captureTest, .monitorTest, .stop] = some s ∧
      run monitorStep s stopsDispatching = some t ∧ s.caller = .terminating :=
    ⟨_, _, rfl, rfl, rfl⟩
  have hbusy : s.caller ≠ .idle := by simp [hcaller]
  have hnever : .joinMonitor ∉ stopsDispatching := by decide
  have hwaiting := busy_run hnever hbusy
  exact ⟨s, t, hbefore, hrun, stop_returns hbefore hrun hwaiting⟩

end TcpMonitor

namespace TcpClientFd

open LabelledRuns

/-! ## `BusController::shutdown` -/

/-- `shutdown` has been called and has not returned. -/
def Waiting (s : Server) : Prop := s.shutdown ≠ .notCalled ∧ s.shutdown ≠ .returned

/-- The steps a `shutdown` has to wait for: its own and those of the accept thread. -/
def Winds : ServerLabel → Bool
  | .acceptTest | .acceptReturn _ | .acceptCheck | .acceptExchange | .acceptClose => true
  | .shutdownFlag | .shutdownServer | .shutdownExchange | .shutdownClose | .shutdownJoin => true
  | .sendLoad | .sendNoFrame | .sendWrite _ | .sendExchange | .sendClose => false

/-- Steps left to both. -/
def Server.joinRank (s : Server) : Nat := s.acceptThread.rank + s.shutdown.rank

theorem joinRank_le {s : Server} (h : Waiting s) : s.joinRank ≤ 9 := by
  have haccept : s.acceptThread.rank ≤ 5 := by cases s.acceptThread <;> simp [AcceptThread.rank]
  have hshutdown : s.shutdown.rank ≤ 4 := by
    cases hs : s.shutdown with
    | notCalled => exact absurd hs h.1
    | _ => simp [Shutdown.rank]
  rw [Server.joinRank]
  omega

/-- **Every step of a `shutdown` is one less to wait for.** -/
theorem joinRank_step {s s' : Server} {l : ServerLabel} (h : Phased s) (hwaiting : Waiting s)
    (hstep : serverStep s l = some s') :
    (if Winds l = true then 1 else 0) + s'.joinRank ≤ s.joinRank := by
  have hdown := h.flagged hwaiting.1
  cases serverStep_moves hstep with
  | goesOn _ hguard => exact absurd (hdown.symm.trans hguard.1) Bool.false_ne_true
  | noSocket _ hinit | checked _ hinit => exact absurd (hdown.symm.trans hinit) Bool.false_ne_true
  | flagged hnone => exact absurd hnone hwaiting.1
  | loopEnds hthread | connected hthread | acceptFailed hthread | refused hthread
  | installed hthread | replaced hthread =>
      simp only [Winds, Server.joinRank, hthread, AcceptThread.rank, if_true]
      omega
  | noClient | loaded | noFrame | written | writeFailed | dropped | sendClosed =>
      simp [Winds, Server.joinRank]
  | serverClosed hs | taken hs | shutdownClosed hs | joined hs =>
      simp only [Winds, Server.joinRank, hs, Shutdown.rank, if_true]
      omega

/-- **A `shutdown` never waits in vain.** -/
theorem winds_step {s : Server} (h : Phased s) (hwaiting : Waiting s) :
    ∃ l s', serverStep s l = some s' ∧ Winds l = true := by
  have hdown := h.flagged hwaiting.1
  cases hshutdown : s.shutdown with
  | notCalled => exact absurd hshutdown hwaiting.1
  | returned => exact absurd hshutdown hwaiting.2
  | flagged => exact ⟨.shutdownServer, _, by simp [serverStep, hshutdown]; rfl, rfl⟩
  | serverClosed => exact ⟨.shutdownExchange, _, by simp [serverStep, hshutdown]; rfl, rfl⟩
  | exchanged cFd => exact ⟨.shutdownClose, _, by simp [serverStep, hshutdown]; rfl, rfl⟩
  | joining =>
      cases hthread : s.acceptThread with
      | finished => exact ⟨.shutdownJoin, _, by simp [serverStep, hthread, hshutdown]; rfl, rfl⟩
      | loopTest => exact ⟨.acceptTest, _, by simp [serverStep, hthread, hdown]; rfl, rfl⟩
      | accepting => exact ⟨.acceptReturn false, _, by simp [serverStep, hthread]; rfl, rfl⟩
      | accepted newSocket => exact ⟨.acceptCheck, _, by simp [serverStep, hthread, hdown]; rfl, rfl⟩
      | checked fd => exact ⟨.acceptExchange, _, by simp [serverStep, hthread]; rfl, rfl⟩
      | exchanged oldClient => exact ⟨.acceptClose, _, by simp [serverStep, hthread]; rfl, rfl⟩

/-- **A `shutdown` returns.**  However the accept thread and any sends go on, it has to
    wait for nine steps at most, and one of them can always be taken. -/
theorem shutdown_returns {before ls : List ServerLabel} {s t : Server}
    (hbefore : run serverStep Server.init before = some s) (hrun : run serverStep s ls = some t)
    (hwaiting : Always serverStep Waiting s ls) :
    tally serverStep (fun _ => Winds) s ls ≤ 9 ∧
      ∃ l t', serverStep t l = some t' ∧ Winds l = true := by
  have hs := run_invariant serverStep phased_step before phased_init hbefore
  have ht := run_invariant serverStep phased_step ls hs hrun
  have htally := tally_le serverStep Server.joinRank phased_step
    (fun s l s' h hwaits _ hstep => joinRank_step h hwaits hstep) ls hs hwaiting hrun
  exact ⟨Nat.le_trans (Nat.le_of_add_right_le htally)
      (joinRank_le (Always.first serverStep hwaiting)),
    winds_step ht (Always.last serverStep ls hwaiting hrun)⟩

/-- The accept thread waits for a connection, and gets one. -/
theorem shutdown_returns_accepting :
    ∃ s t, run serverStep Server.init [.acceptTest, .shutdownFlag] = some s ∧
      run serverStep s [.acceptReturn true] = some t ∧
      tally serverStep (fun _ => Winds) s [.acceptReturn true] ≤ 9 ∧
      ∃ l t', serverStep t l = some t' ∧ Winds l = true := by
  obtain ⟨s, hbefore, t, hstep, hs, ht⟩ : ∃ s, run serverStep Server.init
      [.acceptTest, .shutdownFlag] = some s ∧ ∃ t, serverStep s (.acceptReturn true) = some t ∧
        s.shutdown = .flagged ∧ t.shutdown = .flagged := ⟨_, rfl, _, rfl, rfl, rfl⟩
  have hwaiting : Always serverStep Waiting s [.acceptReturn true] := by
    refine ⟨by simp [Waiting, hs], fun s' hs' => ?_⟩
    obtain rfl : t = s' := Option.some.inj (hstep.symm.trans hs')
    simp [Always, Waiting, ht]
  have hrun := run_cons_of_step serverStep hstep []
  exact ⟨s, t, hbefore, hrun, shutdown_returns hbefore hrun hwaiting⟩

end TcpClientFd
