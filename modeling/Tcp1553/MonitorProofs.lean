import Tcp1553.CaptureProofs

/-! # The monitor and its threads

    `BM::start` and `BM::stop` run on the UI thread, `captureLoop` and
    `monitorThreadFunc` in threads of their own.  A label is one step of one of
    the three; a history is any list of labels.

    `Sound` is what every history keeps: between sessions both threads have been
    joined, and no queued payload is empty. -/

namespace TcpMonitor

open TcpWire TcpParser TcpCapture LabelledRuns StreamScanner

/-! ## The capture side -/

/-- Calls into the capture library, with the handle each is made on. -/
inductive PcapCall where
  | openLive (handle : Nat)
  | compile (handle : Nat)
  | setfilter (handle : Nat)
  | dispatch (handle : Nat)
  | datalink (handle : Nat)
  | breakloop (handle : Nat)
  | close (handle : Nat)
  deriving DecidableEq, Repr

/-- How far the library lets `startSniffing` come. -/
inductive PcapOutcome where
  | openFails
  | compileFails
  | setfilterFails
  | opened
  deriving DecidableEq, Repr

/-- `captureLoop`: at the loop test, or inside `pcap_dispatch`. -/
inductive CaptureThread where
  | none
  | loopTest
  | dispatching
  | finished
  deriving DecidableEq, Repr

/-- The sniffer.  `nextHandle` and `pcapCalls` are the library's side of it. -/
structure TcpProxy where
  pcapHandle    : Option Nat
  running       : Bool
  captureThread : CaptureThread
  payloadQueue  : List (List UInt8)
  nextHandle    : Nat
  pcapCalls     : List PcapCall

/-- A call on the current handle, if there is one. -/
def TcpProxy.call (p : TcpProxy) (c : Nat → PcapCall) : TcpProxy :=
  match p.pcapHandle with
  | some h => { p with pcapCalls := p.pcapCalls ++ [c h] }
  | none => p

/-- `startSniffing`.  After a compile or filter error the handle is closed and
    kept. -/
def TcpProxy.startSniffing (p : TcpProxy) (outcome : PcapOutcome) : TcpProxy × Bool :=
  let opened := { p with pcapHandle := some p.nextHandle, nextHandle := p.nextHandle + 1 }
  match outcome with
  | .openFails => ({ p with pcapHandle := none }, false)
  -- `pcap_close`, but m_pcapHandle keeps its value
  | .compileFails => (((opened.call .openLive).call .compile).call .close, false)
  | .setfilterFails =>
      ((((opened.call .openLive).call .compile).call .setfilter).call .close, false)
  | .opened =>
      ({ ((opened.call .openLive).call .compile).call .setfilter with
          running := true
          captureThread := .loopTest }, true)

/-- `terminate` up to the join of the capture thread. -/
def TcpProxy.terminateBegin (p : TcpProxy) : TcpProxy :=
  { p with running := false }.call .breakloop

/-- The join can return: there is no capture thread, or it has finished. -/
def TcpProxy.CaptureJoinable (p : TcpProxy) : Prop :=
  p.captureThread = .none ∨ p.captureThread = .finished

instance (p : TcpProxy) : Decidable p.CaptureJoinable := inferInstanceAs (Decidable (_ ∨ _))

/-- `terminate` from that join on. -/
def TcpProxy.terminateEnd (p : TcpProxy) : TcpProxy :=
  { { p with captureThread := .none }.call .close with pcapHandle := none }

/-! ## The monitor -/

/-- `monitorThreadFunc`: at the loop test, or about to call `receiveData`. -/
inductive MonitorThread where
  | none
  | loopTest
  | receiving
  | finished
  deriving DecidableEq, Repr

/-- The UI thread: outside the monitor, or at one of the steps of `stop`. -/
inductive Caller where
  | idle
  | terminating
  | joiningCapture
  | joiningMonitor
  deriving DecidableEq, Repr

/-- The monitor; `decoded` records what the current session has decoded. -/
structure Monitor where
  tcpProxy          : TcpProxy
  protocolParser    : ProtocolParser
  monitoringActive  : Bool
  shutdownRequested : Bool
  monitorThread     : MonitorThread
  caller            : Caller
  decoded           : List MessageTransaction

/-- The monitor as it is constructed. -/
def Monitor.init : Monitor where
  tcpProxy          := ⟨none, false, .none, [], 0, []⟩
  protocolParser    := ProtocolParser.reset
  monitoringActive  := false
  shutdownRequested := false
  monitorThread     := .none
  caller            := .idle
  decoded           := []

/-- The monitor thread has been joined, or has finished and can be. -/
def Monitor.MonitorJoinable (s : Monitor) : Prop :=
  s.monitorThread = .none ∨ s.monitorThread = .finished

instance (s : Monitor) : Decidable s.MonitorJoinable := inferInstanceAs (Decidable (_ ∨ _))

/-- What `start` has done before it calls `startSniffing`. -/
def Monitor.prepared (s : Monitor) : Monitor :=
  { s with
    tcpProxy := s.tcpProxy.terminateBegin.terminateEnd
    protocolParser := ProtocolParser.reset
    monitorThread := .none }

/-- What `start` does with the answer of `startSniffing`. -/
def Monitor.sniffing (s : Monitor) (r : TcpProxy × Bool) : Monitor :=
  if r.2 = true then
    { s with
      tcpProxy := r.1
      monitoringActive := true
      shutdownRequested := false
      monitorThread := .loopTest
      decoded := [] }
  else { s with tcpProxy := r.1 }

/-- `BM::start`; not possible while one of its joins would wait. -/
def Monitor.start (s : Monitor) (outcome : PcapOutcome) : Option Monitor :=
  if s.monitoringActive = true then some s
  else if s.tcpProxy.CaptureJoinable ∧ s.MonitorJoinable then
    some (s.prepared.sniffing (s.prepared.tcpProxy.startSniffing outcome))
  else none

/-- One pass of `monitorThreadFunc` between two loop tests. -/
def Monitor.receive (s : Monitor) : Monitor :=
  let r := receiveData s.tcpProxy.payloadQueue kMonitorBufferBytes
  let s' := { s with
    tcpProxy := { s.tcpProxy with payloadQueue := r.2 }
    monitorThread := .loopTest }
  if 0 < r.1.length then
    let q := s.protocolParser.parseStream r.1
    { s' with protocolParser := q.2, decoded := s.decoded ++ transactions q.1 }
  else s'

/-- Steps of the three threads. -/
inductive MonitorLabel where
  | start (outcome : PcapOutcome)
  | stop
  | terminate
  | joinCapture
  | joinMonitor
  | captureTest
  | packetHandler (payload : List UInt8)
  | dispatched
  | monitorTest
  | receive
  deriving DecidableEq, Repr

/-- The interleaving of the three threads. -/
def monitorStep (s : Monitor) : MonitorLabel → Option Monitor
  | .start outcome => if s.caller = .idle then s.start outcome else none
  | .stop =>
      if s.caller = .idle then
        if s.monitoringActive = true then
          some { s with shutdownRequested := true, caller := .terminating }
        else some s
      else none
  | .terminate =>
      if s.caller = .terminating then
        some { s with tcpProxy := s.tcpProxy.terminateBegin, caller := .joiningCapture }
      else none
  | .joinCapture =>
      if s.caller = .joiningCapture ∧ s.tcpProxy.CaptureJoinable then
        some { s with tcpProxy := s.tcpProxy.terminateEnd, caller := .joiningMonitor }
      else none
  | .joinMonitor =>
      if s.caller = .joiningMonitor ∧ s.MonitorJoinable then
        some { s with
          monitorThread := .none
          monitoringActive := false
          shutdownRequested := false
          caller := .idle }
      else none
  | .captureTest =>
      if s.tcpProxy.captureThread = .loopTest then
        if s.tcpProxy.running = true then
          some { s with tcpProxy := { s.tcpProxy.call .dispatch with captureThread := .dispatching } }
        else some { s with tcpProxy := { s.tcpProxy with captureThread := .finished } }
      else none
  | .packetHandler payload =>
      if s.tcpProxy.captureThread = .dispatching then
        some { s with
          tcpProxy := { s.tcpProxy.call .datalink with
            payloadQueue := pushPayload s.tcpProxy.payloadQueue payload } }
      else none
  | .dispatched =>
      if s.tcpProxy.captureThread = .dispatching then
        some { s with tcpProxy := { s.tcpProxy with captureThread := .loopTest } }
      else none
  | .monitorTest =>
      if s.monitorThread = .loopTest then
        -- the loop ends without looking at the queue again
        if s.shutdownRequested = true then
          some { s with
            shutdownRequested := false
            monitoringActive := false
            monitorThread := .finished }
        else some { s with monitorThread := .receiving }
      else none
  | .receive => if s.monitorThread = .receiving then some s.receive else none

/-! ## What a step does -/

/-- The ways a step can go, each with its guard. -/
inductive Monitor.Moves (s : Monitor) : MonitorLabel → Monitor → Prop where
  | startActive {outcome : PcapOutcome} : s.caller = .idle → s.monitoringActive = true →
      Moves s (.start outcome) s
  | starts {outcome : PcapOutcome} : s.caller = .idle → s.monitoringActive = false →
      Moves s (.start outcome) (s.prepared.sniffing (s.prepared.tcpProxy.startSniffing outcome))
  | stopInactive : s.caller = .idle → s.monitoringActive = false → Moves s .stop s
  | stops : s.caller = .idle → s.monitoringActive = true → Moves s .stop
      { s with shutdownRequested := true, caller := .terminating }
  | terminates : s.caller = .terminating → Moves s .terminate
      { s with tcpProxy := s.tcpProxy.terminateBegin, caller := .joiningCapture }
  | joinsCapture : s.caller = .joiningCapture → s.tcpProxy.CaptureJoinable → Moves s .joinCapture
      { s with tcpProxy := s.tcpProxy.terminateEnd, caller := .joiningMonitor }
  | joinsMonitor : s.caller = .joiningMonitor → s.MonitorJoinable → Moves s .joinMonitor
      { s with
        monitorThread := .none
        monitoringActive := false
        shutdownRequested := false
        caller := .idle }
  | dispatches : s.tcpProxy.captureThread = .loopTest → s.tcpProxy.running = true →
      Moves s .captureTest
      { s with tcpProxy := { s.tcpProxy.call .dispatch with captureThread := .dispatching } }
  | captureEnds : s.tcpProxy.captureThread = .loopTest → s.tcpProxy.running = false →
      Moves s .captureTest
      { s with tcpProxy := { s.tcpProxy with captureThread := .finished } }
  | captures {payload : List UInt8} : s.tcpProxy.captureThread = .dispatching →
      Moves s (.packetHandler payload)
        { s with
          tcpProxy := { s.tcpProxy.call .datalink with
            payloadQueue := pushPayload s.tcpProxy.payloadQueue payload } }
  | dispatched : s.tcpProxy.captureThread = .dispatching → Moves s .dispatched
      { s with tcpProxy := { s.tcpProxy with captureThread := .loopTest } }
  | monitorEnds : s.monitorThread = .loopTest → s.shutdownRequested = true → Moves s .monitorTest
      { s with shutdownRequested := false, monitoringActive := false, monitorThread := .finished }
  | goesOn : s.monitorThread = .loopTest → s.shutdownRequested = false → Moves s .monitorTest
      { s with monitorThread := .receiving }
  | receives : s.monitorThread = .receiving → Moves s .receive s.receive

theorem monitorStep_moves {s s' : Monitor} {l : MonitorLabel} (hstep : monitorStep s l = some s') :
    s.Moves l s' := by
  -- a label without its guard is no step, so each case begins with the guard
  cases l with
  | start outcome =>
      obtain ⟨hidle, hstart⟩ := Option.ite_none_right_eq_some.mp hstep
      rw [Monitor.start] at hstart
      split at hstart
      · rename_i hactive
        cases hstart
        exact .startActive hidle hactive
      · rename_i hinactive
        obtain ⟨-, heq⟩ := Option.ite_none_right_eq_some.mp hstart
        cases heq
        exact .starts hidle (Bool.eq_false_iff.mpr hinactive)
  | stop =>
      obtain ⟨hidle, hstop⟩ := Option.ite_none_right_eq_some.mp hstep
      split at hstop
      · rename_i hactive
        cases hstop
        exact .stops hidle hactive
      · rename_i hinactive
        cases hstop
        exact .stopInactive hidle (Bool.eq_false_iff.mpr hinactive)
  | terminate =>
      obtain ⟨hcaller, heq⟩ := Option.ite_none_right_eq_some.mp hstep
      cases heq
      exact .terminates hcaller
  | joinCapture =>
      obtain ⟨⟨hcaller, hjoinable⟩, heq⟩ := Option.ite_none_right_eq_some.mp hstep
      cases heq
      exact .joinsCapture hcaller hjoinable
  | joinMonitor =>
      obtain ⟨⟨hcaller, hjoinable⟩, heq⟩ := Option.ite_none_right_eq_some.mp hstep
      cases heq
      exact .joinsMonitor hcaller hjoinable
  | captureTest =>
      obtain ⟨hthread, htest⟩ := Option.ite_none_right_eq_some.mp hstep
      split at htest
      · rename_i hrunning
        cases htest
        exact .dispatches hthread hrunning
      · rename_i hquiet
        cases htest
        exact .captureEnds hthread (Bool.eq_false_iff.mpr hquiet)
  | packetHandler payload =>
      obtain ⟨hthread, heq⟩ := Option.ite_none_right_eq_some.mp hstep
      cases heq
      exact .captures hthread
  | dispatched =>
      obtain ⟨hthread, heq⟩ := Option.ite_none_right_eq_some.mp hstep
      cases heq
      exact .dispatched hthread
  | monitorTest =>
      obtain ⟨hthread, htest⟩ := Option.ite_none_right_eq_some.mp hstep
      split at htest
      · rename_i hshutdown
        cases htest
        exact .monitorEnds hthread hshutdown
      · rename_i hquiet
        cases htest
        exact .goesOn hthread (Bool.eq_false_iff.mpr hquiet)
  | receive =>
      obtain ⟨hthread, heq⟩ := Option.ite_none_right_eq_some.mp hstep
      cases heq
      exact .receives hthread

/-! ## What holds between sessions -/

/-- The next `start` opens a session: `stop` has returned, or none was needed. -/
def Monitor.Startable (s : Monitor) : Prop := s.caller = .idle ∧ s.monitoringActive = false

section Calls

variable (p : TcpProxy) (c : Nat → PcapCall)

@[simp] theorem call_running : (p.call c).running = p.running := by
  rw [TcpProxy.call]
  cases p.pcapHandle <;> rfl

@[simp] theorem call_captureThread : (p.call c).captureThread = p.captureThread := by
  rw [TcpProxy.call]
  cases p.pcapHandle <;> rfl

@[simp] theorem call_payloadQueue : (p.call c).payloadQueue = p.payloadQueue := by
  rw [TcpProxy.call]
  cases p.pcapHandle <;> rfl

end Calls

/-- Between sessions both threads have been joined; no queued payload is empty. -/
structure Sound (s : Monitor) : Prop where
  quiet    : s.caller = .idle → s.shutdownRequested = false
  stopped  : s.caller = .idle → s.monitoringActive = false →
    s.tcpProxy.captureThread = .none ∧ s.monitorThread = .none
  closing  : s.caller = .joiningMonitor → s.tcpProxy.captureThread = .none
  payloads : ∀ p ∈ s.tcpProxy.payloadQueue, p ≠ []

theorem sound_init : Sound Monitor.init where
  quiet    := fun _ => rfl
  stopped  := fun _ _ => ⟨rfl, rfl⟩
  closing  := fun h => nomatch h
  payloads := fun _ hp => nomatch hp

@[simp] theorem terminateBegin_payloadQueue (p : TcpProxy) :
    p.terminateBegin.payloadQueue = p.payloadQueue := call_payloadQueue _ _

@[simp] theorem terminateEnd_captureThread (p : TcpProxy) :
    p.terminateEnd.captureThread = .none := call_captureThread _ _

@[simp] theorem terminateEnd_payloadQueue (p : TcpProxy) :
    p.terminateEnd.payloadQueue = p.payloadQueue := call_payloadQueue _ _

@[simp] theorem startSniffing_payloadQueue (p : TcpProxy) (outcome : PcapOutcome) :
    (p.startSniffing outcome).1.payloadQueue = p.payloadQueue := by
  cases outcome <;> rfl

/-- A failed `startSniffing` starts no capture thread. -/
theorem startSniffing_captureThread {p : TcpProxy} {outcome : PcapOutcome}
    (h : (p.startSniffing outcome).2 ≠ true) :
    (p.startSniffing outcome).1.captureThread = p.captureThread := by
  cases outcome with
  | openFails => rfl
  | compileFails => rfl
  | setfilterFails => rfl
  | opened => exact absurd rfl h

/-- A `start` that comes to `startSniffing`. -/
theorem sound_sniffing {s : Monitor} (h : Sound s) (hidle : s.caller = .idle)
    (outcome : PcapOutcome) :
    Sound (s.prepared.sniffing (s.prepared.tcpProxy.startSniffing outcome)) := by
  have hpay : ∀ p ∈ (s.prepared.tcpProxy.startSniffing outcome).1.payloadQueue, p ≠ [] := by
    simp only [startSniffing_payloadQueue, Monitor.prepared, terminateEnd_payloadQueue,
      terminateBegin_payloadQueue]
    exact h.payloads
  have hclosing : s.caller ≠ .joiningMonitor := by
    rw [hidle]
    simp
  rw [Monitor.sniffing]
  split
  · exact ⟨fun _ => rfl, (by simp), fun hc => absurd hc hclosing, hpay⟩
  · -- a failed start leaves both threads joined
    rename_i hfail
    refine ⟨fun _ => h.quiet hidle, fun _ _ => ⟨?_, rfl⟩, fun hc => absurd hc hclosing, hpay⟩
    exact (startSniffing_captureThread hfail).trans (terminateEnd_captureThread _)

/-- Steps of the capture thread happen outside the pauses between sessions. -/
theorem Sound.of_capture {s : Monitor} (h : Sound s) {p : TcpProxy}
    (hthread : s.tcpProxy.captureThread ≠ .none) (hpay : ∀ q ∈ p.payloadQueue, q ≠ []) :
    Sound { s with tcpProxy := p } :=
  ⟨h.quiet, fun hc ha => absurd (h.stopped hc ha).1 hthread,
    fun hc => absurd (h.closing hc) hthread, hpay⟩

theorem sound_receive {s : Monitor} (h : Sound s) (hthread : s.monitorThread ≠ .none) :
    Sound s.receive := by
  have hrest : ∀ p ∈ (receiveData s.tcpProxy.payloadQueue kMonitorBufferBytes).2, p ≠ [] := by
    intro p hp
    rw [receiveData_queue] at hp
    exact h.payloads p (List.mem_of_mem_tail hp)
  have hstopped : s.caller = .idle → s.monitoringActive = false →
      s.tcpProxy.captureThread = .none ∧ MonitorThread.loopTest = .none :=
    fun hc ha => absurd (h.stopped hc ha).2 hthread
  rw [Monitor.receive]
  dsimp only
  split
  · exact ⟨h.quiet, hstopped, h.closing, hrest⟩
  · exact ⟨h.quiet, hstopped, h.closing, hrest⟩

/-- **Step lemma** of the threads and the queue. -/
theorem sound_step (s : Monitor) (l : MonitorLabel) (s' : Monitor) (h : Sound s)
    (hstep : monitorStep s l = some s') : Sound s' := by
  cases monitorStep_moves hstep with
  | startActive | stopInactive => exact h
  | starts hidle => exact sound_sniffing h hidle _
  | stops => exact ⟨by simp, by simp, by simp, h.payloads⟩
  | terminates =>
      refine ⟨by simp, by simp, by simp, ?_⟩
      simp only [terminateBegin_payloadQueue]
      exact h.payloads
  | joinsCapture =>
      refine ⟨by simp, by simp, fun _ => terminateEnd_captureThread _, ?_⟩
      simp only [terminateEnd_payloadQueue]
      exact h.payloads
  | joinsMonitor hjoining =>
      exact ⟨fun _ => rfl, fun _ _ => ⟨h.closing hjoining, rfl⟩, by simp, h.payloads⟩
  | dispatches hthread =>
      refine h.of_capture (by simp [hthread]) ?_
      simp only [call_payloadQueue]
      exact h.payloads
  | captureEnds hthread => exact h.of_capture (by simp [hthread]) h.payloads
  | captures hthread =>
      refine h.of_capture (by simp [hthread]) fun p hp => ?_
      exact ne_nil_of_mem_pushPayload h.payloads hp
  | dispatched hthread => exact h.of_capture (by simp [hthread]) h.payloads
  | monitorEnds _ hshutdown =>
      -- a shutdown is requested only while stop is under way
      have hbusy : s.caller ≠ .idle := by
        intro hc
        rw [h.quiet hc] at hshutdown
        cases hshutdown
      exact ⟨fun _ => rfl, fun hc => absurd hc hbusy, h.closing, h.payloads⟩
  | goesOn hthread =>
      have hnone : s.monitorThread ≠ .none := by simp [hthread]
      exact ⟨h.quiet, fun hc ha => absurd (h.stopped hc ha).2 hnone, h.closing, h.payloads⟩
  | receives hthread => exact sound_receive h (by simp [hthread])

/-- **Run lemma**: every history keeps the threads and the queue sound. -/
theorem sound_run {h : List MonitorLabel} {s : Monitor}
    (hrun : run monitorStep Monitor.init h = some s) : Sound s :=
  run_invariant monitorStep sound_step h sound_init hrun

end TcpMonitor
