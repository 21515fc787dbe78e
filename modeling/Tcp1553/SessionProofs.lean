import Tcp1553.MonitorProofs

/-! # Monitoring sessions

    `start` resets the parser, and nothing ever clears the payload queue, neither
    `start` nor `stop` nor `terminate`.  `Isolated` is what a session should be: it
    decodes what a monitor with no past decodes.  `isolated_iff_drained` says which
    histories allow it: exactly those that leave the queue empty.

    Histories differ in the capture handles they have used up as well.
    `monitorStep_forget` is the unwinding step that takes the handles out of the
    comparison.

    Within a session the monitor runs the pipeline of capture and parser:
    `pipeline_run` is that simulation, and `session_decodes` what a session that
    begins and ends with an empty queue decodes. -/

namespace TcpMonitor

open TcpWire TcpParser TcpCapture LabelledRuns StreamScanner

/-! ## Sessions -/

/-- A session goes on until the next `start`. -/
def IsSession (ls : List MonitorLabel) : Prop := ∀ outcome, .start outcome ∉ ls

/-- What a session that begins in a state decodes, and the bytes the parser is
    left with. -/
def sessionView (s : Monitor) (ls : List MonitorLabel) :
    Option (List MessageTransaction × List UInt8) :=
  (run monitorStep s (.start .opened :: ls)).map fun t =>
    (t.decoded, t.protocolParser.accumulator)

/-- Every session from here decodes what it would on a monitor with no past. -/
def Isolated (s : Monitor) : Prop :=
  ∀ ls, IsSession ls → sessionView s ls = sessionView Monitor.init ls

/-! ## What no thread can see of the handles -/

/-- The sniffer without its handles. -/
def TcpProxy.forget (p : TcpProxy) : TcpProxy :=
  { p with pcapHandle := none, nextHandle := 0, pcapCalls := [] }

/-- The monitor without its handles. -/
def Monitor.forget (s : Monitor) : Monitor := { s with tcpProxy := s.tcpProxy.forget }

@[simp] theorem call_forget (p : TcpProxy) (c : Nat → PcapCall) :
    (p.call c).forget = p.forget := by
  rw [TcpProxy.call]
  cases p.pcapHandle <;> rfl

/-- Two sniffers that differ in their handles only. -/
theorem forget_eq_iff {p q : TcpProxy} :
    p.forget = q.forget ↔ p.running = q.running ∧ p.captureThread = q.captureThread ∧
      p.payloadQueue = q.payloadQueue := by
  constructor
  · intro h
    refine ⟨?_, ?_, ?_⟩
    · show p.forget.running = q.forget.running
      rw [h]
    · show p.forget.captureThread = q.forget.captureThread
      rw [h]
    · show p.forget.payloadQueue = q.forget.payloadQueue
      rw [h]
  · rintro ⟨hr, hc, hq⟩
    rw [TcpProxy.forget, TcpProxy.forget, hr, hc, hq]

@[simp] theorem terminateBegin_forget (p : TcpProxy) :
    p.terminateBegin.forget = { p.forget with running := false } := call_forget _ _

@[simp] theorem terminateEnd_forget (p : TcpProxy) :
    p.terminateEnd.forget = { p.forget with captureThread := .none } := call_forget _ _

/-- How far `startSniffing` comes does not depend on the handles. -/
theorem startSniffing_forget {p q : TcpProxy} (h : p.forget = q.forget) (outcome : PcapOutcome) :
    (p.startSniffing outcome).1.forget = (q.startSniffing outcome).1.forget ∧
      (p.startSniffing outcome).2 = (q.startSniffing outcome).2 := by
  have hown (r : TcpProxy) : (r.startSniffing outcome).1.forget
      = (r.forget.startSniffing outcome).1.forget := by cases outcome <;> rfl
  refine ⟨?_, ?_⟩
  · rw [hown p, hown q, h]
  · cases outcome <;> rfl

/-- Monitors that differ in their handles only. -/
theorem monitor_forget_iff {s t : Monitor} :
    s.forget = t.forget ↔ s.tcpProxy.forget = t.tcpProxy.forget ∧
      s.protocolParser = t.protocolParser ∧ s.monitoringActive = t.monitoringActive ∧
      s.shutdownRequested = t.shutdownRequested ∧ s.monitorThread = t.monitorThread ∧
      s.caller = t.caller ∧ s.decoded = t.decoded := by
  rw [Monitor.forget, Monitor.forget, Monitor.mk.injEq]

theorem ite_forget {c c' : Prop} [Decidable c] [Decidable c'] {x x' y y' : Option Monitor}
    (hc : c ↔ c') (hx : x.map Monitor.forget = x'.map Monitor.forget)
    (hy : y.map Monitor.forget = y'.map Monitor.forget) :
    (if c then x else y).map Monitor.forget = (if c' then x' else y').map Monitor.forget := by
  by_cases h : c
  · rw [if_pos h, if_pos (hc.mp h)]
    exact hx
  · rw [if_neg h, if_neg fun h' => h (hc.mpr h')]
    exact hy

theorem some_forget {s t : Monitor} (h : s.forget = t.forget) :
    (some s).map Monitor.forget = (some t).map Monitor.forget := congrArg some h

theorem sniffing_forget {s t : Monitor} {r r' : TcpProxy × Bool} (h : s.forget = t.forget)
    (hr : r.1.forget = r'.1.forget) (hok : r.2 = r'.2) :
    (s.sniffing r).forget = (t.sniffing r').forget := by
  obtain ⟨-, hparser, hactive, hshutdown, hthread, hcaller, hdecoded⟩ := monitor_forget_iff.mp h
  rw [Monitor.sniffing, Monitor.sniffing, hok]
  split
  · exact monitor_forget_iff.mpr ⟨hr, hparser, rfl, rfl, rfl, hcaller, rfl⟩
  · exact monitor_forget_iff.mpr ⟨hr, hparser, hactive, hshutdown, hthread, hcaller, hdecoded⟩

/-- **Unwinding step.**  Monitors that differ in their handles only take the same
    steps. -/
theorem monitorStep_forget (s t : Monitor) (l : MonitorLabel) (h : s.forget = t.forget) :
    (monitorStep s l).map Monitor.forget = (monitorStep t l).map Monitor.forget := by
  obtain ⟨hp, hparser, hactive, hshutdown, hthread, hcaller, hdecoded⟩ := monitor_forget_iff.mp h
  obtain ⟨hrunning, hcapture, hqueue⟩ := forget_eq_iff.mp hp
  have hcjoin : s.tcpProxy.CaptureJoinable ↔ t.tcpProxy.CaptureJoinable := by
    rw [TcpProxy.CaptureJoinable, TcpProxy.CaptureJoinable, hcapture]
  have hmjoin : s.MonitorJoinable ↔ t.MonitorJoinable := by
    rw [Monitor.MonitorJoinable, Monitor.MonitorJoinable, hthread]
  cases l with
  | start outcome =>
      have hprep : s.prepared.tcpProxy.forget = t.prepared.tcpProxy.forget := by
        simp only [Monitor.prepared, terminateEnd_forget, terminateBegin_forget, hp]
      have hprep' : s.prepared.forget = t.prepared.forget :=
        monitor_forget_iff.mpr ⟨hprep, rfl, hactive, hshutdown, rfl, hcaller, hdecoded⟩
      obtain ⟨hsniff, hok⟩ := startSniffing_forget hprep outcome
      refine ite_forget (by rw [hcaller]) ?_ rfl
      refine ite_forget (by rw [hactive]) (some_forget h) ?_
      exact ite_forget (and_congr hcjoin hmjoin) (some_forget (sniffing_forget hprep' hsniff hok))
        rfl
  | stop =>
      refine ite_forget (by rw [hcaller]) (ite_forget (by rw [hactive]) ?_ (some_forget h)) rfl
      exact some_forget (monitor_forget_iff.mpr
        ⟨hp, hparser, hactive, rfl, hthread, rfl, hdecoded⟩)
  | terminate =>
      refine ite_forget (by rw [hcaller]) (some_forget (monitor_forget_iff.mpr
        ⟨?_, hparser, hactive, hshutdown, hthread, rfl, hdecoded⟩)) rfl
      simp only [terminateBegin_forget, hp]
  | joinCapture =>
      refine ite_forget (and_congr (by rw [hcaller]) hcjoin) (some_forget (monitor_forget_iff.mpr
        ⟨?_, hparser, hactive, hshutdown, hthread, rfl, hdecoded⟩)) rfl
      simp only [terminateEnd_forget, hp]
  | joinMonitor =>
      exact ite_forget (and_congr (by rw [hcaller]) hmjoin) (some_forget (monitor_forget_iff.mpr
        ⟨hp, hparser, rfl, rfl, rfl, rfl, hdecoded⟩)) rfl
  | captureTest =>
      refine ite_forget (by rw [hcapture]) (ite_forget (by rw [hrunning]) ?_ ?_) rfl
      · refine some_forget (monitor_forget_iff.mpr
          ⟨?_, hparser, hactive, hshutdown, hthread, hcaller, hdecoded⟩)
        simp only [forget_eq_iff, call_running, call_payloadQueue, hrunning, hqueue, and_self]
      · refine some_forget (monitor_forget_iff.mpr
          ⟨?_, hparser, hactive, hshutdown, hthread, hcaller, hdecoded⟩)
        exact forget_eq_iff.mpr ⟨hrunning, rfl, hqueue⟩
  | packetHandler payload =>
      refine ite_forget (by rw [hcapture]) (some_forget (monitor_forget_iff.mpr
        ⟨?_, hparser, hactive, hshutdown, hthread, hcaller, hdecoded⟩)) rfl
      simp only [forget_eq_iff, call_running, call_captureThread, hrunning, hcapture, hqueue,
        and_self]
  | dispatched =>
      refine ite_forget (by rw [hcapture]) (some_forget (monitor_forget_iff.mpr
        ⟨?_, hparser, hactive, hshutdown, hthread, hcaller, hdecoded⟩)) rfl
      exact forget_eq_iff.mpr ⟨hrunning, rfl, hqueue⟩
  | monitorTest =>
      refine ite_forget (by rw [hthread]) (ite_forget (by rw [hshutdown]) ?_ ?_) rfl
      · exact some_forget (monitor_forget_iff.mpr
          ⟨hp, hparser, rfl, rfl, rfl, hcaller, hdecoded⟩)
      · exact some_forget (monitor_forget_iff.mpr
          ⟨hp, hparser, hactive, hshutdown, rfl, hcaller, hdecoded⟩)
  | receive =>
      refine ite_forget (by rw [hthread]) (some_forget ?_) rfl
      rw [Monitor.receive, Monitor.receive, hqueue, hparser, hdecoded]
      have hpopped (q : List (List UInt8)) :
          { s.tcpProxy with payloadQueue := q }.forget
            = { t.tcpProxy with payloadQueue := q }.forget :=
        forget_eq_iff.mpr ⟨hrunning, hcapture, rfl⟩
      dsimp only
      split
      · exact monitor_forget_iff.mpr ⟨hpopped _, rfl, hactive, hshutdown, rfl, hcaller, rfl⟩
      · exact monitor_forget_iff.mpr
          ⟨hpopped _, rfl, hactive, hshutdown, rfl, hcaller, rfl⟩

/-! ## Sessions of drained and of undrained monitors -/

/-- The monitor as a session begins, up to handles: of its past only the queue is
    left. -/
def opened (queue : List (List UInt8)) : Monitor where
  tcpProxy          := ⟨none, true, .loopTest, queue, 0, []⟩
  protocolParser    := ProtocolParser.reset
  monitoringActive  := true
  shutdownRequested := false
  monitorThread     := .loopTest
  caller            := .idle
  decoded           := []

theorem start_opened {s : Monitor} (h : Sound s) (hs : s.Startable) :
    ∃ s', monitorStep s (.start .opened) = some s' ∧
      s'.forget = (opened s.tcpProxy.payloadQueue).forget := by
  obtain ⟨hidle, hinactive⟩ := hs
  obtain ⟨hcapture, hthread⟩ := h.stopped hidle hinactive
  have hact : ¬s.monitoringActive = true := by
    rw [hinactive]
    exact Bool.false_ne_true
  refine ⟨s.prepared.sniffing (s.prepared.tcpProxy.startSniffing .opened), ?_, ?_⟩
  · show (if s.caller = .idle then s.start .opened else none) = _
    rw [if_pos hidle, Monitor.start, if_neg hact, if_pos ⟨Or.inl hcapture, Or.inl hthread⟩]
  · refine monitor_forget_iff.mpr ⟨forget_eq_iff.mpr ⟨rfl, rfl, ?_⟩, rfl, rfl, rfl, rfl, hidle, rfl⟩
    show (s.prepared.tcpProxy.startSniffing .opened).1.payloadQueue = s.tcpProxy.payloadQueue
    rw [startSniffing_payloadQueue]
    simp only [Monitor.prepared, terminateEnd_payloadQueue, terminateBegin_payloadQueue]

/-- A session depends on the past through the queue alone. -/
theorem sessionView_eq {s : Monitor} (h : Sound s) (hs : s.Startable) (ls : List MonitorLabel) :
    sessionView s ls = (run monitorStep (opened s.tcpProxy.payloadQueue) ls).map fun t =>
      (t.decoded, t.protocolParser.accumulator) := by
  obtain ⟨s', hstart, hforget⟩ := start_opened h hs
  have hrun := run_observed monitorStep monitorStep_forget ls hforget
  have hview (o : Option Monitor) :
      o.map (fun t => (t.decoded, t.protocolParser.accumulator))
        = (o.map Monitor.forget).map fun t => (t.decoded, t.protocolParser.accumulator) := by
    cases o <;> rfl
  rw [sessionView, run_cons_of_step monitorStep hstart, hview, hrun, ← hview]

/-- The shortest session that looks at the queue: one pass of the monitor loop. -/
theorem one_pass (queue : List (List UInt8)) :
    (run monitorStep (opened queue) [.monitorTest, .receive]).map (fun t =>
        (t.decoded, t.protocolParser.accumulator))
      = some (transactions (scan parserScanner (receiveData queue kMonitorBufferBytes).1).1,
          (scan parserScanner (receiveData queue kMonitorBufferBytes).1).2) := by
  have hrun : run monitorStep (opened queue) [.monitorTest, .receive]
      = some { opened queue with monitorThread := .receiving }.receive := rfl
  rw [hrun, Monitor.receive]
  dsimp only
  split
  · rfl
  · rename_i hzero
    have hnil : (receiveData queue kMonitorBufferBytes).1 = [] :=
      List.length_eq_zero_iff.mp (Nat.eq_zero_of_not_pos hzero)
    rw [hnil]
    rfl

/-- **A session is isolated from the past exactly when the past left no payload
    in the queue**, for every history that ends between two sessions. -/
theorem isolated_iff_drained (h : List MonitorLabel) (s : Monitor)
    (hrun : run monitorStep Monitor.init h = some s) (hs : s.Startable) :
    Isolated s ↔ s.tcpProxy.payloadQueue = [] := by
  have hsound := sound_run hrun
  have hfresh := sessionView_eq sound_init ⟨rfl, rfl⟩
  constructor
  · intro hiso
    have hview := hiso [.monitorTest, .receive] (by intro o hin; simp at hin)
    rw [sessionView_eq hsound hs, hfresh, one_pass, one_pass] at hview
    cases hq : s.tcpProxy.payloadQueue with
    | nil => rfl
    | cons payload rest =>
        rw [hq] at hview
        have hne : payload.take (min payload.length kMonitorBufferBytes) ≠ [] := by
          have hpayload : payload ≠ [] := hsound.payloads payload (by rw [hq]; exact List.mem_cons_self)
          have hpos := List.length_pos_iff.mpr hpayload
          intro hnil
          have hlen := congrArg List.length hnil
          rw [List.length_take, List.length_nil, kMonitorBufferBytes] at hlen
          omega
        obtain ⟨htrans, hacc⟩ := Prod.mk.inj (Option.some.inj hview)
        exact absurd hacc ((scan_trace hne).resolve_left (fun hc => hc htrans))
  · intro hq ls _
    rw [sessionView_eq hsound hs, hfresh, hq]
    rfl

/-! ## A session as a run of the pipeline -/

/-- Steps of the monitor that the pipeline takes too. -/
def MonitorLabel.onPipeline : MonitorLabel → List PipelineLabel
  | .packetHandler payload => [.packetHandler payload]
  | .receive => [.monitorLoop]
  | _ => []

/-- The queue, the parser and the transactions of a monitor, with a record of what
    went in and what came out. -/
def Monitor.pipeline (s : Monitor) (pushed returned : List (List UInt8)) : Pipeline where
  payloadQueue := s.tcpProxy.payloadQueue
  parser       := s.protocolParser
  pushed       := pushed
  returned     := returned
  decoded      := s.decoded

/-- One pass of the monitor thread is one of the pipeline. -/
theorem pipeline_receive (s : Monitor) (pushed returned : List (List UInt8)) :
    monitorLoop (s.pipeline pushed returned) = s.receive.pipeline pushed
      (returned ++ [(receiveData s.tcpProxy.payloadQueue kMonitorBufferBytes).1]) := by
  by_cases hpos : 0 < (receiveData s.tcpProxy.payloadQueue kMonitorBufferBytes).1.length
  · have hreceive : s.receive = _ := if_pos hpos
    rw [hreceive]
    exact if_pos hpos
  · have hreceive : s.receive = _ := if_neg hpos
    rw [hreceive]
    exact if_neg hpos

/-- **Simulation step.**  Within a session the pipeline follows the monitor. -/
theorem pipeline_step {s s' : Monitor} {l : MonitorLabel} (hno : ∀ outcome, l ≠ .start outcome)
    (hstep : monitorStep s l = some s') (pushed returned : List (List UInt8)) :
    ∃ pushed' returned', run pipelineStep (s.pipeline pushed returned) l.onPipeline
      = some (s'.pipeline pushed' returned') := by
  -- only a captured payload and a pass of the monitor thread touch the pipeline
  have hsame (h : s'.pipeline pushed returned = s.pipeline pushed returned)
      (hl : l.onPipeline = []) : ∃ pushed' returned',
        run pipelineStep (s.pipeline pushed returned) l.onPipeline
          = some (s'.pipeline pushed' returned') := by
    refine ⟨pushed, returned, ?_⟩
    rw [hl, h]
    rfl
  cases monitorStep_moves hstep with
  | startActive | starts => exact absurd rfl (hno _)
  | terminates => exact hsame (by simp only [Monitor.pipeline, terminateBegin_payloadQueue]) rfl
  | joinsCapture => exact hsame (by simp only [Monitor.pipeline, terminateEnd_payloadQueue]) rfl
  | dispatches => exact hsame (by simp only [Monitor.pipeline, call_payloadQueue]) rfl
  | stopInactive | stops | joinsMonitor | captureEnds | dispatched | monitorEnds | goesOn =>
      exact hsame rfl rfl
  | @captures payload => exact ⟨pushed ++ [payload], returned, rfl⟩
  | receives => exact ⟨pushed, _, congrArg some (pipeline_receive s pushed returned)⟩

/-- **Simulation.**  A session is a run of the pipeline. -/
theorem pipeline_run {ls : List MonitorLabel} (hsession : IsSession ls) :
    ∀ {s t : Monitor} (pushed returned : List (List UInt8)), run monitorStep s ls = some t →
      ∃ pushed' returned', run pipelineStep (s.pipeline pushed returned)
        (ls.flatMap MonitorLabel.onPipeline) = some (t.pipeline pushed' returned') := by
  induction ls with
  | nil =>
      intro s t pushed returned hrun
      cases hrun
      exact ⟨pushed, returned, rfl⟩
  | cons l ls ih =>
      intro s t pushed returned hrun
      obtain ⟨s', hstep, hrest⟩ := run_cons_inv monitorStep hrun
      have hno : ∀ outcome, l ≠ .start outcome := by
        rintro outcome rfl
        exact hsession outcome List.mem_cons_self
      have hsession' : IsSession ls := fun o hin => hsession o (List.mem_cons_of_mem _ hin)
      obtain ⟨pushed', returned', hone⟩ := pipeline_step hno hstep pushed returned
      rw [List.flatMap_cons, run_append pipelineStep hone]
      exact ih hsession' pushed' returned' hrest

/-- **What a session decodes**: the bytes captured in it as one stream, if the queue
    is empty when it begins and when it ends and every payload fits the buffer. -/
theorem session_decodes {s t : Monitor} {ls : List MonitorLabel} (h : Sound s)
    (hs : s.Startable) (hsession : IsSession ls)
    (hrun : run monitorStep s (.start .opened :: ls) = some t)
    (hbegin : s.tcpProxy.payloadQueue = []) (hend : t.tcpProxy.payloadQueue = [])
    (hfit : ∀ payload ∈ payloadsOf (ls.flatMap MonitorLabel.onPipeline),
      payload.length ≤ kMonitorBufferBytes) :
    t.decoded = transactions
      (scan parserScanner (payloadsOf (ls.flatMap MonitorLabel.onPipeline)).flatten).1 := by
  obtain ⟨s', hstart, hforget⟩ := start_opened h hs
  rw [run_cons_of_step monitorStep hstart] at hrun
  obtain ⟨hproxy, hparser, -, -, -, -, hdecoded⟩ := monitor_forget_iff.mp hforget
  obtain ⟨-, -, hqueue⟩ := forget_eq_iff.mp hproxy
  have hinit : s'.pipeline [] [] = Pipeline.init := by
    rw [Monitor.pipeline, hparser, hdecoded, hqueue, hbegin]
    rfl
  obtain ⟨pushed, returned, hpipe⟩ := pipeline_run hsession [] [] hrun
  rw [hinit] at hpipe
  exact drained_run hfit hpipe hend

/-! ## A payload left over -/

/-- One session in which payloads are captured and none is taken. -/
def undrainedSession (payloads : List (List UInt8)) : List MonitorLabel :=
  [.start .opened, .captureTest] ++ payloads.map .packetHandler
    ++ [.stop, .terminate, .dispatched, .captureTest, .joinCapture, .monitorTest, .joinMonitor]

/-- Where it leaves the monitor after one packet. -/
def undrainedMonitor : Monitor :=
  { Monitor.init with
    tcpProxy := {
      pcapHandle    := none
      running       := false
      captureThread := .none
      payloadQueue  := [samplePacket 0x00 0x11]
      nextHandle    := 1
      pcapCalls     := [.openLive 0, .compile 0, .setfilter 0, .dispatch 0, .datalink 0,
        .breakloop 0, .close 0] } }

theorem isolated_undrainedMonitor_iff :
    run monitorStep Monitor.init (undrainedSession [samplePacket 0x00 0x11])
        = some undrainedMonitor ∧
      (Isolated undrainedMonitor ↔ undrainedMonitor.tcpProxy.payloadQueue = []) :=
  ⟨rfl, isolated_iff_drained (undrainedSession [samplePacket 0x00 0x11]) undrainedMonitor rfl
    ⟨rfl, rfl⟩⟩

/-- Two histories that differ in a payload captured in an earlier session give
    different sessions: the later one decodes the earlier packet. -/
theorem undrainedSession_leaks :
    ∃ s t, run monitorStep Monitor.init (undrainedSession [samplePacket 0x00 0x11]) = some s ∧
      run monitorStep Monitor.init (undrainedSession []) = some t ∧
      s.Startable ∧ t.Startable ∧
      sessionView s [.monitorTest, .receive] ≠ sessionView t [.monitorTest, .receive] := by
  refine ⟨_, _, rfl, rfl, ⟨rfl, rfl⟩, ⟨rfl, rfl⟩, ?_⟩
  decide +kernel

end TcpMonitor
