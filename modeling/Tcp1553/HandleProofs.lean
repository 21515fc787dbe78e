import Mathlib.Data.List.Count
import Tcp1553.MonitorProofs

/-! # The life of a capture handle

    `startSniffing` opens a handle, `terminate` closes it and clears
    `m_pcapHandle`.  The two failure paths of `startSniffing` close the handle as
    well, but leave `m_pcapHandle` as it is, so that the next `terminate` breaks
    and closes it again.

    `Tidy` is what a proxy is like as long as neither path is taken: the current
    handle is open, and every other one has been closed, by the last call made on
    it.  `closesHandles_iff` says that nothing else goes wrong. -/

namespace TcpMonitor

open LabelledRuns

/-- The handle a call is made on. -/
def PcapCall.handle : PcapCall → Nat
  | .openLive handle | .compile handle | .setfilter handle | .dispatch handle
  | .datalink handle | .breakloop handle | .close handle => handle

/-- No handle is closed twice, and none is used once it is closed. -/
structure ClosedOnce (pcapCalls : List PcapCall) : Prop where
  once : ∀ handle, pcapCalls.count (.close handle) ≤ 1
  last : pcapCalls.Pairwise fun a b => ∀ handle, a = .close handle → b.handle ≠ handle

/-- This step is a `start` whose `startSniffing` returns false. -/
def SniffingFails (s : Monitor) (l : MonitorLabel) : Prop :=
  ∃ outcome, l = .start outcome ∧ s.Startable ∧
    (s.prepared.tcpProxy.startSniffing outcome).2 = false

/-- What the step leaves behind: handles closed once, and after a failed
    `startSniffing` none that is open or current. -/
def ClosesHandles (s : Monitor) (l : MonitorLabel) : Prop :=
  ∀ s', monitorStep s l = some s' → ClosedOnce s'.tcpProxy.pcapCalls ∧
    (SniffingFails s l → s'.tcpProxy.pcapHandle = none ∧ s'.tcpProxy.running = false ∧
      ∀ handle, .openLive handle ∈ s'.tcpProxy.pcapCalls → .close handle ∈ s'.tcpProxy.pcapCalls)

/-- A `start` that comes to `startSniffing` gets no handle, or one with its filter. -/
def NoLateFailure (s : Monitor) : MonitorLabel → Prop
  | .start outcome => s.Startable → outcome = .openFails ∨ outcome = .opened
  | _ => True

/-! ## What the proxy keeps -/

/-- The current handle is open, every other one closed by its last call. -/
structure Tidy (p : TcpProxy) : Prop where
  last    : p.pcapCalls.Pairwise fun a b => ∀ handle, a = .close handle → b.handle ≠ handle
  known   : ∀ c ∈ p.pcapCalls, c.handle < p.nextHandle
  current : ∀ handle, p.pcapHandle = some handle →
    handle < p.nextHandle ∧ .close handle ∉ p.pcapCalls
  settled : ∀ handle, .openLive handle ∈ p.pcapCalls →
    .close handle ∈ p.pcapCalls ∨ p.pcapHandle = some handle

/-- A handle closed by its last call is closed once. -/
theorem count_close_le {pcapCalls : List PcapCall}
    (h : pcapCalls.Pairwise fun a b => ∀ handle, a = .close handle → b.handle ≠ handle)
    (handle : Nat) : pcapCalls.count (.close handle) ≤ 1 := by
  induction pcapCalls with
  | nil => exact Nat.zero_le 1
  | cons c calls ih =>
      obtain ⟨hfirst, hrest⟩ := List.pairwise_cons.mp h
      by_cases hc : c = .close handle
      · have hnone : PcapCall.close handle ∉ calls := fun hin => hfirst _ hin handle hc rfl
        rw [hc, List.count_cons_self, List.count_eq_zero_of_not_mem hnone]
      · rw [List.count_cons_of_ne hc]
        exact ih hrest

theorem Tidy.closedOnce {p : TcpProxy} (h : Tidy p) : ClosedOnce p.pcapCalls :=
  ⟨count_close_le h.last, h.last⟩

/-- A call on the current handle. -/
theorem Tidy.last_call {p : TcpProxy} (h : Tidy p) {handle : Nat} {c : PcapCall}
    (hcurrent : p.pcapHandle = some handle) (hc : c.handle = handle) :
    (p.pcapCalls ++ [c]).Pairwise fun a b => ∀ handle, a = .close handle → b.handle ≠ handle := by
  refine List.pairwise_append.mpr ⟨h.last, List.pairwise_singleton _ _, ?_⟩
  intro a ha b hb g hclose hg
  obtain rfl := List.mem_singleton.mp hb
  -- the current handle has not been closed
  rw [hclose, ← hg, hc] at ha
  exact (h.current handle hcurrent).2 ha

/-- Calls other than `pcap_close` keep the proxy tidy. -/
theorem Tidy.call {p : TcpProxy} (h : Tidy p) {c : Nat → PcapCall}
    (hc : ∀ handle, (c handle).handle = handle) (hopen : ∀ g handle, c g ≠ .close handle) :
    Tidy (p.call c) := by
  rw [TcpProxy.call]
  split
  · rename_i handle hcurrent
    refine ⟨h.last_call hcurrent (hc handle), ?_, ?_, ?_⟩
    · intro d hd
      rcases List.mem_append.mp hd with hold | hnew
      · exact h.known d hold
      · rw [List.mem_singleton.mp hnew, hc]
        exact (h.current handle hcurrent).1
    · intro g hg
      refine ⟨(h.current g hg).1, fun hd => ?_⟩
      rcases List.mem_append.mp hd with hold | hnew
      · exact (h.current g hg).2 hold
      · exact hopen handle g (List.mem_singleton.mp hnew).symm
    · intro g hg
      rcases List.mem_append.mp hg with hold | hnew
      · exact (h.settled g hold).imp_left (List.mem_append_left _)
      · have hsame := congrArg PcapCall.handle (List.mem_singleton.mp hnew)
        rw [hc] at hsame
        exact Or.inr (hcurrent.trans (congrArg some hsame.symm))
  · exact h

/-- The tidiness of a proxy is in its handle and its calls. -/
theorem Tidy.of_same {p q : TcpProxy} (h : Tidy p) (hhandle : q.pcapHandle = p.pcapHandle)
    (hnext : q.nextHandle = p.nextHandle) (hcalls : q.pcapCalls = p.pcapCalls) : Tidy q := by
  obtain ⟨last, known, current, settled⟩ := h
  rw [← hcalls] at last known current settled
  rw [← hnext] at known current
  rw [← hhandle] at current settled
  exact ⟨last, known, current, settled⟩

theorem tidy_terminateBegin {p : TcpProxy} (h : Tidy p) : Tidy p.terminateBegin := by
  have hquiet : Tidy { p with running := false } := h.of_same rfl rfl rfl
  exact hquiet.call (fun _ => rfl) fun _ _ hc => by cases hc

/-- `terminate` closes the current handle and forgets it. -/
theorem tidy_terminateEnd {p : TcpProxy} (h : Tidy p) : Tidy p.terminateEnd := by
  rw [TcpProxy.terminateEnd, TcpProxy.call]
  split
  · rename_i handle hcurrent
    have hcurrent : p.pcapHandle = some handle := hcurrent
    refine ⟨h.last_call hcurrent rfl, ?_, (fun _ hnone => by cases hnone), ?_⟩
    · intro d hd
      rcases List.mem_append.mp hd with hold | hnew
      · exact h.known d hold
      · rw [List.mem_singleton.mp hnew]
        exact (h.current handle hcurrent).1
    · intro g hg
      rcases List.mem_append.mp hg with hold | hnew
      · rcases h.settled g hold with hclosed | hthis
        · exact Or.inl (List.mem_append_left _ hclosed)
        · obtain rfl : handle = g := Option.some.inj (hcurrent.symm.trans hthis)
          exact Or.inl (List.mem_append_right _ (List.mem_singleton_self _))
      · cases List.mem_singleton.mp hnew
  · rename_i hnone
    have hnone : p.pcapHandle = none := hnone
    exact h.of_same hnone.symm rfl rfl

/-- A new handle on a proxy that has none. -/
theorem tidy_opened {p : TcpProxy} (h : Tidy p) (hnone : p.pcapHandle = none) :
    Tidy { p with pcapHandle := some p.nextHandle, nextHandle := p.nextHandle + 1 } := by
  refine ⟨h.last, fun c hc => Nat.lt_succ_of_lt (h.known c hc), ?_, ?_⟩
  · rintro handle ⟨⟩
    exact ⟨Nat.lt_succ_self _, fun hin => Nat.lt_irrefl _ (h.known _ hin)⟩
  · intro handle hin
    refine Or.inl ((h.settled handle hin).resolve_right fun hthis => ?_)
    rw [hnone] at hthis
    cases hthis

/-- **`startSniffing`** keeps a proxy without a handle tidy when it fails to open one
    or succeeds. -/
theorem tidy_startSniffing {p : TcpProxy} (h : Tidy p) (hnone : p.pcapHandle = none)
    {outcome : PcapOutcome} (houtcome : outcome = .openFails ∨ outcome = .opened) :
    Tidy (p.startSniffing outcome).1 := by
  rcases houtcome with rfl | rfl
  · exact h.of_same hnone.symm rfl rfl
  · have h1 := (tidy_opened h hnone).call (c := .openLive) (fun _ => rfl) fun _ _ hc => by cases hc
    have h2 := h1.call (c := .compile) (fun _ => rfl) fun _ _ hc => by cases hc
    have h3 := h2.call (c := .setfilter) (fun _ => rfl) fun _ _ hc => by cases hc
    exact h3.of_same rfl rfl rfl

theorem prepared_pcapHandle (s : Monitor) : s.prepared.tcpProxy.pcapHandle = none := rfl

theorem call_pcapHandle (p : TcpProxy) (c : Nat → PcapCall) :
    (p.call c).pcapHandle = p.pcapHandle := by
  rw [TcpProxy.call]
  split <;> rfl

/-- The proxy after the answer of `startSniffing`. -/
theorem sniffing_tcpProxy (s : Monitor) (r : TcpProxy × Bool) : (s.sniffing r).tcpProxy = r.1 := by
  rw [Monitor.sniffing]
  split <;> rfl

/-- **Step lemma** of the handles. -/
theorem tidy_step (s : Monitor) (l : MonitorLabel) (s' : Monitor) (h : Tidy s.tcpProxy)
    (hok : NoLateFailure s l) (hstep : monitorStep s l = some s') : Tidy s'.tcpProxy := by
  cases monitorStep_moves hstep with
  | startActive | stopInactive | stops | joinsMonitor | monitorEnds | goesOn => exact h
  | starts hidle hactive =>
      rw [sniffing_tcpProxy]
      exact tidy_startSniffing (tidy_terminateEnd (tidy_terminateBegin h)) (prepared_pcapHandle s)
        (hok ⟨hidle, hactive⟩)
  | terminates => exact tidy_terminateBegin h
  | joinsCapture => exact tidy_terminateEnd h
  | dispatches =>
      have hcall := h.call (c := .dispatch) (fun _ => rfl) fun _ _ hc => by cases hc
      exact hcall.of_same rfl rfl rfl
  | captures =>
      have hcall := h.call (c := .datalink) (fun _ => rfl) fun _ _ hc => by cases hc
      exact hcall.of_same rfl rfl rfl
  | captureEnds | dispatched => exact h.of_same rfl rfl rfl
  | receives =>
      rw [Monitor.receive]
      dsimp only
      split <;> exact h.of_same rfl rfl rfl

theorem tidy_init : Tidy Monitor.init.tcpProxy where
  last    := List.Pairwise.nil
  known   := fun _ hc => by cases hc
  current := fun _ hc => by cases hc
  settled := fun _ hc => by cases hc

/-! ## Failed starts -/

/-- A `start` that may open a session comes to `startSniffing`. -/
theorem start_of_startable {s : Monitor} (h : Sound s) (hstart : s.Startable)
    (outcome : PcapOutcome) :
    monitorStep s (.start outcome)
      = some (s.prepared.sniffing (s.prepared.tcpProxy.startSniffing outcome)) := by
  obtain ⟨hidle, hactive⟩ := hstart
  obtain ⟨hcapture, hmonitor⟩ := h.stopped hidle hactive
  show (if s.caller = .idle then s.start outcome else none) = _
  rw [if_pos hidle, Monitor.start, if_neg (by rw [hactive]; exact Bool.false_ne_true),
    if_pos ⟨Or.inl hcapture, Or.inl hmonitor⟩]

/-- An outcome other than these two leaves a closed handle current. -/
theorem startSniffing_late {p : TcpProxy} {outcome : PcapOutcome}
    (h : ¬(outcome = .openFails ∨ outcome = .opened)) :
    (p.startSniffing outcome).2 = false ∧
      (p.startSniffing outcome).1.pcapHandle = some p.nextHandle := by
  cases outcome with
  | openFails => exact absurd (Or.inl rfl) h
  | opened => exact absurd (Or.inr rfl) h
  | compileFails => exact ⟨rfl, by simp only [TcpProxy.startSniffing, call_pcapHandle]⟩
  | setfilterFails => exact ⟨rfl, by simp only [TcpProxy.startSniffing, call_pcapHandle]⟩

/-- **What a step leaves behind** is decided by the outcome of a `start`. -/
theorem closesHandles_step_iff {s : Monitor} (hsound : Sound s) (h : Tidy s.tcpProxy)
    (l : MonitorLabel) : ClosesHandles s l ↔ NoLateFailure s l := by
  constructor
  · intro hcloses
    cases l with
    | start outcome =>
        intro hstart
        by_contra hlate
        obtain ⟨hfalse, hkept⟩ := startSniffing_late (p := s.prepared.tcpProxy) hlate
        have hstep := start_of_startable hsound hstart outcome
        obtain ⟨hnone, -⟩ := (hcloses _ hstep).2 ⟨outcome, rfl, hstart, hfalse⟩
        rw [sniffing_tcpProxy, hkept] at hnone
        cases hnone
    | _ => trivial
  · intro hok s' hstep
    have htidy := tidy_step s l s' h hok hstep
    refine ⟨htidy.closedOnce, ?_⟩
    rintro ⟨outcome, rfl, hstart, hfalse⟩
    -- of the two outcomes left only the first is a failure
    rcases hok hstart with rfl | rfl
    · have heq := (start_of_startable hsound hstart .openFails).symm.trans hstep
      cases heq
      rw [sniffing_tcpProxy] at htidy ⊢
      have hrunning : s.prepared.tcpProxy.running = false :=
        (call_running _ _).trans (call_running _ _)
      refine ⟨rfl, hrunning, fun handle hin => ?_⟩
      exact (htidy.settled handle hin).resolve_right (fun hc => by cases hc)
    · cases hfalse

/-- **When every handle is closed exactly once.**  A history closes no handle twice,
    uses none that is closed, and leaves none behind after a failed `startSniffing`,
    exactly when no `start` gets a handle whose filter fails. -/
theorem closesHandles_iff (h : List MonitorLabel) :
    Guarded monitorStep ClosesHandles Monitor.init h
      ↔ Guarded monitorStep NoLateFailure Monitor.init h :=
  guarded_iff monitorStep
    (fun s l (hboth : Sound s ∧ Tidy s.tcpProxy) => closesHandles_step_iff hboth.1 hboth.2 l)
    (fun s l s' hboth hok hstep =>
      ⟨sound_step s l s' hboth.1 hstep, tidy_step s l s' hboth.2 hok hstep⟩)
    h ⟨sound_init, tidy_init⟩

/-- Two starts whose filter does not compile: the second closes the handle of the
    first again. -/
theorem failedCompile_closes_twice :
    ¬∀ h, Guarded monitorStep ClosesHandles Monitor.init h := by
  intro hall
  have hguard := hall [.start .compileFails, .start .openFails]
  obtain ⟨-, hsecond⟩ := (guarded_cons_of_step monitorStep rfl _).mp hguard
  obtain ⟨hcloses, -⟩ := (guarded_cons_of_step monitorStep rfl _).mp hsecond
  exact absurd ((hcloses _ rfl).1.once 0) (by decide)

end TcpMonitor
