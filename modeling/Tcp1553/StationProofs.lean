import Tcp1553.CaptureProofs
import Tcp1553.MarkProofs
import Tcp1553.WritesProofs

/-! # From the wire to the screen

    The capture thread queues payloads, the monitor thread takes them, parses them and
    relays what it decodes, and the user interface runs what the relay posts.
    `stationStep` interleaves the three with the clicks of the user.

    `station_run` takes a run apart: what the panel does in it, and which bytes reach
    it.  `station_shows` is the whole way: frames that a bus controller sends while the
    monitor runs are on the screen, one record for each. -/

namespace TcpView

open Delivery LabelledRuns StreamScanner TcpWire TcpParser TcpCapture TcpRelay

/-! ## The three threads -/

/-- The payloads captured and the panel. -/
structure Station where
  payloadQueue : List (List UInt8)
  panel        : BusMonitorPanel

/-- Before the first capture. -/
def Station.init : Station := ⟨[], .init⟩

/-- A payload is captured, the monitor thread goes round its loop, or something happens
    on the user interface. -/
inductive StationLabel where
  | packetHandler (payload : List UInt8)
  | monitorLoop (wallClock : Nat → WallClock) (now : Int)
  | ui (l : ViewLabel)

/-- The user interface relays nothing itself. -/
def ViewLabel.onUi : ViewLabel → Bool
  | .processAndRelayData _ _ _ => false
  | _ => true

/-- One step of one of the threads. -/
def stationStep (t : Tree) (s : Station) : StationLabel → Option Station
  | .packetHandler payload => some { s with payloadQueue := pushPayload s.payloadQueue payload }
  | .monitorLoop wallClock now =>
      if s.panel.monitoringActive = true then
        let r := receiveData s.payloadQueue kMonitorBufferBytes
        if 0 < r.1.length then
          some {
            payloadQueue := r.2
            panel := viewStep t s.panel (.processAndRelayData r.1 wallClock now) }
        else some { s with payloadQueue := r.2 }
      else none
  | .ui l => if l.onUi = true then some { s with panel := viewStep t s.panel l } else none

/-- The payloads captured in a run. -/
def captured (ls : List StationLabel) : List (List UInt8) :=
  ls.filterMap fun
    | .packetHandler payload => some payload
    | _ => none

/-- The buffers a panel is given. -/
def buffers (vs : List ViewLabel) : List (List UInt8) :=
  vs.filterMap fun
    | .processAndRelayData buffer _ _ => some buffer
    | _ => none

/-- The panel only relays and runs closures. -/
def ViewLabel.watches : ViewLabel → Bool
  | .processAndRelayData _ _ _ => true
  | .runClosure => true
  | _ => false

/-- Nobody clicks. -/
def StationLabel.watches : StationLabel → Bool
  | .ui l => l.watches
  | _ => true

/-! ## Taking a run apart -/

/-- A payload that fits comes out of the queue as it went in. -/
theorem receiveData_flatten {q : List (List UInt8)}
    (hfit : ∀ payload ∈ q, payload.length ≤ kMonitorBufferBytes) :
    (receiveData q kMonitorBufferBytes).1 ++ (receiveData q kMonitorBufferBytes).2.flatten
      = q.flatten := by
  cases q with
  | nil => rfl
  | cons payload rest =>
      have hall : payload.take (min payload.length kMonitorBufferBytes) = payload :=
        take_min_eq_self.mpr (hfit payload List.mem_cons_self)
      show payload.take _ ++ rest.flatten = _
      rw [hall, List.flatten_cons]

theorem receiveData_fits {q : List (List UInt8)}
    (hfit : ∀ payload ∈ q, payload.length ≤ kMonitorBufferBytes) :
    ∀ payload ∈ (receiveData q kMonitorBufferBytes).2, payload.length ≤ kMonitorBufferBytes := by
  intro payload hpayload
  rw [receiveData_queue] at hpayload
  exact hfit payload (List.mem_of_mem_tail hpayload)

/-- **Step lemma**: what a step does to the panel, and where the bytes are behind it. -/
theorem station_step {t : Tree} {s s' : Station} {l : StationLabel}
    (hstep : stationStep t s l = some s')
    (hfit : ∀ payload ∈ s.payloadQueue, payload.length ≤ kMonitorBufferBytes)
    (hl : ∀ payload ∈ captured [l], payload.length ≤ kMonitorBufferBytes)
    (hwatch : l.watches = true) :
    ∃ vs, s'.panel = viewRun t s.panel vs ∧ (∀ v ∈ vs, v.watches = true) ∧
      (buffers vs).flatten ++ s'.payloadQueue.flatten
        = s.payloadQueue.flatten ++ (captured [l]).flatten ∧
      ∀ payload ∈ s'.payloadQueue, payload.length ≤ kMonitorBufferBytes := by
  cases l with
  | packetHandler payload =>
      cases hstep
      refine ⟨[], rfl, (fun v hv => by cases hv), ?_, fun p hp => ?_⟩
      · show (pushPayload s.payloadQueue payload).flatten = _ ++ [payload].flatten
        rw [pushPayload_flatten, List.flatten_singleton]
      · rcases mem_pushPayload hp with hold | ⟨rfl, -⟩
        · exact hfit p hold
        · exact hl p List.mem_cons_self
  | monitorLoop wallClock now =>
      have hbytes := receiveData_flatten hfit
      have hrest := receiveData_fits hfit
      have hnone : (captured [.monitorLoop wallClock now]).flatten = [] := rfl
      rw [hnone, List.append_nil]
      by_cases hactive : s.panel.monitoringActive = true
      · rw [stationStep, if_pos hactive] at hstep
        dsimp only at hstep
        by_cases hpos : 0 < (receiveData s.payloadQueue kMonitorBufferBytes).1.length
        · rw [if_pos hpos] at hstep
          cases hstep
          refine ⟨[.processAndRelayData _ wallClock now], rfl, List.forall_mem_singleton.mpr rfl, ?_,
            hrest⟩
          show [_].flatten ++ _ = _
          rw [List.flatten_singleton, hbytes]
        · rw [if_neg hpos] at hstep
          cases hstep
          have hempty := List.length_eq_zero_iff.mp (Nat.eq_zero_of_not_pos hpos)
          rw [hempty] at hbytes
          exact ⟨[], rfl, (fun v hv => by cases hv), hbytes, hrest⟩
      · rw [stationStep, if_neg hactive] at hstep
        cases hstep
  | ui l =>
      obtain ⟨honUi, hpanel⟩ := Option.ite_none_right_eq_some.mp hstep
      cases hpanel
      refine ⟨[l], rfl, List.forall_mem_singleton.mpr hwatch, ?_, hfit⟩
      have hnone : buffers [l] = [] := by
        cases l with
        | processAndRelayData buffer wallClock now => cases honUi
        | _ => rfl
      rw [hnone]
      exact (List.append_nil _).symm

/-- **Run lemma**: while nobody clicks, the bytes captured reach the panel in order. -/
theorem station_run (t : Tree) (ls : List StationLabel) :
    ∀ {s s' : Station}, run (stationStep t) s ls = some s' →
      (∀ payload ∈ s.payloadQueue, payload.length ≤ kMonitorBufferBytes) →
      (∀ payload ∈ captured ls, payload.length ≤ kMonitorBufferBytes) →
      (∀ l ∈ ls, l.watches = true) →
      ∃ vs, s'.panel = viewRun t s.panel vs ∧ (∀ v ∈ vs, v.watches = true) ∧
        (buffers vs).flatten ++ s'.payloadQueue.flatten
          = s.payloadQueue.flatten ++ (captured ls).flatten := by
  induction ls with
  | nil =>
      intro s s' hrun _ _ _
      cases hrun
      exact ⟨[], rfl, (fun v hv => by cases hv), (List.append_nil _).symm⟩
  | cons l ls ih =>
      intro s s'' hrun hfit hcaptured hwatch
      have hsplit : captured (l :: ls) = captured [l] ++ captured ls :=
        List.filterMap_append (l := [l])
      rw [hsplit] at hcaptured ⊢
      obtain ⟨s', hstep, hrest⟩ := run_cons_inv _ hrun
      obtain ⟨vs, hpanel, hvs, hbytes, hfit'⟩ := station_step hstep hfit
        (fun p hp => hcaptured p (List.mem_append_left _ hp)) (hwatch l List.mem_cons_self)
      obtain ⟨vs', hpanel', hvs', hbytes'⟩ := ih hrest hfit'
        (fun p hp => hcaptured p (List.mem_append_right _ hp))
        fun m hm => hwatch m (List.mem_cons_of_mem _ hm)
      refine ⟨vs ++ vs', ?_, ?_, ?_⟩
      · rw [hpanel', hpanel]
        exact List.foldl_append.symm
      · exact fun v hv => (List.mem_append.mp hv).elim (hvs v) (hvs' v)
      · rw [buffers, List.filterMap_append, List.flatten_append, List.append_assoc]
        show (buffers vs).flatten ++ ((buffers vs').flatten ++ s''.payloadQueue.flatten) = _
        rw [hbytes', ← List.append_assoc, hbytes, List.append_assoc, List.flatten_append]

/-! ## A panel that nobody clicks on -/

/-- A closure that is run changes nothing the relay looks at. -/
theorem runClosure_bm (t : Tree) (s : BusMonitorPanel) :
    (viewStep t s .runClosure).bm = s.bm ∧
      (viewStep t s .runClosure).monitoringActive = s.monitoringActive := by
  cases hqueue : s.pendingEvents with
  | nil =>
      simp only [viewStep, hqueue]
      exact ⟨trivial, trivial⟩
  | cons closure pendingEvents =>
      simp only [viewStep, hqueue]
      obtain ⟨-, hbm, hactive, -⟩ := call_rest t { s with pendingEvents } closure
      exact ⟨hbm, hactive⟩

/-- **What it relays**: what passes the filter of what the buffers decode to. -/
theorem received_watching (t : Tree) (vs : List ViewLabel) :
    ∀ s : BusMonitorPanel, s.monitoringActive = true → (∀ v ∈ vs, v.watches = true) →
      (received (viewEvents t s vs)).map Prod.fst
        = (transactions (s.bm.protocolParser.parseChunks (buffers vs)).1).filter s.bm.passes := by
  induction vs with
  | nil => exact fun _ _ _ => rfl
  | cons v vs ih =>
      intro s hactive hwatch
      have hrest := ih (viewStep t s v)
      have hwatch' : ∀ u ∈ vs, u.watches = true := fun u hu => hwatch u (List.mem_cons_of_mem _ hu)
      rw [received_viewEvents, List.map_append]
      cases v with
      | processAndRelayData buffer wallClock now =>
          have hstep : ∃ bm, (viewStep t s (.processAndRelayData buffer wallClock now)).bm = bm ∧
              bm.passes = s.bm.passes ∧
              bm.protocolParser = (s.bm.protocolParser.parseStream buffer).2 ∧
              (viewStep t s (.processAndRelayData buffer wallClock now)).monitoringActive
                = true := by
            rw [viewStep, if_pos hactive]
            refine ⟨_, rfl, ?_⟩
            dsimp only
            rw [processAndRelayData_eq]
            split <;> exact ⟨rfl, rfl, hactive⟩
          obtain ⟨bm, hbm, hpasses, hparser, hactive'⟩ := hstep
          have hbuffers : buffers (.processAndRelayData buffer wallClock now :: vs)
              = buffer :: buffers vs := rfl
          rw [hrest hactive' hwatch', hbm, hpasses, hparser, relayedBy, if_pos hactive,
            Relay.acceptedFrom, accepted_fst, hbuffers, ProtocolParser.parseChunks,
            transactions_append, List.filter_append]
      | runClosure =>
          obtain ⟨hbm, hactive'⟩ := runClosure_bm t s
          rw [hrest (hactive'.trans hactive) hwatch', hbm]
          rfl
      | _ => cases hwatch _ List.mem_cons_self

/-- It keeps what is due. -/
theorem keeps_watching (t : Tree) (vs : List ViewLabel) :
    ∀ s : BusMonitorPanel, (∀ v ∈ vs, v.watches = true) → ∀ e ∈ viewEvents t s vs, e.Keeps := by
  induction vs with
  | nil => intro s _ e he; cases he
  | cons v vs ih =>
      intro s hwatch e he
      rcases List.mem_append.mp he with hfirst | hrest
      · cases v with
        | processAndRelayData buffer wallClock now =>
            rw [deliveries] at hfirst
            split at hfirst
            · rcases List.mem_cons.mp hfirst with rfl | hupdate
              · exact trivial
              · split at hupdate
                · rw [List.mem_singleton.mp hupdate]
                  exact trivial
                · cases hupdate
            · cases hfirst
        | runClosure =>
            rw [deliveries] at hfirst
            split at hfirst
            · rw [List.mem_singleton.mp hfirst]
              exact trivial
            · cases hfirst
        | _ => cases hwatch _ List.mem_cons_self
      · exact ih _ (fun u hu => hwatch u (List.mem_cons_of_mem _ hu)) e hrest

/-- And it keeps the marks. -/
theorem marksKept_watching (t : Tree) (vs : List ViewLabel) :
    ∀ s : BusMonitorPanel, (∀ v ∈ vs, v.watches = true) → MarksKept t s vs := by
  induction vs with
  | nil => exact fun _ _ => trivial
  | cons v vs ih =>
      intro s hwatch
      refine ⟨?_, ih _ fun u hu => hwatch u (List.mem_cons_of_mem _ hu)⟩
      cases v with
      | processAndRelayData buffer wallClock now => exact trivial
      | runClosure => exact trivial
      | _ => cases hwatch _ List.mem_cons_self

/-! ## The whole way -/

/-- The panel behind a click on "Start" that succeeds. -/
def Station.start (t : Tree) (s : Station) (now : Int) : Station :=
  { s with panel := viewStep t s.panel (.onStartStopClicked true now) }

/-- The panel of a station is a panel after a run. -/
theorem station_panel (t : Tree) (ls : List StationLabel) :
    ∀ {s s' : Station}, run (stationStep t) s ls = some s' →
      ∃ vs, s'.panel = viewRun t s.panel vs := by
  induction ls with
  | nil =>
      intro s s' hrun
      cases hrun
      exact ⟨[], rfl⟩
  | cons l ls ih =>
      intro s s'' hrun
      obtain ⟨s', hstep, hrest⟩ := run_cons_inv _ hrun
      obtain ⟨vs, hvs⟩ := ih hrest
      have hone : ∃ vs, s'.panel = viewRun t s.panel vs := by
        cases l with
        | packetHandler payload =>
            cases hstep
            exact ⟨[], rfl⟩
        | monitorLoop wallClock now =>
            rw [stationStep] at hstep
            split at hstep
            · dsimp only at hstep
              split at hstep
              · cases hstep
                exact ⟨[.processAndRelayData _ wallClock now], rfl⟩
              · cases hstep
                exact ⟨[], rfl⟩
            · cases hstep
        | ui l =>
            obtain ⟨-, hpanel⟩ := Option.ite_none_right_eq_some.mp hstep
            cases hpanel
            exact ⟨[l], rfl⟩
      obtain ⟨us, hus⟩ := hone
      refine ⟨us ++ vs, ?_⟩
      rw [hvs, hus]
      exact List.foldl_append.symm

/-- Keys are pending only with the text of their transactions. -/
def Together (s : BusMonitorPanel) : Prop :=
  s.bm.pendingMessages = "" → s.bm.pendingActiveKeys = []

theorem together_step (t : Tree) {s : BusMonitorPanel} (h : Together s) (l : ViewLabel) :
    Together (viewStep t s l) := by
  refine view_rule t l h ?_ ?_ (fun _ => h) (fun _ _ _ _ => rfl) (fun _ _ _ _ => rfl) (fun _ => h)
    h h fun _ _ _ _ => h
  · intro buffer wallClock now _ _ hnone
    have hreceived : (s.bm.received buffer wallClock).pendingMessages = "" →
        (s.bm.received buffer wallClock).pendingActiveKeys = [] := by
      intro hempty
      obtain ⟨hpending, haccepted⟩ := String.append_eq_empty_iff.mp hempty
      show markActive s.bm.pendingActiveKeys (s.bm.acceptedFrom buffer wallClock) = []
      rw [(texts_eq_empty_iff _).mp haccepted, h hpending]
      rfl
    have hcall := processAndRelayData_eq s.bm buffer wallClock now
    dsimp only at hnone ⊢
    rw [hcall] at hnone ⊢
    split at hnone
    · rename_i hdue
      rw [if_pos hdue]
      rfl
    · rename_i hdue
      rw [if_neg hdue]
      exact hreceived hnone
  · intro closure pendingEvents _
    obtain ⟨-, hbm, -⟩ := call_rest t { s with pendingEvents } closure
    rw [Together, hbm]
    exact h

theorem together_run (t : Tree) (vs : List ViewLabel) :
    ∀ {s : BusMonitorPanel}, Together s → Together (viewRun t s vs) := by
  induction vs with
  | nil => exact fun h => h
  | cons v vs ih => exact fun h => ih (together_step t h v)

/-- Behind a click on "Start" only the colour of items can be left, if no key waits. -/
theorem dueMark_cleared (t : Tree) {s : BusMonitorPanel} {p : TreePath}
    (hevents : s.pendingEvents = []) {sniffing : Bool} {now : Int}
    (h : DueMark ((s.cleared t).started sniffing now) p) :
    (s.resetTreeVisualState t).green (itemId p) = true := by
  rcases h with hgreen | ⟨key, hkey, -⟩ | ⟨key, hkey, -⟩
  · exact hgreen
  · have hwaits : _ ∈ s.pendingEvents := hkey
    rw [hevents] at hwaits
    cases hwaits
  · cases hkey

/-- And none is. -/
theorem not_dueMark_started {vs : List ViewLabel}
    (hidle : (viewRun built .init vs).monitoringActive = false)
    (hevents : (viewRun built .init vs).pendingEvents = []) (now : Int) (p : TreePath) :
    ¬DueMark (viewStep built (viewRun built .init vs) (.onStartStopClicked true now)) p := by
  intro hdue
  rw [viewStep, onStartStopClicked_idle built (Bool.eq_false_iff.mp hidle)] at hdue
  have hgreen := dueMark_cleared built hevents hdue
  rw [green_reset] at hgreen
  obtain ⟨r, -, hmarks⟩ := dueMark_received (Or.inl hgreen.1)
  exact hgreen.2 hmarks.inModel

/-- Behind a click on "Start" the monitor is active, with a fresh parser and the filter
    there was. -/
theorem started_bm (t : Tree) {s : BusMonitorPanel} (hidle : s.monitoringActive = false)
    (now : Int) :
    (viewStep t s (.onStartStopClicked true now)).monitoringActive = true ∧
      (viewStep t s (.onStartStopClicked true now)).bm = s.bm.start now := by
  rw [viewStep, onStartStopClicked_idle t (Bool.eq_false_iff.mp hidle)]
  exact ⟨rfl, rfl⟩

/-- When nothing waits at a start, and nothing is on its way at the end, all that was
    relayed in between has been delivered. -/
theorem shows_watched (t : Tree) {s : BusMonitorPanel} {f : Feed Relayed} (h : Shows s f)
    (hidle : s.monitoringActive = false) (hevents : s.pendingEvents = []) (now : Int)
    {vs : List ViewLabel} (hwatch : ∀ v ∈ vs, v.watches = true)
    (hqueue : (viewRun t (viewStep t s (.onStartStopClicked true now)) vs).pendingEvents = [])
    (hpending :
      (viewRun t (viewStep t s (.onStartStopClicked true now)) vs).bm.pendingMessages = "") :
    Shows (viewRun t (viewStep t s (.onStartStopClicked true now)) vs)
      ⟨received (viewEvents t (viewStep t s (.onStartStopClicked true now)) vs), [], []⟩ := by
  have hwaits : f.queued = [] := by
    have htexts := h.queue
    rw [hevents] at htexts
    exact List.map_eq_nil_iff.mp htexts.symm
  have hstarted := shows_started t h hidle true now
  rw [hwaits] at hstarted
  have hshows := shows_run t vs hstarted
  have hdue := due_run _ (⟨[], [], []⟩ : Feed Relayed)
    (keeps_watching t vs (viewStep t s (.onStartStopClicked true now)) hwatch)
  generalize viewEvents t (viewStep t s (.onStartStopClicked true now)) vs = es at hshows hdue ⊢
  generalize viewRun t (viewStep t s (.onStartStopClicked true now)) vs = s' at *
  generalize Feed.run ⟨[], [], []⟩ es = g at hshows hdue
  obtain ⟨shown, queued, pending⟩ := g
  have htexts := hshows.queue
  have htext := hshows.pending
  rw [hqueue] at htexts
  rw [hpending] at htext
  obtain rfl : queued = [] := List.map_eq_nil_iff.mp htexts.symm
  obtain rfl : pending = [] := (texts_eq_empty_iff _).mp htext.symm
  have hshown : shown = received es := (List.append_nil _).symm.trans hdue
  rw [← hshown]
  exact hshows

/-- The filter of the monitor lets the frame through. -/
def Wanted (bm : Relay) (config : TcpEncoder.FrameConfig) : Prop :=
  bm.filterEnabled = true →
    (bm.filterRt = -1 ∨ config.rt = bm.filterRt) ∧ (bm.filterSa = -1 ∨ config.sa = bm.filterSa)

instance (bm : Relay) (config : TcpEncoder.FrameConfig) : Decidable (Wanted bm config) :=
  inferInstanceAs (Decidable (_ → _))

/-- What is relayed of a frame that is shown in full: it, if the filter lets it through. -/
theorem passes_shown (bm : Relay) {config : TcpEncoder.FrameConfig} {trans : MessageTransaction}
    (h : TcpEncoder.Shows config trans) : Wanted bm config ↔ bm.passes trans = true := by
  rw [Wanted, ← h.rt, ← h.sa]
  by_cases hon : bm.filterEnabled = true
  · have hsame : { bm with filterEnabled := true } = bm := by rw [← hon]
    have hpasses := passes_enabled bm ⟨bm.filterBus, bm.filterRt, bm.filterSa, bm.filterMc⟩ trans
    exact (forall_prop_of_true hon).trans (hsame ▸ hpasses).symm
  · rw [Relay.passes, if_neg hon]
    exact ⟨fun _ => rfl, fun _ h' => absurd h' hon⟩

/-- **From the wire to the screen.**  When the monitor is started with nothing left over,
    with any filter or none, and nobody clicks until all that was captured has been
    read, relayed and run, then the frames on the wire that the filter lets through are
    on the screen: one record for each, in their order, the oldest cut off only where
    2000 lines remain; and the green items of the tree are those of their subaddresses. -/
theorem station_shows {before ls : List StationLabel} {s t : Station} {now : Int}
    {items : List (List UInt8 × TcpEncoder.FrameConfig)} {trailing : List UInt8}
    (hbefore : run (stationStep built) .init before = some s)
    (hidle : s.panel.monitoringActive = false)
    (hnothing : s.payloadQueue = [] ∧ s.panel.pendingEvents = [])
    (hrun : run (stationStep built) (s.start built now) ls = some t)
    (hwatch : ∀ l ∈ ls, l.watches = true)
    (hfit : ∀ payload ∈ captured ls, payload.length ≤ kMonitorBufferBytes)
    (hstream : (captured ls).flatten = TcpEncoder.wireStream items trailing)
    (hjunk : ∀ it ∈ items, TcpFraming.NoSync it.1) (htrail : TcpFraming.NoSync trailing)
    (hedit : ∀ it ∈ items, TcpController.Editable it.2)
    (hend : t.payloadQueue = [] ∧ t.panel.pendingEvents = [] ∧
      t.panel.bm.pendingMessages = "") :
    ∃ gone rest cut,
      List.Forall₂ (fun config (r : Relayed) => TcpEncoder.Shows config r.1)
          ((items.map Prod.snd).filter (Wanted s.panel.bm)) (gone ++ rest) ∧
        t.panel.messageList = cut ++ (texts rest).toList ∧ CutOf gone cut ∧
        readBack (texts rest) = some (rest.map fun r => recordOf r.1) ∧
        (gone = [] ∨ 2000 ≤ TextLines.breaks t.panel.messageList + 1) ∧
        ∀ p, t.panel.green (itemId p) = true ↔ ∃ r ∈ gone ++ rest, Marks (keyOf r.1) p := by
  obtain ⟨vs₀, hpanel⟩ := station_panel built before hbefore
  obtain ⟨vs, hpanel', hvs, hbytes⟩ := station_run built ls hrun
    (fun payload hin => by rw [Station.start, hnothing.1] at hin; cases hin) hfit hwatch
  obtain ⟨hqueue, hevents, hpending⟩ := hend
  rw [hqueue, Station.start, hnothing.1, List.flatten_nil, List.append_nil, List.nil_append,
    hstream] at hbytes
  obtain ⟨hactive, hbm⟩ := started_bm built hidle now
  -- what is relayed is what was sent
  have hrelayed := received_watching built vs _ hactive hvs
  rw [hbm, parseChunks_flatten, hbytes] at hrelayed
  have hframes := List.rel_filter (p := (Wanted s.panel.bm ·)) (q := s.panel.bm.passes)
    (fun config trans hshows => decide_eq_true_iff.trans (passes_shown s.panel.bm hshows))
    (TcpController.shows_wireStream htrail items hjunk hedit)
  have hpanel' : t.panel = viewRun built (viewStep built s.panel (.onStartStopClicked true now)) vs :=
    hpanel'
  have hkeys : t.panel.bm.pendingActiveKeys = [] := by
    rw [hpanel'] at hpending ⊢
    rw [hpanel] at hpending ⊢
    exact together_run built vs (together_step built
      (together_run built vs₀ (s := Station.init.panel) fun _ => rfl) _) hpending
  have hmarks : ∀ p, DueMark t.panel p ↔ ∃ r ∈ received
      (viewEvents built (viewStep built s.panel (.onStartStopClicked true now)) vs),
      Marks (keyOf r.1) p := by
    intro p
    rw [hpanel']
    rw [hpanel] at hidle hnothing ⊢
    have hsound := keysSound_step built (keysSound_run built vs₀ keysSound_init)
      (.onStartStopClicked true now)
    have hdue := dueMark_run p vs hsound (marksKept_watching built vs _ hvs)
    exact hdue.trans (or_iff_right (not_dueMark_started hidle hnothing.2 now p))
  have hcomplete := received_complete built vs
    (viewStep built s.panel (.onStartStopClicked true now))
  rw [hpanel'] at hevents hpending
  have hshows := shows_run built vs₀ shows_init
  have hstart : Shows s.panel _ := hpanel ▸ hshows
  have hlist := shows_watched built hstart hidle hnothing.2 now hvs hevents hpending
  rw [← hpanel'] at hlist hevents
  obtain ⟨gone, rest, cut, hshown, hmessages, hcut, hread, hkept⟩ := hlist.split hcomplete
  refine ⟨gone, rest, cut, ?_, hmessages, hcut, hread, hkept, fun p => ?_⟩
  · rw [hshown, ← List.forall₂_map_right_iff, hrelayed]
    exact hframes
  · rw [hshown]
    refine Iff.trans ?_ (hmarks p)
    rw [DueMark, hevents, hkeys]
    simp only [List.not_mem_nil, false_and, exists_false, or_false]

/-! ## One frame -/

/-- The user interface catches up. -/
theorem run_catchUp (t : Tree) (closures : List Closure) :
    ∀ s : Station, s.panel.pendingEvents = closures →
      run (stationStep t) s ((catchUp s.panel).map .ui)
        = some { s with panel := viewRun t s.panel (catchUp s.panel) } := by
  induction closures with
  | nil =>
      intro s h
      rw [catchUp, h]
      rfl
  | cons closure closures ih =>
      intro s h
      obtain ⟨hevents, -⟩ := runClosure_rest t h
      have hrest := ih { s with panel := viewStep t s.panel .runClosure } hevents
      rw [catchUp, hevents] at hrest
      rw [catchUp, h]
      exact hrest

theorem relay_active (t : Tree) {s : BusMonitorPanel} (hactive : s.monitoringActive = true)
    (buffer : List UInt8) (wallClock : Nat → WallClock) (now : Int) :
    (viewStep t s (.processAndRelayData buffer wallClock now)).monitoringActive = true ∧
      (viewStep t s (.processAndRelayData buffer wallClock now)).bm
        = s.bm.processAndRelayData buffer wallClock now := by
  rw [viewStep, if_pos hactive]
  exact ⟨hactive, rfl⟩

/-- An update, and the closures it posts, leave nothing on its way. -/
theorem settles (t : Tree) {s : BusMonitorPanel} (hactive : s.monitoringActive = true)
    (buffer : List UInt8) (wallClock : Nat → WallClock) {now : Int}
    (hdue : UpdateDue s.bm.lastGuiUpdate now) :
    let s' := viewStep t s (.processAndRelayData buffer wallClock now)
    (viewRun t s' (catchUp s')).pendingEvents = [] ∧
      (viewRun t s' (catchUp s')).bm.pendingMessages = "" := by
  intro s'
  obtain ⟨hevents, hbm⟩ := catchUp_rest t s'.pendingEvents s' rfl
  refine ⟨hevents, ?_⟩
  rw [hbm, (relay_active t hactive buffer wallClock now).2, processAndRelayData_eq, if_pos hdue]
  rfl

/-- A pass of the monitor loop that finds a payload it can hold. -/
theorem stationStep_loop (t : Tree) {s : Station} {payload : List UInt8}
    {rest : List (List UInt8)} (hqueue : s.payloadQueue = payload :: rest)
    (hpayload : 0 < payload.length ∧ payload.length ≤ kMonitorBufferBytes)
    (hactive : s.panel.monitoringActive = true) (wallClock : Nat → WallClock) (now : Int) :
    stationStep t s (.monitorLoop wallClock now)
      = some ⟨rest, viewStep t s.panel (.processAndRelayData payload wallClock now)⟩ := by
  have hall : payload.take (min payload.length kMonitorBufferBytes) = payload :=
    take_min_eq_self.mpr hpayload.2
  have hreceive : receiveData s.payloadQueue kMonitorBufferBytes = (payload, rest) := by
    rw [hqueue, receiveData, hall]
  rw [stationStep, if_pos hactive, hreceive]
  exact if_pos hpayload.1

/-- A packet in two payloads, the second read 60 ms behind the first. -/
def twoReads (first second : List UInt8) : List StationLabel :=
  [.packetHandler first, .packetHandler second, .monitorLoop midnight 0,
    .monitorLoop midnight 60000000]

/-- The panel behind them. -/
def readTwice (t : Tree) (first second : List UInt8) : BusMonitorPanel :=
  viewRun t (Station.init.start t 0).panel [.processAndRelayData first midnight 0,
    .processAndRelayData second midnight 60000000]

/-- A payload that the monitor loop can hold. -/
def Holdable (payload : List UInt8) : Prop :=
  0 < payload.length ∧ payload.length ≤ kMonitorBufferBytes

theorem run_twoReads (t : Tree) {first second : List UInt8} (h : Holdable first)
    (h' : Holdable second) :
    run (stationStep t) (Station.init.start t 0)
        (twoReads first second ++ (catchUp (readTwice t first second)).map .ui)
      = some ⟨[], viewRun t (readTwice t first second) (catchUp (readTwice t first second))⟩ := by
  have hactive := (started_bm t (s := Station.init.panel) rfl 0).1
  have hqueue : pushPayload (pushPayload [] first) second = [first, second] := by
    rw [pushPayload, pushPayload, if_pos h.1, if_pos h'.1]
    rfl
  have hsecond : stationStep t ⟨pushPayload [] first, (Station.init.start t 0).panel⟩
      (.packetHandler second) = some ⟨[first, second], (Station.init.start t 0).panel⟩ :=
    congrArg (fun q => some (⟨q, _⟩ : Station)) hqueue
  have hread := stationStep_loop t (s := ⟨[first, second], (Station.init.start t 0).panel⟩) rfl h
    hactive midnight 0
  have hread' := stationStep_loop t (s := ⟨[second],
    viewStep t (Station.init.start t 0).panel (.processAndRelayData first midnight 0)⟩) rfl h'
    (relay_active t hactive first midnight 0).1 midnight 60000000
  have hreads : run (stationStep t) (Station.init.start t 0) (twoReads first second)
      = some ⟨[], readTwice t first second⟩ := by
    refine (run_cons_of_step _ hsecond _).trans ?_
    refine (run_cons_of_step _ hread _).trans ?_
    exact run_cons_of_step _ hread' _
  rw [run_append _ hreads]
  exact run_catchUp t _ ⟨[], readTwice t first second⟩ rfl

theorem readTwice_settles (t : Tree) (first second : List UInt8) :
    (viewRun t (readTwice t first second) (catchUp (readTwice t first second))).pendingEvents = [] ∧
      (viewRun t (readTwice t first second)
        (catchUp (readTwice t first second))).bm.pendingMessages = "" := by
  obtain ⟨hactive, hbm⟩ := started_bm t (s := Station.init.panel) rfl 0
  obtain ⟨hactive', hbm'⟩ := relay_active t hactive first midnight 0
  have hearly : ¬UpdateDue ((Relay.init true true).start 0).lastGuiUpdate 0 :=
    show ¬UpdateDue 0 0 by decide
  refine settles t hactive' second midnight ?_
  rw [hbm', hbm, processAndRelayData_eq]
  show UpdateDue (if UpdateDue ((Relay.init true true).start 0).lastGuiUpdate 0 then _
    else _ : Relay).lastGuiUpdate 60000000
  rw [if_neg hearly]
  show UpdateDue 0 60000000
  decide

theorem captured_twoReads (first second : List UInt8) (vs : List ViewLabel) :
    captured (twoReads first second ++ vs.map .ui) = [first, second] := by
  have hui : captured (vs.map .ui) = [] := by
    refine List.filterMap_eq_nil_iff.mpr fun l hl => ?_
    obtain ⟨v, -, rfl⟩ := List.mem_map.mp hl
    rfl
  rw [captured, List.filterMap_append]
  show captured (twoReads first second) ++ captured (vs.map .ui) = _
  rw [hui]
  rfl

theorem watches_twoReads (first second : List UInt8) (s : BusMonitorPanel) :
    ∀ l ∈ twoReads first second ++ (catchUp s).map .ui, l.watches = true := by
  intro l hl
  rcases List.mem_append.mp hl with hread | hui
  · rw [twoReads] at hread
    simp only [List.mem_cons, List.not_mem_nil, or_false] at hread
    rcases hread with rfl | rfl | rfl | rfl <;> rfl
  · obtain ⟨v, hv, rfl⟩ := List.mem_map.mp hui
    obtain ⟨closure, -, rfl⟩ := List.mem_map.mp hv
    rfl

/-- The packet of a transmit request, cut in two by the network, is on the screen. -/
theorem station_shows_syncFrame :
    ∃ first second gone rest cut,
      first ++ second = TcpEncoder.packetBytes TcpEncoder.syncFrame ∧
        List.Forall₂ (fun config (r : Relayed) => TcpEncoder.Shows config r.1)
          [TcpEncoder.syncFrame] (gone ++ rest) ∧
        (viewRun built (readTwice built first second)
          (catchUp (readTwice built first second))).messageList = cut ++ (texts rest).toList ∧
        CutOf gone cut ∧ readBack (texts rest) = some (rest.map fun r => recordOf r.1) := by
  have hlen := TcpEncoder.length_packetBytes TcpEncoder.syncFrame
  have hbytes := List.take_append_drop 40 (TcpEncoder.packetBytes TcpEncoder.syncFrame)
  have hfirst : ((TcpEncoder.packetBytes TcpEncoder.syncFrame).take 40).length = 40 := by
    rw [List.length_take, hlen]
    rfl
  have hsecond : ((TcpEncoder.packetBytes TcpEncoder.syncFrame).drop 40).length = 30 := by
    rw [List.length_drop, hlen]
  generalize (TcpEncoder.packetBytes TcpEncoder.syncFrame).take 40 = first at hbytes hfirst
  generalize (TcpEncoder.packetBytes TcpEncoder.syncFrame).drop 40 = second at hbytes hsecond
  have hholds : Holdable first ∧ Holdable second := by
    rw [Holdable, Holdable, hfirst, hsecond]
    decide
  have hstream : (captured (twoReads first second
      ++ (catchUp (readTwice built first second)).map .ui)).flatten
      = TcpEncoder.wireStream [([], TcpEncoder.syncFrame)] [] := by
    rw [captured_twoReads, List.flatten_cons, List.flatten_singleton, hbytes]
    exact (List.append_nil _).symm
  have hfit : ∀ payload ∈ captured (twoReads first second
      ++ (catchUp (readTwice built first second)).map .ui),
      payload.length ≤ kMonitorBufferBytes := by
    rw [captured_twoReads]
    exact List.forall_mem_cons.mpr ⟨hholds.1.2, List.forall_mem_singleton.mpr hholds.2.2⟩
  obtain ⟨gone, rest, cut, hframes, hlist, hcut, hread, -⟩ := station_shows
    (show run (stationStep built) .init [] = some .init from rfl) rfl ⟨rfl, rfl⟩
    (run_twoReads built hholds.1 hholds.2) (watches_twoReads first second _) hfit hstream
    (List.forall_mem_singleton.mpr (by decide)) (by decide)
    (List.forall_mem_singleton.mpr (by decide))
    ⟨rfl, readTwice_settles built first second⟩
  exact ⟨first, second, gone, rest, cut, hbytes, hframes, hlist, hcut, hread⟩

end TcpView
