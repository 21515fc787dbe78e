import Tcp1553.RunProofs
import Tcp1553.ParserProofs

/-! # From the capture thread to the parser

    `TcpProxy::packetHandler` pushes payloads on a queue, the monitor loop takes
    them off with `receiveData` and hands the bytes to the parser.  Both run in
    their own threads, so the model is a step function with one label per
    locked section and a schedule is any interleaving.

    `receiveData` removes a whole payload but copies no more than the caller's
    buffer holds.  `conserved_step_iff` is what that means for one step, and
    `conserved_iff_fits` for whole runs: no byte is lost exactly as long as every
    payload fits the buffer. -/

namespace TcpCapture

open TcpWire TcpParser LabelledRuns StreamScanner

/-- `unsigned char buffer[4096]` of the monitor loop. -/
def kMonitorBufferBytes : Nat := 4096

/-- `receiveData`: the bytes copied into the buffer and the queue afterwards. -/
def receiveData (payloadQueue : List (List UInt8)) (maxBytes : Nat) :
    List UInt8 × List (List UInt8) :=
  match payloadQueue with
  | [] => ([], [])
  -- the whole payload is popped, whatever was copied
  | payload :: rest => (payload.take (min payload.length maxBytes), rest)

/-- The last part of `packetHandler`: an empty payload is not queued. -/
def pushPayload (payloadQueue : List (List UInt8)) (payload : List UInt8) :
    List (List UInt8) :=
  if 0 < payload.length then payloadQueue ++ [payload] else payloadQueue

/-- A packet of either mode with a constant payload. -/
def samplePacket (mode fill : UInt8) : List UInt8 :=
  [0xAA, 0x55, mode, 0x05, 0x02, 0x20] ++ List.replicate 64 fill

/-- The queue and the parser, with a record of what went in, what `receiveData`
    returned, and what was decoded. -/
structure Pipeline where
  payloadQueue : List (List UInt8)
  parser       : ProtocolParser
  pushed       : List (List UInt8)
  returned     : List (List UInt8)
  decoded      : List MessageTransaction

/-- Before the first capture. -/
def Pipeline.init : Pipeline := ⟨[], ProtocolParser.reset, [], [], []⟩

/-- A payload arriving, or one pass of the monitor loop. -/
inductive PipelineLabel where
  | packetHandler (payload : List UInt8)
  | monitorLoop
  deriving DecidableEq, Repr

/-- One pass of `monitorThreadFunc`. -/
def monitorLoop (s : Pipeline) : Pipeline :=
  let r := receiveData s.payloadQueue kMonitorBufferBytes
  if 0 < r.1.length then
    let q := s.parser.parseStream r.1
    { s with
      payloadQueue := r.2
      parser := q.2
      returned := s.returned ++ [r.1]
      decoded := s.decoded ++ transactions q.1 }
  else
    { s with payloadQueue := r.2, returned := s.returned ++ [r.1] }

/-- The interleaving of the two threads. -/
def pipelineStep (s : Pipeline) : PipelineLabel → Option Pipeline
  | .packetHandler payload =>
      some { s with
        payloadQueue := pushPayload s.payloadQueue payload
        pushed := s.pushed ++ [payload] }
  | .monitorLoop => some (monitorLoop s)

/-- Bytes returned so far, then bytes still queued, are the bytes pushed. -/
def Conserved (s : Pipeline) : Prop :=
  s.returned.flatten ++ s.payloadQueue.flatten = s.pushed.flatten

/-- A pass of the monitor loop finds a payload its buffer can hold, or none. -/
def FrontFits (s : Pipeline) : PipelineLabel → Prop
  | .packetHandler _ => True
  | .monitorLoop => ∀ payload, s.payloadQueue.head? = some payload →
      payload.length ≤ kMonitorBufferBytes

/-! ## What one step does to the queue -/

theorem pushPayload_flatten (q : List (List UInt8)) (payload : List UInt8) :
    (pushPayload q payload).flatten = q.flatten ++ payload := by
  rw [pushPayload]
  by_cases h : 0 < payload.length
  · rw [if_pos h, List.flatten_append, List.flatten_singleton]
  · have hnil : payload = [] := List.length_eq_zero_iff.mp (by omega)
    rw [if_neg h, hnil, List.append_nil]

theorem mem_pushPayload {q : List (List UInt8)} {payload p : List UInt8}
    (h : p ∈ pushPayload q payload) : p ∈ q ∨ (p = payload ∧ payload ≠ []) := by
  rw [pushPayload] at h
  by_cases hpos : 0 < payload.length
  · rw [if_pos hpos, List.mem_append, List.mem_singleton] at h
    exact h.imp_right fun hp => ⟨hp, List.length_pos_iff.mp hpos⟩
  · rw [if_neg hpos] at h
    exact Or.inl h

/-- No empty payload is ever queued. -/
theorem ne_nil_of_mem_pushPayload {q : List (List UInt8)} {payload p : List UInt8}
    (hq : ∀ p ∈ q, p ≠ []) (h : p ∈ pushPayload q payload) : p ≠ [] := by
  rcases mem_pushPayload h with hold | ⟨rfl, hne⟩
  · exact hq p hold
  · exact hne

/-- `receiveData` takes the payload at the front off the queue. -/
theorem receiveData_queue (q : List (List UInt8)) (maxBytes : Nat) :
    (receiveData q maxBytes).2 = q.tail := by
  cases q <;> rfl

/-- The bytes the next pass of the monitor loop gets. -/
def nextBytes (s : Pipeline) : List UInt8 :=
  (receiveData s.payloadQueue kMonitorBufferBytes).1

/-- **One pass of the monitor loop.**  Whether anything was returned makes no
    difference: parsing nothing changes nothing. -/
theorem monitorLoop_spec (s : Pipeline) :
    (monitorLoop s).payloadQueue = s.payloadQueue.tail ∧
      (monitorLoop s).returned = s.returned ++ [nextBytes s] ∧
      (monitorLoop s).pushed = s.pushed ∧
      (monitorLoop s).parser = (s.parser.parseStream (nextBytes s)).2 ∧
      (monitorLoop s).decoded
        = s.decoded ++ transactions (s.parser.parseStream (nextBytes s)).1 := by
  have htail := receiveData_queue s.payloadQueue kMonitorBufferBytes
  simp only [monitorLoop]
  by_cases hpos : 0 < (receiveData s.payloadQueue kMonitorBufferBytes).1.length
  · rw [if_pos hpos]
    exact ⟨htail, rfl, rfl, rfl, rfl⟩
  · have hnil : nextBytes s = [] := List.length_eq_zero_iff.mp (Nat.eq_zero_of_not_pos hpos)
    rw [if_neg hpos, hnil, parseStream_nil]
    refine ⟨htail, ?_, rfl, rfl, (List.append_nil _).symm⟩
    rw [← hnil]
    rfl

/-- A prefix that loses nothing is the whole list. -/
theorem take_min_eq_self {payload : List UInt8} {n : Nat} :
    payload.take (min payload.length n) = payload ↔ payload.length ≤ n := by
  rw [List.take_eq_self_iff]
  omega

/-- One pass of the monitor loop conserves the bytes exactly when the payload
    at the front fits. -/
theorem conserved_monitorLoop_iff {s : Pipeline} (h : Conserved s) :
    Conserved (monitorLoop s) ↔ FrontFits s .monitorLoop := by
  obtain ⟨hq, hret, hpush, -, -⟩ := monitorLoop_spec s
  rw [Conserved] at h
  rw [Conserved, hq, hret, hpush, ← h, List.flatten_append, List.flatten_singleton,
    List.append_assoc, List.append_cancel_left_eq, nextBytes]
  cases hfront : s.payloadQueue with
  | nil =>
      constructor
      · intro _ payload hp
        rw [hfront] at hp
        cases hp
      · intro _
        rfl
  | cons payload rest =>
      show payload.take (min payload.length kMonitorBufferBytes) ++ rest.flatten
        = payload ++ rest.flatten ↔ _
      rw [List.append_cancel_right_eq, take_min_eq_self]
      constructor
      · intro hle p hp
        rw [hfront] at hp
        cases hp
        exact hle
      · intro hall
        exact hall payload (by rw [hfront]; rfl)

/-- **What one step can do to conservation.** -/
theorem conserved_step_iff {s s' : Pipeline} {l : PipelineLabel} (h : Conserved s)
    (hstep : pipelineStep s l = some s') : Conserved s' ↔ FrontFits s l := by
  cases l with
  | packetHandler payload =>
      cases hstep
      rw [Conserved] at h
      constructor
      · intro _
        exact trivial
      · intro _
        rw [Conserved, pushPayload_flatten, ← List.append_assoc, h, List.flatten_append,
          List.flatten_singleton]
  | monitorLoop =>
      cases hstep
      exact conserved_monitorLoop_iff h

/-- **No byte is lost or reordered, for exactly the runs in which every payload
    the monitor loop takes fits its buffer.** -/
theorem conserved_iff_fits (ls : List PipelineLabel) :
    Always pipelineStep Conserved Pipeline.init ls ↔
      Guarded pipelineStep FrontFits Pipeline.init ls := by
  have hstuck : ∀ s l, pipelineStep s l = none → FrontFits s l := by
    intro s l hnone
    cases l <;> cases hnone
  exact always_iff_guarded pipelineStep (fun _ _ _ _ _ => trivial)
    (fun s l s' _ hs hstep => conserved_step_iff hs hstep) hstuck ls trivial rfl

/-- One payload of 4097 bytes is enough to lose a byte. -/
theorem oversized_payload_loses :
    ¬Always pipelineStep Conserved Pipeline.init
      [.packetHandler (List.replicate 4097 0), .monitorLoop] := by
  rintro ⟨-, h⟩
  have hcons := (h _ rfl).1
  have hfits := (conserved_monitorLoop_iff hcons).mp ((h _ rfl).2 _ rfl)
  have hpos : 0 < (List.replicate 4097 (0 : UInt8)).length := by
    rw [List.length_replicate]
    exact Nat.succ_pos 4096
  have hle := hfits (List.replicate 4097 0) (by rw [pushPayload, if_pos hpos]; rfl)
  rw [List.length_replicate] at hle
  exact absurd hle (by decide)

/-! ## Runs without oversized payloads -/

/-- Every payload of a schedule fits the monitor's buffer. -/
def Fitting (ls : List PipelineLabel) : Prop :=
  ∀ payload, .packetHandler payload ∈ ls → payload.length ≤ kMonitorBufferBytes

/-- What holds while only fitting payloads arrive: the decoded transactions are
    those of one call on everything returned so far. -/
structure Faithful (s : Pipeline) : Prop where
  conserved : Conserved s
  fitting   : ∀ payload ∈ s.payloadQueue, payload.length ≤ kMonitorBufferBytes
  parser    : (ProtocolParser.reset.parseStream s.returned.flatten).2 = s.parser
  decoded   : transactions (ProtocolParser.reset.parseStream s.returned.flatten).1 = s.decoded

theorem faithful_packetHandler {s : Pipeline} {payload : List UInt8} (h : Faithful s)
    (hle : payload.length ≤ kMonitorBufferBytes) :
    Faithful { s with
      payloadQueue := pushPayload s.payloadQueue payload
      pushed := s.pushed ++ [payload] } := by
  refine ⟨(conserved_step_iff (l := .packetHandler payload) h.conserved rfl).mpr trivial, ?_,
    h.parser, h.decoded⟩
  intro p hp
  rcases mem_pushPayload hp with hold | ⟨rfl, -⟩
  · exact h.fitting p hold
  · exact hle

theorem faithful_monitorLoop {s : Pipeline} (h : Faithful s) : Faithful (monitorLoop s) := by
  obtain ⟨hq, hret, -, hparser, hdecoded⟩ := monitorLoop_spec s
  have hfits : FrontFits s .monitorLoop := by
    intro payload hp
    exact h.fitting payload (List.mem_of_mem_head? hp)
  have hflat : (monitorLoop s).returned.flatten = s.returned.flatten ++ nextBytes s := by
    rw [hret, List.flatten_append, List.flatten_singleton]
  have hsplit := parseStream_append ProtocolParser.reset s.returned.flatten (nextBytes s)
  refine ⟨(conserved_monitorLoop_iff h.conserved).mpr hfits, ?_, ?_, ?_⟩
  · intro p hp
    rw [hq] at hp
    exact h.fitting p (List.mem_of_mem_tail hp)
  · rw [hflat, hsplit, h.parser, hparser]
  · rw [hflat, hsplit, h.parser, transactions_append, h.decoded, hdecoded]

/-- **Run lemma**: with fitting payloads the monitor decodes the captured bytes
    as one stream, whatever the interleaving. -/
theorem faithful_run (ls : List PipelineLabel) (hfit : Fitting ls) {t : Pipeline}
    (hrun : run pipelineStep Pipeline.init ls = some t) : Faithful t := by
  have hinit : Faithful Pipeline.init :=
    ⟨rfl, (fun p hp => by cases hp), rfl, rfl⟩
  generalize Pipeline.init = s at hinit hrun
  induction ls generalizing s with
  | nil =>
      cases hrun
      exact hinit
  | cons l ls ih =>
      obtain ⟨s', hstep, hrest⟩ := run_cons_inv pipelineStep hrun
      have hfit' : Fitting ls := fun p hp => hfit p (List.mem_cons_of_mem _ hp)
      refine ih hfit' s' ?_ hrest
      cases l with
      | packetHandler payload =>
          cases hstep
          exact faithful_packetHandler hinit (hfit payload List.mem_cons_self)
      | monitorLoop =>
          cases hstep
          exact faithful_monitorLoop hinit

/-- Payloads a schedule pushes, in order. -/
def payloadsOf : List PipelineLabel → List (List UInt8)
  | [] => []
  | .packetHandler payload :: ls => payload :: payloadsOf ls
  | .monitorLoop :: ls => payloadsOf ls

/-- The record of pushed payloads is the schedule's. -/
theorem pushed_run (ls : List PipelineLabel) {s t : Pipeline}
    (hrun : run pipelineStep s ls = some t) : t.pushed = s.pushed ++ payloadsOf ls := by
  induction ls generalizing s with
  | nil =>
      cases hrun
      exact (List.append_nil _).symm
  | cons l ls ih =>
      obtain ⟨s', hstep, hrest⟩ := run_cons_inv pipelineStep hrun
      have hrec := ih hrest
      cases l with
      | packetHandler payload =>
          cases hstep
          rw [hrec, payloadsOf, List.append_assoc]
          rfl
      | monitorLoop =>
          cases hstep
          rw [hrec, (monitorLoop_spec s).2.2.1, payloadsOf]

/-- The payloads of a schedule are the labels that push one. -/
theorem mem_payloadsOf {payload : List UInt8} {ls : List PipelineLabel}
    (h : .packetHandler payload ∈ ls) : payload ∈ payloadsOf ls := by
  induction ls with
  | nil => cases h
  | cons l ls ih =>
      rcases List.mem_cons.mp h with rfl | hin
      · exact List.mem_cons_self
      · cases l with
        | packetHandler p => exact List.mem_cons_of_mem p (ih hin)
        | monitorLoop => exact ih hin

/-- **A drained run decodes the capture as one stream.** -/
theorem drained_run {ls : List PipelineLabel} {t : Pipeline}
    (hfit : ∀ payload ∈ payloadsOf ls, payload.length ≤ kMonitorBufferBytes)
    (hrun : run pipelineStep Pipeline.init ls = some t) (hempty : t.payloadQueue = []) :
    t.decoded = transactions (scan parserScanner (payloadsOf ls).flatten).1 := by
  have hfaithful := faithful_run ls (fun p hp => hfit p (mem_payloadsOf hp)) hrun
  have hbytes : t.returned.flatten = (payloadsOf ls).flatten := by
    have hcons : t.returned.flatten ++ t.payloadQueue.flatten = t.pushed.flatten :=
      hfaithful.conserved
    rw [hempty, List.flatten_nil, List.append_nil, pushed_run ls hrun] at hcons
    exact hcons
  rw [← hfaithful.decoded, hbytes]
  rfl

end TcpCapture
