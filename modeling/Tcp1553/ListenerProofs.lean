import Mathlib.Data.List.Basic
import Tcp1553.RunProofs

/-! # The listening socket of the controller

    Every pass of the sending loop that finds the controller not initialised calls
    `initialize`, which has four ways to fail: with no socket yet, and with one that it
    has to close again.  A later pass or a later session tries once more.
    `shutdown` closes the socket and joins the thread that accepts connections.

    `attempts_tidy` says what any calls of the two leave behind, whatever the calls of
    the system return, and which of the errors is shown. -/

namespace TcpListener

open LabelledRuns

/-! ## `initialize` and `shutdown` -/

/-- `errno`, as far as `initialize` tells the values apart. -/
inductive Errno where
  | addressInUse
  | other (text : String)
  deriving DecidableEq, Repr

def strerror : Errno → String
  | .addressInUse => "Address already in use"
  | .other text => text

/-- What the system calls of one attempt return, as far as it makes them. -/
structure SocketCalls where
  socket     : Option Nat
  setsockopt : Bool
  bind       : Option Errno
  listen     : Option Errno
  deriving DecidableEq, Repr

/-- The fields `initialize` writes; `sockets` are the ones that are open, `misclosed`
    records descriptors closed while not open, and `overwritten` that the thread was
    assigned while joinable. -/
structure BusController where
  isInitialized : Bool
  port          : Nat
  serverFd      : Option Nat
  acceptThread  : Bool
  lastError     : String
  sockets       : List Nat
  misclosed     : List Nat
  overwritten   : Bool
  deriving DecidableEq, Repr

def BusController.init : BusController where
  isInitialized := false
  port          := 0
  serverFd      := none
  acceptThread  := false
  lastError     := ""
  sockets       := []
  misclosed     := []
  overwritten   := false

/-- `close(m_serverFd)` and `m_serverFd = -1`. -/
def BusController.closeServer (s : BusController) (fd : Nat) : BusController :=
  { s with
    serverFd := none
    sockets := s.sockets.erase fd
    misclosed := if fd ∈ s.sockets then s.misclosed else fd :: s.misclosed }

/-- The text for a `bind` that fails. -/
def bindError (port : Nat) : Errno → String
  | .addressInUse =>
      "Cannot bind to port " ++ toString port ++ ". QEMU is already running and using the bus."
  | .other text => "BC Server Bind Error: " ++ strerror (.other text)

/-- The text for a `listen` that fails. -/
def listenError (errno : Errno) : String := "BC Server Listen Error: " ++ strerror errno

/-- `initialize`, with what it returns. -/
def BusController.initializeServer (s : BusController) (port : Nat) (calls : SocketCalls) :
    BusController × Int :=
  if s.isInitialized = true then (s, 0)
  else
    let s := { s with port, serverFd := calls.socket }
    match calls.socket with
    | none => (s, -1)
    | some fd =>
        let s := { s with sockets := fd :: s.sockets }
        if calls.setsockopt = false then (s.closeServer fd, -1)
        else
          match calls.bind with
          | some errno => ({ s with lastError := bindError port errno }.closeServer fd, -1)
          | none =>
              match calls.listen with
              | some errno => ({ s with lastError := listenError errno }.closeServer fd, -1)
              | none =>
                  ({ s with
                    lastError := "Ready"
                    isInitialized := true
                    acceptThread := true
                    overwritten := s.overwritten || s.acceptThread }, 0)

/-- `shutdown`, as far as it concerns the listening socket and the thread. -/
def BusController.shutdown (s : BusController) : BusController :=
  let s := { s with isInitialized := false }
  let s := match s.serverFd with
    | some fd => s.closeServer fd
    | none => s
  { s with acceptThread := false }

/-- The calls of either. -/
inductive ListenerLabel where
  | initializeServer (port : Nat) (calls : SocketCalls)
  | shutdown
  deriving DecidableEq, Repr

/-- A call; the system hands out no descriptor that is open. -/
def listenerStep (s : BusController) : ListenerLabel → Option BusController
  | .initializeServer port calls =>
      if ∀ fd ∈ calls.socket, fd ∉ s.sockets then some (s.initializeServer port calls).1 else none
  | .shutdown => some s.shutdown

/-! ## What an attempt does -/

/-- All calls of the attempt succeed. -/
def SocketCalls.Succeed (calls : SocketCalls) : Prop :=
  calls.socket ≠ none ∧ calls.setsockopt = true ∧ calls.bind = none ∧ calls.listen = none

instance (calls : SocketCalls) : Decidable calls.Succeed := inferInstanceAs (Decidable (_ ∧ _))

/-- The text an attempt leaves; without a socket, or with an option refused, none. -/
def SocketCalls.error (calls : SocketCalls) (port : Nat) : Option String :=
  if calls.socket = none ∨ calls.setsockopt = false then none
  else
    match calls.bind, calls.listen with
    | some errno, _ => some (bindError port errno)
    | none, some errno => some (listenError errno)
    | none, none => some "Ready"

/-- The controller listens, or has no socket and no thread. -/
structure Settled (s : BusController) : Prop where
  closed      : s.misclosed = []
  thread      : s.overwritten = false
  sockets     : s.sockets = s.serverFd.toList
  initialized : s.isInitialized = s.serverFd.isSome
  accepting   : s.acceptThread = s.isInitialized
  ready       : s.isInitialized = true → s.lastError = "Ready"

/-- A controller that does not listen has nothing to close or join. -/
theorem Settled.idle {s : BusController} (h : Settled s) (hinit : ¬s.isInitialized = true) :
    s.serverFd = none ∧ s.sockets = [] ∧ s.acceptThread = false := by
  have hoff := Bool.eq_false_iff.mpr hinit
  have hfd : s.serverFd = none := Option.not_isSome_iff_eq_none.mp (h.initialized ▸ hinit)
  exact ⟨hfd, by rw [h.sockets, hfd]; rfl, h.accepting.trans hoff⟩

/-- A socket that was opened last is closed again. -/
theorem closeServer_opened {s : BusController} {fd : Nat} (h : s.sockets = [fd]) :
    s.closeServer fd = { s with serverFd := none, sockets := [] } := by
  have hopen : fd ∈ s.sockets := h ▸ List.mem_singleton_self fd
  rw [BusController.closeServer, if_pos hopen, h, List.erase_cons_head]

/-- **What an attempt does**: nothing when the controller listens; otherwise it
    succeeds with all its calls, or leaves no socket, and the text of its error. -/
theorem initializeServer_eq {s : BusController} (h : Settled s) (port : Nat) (calls : SocketCalls) :
    s.initializeServer port calls =
      if s.isInitialized = true then (s, 0)
      else if calls.Succeed then
        ({ s with
          port
          serverFd := calls.socket
          sockets := calls.socket.toList
          lastError := "Ready"
          isInitialized := true
          acceptThread := true }, 0)
      else ({ s with port, lastError := (calls.error port).getD s.lastError }, -1) := by
  rw [BusController.initializeServer]
  by_cases hinit : s.isInitialized = true
  · rw [if_pos hinit, if_pos hinit]
  rw [if_neg hinit, if_neg hinit]
  obtain ⟨hfd, hnone, hthread⟩ := h.idle hinit
  cases hsocket : calls.socket with
  | none =>
      have hfails : ¬calls.Succeed := fun hall => hall.1 hsocket
      have herror : calls.error port = none := if_pos (Or.inl hsocket)
      rw [if_neg hfails, herror]
      show (({ s with port, serverFd := none } : BusController), (-1 : Int)) = ({ s with port }, -1)
      rw [hfd]
  | some fd =>
      have hopened : ∀ text, BusController.closeServer { s with
          port, serverFd := some fd, sockets := fd :: s.sockets, lastError := text } fd
            = { s with port, lastError := text } := by
        intro text
        rw [closeServer_opened (by rw [hnone]), hfd, hnone]
      by_cases hoption : calls.setsockopt = false
      · have hfails : ¬calls.Succeed := fun hall => Bool.noConfusion (hoption.symm.trans hall.2.1)
        have herror : calls.error port = none := if_pos (Or.inr hoption)
        simp only [if_pos hoption, if_neg hfails, herror, hopened, Option.getD_none]
      · have hmade : ¬(calls.socket = none ∨ calls.setsockopt = false) :=
          not_or.mpr ⟨hsocket ▸ Option.some_ne_none fd, hoption⟩
        simp only [if_neg hoption]
        cases hbind : calls.bind with
        | some errno =>
            have hfails : ¬calls.Succeed := fun hall =>
              absurd (hbind.symm.trans hall.2.2.1) (Option.some_ne_none errno)
            have herror : calls.error port = some (bindError port errno) := by
              rw [SocketCalls.error, if_neg hmade, hbind]
            simp only [if_neg hfails, herror, hopened, Option.getD_some]
        | none =>
            cases hlisten : calls.listen with
            | some errno =>
                have hfails : ¬calls.Succeed :=
                  fun hall => absurd (hlisten.symm.trans hall.2.2.2) (Option.some_ne_none errno)
                have herror : calls.error port = some (listenError errno) := by
                  rw [SocketCalls.error, if_neg hmade, hbind, hlisten]
                simp only [if_neg hfails, herror, hopened, Option.getD_some]
            | none =>
                have hall : calls.Succeed :=
                  ⟨hsocket ▸ Option.some_ne_none fd, Bool.of_not_eq_false hoption, hbind, hlisten⟩
                simp only [if_pos hall, hnone, hthread, h.thread, Bool.or_self, Option.toList_some]

/-! ## Any calls -/

theorem settled_init : Settled .init := ⟨rfl, rfl, rfl, rfl, rfl, fun h => by cases h⟩

theorem settled_initializeServer {s : BusController} (h : Settled s) (port : Nat)
    (calls : SocketCalls) : Settled (s.initializeServer port calls).1 := by
  rw [initializeServer_eq h]
  by_cases hinit : s.isInitialized = true
  · rw [if_pos hinit]
    exact h
  rw [if_neg hinit]
  by_cases hall : calls.Succeed
  · rw [if_pos hall]
    exact ⟨h.closed, h.thread, rfl, (Option.isSome_iff_ne_none.mpr hall.1).symm, rfl, fun _ => rfl⟩
  · rw [if_neg hall]
    exact ⟨h.closed, h.thread, h.sockets, h.initialized, h.accepting, fun hinit' => absurd hinit' hinit⟩

theorem settled_shutdown {s : BusController} (h : Settled s) : Settled s.shutdown := by
  have hsockets := h.sockets
  rw [BusController.shutdown]
  cases hfd : s.serverFd with
  | none =>
      rw [hfd] at hsockets
      exact ⟨h.closed, h.thread, hsockets, rfl, rfl, fun hinit => by cases hinit⟩
  | some fd =>
      rw [hfd] at hsockets
      have hclosed := closeServer_opened (s := { s with isInitialized := false, serverFd := some fd })
        hsockets
      simp only [hclosed]
      exact ⟨h.closed, h.thread, rfl, rfl, rfl, fun hinit => by cases hinit⟩

/-- **Step lemma.** -/
theorem settled_step (s : BusController) (l : ListenerLabel) (s' : BusController) (h : Settled s)
    (hstep : listenerStep s l = some s') : Settled s' := by
  cases l with
  | initializeServer port calls =>
      rw [listenerStep] at hstep
      split at hstep
      · cases hstep
        exact settled_initializeServer h port calls
      · cases hstep
  | shutdown =>
      cases hstep
      exact settled_shutdown h

/-- What an attempt returns, and the error it shows: its own if it came to `bind`, the
    one shown before if it did not. -/
structure Answers (s : BusController) (port : Nat) (calls : SocketCalls) : Prop where
  succeeds : (s.initializeServer port calls).2 = 0 ↔ s.isInitialized = true ∨ calls.Succeed
  listens  : (s.initializeServer port calls).2 = 0 ↔
    (s.initializeServer port calls).1.isInitialized = true
  shows    : (s.initializeServer port calls).2 ≠ 0 →
    (s.initializeServer port calls).1.lastError = (calls.error port).getD s.lastError

/-- **Any calls of `initialize` and `shutdown`.**  Only sockets that are open are
    closed, one is open exactly while the controller is initialised, and then one
    thread accepts connections; no other is started.  The next attempt answers for the
    state it leaves. -/
theorem attempts_tidy {ls : List ListenerLabel} {s : BusController}
    (hrun : run listenerStep .init ls = some s) : Settled s ∧ ∀ port calls, Answers s port calls := by
  have h : Settled s := run_invariant listenerStep settled_step ls settled_init hrun
  refine ⟨h, fun port calls => ?_⟩
  have hattempt := initializeServer_eq h port calls
  by_cases hinit : s.isInitialized = true
  · rw [if_pos hinit] at hattempt
    constructor
    · exact iff_of_true (by rw [hattempt]) (Or.inl hinit)
    · exact iff_of_true (by rw [hattempt]) (by rw [hattempt]; exact hinit)
    · exact fun hfails => absurd (by rw [hattempt]) hfails
  rw [if_neg hinit] at hattempt
  by_cases hall : calls.Succeed
  · rw [if_pos hall] at hattempt
    constructor
    · exact iff_of_true (by rw [hattempt]) (Or.inr hall)
    · exact iff_of_true (by rw [hattempt]) (by rw [hattempt])
    · exact fun hfails => absurd (by rw [hattempt]) hfails
  · rw [if_neg hall] at hattempt
    have hfails : (s.initializeServer port calls).2 ≠ 0 := by
      rw [hattempt]
      exact (by decide : (-1 : Int) ≠ 0)
    constructor
    · exact iff_of_false hfails (not_or.mpr ⟨hinit, hall⟩)
    · exact iff_of_false hfails (by rw [hattempt]; exact hinit)
    · exact fun _ => by rw [hattempt]

/-- The port is taken, then free; after the shutdown there is no socket to be had. -/
def retries : List ListenerLabel :=
  [.initializeServer 5002 ⟨some 3, true, some .addressInUse, none⟩,
    .initializeServer 5002 ⟨some 3, true, none, none⟩, .shutdown,
    .initializeServer 5002 ⟨none, true, none, none⟩]

theorem attempts_tidy_retries :
    ∃ s, run listenerStep .init retries = some s ∧ Settled s ∧
      ∀ port calls, Answers s port calls := by
  have hrun : run listenerStep .init retries
      = some { BusController.init with port := 5002, lastError := "Ready" } := rfl
  exact ⟨_, hrun, attempts_tidy hrun⟩

end TcpListener
