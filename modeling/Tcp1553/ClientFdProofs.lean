import Mathlib.Data.List.Count
import Tcp1553.RunProofs

/-! # Who closes a simulator connection

    `m_clientFd` is shared by three threads: `acceptLoop` installs a connection and
    closes the one it replaces, `sendAcyclicFrame` drops the connection it could
    not write to, `shutdown` drops the last one.  Each does it with an exchange
    and a later close, and each of these is one step here.

    Connections are identities: descriptor numbers are not reused, and `none` is
    the descriptor -1.  `balance_step` says where a descriptor can go in one step.
    Only the exchange of a failed send can lose one: it takes whatever is installed
    and closes it only if it is the descriptor the call loaded.  `owned_iff` is what
    that means for whole runs. -/

namespace TcpClientFd

open LabelledRuns

/-! ## The three threads -/

/-- `acceptLoop`, with its local descriptors. -/
inductive AcceptThread where
  | loopTest
  | accepting
  | accepted (newSocket : Option Nat)
  | checked (newSocket : Nat)
  | exchanged (oldClient : Option Nat)
  | finished
  deriving DecidableEq, Repr

/-- `sendAcyclicFrame`, under its mutex. -/
inductive Sender where
  | idle
  | loaded (currentClientFd : Nat)
  | failed (currentClientFd : Nat)
  | exchanged (fdToClose : Option Nat) (currentClientFd : Nat)
  deriving DecidableEq, Repr

/-- `BusController::shutdown`. -/
inductive Shutdown where
  | notCalled
  | flagged
  | serverClosed
  | exchanged (cFd : Option Nat)
  | joining
  | returned
  deriving DecidableEq, Repr

/-- The controller's sockets; `opened` descriptors have been accepted so far, and
    `installed` and `closed` record what has happened to them. -/
structure Server where
  isInitialized : Bool
  listening     : Bool
  clientFd      : Option Nat
  acceptThread  : AcceptThread
  sender        : Sender
  shutdown      : Shutdown
  opened        : Nat
  installed     : List Nat
  closed        : List Nat
  deriving DecidableEq, Repr

/-- After `initialize`. -/
def Server.init : Server where
  isInitialized := true
  listening     := true
  clientFd      := none
  acceptThread  := .loopTest
  sender        := .idle
  shutdown      := .notCalled
  opened        := 0
  installed     := []
  closed        := []

/-- Steps of the three threads. -/
inductive ServerLabel where
  | acceptTest
  | acceptReturn (connected : Bool)
  | acceptCheck
  | acceptExchange
  | acceptClose
  | sendLoad
  | sendNoFrame
  | sendWrite (sent : Bool)
  | sendExchange
  | sendClose
  | shutdownFlag
  | shutdownServer
  | shutdownExchange
  | shutdownClose
  | shutdownJoin
  deriving DecidableEq, Repr

/-- The interleaving of the three threads.  A write to a closed descriptor fails. -/
def serverStep (s : Server) : ServerLabel → Option Server
  | .acceptTest =>
      match s.acceptThread with
      | .loopTest =>
          if s.isInitialized ∧ s.listening then some { s with acceptThread := .accepting }
          else some { s with acceptThread := .finished }
      | _ => none
  | .acceptReturn connected =>
      match s.acceptThread with
      | .accepting =>
          -- accept fails on a closed listening socket
          if connected ∧ s.listening then
            some { s with acceptThread := .accepted (some s.opened), opened := s.opened + 1 }
          else some { s with acceptThread := .accepted none }
      | _ => none
  | .acceptCheck =>
      match s.acceptThread with
      | .accepted newSocket =>
          -- after a shutdown the new connection is closed and the loop left
          if s.isInitialized then
            match newSocket with
            | none => some { s with acceptThread := .loopTest }
            | some fd => some { s with acceptThread := .checked fd }
          else some { s with acceptThread := .finished, closed := s.closed ++ newSocket.toList }
      | _ => none
  | .acceptExchange =>
      match s.acceptThread with
      | .checked fd =>
          some { s with
            clientFd := some fd
            acceptThread := .exchanged s.clientFd
            installed := s.installed ++ [fd] }
      | _ => none
  | .acceptClose =>
      match s.acceptThread with
      | .exchanged oldClient =>
          some { s with acceptThread := .loopTest, closed := s.closed ++ oldClient.toList }
      | _ => none
  | .sendLoad =>
      match s.sender with
      | .idle =>
          match s.clientFd with
          | none => some s
          | some fd => some { s with sender := .loaded fd }
      | _ => none
  | .sendNoFrame =>
      match s.sender with
      | .loaded _ => some { s with sender := .idle }
      | _ => none
  | .sendWrite sent =>
      match s.sender with
      | .loaded fd =>
          if sent then
            if fd ∈ s.closed then none else some { s with sender := .idle }
          else some { s with sender := .failed fd }
      | _ => none
  | .sendExchange =>
      match s.sender with
      -- the exchange comes before the comparison
      | .failed fd => some { s with clientFd := none, sender := .exchanged s.clientFd fd }
      | _ => none
  | .sendClose =>
      match s.sender with
      | .exchanged fdToClose fd =>
          some { s with
            sender := .idle
            closed := if fdToClose = some fd then s.closed ++ [fd] else s.closed }
      | _ => none
  | .shutdownFlag =>
      match s.shutdown with
      | .notCalled => some { s with isInitialized := false, shutdown := .flagged }
      | _ => none
  | .shutdownServer =>
      match s.shutdown with
      | .flagged => some { s with listening := false, shutdown := .serverClosed }
      | _ => none
  | .shutdownExchange =>
      match s.shutdown with
      | .serverClosed => some { s with clientFd := none, shutdown := .exchanged s.clientFd }
      | _ => none
  | .shutdownClose =>
      match s.shutdown with
      | .exchanged cFd => some { s with shutdown := .joining, closed := s.closed ++ cFd.toList }
      | _ => none
  | .shutdownJoin =>
      match s.shutdown, s.acceptThread with
      | .joining, .finished => some { s with shutdown := .returned }
      | _, _ => none

/-- What a step does, one constructor for each way it can go. -/
inductive Server.Moves (s : Server) : ServerLabel → Server → Prop where
  | goesOn : s.acceptThread = .loopTest → s.isInitialized = true ∧ s.listening = true →
      Moves s .acceptTest { s with acceptThread := .accepting }
  | loopEnds : s.acceptThread = .loopTest → ¬(s.isInitialized = true ∧ s.listening = true) →
      Moves s .acceptTest { s with acceptThread := .finished }
  | connected : s.acceptThread = .accepting → s.listening = true →
      Moves s (.acceptReturn true)
        { s with acceptThread := .accepted (some s.opened), opened := s.opened + 1 }
  | acceptFailed {connected : Bool} : s.acceptThread = .accepting →
      Moves s (.acceptReturn connected) { s with acceptThread := .accepted none }
  | noSocket : s.acceptThread = .accepted none → s.isInitialized = true →
      Moves s .acceptCheck { s with acceptThread := .loopTest }
  | checked {fd : Nat} : s.acceptThread = .accepted (some fd) → s.isInitialized = true →
      Moves s .acceptCheck { s with acceptThread := .checked fd }
  | refused {newSocket : Option Nat} : s.acceptThread = .accepted newSocket →
      s.isInitialized ≠ true → Moves s .acceptCheck
        { s with acceptThread := .finished, closed := s.closed ++ newSocket.toList }
  | installed {fd : Nat} : s.acceptThread = .checked fd → Moves s .acceptExchange
        { s with
          clientFd := some fd
          acceptThread := .exchanged s.clientFd
          installed := s.installed ++ [fd] }
  | replaced {oldClient : Option Nat} : s.acceptThread = .exchanged oldClient →
      Moves s .acceptClose
        { s with acceptThread := .loopTest, closed := s.closed ++ oldClient.toList }
  | noClient : s.sender = .idle → s.clientFd = none → Moves s .sendLoad s
  | loaded {fd : Nat} : s.sender = .idle → s.clientFd = some fd →
      Moves s .sendLoad { s with sender := .loaded fd }
  | noFrame {fd : Nat} : s.sender = .loaded fd → Moves s .sendNoFrame { s with sender := .idle }
  | written {fd : Nat} : s.sender = .loaded fd → fd ∉ s.closed →
      Moves s (.sendWrite true) { s with sender := .idle }
  | writeFailed {fd : Nat} : s.sender = .loaded fd →
      Moves s (.sendWrite false) { s with sender := .failed fd }
  | dropped {fd : Nat} : s.sender = .failed fd →
      Moves s .sendExchange { s with clientFd := none, sender := .exchanged s.clientFd fd }
  | sendClosed {fdToClose : Option Nat} {fd : Nat} : s.sender = .exchanged fdToClose fd →
      Moves s .sendClose
        { s with
          sender := .idle
          closed := if fdToClose = some fd then s.closed ++ [fd] else s.closed }
  | flagged : s.shutdown = .notCalled →
      Moves s .shutdownFlag { s with isInitialized := false, shutdown := .flagged }
  | serverClosed : s.shutdown = .flagged →
      Moves s .shutdownServer { s with listening := false, shutdown := .serverClosed }
  | taken : s.shutdown = .serverClosed →
      Moves s .shutdownExchange { s with clientFd := none, shutdown := .exchanged s.clientFd }
  | shutdownClosed {cFd : Option Nat} : s.shutdown = .exchanged cFd →
      Moves s .shutdownClose { s with shutdown := .joining, closed := s.closed ++ cFd.toList }
  | joined : s.shutdown = .joining → s.acceptThread = .finished →
      Moves s .shutdownJoin { s with shutdown := .returned }

/-- **The step function does nothing else.** -/
theorem serverStep_moves {s s' : Server} {l : ServerLabel} (hstep : serverStep s l = some s') :
    s.Moves l s' := by
  cases l with
  | acceptTest =>
      simp only [serverStep] at hstep
      split at hstep
      · rename_i hthread
        split at hstep
        · rename_i hopen
          cases hstep
          exact .goesOn hthread hopen
        · rename_i hclosed
          cases hstep
          exact .loopEnds hthread hclosed
      · cases hstep
  | acceptReturn connected =>
      simp only [serverStep] at hstep
      split at hstep
      · rename_i hthread
        split at hstep
        · rename_i hconn
          obtain ⟨rfl, hlistening⟩ := hconn
          cases hstep
          exact .connected hthread hlistening
        · cases hstep
          exact .acceptFailed hthread
      · cases hstep
  | acceptCheck =>
      simp only [serverStep] at hstep
      split at hstep
      · rename_i newSocket hthread
        split at hstep
        · rename_i hinit
          cases newSocket with
          | none =>
              cases hstep
              exact .noSocket hthread hinit
          | some fd =>
              cases hstep
              exact .checked hthread hinit
        · rename_i hinit
          cases hstep
          exact .refused hthread hinit
      · cases hstep
  | acceptExchange =>
      simp only [serverStep] at hstep
      split at hstep
      · cases hstep
        exact .installed ‹_›
      · cases hstep
  | acceptClose =>
      simp only [serverStep] at hstep
      split at hstep
      · cases hstep
        exact .replaced ‹_›
      · cases hstep
  | sendLoad =>
      simp only [serverStep] at hstep
      split at hstep
      · rename_i hsender
        split at hstep
        · cases hstep
          exact .noClient hsender ‹_›
        · cases hstep
          exact .loaded hsender ‹_›
      · cases hstep
  | sendNoFrame =>
      simp only [serverStep] at hstep
      split at hstep
      · cases hstep
        exact .noFrame ‹_›
      · cases hstep
  | sendWrite sent =>
      simp only [serverStep] at hstep
      split at hstep
      · rename_i fd hsender
        cases sent with
        | true =>
            split at hstep
            · split at hstep
              · cases hstep
              · cases hstep
                exact .written hsender ‹_›
            · exact absurd rfl ‹¬true = true›
        | false =>
            cases hstep
            exact .writeFailed hsender
      · cases hstep
  | sendExchange =>
      simp only [serverStep] at hstep
      split at hstep
      · cases hstep
        exact .dropped ‹_›
      · cases hstep
  | sendClose =>
      simp only [serverStep] at hstep
      split at hstep
      · cases hstep
        exact .sendClosed ‹_›
      · cases hstep
  | shutdownFlag =>
      simp only [serverStep] at hstep
      split at hstep
      · cases hstep
        exact .flagged ‹_›
      · cases hstep
  | shutdownServer =>
      simp only [serverStep] at hstep
      split at hstep
      · cases hstep
        exact .serverClosed ‹_›
      · cases hstep
  | shutdownExchange =>
      simp only [serverStep] at hstep
      split at hstep
      · cases hstep
        exact .taken ‹_›
      · cases hstep
  | shutdownClose =>
      simp only [serverStep] at hstep
      split at hstep
      · cases hstep
        exact .shutdownClosed ‹_›
      · cases hstep
  | shutdownJoin =>
      simp only [serverStep] at hstep
      split at hstep
      · cases hstep
        exact .joined ‹_› ‹_›
      · cases hstep

/-- No thread is between an exchange and the close that follows it. -/
structure Quiescent (s : Server) : Prop where
  accept   : ∀ oldClient, s.acceptThread ≠ .exchanged oldClient
  sender   : ∀ fdToClose fd, s.sender ≠ .exchanged fdToClose fd
  shutdown : ∀ cFd, s.shutdown ≠ .exchanged cFd

/-- Every installed descriptor has been closed exactly once, or is still open and
    is the current one. -/
def Owned (s : Server) : Prop :=
  Quiescent s → ∀ fd ∈ s.installed,
    s.closed.count fd = 1 ∨ (s.closed.count fd = 0 ∧ s.clientFd = some fd)

/-- The descriptor a failed send has loaded. -/
def Sender.failing : Sender → Option Nat
  | .failed currentClientFd => some currentClientFd
  | _ => none

/-- The exchange of a failed send finds the descriptor the call loaded, or none. -/
def FindsOwn (s : Server) : ServerLabel → Prop
  | .sendExchange => ∀ fd ∈ s.sender.failing, s.clientFd = some fd ∨ s.clientFd = none
  | _ => True

instance (s : Server) : (l : ServerLabel) → Decidable (FindsOwn s l)
  | .sendExchange => inferInstanceAs (Decidable (∀ fd ∈ s.sender.failing, _))
  | .acceptTest | .acceptReturn _ | .acceptCheck | .acceptExchange | .acceptClose | .sendLoad
  | .sendNoFrame | .sendWrite _ | .sendClose | .shutdownFlag | .shutdownServer
  | .shutdownExchange | .shutdownClose | .shutdownJoin => isTrue trivial

/-! ## Where a descriptor is -/

/-- One descriptor counted once. -/
def owes (o : Option Nat) (fd : Nat) : Nat := if o = some fd then 1 else 0

@[simp] theorem owes_none (fd : Nat) : owes none fd = 0 := rfl

/-- The descriptor the accept thread has to install or to close. -/
def AcceptThread.holds : AcceptThread → Option Nat
  | .accepted newSocket => newSocket
  | .checked newSocket => some newSocket
  | .exchanged oldClient => oldClient
  | _ => none

/-- The descriptor a send is about to close. -/
def Sender.holds : Sender → Option Nat
  | .exchanged fdToClose fd => if fdToClose = some fd then some fd else none
  | _ => none

/-- The descriptor `shutdown` is about to close. -/
def Shutdown.holds : Shutdown → Option Nat
  | .exchanged cFd => cFd
  | _ => none

/-- How often a descriptor was closed or is in somebody's hands. -/
def balance (s : Server) (fd : Nat) : Nat :=
  s.closed.count fd + owes s.clientFd fd + owes s.acceptThread.holds fd + owes s.sender.holds fd
    + owes s.shutdown.holds fd

/-- Whether a descriptor has been accepted. -/
def issued (s : Server) (fd : Nat) : Nat := if fd < s.opened then 1 else 0

/-- What the exchange of a failed send takes and does not close. -/
def lost (s : Server) : ServerLabel → Nat → Nat
  | .sendExchange, fd =>
      match s.sender with
      | .failed own => if s.clientFd = some own then 0 else owes s.clientFd fd
      | _ => 0
  | _, _ => 0

theorem count_append_toList (closed : List Nat) (o : Option Nat) (fd : Nat) :
    (closed ++ o.toList).count fd = closed.count fd + owes o fd := by
  rw [List.count_append]
  cases o with
  | none => rfl
  | some g =>
      rw [owes, Option.toList_some, List.count_singleton]
      by_cases h : g = fd
      · simp [h]
      · simp [h]

/-- **Where a descriptor goes in one step.**  It is handed on, except for what
    the exchange of a failed send loses; an accepted one comes in. -/
theorem balance_step {s s' : Server} {l : ServerLabel} (hstep : serverStep s l = some s')
    (fd : Nat) : balance s' fd + lost s l fd + issued s fd = balance s fd + issued s' fd := by
  cases serverStep_moves hstep with
  | goesOn hthread | loopEnds hthread | acceptFailed hthread | noSocket hthread
  | checked hthread =>
      simp [balance, issued, lost, hthread, AcceptThread.holds]
  | connected hthread =>
      -- a new descriptor is in the accept thread's hands
      have hnew : owes (some s.opened) fd + (if fd < s.opened then 1 else 0)
          = if fd < s.opened + 1 then 1 else 0 := by
        simp only [owes, Option.some.injEq]
        split <;> split <;> split <;> omega
      simp only [balance, issued, lost, hthread, AcceptThread.holds, owes_none, ← hnew]
      omega
  | refused hthread | replaced hthread =>
      -- what the accept thread held is closed
      simp only [balance, issued, lost, hthread, AcceptThread.holds, count_append_toList, owes_none]
      omega
  | installed hthread =>
      simp only [balance, issued, lost, hthread, AcceptThread.holds]
      omega
  | noClient => rfl
  | loaded hsender | noFrame hsender | written hsender | writeFailed hsender =>
      simp [balance, issued, lost, hsender, Sender.holds]
  | @dropped own hsender =>
      -- the installed descriptor goes to the sender if it is the sender's own
      simp only [balance, issued, lost, hsender, Sender.holds, owes_none]
      by_cases hown : s.clientFd = some own
      · rw [if_pos hown, if_pos hown, hown]
        omega
      · rw [if_neg hown, if_neg hown, owes_none]
        omega
  | @sendClosed fdToClose own hsender =>
      simp only [balance, issued, lost, hsender, Sender.holds, owes_none]
      split
      · rw [show s.closed ++ [own] = s.closed ++ (some own).toList from rfl, count_append_toList]
        omega
      · rw [owes_none]
        omega
  | flagged hshutdown | serverClosed hshutdown | joined hshutdown =>
      simp [balance, issued, lost, hshutdown, Shutdown.holds]
  | taken hshutdown =>
      simp only [balance, issued, lost, hshutdown, Shutdown.holds, owes_none]
      omega
  | shutdownClosed hshutdown =>
      simp only [balance, issued, lost, hshutdown, Shutdown.holds, count_append_toList, owes_none]
      omega

/-! ## Runs -/

/-- Installed descriptors have been accepted, the current one is installed, and the
    one the accept thread is about to install is not. -/
structure Sound (s : Server) : Prop where
  current   : ∀ fd, s.clientFd = some fd → fd ∈ s.installed
  installed : ∀ fd ∈ s.installed, fd < s.opened
  checked   : ∀ fd, s.acceptThread = .accepted (some fd) ∨ s.acceptThread = .checked fd →
    fd ∉ s.installed ∧ fd < s.opened

theorem sound_init : Sound Server.init where
  current   := fun fd h => nomatch h
  installed := fun fd h => nomatch h
  checked   := by
    rintro fd (h | h)
    · cases h
    · cases h

/-- Steps that touch neither the accept thread nor what is installed keep it sound. -/
theorem Sound.of_same {s s' : Server} (h : Sound s) (hfd : s'.clientFd = none ∨
      s'.clientFd = s.clientFd) (hins : s'.installed = s.installed)
    (hthread : s'.acceptThread = s.acceptThread) (hopened : s'.opened = s.opened) : Sound s' := by
  refine ⟨?_, ?_, ?_⟩
  · intro fd hcur
    rw [hins]
    rcases hfd with hnone | hsame
    · cases hnone.symm.trans hcur
    · exact h.current fd (hsame.symm.trans hcur)
  · rw [hins, hopened]
    exact h.installed
  · rw [hins, hopened, hthread]
    exact h.checked

/-- Accept-thread steps that hold no new descriptor keep it sound. -/
theorem Sound.of_thread {s : Server} (h : Sound s) {thread : AcceptThread} {closed : List Nat}
    (hthread : ∀ fd, thread ≠ .accepted (some fd) ∧ thread ≠ .checked fd) :
    Sound { s with acceptThread := thread, closed := closed } := by
  refine ⟨h.current, h.installed, ?_⟩
  rintro fd (hc | hc)
  · exact absurd hc (hthread fd).1
  · exact absurd hc (hthread fd).2

theorem sound_step (s : Server) (l : ServerLabel) (s' : Server) (h : Sound s)
    (hstep : serverStep s l = some s') : Sound s' := by
  cases serverStep_moves hstep with
  | goesOn | loopEnds | acceptFailed | noSocket | refused | replaced =>
      exact h.of_thread (by simp)
  | connected hthread =>
      -- the new descriptor is larger than every installed one
      refine ⟨h.current, fun fd hin => Nat.lt_succ_of_lt (h.installed fd hin), ?_⟩
      rintro fd (hc | hc)
      · cases hc
        exact ⟨fun hin => Nat.lt_irrefl _ (h.installed _ hin), Nat.lt_succ_self _⟩
      · cases hc
  | @checked new hthread =>
      refine ⟨h.current, h.installed, ?_⟩
      rintro fd (hc | hc)
      · cases hc
      · cases hc
        exact h.checked new (Or.inl hthread)
  | installed hthread =>
      refine ⟨?_, ?_, ?_⟩
      · intro fd hcur
        cases hcur
        exact List.mem_append_right _ List.mem_cons_self
      · intro fd hin
        rcases List.mem_append.mp hin with hold | hnew
        · exact h.installed fd hold
        · obtain rfl := List.mem_singleton.mp hnew
          exact (h.checked fd (Or.inr hthread)).2
      · rintro fd (hc | hc) <;> cases hc
  | noClient => exact h
  | loaded | noFrame | written | writeFailed | sendClosed | flagged | serverClosed
  | shutdownClosed | joined => exact h.of_same (Or.inr rfl) rfl rfl rfl
  | dropped | taken => exact h.of_same (Or.inl rfl) rfl rfl rfl

/-- Every accepted descriptor is closed once or in somebody's hands. -/
def Conserved (s : Server) : Prop := ∀ fd, balance s fd = issued s fd

theorem conserved_init : Conserved Server.init := fun _ => rfl

theorem owes_eq_zero {o : Option Nat} {fd : Nat} (h : o ≠ some fd) : owes o fd = 0 := if_neg h

theorem owes_self (fd : Nat) : owes (some fd) fd = 1 := if_pos rfl

/-- A step loses nothing exactly when the exchange of a failed send finds its own
    descriptor. -/
theorem lost_eq_zero_iff (s : Server) (l : ServerLabel) :
    (∀ fd, lost s l fd = 0) ↔ FindsOwn s l := by
  cases l with
  | sendExchange =>
      cases hsender : s.sender with
      | failed own =>
          simp only [lost, FindsOwn, hsender, Sender.failing, Option.mem_def, Option.some.injEq,
            forall_eq']
          by_cases hown : s.clientFd = some own
          · simp only [if_pos hown]
            exact ⟨fun _ => Or.inl hown, fun _ _ => trivial⟩
          · simp only [if_neg hown]
            constructor
            · intro hzero
              cases hcur : s.clientFd with
              | none => exact Or.inr rfl
              | some g =>
                  have hg := hzero g
                  rw [hcur, owes_self] at hg
                  cases hg
            · rintro (hcur | hcur) fd
              · exact absurd hcur hown
              · rw [hcur, owes_none]
      | idle => simp [lost, FindsOwn, hsender, Sender.failing]
      | loaded fd => simp [lost, FindsOwn, hsender, Sender.failing]
      | exchanged fdToClose fd => simp [lost, FindsOwn, hsender, Sender.failing]
  | _ => exact ⟨fun _ => trivial, fun _ _ => rfl⟩

/-- **What one step can do to conservation.** -/
theorem conserved_step_iff {s s' : Server} {l : ServerLabel} (h : Conserved s)
    (hstep : serverStep s l = some s') : Conserved s' ↔ FindsOwn s l := by
  rw [← lost_eq_zero_iff]
  constructor
  · intro h' fd
    have hb := balance_step hstep fd
    rw [h fd, h' fd] at hb
    omega
  · intro hlost fd
    have hb := balance_step hstep fd
    rw [h fd, hlost fd] at hb
    omega

/-- Outside an exchange the accept thread holds no installed descriptor. -/
theorem Sound.accept_holds {s : Server} (hs : Sound s) {fd : Nat} (hin : fd ∈ s.installed)
    (hq : ∀ oldClient, s.acceptThread ≠ .exchanged oldClient) :
    s.acceptThread.holds ≠ some fd := by
  intro hholds
  cases hthread : s.acceptThread with
  | accepted newSocket =>
      rw [hthread] at hholds
      obtain rfl : newSocket = some fd := hholds
      exact (hs.checked fd (Or.inl hthread)).1 hin
  | checked newSocket =>
      rw [hthread] at hholds
      obtain rfl : newSocket = fd := Option.some.inj hholds
      exact (hs.checked newSocket (Or.inr hthread)).1 hin
  | exchanged oldClient => exact hq oldClient hthread
  | loopTest | accepting | finished =>
      rw [hthread] at hholds
      cases hholds

/-- Conservation is ownership wherever nobody is between exchange and close. -/
theorem Conserved.owned {s : Server} (h : Conserved s) (hs : Sound s) : Owned s := by
  intro hq fd hin
  have hbal := h fd
  have haccept := owes_eq_zero (hs.accept_holds hin hq.accept)
  have hsender : owes s.sender.holds fd = 0 := by
    cases hsnd : s.sender with
    | exchanged fdToClose own => exact absurd hsnd (hq.sender fdToClose own)
    | _ => rfl
  have hshutdown : owes s.shutdown.holds fd = 0 := by
    cases hsd : s.shutdown with
    | exchanged cFd => exact absurd hsd (hq.shutdown cFd)
    | _ => rfl
  have hissued : issued s fd = 1 := if_pos (hs.installed fd hin)
  rw [balance, haccept, hsender, hshutdown, hissued] at hbal
  by_cases hcur : s.clientFd = some fd
  · rw [hcur, owes_self] at hbal
    exact Or.inr ⟨by omega, hcur⟩
  · rw [owes_eq_zero hcur] at hbal
    exact Or.inl (by omega)

/-! ## A lost descriptor stays lost -/

/-- An installed descriptor that is neither closed nor in anybody's hands. -/
def Orphaned (s : Server) : Prop := ∃ fd ∈ s.installed, balance s fd < issued s fd

/-- No descriptor is closed twice or held twice. -/
def Bounded (s : Server) : Prop := ∀ fd, balance s fd ≤ issued s fd

theorem bounded_step (s : Server) (l : ServerLabel) (s' : Server) (h : Bounded s)
    (hstep : serverStep s l = some s') : Bounded s' := by
  intro fd
  have hb := balance_step hstep fd
  have hle := h fd
  omega

/-- What is installed stays on record. -/
theorem installed_step {s s' : Server} {l : ServerLabel} (hstep : serverStep s l = some s') :
    s.installed ⊆ s'.installed := by
  cases serverStep_moves hstep with
  | installed => exact List.subset_append_left _ _
  | _ => exact List.Subset.refl _

theorem orphaned_step (s : Server) (l : ServerLabel) (s' : Server) (h : Orphaned s)
    (hstep : serverStep s l = some s') : Orphaned s' := by
  obtain ⟨fd, hin, hlt⟩ := h
  refine ⟨fd, installed_step hstep hin, ?_⟩
  have hb := balance_step hstep fd
  omega

/-- The exchange that finds another descriptor orphans it. -/
theorem orphaned_of_exchange {s s' : Server} {l : ServerLabel} (hs : Sound s) (hb : Bounded s)
    (hstep : serverStep s l = some s') (hfinds : ¬FindsOwn s l) : Orphaned s' := by
  rw [← lost_eq_zero_iff] at hfinds
  obtain ⟨fd, hlost⟩ := Classical.not_forall.mp hfinds
  have hcur : s.clientFd = some fd := by
    by_contra hne
    refine hlost ?_
    cases l with
    | sendExchange =>
        simp only [lost]
        split
        · split
          · rfl
          · exact owes_eq_zero hne
        · rfl
    | _ => rfl
  refine ⟨fd, installed_step hstep (hs.current fd hcur), ?_⟩
  have hbal := balance_step hstep fd
  have hle := hb fd
  omega

/-- An orphan shows as soon as nobody is between exchange and close. -/
theorem Orphaned.not_owned {s : Server} (h : Orphaned s) (hs : Sound s) (hq : Quiescent s) :
    ¬Owned s := by
  intro howned
  obtain ⟨fd, hin, hlt⟩ := h
  have hissued : issued s fd = 1 := if_pos (hs.installed fd hin)
  rw [hissued, balance] at hlt
  rcases howned hq fd hin with hclosed | ⟨-, hcur⟩
  · omega
  · rw [hcur, owes_self] at hlt
    omega

/-- **No connection is orphaned, for exactly the runs in which the exchange of
    every failed send finds the descriptor the call loaded.**  Such runs own their
    connections throughout; any other run that comes to rest does not. -/
theorem owned_iff (ls : List ServerLabel) :
    (Guarded serverStep FindsOwn Server.init ls → Always serverStep Owned Server.init ls) ∧
      ∀ t, run serverStep Server.init ls = some t → Quiescent t →
        (Always serverStep Owned Server.init ls ↔ Guarded serverStep FindsOwn Server.init ls) := by
  have hinit : Sound Server.init ∧ Conserved Server.init := ⟨sound_init, conserved_init⟩
  have hsafe : Guarded serverStep FindsOwn Server.init ls →
      Always serverStep Owned Server.init ls := by
    intro h
    refine Always.imp serverStep (fun s (hs : Sound s ∧ Conserved s) => hs.2.owned hs.1) ls
      (guarded_always serverStep ?_ ls hinit h)
    rintro s l s' ⟨hs, hc⟩ hok hstep
    exact ⟨sound_step s l s' hs hstep, (conserved_step_iff hc hstep).mpr hok⟩
  refine ⟨hsafe, fun t hrun hq => ⟨fun halways => ?_, hsafe⟩⟩
  -- a run with a bad exchange ends with an orphan
  by_contra hbad
  have hb : Bounded Server.init := fun fd => Nat.le_of_eq (conserved_init fd)
  have hinv : ∀ s l s', Sound s ∧ Bounded s → serverStep s l = some s' → Sound s' ∧ Bounded s' :=
    fun s l s' h hstep => ⟨sound_step s l s' h.1 hstep, bounded_step s l s' h.2 hstep⟩
  have horphan := of_not_guarded serverStep hinv
    (fun _ _ _ h hok hstep => orphaned_of_exchange h.1 h.2 hstep hok)
    (fun s l s' _ h hstep => orphaned_step s l s' h hstep) ls ⟨sound_init, hb⟩ hrun hbad
  have hsound := run_invariant serverStep sound_step ls sound_init hrun
  exact horphan.not_owned hsound hq (Always.last serverStep ls halways hrun)

/-! ## A simulator that restarts during a send -/

/-- The accept thread takes a connection and installs it. -/
def connect : List ServerLabel :=
  [.acceptTest, .acceptReturn true, .acceptCheck, .acceptExchange, .acceptClose]

/-- A send whose write fails. -/
def failingSend : List ServerLabel := [.sendLoad, .sendWrite false, .sendExchange, .sendClose]

theorem owned_failingSend :
    Always serverStep Owned Server.init (connect ++ failingSend ++ connect) :=
  (owned_iff (connect ++ failingSend ++ connect)).1 (by decide)

/-- The reconnect lands between the load and the exchange. -/
def reconnectDuringSend : List ServerLabel :=
  connect ++ [.sendLoad] ++ connect ++ [.sendWrite false, .sendExchange, .sendClose]

/-- Where that leaves the controller: the second connection is open and nobody's. -/
def orphanedServer : Server :=
  { Server.init with opened := 2, installed := [0, 1], closed := [0] }

theorem reconnectDuringSend_orphans :
    run serverStep Server.init reconnectDuringSend = some orphanedServer ∧
      ¬Owned orphanedServer := by
  refine ⟨rfl, fun howned => ?_⟩
  have hq : Quiescent orphanedServer := by constructor <;> simp [orphanedServer, Server.init]
  exact absurd (howned hq 1 (by decide)) (by decide)

end TcpClientFd
