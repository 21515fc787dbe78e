import Mathlib.Data.List.Basic
import Tcp1553.HeaderProofs

/-! # From the parser to the view

    `BM::processAndRelayData` feeds the parser, lets the filter choose among the
    transactions, formats the chosen ones into `m_pendingMessages`, and hands the
    text over when the last time it did so is more than 50 ms ago.  The clock is
    looked at only when bytes arrive.

    `acceptedIn` is what passes the filter in a run, by the bytes and the settings
    alone, and `relayed_eq` says that this is what the relay records.  `Recorded` is
    what every run keeps: text handed over and text pending are the text of what was
    relayed, in order.  `delivered_iff` says when none of it is pending at the end of a
    session. -/

namespace TcpRelay

open TcpWire TcpParser TcpHeader

/-! ## The text of a transaction -/

/-- What `localtime` and the microsecond clock show. -/
structure WallClock where
  hour   : Nat
  minute : Nat
  second : Nat
  fullUs : Nat
  deriving DecidableEq, Repr

/-- `setfill('0')` and `setw(width)` in front of a number. -/
def padded (width n : Nat) : String :=
  String.ofList (List.replicate (width - (toString n).length) '0') ++ toString n

/-- `put_time` with `%H:%M:%S`. -/
def putTime (now : WallClock) : String :=
  padded 2 now.hour ++ ":" ++ padded 2 now.minute ++ ":" ++ padded 2 now.second

/-- A word as four upper-case hexadecimal digits. -/
def hexWord (w : UInt16) : String :=
  String.ofList [hexDigit (w.toNat >>> 12), hexDigit ((w.toNat >>> 8) &&& 0x0F),
    hexDigit ((w.toNat >>> 4) &&& 0x0F), hexDigit (w.toNat &&& 0x0F)]

/-- The data loop from word `i` on: a line break after every eighth word that is not
    the last, and a blank after any other word. -/
def dataText (size : Nat) : Nat → List UInt16 → String
  | _, [] => ""
  | i, w :: ws =>
      hexWord w
        ++ (if (i + 1) % 8 = 0 then (if i + 1 < size then "\n      " else "") else " ")
        ++ dataText size (i + 1) ws

/-- The line of the command word. -/
def headerText (trans : MessageTransaction) : String :=
  let wc := wcField trans.cmd1
  let actualWc := if wc = 0 then 32 else wc
  let typeStr := if trField trans.cmd1 ≠ 0 then "RT to BC" else "BC to RT"
  "Bus: " ++ String.singleton trans.bus1 ++ " Type: " ++ typeStr
    ++ " RT: " ++ toString (rtField trans.cmd1) ++ " SA: " ++ toString (saField trans.cmd1)
    ++ " WC: " ++ toString actualWc ++ " Header: AA 55\n"

/-- `formatAndRelayTransaction`. -/
def formatAndRelayTransaction (trans : MessageTransaction) (now : WallClock) : String :=
  "Time: " ++ putTime now ++ "." ++ padded 6 (now.fullUs % 1000000) ++ "us\n"
    ++ (if trans.cmd1Valid = true then headerText trans else "")
    ++ (if trans.dataWords ≠ [] then
        "Data: " ++ dataText trans.dataWords.length 0 trans.dataWords ++ "\n"
      else "")
    ++ "\n"

/-! ## The relay -/

/-- `RtSaKey`. -/
structure RtSaKey where
  bus : Char
  rt  : Nat
  sa  : Nat
  deriving DecidableEq, Repr

/-- `RtSaKey::operator<`. -/
def RtSaKey.lt (k o : RtSaKey) : Prop :=
  if k.bus ≠ o.bus then k.bus < o.bus
  else if k.rt ≠ o.rt then k.rt < o.rt
  else k.sa < o.sa

instance (k o : RtSaKey) : Decidable (k.lt o) :=
  inferInstanceAs (Decidable
    (if k.bus ≠ o.bus then k.bus < o.bus else if k.rt ≠ o.rt then k.rt < o.rt else k.sa < o.sa))

/-- `insert` of the ordered set. -/
def insertKey (key : RtSaKey) : List RtSaKey → List RtSaKey
  | [] => [key]
  | k :: ks => if key.lt k then key :: k :: ks else if k.lt key then k :: insertKey key ks else k :: ks

/-- The part of `BM` that the monitor thread relays with.  `relayed` records the
    transactions whose text was formatted (those accepted, by `relayed_eq`), `messages`
    and `treeItems` the calls of the two callbacks, all since the last `start`. -/
structure Relay where
  protocolParser    : ProtocolParser
  filterEnabled     : Bool
  filterBus         : Char
  filterRt          : Int
  filterSa          : Int
  filterMc          : Int
  messagesCb        : Bool
  treeItemCb        : Bool
  lastGuiUpdate     : Int
  pendingMessages   : String
  pendingActiveKeys : List RtSaKey
  relayed           : List (MessageTransaction × WallClock)
  messages          : List String
  treeItems         : List RtSaKey

/-- The relay as `BM` is constructed, with the callbacks the panel sets. -/
def Relay.init (messagesCb treeItemCb : Bool) : Relay where
  protocolParser    := ProtocolParser.reset
  filterEnabled     := false
  filterBus         := Char.ofNat 0
  filterRt          := -1
  filterSa          := -1
  filterMc          := -1
  messagesCb        := messagesCb
  treeItemCb        := treeItemCb
  lastGuiUpdate     := 0
  pendingMessages   := ""
  pendingActiveKeys := []
  relayed           := []
  messages          := []
  treeItems         := []

/-- What `start` does to the relay; `now` is the steady clock in nanoseconds. -/
def Relay.start (s : Relay) (now : Int) : Relay :=
  { s with
    protocolParser := ProtocolParser.reset
    pendingMessages := ""
    pendingActiveKeys := []
    lastGuiUpdate := now
    relayed := []
    messages := []
    treeItems := [] }

/-- What `stop` does to the relay: the threads are joined, the buffers are not
    looked at. -/
def Relay.stop (s : Relay) : Relay := s

/-- The filter at the head of the callback.  Of the four criteria two are asked. -/
def Relay.passes (s : Relay) (trans : MessageTransaction) : Bool :=
  if s.filterEnabled = true then
    if s.filterRt ≠ -1 ∧ (rtField trans.cmd1 : Int) ≠ s.filterRt then false
    else if s.filterSa ≠ -1 ∧ (saField trans.cmd1 : Int) ≠ s.filterSa then false
    else true
  else true

/-- The key a transaction marks active. -/
def keyOf (trans : MessageTransaction) : RtSaKey :=
  ⟨trans.bus1, rtField trans.cmd1, saField trans.cmd1⟩

/-- The callback `processAndRelayData` gives to the parser. -/
def Relay.onMessageDecoded (s : Relay) (trans : MessageTransaction) (now : WallClock) : Relay :=
  if s.passes trans = true then
    { s with
      pendingMessages := s.pendingMessages ++ formatAndRelayTransaction trans now
      pendingActiveKeys :=
        if trans.cmd1Valid = true then insertKey (keyOf trans) s.pendingActiveKeys
        else s.pendingActiveKeys
      relayed := s.relayed ++ [(trans, now)] }
  else s

/-- The callback for each transaction of a call; `wallClock i` is the time at the
    `i`-th. -/
def Relay.relayAll (s : Relay) : List MessageTransaction → (Nat → WallClock) → Relay
  | [], _ => s
  | t :: ts, wallClock =>
      (s.onMessageDecoded t (wallClock 0)).relayAll ts fun i => wallClock (i + 1)

/-- `duration_cast<milliseconds>(now - last).count() > 50`. -/
def UpdateDue (last now : Int) : Prop := (now - last).tdiv 1000000 > 50

instance (last now : Int) : Decidable (UpdateDue last now) := inferInstanceAs (Decidable (_ > _))

/-- The update of the view. -/
def Relay.update (s : Relay) (now : Int) : Relay :=
  { s with
    pendingMessages := ""
    pendingActiveKeys := []
    lastGuiUpdate := now
    messages :=
      if s.messagesCb = true ∧ s.pendingMessages ≠ "" then s.messages ++ [s.pendingMessages]
      else s.messages
    treeItems :=
      if s.treeItemCb = true then s.treeItems ++ s.pendingActiveKeys else s.treeItems }

/-- `processAndRelayData`. -/
def Relay.processAndRelayData (s : Relay) (buffer : List UInt8) (wallClock : Nat → WallClock)
    (now : Int) : Relay :=
  let r := s.protocolParser.parseStream buffer
  let s' := { s with protocolParser := r.2 }.relayAll (transactions r.1) wallClock
  if UpdateDue s'.lastGuiUpdate now then s'.update now else s'

/-- Calls during a session. -/
inductive RelayLabel where
  | setFilterCriteria (bus : Char) (rt sa mc : Int)
  | enableFilter (enable : Bool)
  | processAndRelayData (buffer : List UInt8) (wallClock : Nat → WallClock) (now : Int)

/-- One call. -/
def relayStep (s : Relay) : RelayLabel → Relay
  | .setFilterCriteria bus rt sa mc =>
      { s with filterBus := bus, filterRt := rt, filterSa := sa, filterMc := mc }
  | .enableFilter enable => { s with filterEnabled := enable }
  | .processAndRelayData buffer wallClock now => s.processAndRelayData buffer wallClock now

/-- A session: `start`, calls, `stop`. -/
def session (s : Relay) (now : Int) (ls : List RelayLabel) : Relay :=
  (ls.foldl relayStep (s.start now)).stop

/-! ## What the relay records -/

/-- The texts of a list of transactions. -/
def texts (relayed : List (MessageTransaction × WallClock)) : String :=
  String.join (relayed.map fun r => formatAndRelayTransaction r.1 r.2)

/-- The transactions of a call that pass a filter, with their times. -/
def accepted (passes : MessageTransaction → Bool) : List MessageTransaction → (Nat → WallClock) →
    List (MessageTransaction × WallClock)
  | [], _ => []
  | t :: ts, wallClock =>
      (if passes t = true then [(t, wallClock 0)] else [])
        ++ accepted passes ts fun i => wallClock (i + 1)

/-- The keys a list of transactions marks active, added to others. -/
def markActive (keys : List RtSaKey) (relayed : List (MessageTransaction × WallClock)) :
    List RtSaKey :=
  relayed.foldl (fun ks r => if r.1.cmd1Valid = true then insertKey (keyOf r.1) ks else ks) keys

theorem texts_append (rs rs' : List (MessageTransaction × WallClock)) :
    texts (rs ++ rs') = texts rs ++ texts rs' := by
  rw [texts, List.map_append, String.join_append]
  rfl

theorem texts_singleton (trans : MessageTransaction) (now : WallClock) :
    texts [(trans, now)] = formatAndRelayTransaction trans now := by
  show String.join [_] = _
  rw [String.join_cons, String.join_nil, String.append_empty]

/-- Which transactions a call accepts. -/
theorem accepted_fst (passes : MessageTransaction → Bool) (ts : List MessageTransaction)
    (wallClock : Nat → WallClock) :
    (accepted passes ts wallClock).map Prod.fst = ts.filter passes := by
  induction ts generalizing wallClock with
  | nil => rfl
  | cons t ts ih =>
      rw [accepted, List.map_append, ih]
      by_cases h : passes t = true
      · rw [if_pos h, List.filter_cons_of_pos h]
        rfl
      · rw [if_neg h, List.filter_cons_of_neg h]
        rfl

/-- **What the callbacks of one call do.** -/
theorem relayAll_eq (s : Relay) (ts : List MessageTransaction) (wallClock : Nat → WallClock) :
    s.relayAll ts wallClock = { s with
      pendingMessages := s.pendingMessages ++ texts (accepted s.passes ts wallClock)
      pendingActiveKeys := markActive s.pendingActiveKeys (accepted s.passes ts wallClock)
      relayed := s.relayed ++ accepted s.passes ts wallClock } := by
  induction ts generalizing s wallClock with
  | nil =>
      show s = { s with pendingMessages := s.pendingMessages ++ "", relayed := s.relayed ++ [] }
      rw [String.append_empty, List.append_nil]
  | cons t ts ih =>
      rw [Relay.relayAll, ih, accepted, Relay.onMessageDecoded]
      by_cases h : s.passes t = true
      · -- the filter is as before, so the rest is accepted as before
        rw [if_pos h, if_pos h, texts_append, texts_singleton, ← String.append_assoc,
          ← List.append_assoc]
        rfl
      · rw [if_neg h, if_neg h]
        rfl

/-- The transactions a call accepts. -/
def Relay.acceptedFrom (s : Relay) (buffer : List UInt8) (wallClock : Nat → WallClock) :
    List (MessageTransaction × WallClock) :=
  accepted s.passes (transactions (s.protocolParser.parseStream buffer).1) wallClock

/-- A call before it looks at the clock. -/
def Relay.received (s : Relay) (buffer : List UInt8) (wallClock : Nat → WallClock) : Relay :=
  { s with
    protocolParser := (s.protocolParser.parseStream buffer).2
    pendingMessages := s.pendingMessages ++ texts (s.acceptedFrom buffer wallClock)
    pendingActiveKeys := markActive s.pendingActiveKeys (s.acceptedFrom buffer wallClock)
    relayed := s.relayed ++ s.acceptedFrom buffer wallClock }

/-- **What a call does**: it receives, and updates the view when that is due. -/
theorem processAndRelayData_eq (s : Relay) (buffer : List UInt8) (wallClock : Nat → WallClock)
    (now : Int) :
    s.processAndRelayData buffer wallClock now
      = if UpdateDue s.lastGuiUpdate now then (s.received buffer wallClock).update now
        else s.received buffer wallClock := by
  rw [Relay.processAndRelayData]
  simp only [relayAll_eq]
  rfl

/-- What passes the filter in the calls of a run, with the times: of the transactions
    the parser makes of the bytes, those that the settings of the moment let through. -/
def acceptedIn (s : Relay) : List RelayLabel → List (MessageTransaction × WallClock)
  | [] => []
  | .setFilterCriteria bus rt sa mc :: ls =>
      acceptedIn { s with filterBus := bus, filterRt := rt, filterSa := sa, filterMc := mc } ls
  | .enableFilter enable :: ls => acceptedIn { s with filterEnabled := enable } ls
  | .processAndRelayData buffer wallClock _ :: ls =>
      s.acceptedFrom buffer wallClock
        ++ acceptedIn { s with protocolParser := (s.protocolParser.parseStream buffer).2 } ls

/-- The parser and the settings of the filter are all it depends on. -/
theorem acceptedIn_congr (ls : List RelayLabel) :
    ∀ {s t : Relay}, s.protocolParser = t.protocolParser → s.filterEnabled = t.filterEnabled →
      s.filterRt = t.filterRt → s.filterSa = t.filterSa → acceptedIn s ls = acceptedIn t ls := by
  induction ls with
  | nil => intro s t _ _ _ _; rfl
  | cons l ls ih =>
      intro s t hparser henabled hrt hsa
      cases l with
      | setFilterCriteria bus rt sa mc => exact ih hparser henabled rfl rfl
      | enableFilter enable => exact ih hparser rfl hrt hsa
      | processAndRelayData buffer wallClock now =>
          have hpasses : s.passes = t.passes := by
            funext trans
            rw [Relay.passes, Relay.passes, henabled, hrt, hsa]
          rw [acceptedIn, acceptedIn, Relay.acceptedFrom, Relay.acceptedFrom, hpasses, hparser]
          exact congrArg _ (ih rfl henabled hrt hsa)

/-- **What the record holds**: what passed the filter since the last `start`. -/
theorem relayed_eq (ls : List RelayLabel) :
    ∀ s : Relay, (ls.foldl relayStep s).relayed = s.relayed ++ acceptedIn s ls := by
  induction ls with
  | nil => intro s; exact (List.append_nil _).symm
  | cons l ls ih =>
      intro s
      rw [List.foldl_cons, ih]
      cases l with
      | setFilterCriteria bus rt sa mc => rfl
      | enableFilter enable => rfl
      | processAndRelayData buffer wallClock now =>
          have hcall : (relayStep s (.processAndRelayData buffer wallClock now)).relayed
              = s.relayed ++ s.acceptedFrom buffer wallClock := by
            rw [relayStep, processAndRelayData_eq]
            split <;> rfl
          have hrest : acceptedIn (relayStep s (.processAndRelayData buffer wallClock now)) ls
              = acceptedIn { s with protocolParser := (s.protocolParser.parseStream buffer).2 } ls := by
            rw [relayStep, processAndRelayData_eq]
            split <;> exact acceptedIn_congr ls rfl rfl rfl rfl
          rw [hcall, hrest, acceptedIn, List.append_assoc]

theorem session_relayed (s : Relay) (now : Int) (ls : List RelayLabel) :
    (session s now ls).relayed = acceptedIn (s.start now) ls :=
  (relayed_eq ls (s.start now)).trans (List.nil_append _)

/-- **Invariant rule of the relay**: what the filter settings, the receiving and the
    update keep, a run keeps. -/
theorem relay_invariant {P : Relay → Prop}
    (hcriteria : ∀ s bus rt sa mc, P s → P (relayStep s (.setFilterCriteria bus rt sa mc)))
    (henable : ∀ s enable, P s → P (relayStep s (.enableFilter enable)))
    (hreceived : ∀ s buffer wallClock, P s → P (s.received buffer wallClock))
    (hupdate : ∀ s now, P s → P (s.update now)) (ls : List RelayLabel) {s : Relay} (h : P s) :
    P (ls.foldl relayStep s) := by
  induction ls generalizing s with
  | nil => exact h
  | cons l ls ih =>
      refine ih ?_
      cases l with
      | setFilterCriteria bus rt sa mc => exact hcriteria s bus rt sa mc h
      | enableFilter enable => exact henable s enable h
      | processAndRelayData buffer wallClock now =>
          rw [relayStep, processAndRelayData_eq]
          split
          · exact hupdate _ now (hreceived s buffer wallClock h)
          · exact hreceived s buffer wallClock h

/-- Text handed over, then text pending, is the text relayed. -/
def Recorded (s : Relay) : Prop :=
  String.join s.messages ++ s.pendingMessages = texts s.relayed

theorem recorded_received {s : Relay} (h : Recorded s) (buffer : List UInt8)
    (wallClock : Nat → WallClock) : Recorded (s.received buffer wallClock) := by
  show String.join s.messages ++ (s.pendingMessages ++ texts (s.acceptedFrom buffer wallClock))
    = texts (s.relayed ++ s.acceptedFrom buffer wallClock)
  rw [← String.append_assoc, texts_append, h]

/-- An update hands over all there is. -/
theorem recorded_update {s : Relay} (h : Recorded s) (hcb : s.messagesCb = true) (now : Int) :
    Recorded (s.update now) := by
  show String.join (if s.messagesCb = true ∧ s.pendingMessages ≠ "" then
    s.messages ++ [s.pendingMessages] else s.messages) ++ "" = texts s.relayed
  rw [String.append_empty, ← h]
  by_cases hempty : s.pendingMessages = ""
  · rw [if_neg (fun hboth => hboth.2 hempty), hempty, String.append_empty]
  · rw [if_pos ⟨hcb, hempty⟩, String.join_append, String.join_cons, String.join_nil,
      String.append_empty]

/-- **Run lemma**: nothing relayed is lost, doubled or reordered on its way through
    the buffer. -/
theorem recorded_run (ls : List RelayLabel) {s : Relay} (h : Recorded s)
    (hcb : s.messagesCb = true) : Recorded (ls.foldl relayStep s) := by
  have hkept : Recorded (ls.foldl relayStep s) ∧ (ls.foldl relayStep s).messagesCb = true := by
    refine relay_invariant (P := fun t => Recorded t ∧ t.messagesCb = true)
      (fun _ _ _ _ _ ht => ht) (fun _ _ ht => ht) ?_ ?_ ls ⟨h, hcb⟩
    · rintro t buffer wallClock ⟨ht, htcb⟩
      exact ⟨recorded_received ht buffer wallClock, htcb⟩
    · rintro t now ⟨ht, htcb⟩
      exact ⟨recorded_update ht htcb now, htcb⟩
  exact hkept.1

theorem recorded_start (s : Relay) (now : Int) : Recorded (s.start now) :=
  String.append_empty

/-! ## Active keys -/

/-- Keys that are not ordered are the same. -/
theorem RtSaKey.eq_of_not_lt {k o : RtSaKey} (h : ¬k.lt o) (h' : ¬o.lt k) : k = o := by
  obtain ⟨bus, rt, sa⟩ := k
  obtain ⟨bus', rt', sa'⟩ := o
  simp only [RtSaKey.lt, ne_eq] at h h'
  by_cases hbus : bus = bus'
  · subst hbus
    by_cases hrt : rt = rt'
    · subst hrt
      simp only [not_true, if_false] at h h'
      obtain rfl : sa = sa' := by omega
      rfl
    · simp only [not_true, if_false, hrt, not_false_eq_true, if_true, Ne.symm hrt] at h h'
      omega
  · simp only [hbus, not_false_eq_true, if_true, Ne.symm hbus] at h h'
    exact absurd (Char.le_antisymm (Char.not_lt.mp h') (Char.not_lt.mp h)) hbus

theorem mem_insertKey {key k : RtSaKey} {keys : List RtSaKey} :
    k ∈ insertKey key keys ↔ k = key ∨ k ∈ keys := by
  induction keys with
  | nil => rw [insertKey, List.mem_singleton, List.mem_nil_iff, or_false]
  | cons first keys ih =>
      rw [insertKey]
      split
      · rw [List.mem_cons]
      · rename_i hbelow
        split
        · rw [List.mem_cons, ih, List.mem_cons, or_left_comm]
        · rename_i habove
          -- the key is there already
          obtain rfl := RtSaKey.eq_of_not_lt hbelow habove
          rw [List.mem_cons, or_self_left]

theorem mem_markActive {k : RtSaKey} {rs : List (MessageTransaction × WallClock)} :
    ∀ keys : List RtSaKey, (∀ r ∈ rs, r.1.cmd1Valid = true) →
      (k ∈ markActive keys rs ↔ k ∈ keys ∨ ∃ r ∈ rs, keyOf r.1 = k) := by
  induction rs with
  | nil => intro keys _; simp [markActive]
  | cons r rs ih =>
      intro keys hvalid
      have hnext := ih (insertKey (keyOf r.1) keys)
        fun q hq => hvalid q (List.mem_cons_of_mem _ hq)
      have hfirst : markActive keys (r :: rs) = markActive (insertKey (keyOf r.1) keys) rs := by
        show markActive (if r.1.cmd1Valid = true then _ else _) rs = _
        rw [if_pos (hvalid r List.mem_cons_self)]
      rw [hfirst, hnext, mem_insertKey, List.exists_mem_cons_iff, or_assoc, or_left_comm,
        eq_comm (a := k)]

/-- A transaction that is accepted was decoded from a packet. -/
theorem acceptedFrom_decoded {s : Relay} {buffer : List UInt8} {wallClock : Nat → WallClock}
    {r : MessageTransaction × WallClock} (hr : r ∈ s.acceptedFrom buffer wallClock) :
    ∃ frame, r.1 = decodeFrame frame := by
  have hin : r.1 ∈ (s.acceptedFrom buffer wallClock).map Prod.fst := List.mem_map_of_mem hr
  rw [Relay.acceptedFrom, accepted_fst] at hin
  obtain ⟨frame, -, heq⟩ := mem_transactions_scan (List.mem_of_mem_filter hin)
  exact ⟨frame, heq⟩

/-- The parser marks every transaction as valid. -/
theorem acceptedFrom_valid (s : Relay) (buffer : List UInt8) (wallClock : Nat → WallClock) :
    ∀ r ∈ s.acceptedFrom buffer wallClock, r.1.cmd1Valid = true := by
  intro r hr
  obtain ⟨frame, heq⟩ := acceptedFrom_decoded hr
  rw [heq]
  rfl

/-- The keys handed over or pending are those of the transactions relayed. -/
def Marked (s : Relay) : Prop :=
  ∀ k, k ∈ s.treeItems ++ s.pendingActiveKeys ↔ ∃ r ∈ s.relayed, keyOf r.1 = k

theorem marked_received {s : Relay} (h : Marked s) (buffer : List UInt8)
    (wallClock : Nat → WallClock) : Marked (s.received buffer wallClock) := by
  intro k
  show k ∈ s.treeItems ++ markActive s.pendingActiveKeys (s.acceptedFrom buffer wallClock)
    ↔ ∃ r ∈ s.relayed ++ s.acceptedFrom buffer wallClock, keyOf r.1 = k
  have hk := h k
  rw [List.mem_append] at hk
  rw [List.mem_append, mem_markActive _ (acceptedFrom_valid s buffer wallClock), ← or_assoc, hk]
  simp only [List.mem_append, or_and_right, exists_or]

theorem marked_update {s : Relay} (h : Marked s) (hcb : s.treeItemCb = true) (now : Int) :
    Marked (s.update now) := by
  intro k
  show k ∈ (if s.treeItemCb = true then s.treeItems ++ s.pendingActiveKeys else s.treeItems) ++ []
    ↔ ∃ r ∈ s.relayed, keyOf r.1 = k
  rw [if_pos hcb, List.append_nil]
  exact h k

/-- **Run lemma** of the keys: a key is marked active exactly when a transaction with
    it has been relayed. -/
theorem marked_run (ls : List RelayLabel) {s : Relay} (h : Marked s) (hcb : s.treeItemCb = true) :
    Marked (ls.foldl relayStep s) := by
  have hkept : Marked (ls.foldl relayStep s) ∧ (ls.foldl relayStep s).treeItemCb = true := by
    refine relay_invariant (P := fun t => Marked t ∧ t.treeItemCb = true)
      (fun _ _ _ _ _ ht => ht) (fun _ _ ht => ht) ?_ ?_ ls ⟨h, hcb⟩
    · rintro t buffer wallClock ⟨ht, htcb⟩
      exact ⟨marked_received ht buffer wallClock, htcb⟩
    · rintro t now ⟨ht, htcb⟩
      exact ⟨marked_update ht htcb now, htcb⟩
  exact hkept.1

theorem marked_start (s : Relay) (now : Int) : Marked (s.start now) := by
  intro k
  constructor
  · intro hin
    cases hin
  · rintro ⟨r, hr, -⟩
    cases hr

/-! ## The end of a session -/

/-- The call updates the view, the last time having been `last`. -/
def UpdatesAt (last : Int) : RelayLabel → Option Int
  | .processAndRelayData _ _ now => if UpdateDue last now then some now else none
  | _ => none

/-- How many calls there are up to the last that updates the view; the clock readings
    alone tell. -/
def updatedCalls (last : Int) : List RelayLabel → Nat
  | [] => 0
  | l :: ls =>
      match UpdatesAt last l with
      | some now => updatedCalls now ls + 1
      | none => if updatedCalls last ls = 0 then 0 else updatedCalls last ls + 1

/-- A call that does not update the view adds to what is pending. -/
theorem relayStep_pending {s : Relay} {l : RelayLabel} (h : UpdatesAt s.lastGuiUpdate l = none) :
    ∃ new, (relayStep s l).relayed = s.relayed ++ new ∧
      (relayStep s l).pendingMessages = s.pendingMessages ++ texts new ∧
      (relayStep s l).lastGuiUpdate = s.lastGuiUpdate := by
  cases l with
  | setFilterCriteria bus rt sa mc =>
      exact ⟨[], (List.append_nil _).symm, String.append_empty.symm, rfl⟩
  | enableFilter enable => exact ⟨[], (List.append_nil _).symm, String.append_empty.symm, rfl⟩
  | processAndRelayData buffer wallClock now =>
      have hearly : ¬UpdateDue s.lastGuiUpdate now := by
        intro hdue
        rw [UpdatesAt, if_pos hdue] at h
        cases h
      rw [relayStep, processAndRelayData_eq, if_neg hearly]
      exact ⟨s.acceptedFrom buffer wallClock, rfl, rfl, rfl⟩

/-- A call that does leaves nothing pending. -/
theorem relayStep_update {s : Relay} {l : RelayLabel} {now : Int}
    (h : UpdatesAt s.lastGuiUpdate l = some now) :
    (relayStep s l).pendingMessages = "" ∧ (relayStep s l).lastGuiUpdate = now := by
  cases l with
  | setFilterCriteria bus rt sa mc => cases h
  | enableFilter enable => cases h
  | processAndRelayData buffer wallClock t =>
      obtain ⟨hdue, hnow⟩ := Option.ite_none_right_eq_some.mp h
      cases hnow
      rw [relayStep, processAndRelayData_eq, if_pos hdue]
      exact ⟨rfl, rfl⟩

/-- **What is pending after a run**: the texts relayed behind the last update, and
    those from before when there was none. -/
theorem pending_run (ls : List RelayLabel) :
    ∀ s : Relay, ∃ new,
      (ls.foldl relayStep s).relayed
          = ((ls.take (updatedCalls s.lastGuiUpdate ls)).foldl relayStep s).relayed ++ new ∧
        (ls.foldl relayStep s).pendingMessages
          = (if updatedCalls s.lastGuiUpdate ls = 0 then s.pendingMessages else "") ++ texts new := by
  induction ls with
  | nil => intro s; exact ⟨[], (List.append_nil _).symm, String.append_empty.symm⟩
  | cons l ls ih =>
      intro s
      obtain ⟨new, hrelayed, hpending⟩ := ih (relayStep s l)
      cases hupdate : UpdatesAt s.lastGuiUpdate l with
      | some now =>
          obtain ⟨hnone, hlast⟩ := relayStep_update hupdate
          rw [hlast] at hrelayed hpending
          rw [updatedCalls, hupdate]
          refine ⟨new, hrelayed, ?_⟩
          rw [hnone, ite_self] at hpending
          rw [if_neg (Nat.succ_ne_zero _)]
          exact hpending
      | none =>
          obtain ⟨first, hfirst, hadded, hlast⟩ := relayStep_pending hupdate
          rw [hlast] at hrelayed hpending
          rw [updatedCalls, hupdate]
          by_cases hzero : updatedCalls s.lastGuiUpdate ls = 0
          · -- no update at all: what this call adds is pending, too
            rw [hzero, List.take_zero, List.foldl_nil, hfirst] at hrelayed
            rw [if_pos hzero, hadded] at hpending
            simp only [if_pos hzero]
            exact ⟨first ++ new, hrelayed.trans (List.append_assoc _ _ _),
              hpending.trans (by rw [String.append_assoc, ← texts_append]; rfl)⟩
          · simp only [if_neg hzero]
            rw [if_neg hzero] at hpending
            exact ⟨new, hrelayed, hpending⟩

/-- No text is empty. -/
theorem texts_eq_empty_iff (rs : List (MessageTransaction × WallClock)) :
    texts rs = "" ↔ rs = [] := by
  cases rs with
  | nil => exact ⟨fun _ => rfl, fun _ => rfl⟩
  | cons r rs =>
      refine ⟨fun h => ?_, fun h => by cases h⟩
      rw [show r :: rs = [r] ++ rs from rfl, texts_append, String.append_eq_empty_iff] at h
      have htext := h.1
      rw [texts_singleton, formatAndRelayTransaction, String.append_eq_empty_iff] at htext
      exact absurd htext.2 (by decide)

/-- At the end of a session everything has been delivered when nothing is pending. -/
theorem delivered_iff_pending {s : Relay} (hcb : s.messagesCb = true) (now : Int)
    (ls : List RelayLabel) :
    String.join (session s now ls).messages = texts (session s now ls).relayed
      ↔ (session s now ls).pendingMessages = "" := by
  have hrecord : String.join (session s now ls).messages ++ (session s now ls).pendingMessages
      = texts (session s now ls).relayed := recorded_run ls (recorded_start s now) hcb
  rw [← hrecord]
  constructor
  · intro h
    exact String.append_eq_left_iff.mp h.symm
  · intro h
    rw [h, String.append_empty]

/-- **What a session hands over**: the texts relayed up to the last update.  The others
    are still pending. -/
theorem handedOver_session {s : Relay} (hcb : s.messagesCb = true) (now : Int)
    (ls : List RelayLabel) :
    ∃ new,
      (session s now ls).relayed
          = (session s now (ls.take (updatedCalls now ls))).relayed ++ new ∧
        (session s now ls).pendingMessages = texts new ∧
        String.join (session s now ls).messages
          = texts (session s now (ls.take (updatedCalls now ls))).relayed := by
  obtain ⟨new, hrelayed, hpending⟩ := pending_run ls (s.start now)
  have hpending : (session s now ls).pendingMessages = texts new := by
    rw [show (s.start now).pendingMessages = "" from rfl, ite_self, String.empty_append] at hpending
    exact hpending
  have hrelayed : (session s now ls).relayed
      = (session s now (ls.take (updatedCalls now ls))).relayed ++ new := hrelayed
  have hrecord : String.join (session s now ls).messages ++ (session s now ls).pendingMessages
      = texts (session s now ls).relayed := recorded_run ls (recorded_start s now) hcb
  rw [hpending, hrelayed, texts_append, String.append_left_inj] at hrecord
  exact ⟨new, hrelayed, hpending, hrecord⟩

/-- **When a session delivers everything.**  At the end of a session the text handed
    to the view is that of all transactions that passed the filter, exactly when none
    passed it behind the last update. -/
theorem delivered_iff {s : Relay} (hcb : s.messagesCb = true) (now : Int) (ls : List RelayLabel) :
    String.join (session s now ls).messages = texts (acceptedIn (s.start now) ls) ↔
      acceptedIn (s.start now) ls = acceptedIn (s.start now) (ls.take (updatedCalls now ls)) := by
  obtain ⟨new, hrelayed, hpending, -⟩ := handedOver_session hcb now ls
  rw [← session_relayed, delivered_iff_pending hcb, hpending, ← session_relayed, hrelayed,
    List.append_right_eq_self, texts_eq_empty_iff]

/-- A wall clock that stands still. -/
def midnight : Nat → WallClock := fun _ => ⟨0, 0, 0, 0⟩

/-- A packet, and 60 ms later one more read, which updates the view. -/
def lateRead : List RelayLabel :=
  [.processAndRelayData (headerPacket 0x00 0x05 0x02 0x01) midnight 0,
    .processAndRelayData [] midnight 60000000]

theorem delivered_iff_lateRead :
    String.join (session (Relay.init true true) 0 lateRead).messages
        = texts (acceptedIn ((Relay.init true true).start 0) lateRead) ↔
      acceptedIn ((Relay.init true true).start 0) lateRead
        = acceptedIn ((Relay.init true true).start 0) (lateRead.take (updatedCalls 0 lateRead)) :=
  delivered_iff rfl 0 lateRead

/-- One packet at the start of a session that is stopped at once: its text is never
    handed over. -/
theorem lastPacket_not_delivered :
    String.join (session (Relay.init true true) 0
        [.processAndRelayData (headerPacket 0x00 0x05 0x02 0x01) midnight 0]).messages
      ≠ texts (acceptedIn ((Relay.init true true).start 0)
          [.processAndRelayData (headerPacket 0x00 0x05 0x02 0x01) midnight 0]) := by
  intro hdelivered
  have hframe := transactions_isFrame (isFrame_headerPacket (Or.inl rfl) 0x05 0x02 0x01)
  -- the call is no update, so all that passed the filter is behind the last one
  have hnone := (delivered_iff rfl 0 _).mp hdelivered
  have haccepted : acceptedIn ((Relay.init true true).start 0)
      [.processAndRelayData (headerPacket 0x00 0x05 0x02 0x01) midnight 0]
        = accepted (Relay.init true true).passes (transactions (ProtocolParser.reset.parseStream
            (headerPacket 0x00 0x05 0x02 0x01)).1) midnight := List.append_nil _
  rw [haccepted, hframe] at hnone
  cases hnone

end TcpRelay
