import Mathlib.Data.List.Induction
import Tcp1553.DeliveryProofs
import Tcp1553.LinesProofs
import Tcp1553.ReadBackProofs
import Tcp1553.TreeProofs

/-! # The bus monitor panel

    The callbacks that `BusMonitorPanel` gives to `BM` run on the monitor thread; they
    hand closures to `CallAfter`, and the user interface runs these one by one, between
    the clicks of the user.  `appendMessagesToUi` appends to the message list and, on
    every tenth call, removes the oldest lines of a list of more than 2200.

    `viewStep` is the panel with the singleton behind it.  `Shows` relates it to the
    delivery of transactions from the relay to the list, and `shows_run` says that every
    run of the panel is one of that delivery; `list_shows` and `fresh_start` are what
    this means for the text on the screen. -/

namespace TcpView

open Delivery TextLines TcpWire TcpParser TcpEncoder TcpRelay

/-! ## The panel -/

/-- A closure given to `CallAfter`. -/
inductive Closure where
  | appendMessagesToUi (messages : String)
  | updateTreeItemVisualState (key : RtSaKey) (isActive : Bool)
  deriving DecidableEq, Repr

/-- `BusMonitorPanel`, with the state of `BM` and the closures that wait.  `green` and
    `bold` are the items of the tree with the text colour and the font of that name. -/
structure BusMonitorPanel where
  bm                  : Relay
  monitoringActive    : Bool
  pendingEvents       : List Closure
  messageList         : List Char
  checkCounter        : Nat
  green               : Nat → Bool
  bold                : Nat → Bool
  filterButtonLabel   : String
  filterButtonEnabled : Bool
  startStopLabel      : String

/-- The label of the filter button without a filter. -/
def noFilterLabel : String := "No filter set. Click a tree item to filter."

/-- The panel as it is constructed. -/
def BusMonitorPanel.init : BusMonitorPanel where
  bm := Relay.init true true
  monitoringActive := false
  pendingEvents := []
  messageList := []
  checkCounter := 0
  green := fun _ => false
  bold := fun _ => false
  filterButtonLabel := noFilterLabel
  filterButtonEnabled := false
  startStopLabel := "Start"

/-- `m_uiRecentMessageCount`. -/
def uiRecentMessageCount : Nat := 2000

/-- `appendMessagesToUi`. -/
def BusMonitorPanel.appendMessagesToUi (s : BusMonitorPanel) (newMessagesChunk : String) :
    BusMonitorPanel :=
  let messageList := s.messageList ++ newMessagesChunk.toList
  let checkCounter := s.checkCounter + 1
  if checkCounter % 10 ≠ 0 then { s with messageList, checkCounter }
  else
    let lines := breaks messageList + 1
    if lines > uiRecentMessageCount + 200 then
      let linesToRemove := lines - uiRecentMessageCount
      let pos := linePos linesToRemove messageList
      if pos > 0 then { s with messageList := messageList.drop pos, checkCounter }
      else { s with messageList, checkCounter }
    else { s with messageList, checkCounter }

/-- The items of the model. -/
def Tree.modelItems (t : Tree) : List Nat :=
  t.busList.flatMap fun bus => bus.treeObject :: bus.rtList.flatMap fun rt =>
    rt.treeObject :: rt.saList

/-- `resetTreeVisualState`. -/
def BusMonitorPanel.resetTreeVisualState (t : Tree) (s : BusMonitorPanel) : BusMonitorPanel :=
  { s with
    green := fun item => if item ∈ t.modelItems then false else s.green item
    bold := fun item => if item ∈ t.modelItems then false else s.bold item }

/-- The items of a subaddress, its terminal and its bus. -/
def Tree.itemsOf (t : Tree) (busIdx rt sa : Nat) : Option (List Nat) := do
  let bus ← t.busList[busIdx]?
  let rtItem ← bus.rtList[rt]?
  let saItem ← rtItem.saList[sa]?
  return [saItem, rtItem.treeObject, bus.treeObject]

/-- `updateTreeItemVisualState`. -/
def BusMonitorPanel.updateTreeItemVisualState (t : Tree) (s : BusMonitorPanel) (key : RtSaKey)
    (isActive : Bool) : BusMonitorPanel :=
  let busIdx := if key.bus.toUpper = 'A' then 0 else 1
  if key.rt ≥ RT_COUNT ∨ key.sa ≥ SA_COUNT then s
  else
    match t.itemsOf busIdx key.rt key.sa with
    | none => s
    | some items =>
        if isActive = true then
          { s with
            green := fun item => if item ∈ items then true else s.green item
            bold := fun item => if item ∈ items then true else s.bold item }
        else s

/-- What a closure does. -/
def BusMonitorPanel.call (t : Tree) (s : BusMonitorPanel) : Closure → BusMonitorPanel
  | .appendMessagesToUi messages => s.appendMessagesToUi messages
  | .updateTreeItemVisualState key isActive => s.updateTreeItemVisualState t key isActive

/-- The callbacks: the calls that were made between two states of the relay, as they
    are given to `CallAfter`. -/
def posts (before after : Relay) : List Closure :=
  (after.messages.drop before.messages.length).map .appendMessagesToUi
    ++ (after.treeItems.drop before.treeItems.length).map (.updateTreeItemVisualState · true)

/-- `BM::start`; `sniffing` is what `startSniffing` returns. -/
def BusMonitorPanel.startBm (s : BusMonitorPanel) (sniffing : Bool) (now : Int) : BusMonitorPanel :=
  if s.monitoringActive = true then s
  else { s with bm := s.bm.start now, monitoringActive := sniffing }

/-- `BM::stop`. -/
def BusMonitorPanel.stopBm (s : BusMonitorPanel) : BusMonitorPanel :=
  if s.monitoringActive = true then { s with bm := s.bm.stop, monitoringActive := false } else s

/-- The list and the tree, cleared for a start. -/
def BusMonitorPanel.cleared (t : Tree) (s : BusMonitorPanel) : BusMonitorPanel :=
  { s.resetTreeVisualState t with messageList := [] }

/-- `onStartStopClicked`. -/
def BusMonitorPanel.onStartStopClicked (t : Tree) (s : BusMonitorPanel) (sniffing : Bool)
    (now : Int) : BusMonitorPanel :=
  if s.monitoringActive = true then { s.stopBm with startStopLabel := "Start" }
  else
    let s := (s.cleared t).startBm sniffing now
    if s.monitoringActive = true then { s with startStopLabel := "Stop" } else s

/-- `TcpConnectionPanel::onConnect`, and behind it `InitializeHardware` of this panel. -/
def BusMonitorPanel.onConnect (s : BusMonitorPanel) (portIsNumber sniffing : Bool) (now : Int) :
    BusMonitorPanel :=
  if portIsNumber = true then
    let s := s.startBm sniffing now
    if s.monitoringActive = true then { s with startStopLabel := "Stop" } else s
  else s

/-- `onResetStreamClicked`. -/
def BusMonitorPanel.onResetStreamClicked (t : Tree) (s : BusMonitorPanel) : BusMonitorPanel :=
  if s.monitoringActive = true then s
  else { s with messageList := [] }.resetTreeVisualState t

/-- `onClearClicked`. -/
def BusMonitorPanel.onClearClicked (t : Tree) (s : BusMonitorPanel) : BusMonitorPanel :=
  { s with messageList := [] }.resetTreeVisualState t

/-- `onClearFilterClicked`. -/
def BusMonitorPanel.onClearFilterClicked (t : Tree) (s : BusMonitorPanel) : BusMonitorPanel :=
  if s.bm.filterEnabled = true then
    { s with
      bm := relayStep s.bm (.enableFilter false)
      filterButtonLabel := noFilterLabel
      filterButtonEnabled := false }.resetTreeVisualState t
  else s

/-- The text of the filter button. -/
def filterLabel (c : Criteria) : String :=
  "Filtering by: "
    ++ (if c.bus ≠ Char.ofNat 0 then "Bus " ++ String.singleton c.bus else "")
    ++ (if c.rt ≠ -1 then ", RT " ++ toString c.rt else "")
    ++ (if c.sa ≠ -1 then ", SA " ++ toString c.sa else "")
    ++ (if c.mc ≠ -1 then ", MC " ++ toString c.mc else "")

/-- `onTreeItemClicked`. -/
def BusMonitorPanel.onTreeItemClicked (t : Tree) (s : BusMonitorPanel) (clicked : Nat) :
    BusMonitorPanel :=
  match t.searchItem clicked with
  | none => s
  | some c =>
      let bm := relayStep s.bm (.setFilterCriteria c.bus c.rt c.sa c.mc)
      let s := { s with
        bm := relayStep bm (.enableFilter true)
        filterButtonLabel := filterLabel c
        filterButtonEnabled := true }.resetTreeVisualState t
      { s with bold := fun item => if item = clicked then true else s.bold item }

/-- What happens: bytes reach the monitor thread, a closure is run, or the user clicks. -/
inductive ViewLabel where
  | processAndRelayData (buffer : List UInt8) (wallClock : Nat → WallClock) (now : Int)
  | runClosure
  | onStartStopClicked (sniffing : Bool) (now : Int)
  | onConnect (portIsNumber sniffing : Bool) (now : Int)
  | onResetStreamClicked
  | onClearClicked
  | onClearFilterClicked
  | onTreeItemClicked (clicked : Nat)

/-- One of these; the monitor thread is there only while monitoring is active. -/
def viewStep (t : Tree) (s : BusMonitorPanel) : ViewLabel → BusMonitorPanel
  | .processAndRelayData buffer wallClock now =>
      if s.monitoringActive = true then
        let bm := s.bm.processAndRelayData buffer wallClock now
        { s with bm, pendingEvents := s.pendingEvents ++ posts s.bm bm }
      else s
  | .runClosure =>
      match s.pendingEvents with
      | [] => s
      | closure :: pendingEvents => { s with pendingEvents }.call t closure
  | .onStartStopClicked sniffing now => s.onStartStopClicked t sniffing now
  | .onConnect portIsNumber sniffing now => s.onConnect portIsNumber sniffing now
  | .onResetStreamClicked => s.onResetStreamClicked t
  | .onClearClicked => s.onClearClicked t
  | .onClearFilterClicked => s.onClearFilterClicked t
  | .onTreeItemClicked clicked => s.onTreeItemClicked t clicked

/-- A run of the panel. -/
def viewRun (t : Tree) (s : BusMonitorPanel) (ls : List ViewLabel) : BusMonitorPanel :=
  ls.foldl (viewStep t) s

/-! ## What one call does -/

/-- **`appendMessagesToUi`** appends and cuts off whole lines: none, or all but the last
    2000; and on every tenth call the list ends up with 2200 lines at most. -/
theorem appendMessagesToUi_eq (s : BusMonitorPanel) (chunk : String) :
    ∃ m, s.appendMessagesToUi chunk = { s with
          messageList := dropLines m (s.messageList ++ chunk.toList)
          checkCounter := s.checkCounter + 1 } ∧
      m ≤ breaks (s.messageList ++ chunk.toList) ∧
      (m = 0 ∨ breaks (dropLines m (s.messageList ++ chunk.toList)) = 1999) ∧
      ((s.checkCounter + 1) % 10 = 0 →
        breaks (dropLines m (s.messageList ++ chunk.toList)) < 2200) := by
  rw [BusMonitorPanel.appendMessagesToUi]
  generalize s.messageList ++ chunk.toList = text
  by_cases hcheck : (s.checkCounter + 1) % 10 ≠ 0
  · refine ⟨0, ?_, Nat.zero_le _, Or.inl rfl, fun h => absurd h hcheck⟩
    simp only [if_pos hcheck, dropLines_zero]
  · by_cases hlines : breaks text + 1 > uiRecentMessageCount + 200
    · have hmany : 2200 ≤ breaks text := Nat.lt_succ_iff.mp hlines
      have hle : breaks text + 1 - uiRecentMessageCount ≤ breaks text := by
        rw [uiRecentMessageCount]
        omega
      have hpos : 0 < breaks text + 1 - uiRecentMessageCount := by
        rw [uiRecentMessageCount]
        omega
      have hleft : breaks (dropLines (breaks text + 1 - uiRecentMessageCount) text) = 1999 := by
        rw [breaks_dropLines, uiRecentMessageCount]
        omega
      refine ⟨breaks text + 1 - uiRecentMessageCount, ?_, hle, Or.inr hleft,
        fun _ => by rw [hleft]; decide⟩
      simp only [if_neg hcheck, if_pos hlines, if_pos (linePos_pos hpos hle), drop_linePos]
    · have hfew : breaks text < 2200 := by
        rw [uiRecentMessageCount] at hlines
        omega
      refine ⟨0, ?_, Nat.zero_le _, Or.inl rfl, fun _ => by rw [dropLines_zero]; exact hfew⟩
      simp only [if_neg hcheck, if_neg hlines, dropLines_zero]

/-- **What a call of the relay posts**: with an update all that was pending, the text
    first and the keys behind it. -/
theorem posts_processAndRelayData {s : Relay} (hmessages : s.messagesCb = true)
    (htree : s.treeItemCb = true) (buffer : List UInt8) (wallClock : Nat → WallClock) (now : Int) :
    posts s (s.processAndRelayData buffer wallClock now)
      = if UpdateDue s.lastGuiUpdate now then
          (if (s.received buffer wallClock).pendingMessages ≠ "" then
            [.appendMessagesToUi (s.received buffer wallClock).pendingMessages] else [])
          ++ (s.received buffer wallClock).pendingActiveKeys.map
              (.updateTreeItemVisualState · true)
        else [] := by
  rw [processAndRelayData_eq]
  by_cases hdue : UpdateDue s.lastGuiUpdate now
  · rw [if_pos hdue, if_pos hdue, posts]
    generalize hr : s.received buffer wallClock = r
    have hkept : r.messages = s.messages ∧ r.treeItems = s.treeItems ∧ r.messagesCb = true ∧
        r.treeItemCb = true := by
      rw [← hr]
      exact ⟨rfl, rfl, hmessages, htree⟩
    obtain ⟨hm, ht, hmcb, htcb⟩ := hkept
    simp only [Relay.update, if_pos htcb, hm, ht, List.drop_left]
    by_cases htext : r.pendingMessages ≠ ""
    · rw [if_pos ⟨hmcb, htext⟩, if_pos htext, List.drop_left]
      rfl
    · rw [if_neg fun h => htext h.2, if_neg htext, List.drop_length]
      rfl
  · rw [if_neg hdue, if_neg hdue, posts]
    show (s.messages.drop _).map _ ++ (s.treeItems.drop _).map _ = _
    rw [List.drop_length, List.drop_length]
    rfl

theorem updateTreeItemVisualState_rest (t : Tree) (s : BusMonitorPanel) (key : RtSaKey)
    (isActive : Bool) :
    ∃ green bold, s.updateTreeItemVisualState t key isActive = { s with green, bold } := by
  rw [BusMonitorPanel.updateTreeItemVisualState]
  split
  · exact ⟨s.green, s.bold, rfl⟩
  · split
    · exact ⟨s.green, s.bold, rfl⟩
    · split
      · exact ⟨_, _, rfl⟩
      · exact ⟨s.green, s.bold, rfl⟩

/-- A closure leaves the queue and the relay alone. -/
theorem call_rest (t : Tree) (s : BusMonitorPanel) (closure : Closure) :
    (s.call t closure).pendingEvents = s.pendingEvents ∧ (s.call t closure).bm = s.bm ∧
      (s.call t closure).monitoringActive = s.monitoringActive ∧
      (s.call t closure).filterButtonLabel = s.filterButtonLabel ∧
      (s.call t closure).filterButtonEnabled = s.filterButtonEnabled ∧
      (s.call t closure).startStopLabel = s.startStopLabel := by
  cases closure with
  | appendMessagesToUi messages =>
      obtain ⟨m, hcall, -⟩ := appendMessagesToUi_eq s messages
      rw [BusMonitorPanel.call, hcall]
      exact ⟨rfl, rfl, rfl, rfl, rfl, rfl⟩
  | updateTreeItemVisualState key isActive =>
      obtain ⟨green, bold, hcall⟩ := updateTreeItemVisualState_rest t s key isActive
      rw [BusMonitorPanel.call, hcall]
      exact ⟨rfl, rfl, rfl, rfl, rfl, rfl⟩

theorem startBm_active {s : BusMonitorPanel} (h : s.monitoringActive = true) (sniffing : Bool)
    (now : Int) : s.startBm sniffing now = s :=
  if_pos h

/-- The panel when a start has begun. -/
def BusMonitorPanel.started (s : BusMonitorPanel) (sniffing : Bool) (now : Int) : BusMonitorPanel :=
  { s with
    bm := s.bm.start now
    monitoringActive := sniffing
    startStopLabel := if sniffing = true then "Stop" else s.startStopLabel }

/-- The panel with another filter. -/
def BusMonitorPanel.filteringBy (s : BusMonitorPanel) (c : Criteria) : BusMonitorPanel :=
  { s with
    bm := { s.bm with
      filterEnabled := true
      filterBus := c.bus
      filterRt := c.rt
      filterSa := c.sa
      filterMc := c.mc }
    filterButtonLabel := filterLabel c
    filterButtonEnabled := true }

/-- The panel without a filter. -/
def BusMonitorPanel.unfiltered (s : BusMonitorPanel) : BusMonitorPanel :=
  { s with
    bm := { s.bm with filterEnabled := false }
    filterButtonLabel := noFilterLabel
    filterButtonEnabled := false }

/-- A start, and the label behind it. -/
theorem startBm_label {s : BusMonitorPanel} (h : ¬s.monitoringActive = true) (sniffing : Bool)
    (now : Int) :
    (if (s.startBm sniffing now).monitoringActive = true then
        { s.startBm sniffing now with startStopLabel := "Stop" }
      else s.startBm sniffing now) = s.started sniffing now := by
  rw [BusMonitorPanel.started, BusMonitorPanel.startBm, if_neg h]
  cases sniffing with
  | true => rfl
  | false => rfl

/-- A click on "Start". -/
theorem onStartStopClicked_idle (t : Tree) {s : BusMonitorPanel}
    (h : ¬s.monitoringActive = true) (sniffing : Bool) (now : Int) :
    s.onStartStopClicked t sniffing now = (s.cleared t).started sniffing now := by
  have hcleared : ¬(s.cleared t).monitoringActive = true := h
  rw [BusMonitorPanel.onStartStopClicked, if_neg h]
  exact startBm_label hcleared sniffing now

/-- **What a step does**: the rule for what a step keeps. -/
theorem view_rule (t : Tree) {P : BusMonitorPanel → Prop} {s : BusMonitorPanel} (l : ViewLabel)
    (h : P s)
    (hrelay : ∀ buffer wallClock now, l = .processAndRelayData buffer wallClock now →
      s.monitoringActive = true → P { s with
        bm := s.bm.processAndRelayData buffer wallClock now
        pendingEvents := s.pendingEvents
          ++ posts s.bm (s.bm.processAndRelayData buffer wallClock now) })
    (hcall : ∀ closure pendingEvents, s.pendingEvents = closure :: pendingEvents →
      P ({ s with pendingEvents }.call t closure))
    (hstop : s.monitoringActive = true →
      P { s with bm := s.bm.stop, monitoringActive := false, startStopLabel := "Start" })
    (hstart : ∀ sniffing now, s.monitoringActive = false →
      P ((s.cleared t).started sniffing now))
    (hconnect : ∀ sniffing now, s.monitoringActive = false → P (s.started sniffing now))
    (hconnected : s.monitoringActive = true → P { s with startStopLabel := "Stop" })
    (hclear : P ({ s with messageList := [] }.resetTreeVisualState t))
    (hunfilter : P (s.unfiltered.resetTreeVisualState t))
    (hfilter : ∀ clicked c, l = .onTreeItemClicked clicked → t.searchItem clicked = some c →
      P { (s.filteringBy c).resetTreeVisualState t with
        bold := fun item => if item = clicked then true
          else ((s.filteringBy c).resetTreeVisualState t).bold item }) :
    P (viewStep t s l) := by
  cases l with
  | processAndRelayData buffer wallClock now =>
      rw [viewStep]
      split
      · rename_i hactive
        exact hrelay buffer wallClock now rfl hactive
      · exact h
  | runClosure =>
      cases hqueue : s.pendingEvents with
      | nil =>
          simp only [viewStep, hqueue]
          exact h
      | cons closure pendingEvents =>
          simp only [viewStep, hqueue]
          exact hcall closure pendingEvents hqueue
  | onStartStopClicked sniffing now =>
      rw [viewStep]
      by_cases hactive : s.monitoringActive = true
      · rw [BusMonitorPanel.onStartStopClicked, if_pos hactive, BusMonitorPanel.stopBm,
          if_pos hactive]
        exact hstop hactive
      · rw [onStartStopClicked_idle t hactive]
        exact hstart sniffing now (Bool.eq_false_iff.mpr hactive)
  | onConnect portIsNumber sniffing now =>
      rw [viewStep, BusMonitorPanel.onConnect]
      split
      · by_cases hactive : s.monitoringActive = true
        · simp only [startBm_active hactive, if_pos hactive]
          exact hconnected hactive
        · rw [startBm_label hactive]
          exact hconnect sniffing now (Bool.eq_false_iff.mpr hactive)
      · exact h
  | onResetStreamClicked =>
      rw [viewStep, BusMonitorPanel.onResetStreamClicked]
      split
      · exact h
      · exact hclear
  | onClearClicked => exact hclear
  | onClearFilterClicked =>
      rw [viewStep, BusMonitorPanel.onClearFilterClicked]
      split
      · exact hunfilter
      · exact h
  | onTreeItemClicked clicked =>
      rw [viewStep, BusMonitorPanel.onTreeItemClicked]
      split
      · exact h
      · rename_i c hfound
        exact hfilter clicked c rfl hfound

/-! ## The delivery of the transactions -/

/-- A transaction with the time it was formatted at. -/
abbrev Relayed := MessageTransaction × WallClock

/-- The texts that wait. -/
def queuedTexts (closures : List Closure) : List String :=
  closures.filterMap fun
    | .appendMessagesToUi messages => some messages
    | .updateTreeItemVisualState _ _ => none

/-- What a step of the panel is to the delivery. -/
def deliveries (s : BusMonitorPanel) : ViewLabel → List (Event Relayed)
  | .processAndRelayData buffer wallClock now =>
      if s.monitoringActive = true then
        .receive (s.bm.acceptedFrom buffer wallClock)
          :: if UpdateDue s.bm.lastGuiUpdate now then [.handOver] else []
      else []
  | .runClosure =>
      match s.pendingEvents with
      | .appendMessagesToUi _ :: _ => [.deliver]
      | _ => []
  | .onStartStopClicked _ _ => if s.monitoringActive = true then [] else [.empty, .restart]
  | .onConnect portIsNumber _ _ =>
      if portIsNumber = true ∧ s.monitoringActive = false then [.restart] else []
  | .onResetStreamClicked => if s.monitoringActive = true then [] else [.empty]
  | .onClearClicked => [.empty]
  | .onClearFilterClicked => []
  | .onTreeItemClicked _ => []

/-- What a run of the panel is to it. -/
def viewEvents (t : Tree) : BusMonitorPanel → List ViewLabel → List (Event Relayed)
  | _, [] => []
  | s, l :: ls => deliveries s l ++ viewEvents t (viewStep t s l) ls

/-- The delivery as the panel is constructed. -/
def nothing : Feed Relayed := ⟨[], [], []⟩

/-- The list shows what has been delivered, less whole lines at its beginning and never
    less than 2000 lines because of that; the closures that wait and the text that is
    pending are the texts of what waits. -/
structure Shows (s : BusMonitorPanel) (f : Feed Relayed) : Prop where
  list      : ∃ n, n ≤ breaks (texts f.shown).toList ∧
    s.messageList = dropLines n (texts f.shown).toList ∧ (n = 0 ∨ 1999 ≤ breaks s.messageList)
  queue     : queuedTexts s.pendingEvents = f.queued.map texts
  pending   : s.bm.pendingMessages = texts f.pending
  callbacks : s.bm.messagesCb = true ∧ s.bm.treeItemCb = true

theorem queuedTexts_append (cs cs' : List Closure) :
    queuedTexts (cs ++ cs') = queuedTexts cs ++ queuedTexts cs' :=
  List.filterMap_append

theorem queuedTexts_keys (keys : List RtSaKey) :
    queuedTexts (keys.map (.updateTreeItemVisualState · true)) = [] :=
  List.filterMap_eq_nil_iff.mpr fun closure h => by
    obtain ⟨key, -, rfl⟩ := List.mem_map.mp h
    rfl

/-- What only the tree, the filter or a label is about is no matter of the delivery. -/
theorem Shows.of_eq {s s' : BusMonitorPanel} {f : Feed Relayed} (h : Shows s f)
    (hlist : s'.messageList = s.messageList) (hevents : s'.pendingEvents = s.pendingEvents)
    (hpending : s'.bm.pendingMessages = s.bm.pendingMessages)
    (hmessages : s'.bm.messagesCb = s.bm.messagesCb)
    (htree : s'.bm.treeItemCb = s.bm.treeItemCb) : Shows s' f where
  list := by
    rw [hlist]
    exact h.list
  queue := by
    rw [hevents]
    exact h.queue
  pending := hpending.trans h.pending
  callbacks := ⟨hmessages.trans h.callbacks.1, htree.trans h.callbacks.2⟩

theorem shows_init : Shows .init nothing :=
  ⟨⟨0, Nat.zero_le _, (dropLines_zero _).symm, Or.inl rfl⟩, rfl, rfl, rfl, rfl⟩

/-- Clearing the list. -/
theorem Shows.empty {s s' : BusMonitorPanel} {f : Feed Relayed} (h : Shows s f)
    (hlist : s'.messageList = []) (hevents : s'.pendingEvents = s.pendingEvents)
    (hbm : s'.bm = s.bm) : Shows s' (f.step .empty) where
  list := ⟨0, Nat.zero_le _, hlist.trans (dropLines_zero _).symm, Or.inl rfl⟩
  queue := by
    rw [hevents]
    exact h.queue
  pending := (congrArg Relay.pendingMessages hbm).trans h.pending
  callbacks := by
    rw [hbm]
    exact h.callbacks

/-- Starting the monitor. -/
theorem Shows.restart {s s' : BusMonitorPanel} {f : Feed Relayed} {now : Int} (h : Shows s f)
    (hlist : s'.messageList = s.messageList) (hevents : s'.pendingEvents = s.pendingEvents)
    (hbm : s'.bm = s.bm.start now) : Shows s' (f.step .restart) where
  list := by
    rw [hlist]
    exact h.list
  queue := by
    rw [hevents]
    exact h.queue
  pending := congrArg Relay.pendingMessages hbm
  callbacks := by
    rw [hbm]
    exact h.callbacks

/-- A text appended to the list. -/
theorem Shows.deliver {s : BusMonitorPanel} {f : Feed Relayed} {messages : String}
    {pendingEvents : List Closure} (h : Shows s f)
    (hqueue : s.pendingEvents = .appendMessagesToUi messages :: pendingEvents) :
    Shows ({ s with pendingEvents }.appendMessagesToUi messages) (f.step .deliver) := by
  obtain ⟨shown, queued, pending⟩ := f
  have htexts : messages :: queuedTexts pendingEvents = queued.map texts := by
    have hall := h.queue
    rw [hqueue] at hall
    exact hall
  obtain ⟨batch, queued, rfl, rfl, hrest⟩ := List.map_eq_cons_iff.mp htexts.symm
  obtain ⟨n, hn, hlist, hkept⟩ := h.list
  obtain ⟨m, hcall, hm, hcut, -⟩ :=
    appendMessagesToUi_eq { s with pendingEvents } (texts batch)
  have hmore : s.messageList ++ (texts batch).toList = dropLines n (texts (shown ++ batch)).toList := by
    rw [hlist, texts_append, String.toList_append, dropLines_append, if_pos hn]
  have hbreaks : breaks (texts shown).toList ≤ breaks (texts (shown ++ batch)).toList := by
    rw [texts_append, String.toList_append, breaks_append]
    exact Nat.le_add_right _ _
  rw [hcall]
  refine ⟨⟨n + m, ?_, ?_, ?_⟩, hrest.symm, h.pending, h.callbacks⟩
  · have hm' : m ≤ breaks (dropLines n (texts (shown ++ batch)).toList) := hmore ▸ hm
    have hn' : n ≤ breaks (texts shown).toList := hn
    rw [breaks_dropLines] at hm'
    show n + m ≤ breaks (texts (shown ++ batch)).toList
    omega
  · show dropLines m (s.messageList ++ (texts batch).toList) = dropLines (n + m) _
    rw [hmore, dropLines_dropLines]
    rfl
  · show n + m = 0 ∨ 1999 ≤ breaks (dropLines m (s.messageList ++ (texts batch).toList))
    rcases hcut with rfl | hleft
    · rw [dropLines_zero, breaks_append]
      exact hkept.imp id fun hmany => Nat.le_add_right_of_le hmany
    · exact Or.inr (Nat.le_of_eq hleft.symm)

/-- A call of the relay. -/
theorem Shows.relay {s : BusMonitorPanel} {f : Feed Relayed} (h : Shows s f)
    (hactive : s.monitoringActive = true) (t : Tree) (buffer : List UInt8)
    (wallClock : Nat → WallClock) (now : Int) :
    Shows (viewStep t s (.processAndRelayData buffer wallClock now))
      (f.run (deliveries s (.processAndRelayData buffer wallClock now))) := by
  have hposts := posts_processAndRelayData h.callbacks.1 h.callbacks.2 buffer wallClock now
  have hreceived : (s.bm.received buffer wallClock).pendingMessages
      = texts (f.pending ++ s.bm.acceptedFrom buffer wallClock) := by
    rw [texts_append, ← h.pending]
    rfl
  have hcallbacks : (s.bm.processAndRelayData buffer wallClock now).messagesCb = true ∧
      (s.bm.processAndRelayData buffer wallClock now).treeItemCb = true := by
    rw [processAndRelayData_eq]
    split <;> exact h.callbacks
  have hbatches : ∃ batches pending,
      f.run (deliveries s (.processAndRelayData buffer wallClock now))
          = ⟨f.shown, f.queued ++ batches, pending⟩ ∧
        queuedTexts (posts s.bm (s.bm.processAndRelayData buffer wallClock now))
          = batches.map texts ∧
        (s.bm.processAndRelayData buffer wallClock now).pendingMessages = texts pending := by
    rw [hposts, processAndRelayData_eq, deliveries, if_pos hactive]
    by_cases hdue : UpdateDue s.bm.lastGuiUpdate now
    · rw [if_pos hdue, if_pos hdue, if_pos hdue, hreceived]
      show ∃ batches pending, Feed.step { f with pending := f.pending ++ _ } .handOver = _ ∧ _ ∧ _
      rw [Feed.step, queuedTexts_append, queuedTexts_keys, List.append_nil]
      by_cases hnone : f.pending ++ s.bm.acceptedFrom buffer wallClock = []
      · rw [hnone, if_pos rfl, if_neg (not_not_intro ((texts_eq_empty_iff []).mpr rfl))]
        exact ⟨[], [], by rw [List.append_nil], rfl, rfl⟩
      · rw [if_neg hnone, if_pos fun hempty => hnone ((texts_eq_empty_iff _).mp hempty)]
        exact ⟨[_], [], rfl, rfl, rfl⟩
    · rw [if_neg hdue, if_neg hdue, if_neg hdue]
      exact ⟨[], _, by rw [List.append_nil]; rfl, rfl, hreceived⟩
  obtain ⟨batches, pending, hfeed, hposted, hpending⟩ := hbatches
  rw [hfeed, viewStep, if_pos hactive]
  refine ⟨h.list, ?_, hpending, hcallbacks⟩
  show queuedTexts (s.pendingEvents ++ posts s.bm _) = _
  rw [queuedTexts_append, h.queue, hposted, List.map_append]

/-- **Step lemma**: a step of the panel is its deliveries. -/
theorem shows_step (t : Tree) {s : BusMonitorPanel} {f : Feed Relayed} (h : Shows s f)
    (l : ViewLabel) : Shows (viewStep t s l) (f.run (deliveries s l)) := by
  cases l with
  | processAndRelayData buffer wallClock now =>
      by_cases hactive : s.monitoringActive = true
      · exact h.relay hactive t buffer wallClock now
      · rw [viewStep, if_neg hactive, deliveries, if_neg hactive]
        exact h
  | runClosure =>
      cases hqueue : s.pendingEvents with
      | nil =>
          simp only [viewStep, deliveries, hqueue]
          exact h
      | cons closure pendingEvents =>
          cases closure with
          | appendMessagesToUi messages =>
              simp only [viewStep, deliveries, hqueue]
              exact h.deliver hqueue
          | updateTreeItemVisualState key isActive =>
              simp only [viewStep, deliveries, hqueue]
              obtain ⟨green, bold, heq⟩ :=
                updateTreeItemVisualState_rest t { s with pendingEvents } key isActive
              rw [BusMonitorPanel.call, heq]
              refine ⟨h.list, ?_, h.pending, h.callbacks⟩
              have hall := h.queue
              rw [hqueue] at hall
              exact hall
  | onStartStopClicked sniffing now =>
      rw [viewStep, deliveries]
      by_cases hactive : s.monitoringActive = true
      · rw [BusMonitorPanel.onStartStopClicked, if_pos hactive, if_pos hactive,
          BusMonitorPanel.stopBm, if_pos hactive]
        exact h.of_eq rfl rfl rfl rfl rfl
      · have hcleared : Shows (s.cleared t) (f.step .empty) := h.empty rfl rfl rfl
        rw [onStartStopClicked_idle t hactive, if_neg hactive]
        exact hcleared.restart rfl rfl (show _ = s.bm.start now from rfl)
  | onConnect portIsNumber sniffing now =>
      rw [viewStep, BusMonitorPanel.onConnect, deliveries]
      by_cases hport : portIsNumber = true
      · rw [if_pos hport]
        by_cases hactive : s.monitoringActive = true
        · simp only [startBm_active hactive, if_pos hactive]
          rw [if_neg fun hboth => Bool.noConfusion (hactive.symm.trans hboth.2)]
          exact h.of_eq rfl rfl rfl rfl rfl
        · have hrestarts : portIsNumber = true ∧ s.monitoringActive = false :=
            ⟨hport, Bool.eq_false_iff.mpr hactive⟩
          rw [startBm_label hactive, if_pos hrestarts]
          exact h.restart rfl rfl (show _ = s.bm.start now from rfl)
      · rw [if_neg hport, if_neg fun hboth => hport hboth.1]
        exact h
  | onResetStreamClicked =>
      rw [viewStep, BusMonitorPanel.onResetStreamClicked, deliveries]
      by_cases hactive : s.monitoringActive = true
      · rw [if_pos hactive, if_pos hactive]
        exact h
      · rw [if_neg hactive, if_neg hactive]
        exact h.empty rfl rfl rfl
  | onClearClicked => exact h.empty rfl rfl rfl
  | onClearFilterClicked =>
      rw [viewStep, BusMonitorPanel.onClearFilterClicked]
      split
      · exact h.of_eq rfl rfl rfl rfl rfl
      · exact h
  | onTreeItemClicked clicked =>
      rw [viewStep, BusMonitorPanel.onTreeItemClicked]
      split
      · exact h
      · exact h.of_eq rfl rfl rfl rfl rfl

/-- **Run lemma**: a run of the panel is a run of the delivery. -/
theorem shows_run (t : Tree) (ls : List ViewLabel) :
    ∀ {s : BusMonitorPanel} {f : Feed Relayed}, Shows s f →
      Shows (viewRun t s ls) (f.run (viewEvents t s ls)) := by
  induction ls with
  | nil => exact fun h => h
  | cons l ls ih =>
      intro s f h
      have hrest := ih (shows_step t h l)
      rw [viewEvents, Feed.run_append]
      exact hrest

/-! ## What the list shows -/

/-- The text of transactions, character by character. -/
theorem toList_texts (rs : List Relayed) :
    (texts rs).toList = (rs.map fun r => (formatAndRelayTransaction r.1 r.2).toList).flatten := by
  induction rs with
  | nil => rfl
  | cons r rs ih =>
      rw [show r :: rs = [r] ++ rs from rfl, texts_append, texts_singleton, String.toList_append, ih]
      rfl

/-- What a step relays. -/
def relayedBy (s : BusMonitorPanel) : ViewLabel → List Relayed
  | .processAndRelayData buffer wallClock _ =>
      if s.monitoringActive = true then s.bm.acceptedFrom buffer wallClock else []
  | _ => []

theorem received_deliveries (s : BusMonitorPanel) (l : ViewLabel) :
    received (deliveries s l) = relayedBy s l := by
  cases l with
  | processAndRelayData buffer wallClock now =>
      rw [deliveries, relayedBy]
      by_cases hactive : s.monitoringActive = true
      · rw [if_pos hactive, if_pos hactive]
        split <;> exact List.append_nil _
      · rw [if_neg hactive, if_neg hactive]
        rfl
  | runClosure => rw [deliveries]; split <;> rfl
  | onStartStopClicked sniffing now => rw [deliveries]; split <;> rfl
  | onConnect portIsNumber sniffing now => rw [deliveries]; split <;> rfl
  | onResetStreamClicked => rw [deliveries]; split <;> rfl
  | onClearClicked => rfl
  | onClearFilterClicked => rfl
  | onTreeItemClicked clicked => rfl

theorem received_viewEvents (t : Tree) (s : BusMonitorPanel) (l : ViewLabel)
    (ls : List ViewLabel) : received (viewEvents t s (l :: ls))
      = relayedBy s l ++ received (viewEvents t (viewStep t s l) ls) := by
  rw [← received_deliveries, viewEvents, received, List.flatMap_append]
  rfl

/-- Every transaction of a run was decoded from a packet. -/
theorem received_decoded (t : Tree) (ls : List ViewLabel) :
    ∀ s : BusMonitorPanel, ∀ r ∈ received (viewEvents t s ls), ∃ frame, r.1 = decodeFrame frame := by
  induction ls with
  | nil => intro s r hr; cases hr
  | cons l ls ih =>
      intro s r hr
      rw [received_viewEvents] at hr
      rcases List.mem_append.mp hr with hfirst | hrest
      · cases l with
        | processAndRelayData buffer wallClock now =>
            rw [relayedBy] at hfirst
            split at hfirst
            · exact acceptedFrom_decoded hfirst
            · cases hfirst
        | _ => cases hfirst
      · exact ih _ r hrest

theorem received_complete (t : Tree) (ls : List ViewLabel) (s : BusMonitorPanel) :
    ∀ r ∈ received (viewEvents t s ls), Complete r.1 := by
  intro r hr
  obtain ⟨frame, hframe⟩ := received_decoded t ls s r hr
  rw [hframe]
  exact decodeFrame_complete frame

/-- It is on bus A. -/
theorem received_bus1 (t : Tree) (ls : List ViewLabel) (s : BusMonitorPanel) :
    ∀ r ∈ received (viewEvents t s ls), r.1.bus1 = 'A' := by
  intro r hr
  obtain ⟨frame, hframe⟩ := received_decoded t ls s r hr
  rw [hframe]
  rfl

/-- The end of the text of a transaction, or nothing. -/
def CutOf (gone : List Relayed) (cut : List Char) : Prop :=
  cut = [] ∨ ∃ old r m, gone = old ++ [r] ∧ 0 < m ∧
    cut = dropLines m (formatAndRelayTransaction r.1 r.2).toList

/-- What is left of a list of texts when lines are cut off at the beginning. -/
theorem dropLines_texts (rs : List Relayed) (n : Nat) :
    ∃ gone rest cut, rs = gone ++ rest ∧
      dropLines n (texts rs).toList = cut ++ (texts rest).toList ∧ CutOf gone cut := by
  obtain ⟨gone, rest, cut, hblocks, hdrop, hcut⟩ :=
    dropLines_flatten (rs.map fun r => (formatAndRelayTransaction r.1 r.2).toList) n
  obtain ⟨gone, rest, rfl, rfl, rfl⟩ := List.map_eq_append_iff.mp hblocks
  refine ⟨gone, rest, cut, rfl, ?_, hcut.imp_right ?_⟩
  · rw [toList_texts, toList_texts, hdrop]
  · rintro ⟨old, b, m, hgone, hm, -, rfl⟩
    obtain ⟨old, last, rfl, -, hlast⟩ := List.map_eq_append_iff.mp hgone
    obtain ⟨r, hr, rfl⟩ := List.map_eq_singleton_iff.mp hlast
    exact ⟨old, r, m, by rw [hr], hm, rfl⟩

/-- The list is the end of one text, and whole texts behind it. -/
theorem Shows.split {s : BusMonitorPanel} {f : Feed Relayed} (h : Shows s f)
    (hcomplete : ∀ r ∈ f.shown, Complete r.1) :
    ∃ gone rest cut, gone ++ rest = f.shown ∧ s.messageList = cut ++ (texts rest).toList ∧
      CutOf gone cut ∧ readBack (texts rest) = some (rest.map fun r => recordOf r.1) ∧
      (gone = [] ∨ 2000 ≤ breaks s.messageList + 1) := by
  obtain ⟨n, -, hlist, hkept⟩ := h.list
  rcases hkept with rfl | hmany
  · -- nothing was cut off
    rw [dropLines_zero] at hlist
    exact ⟨[], f.shown, [], rfl, hlist, Or.inl rfl, readBack_texts hcomplete, Or.inl rfl⟩
  · obtain ⟨gone, rest, cut, hsplit, hdrop, hcut⟩ := dropLines_texts f.shown n
    have hrest : ∀ r ∈ rest, Complete r.1 := by
      intro r hr
      refine hcomplete r ?_
      rw [hsplit]
      exact List.mem_append_right gone hr
    exact ⟨gone, rest, cut, hsplit.symm, hlist.trans hdrop, hcut, readBack_texts hrest,
      Or.inr (Nat.succ_le_succ hmany)⟩

/-- **What the message list shows**, after any run.  Of the transactions relayed it
    shows some, in their order and none twice: whole ones, read back as what they were,
    up to the last that was delivered, and in front of them the end of one.  Whatever is
    missing in front of them was cut off, with 2000 lines left at least. -/
theorem list_shows (t : Tree) (ls : List ViewLabel) :
    ∃ gone rest cut,
      (gone ++ rest).Sublist (received (viewEvents t .init ls)) ∧
        gone ++ rest = (nothing.run (viewEvents t .init ls)).shown ∧
        (viewRun t .init ls).messageList = cut ++ (texts rest).toList ∧ CutOf gone cut ∧
        readBack (texts rest) = some (rest.map fun r => recordOf r.1) ∧
        (gone = [] ∨ 2000 ≤ breaks (viewRun t .init ls).messageList + 1) := by
  have hsub : (nothing.run (viewEvents t .init ls)).shown.Sublist
      (received (viewEvents t .init ls)) :=
    (List.sublist_append_left _ _).trans (sublist_run (viewEvents t .init ls) nothing)
  obtain ⟨gone, rest, cut, hshown, hrest⟩ := (shows_run t ls shows_init).split
    fun r hr => received_complete t ls .init r (hsub.subset hr)
  exact ⟨gone, rest, cut, hshown ▸ hsub, hshown, hrest⟩

/-! ## A new start -/

/-- Every closure that waits is run. -/
def catchUp (s : BusMonitorPanel) : List ViewLabel :=
  s.pendingEvents.map fun _ => .runClosure

/-- Running a closure takes it from the queue. -/
theorem runClosure_rest (t : Tree) {s : BusMonitorPanel} {closure : Closure}
    {pendingEvents : List Closure} (h : s.pendingEvents = closure :: pendingEvents) :
    (viewStep t s .runClosure).pendingEvents = pendingEvents ∧
      (viewStep t s .runClosure).bm = s.bm := by
  simp only [viewStep, h]
  obtain ⟨hevents, hbm, -⟩ := call_rest t { s with pendingEvents } closure
  exact ⟨hevents, hbm⟩

/-- Running all of them empties it. -/
theorem catchUp_rest (t : Tree) (closures : List Closure) :
    ∀ s : BusMonitorPanel, s.pendingEvents = closures →
      (viewRun t s (catchUp s)).pendingEvents = [] ∧ (viewRun t s (catchUp s)).bm = s.bm := by
  induction closures with
  | nil =>
      intro s h
      rw [catchUp, h]
      exact ⟨h, rfl⟩
  | cons closure closures ih =>
      intro s h
      obtain ⟨hevents, hbm⟩ := runClosure_rest t h
      have hrest := ih (viewStep t s .runClosure) hevents
      rw [catchUp, hevents, hbm] at hrest
      rw [catchUp, h]
      exact hrest

/-- The closures that wait are what the delivery has to do, and they relay nothing. -/
theorem viewEvents_catchUp (t : Tree) (closures : List Closure) :
    ∀ s : BusMonitorPanel, s.pendingEvents = closures →
      viewEvents t s (catchUp s) = List.replicate (queuedTexts closures).length .deliver := by
  induction closures with
  | nil =>
      intro s h
      rw [catchUp, h]
      rfl
  | cons closure closures ih =>
      intro s h
      obtain ⟨hevents, -⟩ := runClosure_rest t h
      have hrest := ih (viewStep t s .runClosure) hevents
      rw [catchUp, hevents] at hrest
      rw [catchUp, h, List.map_cons, viewEvents, hrest]
      cases closure with
      | appendMessagesToUi messages =>
          simp only [deliveries, h]
          rfl
      | updateTreeItemVisualState key isActive =>
          simp only [deliveries, h]
          rfl

/-- Behind a click on "Start" nothing is due but what waits. -/
theorem shows_started (t : Tree) {s : BusMonitorPanel} {f : Feed Relayed} (h : Shows s f)
    (hidle : s.monitoringActive = false) (sniffing : Bool) (now : Int) :
    Shows (viewStep t s (.onStartStopClicked sniffing now)) ⟨[], f.queued, []⟩ := by
  have hevents : deliveries s (.onStartStopClicked sniffing now) = [.empty, .restart] :=
    if_neg (Bool.eq_false_iff.mp hidle)
  have hstep := shows_step t h (.onStartStopClicked sniffing now)
  rw [hevents] at hstep
  exact hstep

/-- **A new start.**  What the list shows from a click on "Start" on is text of
    transactions relayed since, in every run, exactly when no text was waiting at the
    click.  The queue is not emptied with the list. -/
theorem fresh_start_iff (t : Tree) (ls : List ViewLabel) (now : Int)
    (hidle : (viewRun t .init ls).monitoringActive = false) :
    (∀ ls', ∃ n rs,
        rs.Sublist (received (viewEvents t
          (viewStep t (viewRun t .init ls) (.onStartStopClicked true now)) ls')) ∧
        (viewRun t (viewStep t (viewRun t .init ls) (.onStartStopClicked true now)) ls').messageList
          = dropLines n (texts rs).toList) ↔
      queuedTexts (viewRun t .init ls).pendingEvents = [] := by
  have hshows := shows_run t ls shows_init
  have hsound : (nothing.run (viewEvents t .init ls)).Sound :=
    sound_run _ fun batch hbatch => by cases hbatch
  generalize viewRun t .init ls = s at hshows hidle ⊢
  generalize nothing.run (viewEvents t .init ls) = f at hshows hsound
  have hstarted := shows_started t hshows hidle true now
  generalize viewStep t s (.onStartStopClicked true now) = s' at hstarted ⊢
  rw [hshows.queue, List.map_eq_nil_iff]
  constructor
  · intro hall
    obtain ⟨n, rs, hsub, hlist⟩ := hall (catchUp s')
    have hlen : (queuedTexts s'.pendingEvents).length = f.queued.length := by
      rw [hstarted.queue, List.length_map]
    have hcaught := shows_run t (catchUp s') hstarted
    rw [viewEvents_catchUp t _ s' rfl, hlen] at hsub hcaught
    have hnothing : received (List.replicate f.queued.length (.deliver : Event Relayed)) = [] :=
      List.flatMap_eq_nil_iff.mpr fun e he => by rw [List.eq_of_mem_replicate he]; rfl
    rw [hnothing, List.sublist_nil] at hsub
    rw [hsub, show texts [] = "" from rfl, String.toList_empty, dropLines_nil] at hlist
    have hdrained := drain (⟨[], f.queued, []⟩ : Feed Relayed)
    -- the list is empty, so nothing was cut off, and the batches were empty
    obtain ⟨m, -, hshown, hkept⟩ := hcaught.list
    rw [hlist] at hshown hkept
    obtain rfl : m = 0 := hkept.resolve_right (by decide)
    rw [dropLines_zero, hdrained] at hshown
    have hempty : texts f.queued.flatten = "" := String.toList_eq_nil_iff.mp hshown.symm
    exact hsound.queued_eq_nil ((texts_eq_empty_iff _).mp hempty)
  · intro hnone ls'
    rw [hnone] at hstarted
    obtain ⟨n, -, hlist, -⟩ := (shows_run t ls' hstarted).list
    exact ⟨n, _, (List.sublist_append_left _ _).trans (sublist_run _ _), hlist⟩

/-- A packet is read and shown. -/
def onePacket : List ViewLabel :=
  [.processAndRelayData (packetBytes syncFrame) midnight 60000000, .runClosure, .runClosure]

/-- A session with it. -/
def onePacketSession : List ViewLabel := .onStartStopClicked true 0 :: onePacket

/-- The packet has been shown before the session is stopped. -/
theorem fresh_start_iff_packet :
    (viewRun built .init (onePacketSession ++ [.onStartStopClicked true 0])).messageList ≠ [] ∧
      ((∀ ls', ∃ n rs,
        rs.Sublist (received (viewEvents built
          (viewStep built (viewRun built .init (onePacketSession ++ [.onStartStopClicked true 0]))
            (.onStartStopClicked true 7)) ls')) ∧
        (viewRun built (viewStep built
            (viewRun built .init (onePacketSession ++ [.onStartStopClicked true 0]))
            (.onStartStopClicked true 7)) ls').messageList
          = dropLines n (texts rs).toList) ↔
        queuedTexts (viewRun built .init
          (onePacketSession ++ [.onStartStopClicked true 0])).pendingEvents = []) :=
  ⟨by decide +kernel, fresh_start_iff built _ 7 (by decide +kernel)⟩

/-! ## The length of the list -/

/-- The lines of the list: not more than 2200, and what was appended since the last
    tenth call, in texts of `most` lines at most. -/
def Bounded (most : Nat) (s : BusMonitorPanel) : Prop :=
  breaks s.messageList < 2200 + s.checkCounter % 10 * most

/-- A call of `appendMessagesToUi` keeps the bound. -/
theorem bounded_append {most : Nat} {s : BusMonitorPanel} {messages : String} (h : Bounded most s)
    (hmost : breaks messages.toList ≤ most) : Bounded most (s.appendMessagesToUi messages) := by
  obtain ⟨m, hcall, -, -, htenth⟩ := appendMessagesToUi_eq s messages
  rw [hcall]
  show breaks (dropLines m (s.messageList ++ messages.toList))
    < 2200 + (s.checkCounter + 1) % 10 * most
  by_cases hcheck : (s.checkCounter + 1) % 10 = 0
  · exact Nat.lt_add_right _ (htenth hcheck)
  · have hcount : (s.checkCounter + 1) % 10 = s.checkCounter % 10 + 1 := by omega
    have hbound : breaks s.messageList < 2200 + s.checkCounter % 10 * most := h
    rw [breaks_dropLines, breaks_append, hcount, Nat.succ_mul]
    omega

theorem bounded_nil {most : Nat} {s : BusMonitorPanel} (h : s.messageList = []) :
    Bounded most s := by
  rw [Bounded, h]
  exact Nat.lt_add_right _ (by decide)

/-- **Step lemma** of the bound: only an appended text matters. -/
theorem bounded_step (t : Tree) {most : Nat} {s : BusMonitorPanel} (h : Bounded most s)
    (hmost : ∀ messages ∈ queuedTexts s.pendingEvents, breaks messages.toList ≤ most)
    (l : ViewLabel) : Bounded most (viewStep t s l) := by
  refine view_rule t l h (fun _ _ _ _ _ => h) ?_ (fun _ => h) (fun _ _ _ => bounded_nil rfl)
    (fun _ _ _ => h) (fun _ => h) (bounded_nil rfl) h fun _ _ _ _ => h
  intro closure pendingEvents hqueue
  cases closure with
  | appendMessagesToUi messages =>
      rw [hqueue] at hmost
      exact bounded_append (s := { s with pendingEvents }) h (hmost messages List.mem_cons_self)
  | updateTreeItemVisualState key isActive =>
      obtain ⟨green, bold, hcall⟩ :=
        updateTreeItemVisualState_rest t { s with pendingEvents } key isActive
      rw [BusMonitorPanel.call, hcall]
      exact h

/-- **The list does not grow without bound.**  When no text handed over in a run has
    more than `most` lines, the list never has more than 2200 lines and nine such texts. -/
theorem lines_bounded (t : Tree) (most : Nat) (ls : List ViewLabel)
    (hmost : ∀ before, before <+: ls →
      ∀ messages ∈ queuedTexts (viewRun t .init before).pendingEvents,
        breaks messages.toList ≤ most) :
    breaks (viewRun t .init ls).messageList + 1 ≤ 2200 + 9 * most := by
  have hrun : ∀ before, before <+: ls → Bounded most (viewRun t .init before) := by
    intro before
    induction before using List.reverseRecOn with
    | nil => exact fun _ => bounded_nil rfl
    | append_singleton before l ih =>
        intro hprefix
        have hbefore : before <+: ls := (List.prefix_append _ _).trans hprefix
        have hstep := bounded_step t (ih hbefore) (hmost before hbefore) l
        rw [viewRun, List.foldl_append]
        exact hstep
  have hbound : breaks (viewRun t .init ls).messageList
      < 2200 + (viewRun t .init ls).checkCounter % 10 * most := hrun ls (List.prefix_refl ls)
  have hcount : (viewRun t .init ls).checkCounter % 10 * most ≤ 9 * most :=
    Nat.mul_le_mul_right _ (Nat.le_of_lt_succ (Nat.mod_lt _ (by decide)))
  omega

/-- The text of a packet has seven lines. -/
theorem lines_bounded_packet :
    breaks (viewRun built .init onePacketSession).messageList + 1 ≤ 2200 + 9 * 7 := by
  have hmost : ∀ n < 5, ∀ messages ∈
      queuedTexts (viewRun built .init (onePacketSession.take n)).pendingEvents,
        breaks messages.toList ≤ 7 := by
    decide +kernel
  refine lines_bounded built 7 onePacketSession fun before hprefix => ?_
  rw [List.prefix_iff_eq_take.mp hprefix]
  exact hmost before.length (Nat.lt_succ_of_le hprefix.length_le)

end TcpView
