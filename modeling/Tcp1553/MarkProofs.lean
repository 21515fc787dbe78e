import Tcp1553.ViewProofs

/-! # The marks in the tree and the labels of the buttons

    `updateTreeItemVisualState` colours the subaddress, the terminal and the bus of a
    key green, `resetTreeVisualState` takes the colour from all items of the model; the
    mode codes are no items of the model.

    `green_iff` says which items are green when everything that waits has been run, and
    `green_relayed` that an item is never green without traffic.  `Labelled` is what the
    buttons say about the filter and the monitor. -/

namespace TcpView

open Delivery TextReaders TcpWire TcpParser TcpRelay

/-! ## Items of the model -/

theorem getElem?_of_mem_zipIdx {α : Type} {as : List α} {a : α} {i : Nat}
    (h : (a, i) ∈ as.zipIdx) : as[i]? = some a :=
  List.mem_zipIdx_iff_getElem?.mp h

theorem mem_zipIdx_of_getElem? {α : Type} {as : List α} {a : α} {i : Nat} (h : as[i]? = some a) :
    (a, i) ∈ as.zipIdx :=
  List.mem_zipIdx_iff_getElem?.mpr h

theorem rtList_get (i : Nat) (j : Fin 32) :
    (busAt i).rtList[j.val]? = some ⟨rtId i j, (List.range SA_COUNT).map (rtId i j + 1 + ·)⟩ :=
  getElem?_of_mem_zipIdx (rtAt_mem i j)

theorem saList_get (n : Nat) (k : Fin 32) :
    ((List.range SA_COUNT).map (n + 1 + ·))[k.val]? = some (n + (k.val + 1)) :=
  getElem?_of_mem_zipIdx (saAt_mem n k)

/-- The items of a subaddress, its terminal and its bus are found. -/
theorem itemsOf_built (i : Fin 2) (j k : Fin 32) :
    built.itemsOf i j k = some [rtId i j + (k.val + 1), rtId i j, busId i] := by
  have hbus : built.busList[i.val]? = some (busAt i) :=
    getElem?_of_mem_zipIdx (busAt_mem i)
  simp only [Tree.itemsOf, hbus, rtList_get, saList_get, Option.bind_eq_bind, Option.bind_some]
  rfl

/-- The item is one of the model. -/
def TreePath.InModel : TreePath → Prop
  | .bus _ => True
  | .rt _ _ .self => True
  | .rt _ _ (.sa _) => True
  | .rt _ _ .modeCodes => False
  | .rt _ _ (.mc _) => False

theorem mem_modelItems (p : TreePath) : itemId p ∈ built.modelItems ↔ p.InModel := by
  constructor
  · intro h
    obtain ⟨bus, hbus, hitem⟩ := List.mem_flatMap.mp h
    obtain ⟨i, hi⟩ := List.getElem?_of_mem hbus
    obtain ⟨hi2, rfl⟩ := mem_busList (mem_zipIdx_of_getElem? hi)
    rcases List.mem_cons.mp hitem with hself | hrts
    · have hp : p = .bus ⟨i, hi2⟩ := itemId_inj hself
      rw [hp]
      exact trivial
    · obtain ⟨rt, hrt, hitem⟩ := List.mem_flatMap.mp hrts
      obtain ⟨j, hj⟩ := List.getElem?_of_mem hrt
      obtain ⟨hj32, rfl⟩ := mem_rtList (mem_zipIdx_of_getElem? hj)
      rcases List.mem_cons.mp hitem with hself | hsas
      · have hp : p = .rt ⟨i, hi2⟩ ⟨j, hj32⟩ .self := itemId_inj hself
        rw [hp]
        exact trivial
      · obtain ⟨k, hk⟩ := List.getElem?_of_mem hsas
        obtain ⟨hk32, hsa⟩ := mem_saList (mem_zipIdx_of_getElem? hk)
        have hp : p = .rt ⟨i, hi2⟩ ⟨j, hj32⟩ (.sa ⟨k, hk32⟩) := itemId_inj hsa
        rw [hp]
        exact trivial
  · intro h
    have hbus : ∀ i : Fin 2, busAt i ∈ built.busList := fun i =>
      List.mem_of_getElem? (getElem?_of_mem_zipIdx (busAt_mem i))
    cases p with
    | bus i => exact List.mem_flatMap.mpr ⟨busAt i, hbus i, List.mem_cons_self⟩
    | rt i j item =>
        have hrt := List.mem_of_getElem? (rtList_get i j)
        refine List.mem_flatMap.mpr ⟨busAt i, hbus i, List.mem_cons_of_mem _ ?_⟩
        refine List.mem_flatMap.mpr ⟨_, hrt, ?_⟩
        cases item with
        | self => exact List.mem_cons_self
        | sa k => exact List.mem_cons_of_mem _ (List.mem_of_getElem? (saList_get _ k))
        | modeCodes => exact h.elim
        | mc m => exact h.elim

/-! ## Marks -/

/-- The bus a key is on. -/
def busIdx (key : RtSaKey) : Fin 2 := if key.bus.toUpper = 'A' then 0 else 1

/-- The item stands for the subaddress of the key, its terminal or its bus. -/
def Marks (key : RtSaKey) : TreePath → Prop
  | .bus i => i = busIdx key
  | .rt i j .self => i = busIdx key ∧ j.val = key.rt
  | .rt i j (.sa k) => i = busIdx key ∧ j.val = key.rt ∧ k.val = key.sa
  | .rt _ _ .modeCodes => False
  | .rt _ _ (.mc _) => False

/-- A key of five-bit fields. -/
def KeySound (key : RtSaKey) : Prop := key.rt < 32 ∧ key.sa < 32

theorem keySound_keyOf (trans : MessageTransaction) : KeySound (keyOf trans) :=
  ⟨rtField_lt _, saField_lt _⟩

theorem Marks.inModel {key : RtSaKey} {p : TreePath} (h : Marks key p) : p.InModel := by
  cases p with
  | bus i => exact trivial
  | rt i j item =>
      cases item with
      | self => exact trivial
      | sa k => exact trivial
      | modeCodes => exact h.elim
      | mc m => exact h.elim

/-- Its items are those it marks. -/
theorem mem_itemsOf (bus : Char) (i : Fin 2) (j k : Fin 32) (p : TreePath)
    (hi : i = busIdx ⟨bus, j, k⟩) :
    itemId p ∈ [rtId i j + (k.val + 1), rtId i j, busId i] ↔ Marks ⟨bus, j, k⟩ p := by
  have hsa : rtId i j + (k.val + 1) = itemId (.rt i j (.sa k)) := rfl
  have hrt : rtId i j = itemId (.rt i j .self) := rfl
  have hbus : busId i = itemId (.bus i) := rfl
  have hinj : ∀ q, itemId p = itemId q ↔ p = q := fun q => ⟨itemId_inj, congrArg itemId⟩
  rw [hsa, hrt, hbus, List.mem_cons, List.mem_cons, List.mem_singleton, hinj, hinj, hinj]
  constructor
  · rintro (rfl | rfl | rfl)
    · exact ⟨hi, rfl, rfl⟩
    · exact ⟨hi, rfl⟩
    · exact hi
  · intro h
    cases p with
    | bus i' =>
        have hi' : i' = i := h.trans hi.symm
        rw [hi']
        exact Or.inr (Or.inr rfl)
    | rt i' j' item =>
        cases item with
        | self =>
            have hi' : i' = i := h.1.trans hi.symm
            rw [hi', Fin.ext h.2]
            exact Or.inr (Or.inl rfl)
        | sa k' =>
            have hi' : i' = i := h.1.trans hi.symm
            rw [hi', Fin.ext h.2.1, Fin.ext h.2.2]
            exact Or.inl rfl
        | modeCodes => exact h.elim
        | mc m => exact h.elim

/-- **`updateTreeItemVisualState`** colours the items a key marks, and no others. -/
theorem green_update (s : BusMonitorPanel) {key : RtSaKey} (hkey : KeySound key) (p : TreePath) :
    (s.updateTreeItemVisualState built key true).green (itemId p) = true
      ↔ s.green (itemId p) = true ∨ Marks key p := by
  obtain ⟨bus, rt, sa⟩ := key
  obtain ⟨hrt, hsa⟩ := hkey
  have hin : ¬(rt ≥ RT_COUNT ∨ sa ≥ SA_COUNT) :=
    not_or.mpr ⟨Nat.not_le.mpr hrt, Nat.not_le.mpr hsa⟩
  have hitems := itemsOf_built (busIdx ⟨bus, rt, sa⟩) ⟨rt, hrt⟩ ⟨sa, hsa⟩
  have hmem := mem_itemsOf bus _ ⟨rt, hrt⟩ ⟨sa, hsa⟩ p rfl
  have hidx : (if bus.toUpper = 'A' then 0 else 1) = (busIdx ⟨bus, rt, sa⟩).val := by
    rw [busIdx]
    split <;> rfl
  rw [BusMonitorPanel.updateTreeItemVisualState, if_neg hin]
  simp only [hidx, hitems, if_true]
  rw [ite_eq_left_iff, hmem]
  by_cases hmarks : Marks ⟨bus, rt, sa⟩ p
  · exact iff_of_true (fun h => absurd hmarks h) (Or.inr hmarks)
  · rw [or_iff_left hmarks]
    exact ⟨fun h => h hmarks, fun h _ => h⟩

theorem resetTreeVisualState_green (t : Tree) (s : BusMonitorPanel) (item : Nat) :
    (s.resetTreeVisualState t).green item
      = if item ∈ t.modelItems then false else s.green item := rfl

theorem green_reset (s : BusMonitorPanel) (p : TreePath) :
    (s.resetTreeVisualState built).green (itemId p) = true
      ↔ s.green (itemId p) = true ∧ ¬p.InModel := by
  rw [resetTreeVisualState_green]
  by_cases hmodel : p.InModel
  · rw [if_pos ((mem_modelItems p).mpr hmodel)]
    exact iff_of_false Bool.false_ne_true fun h => h.2 hmodel
  · rw [if_neg fun h => hmodel ((mem_modelItems p).mp h)]
    exact (and_iff_left hmodel).symm

/-! ## Keys on their way -/

/-- The keys that wait or are pending are keys of transactions. -/
structure KeysSound (s : BusMonitorPanel) : Prop where
  queue     : ∀ key isActive, .updateTreeItemVisualState key isActive ∈ s.pendingEvents →
    isActive = true ∧ KeySound key
  pending   : ∀ key ∈ s.bm.pendingActiveKeys, KeySound key
  callbacks : s.bm.messagesCb = true ∧ s.bm.treeItemCb = true

theorem keysSound_init : KeysSound .init :=
  ⟨(fun _ _ h => by cases h), (fun _ h => by cases h), rfl, rfl⟩

/-- The keys that are pending behind the reading of a buffer. -/
theorem mem_received_keys {s : Relay} {buffer : List UInt8} {wallClock : Nat → WallClock}
    {key : RtSaKey} : key ∈ (s.received buffer wallClock).pendingActiveKeys
      ↔ key ∈ s.pendingActiveKeys ∨ ∃ r ∈ s.acceptedFrom buffer wallClock, keyOf r.1 = key :=
  mem_markActive _ (acceptedFrom_valid s buffer wallClock)

/-- **Where the keys go** in a call of the relay: with an update all of them are posted. -/
theorem keys_processAndRelayData {s : Relay} (hmessages : s.messagesCb = true)
    (htree : s.treeItemCb = true) (buffer : List UInt8) (wallClock : Nat → WallClock) (now : Int)
    (key : RtSaKey) (isActive : Bool) :
    (.updateTreeItemVisualState key isActive
          ∈ posts s (s.processAndRelayData buffer wallClock now) ↔
        UpdateDue s.lastGuiUpdate now ∧ isActive = true ∧
          key ∈ (s.received buffer wallClock).pendingActiveKeys) ∧
      (key ∈ (s.processAndRelayData buffer wallClock now).pendingActiveKeys ↔
        ¬UpdateDue s.lastGuiUpdate now ∧ key ∈ (s.received buffer wallClock).pendingActiveKeys) := by
  rw [posts_processAndRelayData hmessages htree, processAndRelayData_eq]
  generalize s.received buffer wallClock = r
  by_cases hdue : UpdateDue s.lastGuiUpdate now
  · rw [if_pos hdue, if_pos hdue, List.mem_append]
    have htext : ¬Closure.updateTreeItemVisualState key isActive
        ∈ (if r.pendingMessages ≠ "" then [Closure.appendMessagesToUi r.pendingMessages]
          else []) := by
      split
      · exact fun h => by cases List.mem_singleton.mp h
      · exact fun h => by cases h
    refine ⟨?_, iff_of_false (fun h => by cases h) fun h => h.1 hdue⟩
    rw [or_iff_right htext, List.mem_map]
    constructor
    · rintro ⟨k, hk, heq⟩
      cases heq
      exact ⟨hdue, rfl, hk⟩
    · rintro ⟨-, rfl, hk⟩
      exact ⟨key, hk, rfl⟩
  · rw [if_neg hdue, if_neg hdue]
    exact ⟨iff_of_false (fun h => by cases h) fun h => hdue h.1, (and_iff_right hdue).symm⟩

/-- What is not about the relay or the queue is no matter of the keys. -/
theorem KeysSound.of_eq {s s' : BusMonitorPanel} (h : KeysSound s)
    (hevents : s'.pendingEvents = s.pendingEvents)
    (hkeys : s'.bm.pendingActiveKeys = s.bm.pendingActiveKeys)
    (hmessages : s'.bm.messagesCb = s.bm.messagesCb)
    (htree : s'.bm.treeItemCb = s.bm.treeItemCb) : KeysSound s' where
  queue := by
    rw [hevents]
    exact h.queue
  pending := by
    rw [hkeys]
    exact h.pending
  callbacks := ⟨hmessages.trans h.callbacks.1, htree.trans h.callbacks.2⟩

theorem KeysSound.started {s : BusMonitorPanel} (h : KeysSound s) (sniffing : Bool) (now : Int) :
    KeysSound (s.started sniffing now) :=
  ⟨h.queue, (fun _ hkey => by cases hkey), h.callbacks⟩

theorem keysSound_step (t : Tree) {s : BusMonitorPanel} (h : KeysSound s) (l : ViewLabel) :
    KeysSound (viewStep t s l) := by
  refine view_rule t l h ?_ ?_ (fun _ => h.of_eq rfl rfl rfl rfl) ?_
    (fun sniffing now _ => h.started sniffing now) (fun _ => h.of_eq rfl rfl rfl rfl)
    (h.of_eq rfl rfl rfl rfl) (h.of_eq rfl rfl rfl rfl) fun _ _ _ _ => h.of_eq rfl rfl rfl rfl
  · intro buffer wallClock now _ _
    have hkeys := keys_processAndRelayData h.callbacks.1 h.callbacks.2 buffer wallClock now
    have hsound : ∀ key ∈ (s.bm.received buffer wallClock).pendingActiveKeys, KeySound key := by
      intro key hkey
      rcases mem_received_keys.mp hkey with hold | ⟨r, -, rfl⟩
      · exact h.pending key hold
      · exact keySound_keyOf r.1
    refine ⟨fun key isActive hin => ?_, fun key hin => hsound key ((hkeys key true).2.mp hin).2, ?_⟩
    · rcases List.mem_append.mp hin with hold | hnew
      · exact h.queue key isActive hold
      · obtain ⟨-, hactive, hkey⟩ := (hkeys key isActive).1.mp hnew
        exact ⟨hactive, hsound key hkey⟩
    · show (s.bm.processAndRelayData buffer wallClock now).messagesCb = true ∧ _
      rw [processAndRelayData_eq]
      split <;> exact h.callbacks
  · intro closure pendingEvents hqueue
    obtain ⟨hevents, hbm, -⟩ := call_rest t { s with pendingEvents } closure
    refine ⟨fun key isActive hin => h.queue key isActive ?_, ?_, ?_⟩
    · rw [hevents] at hin
      rw [hqueue]
      exact List.mem_cons_of_mem _ hin
    · rw [hbm]
      exact h.pending
    · rw [hbm]
      exact h.callbacks
  · intro sniffing now _
    have hcleared : KeysSound (s.cleared t) := h.of_eq rfl rfl rfl rfl
    exact hcleared.started sniffing now

/-! ## Green items -/

/-- The item is green, or a key that marks it is on its way. -/
def DueMark (s : BusMonitorPanel) (p : TreePath) : Prop :=
  s.green (itemId p) = true ∨
    (∃ key, .updateTreeItemVisualState key true ∈ s.pendingEvents ∧ Marks key p) ∨
    ∃ key ∈ s.bm.pendingActiveKeys, Marks key p

/-- The step takes no colour away and no key from its way. -/
def KeepsMarks (t : Tree) (s : BusMonitorPanel) : ViewLabel → Prop
  | .processAndRelayData _ _ _ => True
  | .runClosure => True
  | .onStartStopClicked _ _ => s.monitoringActive = true
  | .onConnect portIsNumber _ _ => portIsNumber = true → s.monitoringActive = true
  | .onResetStreamClicked => s.monitoringActive = true
  | .onClearClicked => False
  | .onClearFilterClicked => s.bm.filterEnabled = false
  | .onTreeItemClicked clicked => t.searchItem clicked = none

/-- No step of the run does. -/
def MarksKept (t : Tree) : BusMonitorPanel → List ViewLabel → Prop
  | _, [] => True
  | s, l :: ls => KeepsMarks t s l ∧ MarksKept t (viewStep t s l) ls

/-- A call of the relay. -/
theorem dueMark_relay (t : Tree) {s : BusMonitorPanel} (h : KeysSound s)
    (hactive : s.monitoringActive = true) (buffer : List UInt8) (wallClock : Nat → WallClock)
    (now : Int) (p : TreePath) :
    DueMark (viewStep t s (.processAndRelayData buffer wallClock now)) p
      ↔ DueMark s p ∨ ∃ r ∈ s.bm.acceptedFrom buffer wallClock, Marks (keyOf r.1) p := by
  have hkeys := keys_processAndRelayData h.callbacks.1 h.callbacks.2 buffer wallClock now
  have hreceived : (∃ key ∈ (s.bm.received buffer wallClock).pendingActiveKeys, Marks key p)
      ↔ (∃ key ∈ s.bm.pendingActiveKeys, Marks key p) ∨
        ∃ r ∈ s.bm.acceptedFrom buffer wallClock, Marks (keyOf r.1) p := by
    simp only [mem_received_keys, or_and_right, exists_or, exists_exists_and_eq_and]
  rw [viewStep, if_pos hactive]
  show _ ∨ (∃ key, _ ∈ s.pendingEvents ++ _ ∧ _) ∨ (∃ key ∈ _, _) ↔ _
  simp only [List.mem_append, (hkeys _ true).1, (hkeys _ true).2, or_and_right, exists_or]
  rw [DueMark, or_assoc, or_assoc, or_assoc, ← hreceived]
  by_cases hdue : UpdateDue s.bm.lastGuiUpdate now
  · simp only [hdue, true_and, not_true, false_and, exists_false, or_false]
  · simp only [hdue, true_and, not_false_eq_true, false_and, exists_false, false_or]

/-- A closure that is run. -/
theorem dueMark_runClosure {s : BusMonitorPanel} (h : KeysSound s) (p : TreePath) :
    DueMark (viewStep built s .runClosure) p ↔ DueMark s p := by
  cases hqueue : s.pendingEvents with
  | nil => simp only [viewStep, hqueue]
  | cons closure pendingEvents =>
      simp only [viewStep, hqueue]
      cases closure with
      | appendMessagesToUi messages =>
          obtain ⟨m, hcall, -⟩ := appendMessagesToUi_eq { s with pendingEvents } messages
          rw [BusMonitorPanel.call, hcall, DueMark, DueMark, hqueue]
          simp only [List.mem_cons, reduceCtorEq, false_or]
      | updateTreeItemVisualState key isActive =>
          have hfirst : .updateTreeItemVisualState key isActive ∈ s.pendingEvents := by
            rw [hqueue]
            exact List.mem_cons_self
          obtain ⟨rfl, hkey⟩ := h.queue key isActive hfirst
          obtain ⟨green, bold, hcall⟩ :=
            updateTreeItemVisualState_rest built { s with pendingEvents } key true
          have hgreen := green_update { s with pendingEvents } hkey p
          rw [BusMonitorPanel.call, DueMark, hgreen, hcall, DueMark, hqueue]
          simp only [List.mem_cons, Closure.updateTreeItemVisualState.injEq, and_true, or_and_right,
            exists_or, exists_eq_left, or_assoc]

/-- What is not about the tree, the queue or the relay is no matter of the marks. -/
theorem dueMark_of_eq {s s' : BusMonitorPanel} (hgreen : s'.green = s.green)
    (hevents : s'.pendingEvents = s.pendingEvents)
    (hkeys : s'.bm.pendingActiveKeys = s.bm.pendingActiveKeys) (p : TreePath) :
    DueMark s' p ↔ DueMark s p := by
  rw [DueMark, DueMark, hgreen, hevents, hkeys]

/-- **Step lemma**: a step that keeps the marks adds those of what it relays. -/
theorem dueMark_step {s : BusMonitorPanel} (h : KeysSound s) {l : ViewLabel}
    (hkeeps : KeepsMarks built s l) (p : TreePath) :
    DueMark (viewStep built s l) p
      ↔ DueMark s p ∨ ∃ r ∈ relayedBy s l, Marks (keyOf r.1) p := by
  have hnone : DueMark s p ↔ DueMark s p ∨ ∃ r ∈ ([] : List Relayed), Marks (keyOf r.1) p :=
    ⟨Or.inl, fun hdue => hdue.resolve_right fun ⟨r, hr, _⟩ => by cases hr⟩
  cases l with
  | processAndRelayData buffer wallClock now =>
      by_cases hactive : s.monitoringActive = true
      · rw [dueMark_relay built h hactive, relayedBy, if_pos hactive]
      · rw [viewStep, if_neg hactive, relayedBy, if_neg hactive]
        exact hnone
  | runClosure => exact (dueMark_runClosure h p).trans hnone
  | onStartStopClicked sniffing now =>
      have hactive : s.monitoringActive = true := hkeeps
      rw [viewStep, BusMonitorPanel.onStartStopClicked, if_pos hactive, BusMonitorPanel.stopBm,
        if_pos hactive]
      exact (dueMark_of_eq rfl rfl rfl p).trans hnone
  | onConnect portIsNumber sniffing now =>
      rw [viewStep, BusMonitorPanel.onConnect]
      split
      · rename_i hport
        have hactive : s.monitoringActive = true := hkeeps hport
        simp only [startBm_active hactive, if_pos hactive]
        exact (dueMark_of_eq rfl rfl rfl p).trans hnone
      · exact hnone
  | onResetStreamClicked =>
      have hactive : s.monitoringActive = true := hkeeps
      rw [viewStep, BusMonitorPanel.onResetStreamClicked, if_pos hactive]
      exact hnone
  | onClearClicked => exact hkeeps.elim
  | onClearFilterClicked =>
      have hdisabled : ¬s.bm.filterEnabled = true := Bool.eq_false_iff.mp hkeeps
      rw [viewStep, BusMonitorPanel.onClearFilterClicked, if_neg hdisabled]
      exact hnone
  | onTreeItemClicked clicked =>
      have hnothing : built.searchItem clicked = none := hkeeps
      rw [viewStep, BusMonitorPanel.onTreeItemClicked, hnothing]
      exact hnone

/-- **Run lemma**: in a run that keeps the marks, an item is green, or about to be, if it
    was before or a transaction relayed since marks it. -/
theorem dueMark_run (p : TreePath) (ls : List ViewLabel) :
    ∀ {s : BusMonitorPanel}, KeysSound s → MarksKept built s ls →
      (DueMark (viewRun built s ls) p ↔
        DueMark s p ∨ ∃ r ∈ received (viewEvents built s ls), Marks (keyOf r.1) p) := by
  induction ls with
  | nil => exact fun _ _ => ⟨Or.inl, fun h => h.resolve_right fun ⟨r, hr, _⟩ => by cases hr⟩
  | cons l ls ih =>
      intro s h hkept
      have hrest := ih (keysSound_step built h l) hkept.2
      rw [dueMark_step h hkept.1] at hrest
      rw [received_viewEvents]
      simp only [List.mem_append, or_and_right, exists_or]
      rw [← or_assoc]
      exact hrest

theorem keysSound_run (t : Tree) (ls : List ViewLabel) :
    ∀ {s : BusMonitorPanel}, KeysSound s → KeysSound (viewRun t s ls) := by
  induction ls with
  | nil => exact fun h => h
  | cons l ls ih => exact fun h => ih (keysSound_step t h l)

/-- **Which items are green** when all closures have been run and no key is pending: of
    a run without a reset of the tree those that were green or about to be when it
    began, and those of the transactions relayed since. -/
theorem green_iff (before ls : List ViewLabel)
    (hkept : MarksKept built (viewRun built .init before) ls)
    (hqueue : (viewRun built .init (before ++ ls)).pendingEvents = [])
    (hpending : (viewRun built .init (before ++ ls)).bm.pendingActiveKeys = []) (p : TreePath) :
    (viewRun built .init (before ++ ls)).green (itemId p) = true ↔
      DueMark (viewRun built .init before) p ∨
        ∃ r ∈ received (viewEvents built (viewRun built .init before) ls), Marks (keyOf r.1) p := by
  have hsound := keysSound_run built before keysSound_init
  rw [← dueMark_run p ls hsound hkept]
  have hrun : viewRun built .init (before ++ ls) = viewRun built (viewRun built .init before) ls :=
    List.foldl_append
  rw [← hrun, DueMark, hqueue, hpending]
  simp only [List.not_mem_nil, false_and, exists_false, or_false]

/-- The first start, a packet, and its closures: the item of the bus is green. -/
theorem green_iff_packet :
    (viewRun built .init ([.onStartStopClicked true 0] ++ onePacket)).green (itemId (.bus 0))
        = true ∧
      ((viewRun built .init ([.onStartStopClicked true 0] ++ onePacket)).green (itemId (.bus 0))
          = true ↔
        DueMark (viewRun built .init [.onStartStopClicked true 0]) (.bus 0) ∨
          ∃ r ∈ received (viewEvents built (viewRun built .init [.onStartStopClicked true 0])
            onePacket), Marks (keyOf r.1) (.bus 0)) :=
  ⟨by decide +kernel, green_iff [.onStartStopClicked true 0] onePacket
    ⟨trivial, trivial, trivial, trivial⟩ (by decide +kernel) (by decide +kernel) (.bus 0)⟩

/-! ## No mark without traffic -/

theorem dueMark_reset (t : Tree) {s : BusMonitorPanel} {p : TreePath}
    (h : DueMark (s.resetTreeVisualState t) p) : DueMark s p := by
  refine h.imp_left fun hgreen => ?_
  rw [resetTreeVisualState_green] at hgreen
  split at hgreen
  · cases hgreen
  · exact hgreen

theorem dueMark_started {s : BusMonitorPanel} {p : TreePath} (sniffing : Bool) (now : Int)
    (h : DueMark (s.started sniffing now) p) : DueMark s p := by
  rcases h with hgreen | hqueue | ⟨key, hkey, -⟩
  · exact Or.inl hgreen
  · exact Or.inr (Or.inl hqueue)
  · cases hkey

/-- Whatever the step is, it adds no other marks than those of what it relays, if that
    is so of closures. -/
theorem dueMark_le (t : Tree) {s : BusMonitorPanel} (h : KeysSound s) (l : ViewLabel)
    {p : TreePath} (hclosure : DueMark (viewStep t s .runClosure) p → DueMark s p) :
    DueMark (viewStep t s l) p →
      DueMark s p ∨ ∃ r ∈ relayedBy s l, Marks (keyOf r.1) p := by
  refine view_rule t (P := fun s' => DueMark s' p → _) l Or.inl ?_ ?_ (fun _ => Or.inl) ?_
    (fun sniffing now _ hdue => Or.inl (dueMark_started sniffing now hdue)) (fun _ => Or.inl)
    (fun hdue => Or.inl (dueMark_reset t hdue)) (fun hdue => Or.inl (dueMark_reset t hdue))
    fun clicked c _ _ hdue => Or.inl (dueMark_reset t (s := s.filteringBy c) hdue)
  · intro buffer wallClock now hl hactive hdue
    have hrelay := dueMark_relay t h hactive buffer wallClock now p
    rw [viewStep, if_pos hactive] at hrelay
    rw [hl, relayedBy, if_pos hactive]
    exact hrelay.mp hdue
  · intro closure pendingEvents hqueue hdue
    simp only [viewStep, hqueue] at hclosure
    exact Or.inl (hclosure hdue)
  · intro sniffing now _ hdue
    exact Or.inl (dueMark_reset t (dueMark_started sniffing now hdue))

/-- The bus a path is on. -/
def TreePath.onBus : TreePath → Fin 2
  | .bus i => i
  | .rt i _ _ => i

theorem Marks.onBus {key : RtSaKey} {p : TreePath} (h : Marks key p) : p.onBus = busIdx key := by
  cases p with
  | bus i => exact h
  | rt i j item =>
      cases item with
      | self => exact h.1
      | sa k => exact h.1
      | modeCodes => exact h.elim
      | mc m => exact h.elim

/-- **Run lemma**: nothing is marked that was not marked or relayed. -/
theorem dueMark_run_le {p : TreePath} (ls : List ViewLabel) :
    ∀ {s : BusMonitorPanel}, KeysSound s → DueMark (viewRun built s ls) p →
      DueMark s p ∨ ∃ r ∈ received (viewEvents built s ls), Marks (keyOf r.1) p := by
  induction ls with
  | nil => exact fun _ h => Or.inl h
  | cons l ls ih =>
      intro s h hdue
      rw [received_viewEvents]
      simp only [List.mem_append, or_and_right, exists_or]
      rw [← or_assoc]
      exact (ih (keysSound_step built h l) hdue).imp_left
        (dueMark_le built h l (dueMark_runClosure h p).mp)

/-- What is marked after a run has been relayed in it. -/
theorem dueMark_received {ls : List ViewLabel} {p : TreePath}
    (hdue : DueMark (viewRun built .init ls) p) :
    ∃ r ∈ received (viewEvents built .init ls), Marks (keyOf r.1) p := by
  refine (dueMark_run_le ls keysSound_init hdue).resolve_left ?_
  rintro (hinit | ⟨key, hkey, -⟩ | ⟨key, hkey, -⟩)
  · cases hinit
  · cases hkey
  · cases hkey

/-- **No colour without traffic**, in any run.  An item is that of a subaddress for which
    a transaction has been relayed, or one above it, or it is not green; and no item of
    bus B ever is. -/
theorem green_relayed (ls : List ViewLabel) :
    (∀ p, (∃ r ∈ received (viewEvents built .init ls), Marks (keyOf r.1) p) ∨
        (viewRun built .init ls).green (itemId p) = false) ∧
      (viewRun built .init ls).green (itemId (.bus 1)) = false ∧
      ∀ j item, (viewRun built .init ls).green (itemId (.rt 1 j item)) = false := by
  have hmarked : ∀ p, (viewRun built .init ls).green (itemId p) = true →
      ∃ r ∈ received (viewEvents built .init ls), Marks (keyOf r.1) p :=
    fun p hgreen => dueMark_received (Or.inl hgreen)
  have honBus : ∀ p : TreePath, p.onBus = 1 → (viewRun built .init ls).green (itemId p) = false := by
    intro p hp
    refine Bool.eq_false_iff.mpr fun hgreen => ?_
    obtain ⟨r, hr, hmarks⟩ := hmarked p hgreen
    have hbus : r.1.bus1 = 'A' := received_bus1 built ls .init r hr
    have hidx : busIdx (keyOf r.1) = 0 := by
      show (if r.1.bus1.toUpper = 'A' then 0 else 1) = (0 : Fin 2)
      rw [hbus]
      rfl
    rw [hmarks.onBus, hidx] at hp
    cases hp
  refine ⟨fun p => ?_, honBus (.bus 1) rfl, fun j item => honBus (.rt 1 j item) rfl⟩
  cases hgreen : (viewRun built .init ls).green (itemId p) with
  | true => exact Or.inl (hmarked p hgreen)
  | false => exact Or.inr rfl

/-! ## The label of the filter button -/

/-- A criterion of the label; `-1` is not printed. -/
def part (name : String) : Reader Int :=
  (do
    literal name
    return (← number : Nat)) <|> pure (-1)

/-- The criteria in a label. -/
def readCriteria : Reader Criteria := do
  literal "Filtering by: "
  literal "Bus "
  let bus ← anyChar
  let rt ← part ", RT "
  let sa ← part ", SA "
  let mc ← part ", MC "
  return { bus, rt, sa, mc }

/-- The criteria that the filter button shows. -/
def readLabel (label : String) : Option Criteria :=
  (readCriteria.run label.toList).map Prod.fst

/-- What is printed of a criterion. -/
def partText (name : String) (v : Int) : String := if v ≠ -1 then name ++ toString v else ""

/-- A criterion that is not set, or a number. -/
def Printable (v : Int) : Prop := v = -1 ∨ ∃ n : Nat, v = n

/-- **One criterion** is read back in front of what neither begins with its name nor
    goes on with digits. -/
theorem reads_part (name : String) {v : Int} (hv : Printable v) :
    Reads (part name) (partText name v) v
      fun rest => NoneOf Char.isDigit rest ∧ ¬name.toList <+: rest := by
  rcases hv with rfl | ⟨n, rfl⟩
  · refine reads_orElse_right (fun rest hrest => ?_) fun rest _ => rfl
    show ((literal name).run rest).bind _ = none
    have hfails : (literal name).run rest = none := if_neg hrest.2
    rw [hfails]
    rfl
  · have hset : (n : Int) ≠ -1 := by omega
    have hnumber := reads_return (f := fun k : Nat => (k : Int)) (reads_number n)
    rw [partText, if_pos hset]
    exact (reads_orElse_left (reads_then (reads_literal name) hnumber)).mono fun _ h => h.1

/-- Nothing, or a criterion with another name, may follow. -/
theorem follows_part {name name' : String} {a b : Char} {as bs : List Char}
    (hname : name.toList = ',' :: ' ' :: a :: as) (hname' : name'.toList = ',' :: ' ' :: b :: bs)
    (hne : a ≠ b) (v : Int) {rest : List Char}
    (hrest : NoneOf Char.isDigit rest ∧ ¬name.toList <+: rest) :
    NoneOf Char.isDigit ((partText name' v).toList ++ rest) ∧
      ¬name.toList <+: (partText name' v).toList ++ rest := by
  rw [partText]
  split
  · rw [String.toList_append, List.append_assoc, hname']
    refine ⟨noneOf_cons (by decide) _, ?_⟩
    rw [hname, List.cons_append, List.cons_append, List.cons_append, List.cons_prefix_cons,
      List.cons_prefix_cons, List.cons_prefix_cons]
    exact fun h => hne h.2.2.1
  · exact hrest

/-- The label is its parts. -/
theorem filterLabel_eq {c : Criteria} (hbus : c.bus ≠ Char.ofNat 0) :
    filterLabel c = "Filtering by: " ++ ("Bus " ++ (String.singleton c.bus
      ++ (partText ", RT " c.rt ++ (partText ", SA " c.sa ++ partText ", MC " c.mc)))) := by
  rw [filterLabel, if_pos hbus, partText, partText, partText]
  simp only [String.append_assoc]

/-- **The label determines the filter**: it is read back as the criteria it was made of. -/
theorem readLabel_filterLabel {c : Criteria} (hbus : c.bus ≠ Char.ofNat 0) (hrt : Printable c.rt)
    (hsa : Printable c.sa) (hmc : Printable c.mc) : readLabel (filterLabel c) = some c := by
  have hreads : Reads readCriteria (filterLabel c) c fun rest =>
      (NoneOf Char.isDigit rest ∧ ¬(", MC " : String).toList <+: rest) ∧
        ¬(", SA " : String).toList <+: rest ∧ ¬(", RT " : String).toList <+: rest := by
    rw [filterLabel_eq hbus]
    refine reads_then (reads_literal "Filtering by: ") (reads_then (reads_literal "Bus ")
      (reads_then (reads_anyChar c.bus) ?_))
    refine reads_bind (reads_part ", RT " hrt) (reads_bind (reads_part ", SA " hsa)
      (reads_return ((reads_part ", MC " hmc).mono fun _ h => h.1)) ?_) ?_
    · rintro rest ⟨⟨hdigit, -⟩, hsa, -⟩
      exact follows_part rfl rfl (by decide) c.mc ⟨hdigit, hsa⟩
    · rintro rest ⟨⟨hdigit, -⟩, -, hrt⟩
      rw [String.toList_append, List.append_assoc]
      exact follows_part rfl rfl (by decide) c.sa
        (follows_part rfl rfl (by decide) c.mc ⟨hdigit, hrt⟩)
  have hend := hreads [] ⟨⟨(fun c hc => by cases hc), by decide⟩, by decide, by decide⟩
  rw [List.append_nil] at hend
  rw [readLabel, hend]
  rfl

/-! ## What the buttons say -/

/-- The criteria that `BM` holds. -/
def criteriaOf (bm : Relay) : Criteria := ⟨bm.filterBus, bm.filterRt, bm.filterSa, bm.filterMc⟩

/-- The criteria of an item have a bus and numbers in them. -/
theorem criteria_printable {p : TreePath} {c : Criteria} (h : p.criteria = some c) :
    c.bus ≠ Char.ofNat 0 ∧ Printable c.rt ∧ Printable c.sa ∧ Printable c.mc := by
  have hbus : ∀ i : Nat, busLetter i ≠ Char.ofNat 0 := by
    intro i
    rw [busLetter]
    split <;> decide
  cases p with
  | bus i =>
      cases h
      exact ⟨hbus i, Or.inl rfl, Or.inl rfl, Or.inl rfl⟩
  | rt i j item =>
      cases item with
      | self =>
          cases h
          exact ⟨hbus i, Or.inr ⟨j, rfl⟩, Or.inl rfl, Or.inl rfl⟩
      | sa k =>
          cases h
          exact ⟨hbus i, Or.inr ⟨j, rfl⟩, Or.inr ⟨k, rfl⟩, Or.inl rfl⟩
      | modeCodes => cases h
      | mc m =>
          cases h
          exact ⟨hbus i, Or.inr ⟨j, rfl⟩, Or.inl rfl, Or.inr ⟨_, rfl⟩⟩

/-- The buttons show whether the monitor is active and which filter is set. -/
structure Labelled (s : BusMonitorPanel) : Prop where
  startStop : s.startStopLabel = if s.monitoringActive = true then "Stop" else "Start"
  enabled   : s.filterButtonEnabled = s.bm.filterEnabled
  unset     : s.bm.filterEnabled = false → s.filterButtonLabel = noFilterLabel
  set       : s.bm.filterEnabled = true →
    s.filterButtonLabel = filterLabel (criteriaOf s.bm) ∧
      ∃ p : TreePath, p.criteria = some (criteriaOf s.bm)

theorem labelled_init : Labelled .init :=
  ⟨rfl, rfl, fun _ => rfl, fun h => by cases h⟩

/-- What leaves the filter, the monitor and the labels alone keeps them together. -/
theorem Labelled.of_eq {s s' : BusMonitorPanel} (h : Labelled s)
    (hactive : s'.monitoringActive = s.monitoringActive)
    (hfilter : s'.bm.filterEnabled = s.bm.filterEnabled ∧ criteriaOf s'.bm = criteriaOf s.bm)
    (hlabel : s'.filterButtonLabel = s.filterButtonLabel)
    (hbutton : s'.filterButtonEnabled = s.filterButtonEnabled)
    (hstart : s'.startStopLabel = s.startStopLabel) : Labelled s' where
  startStop := by
    rw [hstart, hactive]
    exact h.startStop
  enabled := hbutton.trans (h.enabled.trans hfilter.1.symm)
  unset := fun hunset => hlabel.trans (h.unset (hfilter.1.symm.trans hunset))
  set := by
    intro hset
    rw [hlabel, hfilter.2]
    exact h.set (hfilter.1.symm.trans hset)

theorem Labelled.started {s : BusMonitorPanel} (h : Labelled s)
    (hidle : s.monitoringActive = false) (sniffing : Bool) (now : Int) :
    Labelled (s.started sniffing now) where
  startStop := by
    show (if sniffing = true then "Stop" else s.startStopLabel) = _
    rw [h.startStop, hidle]
    rfl
  enabled := h.enabled
  unset := h.unset
  set := h.set

/-- **Step lemma** of the labels. -/
theorem labelled_step (t : Tree)
    (hsearch : ∀ clicked c, t.searchItem clicked = some c → ∃ p : TreePath, p.criteria = some c)
    {s : BusMonitorPanel} (h : Labelled s) (l : ViewLabel) : Labelled (viewStep t s l) := by
  refine view_rule t l h ?_ ?_ ?_ ?_ (fun sniffing now hidle => h.started hidle sniffing now) ?_
    (h.of_eq rfl ⟨rfl, rfl⟩ rfl rfl rfl) ?_ ?_
  · intro buffer wallClock now _ _
    refine h.of_eq rfl ?_ rfl rfl rfl
    show (s.bm.processAndRelayData buffer wallClock now).filterEnabled = _ ∧
      criteriaOf (s.bm.processAndRelayData buffer wallClock now) = _
    rw [processAndRelayData_eq]
    split <;> exact ⟨rfl, rfl⟩
  · intro closure pendingEvents _
    obtain ⟨-, hbm, hactive, hlabel, hbutton, hstart⟩ := call_rest t { s with pendingEvents } closure
    refine h.of_eq hactive ?_ hlabel hbutton hstart
    rw [hbm]
    exact ⟨rfl, rfl⟩
  · exact fun _ => ⟨rfl, h.enabled, h.unset, h.set⟩
  · intro sniffing now hidle
    have hcleared : Labelled (s.cleared t) := h.of_eq rfl ⟨rfl, rfl⟩ rfl rfl rfl
    exact hcleared.started hidle sniffing now
  · intro hactive
    refine ⟨?_, h.enabled, h.unset, h.set⟩
    show "Stop" = if s.monitoringActive = true then "Stop" else "Start"
    rw [if_pos hactive]
  · exact ⟨h.startStop, rfl, (fun _ => rfl), fun hset => by cases hset⟩
  · intro clicked c _ hfound
    exact ⟨h.startStop, rfl, (fun hunset => by cases hunset),
      fun _ => ⟨rfl, hsearch clicked c hfound⟩⟩

/-- **What the buttons say**, after any run: whether the monitor is active, whether a
    filter is set, and which.  The label is read back as the criteria that `BM` holds,
    and what a read relays meets those the filter asks for. -/
theorem buttons_tell (ls : List ViewLabel) :
    (viewRun built .init ls).startStopLabel
        = (if (viewRun built .init ls).monitoringActive = true then "Stop" else "Start") ∧
      (viewRun built .init ls).filterButtonEnabled = (viewRun built .init ls).bm.filterEnabled ∧
      readLabel (viewRun built .init ls).filterButtonLabel
        = (if (viewRun built .init ls).filterButtonEnabled = true then
            some (criteriaOf (viewRun built .init ls).bm) else none) ∧
      ∀ buffer wallClock,
        ((viewRun built .init ls).bm.acceptedFrom buffer wallClock).map Prod.fst
          = (transactions
              ((viewRun built .init ls).bm.protocolParser.parseStream buffer).1).filter fun trans =>
              (readLabel (viewRun built .init ls).filterButtonLabel).all (·.AskedMet trans) := by
  have hsearch : ∀ clicked c, built.searchItem clicked = some c →
      ∃ p : TreePath, p.criteria = some c := by
    intro clicked c hfound
    obtain ⟨p, -, hp⟩ := searchItem_sound hfound
    exact ⟨p, hp⟩
  have hrun : ∀ (ls : List ViewLabel) (s : BusMonitorPanel), Labelled s →
      Labelled (viewRun built s ls) := by
    intro ls
    induction ls with
    | nil => exact fun _ h => h
    | cons l ls ih => exact fun s h => ih _ (labelled_step built hsearch h l)
  have hlabelled := hrun ls .init labelled_init
  generalize viewRun built .init ls = s at hlabelled ⊢
  have hread : readLabel s.filterButtonLabel
      = if s.filterButtonEnabled = true then some (criteriaOf s.bm) else none := by
    rw [hlabelled.enabled]
    by_cases hset : s.bm.filterEnabled = true
    · obtain ⟨hlabel, p, hp⟩ := hlabelled.set hset
      obtain ⟨hbus, hrt, hsa, hmc⟩ := criteria_printable hp
      rw [if_pos hset, hlabel, readLabel_filterLabel hbus hrt hsa hmc]
    · rw [if_neg hset, hlabelled.unset (Bool.eq_false_iff.mpr hset)]
      decide
  refine ⟨hlabelled.startStop, hlabelled.enabled, hread, fun buffer wallClock => ?_⟩
  rw [hread, hlabelled.enabled, Relay.acceptedFrom, accepted_fst]
  refine List.filter_congr fun trans _ => ?_
  by_cases hset : s.bm.filterEnabled = true
  · have hpasses := passes_enabled s.bm (criteriaOf s.bm) trans
    rw [Relay.passes, if_pos rfl] at hpasses
    rw [if_pos hset, Bool.eq_iff_iff, Relay.passes, if_pos hset, Option.all_some, decide_eq_true_iff]
    exact hpasses
  · rw [if_neg hset, Relay.passes, if_neg hset]
    rfl

/-! ## Bold items -/

/-- The items of a key are items of the model. -/
theorem itemsOf_subset {t : Tree} {busIdx rt sa : Nat} {items : List Nat}
    (h : t.itemsOf busIdx rt sa = some items) : ∀ item ∈ items, item ∈ t.modelItems := by
  obtain ⟨bus, hbus, hrest⟩ := Option.bind_eq_some_iff.mp h
  obtain ⟨rtItem, hrt, hrest⟩ := Option.bind_eq_some_iff.mp hrest
  obtain ⟨saItem, hsa, hitems⟩ := Option.bind_eq_some_iff.mp hrest
  cases hitems
  intro item hitem
  refine List.mem_flatMap.mpr ⟨bus, List.mem_of_getElem? hbus, ?_⟩
  rcases List.mem_cons.mp hitem with rfl | hitem
  · refine List.mem_cons_of_mem _ (List.mem_flatMap.mpr ⟨rtItem, List.mem_of_getElem? hrt, ?_⟩)
    exact List.mem_cons_of_mem _ (List.mem_of_getElem? hsa)
  · rcases List.mem_cons.mp hitem with rfl | hitem
    · refine List.mem_cons_of_mem _ (List.mem_flatMap.mpr ⟨rtItem, List.mem_of_getElem? hrt, ?_⟩)
      exact List.mem_cons_self
    · rw [List.mem_singleton.mp hitem]
      exact List.mem_cons_self

/-- A closure leaves items outside the model alone, and makes others bold with their
    colour. -/
theorem bold_call (t : Tree) (s : BusMonitorPanel) (closure : Closure) (item : Nat) :
    (item ∉ t.modelItems → (s.call t closure).bold item = s.bold item) ∧
      ((s.call t closure).bold item = s.bold item ∧ (s.call t closure).green item = s.green item ∨
        (s.call t closure).bold item = true ∧ (s.call t closure).green item = true) := by
  cases closure with
  | appendMessagesToUi messages =>
      obtain ⟨m, hcall, -⟩ := appendMessagesToUi_eq s messages
      rw [BusMonitorPanel.call, hcall]
      exact ⟨fun _ => rfl, Or.inl ⟨rfl, rfl⟩⟩
  | updateTreeItemVisualState key isActive =>
      rw [BusMonitorPanel.call, BusMonitorPanel.updateTreeItemVisualState]
      split
      · exact ⟨fun _ => rfl, Or.inl ⟨rfl, rfl⟩⟩
      · split
        · exact ⟨fun _ => rfl, Or.inl ⟨rfl, rfl⟩⟩
        · rename_i items hitems
          split
          · by_cases hitem : item ∈ items
            · exact ⟨fun hout => absurd (itemsOf_subset hitems item hitem) hout,
                Or.inr ⟨if_pos hitem, if_pos hitem⟩⟩
            · exact ⟨fun _ => if_neg hitem, Or.inl ⟨if_neg hitem, if_neg hitem⟩⟩
          · exact ⟨fun _ => rfl, Or.inl ⟨rfl, rfl⟩⟩

/-- Nothing but a click on it changes an item outside the model. -/
theorem bold_step {t : Tree} {item : Nat} {c : Criteria} (hout : item ∉ t.modelItems)
    (hsearch : t.searchItem item = some c) (s : BusMonitorPanel) (l : ViewLabel) :
    (viewStep t s l).bold item = true ↔ l = .onTreeItemClicked item ∨ s.bold item = true := by
  have hreset : ∀ s' : BusMonitorPanel, (s'.resetTreeVisualState t).bold item = s'.bold item :=
    fun s' => if_neg hout
  by_cases hl : l = .onTreeItemClicked item
  · rw [hl, viewStep, BusMonitorPanel.onTreeItemClicked, hsearch]
    exact iff_of_true (if_pos rfl) (Or.inl rfl)
  · have hsame : (viewStep t s l).bold item = s.bold item := by
      refine view_rule t (P := fun s' => s'.bold item = s.bold item) l rfl (fun _ _ _ _ _ => rfl)
        (fun closure pendingEvents _ => (bold_call t { s with pendingEvents } closure item).1 hout)
        (fun _ => rfl) (fun sniffing now _ => hreset s) (fun _ _ _ => rfl) (fun _ => rfl) (hreset _)
        (hreset _) ?_
      intro clicked c' hclick _
      have hother : item ≠ clicked := by
        rintro rfl
        exact hl hclick
      exact (if_neg hother).trans (hreset _)
    rw [hsame, or_iff_right hl]

/-- A model item is bold with its colour, or because the filter that is set is its own. -/
structure BoldSound (s : BusMonitorPanel) : Prop where
  green : ∀ p : TreePath, s.green (itemId p) = true → s.bold (itemId p) = true
  bold  : ∀ p : TreePath, p.InModel → s.bold (itemId p) = true →
    s.green (itemId p) = true ∨ s.bm.filterEnabled = true ∧ p.criteria = some (criteriaOf s.bm)

/-- What leaves the tree and the filter alone keeps them together. -/
theorem BoldSound.of_eq {s s' : BusMonitorPanel} (h : BoldSound s) (hgreen : s'.green = s.green)
    (hbold : s'.bold = s.bold)
    (hfilter : s'.bm.filterEnabled = s.bm.filterEnabled ∧ criteriaOf s'.bm = criteriaOf s.bm) :
    BoldSound s' := by
  constructor
  · rw [hgreen, hbold]
    exact h.green
  · rw [hgreen, hbold, hfilter.1, hfilter.2]
    exact h.bold

section Marking

variable {t : Tree} (hmodel : ∀ p : TreePath, itemId p ∈ t.modelItems ↔ p.InModel)
  (hsearch : ∀ (p : TreePath) c, t.searchItem (itemId p) = some c → p.criteria = some c)

include hmodel in
/-- A reset leaves no item of the model bold. -/
theorem BoldSound.reset {s : BusMonitorPanel} (h : BoldSound s) (s' : BusMonitorPanel)
    (hgreen : s'.green = s.green) (hbold : s'.bold = s.bold) :
    BoldSound (s'.resetTreeVisualState t) ∧
      ∀ p : TreePath, p.InModel → (s'.resetTreeVisualState t).bold (itemId p) = false := by
  have hnone : ∀ p : TreePath, p.InModel → (s'.resetTreeVisualState t).bold (itemId p) = false :=
    fun p hp => if_pos ((hmodel p).mpr hp)
  refine ⟨⟨fun p hp => ?_, fun p hp hin => ?_⟩, hnone⟩
  · rw [resetTreeVisualState_green] at hp
    split at hp
    · cases hp
    · rename_i hout
      have hkept : (s'.resetTreeVisualState t).bold (itemId p) = s.bold (itemId p) :=
        (if_neg hout).trans (congrFun hbold _)
      rw [hkept]
      exact h.green p (hgreen ▸ hp)
  · rw [hnone p hp] at hin
    cases hin

include hmodel hsearch in
theorem boldSound_step {s : BusMonitorPanel} (h : BoldSound s) (l : ViewLabel) :
    BoldSound (viewStep t s l) := by
  refine view_rule t l h ?_ ?_ (fun _ => h.of_eq rfl rfl ⟨rfl, rfl⟩) ?_
    (fun _ _ _ => h.of_eq rfl rfl ⟨rfl, rfl⟩) (fun _ => h.of_eq rfl rfl ⟨rfl, rfl⟩)
    (h.reset hmodel { s with messageList := [] } rfl rfl).1 (h.reset hmodel s.unfiltered rfl rfl).1 ?_
  · intro buffer wallClock now _ _
    refine h.of_eq rfl rfl ?_
    show (s.bm.processAndRelayData buffer wallClock now).filterEnabled = _ ∧
      criteriaOf (s.bm.processAndRelayData buffer wallClock now) = _
    rw [processAndRelayData_eq]
    split <;> exact ⟨rfl, rfl⟩
  · intro closure pendingEvents _
    obtain ⟨-, hbm, -⟩ := call_rest t { s with pendingEvents } closure
    refine ⟨fun p hp => ?_, fun p hp hbold => ?_⟩
    · rcases (bold_call t { s with pendingEvents } closure (itemId p)).2 with ⟨hb, hg⟩ | ⟨hb, -⟩
      · rw [hb]
        exact h.green p (hg ▸ hp)
      · exact hb
    · rw [hbm]
      rcases (bold_call t { s with pendingEvents } closure (itemId p)).2 with ⟨hb, hg⟩ | ⟨-, hg⟩
      · rw [hg]
        exact h.bold p hp (hb ▸ hbold)
      · exact Or.inl hg
  · intro sniffing now _
    exact (h.reset hmodel s rfl rfl).1.of_eq rfl rfl ⟨rfl, rfl⟩
  · intro clicked c _ hfound
    obtain ⟨hsound, hnone⟩ := h.reset hmodel (s.filteringBy c) rfl rfl
    refine ⟨fun p hp => ?_, fun p hp hbold => Or.inr ⟨rfl, ?_⟩⟩
    · show (if itemId p = clicked then true else _) = true
      rw [hsound.green p hp, ite_self]
    · -- only the item that was clicked is bold
      have hclicked : itemId p = clicked := by
        by_contra hother
        have hkept := (if_neg hother).symm.trans hbold
        rw [hnone p hp] at hkept
        cases hkept
      exact hsearch p c (hclicked ▸ hfound)

end Marking

/-- **What is bold**, after any run.  A mode code is bold exactly when it has ever been
    clicked, as no reset reaches it; any other item that is bold is green or is the one
    the filter names, and every green item is bold. -/
theorem bold_tells (ls : List ViewLabel) :
    (∀ i j m, (viewRun built .init ls).bold (itemId (.rt i j (.mc m))) = true ↔
        .onTreeItemClicked (itemId (.rt i j (.mc m))) ∈ ls) ∧
      (∀ p : TreePath, (viewRun built .init ls).green (itemId p) = true →
        (viewRun built .init ls).bold (itemId p) = true) ∧
      ∀ p : TreePath, p.InModel → (viewRun built .init ls).bold (itemId p) = true →
        (viewRun built .init ls).green (itemId p) = true ∨
          (viewRun built .init ls).bm.filterEnabled = true ∧
            p.criteria = some (criteriaOf (viewRun built .init ls).bm) := by
  have hsound : ∀ (ls : List ViewLabel) (s : BusMonitorPanel), BoldSound s →
      BoldSound (viewRun built s ls) := by
    intro ls
    induction ls with
    | nil => exact fun _ h => h
    | cons l ls ih =>
        intro s h
        refine ih _ (boldSound_step mem_modelItems (fun p c hfound => ?_) h l)
        rw [← hfound, searchItem_itemId]
  have hinit : BoldSound .init := ⟨(fun _ h => by cases h), fun _ _ h => by cases h⟩
  refine ⟨fun i j m => ?_, (hsound ls .init hinit).green, (hsound ls .init hinit).bold⟩
  have hout : itemId (.rt i j (.mc m)) ∉ built.modelItems := fun h => (mem_modelItems _).mp h
  have hrun : ∀ (ls : List ViewLabel) (s : BusMonitorPanel),
      (viewRun built s ls).bold (itemId (.rt i j (.mc m))) = true ↔
        s.bold (itemId (.rt i j (.mc m))) = true ∨
          .onTreeItemClicked (itemId (.rt i j (.mc m))) ∈ ls := by
    intro ls
    induction ls with
    | nil => exact fun s => (or_iff_left List.not_mem_nil).symm
    | cons l ls ih =>
        intro s
        have hrest := ih (viewStep built s l)
        rw [bold_step hout (searchItem_itemId _) s l] at hrest
        rw [List.mem_cons, or_left_comm, ← or_assoc, @eq_comm _ _ l]
        exact hrest
  rw [hrun ls .init]
  exact or_iff_right Bool.false_ne_true

/-- A mode code of terminal 5, clicked and cleared. -/
theorem bold_tells_cleared :
    (viewRun built .init [.onTreeItemClicked (itemId (.rt 0 5 (.mc 3))), .onClearClicked]).bold
      (itemId (.rt 0 5 (.mc 3))) = true :=
  ((bold_tells [.onTreeItemClicked (itemId (.rt 0 5 (.mc 3))), .onClearClicked]).1 0 5 3).mpr
    List.mem_cons_self

end TcpView
