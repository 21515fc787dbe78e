import Mathlib.Data.Char
import Mathlib.Data.Prod.Lex
import Tcp1553.BatchProofs
import Tcp1553.RelayProofs

/-! # What an update of the view hands over

    Between two updates `processAndRelayData` collects texts in `m_pendingMessages` and
    keys in `m_pendingActiveKeys`; an update hands both over.  Seen from outside the
    relay is a batcher of transactions: `Shows` reads its buffers off the
    transactions that wait, and `shows_step` says that every call keeps it so.

    `batched_relay` is what follows for the two callbacks. -/

namespace TcpRelay

open TcpWire TcpParser Batches

/-! ## The ordered set of keys -/

/-- `RtSaKey::operator<` is the lexicographic order. -/
theorem lt_iff_toLex (k o : RtSaKey) :
    k.lt o ↔ toLex (k.bus, toLex (k.rt, k.sa)) < toLex (o.bus, toLex (o.rt, o.sa)) := by
  rw [Prod.Lex.toLex_lt_toLex, Prod.Lex.toLex_lt_toLex, RtSaKey.lt]
  by_cases hbus : k.bus = o.bus
  · rw [if_neg (not_not.mpr hbus)]
    by_cases hrt : k.rt = o.rt
    · rw [if_neg (not_not.mpr hrt)]
      simp only [hbus, hrt, lt_irrefl, true_and, false_or]
    · rw [if_pos hrt]
      simp only [hbus, hrt, lt_irrefl, true_and, false_and, false_or, or_false]
  · rw [if_pos hbus]
    simp only [hbus, false_and, or_false]

theorem RtSaKey.lt.trans {k o p : RtSaKey} (h : k.lt o) (h' : o.lt p) : k.lt p := by
  rw [lt_iff_toLex] at *
  exact h.trans h'

theorem RtSaKey.lt.ne {k o : RtSaKey} (h : k.lt o) : k ≠ o := by
  rintro rfl
  rw [lt_iff_toLex] at h
  exact h.ne rfl

/-- `insert` keeps the set in order. -/
theorem sorted_insertKey {keys : List RtSaKey} (h : keys.Pairwise RtSaKey.lt) (key : RtSaKey) :
    (insertKey key keys).Pairwise RtSaKey.lt := by
  induction keys with
  | nil => exact List.pairwise_singleton _ _
  | cons k ks ih =>
      obtain ⟨hk, hks⟩ := List.pairwise_cons.mp h
      rw [insertKey]
      split
      · rename_i hbelow
        refine List.pairwise_cons.mpr ⟨fun o ho => ?_, h⟩
        rcases List.mem_cons.mp ho with rfl | hlater
        · exact hbelow
        · exact hbelow.trans (hk o hlater)
      · split
        · rename_i habove
          refine List.pairwise_cons.mpr ⟨fun o ho => ?_, ih hks⟩
          rcases mem_insertKey.mp ho with rfl | hold
          · exact habove
          · exact hk o hold
        · exact h

/-- What is marked active is in order. -/
theorem sorted_markActive (rs : List (MessageTransaction × WallClock)) {keys : List RtSaKey}
    (h : keys.Pairwise RtSaKey.lt) : (markActive keys rs).Pairwise RtSaKey.lt := by
  induction rs generalizing keys with
  | nil => exact h
  | cons r rs ih =>
      refine ih ?_
      show (if r.1.cmd1Valid = true then insertKey (keyOf r.1) keys else keys).Pairwise RtSaKey.lt
      split
      · exact sorted_insertKey h _
      · exact h

theorem markActive_append (keys : List RtSaKey) (rs rs' : List (MessageTransaction × WallClock)) :
    markActive keys (rs ++ rs') = markActive (markActive keys rs) rs' := List.foldl_append

/-- No key is handed over twice. -/
theorem nodup_markActive (rs : List (MessageTransaction × WallClock)) : (markActive [] rs).Nodup :=
  (sorted_markActive rs List.Pairwise.nil).imp RtSaKey.lt.ne

/-! ## The relay as a batcher -/

/-- A transaction that was accepted, and its time. -/
abbrev Accepted : Type := MessageTransaction × WallClock

/-- What a call accepts. -/
def acceptedAt (s : Relay) : RelayLabel → List Accepted
  | .processAndRelayData buffer wallClock _ => s.acceptedFrom buffer wallClock
  | _ => []

/-- What the calls of a run accept, and whether they update the view. -/
def arrivals (s : Relay) : List RelayLabel → List (List Accepted × Bool)
  | [] => []
  | l :: ls => (acceptedAt s l, (UpdatesAt s.lastGuiUpdate l).isSome) :: arrivals (relayStep s l) ls

/-- What the two callbacks are called with. -/
structure Flush where
  messages  : List String
  treeItems : List RtSaKey

/-- The callbacks in the updates of a run. -/
def flushes (s : Relay) : List RelayLabel → List Flush
  | [] => []
  | l :: ls =>
      (if (UpdatesAt s.lastGuiUpdate l).isSome = true then
        [⟨(relayStep s l).messages.drop s.messages.length,
          (relayStep s l).treeItems.drop s.treeItems.length⟩]
      else []) ++ flushes (relayStep s l) ls

/-- The buffers of the relay are those of a batcher. -/
structure Shows (b : Batcher Accepted) (s : Relay) : Prop where
  pendingMessages   : s.pendingMessages = texts b.waiting
  pendingActiveKeys : s.pendingActiveKeys = markActive [] b.waiting
  valid             : ∀ r ∈ b.waiting, r.1.cmd1Valid = true
  messagesCb        : s.messagesCb = true
  treeItemCb        : s.treeItemCb = true

/-- The callbacks were called for this batch: its text, and each of its keys once. -/
structure OnceEach (f : Flush) (batch : List Accepted) : Prop where
  text : String.join f.messages = texts batch
  once : f.treeItems.Nodup
  keys : ∀ k, k ∈ f.treeItems ↔ ∃ r ∈ batch, keyOf r.1 = k

/-- The parser marks every transaction of a call as valid. -/
theorem acceptedAt_valid (s : Relay) (l : RelayLabel) :
    ∀ r ∈ acceptedAt s l, r.1.cmd1Valid = true := by
  cases l with
  | setFilterCriteria bus rt sa mc => intro r hr; cases hr
  | enableFilter enable => intro r hr; cases hr
  | processAndRelayData buffer wallClock now => exact acceptedFrom_valid s buffer wallClock

/-- A call that does not update the view. -/
structure Waits (s s' : Relay) (new : List Accepted) : Prop where
  pendingMessages   : s'.pendingMessages = s.pendingMessages ++ texts new
  pendingActiveKeys : s'.pendingActiveKeys = markActive s.pendingActiveKeys new
  messages          : s'.messages = s.messages
  treeItems         : s'.treeItems = s.treeItems
  callbacks         : s'.messagesCb = s.messagesCb ∧ s'.treeItemCb = s.treeItemCb

theorem waits_relayStep {s : Relay} {l : RelayLabel} (h : UpdatesAt s.lastGuiUpdate l = none) :
    Waits s (relayStep s l) (acceptedAt s l) := by
  cases l with
  | setFilterCriteria bus rt sa mc => exact ⟨String.append_empty.symm, rfl, rfl, rfl, rfl, rfl⟩
  | enableFilter enable => exact ⟨String.append_empty.symm, rfl, rfl, rfl, rfl, rfl⟩
  | processAndRelayData buffer wallClock now =>
      have hearly : ¬UpdateDue s.lastGuiUpdate now := by
        intro hdue
        rw [UpdatesAt, if_pos hdue] at h
        cases h
      rw [relayStep, processAndRelayData_eq, if_neg hearly]
      exact ⟨rfl, rfl, rfl, rfl, rfl, rfl⟩

/-- A call that does is one that does not, and an update. -/
theorem update_relayStep {s : Relay} {l : RelayLabel} {now : Int}
    (h : UpdatesAt s.lastGuiUpdate l = some now) :
    ∃ r, Waits s r (acceptedAt s l) ∧ relayStep s l = r.update now := by
  cases l with
  | setFilterCriteria bus rt sa mc => cases h
  | enableFilter enable => cases h
  | processAndRelayData buffer wallClock t =>
      obtain ⟨hdue, hnow⟩ := Option.ite_none_right_eq_some.mp h
      cases hnow
      refine ⟨s.received buffer wallClock, ⟨rfl, rfl, rfl, rfl, rfl, rfl⟩, ?_⟩
      rw [relayStep, processAndRelayData_eq, if_pos hdue]

/-- What a batcher's buffers show after more has arrived. -/
theorem Shows.arrive {b : Batcher Accepted} {s r : Relay} {new : List Accepted} (h : Shows b s)
    (hw : Waits s r new) (hvalid : ∀ a ∈ new, a.1.cmd1Valid = true) :
    Shows ⟨b.delivered, b.waiting ++ new⟩ r where
  pendingMessages := by
    rw [hw.pendingMessages, h.pendingMessages, ← texts_append]
  pendingActiveKeys := by
    rw [hw.pendingActiveKeys, h.pendingActiveKeys, ← markActive_append]
  valid := fun a ha => (List.mem_append.mp ha).elim (h.valid a) (hvalid a)
  messagesCb := hw.callbacks.1.trans h.messagesCb
  treeItemCb := hw.callbacks.2.trans h.treeItemCb

/-- **An update** empties the buffers, and calls the callbacks for what was in them. -/
theorem Shows.flush {b : Batcher Accepted} {r : Relay} (h : Shows b r) (now : Int) :
    Shows ⟨b.delivered ++ [b.waiting], []⟩ (r.update now) ∧
      ∃ f, OnceEach f b.waiting ∧ (r.update now).messages = r.messages ++ f.messages ∧
        (r.update now).treeItems = r.treeItems ++ f.treeItems := by
  refine ⟨⟨rfl, rfl, fun a ha => (by cases ha), h.messagesCb, h.treeItemCb⟩, ?_⟩
  refine ⟨⟨if r.pendingMessages = "" then [] else [r.pendingMessages], r.pendingActiveKeys⟩,
    ⟨?_, ?_, fun k => ?_⟩, ?_, ?_⟩
  · rw [← h.pendingMessages]
    show String.join (if r.pendingMessages = "" then [] else [r.pendingMessages]) = _
    by_cases hempty : r.pendingMessages = ""
    · rw [if_pos hempty, hempty, String.join_nil]
    · rw [if_neg hempty, String.join_cons, String.join_nil, String.append_empty]
  · show r.pendingActiveKeys.Nodup
    rw [h.pendingActiveKeys]
    exact nodup_markActive b.waiting
  · show k ∈ r.pendingActiveKeys ↔ _
    rw [h.pendingActiveKeys, mem_markActive [] h.valid]
    exact or_iff_right List.not_mem_nil
  · show (if r.messagesCb = true ∧ r.pendingMessages ≠ "" then r.messages ++ [r.pendingMessages]
      else r.messages) = _
    by_cases hempty : r.pendingMessages = ""
    · rw [if_neg fun hboth => hboth.2 hempty, if_pos hempty, List.append_nil]
    · rw [if_pos ⟨h.messagesCb, hempty⟩, if_neg hempty]
  · show (if r.treeItemCb = true then r.treeItems ++ r.pendingActiveKeys else r.treeItems) = _
    rw [if_pos h.treeItemCb]

/-! ## Runs -/

/-- What a run hands over, batch by batch. -/
structure HandsOver (s t : Relay) (fs : List Flush) (batches : List (List Accepted)) : Prop where
  each      : List.Forall₂ OnceEach fs batches
  messages  : t.messages = s.messages ++ fs.flatMap Flush.messages
  treeItems : t.treeItems = s.treeItems ++ fs.flatMap Flush.treeItems

/-- **Step lemma**: a call is a step of the batcher. -/
theorem shows_step {b : Batcher Accepted} {s : Relay} (h : Shows b s) (l : RelayLabel) :
    Shows (b.step (acceptedAt s l, (UpdatesAt s.lastGuiUpdate l).isSome)) (relayStep s l) ∧
      ∃ batches,
        (b.step (acceptedAt s l, (UpdatesAt s.lastGuiUpdate l).isSome)).delivered
            = b.delivered ++ batches ∧
          HandsOver s (relayStep s l) (flushes s [l]) batches := by
  have hvalid := acceptedAt_valid s l
  cases hupdate : UpdatesAt s.lastGuiUpdate l with
  | none =>
      have hw := waits_relayStep hupdate
      have hflushes : flushes s [l] = [] := by
        rw [flushes, hupdate]
        rfl
      rw [hflushes]
      refine ⟨h.arrive hw hvalid, [], (List.append_nil _).symm, List.Forall₂.nil, ?_, ?_⟩
      · rw [hw.messages]
        exact (List.append_nil _).symm
      · rw [hw.treeItems]
        exact (List.append_nil _).symm
  | some now =>
      obtain ⟨r, hw, hstep⟩ := update_relayStep hupdate
      obtain ⟨hshows, f, honce, hmessages, htree⟩ := (h.arrive hw hvalid).flush now
      rw [hw.messages] at hmessages
      rw [hw.treeItems] at htree
      have hflushes : flushes s [l] = [f] := by
        rw [flushes, hupdate, hstep, hmessages, htree, List.drop_left, List.drop_left]
        rfl
      rw [hstep, hflushes]
      refine ⟨hshows, [b.waiting ++ acceptedAt s l], rfl, ?_, ?_, ?_⟩
      · exact List.Forall₂.cons honce List.Forall₂.nil
      · rw [hmessages, List.flatMap_singleton]
      · rw [htree, List.flatMap_singleton]

theorem flushes_cons (s : Relay) (l : RelayLabel) (ls : List RelayLabel) :
    flushes s (l :: ls) = flushes s [l] ++ flushes (relayStep s l) ls := by
  rw [flushes, flushes, flushes, List.append_nil]

theorem HandsOver.append {s t u : Relay} {fs gs : List Flush} {bs cs : List (List Accepted)}
    (h : HandsOver s t fs bs) (h' : HandsOver t u gs cs) : HandsOver s u (fs ++ gs) (bs ++ cs) where
  each      := List.rel_append h.each h'.each
  messages  := by rw [h'.messages, h.messages, List.flatMap_append, List.append_assoc]
  treeItems := by rw [h'.treeItems, h.treeItems, List.flatMap_append, List.append_assoc]

/-- **Run lemma**: a run of calls is a run of the batcher. -/
theorem shows_run (ls : List RelayLabel) {b : Batcher Accepted} {s : Relay} (h : Shows b s) :
    Shows (b.run (arrivals s ls)) (ls.foldl relayStep s) ∧
      ∃ batches, (b.run (arrivals s ls)).delivered = b.delivered ++ batches ∧
        HandsOver s (ls.foldl relayStep s) (flushes s ls) batches := by
  induction ls generalizing b s with
  | nil =>
      exact ⟨h, [], (List.append_nil _).symm, List.Forall₂.nil, (List.append_nil _).symm,
        (List.append_nil _).symm⟩
  | cons l ls ih =>
      obtain ⟨hnext, first, hfirst, hover⟩ := shows_step h l
      obtain ⟨hlast, rest, hrest, hovers⟩ := ih hnext
      rw [hfirst, List.append_assoc] at hrest
      rw [flushes_cons]
      exact ⟨hlast, first ++ rest, hrest, hover.append hovers⟩

/-- The messages of the updates are the texts of the batches. -/
theorem join_messages {fs : List Flush} {batches : List (List Accepted)}
    (h : List.Forall₂ OnceEach fs batches) :
    String.join (fs.flatMap Flush.messages) = texts batches.flatten := by
  induction h with
  | nil => rfl
  | cons hhead _ ih =>
      rw [List.flatMap_cons, String.join_append, hhead.text, ih, List.flatten_cons, texts_append]

/-- What the view gets: everything in order, and in each update the keys of the
    transactions whose text is in that update, each of them once. -/
structure RelayedInBatches (s t : Relay) (ls : List RelayLabel) : Prop where
  text    : String.join t.messages ++ t.pendingMessages
    = texts ((arrivals s ls).flatMap Prod.fst)
  batches : List.Forall₂ OnceEach (flushes s ls) (Batcher.init.run (arrivals s ls)).delivered
  calls   : t.messages = (flushes s ls).flatMap Flush.messages ∧
    t.treeItems = (flushes s ls).flatMap Flush.treeItems

/-- **Batched relay.**  With both callbacks set, whatever the data, the filter and the
    clocks, a run behind `start` hands over what it accepted, batch by batch. -/
theorem batched_relay {s : Relay} (hmessages : s.messagesCb = true) (htree : s.treeItemCb = true)
    (now : Int) (ls : List RelayLabel) :
    RelayedInBatches (s.start now) (ls.foldl relayStep (s.start now)) ls := by
  have hstart : Shows Batcher.init (s.start now) :=
    ⟨rfl, rfl, fun a ha => (by cases ha), hmessages, htree⟩
  obtain ⟨hlast, batches, hdelivered, hover⟩ := shows_run ls hstart
  have hdelivered : (Batcher.init.run (arrivals (s.start now) ls)).delivered = batches :=
    hdelivered
  have hitems := items_run_init (arrivals (s.start now) ls)
  rw [Batcher.items, hdelivered] at hitems
  refine ⟨?_, hdelivered ▸ hover.each, hover.messages, hover.treeItems⟩
  have hmsgs : (ls.foldl relayStep (s.start now)).messages
      = (flushes (s.start now) ls).flatMap Flush.messages := hover.messages
  rw [hmsgs, join_messages hover.each, hlast.pendingMessages, ← texts_append, hitems]

theorem batched_relay_lateRead :
    RelayedInBatches ((Relay.init true true).start 0)
      (lateRead.foldl relayStep ((Relay.init true true).start 0)) lateRead :=
  batched_relay rfl rfl 0 lateRead

end TcpRelay
