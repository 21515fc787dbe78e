import Tcp1553.RelayProofs

/-! # What the filter selects

    A click in the tree sets up to four criteria, and the label of the filter button
    names them.  `processAndRelayData` asks for the terminal and the subaddress;
    `m_filterBus` and `m_filterMc` are stored and never read.

    `relayed_run` says what is selected, `selects_iff` on which streams that is what
    the label says and for which criteria it is so on all of them. -/

namespace TcpRelay

open TcpWire TcpParser TcpHeader

/-- The criteria of `setFilterCriteria`. -/
structure Criteria where
  bus : Char
  rt  : Int
  sa  : Int
  mc  : Int
  deriving DecidableEq, Repr

/-- The transaction meets the criteria the filter asks for. -/
def Criteria.AskedMet (c : Criteria) (trans : MessageTransaction) : Prop :=
  (c.rt = -1 ∨ (rtField trans.cmd1 : Int) = c.rt) ∧
    (c.sa = -1 ∨ (saField trans.cmd1 : Int) = c.sa)

/-- It meets the two others: the bus, and the code of a mode command. -/
def Criteria.UnaskedMet (c : Criteria) (trans : MessageTransaction) : Prop :=
  (c.bus = Char.ofNat 0 ∨ trans.bus1 = c.bus) ∧
    (c.mc = -1 ∨ ((saField trans.cmd1 = 0 ∨ saField trans.cmd1 = 31) ∧
      (wcField trans.cmd1 : Int) = c.mc))

/-- It meets all four. -/
def Criteria.Met (c : Criteria) (trans : MessageTransaction) : Prop :=
  c.AskedMet trans ∧ c.UnaskedMet trans

instance (c : Criteria) (trans : MessageTransaction) : Decidable (c.AskedMet trans) :=
  inferInstanceAs (Decidable (_ ∧ _))

instance (c : Criteria) (trans : MessageTransaction) : Decidable (c.UnaskedMet trans) :=
  inferInstanceAs (Decidable (_ ∧ _))

instance (c : Criteria) (trans : MessageTransaction) : Decidable (c.Met trans) :=
  inferInstanceAs (Decidable (_ ∧ _))

/-- One read of the monitor loop: its bytes and the readings of the two clocks. -/
structure Read where
  buffer    : List UInt8
  wallClock : Nat → WallClock
  now       : Int

/-- The reads as calls. -/
def calls (reads : List Read) : List RelayLabel :=
  reads.map fun r => .processAndRelayData r.buffer r.wallClock r.now

/-- What a fresh parser decodes from the reads. -/
def decoded (reads : List Read) : List MessageTransaction :=
  transactions (ProtocolParser.reset.parseChunks (reads.map Read.buffer)).1

/-- A session with the given criteria set and the filter enabled or not. -/
def filtered (s : Relay) (start : Int) (c : Criteria) (enable : Bool) (reads : List Read) : Relay :=
  session s start
    (.setFilterCriteria c.bus c.rt c.sa c.mc :: .enableFilter enable :: calls reads)

/-- Exactly these transactions have been relayed, in this order: they make up the
    text handed over and pending, and theirs are the keys marked active. -/
structure Selects (s : Relay) (selected : List MessageTransaction) : Prop where
  relayed  : s.relayed.map Prod.fst = selected
  recorded : Recorded s
  active   : ∀ k, k ∈ s.treeItems ++ s.pendingActiveKeys ↔ ∃ trans ∈ selected, keyOf trans = k

/-! ## What is relayed -/

/-- **What the reads of a session relay**: what passes the filter. -/
theorem relayed_run (reads : List Read) :
    ∀ s : Relay, ((calls reads).foldl relayStep s).relayed.map Prod.fst
      = s.relayed.map Prod.fst
        ++ (transactions (s.protocolParser.parseChunks (reads.map Read.buffer)).1).filter
            s.passes := by
  induction reads with
  | nil => intro s; exact (List.append_nil _).symm
  | cons r reads ih =>
      intro s
      -- a read leaves the filter alone and the parser where the chunk took it
      have hstep : ∃ t : Relay, relayStep s (.processAndRelayData r.buffer r.wallClock r.now) = t ∧
          t.passes = s.passes ∧ t.protocolParser = (s.protocolParser.parseStream r.buffer).2 ∧
          t.relayed = s.relayed ++ s.acceptedFrom r.buffer r.wallClock := by
        refine ⟨_, rfl, ?_⟩
        rw [relayStep, processAndRelayData_eq]
        split <;> exact ⟨rfl, rfl, rfl⟩
      obtain ⟨t, ht, hpasses, hparser, hrelayed⟩ := hstep
      have hrest := ih t
      rw [hpasses, hparser, hrelayed, List.map_append, Relay.acceptedFrom, accepted_fst] at hrest
      rw [calls, List.map_cons, List.foldl_cons, ht, List.map_cons, ProtocolParser.parseChunks,
        transactions_append, List.filter_append, ← List.append_assoc]
      exact hrest

/-- The filter of a session, when it is enabled. -/
theorem passes_enabled (s : Relay) (c : Criteria) (trans : MessageTransaction) :
    ({ s with
        filterEnabled := true
        filterBus := c.bus
        filterRt := c.rt
        filterSa := c.sa
        filterMc := c.mc } : Relay).passes trans = true ↔ c.AskedMet trans := by
  rw [Relay.passes, if_pos rfl, Criteria.AskedMet]
  by_cases hrt : c.rt ≠ -1 ∧ (rtField trans.cmd1 : Int) ≠ c.rt
  · rw [if_pos hrt]
    simp [hrt.1, hrt.2]
  · rw [if_neg hrt]
    by_cases hsa : c.sa ≠ -1 ∧ (saField trans.cmd1 : Int) ≠ c.sa
    · rw [if_pos hsa]
      simp [hsa.1, hsa.2]
    · rw [if_neg hsa]
      rw [not_and_or, not_not, not_not] at hrt hsa
      exact iff_of_true rfl ⟨hrt, hsa⟩

/-- With the filter enabled, what meets the two criteria it asks for is relayed. -/
theorem filtered_relayed (s : Relay) (start : Int) (c : Criteria) (reads : List Read) :
    (filtered s start c true reads).relayed.map Prod.fst
      = (decoded reads).filter (c.AskedMet ·) := by
  refine (relayed_run reads _).trans ((List.nil_append _).trans (List.filter_congr ?_))
  intro trans _
  rw [Bool.eq_iff_iff, decide_eq_true_iff]
  exact passes_enabled (s.start start) c trans

/-- Without it, everything is. -/
theorem unfiltered_relayed (s : Relay) (start : Int) (c : Criteria) (reads : List Read) :
    (filtered s start c false reads).relayed.map Prod.fst = decoded reads :=
  (relayed_run reads _).trans ((List.nil_append _).trans (List.filter_eq_self.mpr fun _ _ => rfl))

/-- What is relayed is in the text and among the active keys. -/
theorem selects_filtered {s : Relay} (hmessages : s.messagesCb = true) (htree : s.treeItemCb = true)
    (start : Int) (c : Criteria) (enable : Bool) (reads : List Read)
    (selected : List MessageTransaction) :
    Selects (filtered s start c enable reads) selected
      ↔ (filtered s start c enable reads).relayed.map Prod.fst = selected := by
  refine ⟨Selects.relayed, fun hrelayed => ⟨hrelayed, ?_, ?_⟩⟩
  · exact recorded_run _ (recorded_start s start) hmessages
  · intro k
    have hmarked : Marked (filtered s start c enable reads) :=
      marked_run _ (marked_start s start) htree
    rw [hmarked k, ← hrelayed]
    simp only [List.mem_map, exists_exists_and_eq_and]

/-! ## When that is what the label says -/

/-- Dropping more than a filter drops makes a difference exactly when there is more
    to drop. -/
theorem filter_eq_filter_iff {ts : List MessageTransaction} {c : Criteria} :
    ts.filter (c.AskedMet ·) = ts.filter (c.Met ·)
      ↔ ∀ t ∈ ts, c.AskedMet t → c.UnaskedMet t := by
  constructor
  · intro heq t ht hasked
    have hin : t ∈ ts.filter (c.Met ·) := by
      rw [← heq]
      exact List.mem_filter.mpr ⟨ht, decide_eq_true hasked⟩
    exact (of_decide_eq_true (List.mem_filter.mp hin).2).2
  · intro hall
    refine List.filter_congr fun t ht => ?_
    rw [decide_eq_decide]
    exact ⟨fun hasked => ⟨hasked, hall t ht hasked⟩, And.left⟩

/-- A criterion on a five-bit field that some command word meets. -/
def Meetable (criterion : Int) : Prop := criterion = -1 ∨ (0 ≤ criterion ∧ criterion < 32)

/-- The criteria ask for nothing that the filter does not look at, or for a terminal
    or subaddress no command word has. -/
def Criteria.Honest (c : Criteria) : Prop :=
  ((c.bus = Char.ofNat 0 ∨ c.bus = 'A') ∧ c.mc = -1) ∨ ¬Meetable c.rt ∨ ¬Meetable c.sa

/-- A field value that meets a criterion. -/
theorem Meetable.exists_field {criterion : Int} (h : Meetable criterion) :
    ∃ b : UInt8, b.toNat < 32 ∧ (criterion = -1 ∨ (b.toNat : Int) = criterion) := by
  rcases h with hany | ⟨h0, h32⟩
  · exact ⟨0, by decide, Or.inl hany⟩
  · refine ⟨UInt8.ofNat criterion.toNat, ?_, Or.inr ?_⟩
    · rw [UInt8.toNat_ofNat']
      omega
    · rw [UInt8.toNat_ofNat']
      omega

/-- Fields are five bits wide. -/
theorem meetable_of_field {criterion : Int} {n : Nat} (h : criterion = -1 ∨ (n : Int) = criterion)
    (hn : n < 32) : Meetable criterion := by
  rcases h with hany | heq
  · exact Or.inl hany
  · exact Or.inr (by omega)

theorem rtField_lt (cmd : UInt16) : rtField cmd < 32 := by
  rw [rtField, and_31]
  exact Nat.mod_lt _ (by omega)

theorem saField_lt (cmd : UInt16) : saField cmd < 32 := by
  rw [saField, and_31]
  exact Nat.mod_lt _ (by omega)

/-- Traffic that meets two criteria of the four. -/
theorem exists_unaskedPacket {c : Criteria} (hrt : Meetable c.rt) (hsa : Meetable c.sa)
    (h : ¬((c.bus = Char.ofNat 0 ∨ c.bus = 'A') ∧ c.mc = -1)) :
    ∃ packet, transactions (ProtocolParser.reset.parseStream packet).1 = [decodeFrame packet] ∧
      c.AskedMet (decodeFrame packet) ∧ ¬c.UnaskedMet (decodeFrame packet) := by
  obtain ⟨rt, hrt32, hrtmet⟩ := hrt.exists_field
  obtain ⟨sa, hsa32, hsamet⟩ := hsa.exists_field
  -- any count other than the code asked for
  obtain ⟨wc, hwc⟩ : ∃ wc : UInt8, ((wc.toNat % 32 : Nat) : Int) ≠ c.mc := by
    by_cases hone : c.mc = 1
    · exact ⟨2, by rw [hone]; decide⟩
    · exact ⟨1, fun heq => hone heq.symm⟩
  have hcmd : (decodeFrame (headerPacket 0x00 rt sa wc)).cmd1 = commandWord rt false sa wc := rfl
  refine ⟨headerPacket 0x00 rt sa wc, transactions_isFrame (isFrame_headerPacket (Or.inl rfl) rt sa wc),
    ?_, ?_⟩
  · rw [Criteria.AskedMet, hcmd, rtField_commandWord hsa32, saField_commandWord hsa32,
      Nat.mod_eq_of_lt hrt32]
    exact ⟨hrtmet, hsamet⟩
  · rintro ⟨hbus, hmc⟩
    rw [hcmd, wcField_commandWord hsa32] at hmc
    refine h ⟨hbus.imp_right Eq.symm, hmc.resolve_right fun hcode => hwc hcode.2⟩

/-- Every transaction of the parser is on bus A. -/
theorem decoded_bus1 {reads : List Read} {trans : MessageTransaction} (h : trans ∈ decoded reads) :
    trans.bus1 = 'A' := by
  rw [decoded, parseChunks_flatten] at h
  obtain ⟨frame, -, rfl⟩ := mem_transactions_scan h
  rfl

/-- **What the filter selects.**  Of a stream it selects what the four criteria say
    exactly when all decoded transactions with the terminal and subaddress asked for
    are on the bus and of the mode code asked for; of every stream, exactly when the
    criteria are honest.  Disabled, it selects everything. -/
theorem selects_iff {s : Relay} (hmessages : s.messagesCb = true) (htree : s.treeItemCb = true)
    (start : Int) (c : Criteria) :
    (∀ reads, Selects (filtered s start c true reads)
          ((decoded reads).filter (c.Met ·))
        ↔ ∀ trans ∈ decoded reads, c.AskedMet trans → c.UnaskedMet trans) ∧
      ((∀ reads, Selects (filtered s start c true reads)
          ((decoded reads).filter (c.Met ·))) ↔ c.Honest) ∧
      ∀ reads, Selects (filtered s start c false reads) (decoded reads) := by
  have hstream : ∀ reads, Selects (filtered s start c true reads)
        ((decoded reads).filter (c.Met ·))
      ↔ ∀ trans ∈ decoded reads, c.AskedMet trans → c.UnaskedMet trans := by
    intro reads
    rw [selects_filtered hmessages htree, filtered_relayed, filter_eq_filter_iff]
  refine ⟨hstream, ?_, fun reads => ?_⟩
  · constructor
    · intro hall
      by_contra hdishonest
      rw [Criteria.Honest, not_or, not_or, not_not, not_not] at hdishonest
      obtain ⟨hunasked, hrt, hsa⟩ := hdishonest
      obtain ⟨packet, hdecoded, hasked, hmissed⟩ := exists_unaskedPacket hrt hsa hunasked
      have hread : decoded [⟨packet, midnight, 0⟩] = [decodeFrame packet] := by
        rw [decoded, parseChunks_flatten]
        show transactions (ProtocolParser.reset.parseStream [packet].flatten).1 = _
        rw [List.flatten_singleton, hdecoded]
      refine hmissed ((hstream [⟨packet, midnight, 0⟩]).mp (hall _) _ ?_ hasked)
      rw [hread]
      exact List.mem_singleton_self _
    · intro hhonest reads
      refine (hstream reads).mpr fun trans htrans hasked => ?_
      rcases hhonest with ⟨hbus, hmc⟩ | hrt | hsa
      · rw [Criteria.UnaskedMet, decoded_bus1 htrans]
        exact ⟨hbus.imp_right Eq.symm, Or.inl hmc⟩
      · exact absurd (meetable_of_field hasked.1 (rtField_lt _)) hrt
      · exact absurd (meetable_of_field hasked.2 (saField_lt _)) hsa
  · exact (selects_filtered hmessages htree start c false reads _).mpr
      (unfiltered_relayed s start c reads)

/-- A click on terminal 5 of bus A, over any traffic. -/
theorem selects_iff_terminal :
    (∀ reads, Selects (filtered (Relay.init true true) 0 ⟨'A', 5, -1, -1⟩ true reads)
          ((decoded reads).filter ((⟨'A', 5, -1, -1⟩ : Criteria).Met ·))
        ↔ ∀ trans ∈ decoded reads, (⟨'A', 5, -1, -1⟩ : Criteria).AskedMet trans →
            (⟨'A', 5, -1, -1⟩ : Criteria).UnaskedMet trans) ∧
      ((∀ reads, Selects (filtered (Relay.init true true) 0 ⟨'A', 5, -1, -1⟩ true reads)
          ((decoded reads).filter ((⟨'A', 5, -1, -1⟩ : Criteria).Met ·)))
        ↔ (⟨'A', 5, -1, -1⟩ : Criteria).Honest) ∧
      ∀ reads, Selects (filtered (Relay.init true true) 0 ⟨'A', 5, -1, -1⟩ false reads)
        (decoded reads) :=
  selects_iff rfl rfl 0 ⟨'A', 5, -1, -1⟩

/-- A click on bus B: a packet of bus A is relayed. -/
theorem busB_not_selected :
    ¬∀ (s : Relay) (start : Int) (c : Criteria) (reads : List Read),
      s.messagesCb = true → s.treeItemCb = true →
        Selects (filtered s start c true reads)
          ((decoded reads).filter (c.Met ·)) := by
  intro hall
  have hframe := transactions_isFrame (isFrame_headerPacket (Or.inl rfl) 0x05 0x02 0x01)
  have hselects := (hall (Relay.init true true) 0 ⟨'B', -1, -1, -1⟩
    [⟨headerPacket 0x00 0x05 0x02 0x01, midnight, 0⟩] rfl rfl).relayed
  have hread : decoded [⟨headerPacket 0x00 0x05 0x02 0x01, midnight, 0⟩]
      = [decodeFrame (headerPacket 0x00 0x05 0x02 0x01)] := by
    rw [decoded, parseChunks_flatten]
    exact hframe
  rw [filtered_relayed, filter_eq_filter_iff, hread] at hselects
  have hmet := hselects _ (List.mem_singleton_self _) ⟨Or.inl rfl, Or.inl rfl⟩
  rcases hmet.1 with hany | hbus
  · exact absurd hany (by decide)
  · exact absurd hbus (by decide)

end TcpRelay
