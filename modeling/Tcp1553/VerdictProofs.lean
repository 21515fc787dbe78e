import Tcp1553.FilterProofs
import Tcp1553.RunProofs

/-! # The filter while its criteria change

    `setFilterCriteria` stores the four criteria one by one, under `m_filterMutex`.
    The callback in `processAndRelayData` takes no mutex: it loads the terminal and
    the subaddress one after the other, and each that is not -1 a second time for the
    comparison.  Every load and every store is one step here, and a schedule is any
    order of them.

    `Explained` is what every verdict has behind it, whatever the schedule.
    `verdicts_iff` says for which transactions that makes it the verdict of the old
    criteria or of the new, and `safeChange_iff` which changes of the criteria never
    lead to another. -/

namespace TcpRelay

open LabelledRuns TcpWire TcpParser TcpHeader

/-! ## The two threads -/

/-- The callback, in front of its next load; `trans` is the transaction it was called
    for. -/
inductive FilterReader where
  | idle
  | testRt (trans : MessageTransaction)
  | compareRt (trans : MessageTransaction)
  | testSa (trans : MessageTransaction)
  | compareSa (trans : MessageTransaction)
  deriving DecidableEq, Repr

/-- `setFilterCriteria`, in front of its next store.  It is the only one to lock the
    mutex. -/
inductive FilterWriter where
  | storeBus (c : Criteria)
  | storeRt (c : Criteria)
  | storeSa (c : Criteria)
  | storeMc (c : Criteria)
  | returned
  deriving DecidableEq, Repr

/-- The five atomics of the filter and the two threads; `toFilter` is what the parser
    still has to hand over, and `verdicts` records for each transaction behind whether
    it was relayed. -/
structure Filtering where
  filterEnabled : Bool
  filterBus     : Char
  filterRt      : Int
  filterSa      : Int
  filterMc      : Int
  reader        : FilterReader
  writer        : FilterWriter
  toFilter      : List MessageTransaction
  verdicts      : List (MessageTransaction × Bool)
  deriving DecidableEq, Repr

/-- The old criteria are in force, the new ones about to be stored. -/
def Filtering.init (old new : Criteria) (ts : List MessageTransaction) : Filtering where
  filterEnabled := true
  filterBus     := old.bus
  filterRt      := old.rt
  filterSa      := old.sa
  filterMc      := old.mc
  reader        := .idle
  writer        := .storeBus new
  toFilter      := ts
  verdicts      := []

/-- The next load of the callback, or the next store of `setFilterCriteria`. -/
inductive FilterLabel where
  | load
  | store
  deriving DecidableEq, Repr

/-- The callback returns, or goes on to format. -/
def Filtering.decided (s : Filtering) (trans : MessageTransaction) (relay : Bool) : Filtering :=
  { s with reader := .idle, verdicts := s.verdicts ++ [(trans, relay)] }

/-- The interleaving of the loads and the stores. -/
def filterStep (s : Filtering) : FilterLabel → Option Filtering
  | .load =>
      match s.reader with
      | .idle =>
          match s.toFilter with
          | [] => none
          | t :: rest =>
              if s.filterEnabled = true then
                some { s with reader := .testRt t, toFilter := rest }
              else some ({ s with toFilter := rest }.decided t true)
      | .testRt t =>
          if s.filterRt ≠ -1 then some { s with reader := .compareRt t }
          else some { s with reader := .testSa t }
      | .compareRt t =>
          -- the second load may see another value than the first
          if (rtField t.cmd1 : Int) ≠ s.filterRt then some (s.decided t false)
          else some { s with reader := .testSa t }
      | .testSa t =>
          if s.filterSa ≠ -1 then some { s with reader := .compareSa t }
          else some (s.decided t true)
      | .compareSa t =>
          if (saField t.cmd1 : Int) ≠ s.filterSa then some (s.decided t false)
          else some (s.decided t true)
  | .store =>
      match s.writer with
      | .storeBus c => some { s with filterBus := c.bus, writer := .storeRt c }
      | .storeRt c => some { s with filterRt := c.rt, writer := .storeSa c }
      | .storeSa c => some { s with filterSa := c.sa, writer := .storeMc c }
      | .storeMc c => some { s with filterMc := c.mc, writer := .returned }
      | .returned => none

/-- What a step does, one constructor for each way it can go. -/
inductive Filtering.Moves (s : Filtering) : FilterLabel → Filtering → Prop where
  | called {trans : MessageTransaction} {rest : List MessageTransaction} : s.reader = .idle →
      s.toFilter = trans :: rest → Moves s .load { s with reader := .testRt trans, toFilter := rest }
  | disabled {trans : MessageTransaction} {rest : List MessageTransaction} : s.reader = .idle →
      s.filterEnabled ≠ true → s.toFilter = trans :: rest →
      Moves s .load ({ s with toFilter := rest }.decided trans true)
  | asksRt {trans : MessageTransaction} : s.reader = .testRt trans → s.filterRt ≠ -1 →
      Moves s .load { s with reader := .compareRt trans }
  | anyRt {trans : MessageTransaction} : s.reader = .testRt trans → s.filterRt = -1 →
      Moves s .load { s with reader := .testSa trans }
  | otherRt {trans : MessageTransaction} : s.reader = .compareRt trans →
      (rtField trans.cmd1 : Int) ≠ s.filterRt → Moves s .load (s.decided trans false)
  | sameRt {trans : MessageTransaction} : s.reader = .compareRt trans →
      (rtField trans.cmd1 : Int) = s.filterRt → Moves s .load { s with reader := .testSa trans }
  | asksSa {trans : MessageTransaction} : s.reader = .testSa trans → s.filterSa ≠ -1 →
      Moves s .load { s with reader := .compareSa trans }
  | anySa {trans : MessageTransaction} : s.reader = .testSa trans → s.filterSa = -1 →
      Moves s .load (s.decided trans true)
  | otherSa {trans : MessageTransaction} : s.reader = .compareSa trans →
      (saField trans.cmd1 : Int) ≠ s.filterSa → Moves s .load (s.decided trans false)
  | sameSa {trans : MessageTransaction} : s.reader = .compareSa trans →
      (saField trans.cmd1 : Int) = s.filterSa → Moves s .load (s.decided trans true)
  | storesBus {c : Criteria} : s.writer = .storeBus c →
      Moves s .store { s with filterBus := c.bus, writer := .storeRt c }
  | storesRt {c : Criteria} : s.writer = .storeRt c →
      Moves s .store { s with filterRt := c.rt, writer := .storeSa c }
  | storesSa {c : Criteria} : s.writer = .storeSa c →
      Moves s .store { s with filterSa := c.sa, writer := .storeMc c }
  | storesMc {c : Criteria} : s.writer = .storeMc c →
      Moves s .store { s with filterMc := c.mc, writer := .returned }

/-- **The step function does nothing else.** -/
theorem filterStep_moves {s s' : Filtering} {l : FilterLabel} (hstep : filterStep s l = some s') :
    s.Moves l s' := by
  cases l with
  | load =>
      cases hreader : s.reader with
      | idle =>
          cases htodo : s.toFilter with
          | nil =>
              simp only [filterStep, hreader, htodo] at hstep
              cases hstep
          | cons trans rest =>
              simp only [filterStep, hreader, htodo] at hstep
              split at hstep
              · cases hstep
                exact .called hreader htodo
              · cases hstep
                exact .disabled hreader ‹_› htodo
      | testRt trans =>
          simp only [filterStep, hreader] at hstep
          split at hstep
          · cases hstep
            exact .asksRt hreader ‹_›
          · cases hstep
            exact .anyRt hreader (not_not.mp ‹_›)
      | compareRt trans =>
          simp only [filterStep, hreader] at hstep
          split at hstep
          · cases hstep
            exact .otherRt hreader ‹_›
          · cases hstep
            exact .sameRt hreader (not_not.mp ‹_›)
      | testSa trans =>
          simp only [filterStep, hreader] at hstep
          split at hstep
          · cases hstep
            exact .asksSa hreader ‹_›
          · cases hstep
            exact .anySa hreader (not_not.mp ‹_›)
      | compareSa trans =>
          simp only [filterStep, hreader] at hstep
          split at hstep
          · cases hstep
            exact .otherSa hreader ‹_›
          · cases hstep
            exact .sameSa hreader (not_not.mp ‹_›)
  | store =>
      simp only [filterStep] at hstep
      split at hstep
      · cases hstep
        exact .storesBus ‹_›
      · cases hstep
        exact .storesRt ‹_›
      · cases hstep
        exact .storesSa ‹_›
      · cases hstep
        exact .storesMc ‹_›
      · cases hstep

/-! ## The verdicts of whole criteria -/

/-- A field meets a criterion, -1 being no criterion. -/
def Meets (criterion : Int) (field : Nat) : Prop := criterion = -1 ∨ (field : Int) = criterion

instance (criterion : Int) (field : Nat) : Decidable (Meets criterion field) :=
  inferInstanceAs (Decidable (_ ∨ _))

/-- The verdict of criteria that do not change. -/
def Criteria.verdict (c : Criteria) (trans : MessageTransaction) : Bool := decide (c.AskedMet trans)

/-- It is that of the relay with these criteria set. -/
theorem verdict_eq_passes (s : Relay) (c : Criteria) (trans : MessageTransaction) :
    c.verdict trans = ({ s with
      filterEnabled := true
      filterBus := c.bus
      filterRt := c.rt
      filterSa := c.sa
      filterMc := c.mc } : Relay).passes trans := by
  rw [Bool.eq_iff_iff, passes_enabled]
  exact decide_eq_true_iff

/-- A verdict of the old criteria or of the new: a transaction that meets both is
    relayed, one that meets neither is dropped. -/
structure OfEither (old new : Criteria) (r : MessageTransaction × Bool) : Prop where
  either  : r.2 = old.verdict r.1 ∨ r.2 = new.verdict r.1
  both    : old.AskedMet r.1 → new.AskedMet r.1 → r.2 = true
  neither : ¬old.AskedMet r.1 → ¬new.AskedMet r.1 → r.2 = false

/-- The change takes a criterion back. -/
def Lifts (old new : Int) : Prop := old ≠ -1 ∧ new = -1

instance (old new : Int) : Decidable (Lifts old new) := inferInstanceAs (Decidable (_ ∧ _))

/-- Transactions that meet both criteria, one of which is taken back, and those that
    meet neither, but in each field one of the two. -/
def AtRisk (old new : Criteria) (trans : MessageTransaction) : Prop :=
  (old.AskedMet trans ∧ new.AskedMet trans ∧ (Lifts old.rt new.rt ∨ Lifts old.sa new.sa)) ∨
    (¬old.AskedMet trans ∧ ¬new.AskedMet trans ∧
      (Meets old.rt (rtField trans.cmd1) ∨ Meets new.rt (rtField trans.cmd1)) ∧
      (Meets old.sa (saField trans.cmd1) ∨ Meets new.sa (saField trans.cmd1)))

instance (old new : Criteria) (trans : MessageTransaction) : Decidable (AtRisk old new trans) :=
  inferInstanceAs (Decidable (_ ∨ _))

/-! ## What is behind a verdict -/

/-- The load of a criterion that was not -1 has been made. -/
def Seen (old new now : Int) : Prop := old ≠ -1 ∨ (now = new ∧ new ≠ -1)

/-- The value found is the old one or the new one. -/
def Found (old new now : Int) : Prop := now = old ∨ now = new

/-- A field is passed over when one of the two has no criterion for it, -/
theorem Found.meets_of_any {old new now : Int} (h : Found old new now) (hany : now = -1)
    (field : Nat) : Meets old field ∨ Meets new field := by
  rcases h with rfl | rfl
  · exact Or.inl (Or.inl hany)
  · exact Or.inr (Or.inl hany)

/-- or has the field's value as its criterion. -/
theorem Found.meets_of_eq {old new now : Int} (h : Found old new now) {field : Nat}
    (heq : (field : Int) = now) : Meets old field ∨ Meets new field := by
  rcases h with rfl | rfl
  · exact Or.inl (Or.inr heq)
  · exact Or.inr (Or.inr heq)

/-- The test found a criterion. -/
theorem Found.seen {old new now : Int} (h : Found old new now) (hasked : now ≠ -1) :
    Seen old new now := by
  rcases h with rfl | rfl
  · exact Or.inl hasked
  · exact Or.inr ⟨rfl, hasked⟩

/-- A comparison fails because one of the two criteria does, or because the criterion
    was taken back behind the test. -/
theorem Found.misses {old new now : Int} (h : Found old new now) (hseen : Seen old new now)
    {field : Nat} (hne : (field : Int) ≠ now) :
    (¬Meets old field ∨ ¬Meets new field) ∨ Lifts old new := by
  rcases hseen with hold | ⟨rfl, hnew⟩
  · rcases h with rfl | rfl
    · exact Or.inl (Or.inl fun hmeets => hmeets.elim hold hne)
    · by_cases hlifted : now = -1
      · exact Or.inr ⟨hold, hlifted⟩
      · exact Or.inl (Or.inr fun hmeets => hmeets.elim hlifted hne)
  · exact Or.inl (Or.inr fun hmeets => hmeets.elim hnew hne)

/-- What is behind every verdict: of a transaction relayed each field meets one of the
    two criteria, and one that is dropped misses one of them, or one was taken back. -/
structure Explained (old new : Criteria) (r : MessageTransaction × Bool) : Prop where
  relayed : r.2 = true →
    (Meets old.rt (rtField r.1.cmd1) ∨ Meets new.rt (rtField r.1.cmd1)) ∧
      (Meets old.sa (saField r.1.cmd1) ∨ Meets new.sa (saField r.1.cmd1))
  dropped : r.2 = false →
    (¬old.AskedMet r.1 ∨ ¬new.AskedMet r.1) ∨ Lifts old.rt new.rt ∨ Lifts old.sa new.sa

/-- Verdicts without risk are those of the old criteria or of the new. -/
theorem Explained.ofEither {old new : Criteria} {r : MessageTransaction × Bool}
    (h : Explained old new r) (hrisk : ¬AtRisk old new r.1) : OfEither old new r := by
  obtain ⟨trans, relay⟩ := r
  have hboth : old.AskedMet trans → new.AskedMet trans → relay = true := by
    intro hold hnew
    by_contra hdropped
    rcases h.dropped (Bool.eq_false_iff.mpr hdropped) with (hmiss | hmiss) | hlifts
    · exact hmiss hold
    · exact hmiss hnew
    · exact hrisk (Or.inl ⟨hold, hnew, hlifts⟩)
  have hneither : ¬old.AskedMet trans → ¬new.AskedMet trans → relay = false := by
    intro hold hnew
    by_contra hrelayed
    obtain ⟨hrt, hsa⟩ := h.relayed (Bool.of_not_eq_false hrelayed)
    exact hrisk (Or.inr ⟨hold, hnew, hrt, hsa⟩)
  refine ⟨?_, hboth, hneither⟩
  -- where the two differ any verdict is that of one of them
  show relay = decide (old.AskedMet trans) ∨ relay = decide (new.AskedMet trans)
  by_cases hold : old.AskedMet trans <;> by_cases hnew : new.AskedMet trans
  · exact Or.inl ((hboth hold hnew).trans (decide_eq_true hold).symm)
  · rw [decide_eq_true hold, decide_eq_false hnew]
    exact Bool.eq_false_or_eq_true relay
  · rw [decide_eq_false hold, decide_eq_true hnew]
    exact (Bool.eq_false_or_eq_true relay).symm
  · exact Or.inl ((hneither hold hnew).trans (decide_eq_false hold).symm)

/-! ## Every schedule -/

/-- The criteria a call still has to store. -/
def FilterWriter.criteria : FilterWriter → Option Criteria
  | .storeBus c | .storeRt c | .storeSa c | .storeMc c => some c
  | .returned => none

/-- The transaction the callback was called for. -/
def FilterReader.inHand : FilterReader → List MessageTransaction
  | .idle => []
  | .testRt t | .compareRt t | .testSa t | .compareSa t => [t]

/-- What the loads so far say about the transaction in hand. -/
def Filtering.Knows (old new : Criteria) (s : Filtering) : Prop :=
  match s.reader with
  | .idle | .testRt _ => True
  | .compareRt _ => Seen old.rt new.rt s.filterRt
  | .testSa t => Meets old.rt (rtField t.cmd1) ∨ Meets new.rt (rtField t.cmd1)
  | .compareSa t =>
      (Meets old.rt (rtField t.cmd1) ∨ Meets new.rt (rtField t.cmd1)) ∧
        Seen old.sa new.sa s.filterSa

theorem Seen.of_store {old new now now' : Int} (h : Seen old new now)
    (hnow : now' = now ∨ now' = new) : Seen old new now' := by
  refine h.imp_right fun hseen => ⟨?_, hseen.2⟩
  exact hnow.elim (fun hsame => hsame.trans hseen.1) id

/-- A store takes nothing back that the loads have seen. -/
theorem Filtering.Knows.of_store {old new : Criteria} {s s' : Filtering} (h : s.Knows old new)
    (hreader : s'.reader = s.reader) (hrt : s'.filterRt = s.filterRt ∨ s'.filterRt = new.rt)
    (hsa : s'.filterSa = s.filterSa ∨ s'.filterSa = new.sa) : s'.Knows old new := by
  rw [Filtering.Knows] at h ⊢
  rw [hreader]
  cases hs : s.reader with
  | idle | testRt trans => trivial
  | compareRt trans =>
      rw [hs] at h
      exact h.of_store hrt
  | testSa trans =>
      rw [hs] at h
      exact h
  | compareSa trans =>
      rw [hs] at h
      exact ⟨h.1, h.2.of_store hsa⟩

/-- Between the old criteria and the new. -/
structure Between (old new : Criteria) (s : Filtering) : Prop where
  enabled  : s.filterEnabled = true
  foundRt  : Found old.rt new.rt s.filterRt
  foundSa  : Found old.sa new.sa s.filterSa
  writer   : ∀ c, s.writer.criteria = some c → c = new
  reader   : s.Knows old new
  verdicts : ∀ r ∈ s.verdicts, Explained old new r

theorem between_init (old new : Criteria) (ts : List MessageTransaction) :
    Between old new (Filtering.init old new ts) where
  enabled  := rfl
  foundRt  := Or.inl rfl
  foundSa  := Or.inl rfl
  writer   := fun _ hc => (Option.some.inj hc).symm
  reader   := trivial
  verdicts := fun _ hr => by cases hr

/-- A verdict with the right things behind it. -/
theorem Between.decided {old new : Criteria} {s : Filtering} (h : Between old new s)
    {trans : MessageTransaction} {relay : Bool} (hexplained : Explained old new (trans, relay)) :
    Between old new (s.decided trans relay) where
  enabled  := h.enabled
  foundRt  := h.foundRt
  foundSa  := h.foundSa
  writer   := h.writer
  reader   := trivial
  verdicts := by
    intro r hr
    rcases List.mem_append.mp hr with hold | hnew
    · exact h.verdicts r hold
    · rw [List.mem_singleton.mp hnew]
      exact hexplained

/-- **Step lemma**: a load finds the old value or the new, and a store stores the new. -/
theorem between_step (old new : Criteria) (s : Filtering) (l : FilterLabel) (s' : Filtering)
    (h : Between old new s) (hstep : filterStep s l = some s') : Between old new s' := by
  have hknows := h.reader
  cases filterStep_moves hstep with
  | called => exact ⟨h.enabled, h.foundRt, h.foundSa, h.writer, trivial, h.verdicts⟩
  | disabled _ hdisabled => exact absurd h.enabled hdisabled
  | asksRt hreader hasked =>
      exact ⟨h.enabled, h.foundRt, h.foundSa, h.writer, h.foundRt.seen hasked, h.verdicts⟩
  | anyRt hreader hany =>
      exact ⟨h.enabled, h.foundRt, h.foundSa, h.writer, h.foundRt.meets_of_any hany _, h.verdicts⟩
  | sameRt hreader heq =>
      exact ⟨h.enabled, h.foundRt, h.foundSa, h.writer, h.foundRt.meets_of_eq heq, h.verdicts⟩
  | otherRt hreader hne =>
      rw [Filtering.Knows, hreader] at hknows
      refine h.decided ⟨fun hrelayed => (by cases hrelayed), fun _ => ?_⟩
      exact (h.foundRt.misses hknows hne).imp
        (Or.imp (mt And.left) (mt And.left)) Or.inl
  | asksSa hreader hasked =>
      rw [Filtering.Knows, hreader] at hknows
      exact ⟨h.enabled, h.foundRt, h.foundSa, h.writer, ⟨hknows, h.foundSa.seen hasked⟩, h.verdicts⟩
  | anySa hreader hany =>
      rw [Filtering.Knows, hreader] at hknows
      exact h.decided ⟨fun _ => ⟨hknows, h.foundSa.meets_of_any hany _⟩, fun hno => by cases hno⟩
  | sameSa hreader heq =>
      rw [Filtering.Knows, hreader] at hknows
      exact h.decided ⟨fun _ => ⟨hknows.1, h.foundSa.meets_of_eq heq⟩, fun hno => by cases hno⟩
  | otherSa hreader hne =>
      rw [Filtering.Knows, hreader] at hknows
      refine h.decided ⟨fun hrelayed => (by cases hrelayed), fun _ => ?_⟩
      exact (h.foundSa.misses hknows.2 hne).imp
        (Or.imp (mt And.right) (mt And.right)) Or.inr
  | @storesBus c hwriter =>
      exact ⟨h.enabled, h.foundRt, h.foundSa, fun d hd => h.writer d (by rw [hwriter]; exact hd),
        h.reader.of_store rfl (Or.inl rfl) (Or.inl rfl), h.verdicts⟩
  | @storesRt c hwriter =>
      obtain rfl := h.writer c (by rw [hwriter]; rfl)
      exact ⟨h.enabled, Or.inr rfl, h.foundSa, fun d hd => h.writer d (by rw [hwriter]; exact hd),
        h.reader.of_store rfl (Or.inr rfl) (Or.inl rfl), h.verdicts⟩
  | @storesSa c hwriter =>
      obtain rfl := h.writer c (by rw [hwriter]; rfl)
      exact ⟨h.enabled, h.foundRt, Or.inr rfl, fun d hd => h.writer d (by rw [hwriter]; exact hd),
        h.reader.of_store rfl (Or.inl rfl) (Or.inr rfl), h.verdicts⟩
  | storesMc hwriter =>
      exact ⟨h.enabled, h.foundRt, h.foundSa, fun d hd => (by cases hd),
        h.reader.of_store rfl (Or.inl rfl) (Or.inl rfl), h.verdicts⟩

/-- The verdicts so far, the transaction in hand and the ones to come. -/
def Filtering.traced (s : Filtering) : List MessageTransaction :=
  s.verdicts.map Prod.fst ++ (s.reader.inHand ++ s.toFilter)

theorem traced_decided {s : Filtering} {trans : MessageTransaction} (relay : Bool)
    (hreader : s.reader.inHand = [trans]) : (s.decided trans relay).traced = s.traced := by
  rw [Filtering.traced, Filtering.traced, hreader]
  show (s.verdicts ++ [(trans, relay)]).map Prod.fst ++ ([] ++ s.toFilter) = _
  rw [List.map_append, List.append_assoc]
  rfl

/-- **Step lemma**: every transaction gets one verdict, in order. -/
theorem traced_step {s s' : Filtering} {l : FilterLabel} (hstep : filterStep s l = some s') :
    s'.traced = s.traced := by
  cases filterStep_moves hstep with
  | called hreader htodo =>
      rw [Filtering.traced, Filtering.traced, hreader, htodo]
      rfl
  | @disabled trans rest hreader _ htodo =>
      rw [Filtering.traced, Filtering.traced, hreader, htodo]
      show (s.verdicts ++ [(trans, true)]).map Prod.fst ++ ([] ++ rest) = _
      rw [List.map_append, List.append_assoc]
      rfl
  | asksRt hreader | anyRt hreader | sameRt hreader | asksSa hreader =>
      rw [Filtering.traced, Filtering.traced, hreader]
      rfl
  | otherRt hreader | anySa hreader | otherSa hreader | sameSa hreader =>
      exact traced_decided _ (by rw [hreader]; rfl)
  | storesBus | storesRt | storesSa | storesMc => rfl

/-- What a schedule has decided is an initial part of the sequence. -/
theorem traced_run {old new : Criteria} {ts : List MessageTransaction} {ls : List FilterLabel}
    {s : Filtering} (hrun : run filterStep (Filtering.init old new ts) ls = some s) :
    s.verdicts.map Prod.fst ++ (s.reader.inHand ++ s.toFilter) = ts := by
  have hinv : ∀ t l t', t.traced = ts → filterStep t l = some t' → t'.traced = ts :=
    fun _ _ _ ht hstep => (traced_step hstep).trans ht
  exact run_invariant filterStep hinv ls rfl hrun

/-! ## Schedules that tear the criteria -/

section Loads

variable {s : Filtering} {trans : MessageTransaction}

/-- Loads of the terminal that let a transaction pass. -/
theorem passes_rt (hreader : s.reader = .testRt trans)
    (hmeets : Meets s.filterRt (rtField trans.cmd1)) :
    Reaches filterStep s { s with reader := .testSa trans } := by
  by_cases hany : s.filterRt = -1
  · have htest : filterStep s .load = some { s with reader := .testSa trans } := by
      simp only [filterStep, hreader]
      exact if_neg (not_not.mpr hany)
    exact Reaches.head filterStep htest (Reaches.refl filterStep _)
  · have htest : filterStep s .load = some { s with reader := .compareRt trans } := by
      simp only [filterStep, hreader]
      exact if_pos hany
    have hcompare : filterStep { s with reader := .compareRt trans } .load
        = some { s with reader := .testSa trans } :=
      if_neg (not_not.mpr (hmeets.resolve_left hany))
    exact Reaches.head filterStep htest
      (Reaches.head filterStep hcompare (Reaches.refl filterStep _))

/-- Loads of the terminal that do not. -/
theorem drops_rt (hreader : s.reader = .testRt trans)
    (hmisses : ¬Meets s.filterRt (rtField trans.cmd1)) :
    Reaches filterStep s (s.decided trans false) := by
  rw [Meets, not_or] at hmisses
  have htest : filterStep s .load = some { s with reader := .compareRt trans } := by
    simp only [filterStep, hreader]
    exact if_pos hmisses.1
  have hcompare : filterStep { s with reader := .compareRt trans } .load
      = some (s.decided trans false) := if_pos hmisses.2
  exact Reaches.head filterStep htest (Reaches.head filterStep hcompare (Reaches.refl filterStep _))

/-- Loads of the subaddress. -/
theorem decides_sa (hreader : s.reader = .testSa trans) :
    Reaches filterStep s (s.decided trans (decide (Meets s.filterSa (saField trans.cmd1)))) := by
  by_cases hany : s.filterSa = -1
  · have htest : filterStep s .load = some (s.decided trans true) := by
      simp only [filterStep, hreader]
      exact if_neg (not_not.mpr hany)
    rw [decide_eq_true (show Meets s.filterSa _ from Or.inl hany)]
    exact Reaches.head filterStep htest (Reaches.refl filterStep _)
  · have htest : filterStep s .load = some { s with reader := .compareSa trans } := by
      simp only [filterStep, hreader]
      exact if_pos hany
    have hcompare : filterStep { s with reader := .compareSa trans } .load
        = some (s.decided trans (decide (Meets s.filterSa (saField trans.cmd1)))) := by
      show (if (saField trans.cmd1 : Int) ≠ s.filterSa then some (s.decided trans false)
        else some (s.decided trans true)) = _
      by_cases heq : (saField trans.cmd1 : Int) = s.filterSa
      · rw [if_neg (not_not.mpr heq), decide_eq_true (show Meets s.filterSa _ from Or.inr heq)]
      · rw [if_pos heq, decide_eq_false fun hmeets => hmeets.elim hany heq]
    exact Reaches.head filterStep htest
      (Reaches.head filterStep hcompare (Reaches.refl filterStep _))

theorem relays_sa (hreader : s.reader = .testSa trans)
    (hmeets : Meets s.filterSa (saField trans.cmd1)) :
    Reaches filterStep s (s.decided trans true) := by
  have h := decides_sa hreader
  rw [decide_eq_true hmeets] at h
  exact h

/-- The verdict on the next transaction, when no store falls into it. -/
theorem filters_next {rest : List MessageTransaction} (henabled : s.filterEnabled = true)
    (hreader : s.reader = .idle) (htodo : s.toFilter = trans :: rest) :
    Reaches filterStep s ({ s with toFilter := rest }.decided trans
      (decide (Meets s.filterRt (rtField trans.cmd1) ∧ Meets s.filterSa (saField trans.cmd1)))) := by
  have hcall : filterStep s .load = some { s with reader := .testRt trans, toFilter := rest } := by
    simp only [filterStep, hreader, htodo]
    exact if_pos henabled
  refine Reaches.head filterStep hcall ?_
  by_cases hrt : Meets s.filterRt (rtField trans.cmd1)
  · simp only [hrt, true_and]
    exact Reaches.trans filterStep
      (passes_rt (s := { s with reader := .testRt trans, toFilter := rest }) rfl hrt)
      (decides_sa (s := { s with reader := .testSa trans, toFilter := rest }) rfl)
  · simp only [hrt, false_and, decide_false]
    exact drops_rt (s := { s with reader := .testRt trans, toFilter := rest }) rfl hrt

end Loads

/-- **Undisturbed filtering** gives the verdicts of the criteria in force. -/
theorem filters_all (old new : Criteria) (ts post : List MessageTransaction) :
    ∀ vs, Reaches filterStep { Filtering.init old new (ts ++ post) with verdicts := vs }
      { Filtering.init old new post with
        verdicts := vs ++ ts.map fun trans => (trans, old.verdict trans) } := by
  induction ts with
  | nil =>
      intro vs
      rw [List.map_nil, List.append_nil]
      exact Reaches.refl filterStep _
  | cons trans ts ih =>
      intro vs
      have hrest := ih (vs ++ [(trans, old.verdict trans)])
      rw [List.append_assoc] at hrest
      exact Reaches.trans filterStep (filters_next rfl rfl rfl) hrest

section Torn

variable {old new : Criteria} {trans : MessageTransaction} {post : List MessageTransaction}
  {vs : List (MessageTransaction × Bool)}

/-- The call for the next transaction, in front of its first load. -/
theorem calls_next :
    filterStep { Filtering.init old new (trans :: post) with verdicts := vs } .load
      = some { Filtering.init old new post with reader := .testRt trans, verdicts := vs } := rfl

/-- The stores up to that of the terminal. -/
theorem stores_rt {s : Filtering} {c : Criteria} (hwriter : s.writer = .storeBus c) :
    Reaches filterStep s
      { s with filterBus := c.bus, filterRt := c.rt, writer := .storeSa c } := by
  have hbus : filterStep s .store = some { s with filterBus := c.bus, writer := .storeRt c } := by
    simp only [filterStep, hwriter]
  have hrt : filterStep { s with filterBus := c.bus, writer := .storeRt c } .store
      = some { s with filterBus := c.bus, filterRt := c.rt, writer := .storeSa c } := rfl
  exact Reaches.head filterStep hbus (Reaches.head filterStep hrt (Reaches.refl filterStep _))

/-- The stores up to that of the subaddress. -/
theorem stores_rtSa {s : Filtering} {c : Criteria} (hwriter : s.writer = .storeBus c) :
    Reaches filterStep s { s with
      filterBus := c.bus, filterRt := c.rt, filterSa := c.sa, writer := .storeMc c } := by
  have hsa : filterStep
        { s with filterBus := c.bus, filterRt := c.rt, writer := .storeSa c } .store
      = some { s with
          filterBus := c.bus, filterRt := c.rt, filterSa := c.sa, writer := .storeMc c } := rfl
  exact Reaches.trans filterStep (stores_rt hwriter)
    (Reaches.head filterStep hsa (Reaches.refl filterStep _))

/-- A schedule gives this verdict. -/
def Gives (s : Filtering) (trans : MessageTransaction) (relay : Bool) : Prop :=
  ∃ t, Reaches filterStep s t ∧ (trans, relay) ∈ t.verdicts

theorem gives_of_decided {s t : Filtering} {relay : Bool}
    (h : Reaches filterStep s (t.decided trans relay)) : Gives s trans relay :=
  ⟨_, h, List.mem_append_right _ (List.mem_singleton_self _)⟩

/-- The stores fall between the terminal and the subaddress. -/
theorem gives_old_new (hrt : Meets old.rt (rtField trans.cmd1))
    (hsa : Meets new.sa (saField trans.cmd1)) :
    Gives { Filtering.init old new (trans :: post) with verdicts := vs } trans true := by
  have hpasses := passes_rt (s := { Filtering.init old new post with
    reader := .testRt trans, verdicts := vs }) rfl hrt
  have hstores := stores_rtSa (s := { Filtering.init old new post with
    reader := .testSa trans, verdicts := vs }) (c := new) rfl
  have hrelays := relays_sa (s := { Filtering.init old new post with
    filterBus := new.bus, filterRt := new.rt, filterSa := new.sa, writer := .storeMc new,
    reader := .testSa trans, verdicts := vs }) rfl hsa
  exact gives_of_decided (Reaches.head filterStep calls_next
    (hpasses.trans filterStep (hstores.trans filterStep hrelays)))

/-- The terminal is stored in front of the loads, the subaddress is not. -/
theorem gives_new_old (hrt : Meets new.rt (rtField trans.cmd1))
    (hsa : Meets old.sa (saField trans.cmd1)) :
    Gives { Filtering.init old new (trans :: post) with verdicts := vs } trans true := by
  have hstores := stores_rt (s := { Filtering.init old new post with
    reader := .testRt trans, verdicts := vs }) (c := new) rfl
  have hpasses := passes_rt (s := { Filtering.init old new post with
    filterBus := new.bus, filterRt := new.rt, writer := .storeSa new, reader := .testRt trans,
    verdicts := vs }) rfl hrt
  have hrelays := relays_sa (s := { Filtering.init old new post with
    filterBus := new.bus, filterRt := new.rt, writer := .storeSa new, reader := .testSa trans,
    verdicts := vs }) rfl hsa
  exact gives_of_decided (Reaches.head filterStep calls_next
    (hstores.trans filterStep (hpasses.trans filterStep hrelays)))

/-- The terminal is taken back between its two loads. -/
theorem gives_lifted_rt (hlifts : Lifts old.rt new.rt) :
    Gives { Filtering.init old new (trans :: post) with verdicts := vs } trans false := by
  have htest : filterStep { Filtering.init old new post with
        reader := .testRt trans, verdicts := vs } .load
      = some { Filtering.init old new post with reader := .compareRt trans, verdicts := vs } :=
    if_pos hlifts.1
  have hstores := stores_rt (s := { Filtering.init old new post with
    reader := .compareRt trans, verdicts := vs }) (c := new) rfl
  -- no field is -1
  have hne : (rtField trans.cmd1 : Int) ≠ new.rt := by
    rw [hlifts.2]
    omega
  have hcompare : filterStep { Filtering.init old new post with
        filterBus := new.bus, filterRt := new.rt, writer := .storeSa new,
        reader := .compareRt trans, verdicts := vs } .load
      = some (Filtering.decided { Filtering.init old new post with
        filterBus := new.bus, filterRt := new.rt, writer := .storeSa new,
        reader := .compareRt trans, verdicts := vs } trans false) := if_pos hne
  exact gives_of_decided (Reaches.head filterStep calls_next (Reaches.head filterStep htest
    (hstores.trans filterStep (Reaches.head filterStep hcompare (Reaches.refl filterStep _)))))

/-- The subaddress is taken back between its two loads. -/
theorem gives_lifted_sa (hrt : Meets old.rt (rtField trans.cmd1)) (hlifts : Lifts old.sa new.sa) :
    Gives { Filtering.init old new (trans :: post) with verdicts := vs } trans false := by
  have hpasses := passes_rt (s := { Filtering.init old new post with
    reader := .testRt trans, verdicts := vs }) rfl hrt
  have htest : filterStep { Filtering.init old new post with
        reader := .testSa trans, verdicts := vs } .load
      = some { Filtering.init old new post with reader := .compareSa trans, verdicts := vs } :=
    if_pos hlifts.1
  have hstores := stores_rtSa (s := { Filtering.init old new post with
    reader := .compareSa trans, verdicts := vs }) (c := new) rfl
  have hne : (saField trans.cmd1 : Int) ≠ new.sa := by
    rw [hlifts.2]
    omega
  have hcompare : filterStep { Filtering.init old new post with
        filterBus := new.bus, filterRt := new.rt, filterSa := new.sa, writer := .storeMc new,
        reader := .compareSa trans, verdicts := vs } .load
      = some (Filtering.decided { Filtering.init old new post with
        filterBus := new.bus, filterRt := new.rt, filterSa := new.sa, writer := .storeMc new,
        reader := .compareSa trans, verdicts := vs } trans false) := if_pos hne
  exact gives_of_decided (Reaches.head filterStep calls_next (hpasses.trans filterStep
    (Reaches.head filterStep htest (hstores.trans filterStep
      (Reaches.head filterStep hcompare (Reaches.refl filterStep _))))))

/-- **Every risk is real**: a schedule gives a verdict of neither criteria. -/
theorem gives_ofNeither (hrisk : AtRisk old new trans) :
    ∃ relay, Gives { Filtering.init old new (trans :: post) with verdicts := vs } trans relay ∧
      ¬OfEither old new (trans, relay) := by
  rcases hrisk with ⟨hold, hnew, hlifts⟩ | ⟨hold, hnew, hrt, hsa⟩
  · have hgives : Gives { Filtering.init old new (trans :: post) with verdicts := vs } trans
        false := hlifts.elim gives_lifted_rt (gives_lifted_sa hold.1)
    exact ⟨false, hgives, fun h => by cases h.both hold hnew⟩
  · have hgives : Gives { Filtering.init old new (trans :: post) with verdicts := vs } trans
        true := by
      rcases hrt with hrt | hrt
      · exact gives_old_new hrt (hsa.resolve_left fun hsa => hold ⟨hrt, hsa⟩)
      · exact gives_new_old hrt (hsa.resolve_right fun hsa => hnew ⟨hrt, hsa⟩)
    exact ⟨true, hgives, fun h => by cases h.neither hold hnew⟩

end Torn

/-- **When every verdict is of the old or of the new criteria.**  For all old and new
    criteria and all transactions, the verdicts of every schedule are, exactly when no
    transaction is at risk. -/
theorem verdicts_iff (old new : Criteria) (ts : List MessageTransaction) :
    (∀ ls s, run filterStep (Filtering.init old new ts) ls = some s →
        ∀ r ∈ s.verdicts, OfEither old new r)
      ↔ ∀ trans ∈ ts, ¬AtRisk old new trans := by
  constructor
  · intro hall trans hin hrisk
    -- undisturbed up to this transaction, torn there
    obtain ⟨pre, post, rfl⟩ := List.append_of_mem hin
    have hpre := filters_all old new pre (trans :: post) []
    obtain ⟨relay, hgives, hneither⟩ := gives_ofNeither hrisk
    obtain ⟨t, htorn, hmem⟩ := hgives
    obtain ⟨ls, hrun⟩ := Reaches.trans filterStep hpre htorn
    exact hneither (hall ls t hrun _ hmem)
  · intro hsafe ls s hrun r hr
    have hbetween := run_invariant filterStep (between_step old new) ls (between_init old new ts) hrun
    refine (hbetween.verdicts r hr).ofEither (hsafe r.1 ?_)
    rw [← traced_run hrun]
    exact List.mem_append_left _ (List.mem_map_of_mem hr)

/-- Terminal 6 with subaddress 1. -/
def rt6sa1 : MessageTransaction := decodeFrame (headerPacket 0x00 0x06 0x01 0x01)

/-- From terminal 5, subaddress 1, to terminal 6, subaddress 2: the load of the
    terminal finds 6 and that of the subaddress 1. -/
theorem torn_criteria_relay :
    ¬∀ (old new : Criteria) (ts : List MessageTransaction) (ls : List FilterLabel) (s : Filtering),
      run filterStep (Filtering.init old new ts) ls = some s →
        ∀ r ∈ s.verdicts, OfEither old new r := by
  intro hall
  have hneither := (hall ⟨'A', 5, 1, -1⟩ ⟨'A', 6, 2, -1⟩ [rt6sa1]
    [.load, .store, .store, .load, .load, .load, .load] _ rfl (rt6sa1, true)
    List.mem_cons_self).neither
  exact absurd (hneither (by decide) (by decide)) (by decide)

/-! ## Changes that put nothing at risk -/

/-- A field value that meets one criterion and not the other. -/
theorem exists_field_between {c d : Int} (hc : Meetable c) (hne : c ≠ d) (hd : d ≠ -1) :
    ∃ n < 32, Meets c n ∧ ¬Meets d n := by
  have hmisses : ∀ n : Nat, (n : Int) ≠ d → ¬Meets d n := fun n hn hmeets => hmeets.elim hd hn
  rcases hc with rfl | ⟨h0, h32⟩
  · -- any value but the one asked for
    by_cases hzero : d = 0
    · exact ⟨1, by decide, Or.inl rfl, hmisses 1 (by rw [hzero]; decide)⟩
    · exact ⟨0, by decide, Or.inl rfl, hmisses 0 fun h => hzero h.symm⟩
  · have hcast : (c.toNat : Int) = c := Int.toNat_of_nonneg h0
    exact ⟨c.toNat, by omega, Or.inr hcast, hmisses _ fun h => hne (hcast.symm.trans h)⟩

/-- A field value that meets a criterion, and meets it when it has been kept or taken back. -/
theorem exists_field_both {c d : Int} (hc : Meetable c) (h : c = d ∨ d = -1) :
    ∃ n < 32, Meets c n ∧ Meets d n := by
  have hkept : ∀ n, Meets c n → Meets d n := by
    intro n hmeets
    rcases h with rfl | hany
    · exact hmeets
    · exact Or.inl hany
  rcases hc with hany | ⟨h0, h32⟩
  · exact ⟨0, by decide, Or.inl hany, hkept 0 (Or.inl hany)⟩
  · have hmeets : Meets c c.toNat := Or.inr (Int.toNat_of_nonneg h0)
    exact ⟨c.toNat, by omega, hmeets, hkept _ hmeets⟩

/-- There is traffic for every terminal and subaddress. -/
theorem exists_transaction {rt sa : Nat} (hrt : rt < 32) (hsa : sa < 32) :
    ∃ trans : MessageTransaction, rtField trans.cmd1 = rt ∧ saField trans.cmd1 = sa := by
  have hbyte : ∀ n < 32, (UInt8.ofNat n).toNat = n := by
    intro n hn
    rw [UInt8.toNat_ofNat', Nat.mod_eq_of_lt (by omega)]
  have hrtByte := hbyte rt hrt
  have hsaByte := hbyte sa hsa
  refine ⟨{ cmd1 := commandWord (UInt8.ofNat rt) false (UInt8.ofNat sa) 1 }, ?_, ?_⟩
  · show rtField (commandWord _ false _ 1) = rt
    rw [rtField_commandWord (by omega), hrtByte, Nat.mod_eq_of_lt hrt]
  · show saField (commandWord _ false _ 1) = sa
    rw [saField_commandWord (by omega), hsaByte]

section Changes

variable {old new : Criteria}

/-- Traffic with the terminal of the old criteria only and the subaddress of the new
    ones only is at risk, -/
theorem atRisk_old_new {trans : MessageTransaction}
    (hrt : Meets old.rt (rtField trans.cmd1) ∧ ¬Meets new.rt (rtField trans.cmd1))
    (hsa : Meets new.sa (saField trans.cmd1) ∧ ¬Meets old.sa (saField trans.cmd1)) :
    AtRisk old new trans :=
  Or.inr ⟨fun h => hsa.2 h.2, fun h => hrt.2 h.1, Or.inl hrt.1, Or.inr hsa.1⟩

/-- and so is traffic the other way round. -/
theorem atRisk_new_old {trans : MessageTransaction}
    (hrt : Meets new.rt (rtField trans.cmd1) ∧ ¬Meets old.rt (rtField trans.cmd1))
    (hsa : Meets old.sa (saField trans.cmd1) ∧ ¬Meets new.sa (saField trans.cmd1)) :
    AtRisk old new trans :=
  Or.inr ⟨fun h => hrt.2 h.1, fun h => hsa.2 h.2, Or.inr hrt.1, Or.inl hsa.1⟩

/-- A change that takes a criterion back puts traffic of both at risk, unless it sets
    the other one. -/
theorem exists_atRisk_of_lifts (hrt : Meetable old.rt) (hsa : Meetable old.sa)
    (hlifts : Lifts old.rt new.rt ∨ Lifts old.sa new.sa) (hrtKept : old.rt = new.rt ∨ new.rt = -1)
    (hsaKept : old.sa = new.sa ∨ new.sa = -1) : ∃ trans, AtRisk old new trans := by
  obtain ⟨rt, hrt32, hrtOld, hrtNew⟩ := exists_field_both hrt hrtKept
  obtain ⟨sa, hsa32, hsaOld, hsaNew⟩ := exists_field_both hsa hsaKept
  obtain ⟨trans, rfl, rfl⟩ := exists_transaction hrt32 hsa32
  exact ⟨trans, Or.inl ⟨⟨hrtOld, hsaOld⟩, ⟨hrtNew, hsaNew⟩, hlifts⟩⟩

/-- Traffic of a mixture: the terminal is asked for by the old criteria only, the
    subaddress by the new ones only. -/
theorem exists_mixture (hrt : Meetable old.rt) (hsa : Meetable new.sa) (hrtNe : old.rt ≠ new.rt)
    (hsaNe : new.sa ≠ old.sa) (hrtAsked : new.rt ≠ -1) (hsaAsked : old.sa ≠ -1) :
    ∃ trans : MessageTransaction,
      (Meets old.rt (rtField trans.cmd1) ∧ ¬Meets new.rt (rtField trans.cmd1)) ∧
        (Meets new.sa (saField trans.cmd1) ∧ ¬Meets old.sa (saField trans.cmd1)) := by
  obtain ⟨rt, hrt32, hrtFields⟩ := exists_field_between hrt hrtNe hrtAsked
  obtain ⟨sa, hsa32, hsaFields⟩ := exists_field_between hsa hsaNe hsaAsked
  obtain ⟨trans, rfl, rfl⟩ := exists_transaction hrt32 hsa32
  exact ⟨trans, hrtFields, hsaFields⟩

/-- A change of one field that takes no criterion back puts nothing at risk. -/
theorem not_atRisk_of_same (hkept : ¬(Lifts old.rt new.rt ∨ Lifts old.sa new.sa))
    (hsame : old.sa = new.sa ∨ old.rt = new.rt) (trans : MessageTransaction) :
    ¬AtRisk old new trans := by
  rintro (⟨-, -, hlifts⟩ | ⟨hold, hnew, hrt, hsa⟩)
  · exact hkept hlifts
  · -- the field that stays meets both, so the other one decides
    rcases hsame with hsame | hsame
    · rw [hsame, or_self] at hsa
      exact hrt.elim (fun h => hold ⟨h, hsame ▸ hsa⟩) (fun h => hnew ⟨h, hsa⟩)
    · rw [hsame, or_self] at hrt
      exact hsa.elim (fun h => hold ⟨hsame ▸ hrt, h⟩) (fun h => hnew ⟨hrt, h⟩)

theorem not_lifts_of_eq {c d : Int} (h : c = d) : ¬Lifts c d := fun hlifts =>
  hlifts.1 (h.trans hlifts.2)

/-- **Which changes put nothing at risk**: from no criteria to any, and changes of one
    field that do not take its criterion back. -/
theorem safeChange_iff (hrt : Meetable old.rt) (hsa : Meetable old.sa) (hrt' : Meetable new.rt)
    (hsa' : Meetable new.sa) :
    (∀ trans, ¬AtRisk old new trans) ↔
      (old.rt = -1 ∧ old.sa = -1) ∨ (old.sa = new.sa ∧ ¬Lifts old.rt new.rt) ∨
        (old.rt = new.rt ∧ ¬Lifts old.sa new.sa) := by
  constructor
  · intro hsafe
    have hnone : ¬∃ trans, AtRisk old new trans := not_exists.mpr hsafe
    by_cases hsame : old.sa = new.sa
    · refine Or.inr (Or.inl ⟨hsame, fun hlifts => hnone ?_⟩)
      exact exists_atRisk_of_lifts hrt hsa (Or.inl hlifts) (Or.inr hlifts.2) (Or.inl hsame)
    by_cases hsame' : old.rt = new.rt
    · refine Or.inr (Or.inr ⟨hsame', fun hlifts => hnone ?_⟩)
      exact exists_atRisk_of_lifts hrt hsa (Or.inr hlifts) (Or.inl hsame') (Or.inr hlifts.2)
    -- both fields change: either mixture has to be excluded
    have hfirst : new.rt = -1 ∨ old.sa = -1 := by
      by_contra h
      obtain ⟨hnew, hold⟩ := not_or.mp h
      obtain ⟨trans, hrtFields, hsaFields⟩ :=
        exists_mixture hrt hsa' hsame' (Ne.symm hsame) hnew hold
      exact hnone ⟨trans, atRisk_old_new hrtFields hsaFields⟩
    have hsecond : old.rt = -1 ∨ new.sa = -1 := by
      by_contra h
      obtain ⟨hold, hnew⟩ := not_or.mp h
      obtain ⟨trans, hrtFields, hsaFields⟩ :=
        exists_mixture hrt' hsa (Ne.symm hsame') hsame hold hnew
      exact hnone ⟨trans, atRisk_new_old hrtFields hsaFields⟩
    rcases hfirst with hnewRt | holdSa
    · have holdRt : old.rt ≠ -1 := fun h => hsame' (h.trans hnewRt.symm)
      have hnewSa : new.sa = -1 := hsecond.resolve_left holdRt
      -- both are taken back
      exact absurd (exists_atRisk_of_lifts hrt hsa (Or.inl ⟨holdRt, hnewRt⟩) (Or.inr hnewRt)
        (Or.inr hnewSa)) hnone
    · have hnewSa : new.sa ≠ -1 := fun h => hsame (holdSa.trans h.symm)
      exact Or.inl ⟨hsecond.resolve_right hnewSa, holdSa⟩
  · rintro (⟨hrtAny, hsaAny⟩ | ⟨hsame, hkept⟩ | ⟨hsame, hkept⟩) trans hrisk
    · rcases hrisk with ⟨-, -, hlifts⟩ | ⟨hold, -, -, -⟩
      · exact hlifts.elim (fun h => h.1 hrtAny) (fun h => h.1 hsaAny)
      · exact hold ⟨Or.inl hrtAny, Or.inl hsaAny⟩
    · exact not_atRisk_of_same (fun h => h.elim hkept (not_lifts_of_eq hsame)) (Or.inl hsame)
        trans hrisk
    · exact not_atRisk_of_same (fun h => h.elim (not_lifts_of_eq hsame) hkept) (Or.inr hsame)
        trans hrisk

end Changes

end TcpRelay
