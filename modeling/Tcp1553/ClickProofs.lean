import Tcp1553.TreeProofs
import Tcp1553.VerdictProofs

/-! # A click in the tree while transactions are filtered

    `onTreeItemClicked` stores the four criteria and then `m_filterEnabled`, and the
    callback of the monitor thread may load between any two of these stores.

    With the filter off it loads no criterion before all are stored, so that the filter
    changes at one moment, the store of `m_filterEnabled`.  With the filter on, it may see
    a part of either item; `click_safe_iff` says from which items to which others that
    does no harm. -/

namespace TcpView

open LabelledRuns TcpWire TcpParser TcpHeader TcpRelay

/-! ## The stores of a click -/

/-- The next load of the callback, the next store of `setFilterCriteria`, or the one of
    `enableFilter` behind them. -/
inductive ClickLabel where
  | load
  | store
  | enable
  deriving DecidableEq, Repr

/-- The filter during a click; `enabling` says that `enableFilter(true)` is to come. -/
structure Clicked where
  filtering : Filtering
  enabling  : Bool
  deriving DecidableEq, Repr

/-- The old criteria are stored, the callback has no transaction. -/
def Clicked.init (enabled : Bool) (old new : Criteria) (ts : List MessageTransaction) : Clicked where
  filtering := { Filtering.init old new ts with filterEnabled := enabled }
  enabling  := true

/-- The interleaving of the callback with the click. -/
def clickStep (s : Clicked) : ClickLabel → Option Clicked
  | .load => (filterStep s.filtering .load).map fun filtering => { s with filtering }
  | .store => (filterStep s.filtering .store).map fun filtering => { s with filtering }
  | .enable =>
      if s.filtering.writer = .returned ∧ s.enabling = true then
        some { filtering := { s.filtering with filterEnabled := true }, enabling := false }
      else none

/-- What a step does: one of the filter, or the last store. -/
theorem clickStep_cases {s s' : Clicked} {l : ClickLabel} (hstep : clickStep s l = some s') :
    (∃ m f, l = (match m with | .load => .load | .store => .store) ∧
        filterStep s.filtering m = some f ∧ s' = { s with filtering := f }) ∨
      (l = .enable ∧ s.filtering.writer = .returned ∧
        s' = { filtering := { s.filtering with filterEnabled := true }, enabling := false }) := by
  cases l with
  | load =>
      obtain ⟨f, hf, rfl⟩ := Option.map_eq_some_iff.mp hstep
      exact Or.inl ⟨.load, f, rfl, hf, rfl⟩
  | store =>
      obtain ⟨f, hf, rfl⟩ := Option.map_eq_some_iff.mp hstep
      exact Or.inl ⟨.store, f, rfl, hf, rfl⟩
  | enable =>
      rw [clickStep] at hstep
      split at hstep
      · rename_i hlast
        cases hstep
        exact Or.inr ⟨rfl, hlast.1, rfl⟩
      · cases hstep

/-! ## The filter was off -/

/-- The criteria stored so far are the new ones. -/
def Stored (new : Criteria) (s : Filtering) : Prop :=
  match s.writer with
  | .storeBus c | .storeRt c => c = new
  | .storeSa c => c = new ∧ s.filterRt = new.rt
  | .storeMc c => c = new ∧ s.filterRt = new.rt ∧ s.filterSa = new.sa
  | .returned => s.filterRt = new.rt ∧ s.filterSa = new.sa

/-- While the filter is off everything is relayed; behind the verdicts there were when it
    was switched on, the new criteria decide. -/
structure Switched (new : Criteria) (before : List (MessageTransaction × Bool)) (s : Filtering) :
    Prop where
  off : s.filterEnabled = false → ∀ r ∈ s.verdicts, r.2 = true
  on  : s.filterEnabled = true → ∃ after, s.verdicts = before ++ after ∧
    ∀ r ∈ after, r.2 = new.verdict r.1

/-- The invariant of a click with the filter off: the callback has no transaction
    before all is stored. -/
structure Switching (new : Criteria) (before : List (MessageTransaction × Bool)) (s : Filtering) :
    Prop where
  stored   : Stored new s
  off      : s.filterEnabled = false → s.reader = .idle
  on       : s.filterEnabled = true → s.writer = .returned
  reader   : s.Knows new new
  verdicts : Switched new before s

theorem switching_init (old new : Criteria) (ts : List MessageTransaction) :
    Switching new [] { Filtering.init old new ts with filterEnabled := false } where
  stored   := rfl
  off      := fun _ => rfl
  on       := fun h => by cases h
  reader   := trivial
  verdicts := ⟨fun _ _ hr => (by cases hr), fun hon => by cases hon⟩

section Switching

variable {new : Criteria} {before : List (MessageTransaction × Bool)} {s s' : Filtering}

/-- A callback with a transaction finds all criteria stored. -/
theorem Switching.found (h : Switching new before s) (hbusy : s.reader ≠ .idle) :
    s.filterEnabled = true ∧ Found new.rt new.rt s.filterRt ∧ Found new.sa new.sa s.filterSa := by
  have henabled : s.filterEnabled = true := by
    by_contra hoff
    exact hbusy (h.off (Bool.eq_false_iff.mpr hoff))
  have hstored := h.stored
  rw [Stored, h.on henabled] at hstored
  exact ⟨henabled, Or.inl hstored.1, Or.inl hstored.2⟩

/-- It goes on to its next load. -/
theorem Switching.goesOn (h : Switching new before s)
    (hbusy : s.reader ≠ .idle) (reader : FilterReader)
    (hknows : Filtering.Knows new new { s with reader := reader }) :
    Switching new before { s with reader := reader } where
  stored   := h.stored
  off      := fun hoff => absurd ((h.found hbusy).1.symm.trans hoff) Bool.noConfusion
  on       := h.on
  reader   := hknows
  verdicts := ⟨h.verdicts.off, h.verdicts.on⟩

/-- It decides as the new criteria do. -/
theorem Switching.decides (h : Switching new before s)
    (hbusy : s.reader ≠ .idle) {trans : MessageTransaction} {relay : Bool}
    (hexplained : Explained new new (trans, relay)) :
    Switching new before (s.decided trans relay) := by
  have henabled := (h.found hbusy).1
  have hverdict : relay = new.verdict trans := by
    have hkept : ¬(Lifts new.rt new.rt ∨ Lifts new.sa new.sa) :=
      not_or.mpr ⟨not_lifts_of_eq rfl, not_lifts_of_eq rfl⟩
    have hrisk : ¬AtRisk new new trans := not_atRisk_of_same hkept (Or.inl rfl) trans
    exact or_self_iff.mp (hexplained.ofEither hrisk).either
  obtain ⟨after, heq, hafter⟩ := h.verdicts.on henabled
  refine ⟨h.stored, fun _ => rfl, h.on, trivial, fun hoff => ?_, fun _ => ?_⟩
  · exact absurd (henabled.symm.trans hoff) Bool.noConfusion
  · refine ⟨after ++ [(trans, relay)], ?_, fun r hr => ?_⟩
    · show s.verdicts ++ [(trans, relay)] = _
      rw [heq, List.append_assoc]
    · rcases List.mem_append.mp hr with hold | hnew
      · exact hafter r hold
      · rw [List.mem_singleton.mp hnew]
        exact hverdict

/-- While the filter is off, everything is relayed. -/
theorem Switching.relays (h : Switching new before s) (hoff : s.filterEnabled = false)
    (hstep : filterStep s .load = some s') : Switching new before s' := by
  have hidle := h.off hoff
  cases htodo : s.toFilter with
  | nil =>
      simp only [filterStep, hidle, htodo] at hstep
      cases hstep
  | cons trans rest =>
      simp only [filterStep, hidle, htodo, hoff, Bool.false_eq_true, if_false] at hstep
      cases hstep
      refine ⟨h.stored, fun _ => rfl, fun hon => (by cases hon), trivial, fun _ r hr => ?_,
        fun hon => by cases hon⟩
      rcases List.mem_append.mp hr with hold | hnew
      · exact h.verdicts.off hoff r hold
      · rw [List.mem_singleton.mp hnew]

/-- A store finds the callback without a transaction. -/
theorem Switching.stores (h : Switching new before s)
    (hpending : s.writer ≠ .returned) (hstored : Stored new s') (hreader : s'.reader = s.reader)
    (henabled : s'.filterEnabled = s.filterEnabled) (hverdicts : s'.verdicts = s.verdicts) :
    Switching new before s' := by
  have hoff : s.filterEnabled = false := by
    by_contra hon
    exact hpending (h.on (Bool.of_not_eq_false hon))
  have hidle := h.off hoff
  refine ⟨hstored, fun _ => hreader.trans hidle, fun hon => ?_, ?_, ?_, ?_⟩
  · exact absurd (hoff.symm.trans (henabled.symm.trans hon)) Bool.noConfusion
  · rw [Filtering.Knows, hreader, hidle]
    trivial
  · rw [hverdicts, henabled]
    exact h.verdicts.off
  · rw [hverdicts, henabled]
    exact h.verdicts.on

/-- **Step lemma** for the filter. -/
theorem switching_filterStep {l : FilterLabel} (h : Switching new before s)
    (hstep : filterStep s l = some s') : Switching new before s' := by
  have hknows := h.reader
  have hstored := h.stored
  cases filterStep_moves hstep with
  | called hidle htodo =>
      by_cases hoff : s.filterEnabled = false
      · exact h.relays hoff hstep
      · exact ⟨hstored, fun hoff' => absurd hoff' hoff, h.on, trivial, h.verdicts.off,
          h.verdicts.on⟩
  | disabled _ hdisabled _ => exact h.relays (Bool.eq_false_iff.mpr hdisabled) hstep
  | asksRt hreader hasked =>
      have hbusy : s.reader ≠ .idle := hreader.trans_ne FilterReader.noConfusion
      exact h.goesOn hbusy _ ((h.found hbusy).2.1.seen hasked)
  | anyRt hreader hany =>
      have hbusy : s.reader ≠ .idle := hreader.trans_ne FilterReader.noConfusion
      exact h.goesOn hbusy _ ((h.found hbusy).2.1.meets_of_any hany _)
  | sameRt hreader heq =>
      have hbusy : s.reader ≠ .idle := hreader.trans_ne FilterReader.noConfusion
      exact h.goesOn hbusy _ ((h.found hbusy).2.1.meets_of_eq heq)
  | otherRt hreader hne =>
      have hbusy : s.reader ≠ .idle := hreader.trans_ne FilterReader.noConfusion
      rw [Filtering.Knows, hreader] at hknows
      refine h.decides hbusy ⟨fun hrelayed => (by cases hrelayed), fun _ => ?_⟩
      exact ((h.found hbusy).2.1.misses hknows hne).imp
        (Or.imp (mt And.left) (mt And.left)) Or.inl
  | asksSa hreader hasked =>
      have hbusy : s.reader ≠ .idle := hreader.trans_ne FilterReader.noConfusion
      rw [Filtering.Knows, hreader] at hknows
      exact h.goesOn hbusy _ ⟨hknows, (h.found hbusy).2.2.seen hasked⟩
  | anySa hreader hany =>
      have hbusy : s.reader ≠ .idle := hreader.trans_ne FilterReader.noConfusion
      rw [Filtering.Knows, hreader] at hknows
      exact h.decides hbusy
        ⟨fun _ => ⟨hknows, (h.found hbusy).2.2.meets_of_any hany _⟩, fun hno => by cases hno⟩
  | sameSa hreader heq =>
      have hbusy : s.reader ≠ .idle := hreader.trans_ne FilterReader.noConfusion
      rw [Filtering.Knows, hreader] at hknows
      exact h.decides hbusy
        ⟨fun _ => ⟨hknows.1, (h.found hbusy).2.2.meets_of_eq heq⟩, fun hno => by cases hno⟩
  | otherSa hreader hne =>
      have hbusy : s.reader ≠ .idle := hreader.trans_ne FilterReader.noConfusion
      rw [Filtering.Knows, hreader] at hknows
      refine h.decides hbusy ⟨fun hrelayed => (by cases hrelayed), fun _ => ?_⟩
      exact ((h.found hbusy).2.2.misses hknows.2 hne).imp
        (Or.imp (mt And.right) (mt And.right)) Or.inr
  | storesBus hwriter =>
      rw [Stored, hwriter] at hstored
      exact h.stores (hwriter.trans_ne FilterWriter.noConfusion) hstored rfl rfl rfl
  | @storesRt c hwriter =>
      rw [Stored, hwriter] at hstored
      have hrt : c = new ∧ c.rt = new.rt := ⟨hstored, congrArg Criteria.rt hstored⟩
      exact h.stores (hwriter.trans_ne FilterWriter.noConfusion) hrt rfl rfl rfl
  | @storesSa c hwriter =>
      rw [Stored, hwriter] at hstored
      have hsa : c = new ∧ s.filterRt = new.rt ∧ c.sa = new.sa :=
        ⟨hstored.1, hstored.2, congrArg Criteria.sa hstored.1⟩
      exact h.stores (hwriter.trans_ne FilterWriter.noConfusion) hsa rfl rfl rfl
  | storesMc hwriter =>
      rw [Stored, hwriter] at hstored
      exact h.stores (hwriter.trans_ne FilterWriter.noConfusion) hstored.2 rfl rfl rfl

/-- **The last store**: from here on the new criteria decide. -/
theorem Switching.enable (h : Switching new before s) (hwriter : s.writer = .returned) :
    Switching new s.verdicts { s with filterEnabled := true } where
  stored   := h.stored
  off      := fun hoff => by cases hoff
  on       := fun _ => hwriter
  reader   := h.reader
  verdicts := ⟨fun hoff => (by cases hoff),
    fun _ => ⟨[], (List.append_nil _).symm, fun _ hr => by cases hr⟩⟩

end Switching

theorem filterEnabled_step {s s' : Filtering} {l : FilterLabel} (hstep : filterStep s l = some s') :
    s'.filterEnabled = s.filterEnabled := by
  cases filterStep_moves hstep <;> rfl

/-- A click up to its last store: everything is relayed. -/
theorem switching_before {new : Criteria} {ms : List ClickLabel} (hms : .enable ∉ ms) :
    ∀ {s u : Clicked}, Switching new [] s.filtering ∧ s.filtering.filterEnabled = false →
      run clickStep s ms = some u →
        Switching new [] u.filtering ∧ u.filtering.filterEnabled = false := by
  induction ms with
  | nil =>
      intro s u h hrun
      cases hrun
      exact h
  | cons l ms ih =>
      intro s u h hrun
      obtain ⟨hl, hrest⟩ := not_or.mp (mt List.mem_cons.mpr hms)
      obtain ⟨s', hstep, hrun'⟩ := run_cons_inv clickStep hrun
      refine ih hrest ?_ hrun'
      rcases clickStep_cases hstep with ⟨m, f, -, hf, rfl⟩ | ⟨henable, -, -⟩
      · exact ⟨switching_filterStep h.1 hf, (filterEnabled_step hf).trans h.2⟩
      · exact absurd henable.symm hl

/-- **Step lemma** behind the last store, which is made once. -/
theorem switching_behind {new : Criteria} {before : List (MessageTransaction × Bool)}
    (s : Clicked) (l : ClickLabel) (s' : Clicked)
    (h : (Switching new before s.filtering ∧ s.filtering.filterEnabled = true) ∧
      s.enabling = false) (hstep : clickStep s l = some s') :
    (Switching new before s'.filtering ∧ s'.filtering.filterEnabled = true) ∧
      s'.enabling = false := by
  rcases clickStep_cases hstep with ⟨m, f, -, hf, rfl⟩ | ⟨rfl, -, -⟩
  · exact ⟨⟨switching_filterStep h.1.1 hf, (filterEnabled_step hf).trans h.1.2⟩, h.2⟩
  · obtain ⟨⟨-, henabling⟩, -⟩ := Option.ite_none_right_eq_some.mp hstep
    exact absurd (h.2.symm.trans henabling) Bool.noConfusion

/-- **A click with the filter off**: what is decided before the store of `m_filterEnabled` is
    relayed, and behind it the item clicked decides. -/
theorem click_switches {old new : Criteria} {ts : List MessageTransaction} {ms : List ClickLabel}
    {u : Clicked} (hrun : run clickStep (Clicked.init false old new ts) ms = some u)
    (hms : .enable ∉ ms) :
    (∀ r ∈ u.filtering.verdicts, r.2 = true) ∧
      ∀ ns s, run clickStep u (.enable :: ns) = some s →
        ∃ after, s.filtering.verdicts = u.filtering.verdicts ++ after ∧
          ∀ r ∈ after, r.2 = new.verdict r.1 := by
  obtain ⟨hswitching, hoff⟩ := switching_before hms ⟨switching_init old new ts, rfl⟩ hrun
  refine ⟨hswitching.verdicts.off hoff, fun ns s hrun' => ?_⟩
  obtain ⟨v, hstep, hrest⟩ := run_cons_inv clickStep hrun'
  obtain ⟨⟨hwriter, -⟩, heq⟩ := Option.ite_none_right_eq_some.mp hstep
  cases heq
  have hlast : (Switching new u.filtering.verdicts s.filtering ∧
      s.filtering.filterEnabled = true) ∧ s.enabling = false :=
    run_invariant clickStep switching_behind ns ⟨⟨hswitching.enable hwriter, rfl⟩, rfl⟩ hrest
  exact hlast.1.1.verdicts.on hlast.1.2

/-! ## The filter was on -/

/-- The last store changes nothing, so a click is `setFilterCriteria`. -/
theorem click_filters {old new : Criteria} {ts : List MessageTransaction} {ls : List ClickLabel}
    {s : Clicked} (hrun : run clickStep (Clicked.init true old new ts) ls = some s) :
    Reaches filterStep (Filtering.init old new ts) s.filtering := by
  let own : ClickLabel → Option FilterLabel
    | .load => some .load
    | .store => some .store
    | .enable => none
  have hstep : ∀ s l s' f, (s.filtering = f ∧ f.filterEnabled = true) → clickStep s l = some s' →
      ∃ f', run filterStep f (own l).toList = some f' ∧ s'.filtering = f' ∧
        f'.filterEnabled = true := by
    rintro s l s' f ⟨rfl, hon⟩ hl
    rcases clickStep_cases hl with ⟨m, f', rfl, hf', rfl⟩ | ⟨rfl, -, rfl⟩
    · refine ⟨f', ?_, rfl, (filterEnabled_step hf').trans hon⟩
      cases m with
      | load | store => exact run_cons_of_step filterStep hf' []
    · refine ⟨s.filtering, rfl, ?_, hon⟩
      show { s.filtering with filterEnabled := true } = s.filtering
      rw [← hon]
  obtain ⟨f, hf, rfl, -⟩ := run_projects clickStep hstep ls ⟨rfl, rfl⟩ hrun
  exact ⟨_, hf⟩

/-- And every schedule of `setFilterCriteria` is one of a click. -/
theorem filters_click {old new : Criteria} {ts : List MessageTransaction} {s : Filtering}
    (hreaches : Reaches filterStep (Filtering.init old new ts) s) :
    Reaches clickStep (Clicked.init true old new ts) { filtering := s, enabling := true } := by
  obtain ⟨ms, hrun⟩ := hreaches
  let own : FilterLabel → Option ClickLabel
    | .load => some .load
    | .store => some .store
  have hstep : ∀ f m f' (s : Clicked), s = { filtering := f, enabling := true } →
      filterStep f m = some f' → ∃ s', run clickStep s (own m).toList = some s' ∧
        s' = { filtering := f', enabling := true } := by
    rintro f m f' s rfl hm
    refine ⟨_, ?_, rfl⟩
    cases m with
    | load | store => exact run_cons_of_step clickStep (by rw [clickStep, hm]; rfl) []
  obtain ⟨s', hs', rfl⟩ := run_projects filterStep hstep ms rfl hrun
  exact ⟨_, hs'⟩

/-- **Verdicts of a click**: no schedule gives one of neither criteria, exactly when no
    transaction is at risk. -/
theorem click_verdicts_iff {old new : Criteria} :
    (∀ ts ls s, run clickStep (Clicked.init true old new ts) ls = some s →
        ∀ r ∈ s.filtering.verdicts, OfEither old new r)
      ↔ ∀ trans, ¬AtRisk old new trans := by
  constructor
  · intro hall trans hrisk
    have hgives : ∃ relay, Gives (Filtering.init old new [trans]) trans relay ∧
        ¬OfEither old new (trans, relay) := gives_ofNeither hrisk
    obtain ⟨relay, ⟨t, htorn, hmem⟩, hneither⟩ := hgives
    obtain ⟨ls, hrun⟩ := filters_click htorn
    exact hneither (hall [trans] ls _ hrun _ hmem)
  · intro hsafe ts ls s hrun r hr
    obtain ⟨ms, hfilter⟩ := click_filters hrun
    have hbetween :=
      run_invariant filterStep (between_step old new) ms (between_init old new ts) hfilter
    exact (hbetween.verdicts r hr).ofEither (hsafe r.1)

/-! ## From item to item -/

/-- From a bus to any item; from a terminal or a mode code to another one or to a
    subaddress of the terminal; from a subaddress to one with its number or in its
    terminal. -/
def TreePath.SafeNext : TreePath → TreePath → Prop
  | .bus _, _ => True
  | .rt _ _ _, .bus _ => False
  | .rt _ j (.sa k), .rt _ j' (.sa k') => j = j' ∨ k = k'
  | .rt _ _ (.sa _), .rt _ _ _ => False
  | .rt _ j _, .rt _ j' (.sa _) => j = j'
  | .rt _ _ _, .rt _ _ _ => True

theorem TreePath.meetable {p : TreePath} {c : Criteria} (h : p.criteria = some c) :
    Meetable c.rt ∧ Meetable c.sa := by
  have hfield : ∀ n : Fin 32, Meetable (n.val : Int) := by
    intro n
    exact Or.inr ⟨Int.natCast_nonneg _, Int.ofNat_lt.mpr n.isLt⟩
  cases p with
  | bus i =>
      cases h
      exact ⟨Or.inl rfl, Or.inl rfl⟩
  | rt i j item =>
      cases item with
      | self | mc _ =>
          cases h
          exact ⟨hfield j, Or.inl rfl⟩
      | sa k =>
          cases h
          exact ⟨hfield j, hfield k⟩
      | modeCodes => cases h

/-- The criteria of items between which a change puts nothing at risk. -/
theorem TreePath.safeNext_iff {p q : TreePath} {c c' : Criteria} (h : p.criteria = some c)
    (h' : q.criteria = some c') :
    ((c.rt = -1 ∧ c.sa = -1) ∨ (c.sa = c'.sa ∧ ¬Lifts c.rt c'.rt) ∨
      (c.rt = c'.rt ∧ ¬Lifts c.sa c'.sa)) ↔ p.SafeNext q := by
  have hasked : ∀ n : Fin 32, (n.val : Int) ≠ -1 := fun n => by omega
  have hsame : ∀ m n : Fin 32, (m.val : Int) = n.val ↔ m = n :=
    fun m n => Int.ofNat_inj.trans Fin.val_inj
  cases p with
  | bus i =>
      cases h
      exact iff_of_true (Or.inl ⟨rfl, rfl⟩) trivial
  | rt i j item =>
      cases q with
      | bus i' =>
          cases h'
          cases item with
          | modeCodes => cases h
          | self | mc _ | sa _ =>
              cases h
              simp [Lifts, TreePath.SafeNext, hasked]
      | rt i' j' item' =>
          cases item with
          | modeCodes => cases h
          | self | mc _ | sa _ =>
              cases h
              cases item' with
              | modeCodes => cases h'
              | self | mc _ | sa _ =>
                  cases h'
                  simp [Lifts, TreePath.SafeNext, hasked, hsame, or_comm]

/-- **Which clicks are safe while transactions are filtered.**  With the filter off,
    everything is relayed that is decided before the click stores `m_filterEnabled`, and
    behind it the item clicked decides.  With the filter on, every verdict is that of
    the item before or of the item clicked, in every schedule, exactly when the second
    is a safe next one. -/
theorem click_safe_iff {p q : TreePath} {c c' : Criteria} (h : built.searchItem (itemId p) = some c)
    (h' : built.searchItem (itemId q) = some c') :
    (∀ old ts ms u, run clickStep (Clicked.init false old c' ts) ms = some u → .enable ∉ ms →
      (∀ r ∈ u.filtering.verdicts, r.2 = true) ∧
        ∀ ns s, run clickStep u (.enable :: ns) = some s →
          ∃ after, s.filtering.verdicts = u.filtering.verdicts ++ after ∧
            ∀ r ∈ after, r.2 = c'.verdict r.1) ∧
    ((∀ ts ls s, run clickStep (Clicked.init true c c' ts) ls = some s →
        ∀ r ∈ s.filtering.verdicts, OfEither c c' r) ↔ p.SafeNext q) := by
  rw [searchItem_itemId] at h h'
  obtain ⟨hrt, hsa⟩ := TreePath.meetable h
  obtain ⟨hrt', hsa'⟩ := TreePath.meetable h'
  refine ⟨fun old ts ms u hrun hms => click_switches hrun hms, ?_⟩
  rw [click_verdicts_iff, safeChange_iff hrt hsa hrt' hsa']
  exact TreePath.safeNext_iff h h'

/-- From a subaddress to another one in another terminal. -/
theorem click_safe_iff_torn :
    (∀ old ts ms u, run clickStep (Clicked.init false old ⟨'A', 6, 2, -1⟩ ts) ms = some u →
      .enable ∉ ms → (∀ r ∈ u.filtering.verdicts, r.2 = true) ∧
        ∀ ns s, run clickStep u (.enable :: ns) = some s →
          ∃ after, s.filtering.verdicts = u.filtering.verdicts ++ after ∧
            ∀ r ∈ after, r.2 = Criteria.verdict ⟨'A', 6, 2, -1⟩ r.1) ∧
    ((∀ ts ls s, run clickStep (Clicked.init true ⟨'A', 5, 1, -1⟩ ⟨'A', 6, 2, -1⟩ ts) ls = some s →
        ∀ r ∈ s.filtering.verdicts, OfEither ⟨'A', 5, 1, -1⟩ ⟨'A', 6, 2, -1⟩ r)
      ↔ (TreePath.rt 0 5 (.sa 1)).SafeNext (.rt 0 6 (.sa 2))) :=
  click_safe_iff ((searchItem_itemId (.rt 0 5 (.sa 1))).trans rfl)
    ((searchItem_itemId (.rt 0 6 (.sa 2))).trans rfl)

end TcpView
