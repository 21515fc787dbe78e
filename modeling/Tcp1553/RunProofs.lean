import Mathlib.Data.List.Basic

/-! # Runs of labelled step functions

    A system is a partial step function: in a state, a label either is not
    possible or leads to one next state.  A schedule is a list of labels, so
    "for every interleaving" is "for every list".

    * `run` executes a schedule, `Always` says that a property holds in every
      state a schedule passes, `Guarded` that every step it takes meets a guard;
    * `run_invariant` and `guarded_always` are the induction rules: what one step
      preserves holds along whole runs;
    * `always_iff_guarded`, `guarded_iff` and `of_not_guarded` are the rules for
      guards that are exact: a property of states or of steps holds throughout just
      as long as the guard is met, or is lost for good where it is not;
    * `Reaches` says that some schedule leads from one state to another;
    * `run_reaches` is the rule for what can still happen: a run to a final state;
    * `tally_le` is the rule for what comes to an end: a run takes no more of the steps
      that count than a rank allows;
    * `run_observed` is the rule for two runs that an observer cannot tell
      apart, `run_bisim` the one for runs of two systems, and `run_projects` the one
      for what a run is in a part of the system. -/

namespace LabelledRuns

variable {S L : Type} (step : S → L → Option S)

/-- Execute a schedule; `none` when some label was not possible. -/
def run : S → List L → Option S
  | s, [] => some s
  | s, l :: ls => (step s l).bind fun s' => run s' ls

/-- A property of every state the schedule passes. -/
def Always (P : S → Prop) : S → List L → Prop
  | s, [] => P s
  | s, l :: ls => P s ∧ ∀ s', step s l = some s' → Always P s' ls

/-- A condition on every step the schedule takes, seen from the state before. -/
def Guarded (ok : S → L → Prop) : S → List L → Prop
  | _, [] => True
  | s, l :: ls => ok s l ∧ ∀ s', step s l = some s' → Guarded ok s' ls

theorem run_cons_of_step {s s' : S} {l : L} (h : step s l = some s') (ls : List L) :
    run step s (l :: ls) = run step s' ls := by
  show (step s l).bind (fun s' => run step s' ls) = run step s' ls
  rw [h]
  rfl

/-- The first step of a run that succeeds. -/
theorem run_cons_inv {s t : S} {l : L} {ls : List L} (h : run step s (l :: ls) = some t) :
    ∃ s', step s l = some s' ∧ run step s' ls = some t :=
  Option.bind_eq_some_iff.mp h

/-- Schedules compose. -/
theorem run_append {s t : S} {ls : List L} (h : run step s ls = some t) (ms : List L) :
    run step s (ls ++ ms) = run step t ms := by
  induction ls generalizing s with
  | nil =>
      cases h
      rfl
  | cons l ls ih =>
      obtain ⟨s', hstep, hrest⟩ := run_cons_inv step h
      rw [List.cons_append, run_cons_of_step step hstep]
      exact ih hrest

/-- The last step of a run. -/
theorem run_concat_inv {s t : S} {ls : List L} {l : L} (h : run step s (ls ++ [l]) = some t) :
    ∃ u, run step s ls = some u ∧ step u l = some t := by
  induction ls generalizing s with
  | nil =>
      obtain ⟨t', hstep, hend⟩ := run_cons_inv step h
      cases hend
      exact ⟨s, rfl, hstep⟩
  | cons m ls ih =>
      obtain ⟨s', hstep, hrest⟩ := run_cons_inv step h
      obtain ⟨u, hrun, hlast⟩ := ih hrest
      exact ⟨u, (run_cons_of_step step hstep ls).trans hrun, hlast⟩

/-- Some schedule leads from one state to the other. -/
def Reaches (s t : S) : Prop := ∃ ls, run step s ls = some t

theorem Reaches.refl (s : S) : Reaches step s s := ⟨[], rfl⟩

/-- A step, and what follows. -/
theorem Reaches.head {s s' t : S} {l : L} (h : step s l = some s') (h' : Reaches step s' t) :
    Reaches step s t := by
  obtain ⟨ls, hrun⟩ := h'
  exact ⟨l :: ls, (run_cons_of_step step h ls).trans hrun⟩

theorem Reaches.trans {s t u : S} (h : Reaches step s t) (h' : Reaches step t u) :
    Reaches step s u := by
  obtain ⟨ls, hrun⟩ := h
  obtain ⟨ms, hrun'⟩ := h'
  exact ⟨ls ++ ms, (run_append step hrun ms).trans hrun'⟩

theorem guarded_cons_of_step {ok : S → L → Prop} {s s' : S} {l : L} (h : step s l = some s')
    (ls : List L) : Guarded step ok s (l :: ls) ↔ ok s l ∧ Guarded step ok s' ls := by
  refine and_congr_right fun _ => ⟨fun hall => hall s' h, fun hrest t ht => ?_⟩
  obtain rfl : s' = t := Option.some.inj (h.symm.trans ht)
  exact hrest

theorem guarded_cons_of_stuck {ok : S → L → Prop} {s : S} {l : L} (h : step s l = none)
    (ls : List L) : Guarded step ok s (l :: ls) ↔ ok s l :=
  and_iff_left fun _ ht => nomatch h.symm.trans ht

/-- The guard holds for what comes after a run, too. -/
theorem Guarded.after {ok : S → L → Prop} {s t : S} {ls ms : List L}
    (h : Guarded step ok s (ls ++ ms)) (hrun : run step s ls = some t) : Guarded step ok t ms := by
  induction ls generalizing s with
  | nil =>
      cases hrun
      exact h
  | cons l ls ih =>
      obtain ⟨s', hstep, hrest⟩ := run_cons_inv step hrun
      exact ih ((guarded_cons_of_step step hstep _).mp h).2 hrest

/-- Whether a given schedule meets a guard can be computed. -/
instance decidableGuarded {ok : S → L → Prop} [∀ s l, Decidable (ok s l)] :
    ∀ (ls : List L) (s : S), Decidable (Guarded step ok s ls)
  | [], _ => isTrue trivial
  | l :: ls, s =>
      match h : step s l with
      | none => decidable_of_iff (ok s l) (guarded_cons_of_stuck step h ls).symm
      | some s' =>
          have : Decidable (Guarded step ok s' ls) := decidableGuarded ls s'
          decidable_of_iff (ok s l ∧ Guarded step ok s' ls) (guarded_cons_of_step step h ls).symm

/-- How many steps of a schedule count, each seen from the state before. -/
def tally (counts : S → L → Bool) : S → List L → Nat
  | _, [] => 0
  | s, l :: ls =>
      (if counts s l = true then 1 else 0) + (step s l).elim 0 fun s' => tally counts s' ls

theorem tally_cons_of_step {counts : S → L → Bool} {s s' : S} {l : L} (h : step s l = some s')
    (ls : List L) : tally step counts s (l :: ls)
      = (if counts s l = true then 1 else 0) + tally step counts s' ls := by
  rw [tally, h, Option.elim_some]

/-- **Invariant rule.** -/
theorem run_invariant {Inv : S → Prop}
    (hstep : ∀ s l s', Inv s → step s l = some s' → Inv s') :
    ∀ (ls : List L) {s t : S}, Inv s → run step s ls = some t → Inv t := by
  intro ls
  induction ls with
  | nil =>
      intro s t hs h
      cases h
      exact hs
  | cons l ls ih =>
      intro s t hs h
      obtain ⟨s', h1, h2⟩ := run_cons_inv step h
      exact ih (hstep s l s' hs h1) h2

/-- **Progress rule.**  If every state of an invariant that is not final has a step
    that keeps the invariant and lowers a rank, a run leads to a final one. -/
theorem run_reaches {Inv Final : S → Prop} (rank : S → Nat)
    (hstep : ∀ s, Inv s → ¬Final s →
      ∃ l s', step s l = some s' ∧ Inv s' ∧ rank s' < rank s) :
    ∀ (n : Nat) {s : S}, rank s ≤ n → Inv s →
      ∃ ls t, run step s ls = some t ∧ Inv t ∧ Final t := by
  intro n
  induction n with
  | zero =>
      intro s hrank hs
      by_cases hfinal : Final s
      · exact ⟨[], s, rfl, hs, hfinal⟩
      · obtain ⟨l, s', -, -, hlt⟩ := hstep s hs hfinal
        exact absurd (Nat.lt_of_lt_of_le hlt hrank) (Nat.not_lt_zero _)
  | succ n ih =>
      intro s hrank hs
      by_cases hfinal : Final s
      · exact ⟨[], s, rfl, hs, hfinal⟩
      · obtain ⟨l, s', hl, hs', hlt⟩ := hstep s hs hfinal
        obtain ⟨ls, t, hrun, ht, hfinal'⟩ := ih (Nat.le_of_lt_succ (Nat.lt_of_lt_of_le hlt hrank)) hs'
        exact ⟨l :: ls, t, (run_cons_of_step step hl ls).trans hrun, ht, hfinal'⟩

/-- Guarded runs keep an invariant in every state they pass. -/
theorem guarded_always {Inv : S → Prop} {ok : S → L → Prop}
    (hstep : ∀ s l s', Inv s → ok s l → step s l = some s' → Inv s') :
    ∀ (ls : List L) {s : S}, Inv s → Guarded step ok s ls → Always step Inv s ls := by
  intro ls
  induction ls with
  | nil => intro s hs _; exact hs
  | cons l ls ih =>
      intro s hs hg
      exact ⟨hs, fun s' h => ih (hstep s l s' hs hg.1 h) (hg.2 s' h)⟩

/-- What holds in every state holds in the last. -/
theorem Always.last {P : S → Prop} :
    ∀ (ls : List L) {s t : S}, Always step P s ls → run step s ls = some t → P t := by
  intro ls
  induction ls with
  | nil =>
      intro s t h hr
      cases hr
      exact h
  | cons l ls ih =>
      intro s t h hr
      obtain ⟨s', h1, h2⟩ := run_cons_inv step hr
      exact ih (h.2 s' h1) h2

/-- What holds in every state holds in the first. -/
theorem Always.first {P : S → Prop} {ls : List L} {s : S} (h : Always step P s ls) : P s := by
  cases ls with
  | nil => exact h
  | cons l ls => exact h.1

/-- **Variant rule.**  If, while a property lasts, no step raises a rank and the steps that
    count lower it, then a run in which it lasts takes at most as many of these as the
    rank is high. -/
theorem tally_le {Inv P : S → Prop} {counts : S → L → Bool} (rank : S → Nat)
    (hinv : ∀ s l s', Inv s → step s l = some s' → Inv s')
    (hstep : ∀ s l s', Inv s → P s → P s' → step s l = some s' →
      (if counts s l = true then 1 else 0) + rank s' ≤ rank s) :
    ∀ (ls : List L) {s t : S}, Inv s → Always step P s ls → run step s ls = some t →
      tally step counts s ls + rank t ≤ rank s := by
  intro ls
  induction ls with
  | nil =>
      intro s t _ _ hrun
      cases hrun
      exact Nat.le_of_eq (Nat.zero_add _)
  | cons l ls ih =>
      intro s t hs hall hrun
      obtain ⟨s', hl, hrest⟩ := run_cons_inv step hrun
      have hnow := hstep s l s' hs hall.1 (Always.first step (hall.2 s' hl)) hl
      have hlater := ih (hinv s l s' hs hl) (hall.2 s' hl) hrest
      rw [tally_cons_of_step step hl]
      omega

/-- A property weakens along a run. -/
theorem Always.imp {P Q : S → Prop} (hPQ : ∀ s, P s → Q s) :
    ∀ (ls : List L) {s : S}, Always step P s ls → Always step Q s ls := by
  intro ls
  induction ls with
  | nil => intro s h; exact hPQ s h
  | cons l ls ih =>
      intro s h
      exact ⟨hPQ s h.1, fun s' hs' => ih (h.2 s' hs')⟩

/-- **Unwinding rule.**  If steps from states that look alike lead to states that
    look alike, so do whole runs. -/
theorem run_observed {O : Type} {view : S → O}
    (hstep : ∀ s t l, view s = view t → (step s l).map view = (step t l).map view) :
    ∀ (ls : List L) {s t : S}, view s = view t →
      (run step s ls).map view = (run step t ls).map view := by
  intro ls
  induction ls with
  | nil => intro s t h; exact congrArg some h
  | cons l ls ih =>
      intro s t h
      have hl := hstep s t l h
      show ((step s l).bind fun s' => run step s' ls).map view
        = ((step t l).bind fun t' => run step t' ls).map view
      cases hs : step s l with
      | none =>
          cases ht : step t l with
          | none => rfl
          | some t' =>
              rw [hs, ht] at hl
              cases hl
      | some s' =>
          cases ht : step t l with
          | none =>
              rw [hs, ht] at hl
              cases hl
          | some t' =>
              rw [hs, ht] at hl
              exact ih (Option.some.inj hl)

/-- **Bisimulation rule.**  If related states take the same labels, to related states,
    then they have the same runs. -/
theorem run_bisim {S' : Type} {step' : S' → L → Option S'} {R : S → S' → Prop}
    (hstep : ∀ s s' l, R s s' → Option.Rel R (step s l) (step' s' l)) :
    ∀ (ls : List L) {s : S} {s' : S'}, R s s' →
      Option.Rel R (run step s ls) (run step' s' ls) := by
  intro ls
  induction ls with
  | nil => intro s s' h; exact .some h
  | cons l ls ih =>
      intro s s' h
      have hl := hstep s s' l h
      show Option.Rel R ((step s l).bind fun t => run step t ls)
        ((step' s' l).bind fun t' => run step' t' ls)
      cases hs : step s l with
      | none =>
          rw [hs] at hl
          cases hs' : step' s' l with
          | none => exact .none
          | some t' =>
              rw [hs'] at hl
              cases hl
      | some t =>
          rw [hs] at hl
          cases hs' : step' s' l with
          | none =>
              rw [hs'] at hl
              cases hl
          | some t' =>
              rw [hs'] at hl
              cases hl with
              | some ht => exact ih ht

/-- **Projection rule.**  If a part of the system moves by its own labels only, then a
    run of the system is, in that part, a run on those labels. -/
theorem run_projects {C M : Type} {part : C → M → Option C} {own : L → Option M} {R : S → C → Prop}
    (hstep : ∀ s l s' c, R s c → step s l = some s' →
      ∃ c', run part c (own l).toList = some c' ∧ R s' c') :
    ∀ (ls : List L) {s t : S} {c : C}, R s c → run step s ls = some t →
      ∃ c', run part c (ls.filterMap own) = some c' ∧ R t c' := by
  intro ls
  induction ls with
  | nil =>
      intro s t c h hrun
      cases hrun
      exact ⟨c, rfl, h⟩
  | cons l ls ih =>
      intro s t c h hrun
      obtain ⟨s', hl, hrest⟩ := run_cons_inv step hrun
      obtain ⟨c', hc, h'⟩ := hstep s l s' c h hl
      obtain ⟨c'', hc', h''⟩ := ih h' hrest
      have hlabels : (l :: ls).filterMap own = (own l).toList ++ ls.filterMap own := by
        cases hown : own l with
        | none => rw [List.filterMap_cons_none hown, Option.toList_none, List.nil_append]
        | some m => rw [List.filterMap_cons_some hown, Option.toList_some, List.singleton_append]
      exact ⟨c'', by rw [hlabels, run_append part hc, hc'], h''⟩

/-- **Exact guards.**  If, under an invariant, each step keeps a property exactly
    when it meets a guard, then a run keeps it throughout exactly when all its
    steps meet the guard. -/
theorem always_iff_guarded {Inv P : S → Prop} {ok : S → L → Prop}
    (hinv : ∀ s l s', Inv s → step s l = some s' → Inv s')
    (hstep : ∀ s l s', Inv s → P s → step s l = some s' → (P s' ↔ ok s l))
    (hstuck : ∀ s l, step s l = none → ok s l) :
    ∀ (ls : List L) {s : S}, Inv s → P s → (Always step P s ls ↔ Guarded step ok s ls) := by
  intro ls
  induction ls with
  | nil =>
      intro s _ hP
      exact ⟨fun _ => trivial, fun _ => hP⟩
  | cons l ls ih =>
      intro s hI hP
      cases hs : step s l with
      | none =>
          constructor
          · intro _
            exact ⟨hstuck s l hs, fun s' hs' => by cases hs.symm.trans hs'⟩
          · intro _
            exact ⟨hP, fun s' hs' => by cases hs.symm.trans hs'⟩
      | some s' =>
          have hI' := hinv s l s' hI hs
          have hiff := hstep s l s' hI hP hs
          constructor
          · rintro ⟨-, hrest⟩
            have hP' := Always.first step (hrest s' hs)
            refine ⟨hiff.mp hP', fun t ht => ?_⟩
            obtain rfl : s' = t := Option.some.inj (hs.symm.trans ht)
            exact (ih hI' hP').mp (hrest s' hs)
          · rintro ⟨hok, hrest⟩
            have hP' := hiff.mpr hok
            refine ⟨hP, fun t ht => ?_⟩
            obtain rfl : s' = t := Option.some.inj (hs.symm.trans ht)
            exact (ih hI' hP').mpr (hrest s' hs)

/-- A guard that implies another, under an invariant it keeps, implies it along runs. -/
theorem Guarded.imp {Inv : S → Prop} {ok ok' : S → L → Prop}
    (himp : ∀ s l, Inv s → ok s l → ok' s l)
    (hinv : ∀ s l s', Inv s → ok s l → step s l = some s' → Inv s') :
    ∀ (ls : List L) {s : S}, Inv s → Guarded step ok s ls → Guarded step ok' s ls := by
  intro ls
  induction ls with
  | nil => intro s _ _; trivial
  | cons l ls ih =>
      rintro s hI ⟨hok, hrest⟩
      exact ⟨himp s l hI hok, fun s' hs' => ih (hinv s l s' hI hok hs') (hrest s' hs')⟩

/-- **Guards that agree.**  Two guards that say the same as long as they are met are
    met by the same runs. -/
theorem guarded_iff {Inv : S → Prop} {ok ok' : S → L → Prop}
    (hiff : ∀ s l, Inv s → (ok s l ↔ ok' s l))
    (hinv : ∀ s l s', Inv s → ok' s l → step s l = some s' → Inv s') (ls : List L) {s : S}
    (hs : Inv s) : Guarded step ok s ls ↔ Guarded step ok' s ls :=
  ⟨Guarded.imp step (fun s l hI => (hiff s l hI).mp)
      (fun s l s' hI hok => hinv s l s' hI ((hiff s l hI).mp hok)) ls hs,
    Guarded.imp step (fun s l hI => (hiff s l hI).mpr) hinv ls hs⟩

/-- **Points of no return.**  If a step that misses the guard leads to a property
    that no step loses, a run with such a step ends with that property. -/
theorem of_not_guarded {Inv P : S → Prop} {ok : S → L → Prop}
    (hinv : ∀ s l s', Inv s → step s l = some s' → Inv s')
    (henter : ∀ s l s', Inv s → ¬ok s l → step s l = some s' → P s')
    (hkeep : ∀ s l s', Inv s → P s → step s l = some s' → P s') :
    ∀ (ls : List L) {s t : S}, Inv s → run step s ls = some t → ¬Guarded step ok s ls → P t := by
  intro ls
  induction ls with
  | nil => intro s t _ _ hmiss; exact absurd trivial hmiss
  | cons l ls ih =>
      intro s t hs hrun hmiss
      obtain ⟨s', hstep, hrest⟩ := run_cons_inv step hrun
      have hs' := hinv s l s' hs hstep
      rw [guarded_cons_of_step step hstep, not_and] at hmiss
      by_cases hok : ok s l
      · exact ih hs' hrest (hmiss hok)
      · -- from here on the property is kept to the end
        have hboth : ∀ a l b, Inv a ∧ P a → step a l = some b → Inv b ∧ P b :=
          fun a l b ha hab => ⟨hinv a l b ha.1 hab, hkeep a l b ha.1 ha.2 hab⟩
        exact (run_invariant step hboth ls ⟨hs', henter s l s' hs hok hstep⟩ hrest).2

end LabelledRuns
