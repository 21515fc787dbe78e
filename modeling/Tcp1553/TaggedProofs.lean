import Mathlib.Data.List.Basic

/-! # Sequences merged from several sources

    A merge of several sequences is a sequence of tagged items: the tags say
    which source an item came from, and `only` recovers each source in its own
    order.

    If sources send blocks of `n` items, a merge may keep the blocks together or
    cut into them.  `WholeBlocks` says it item by item: when an item of one
    source arrives, every other source has delivered whole blocks.
    `wholeBlocks_iff` shows that this is the same as the tags coming in runs
    of `n`. -/

namespace TaggedMerge

variable {ι α β : Type}

/-- One source's block inside a merge. -/
def tagged (d : ι) (xs : List α) : List (ι × α) := xs.map fun a => (d, a)

theorem tagged_map_fst (d : ι) (xs : List α) :
    (tagged d xs).map Prod.fst = List.replicate xs.length d := by
  rw [tagged, List.map_map]
  exact List.map_const'

theorem tagged_map_snd (d : ι) (xs : List α) : (tagged d xs).map Prod.snd = xs := by
  rw [tagged, List.map_map]
  exact List.map_id xs

/-- A merge whose tags all agree is one source's block. -/
theorem eq_tagged_of_tags {d : ι} {n : Nat} {T : List (ι × α)}
    (h : T.map Prod.fst = List.replicate n d) : T = tagged d (T.map Prod.snd) := by
  induction T generalizing n with
  | nil => rfl
  | cons p T ih =>
      obtain ⟨e, a⟩ := p
      cases n with
      | zero => cases h
      | succ n =>
          rw [List.map_cons, List.replicate_succ] at h
          obtain ⟨he, ht⟩ := List.cons.inj h
          have he' : e = d := he
          subst he'
          rw [List.map_cons]
          exact congrArg ((e, a) :: ·) (ih ht)

/-- Tags that come in runs of `n`. -/
def blocks (n : Nat) (ds : List ι) : List ι := ds.flatMap (List.replicate n)

theorem blocks_cons (n : Nat) (d : ι) (ds : List ι) :
    blocks n (d :: ds) = List.replicate n d ++ blocks n ds := List.flatMap_cons

/-! ## The items of one source -/

variable [DecidableEq ι]

/-- The items of one source, in order. -/
def only (d : ι) (T : List (ι × α)) : List α := (T.filter fun p => p.1 = d).map Prod.snd

theorem only_cons_self (d : ι) (a : α) (T : List (ι × α)) :
    only d ((d, a) :: T) = a :: only d T := by
  simp only [only, List.filter_cons, decide_true, if_true, List.map_cons]

theorem only_cons_of_ne {d e : ι} (h : e ≠ d) (a : α) (T : List (ι × α)) :
    only d ((e, a) :: T) = only d T := by
  simp only [only, List.filter_cons, h, decide_false, Bool.false_eq_true, if_false]

theorem only_append (d : ι) (T U : List (ι × α)) : only d (T ++ U) = only d T ++ only d U := by
  rw [only, List.filter_append, List.map_append]
  rfl

theorem only_map (d : ι) (f : α → β) (T : List (ι × α)) :
    only d (T.map fun p => (p.1, f p.2)) = (only d T).map f := by
  induction T with
  | nil => rfl
  | cons p T ih =>
      obtain ⟨e, a⟩ := p
      rw [List.map_cons]
      by_cases h : e = d
      · subst h
        rw [only_cons_self, only_cons_self, ih, List.map_cons]
      · rw [only_cons_of_ne h, only_cons_of_ne h, ih]

theorem only_tagged_self (d : ι) (xs : List α) : only d (tagged d xs) = xs := by
  induction xs with
  | nil => rfl
  | cons x xs ih =>
      show only d ((d, x) :: tagged d xs) = x :: xs
      rw [only_cons_self, ih]

theorem only_tagged_of_ne {d e : ι} (h : e ≠ d) (xs : List α) : only d (tagged e xs) = [] := by
  induction xs with
  | nil => rfl
  | cons x xs ih =>
      show only d ((e, x) :: tagged e xs) = []
      rw [only_cons_of_ne h, ih]

/-- The tags of a source count its items. -/
theorem count_tags (d : ι) (T : List (ι × α)) :
    (T.map Prod.fst).count d = (only d T).length := by
  induction T with
  | nil => rfl
  | cons p T ih =>
      obtain ⟨e, a⟩ := p
      rw [List.map_cons]
      by_cases h : e = d
      · subst h
        rw [only_cons_self, List.count_cons_self, ih, List.length_cons]
      · rw [only_cons_of_ne h, List.count_cons_of_ne h, ih]

/-! ## Uninterrupted merges -/

/-- When an item of one source arrives, the others have delivered whole blocks. -/
def WholeBlocks (n : Nat) (tags : List ι) : Prop :=
  ∀ p d, tags[p]? = some d → ∀ e, e ≠ d → n ∣ (tags.take p).count e

/-- Runs of `n` are never interrupted. -/
theorem wholeBlocks_blocks (n : Nat) (ds : List ι) : WholeBlocks n (blocks n ds) := by
  induction ds with
  | nil =>
      intro p d h
      cases h
  | cons c ds ih =>
      intro p d h e hne
      rw [blocks_cons] at h ⊢
      have hlen : (List.replicate n c).length = n := List.length_replicate
      by_cases hp : p < n
      · -- inside the first run: only its own tag has been seen
        rw [List.getElem?_append_left (by omega), List.getElem?_replicate, if_pos hp] at h
        cases h
        rw [List.take_append_of_le_length (by omega), List.take_replicate,
          List.count_replicate, if_neg (by simpa using hne.symm)]
        exact Nat.dvd_zero n
      · rw [List.getElem?_append_right (by omega), hlen] at h
        rw [List.take_append, hlen, List.take_of_length_le (by omega), List.count_append]
        refine Nat.dvd_add ?_ (ih (p - n) d h e hne)
        rw [List.count_replicate]
        split
        · exact Nat.dvd_refl n
        · exact Nat.dvd_zero n

/-- The first run of an uninterrupted merge is complete. -/
theorem WholeBlocks.first_run {n : Nat} {d : ι} {tags : List ι}
    (h : WholeBlocks n (d :: tags)) (hcount : n ∣ (d :: tags).count d) :
    ∀ i ≤ n, (d :: tags).take i = List.replicate i d := by
  intro i
  induction i with
  | zero => intro _; rfl
  | succ i ih =>
      intro hi
      have hfront := ih (by omega)
      rcases Nat.eq_zero_or_pos i with rfl | hpos
      · rfl
      · have hcnt : ((d :: tags).take i).count d = i := by
          rw [hfront, List.count_replicate_self]
        cases hget : (d :: tags)[i]? with
        | none =>
            -- the merge would end inside the run
            have hle := List.getElem?_eq_none_iff.mp hget
            rw [List.take_of_length_le hle] at hcnt
            rw [hcnt] at hcount
            have := Nat.le_of_dvd hpos hcount
            omega
        | some e =>
            have he : e = d := by
              by_contra hne
              have hdvd := h i e hget d (fun hc => hne hc.symm)
              rw [hcnt] at hdvd
              have := Nat.le_of_dvd hpos hdvd
              omega
            rw [List.take_add_one, hfront, hget, he, List.replicate_succ']
            rfl

/-- Behind a complete run the merge is again uninterrupted. -/
theorem WholeBlocks.drop_run {n : Nat} {c : ι} {tags : List ι}
    (h : WholeBlocks n (List.replicate n c ++ tags)) : WholeBlocks n tags := by
  intro p d hget e hne
  have hlen : (List.replicate n c).length = n := List.length_replicate
  have hget' : (List.replicate n c ++ tags)[n + p]? = some d := by
    rw [List.getElem?_append_right (by omega), hlen, Nat.add_sub_cancel_left]
    exact hget
  have hdvd := h (n + p) d hget' e hne
  rw [List.take_append, hlen, List.take_of_length_le (by omega), Nat.add_sub_cancel_left,
    List.count_append] at hdvd
  refine (Nat.dvd_add_right ?_).mp hdvd
  rw [List.count_replicate]
  split
  · exact Nat.dvd_refl n
  · exact Nat.dvd_zero n

/-- **Uninterrupted merges are runs.**  When every source sends whole blocks,
    a merge cuts into none of them exactly when its tags come in runs. -/
theorem wholeBlocks_iff {n : Nat} (hn : 0 < n) :
    ∀ tags : List ι, (∀ d, n ∣ tags.count d) →
      (WholeBlocks n tags ↔ ∃ ds, tags = blocks n ds) := by
  suffices hmp : ∀ (k : Nat) (tags : List ι), tags.length ≤ k → (∀ d, n ∣ tags.count d) →
      WholeBlocks n tags → ∃ ds, tags = blocks n ds by
    intro tags hcount
    constructor
    · exact hmp tags.length tags (Nat.le_refl _) hcount
    · rintro ⟨ds, rfl⟩
      exact wholeBlocks_blocks n ds
  intro k
  induction k with
  | zero =>
      intro tags hlen _ _
      exact ⟨[], List.length_eq_zero_iff.mp (by omega)⟩
  | succ k ih =>
      intro tags hlen hcount h
      cases tags with
      | nil => exact ⟨[], rfl⟩
      | cons d tags =>
          have hrun := h.first_run (hcount d) n (Nat.le_refl n)
          have hsplit : d :: tags = List.replicate n d ++ (d :: tags).drop n := by
            rw [← hrun, List.take_append_drop]
          generalize hrest : (d :: tags).drop n = rest at hsplit
          have hshort : rest.length ≤ k := by
            rw [← hrest, List.length_drop]
            omega
          rw [hsplit] at h hcount
          have hcount' : ∀ e, n ∣ rest.count e := by
            intro e
            have he := hcount e
            rw [List.count_append] at he
            refine (Nat.dvd_add_right ?_).mp he
            rw [List.count_replicate]
            split
            · exact Nat.dvd_refl n
            · exact Nat.dvd_zero n
          obtain ⟨ds, hds⟩ := ih rest hshort hcount' h.drop_run
          exact ⟨d :: ds, by rw [hsplit, blocks_cons, ← hds]⟩

end TaggedMerge
