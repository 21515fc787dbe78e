import Mathlib.Data.List.Basic

/-! # Computations that append rows to a table

    Such a computation gives every row it appends the next number.

    * `Allocates m k value rows` says what it appends, and what it returns, to a table
      of any length; `k` is how many rows that are;
    * `allocates_row`, `allocates_bind` and `allocates_mapM` are the rules for one row,
      for one computation behind another and for a loop, whose passes are `k` rows
      apart; `allocates_rows` and `allocates_range` are those for simple loops;
    * `getElem?_passes` and `getElem?_blocks` look a row up in the table of a loop. -/

namespace Allocation

variable {α β ρ : Type}

/-- A computation that appends to a table. -/
abbrev Build (ρ : Type) : Type → Type := StateM (List ρ)

/-- Append a row, and return its number. -/
def appendRow (row : ρ) : Build ρ Nat := fun t => (t.length, t ++ [row])

/-- What is returned and what is appended, by the length of the table before. -/
structure Allocates (m : Build ρ α) (k : Nat) (value : Nat → α) (rows : Nat → List ρ) : Prop where
  run_eq : ∀ t, m.run t = (value t.length, t ++ rows t.length)
  length : ∀ n, (rows n).length = k

theorem allocates_row (row : ρ) : Allocates (appendRow row) 1 id fun _ => [row] :=
  ⟨fun _ => rfl, fun _ => rfl⟩

theorem Allocates.of_eq {m : Build ρ α} {k k' : Nat} {value value' : Nat → α}
    {rows rows' : Nat → List ρ} (h : Allocates m k value rows) (hk : k = k')
    (hvalue : ∀ n, value n = value' n) (hrows : ∀ n, rows n = rows' n) :
    Allocates m k' value' rows' := by
  obtain rfl := funext hvalue
  obtain rfl := funext hrows
  exact hk ▸ h

theorem allocates_pure (a : α) : Allocates (pure a : Build ρ α) 0 (fun _ => a) fun _ => [] :=
  ⟨fun t => congrArg (Prod.mk a) (List.append_nil t).symm, fun _ => rfl⟩

/-- **One behind the other.** -/
theorem allocates_bind {m : Build ρ α} {f : α → Build ρ β} {k k' : Nat} {value : Nat → α}
    {rows : Nat → List ρ} {value' : α → Nat → β} {rows' : α → Nat → List ρ}
    (h : Allocates m k value rows) (h' : ∀ a, Allocates (f a) k' (value' a) (rows' a)) :
    Allocates (m >>= f) (k + k') (fun n => value' (value n) (n + k))
      fun n => rows n ++ rows' (value n) (n + k) where
  run_eq := by
    intro t
    have hlen : (t ++ rows t.length).length = t.length + k := by
      rw [List.length_append, h.length]
    rw [StateT.run_bind, h.run_eq t]
    show (f (value t.length)).run (t ++ rows t.length) = _
    rw [(h' (value t.length)).run_eq, hlen, List.append_assoc]
  length := by
    intro n
    rw [List.length_append, h.length, (h' (value n)).length]

/-- Followed by what appends nothing. -/
theorem allocates_map {m : Build ρ α} {k : Nat} {value : Nat → α} {rows : Nat → List ρ}
    (h : Allocates m k value rows) (f : α → β) :
    Allocates (do return f (← m)) k (fun n => f (value n)) rows :=
  (allocates_bind h fun a => allocates_pure (f a)).of_eq rfl (fun _ => rfl)
    fun _ => List.append_nil _

/-- The passes of a loop, each with where it begins. -/
def passes (k : Nat) : Nat → List α → List (α × Nat)
  | _, [] => []
  | n, a :: as => (a, n) :: passes k (n + k) as

theorem passes_eq_map (k : Nat) (as : List α) :
    ∀ n, passes k n as = as.zipIdx.map fun p => (p.1, n + k * p.2) := by
  have hfrom : ∀ (as : List α) (n i : Nat),
      passes k (n + k * i) as = (as.zipIdx i).map fun p => (p.1, n + k * p.2) := by
    intro as
    induction as with
    | nil => exact fun _ _ => rfl
    | cons a as ih =>
        intro n i
        rw [passes, List.zipIdx_cons, List.map_cons, Nat.add_assoc, ← Nat.mul_succ, ih]
  intro n
  exact hfrom as n 0

/-- **A loop**, every pass of which appends `k` rows. -/
theorem allocates_mapM {f : α → Build ρ β} {k : Nat} {value : α → Nat → β}
    {rows : α → Nat → List ρ} (h : ∀ a, Allocates (f a) k (value a) (rows a)) (as : List α) :
    Allocates (as.mapM f) (as.length * k)
      (fun n => (passes k n as).map fun p => value p.1 p.2)
      fun n => (passes k n as).flatMap fun p => rows p.1 p.2 := by
  induction as with
  | nil =>
      have hnil := allocates_pure (ρ := ρ) ([] : List β)
      rw [List.mapM_nil, List.length_nil, Nat.zero_mul]
      exact hnil
  | cons a as ih =>
      have hboth := allocates_bind (h a) fun b => allocates_map ih fun bs => b :: bs
      rw [List.mapM_cons, List.length_cons, Nat.succ_mul, Nat.add_comm (as.length * k)]
      exact hboth

theorem passes_range (k n count : Nat) :
    passes k n (List.range count) = (List.range count).map fun i => (i, n + k * i) := by
  rw [passes_eq_map, List.zipIdx_eq_zip_range', List.length_range, ← List.range_eq_range',
    List.zip_eq_zipWith, List.zipWith_self, List.map_map]
  rfl

/-- **A loop that appends one row in every pass.** -/
theorem allocates_rows (row : α → ρ) (as : List α) :
    Allocates (as.mapM fun a => appendRow (row a)) as.length
      (fun n => (List.range as.length).map (n + ·)) fun _ => as.map row := by
  refine (allocates_mapM (fun a => allocates_row (row a)) as).of_eq (Nat.mul_one _) ?_ ?_
  · intro n
    rw [passes_eq_map, List.map_map, List.range_eq_range', ← List.zipIdx_map_snd 0 as,
      List.map_map]
    refine List.map_congr_left fun p _ => ?_
    show n + 1 * p.2 = n + p.2
    rw [Nat.one_mul]
  · intro n
    rw [passes_eq_map, ← List.map_eq_flatMap, List.map_map]
    have hfst := congrArg (List.map row) (List.zipIdx_map_fst 0 as)
    rw [List.map_map] at hfst
    exact hfst

/-- **A loop over numbers.** -/
theorem allocates_range {f : Nat → Build ρ β} {k : Nat} {value : Nat → Nat → β}
    {rows : Nat → Nat → List ρ} (h : ∀ i, Allocates (f i) k (value i) (rows i)) (count : Nat) :
    Allocates ((List.range count).mapM f) (count * k)
      (fun n => (List.range count).map fun i => value i (n + k * i))
      fun n => (List.range count).flatMap fun i => rows i (n + k * i) := by
  refine (allocates_mapM h (List.range count)).of_eq (by rw [List.length_range]) ?_ ?_
  · intro n
    rw [passes_range, List.map_map]
    rfl
  · intro n
    rw [passes_range, List.flatMap_map]

/-- A row of a pass. -/
theorem getElem?_passes {k : Nat} {rows : α → Nat → List ρ} (h : ∀ a n, (rows a n).length = k)
    {j : Nat} (hj : j < k) (as : List α) :
    ∀ n i, ((passes k n as).flatMap fun p => rows p.1 p.2)[k * i + j]?
      = as[i]?.bind fun a => (rows a (n + k * i))[j]? := by
  induction as with
  | nil => intro n i; rfl
  | cons a as ih =>
      intro n i
      rw [passes, List.flatMap_cons]
      cases i with
      | zero =>
          rw [List.getElem?_append_left (by rw [h]; omega)]
          simp only [Nat.mul_zero, Nat.zero_add, Nat.add_zero, List.getElem?_cons_zero,
            Option.bind_some]
      | succ i =>
          have hlen := h a n
          rw [List.getElem?_append_right (by rw [hlen, Nat.mul_succ]; omega), hlen]
          have hsub : k * (i + 1) + j - k = k * i + j := by
            rw [Nat.mul_succ]
            omega
          rw [hsub, ih, List.getElem?_cons_succ, Nat.mul_succ, Nat.add_assoc, Nat.add_comm k]

/-- A row of a loop over numbers. -/
theorem getElem?_blocks {k : Nat} {rows : Nat → Nat → List ρ}
    (h : ∀ i n, (rows i n).length = k) {i j count : Nat} (hi : i < count) (hj : j < k) (n : Nat) :
    ((List.range count).flatMap fun i => rows i (n + k * i))[k * i + j]?
      = (rows i (n + k * i))[j]? := by
  have hpass := getElem?_passes h hj (List.range count) n i
  rw [passes_range, List.flatMap_map, List.getElem?_range hi] at hpass
  exact hpass

end Allocation
