import Mathlib.Algebra.Ring.Nat
import Mathlib.Data.List.Basic
import Mathlib.Data.List.TakeDrop

/-! # Incremental scanners over a growing buffer

    A scanner looks at the buffered input and either recognises something at
    its front, which then costs a fixed number of symbols, or asks for more.
    The drain loop recognises until the scanner asks for more.

    * `scan` is the drain loop, `feed` one arrival of input, `feedAll` a
      sequence of arrivals;
    * `scan_append` is the one fact everything rests on: because a decision is
      never changed by later input, draining early and draining late agree;
    * `feedAll_flatten` is its consequence for whole runs: how the input was
      cut does not matter;
    * `starts` and `windows` recover where each recognised item sat. -/

namespace StreamScanner

variable {α β γ : Type}

/-- A scanner: what it recognises at the front of the buffer, what that costs,
    and the proof that a decision never depends on input not yet seen. -/
structure Scanner (α β : Type) where
  next      : List α → Option β
  width     : β → Nat
  width_pos : ∀ {xs b}, next xs = some b → 0 < width b
  width_le  : ∀ {xs b}, next xs = some b → width b ≤ xs.length
  stable    : ∀ {xs b} (ys), next xs = some b → next (xs ++ ys) = some b

variable (S : Scanner α β)

/-- The drain loop with a bound on its iterations. -/
def scanFuel : Nat → List α → List β × List α
  | 0, xs => ([], xs)
  | n + 1, xs =>
      match S.next xs with
      | none => ([], xs)
      | some b =>
          let r := scanFuel n (xs.drop (S.width b))
          (b :: r.1, r.2)

/-- The drain loop: each iteration consumes, so the length is bound enough. -/
def scan (xs : List α) : List β × List α := scanFuel S xs.length xs

/-- Nothing is recognised in an empty buffer. -/
theorem next_nil : S.next [] = none := by
  cases hd : S.next [] with
  | none => rfl
  | some b => exact absurd (Nat.lt_of_lt_of_le (S.width_pos hd) (S.width_le hd)) (Nat.lt_irrefl 0)

/-- Any bound that reaches the length gives the same drain. -/
theorem scanFuel_eq_scan :
    ∀ (n : Nat) (xs : List α), xs.length ≤ n → scanFuel S n xs = scan S xs := by
  suffices h : ∀ (n m : Nat) (xs : List α), xs.length ≤ n → xs.length ≤ m →
      scanFuel S n xs = scanFuel S m xs from
    fun n xs hn => h n xs.length xs hn (Nat.le_refl _)
  intro n
  induction n with
  | zero =>
      intro m xs hn hm
      obtain rfl : xs = [] := List.length_eq_zero_iff.mp (Nat.le_zero.mp hn)
      cases m with
      | zero => rfl
      | succ m => simp only [scanFuel, next_nil]
  | succ n ih =>
      intro m xs hn hm
      cases hd : S.next xs with
      | none =>
          cases m with
          | zero => simp only [scanFuel, hd]
          | succ m => simp only [scanFuel, hd]
      | some b =>
          have hpos := S.width_pos hd
          have hle := S.width_le hd
          cases m with
          | zero => omega
          | succ m =>
              have hlen : (xs.drop (S.width b)).length = xs.length - S.width b :=
                List.length_drop
              have := ih m (xs.drop (S.width b)) (by omega) (by omega)
              simp only [scanFuel, hd, this]

/-- The drain loop stops as soon as the scanner asks for more. -/
theorem scan_none {xs : List α} (h : S.next xs = none) : scan S xs = ([], xs) := by
  cases xs with
  | nil => rfl
  | cons x xs => simp only [scan, List.length_cons, scanFuel, h]

/-- One iteration of the drain loop. -/
theorem scan_some {xs : List α} {b : β} (h : S.next xs = some b) :
    scan S xs
      = (b :: (scan S (xs.drop (S.width b))).1, (scan S (xs.drop (S.width b))).2) := by
  have hpos := S.width_pos h
  have hle := S.width_le h
  have hlen : (xs.drop (S.width b)).length = xs.length - S.width b := List.length_drop
  obtain ⟨n, hn⟩ : ∃ n, xs.length = n + 1 := ⟨xs.length - 1, by omega⟩
  have hrest := scanFuel_eq_scan S n (xs.drop (S.width b)) (by omega)
  have hunfold : scan S xs = scanFuel S (n + 1) xs := by rw [scan, hn]
  rw [hunfold]
  simp only [scanFuel, h, hrest]

/-- Induction along the iterations of the drain loop. -/
theorem scan_induction {P : List α → Prop}
    (hstop : ∀ xs, S.next xs = none → P xs)
    (hstep : ∀ xs b, S.next xs = some b → P (xs.drop (S.width b)) → P xs) :
    ∀ xs, P xs := by
  suffices h : ∀ (n : Nat) (xs : List α), xs.length ≤ n → P xs from
    fun xs => h xs.length xs (Nat.le_refl _)
  intro n
  induction n with
  | zero =>
      intro xs hn
      obtain rfl : xs = [] := List.length_eq_zero_iff.mp (Nat.le_zero.mp hn)
      exact hstop [] (next_nil S)
  | succ n ih =>
      intro xs hn
      cases hd : S.next xs with
      | none => exact hstop xs hd
      | some b =>
          have hpos := S.width_pos hd
          refine hstep xs b hd (ih _ ?_)
          rw [List.length_drop]
          omega

/-- What the drain loop leaves behind, the scanner cannot decide. -/
theorem scan_settled (xs : List α) : S.next (scan S xs).2 = none := by
  induction xs using scan_induction S with
  | hstop xs h => rw [scan_none S h]; exact h
  | hstep xs b h ih => rw [scan_some S h]; exact ih

/-- The widths of a list of recognised items, added up. -/
def span (bs : List β) : Nat := (bs.map S.width).sum

@[simp] theorem span_cons (b : β) (bs : List β) :
    span S (b :: bs) = S.width b + span S bs := by
  simp only [span, List.map_cons, List.sum_cons]

/-- The remainder is the input after everything recognised. -/
theorem scan_rest (xs : List α) : (scan S xs).2 = xs.drop (span S (scan S xs).1) := by
  induction xs using scan_induction S with
  | hstop xs h => rw [scan_none S h]; rfl
  | hstep xs b h ih =>
      rw [scan_some S h]
      show (scan S (xs.drop (S.width b))).2 = _
      rw [ih, List.drop_drop, span_cons]

/-- Recognised items never cost more than the input has. -/
theorem span_le (xs : List α) : span S (scan S xs).1 ≤ xs.length := by
  induction xs using scan_induction S with
  | hstop xs h => rw [scan_none S h]; exact Nat.zero_le _
  | hstep xs b h ih =>
      have hle := S.width_le h
      rw [scan_some S h, span_cons]
      rw [List.length_drop] at ih
      omega

/-- **Late input changes nothing**: draining a prefix and then the remainder
    with the rest of the input is draining the whole. -/
theorem scan_append (xs ys : List α) :
    scan S (xs ++ ys)
      = ((scan S xs).1 ++ (scan S ((scan S xs).2 ++ ys)).1,
          (scan S ((scan S xs).2 ++ ys)).2) := by
  induction xs using scan_induction S with
  | hstop xs h => rw [scan_none S h]; rfl
  | hstep xs b h ih =>
      have hle := S.width_le h
      rw [scan_some S h, scan_some S (S.stable ys h), List.drop_append_of_le_length hle, ih]
      rfl

/-! ## Arrivals -/

/-- One arrival: append to the buffer, then drain it. -/
def feed (buf chunk : List α) : List β × List α := scan S (buf ++ chunk)

/-- A sequence of arrivals, each handled before the next. -/
def feedAll : List α → List (List α) → List β × List α
  | buf, [] => ([], buf)
  | buf, c :: cs =>
      let r := feed S buf c
      let r' := feedAll r.2 cs
      (r.1 ++ r'.1, r'.2)

/-- A buffer an earlier drain can have left behind. -/
def Settled (buf : List α) : Prop := S.next buf = none

/-- Every arrival leaves a settled buffer. -/
theorem feed_settled (buf chunk : List α) : Settled S (feed S buf chunk).2 :=
  scan_settled S (buf ++ chunk)

/-- **Chunking invariance**: any cut of the input gives what one arrival of the
    whole gives. -/
theorem feedAll_flatten :
    ∀ (chunks : List (List α)) {buf : List α}, Settled S buf →
      feedAll S buf chunks = feed S buf chunks.flatten := by
  intro chunks
  induction chunks with
  | nil =>
      intro buf h
      show ([], buf) = scan S (buf ++ [])
      rw [List.append_nil, scan_none S h]
  | cons c cs ih =>
      intro buf _
      have hrec := ih (feed_settled S buf c)
      show ((feed S buf c).1 ++ (feedAll S (feed S buf c).2 cs).1,
        (feedAll S (feed S buf c).2 cs).2) = scan S (buf ++ (c ++ cs.flatten))
      rw [hrec, ← List.append_assoc, scan_append S (buf ++ c)]
      rfl

/-! ## Where the recognised items sat -/

/-- Each item with the offset of its first symbol, counted from `k`. -/
def starts : Nat → List β → List (Nat × β)
  | _, [] => []
  | k, b :: bs => (k, b) :: starts (k + S.width b) bs

/-- Each item with its share of a list laid out along the input. -/
def windows : List γ → List β → List (List γ × β)
  | _, [] => []
  | ts, b :: bs => (ts.take (S.width b), b) :: windows (ts.drop (S.width b)) bs

/-- Offsets never come before the one counting starts from. -/
theorem starts_ge {k o : Nat} {b : β} :
    ∀ {bs : List β}, (o, b) ∈ starts S k bs → k ≤ o := by
  intro bs
  induction bs generalizing k with
  | nil => intro h; cases h
  | cons c cs ih =>
      intro h
      rcases List.mem_cons.mp h with heq | hmem
      · exact Nat.le_of_eq (congrArg Prod.fst heq).symm
      · have := ih hmem
        omega

/-- The shares are consecutive pieces of the list laid out. -/
theorem windows_flatten (bs : List β) :
    ∀ ts : List γ, ((windows S ts bs).map Prod.fst).flatten = ts.take (span S bs) := by
  induction bs with
  | nil => intro ts; rfl
  | cons b bs ih =>
      intro ts
      show ts.take (S.width b) ++ ((windows S (ts.drop (S.width b)) bs).map Prod.fst).flatten = _
      rw [ih, span_cons, List.take_add]

/-- Along a drain, each item begins behind the end of the one before. -/
theorem starts_scan_disjoint (xs : List α) :
    ∀ k, (starts S k (scan S xs).1).Pairwise fun p q => p.1 + S.width p.2 ≤ q.1 := by
  induction xs using scan_induction S with
  | hstop xs h =>
      intro k
      rw [scan_none S h]
      exact List.Pairwise.nil
  | hstep xs b h ih =>
      intro k
      rw [scan_some S h]
      refine List.Pairwise.cons ?_ (ih (k + S.width b))
      intro q hq
      exact starts_ge S (show (q.1, q.2) ∈ _ from hq)

/-- Nothing recognised reaches past the remainder. -/
theorem starts_scan_le (xs : List α) :
    ∀ k o b, (o, b) ∈ starts S k (scan S xs).1 →
      o + S.width b ≤ k + span S (scan S xs).1 := by
  induction xs using scan_induction S with
  | hstop xs h =>
      intro k o b hmem
      rw [scan_none S h] at hmem
      cases hmem
  | hstep xs c h ih =>
      intro k o b hmem
      rw [scan_some S h] at hmem ⊢
      rw [span_cons]
      rcases List.mem_cons.mp hmem with heq | htail
      · obtain ⟨rfl, rfl⟩ := Prod.mk.inj heq
        omega
      · have := ih (k + S.width c) o b htail
        omega

/-! ## Greedy recognition

    Call some items *hits*.  If everything else costs one symbol, and a scanner
    that asks for more has no hit ahead of it, then the drain finds exactly the
    greedy leftmost hits. -/

/-- The hits of a drain with their offsets. -/
def hits (hit : β → Bool) (k : Nat) (bs : List β) : List (Nat × β) :=
  (starts S k bs).filter fun p => hit p.2

section Greedy

variable {hit : β → Bool}

theorem hits_cons_hit {b : β} (hb : hit b = true) (k : Nat) (bs : List β) :
    hits S hit k (b :: bs) = (k, b) :: hits S hit (k + S.width b) bs :=
  List.filter_cons_of_pos hb

theorem hits_cons_miss {b : β} (hb : hit b = false) (k : Nat) (bs : List β) :
    hits S hit k (b :: bs) = hits S hit (k + S.width b) bs :=
  List.filter_cons_of_neg (by simp [hb])

/-- `found` is the greedy choice from offset `k` on: an item is in it exactly when
    the scanner would recognise a hit there that no earlier found hit covers. -/
def GreedyFrom (hit : β → Bool) (k : Nat) (xs : List α) (found : List (Nat × β)) : Prop :=
  ∀ o b, (o, b) ∈ found ↔
    k ≤ o ∧ S.next (xs.drop (o - k)) = some b ∧ hit b = true ∧
      ∀ f c, (f, c) ∈ found → ¬(f < o ∧ o < f + S.width c)

/-- Offsets behind an item, seen from the item's own. -/
theorem drop_behind (xs : List α) {k w o : Nat} (ho : k + w ≤ o) :
    (xs.drop w).drop (o - (k + w)) = xs.drop (o - k) := by
  rw [List.drop_drop]
  congr 1
  omega

/-- A hit at the front joins the greedy choice of the rest. -/
theorem GreedyFrom.cons_hit {k : Nat} {xs : List α} {c : β} {found : List (Nat × β)}
    (h : S.next xs = some c) (hc : hit c = true)
    (hrest : GreedyFrom S hit (k + S.width c) (xs.drop (S.width c)) found) :
    GreedyFrom S hit k xs ((k, c) :: found) := by
  intro o b
  constructor
  · intro hmem
    rcases List.mem_cons.mp hmem with heq | htail
    · -- the item at the front: nothing begins before it
      obtain ⟨rfl, rfl⟩ := Prod.mk.inj heq
      refine ⟨Nat.le_refl _, ?_, hc, ?_⟩
      · rw [Nat.sub_self, List.drop_zero]
        exact h
      · rintro f d hfd ⟨hlt, -⟩
        rcases List.mem_cons.mp hfd with hfd | hfd
        · obtain ⟨rfl, rfl⟩ := Prod.mk.inj hfd
          exact Nat.lt_irrefl _ hlt
        · obtain ⟨hge, -⟩ := (hrest f d).mp hfd
          omega
    · obtain ⟨hge, hnext, hb, hfree⟩ := (hrest o b).mp htail
      refine ⟨by omega, ?_, hb, ?_⟩
      · rw [← drop_behind xs hge]
        exact hnext
      · rintro f d hfd hin
        rcases List.mem_cons.mp hfd with hfd | hfd
        · obtain ⟨rfl, rfl⟩ := Prod.mk.inj hfd
          omega
        · exact hfree f d hfd hin
  · rintro ⟨hge, hnext, hb, hfree⟩
    rcases Nat.eq_or_lt_of_le hge with rfl | hlt
    · rw [Nat.sub_self, List.drop_zero, h] at hnext
      cases hnext
      exact List.mem_cons_self
    · have hout : k + S.width c ≤ o := by
        have := hfree k c List.mem_cons_self
        omega
      refine List.mem_cons_of_mem _ ((hrest o b).mpr ⟨hout, ?_, hb, ?_⟩)
      · rw [drop_behind xs hout]
        exact hnext
      · intro f d hfd
        exact hfree f d (List.mem_cons_of_mem _ hfd)

/-- A miss at the front leaves the greedy choice of the rest as it is. -/
theorem GreedyFrom.of_miss {k : Nat} {xs : List α} {c : β} {found : List (Nat × β)}
    (h : S.next xs = some c) (hc : hit c = false) (hone : S.width c = 1)
    (hrest : GreedyFrom S hit (k + S.width c) (xs.drop (S.width c)) found) :
    GreedyFrom S hit k xs found := by
  intro o b
  constructor
  · intro hmem
    obtain ⟨hge, hnext, hb, hfree⟩ := (hrest o b).mp hmem
    refine ⟨by omega, ?_, hb, hfree⟩
    rw [← drop_behind xs hge]
    exact hnext
  · rintro ⟨hge, hnext, hb, hfree⟩
    rcases Nat.eq_or_lt_of_le hge with rfl | hlt
    · -- a miss sits here, so no hit can
      rw [Nat.sub_self, List.drop_zero, h] at hnext
      cases hnext
      cases hc.symm.trans hb
    · have hout : k + S.width c ≤ o := by omega
      refine (hrest o b).mpr ⟨hout, ?_, hb, hfree⟩
      rw [drop_behind xs hout]
      exact hnext

/-- **Greedy leftmost.**  The hits of a drain are the greedy choice. -/
theorem hits_greedy
    (hmiss : ∀ {xs b}, S.next xs = some b → hit b = false → S.width b = 1)
    (hwait : ∀ {xs}, S.next xs = none →
      ∀ o b, S.next (xs.drop o) = some b → hit b = false)
    (xs : List α) : ∀ k, GreedyFrom S hit k xs (hits S hit k (scan S xs).1) := by
  induction xs using scan_induction S with
  | hstop xs h =>
      intro k o b
      rw [scan_none S h]
      constructor
      · intro hmem
        cases hmem
      · rintro ⟨-, hnext, hb, -⟩
        rw [hwait h _ _ hnext] at hb
        cases hb
  | hstep xs c h ih =>
      intro k
      rw [scan_some S h]
      cases hc : hit c with
      | true =>
          rw [hits_cons_hit S hc]
          exact GreedyFrom.cons_hit S h hc (ih (k + S.width c))
      | false =>
          rw [hits_cons_miss S hc]
          exact GreedyFrom.of_miss S h hc (hmiss h hc) (ih (k + S.width c))

end Greedy

end StreamScanner
