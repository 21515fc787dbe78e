import Mathlib.Data.List.Basic

/-! # Lines of a text

    A text is a list of characters, and a line ends behind a line break.

    * `breaks` counts the line breaks, `linePos n` is where line `n` begins, and
      `dropLines n` takes the lines in front of it away;
    * `drop_linePos` says that these two cuts are the same;
    * `dropLines_append` and `dropLines_dropLines` say how cuts compose, and
      `dropLines_flatten` what a cut leaves of blocks put one behind the other: the
      end of one block, and all blocks behind it. -/

namespace TextLines

/-- The line breaks of a text. -/
def breaks (cs : List Char) : Nat := cs.count '\n'

/-- Take the first lines away. -/
def dropLines : Nat → List Char → List Char
  | 0, cs => cs
  | _ + 1, [] => []
  | n + 1, c :: cs => if c = '\n' then dropLines n cs else dropLines (n + 1) cs

/-- Where a line begins. -/
def linePos : Nat → List Char → Nat
  | 0, _ => 0
  | _ + 1, [] => 0
  | n + 1, c :: cs => if c = '\n' then linePos n cs + 1 else linePos (n + 1) cs + 1

@[simp] theorem dropLines_zero (cs : List Char) : dropLines 0 cs = cs := by
  rw [dropLines]

@[simp] theorem dropLines_nil (n : Nat) : dropLines n [] = [] := by
  cases n with
  | zero => rfl
  | succ n => rfl

theorem dropLines_break (n : Nat) (cs : List Char) :
    dropLines (n + 1) ('\n' :: cs) = dropLines n cs := by
  rw [dropLines, if_pos rfl]

theorem dropLines_char (n : Nat) {c : Char} (h : c ≠ '\n') (cs : List Char) :
    dropLines (n + 1) (c :: cs) = dropLines (n + 1) cs := by
  rw [dropLines, if_neg h]

theorem breaks_break (cs : List Char) : breaks ('\n' :: cs) = breaks cs + 1 :=
  List.count_cons_self

theorem breaks_char {c : Char} (h : c ≠ '\n') (cs : List Char) : breaks (c :: cs) = breaks cs :=
  List.count_cons_of_ne h

theorem breaks_append (as bs : List Char) : breaks (as ++ bs) = breaks as + breaks bs :=
  List.count_append

/-- **Where a line begins** is where a cut in front of it leaves off. -/
theorem drop_linePos (cs : List Char) : ∀ n, cs.drop (linePos n cs) = dropLines n cs := by
  induction cs with
  | nil => intro n; rw [dropLines_nil, List.drop_nil]
  | cons c cs ih =>
      intro n
      cases n with
      | zero => rw [linePos, dropLines_zero, List.drop_zero]
      | succ n =>
          by_cases hc : c = '\n'
          · rw [hc, linePos, if_pos rfl, dropLines_break, List.drop_succ_cons, ih]
          · rw [linePos, if_neg hc, dropLines_char n hc, List.drop_succ_cons, ih]

/-- A line that is not the first begins behind something. -/
theorem linePos_pos {n : Nat} {cs : List Char} (hn : 0 < n) (h : n ≤ breaks cs) :
    0 < linePos n cs := by
  obtain ⟨n, rfl⟩ := Nat.exists_eq_succ_of_ne_zero (Nat.ne_of_gt hn)
  cases cs with
  | nil => exact absurd h (Nat.not_succ_le_zero _)
  | cons c cs =>
      rw [linePos]
      split <;> exact Nat.zero_lt_succ _

/-- A cut takes as many line breaks away. -/
theorem breaks_dropLines (cs : List Char) : ∀ n, breaks (dropLines n cs) = breaks cs - n := by
  induction cs with
  | nil => intro n; rw [dropLines_nil]; exact (Nat.zero_sub n).symm
  | cons c cs ih =>
      intro n
      cases n with
      | zero => rw [dropLines_zero, Nat.sub_zero]
      | succ n =>
          by_cases hc : c = '\n'
          · rw [hc, dropLines_break, breaks_break, ih, Nat.add_sub_add_right]
          · rw [dropLines_char n hc, breaks_char hc, ih]

/-- **Cuts and more text.**  A cut that ends in the first part leaves the second alone;
    any other takes all of the first part away. -/
theorem dropLines_append (as bs : List Char) :
    ∀ n, dropLines n (as ++ bs)
      = if n ≤ breaks as then dropLines n as ++ bs else dropLines (n - breaks as) bs := by
  induction as with
  | nil =>
      intro n
      rw [List.nil_append, dropLines_nil, List.nil_append]
      show dropLines n bs = if n ≤ 0 then bs else dropLines (n - 0) bs
      cases n with
      | zero => rw [if_pos (Nat.le_refl 0), dropLines_zero]
      | succ n => rw [if_neg (Nat.not_succ_le_zero n), Nat.sub_zero]
  | cons c as ih =>
      intro n
      cases n with
      | zero => rw [if_pos (Nat.zero_le _), dropLines_zero, dropLines_zero]
      | succ n =>
          rw [List.cons_append]
          by_cases hc : c = '\n'
          · rw [hc, dropLines_break, dropLines_break, breaks_break, ih, Nat.add_sub_add_right]
            simp only [Nat.add_le_add_iff_right]
          · rw [dropLines_char n hc, dropLines_char n hc, breaks_char hc, ih]

/-- Cuts add up. -/
theorem dropLines_dropLines (cs : List Char) :
    ∀ n m, dropLines m (dropLines n cs) = dropLines (n + m) cs := by
  induction cs with
  | nil => intro n m; rw [dropLines_nil, dropLines_nil, dropLines_nil]
  | cons c cs ih =>
      intro n m
      cases n with
      | zero => rw [dropLines_zero, Nat.zero_add]
      | succ n =>
          rw [Nat.add_right_comm]
          by_cases hc : c = '\n'
          · rw [hc, dropLines_break, dropLines_break, ih]
          · rw [dropLines_char n hc, dropLines_char _ hc, ih, Nat.add_right_comm]

/-- **A cut through blocks** leaves the end of one block and all blocks behind it. -/
theorem dropLines_flatten (blocks : List (List Char)) :
    ∀ n, ∃ gone rest cut, blocks = gone ++ rest ∧ dropLines n blocks.flatten = cut ++ rest.flatten ∧
      (cut = [] ∨ ∃ old b m, gone = old ++ [b] ∧ 0 < m ∧ m ≤ breaks b ∧ cut = dropLines m b) := by
  induction blocks with
  | nil => exact fun n => ⟨[], [], [], rfl, dropLines_nil n, Or.inl rfl⟩
  | cons b blocks ih =>
      intro n
      rw [List.flatten_cons, dropLines_append]
      by_cases hn : n ≤ breaks b
      · rw [if_pos hn]
        rcases Nat.eq_zero_or_pos n with rfl | hpos
        · refine ⟨[], b :: blocks, [], rfl, ?_, Or.inl rfl⟩
          rw [dropLines_zero, List.flatten_cons, List.nil_append]
        · exact ⟨[b], blocks, dropLines n b, rfl, rfl, Or.inr ⟨[], b, n, rfl, hpos, hn, rfl⟩⟩
      · rw [if_neg hn]
        obtain ⟨gone, rest, cut, hblocks, hdrop, hcut⟩ := ih (n - breaks b)
        refine ⟨b :: gone, rest, cut, by rw [hblocks, List.cons_append], hdrop, ?_⟩
        refine hcut.imp_right ?_
        rintro ⟨old, d, m, hgone, hm⟩
        exact ⟨b :: old, d, m, by rw [hgone, List.cons_append], hm⟩

end TextLines
