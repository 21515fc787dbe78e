import Mathlib.Data.List.Basic

/-! # Readers that read printed text back

    A reader takes something off the front of a list of characters, or fails.
    `Reads r text a next` says that `r` takes exactly `text` off and returns `a`,
    provided that what follows meets `next`; a numeral ends only where no digit
    follows, a fixed word ends anywhere.

    * `reads_bind` composes the round trips of the parts of a text, `reads_orElse_left`
      and `reads_orElse_right` choose between alternatives;
    * `reads_literal`, `reads_anyChar`, `reads_spanning` and `reads_number` are the
      parts;
    * `listOf` reads items as long as another reader says that one more follows, and
      `readAll` reads items to the end of the text (`readAll_join`). -/

namespace TextReaders

variable {α β γ : Type}

/-- Take something off the front, or fail. -/
abbrev Reader (α : Type) : Type := StateT (List Char) Option α

/-- The text is read as the value in front of anything that meets `next`. -/
def Reads (r : Reader α) (text : String) (a : α) (next : List Char → Prop) : Prop :=
  ∀ rest, next rest → r.run (text.toList ++ rest) = some (a, rest)

/-- Whatever follows. -/
def Anything (_rest : List Char) : Prop := True

/-- What follows does not begin with such a character. -/
def NoneOf (p : Char → Bool) (rest : List Char) : Prop := ∀ c ∈ rest.head?, p c = false

theorem noneOf_cons {p : Char → Bool} {c : Char} (h : p c = false) (cs : List Char) :
    NoneOf p (c :: cs) := by
  intro d hd
  obtain rfl := Option.some.inj hd
  exact h

/-! ## Composing -/

theorem Reads.mono {r : Reader α} {text : String} {a : α} {next next' : List Char → Prop}
    (h : Reads r text a next) (hnext : ∀ rest, next' rest → next rest) : Reads r text a next' :=
  fun rest hrest => h rest (hnext rest hrest)

/-- **Sequences.**  The second part is what follows the first. -/
theorem reads_bind {r : Reader α} {f : α → Reader β} {text text' : String} {a : α} {b : β}
    {next next' : List Char → Prop} (h : Reads r text a next) (h' : Reads (f a) text' b next')
    (hnext : ∀ rest, next' rest → next (text'.toList ++ rest)) :
    Reads (r >>= f) (text ++ text') b next' := by
  intro rest hrest
  rw [StateT.run_bind, String.toList_append, List.append_assoc, h _ (hnext rest hrest)]
  exact h' rest hrest

/-- A part that ends anywhere, and the rest. -/
theorem reads_then {r : Reader α} {f : α → Reader β} {text text' : String} {a : α} {b : β}
    {next : List Char → Prop} (h : Reads r text a Anything) (h' : Reads (f a) text' b next) :
    Reads (r >>= f) (text ++ text') b next :=
  reads_bind h h' fun _ _ => trivial

/-- A last value that reads nothing. -/
theorem reads_return {r : Reader α} {f : α → β} {text : String} {a : α}
    {next : List Char → Prop} (h : Reads r text a next) :
    Reads (do return f (← r)) text (f a) next := by
  intro rest hrest
  rw [StateT.run_bind, h rest hrest]
  rfl

theorem reads_orElse_left {r r' : Reader α} {text : String} {a : α} {next : List Char → Prop}
    (h : Reads r text a next) : Reads (r <|> r') text a next := by
  intro rest hrest
  show (r.run (text.toList ++ rest)).orElse (fun _ => r'.run (text.toList ++ rest)) = _
  rw [h rest hrest]
  rfl

theorem reads_orElse_right {r r' : Reader α} {text : String} {a : α} {next : List Char → Prop}
    (hfails : ∀ rest, next rest → r.run (text.toList ++ rest) = none)
    (h : Reads r' text a next) : Reads (r <|> r') text a next := by
  intro rest hrest
  show (r.run (text.toList ++ rest)).orElse (fun _ => r'.run (text.toList ++ rest)) = _
  rw [hfails rest hrest]
  exact h rest hrest

/-! ## Parts -/

/-- A fixed word. -/
def literal (word : String) : Reader Unit := fun cs =>
  if word.toList <+: cs then some ((), cs.drop word.toList.length) else none

theorem reads_literal (word : String) : Reads (literal word) word () Anything := by
  intro rest _
  show (if word.toList <+: word.toList ++ rest then _ else none) = _
  rw [if_pos (List.prefix_append _ _), List.drop_left]

/-- A word and a value for it. -/
def keyword (word : String) (a : α) : Reader α := do
  literal word
  return a

theorem reads_keyword (word : String) (a : α) : Reads (keyword word a) word a Anything :=
  reads_return (reads_literal word)

/-- A word fails where its characters end. -/
theorem keyword_fails {word : String} {a : α} (pre : List Char) {d : Char} {cs rest : List Char}
    (hword : word.toList = pre ++ d :: cs) (hrest : NoneOf (· == d) rest) :
    (keyword word a).run (pre ++ rest) = none := by
  have hfails : ¬word.toList <+: pre ++ rest := by
    intro h
    rw [hword, List.prefix_append_right_inj] at h
    cases rest with
    | nil => exact absurd (List.prefix_nil.mp h) (List.cons_ne_nil _ _)
    | cons c rest =>
        obtain ⟨rfl, -⟩ := List.cons_prefix_cons.mp h
        have hne : (d == d) = false := hrest d rfl
        rw [beq_self_eq_true] at hne
        cases hne
  have hliteral : (literal word).run (pre ++ rest) = none := if_neg hfails
  rw [keyword, StateT.run_bind, hliteral]
  rfl

/-- One character. -/
def anyChar : Reader Char
  | [] => none
  | c :: cs => some (c, cs)

theorem reads_anyChar (c : Char) : Reads anyChar (String.singleton c) c Anything := by
  intro rest _
  rw [String.toList_singleton]
  rfl

/-- As many characters of a kind as there are. -/
def spanning (p : Char → Bool) : Reader (List Char) := fun cs =>
  some (cs.takeWhile p, cs.dropWhile p)

theorem reads_spanning {p : Char → Bool} {text : String} (h : ∀ c ∈ text.toList, p c = true) :
    Reads (spanning p) text text.toList (NoneOf p) := by
  intro rest hrest
  have htake : rest.takeWhile p = [] := by
    cases rest with
    | nil => rfl
    | cons c cs => exact List.takeWhile_cons_of_neg (Bool.eq_false_iff.mp (hrest c rfl))
  have hdrop : rest.dropWhile p = rest := by
    cases rest with
    | nil => rfl
    | cons c cs => exact List.dropWhile_cons_of_neg (Bool.eq_false_iff.mp (hrest c rfl))
  show some ((text.toList ++ rest).takeWhile p, (text.toList ++ rest).dropWhile p) = _
  rw [List.takeWhile_append_of_pos h, List.dropWhile_append_of_pos h, htake, hdrop,
    List.append_nil]

/-- A decimal numeral. -/
def number : Reader Nat := do
  return Nat.ofDigitChars 10 (← spanning Char.isDigit) 0

theorem isDigit_of_mem_toString {n : Nat} {c : Char} (h : c ∈ (toString n).toList) :
    c.isDigit = true := by
  rw [Nat.toString_eq_ofList_toDigits, String.toList_ofList] at h
  exact Nat.isDigit_of_mem_toDigits (by decide) (by decide) h

/-- **Numerals.**  What `toString` prints is read up to the last digit. -/
theorem reads_number (n : Nat) : Reads number (toString n) n (NoneOf Char.isDigit) := by
  have hvalue : Nat.ofDigitChars 10 (toString n).toList 0 = n := by
    rw [Nat.toString_eq_ofList_toDigits, String.toList_ofList, Nat.ofDigitChars_ten_toDigits]
  have h := reads_spanning fun c hc => isDigit_of_mem_toString (n := n) hc
  have hmapped := reads_return (f := fun ds => Nat.ofDigitChars 10 ds 0) h
  rw [hvalue] at hmapped
  exact hmapped

/-- A number in front of a fixed word. -/
theorem reads_numberThen {f : Nat → Reader α} {n : Nat} {word tail : String} {a : α}
    (hword : NoneOf Char.isDigit word.toList) (hne : word ≠ "")
    (h : Reads (f n) (word ++ tail) a Anything) :
    Reads (number >>= f) (toString n ++ (word ++ tail)) a Anything := by
  refine reads_bind (reads_number n) h fun rest _ c hc => ?_
  rw [String.toList_append, List.append_assoc] at hc
  cases hchars : word.toList with
  | nil => exact absurd (String.toList_eq_nil_iff.mp hchars) hne
  | cons d ds =>
      rw [hchars] at hc hword
      exact hword c hc

/-! ## Lists -/

/-- Items, as long as the second reader says that one more follows; the number bounds
    how many. -/
def listOf (item : Reader α) (more : Reader Bool) : Nat → Reader (List α)
  | 0 => failure
  | k + 1 => do
      let a ← item
      if ← more then return a :: (← listOf item more k)
      else return [a]

section ListOf

variable {item : Reader α} {more : Reader Bool} {text sep : String} {a : α}
  {next next' next'' : List Char → Prop}

/-- The last item. -/
theorem reads_listOf_last (hitem : Reads item text a next) (hsep : Reads more sep false next')
    (hnext : ∀ rest, next' rest → next (sep.toList ++ rest)) (k : Nat) :
    Reads (listOf item more (k + 1)) (text ++ sep) [a] next' := by
  refine reads_bind hitem ?_ hnext
  intro rest hrest
  rw [StateT.run_bind, hsep rest hrest]
  rfl

/-- An item, and the ones behind it. -/
theorem reads_listOf_cons {tail : String} {as : List α} {k : Nat} (hitem : Reads item text a next)
    (hsep : Reads more sep true next') (htail : Reads (listOf item more k) tail as next'')
    (hnext : ∀ rest, next (sep.toList ++ rest))
    (hnext' : ∀ rest, next'' rest → next' (tail.toList ++ rest)) :
    Reads (listOf item more (k + 1)) (text ++ (sep ++ tail)) (a :: as) next'' := by
  refine reads_bind hitem (reads_bind hsep (reads_return htail) hnext') fun rest _ => ?_
  rw [String.toList_append, List.append_assoc]
  exact hnext _

end ListOf

/-- Items to the end of the text; the number bounds how many. -/
def readUpTo (item : Reader α) : Nat → List Char → Option (List α)
  | _, [] => some []
  | 0, _ :: _ => none
  | k + 1, c :: cs => do
      let (a, rest) ← item.run (c :: cs)
      return a :: (← readUpTo item k rest)

/-- Items to the end of the text. -/
def readAll (item : Reader α) (text : String) : Option (List α) :=
  readUpTo item text.toList.length text.toList

theorem readUpTo_join {item : Reader α} {text : γ → String} {value : γ → α} {xs : List γ}
    (h : ∀ x ∈ xs, text x ≠ "" ∧ Reads item (text x) (value x) Anything) :
    ∀ k, xs.length ≤ k →
      readUpTo item k (String.join (xs.map text)).toList = some (xs.map value) := by
  induction xs with
  | nil =>
      intro k _
      rw [List.map_nil, String.join_nil, List.map_nil]
      rw [show ("" : String).toList = [] from rfl, readUpTo]
  | cons x xs ih =>
      intro k hk
      obtain ⟨hne, hreads⟩ := h x List.mem_cons_self
      have hrest := ih fun y hy => h y (List.mem_cons_of_mem _ hy)
      have hitem := hreads (String.join (xs.map text)).toList trivial
      rw [List.map_cons, String.join_cons, String.toList_append, List.map_cons]
      cases htext : (text x).toList with
      | nil => exact absurd (String.toList_eq_nil_iff.mp htext) hne
      | cons c cs =>
          rw [htext] at hitem
          cases k with
          | zero => exact absurd hk (Nat.not_succ_le_zero _)
          | succ k =>
              have htail := hrest k (Nat.le_of_succ_le_succ hk)
              rw [List.cons_append] at hitem ⊢
              rw [readUpTo, hitem]
              show (do return value x :: (← readUpTo item k _)) = _
              rw [htail]
              rfl

/-- **Texts one behind the other** are read back one by one. -/
theorem readAll_join {item : Reader α} {text : γ → String} {value : γ → α} {xs : List γ}
    (h : ∀ x ∈ xs, text x ≠ "" ∧ Reads item (text x) (value x) Anything) :
    readAll item (String.join (xs.map text)) = some (xs.map value) := by
  refine readUpTo_join h _ ?_
  -- every text has a character
  induction xs with
  | nil => exact Nat.zero_le _
  | cons x xs ih =>
      have hrest := ih fun y hy => h y (List.mem_cons_of_mem _ hy)
      have hpos : 0 < (text x).toList.length := by
        refine List.length_pos_iff.mpr fun hnil => ?_
        exact (h x List.mem_cons_self).1 (String.toList_eq_nil_iff.mp hnil)
      rw [List.map_cons, String.join_cons, String.toList_append, List.length_append,
        List.length_cons]
      omega

end TextReaders
