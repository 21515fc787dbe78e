import Mathlib.Data.List.Basic

/-! # Items handed over in batches

    A batcher keeps the items that arrive until it is told to hand them over; then
    all that wait make up one batch.  When that happens is up to a schedule: a list
    of arrivals, each with the decision whether a batch follows.

    The conservation law is `items_run`: batches and waiting items, in order, are what
    has arrived. -/

namespace Batches

variable {α : Type}

/-- The batches so far, and the items that wait for the next. -/
structure Batcher (α : Type) where
  delivered : List (List α)
  waiting   : List α

/-- Nothing has arrived. -/
def Batcher.init : Batcher α := ⟨[], []⟩

/-- An arrival, and a batch behind it or not. -/
def Batcher.step (b : Batcher α) (arrival : List α × Bool) : Batcher α :=
  if arrival.2 = true then ⟨b.delivered ++ [b.waiting ++ arrival.1], []⟩
  else ⟨b.delivered, b.waiting ++ arrival.1⟩

/-- A schedule of arrivals. -/
def Batcher.run (b : Batcher α) (arrivals : List (List α × Bool)) : Batcher α :=
  arrivals.foldl Batcher.step b

/-- All there is, in order. -/
def Batcher.items (b : Batcher α) : List α := b.delivered.flatten ++ b.waiting

theorem items_step (b : Batcher α) (arrival : List α × Bool) :
    (b.step arrival).items = b.items ++ arrival.1 := by
  rw [Batcher.step]
  by_cases h : arrival.2 = true
  · rw [if_pos h]
    show (b.delivered ++ [b.waiting ++ arrival.1]).flatten ++ [] = _
    rw [List.append_nil, List.flatten_append, List.flatten_singleton, ← List.append_assoc]
    rfl
  · rw [if_neg h]
    exact (List.append_assoc _ _ _).symm

/-- **Conservation**: nothing is lost, doubled or moved. -/
theorem items_run (arrivals : List (List α × Bool)) (b : Batcher α) :
    (b.run arrivals).items = b.items ++ arrivals.flatMap Prod.fst := by
  induction arrivals generalizing b with
  | nil => exact (List.append_nil _).symm
  | cons a arrivals ih =>
      show ((b.step a).run arrivals).items = _
      rw [ih, items_step, List.flatMap_cons, List.append_assoc]

theorem items_run_init (arrivals : List (List α × Bool)) :
    (Batcher.init.run arrivals).items = arrivals.flatMap Prod.fst := by
  rw [items_run]
  rfl

end Batches
