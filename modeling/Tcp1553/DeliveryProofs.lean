import Mathlib.Data.List.Basic

/-! # Delivery through a queue

    A producer collects items, hands them over in batches, and a consumer takes the
    batches from a queue and shows them.

    * `Feed` is where the items are, `due` all of them in order;
    * `due_run` says that between two restarts nothing is lost, doubled or reordered,
      `sublist_run` what is left of that in any run;
    * `drain` lets the consumer take all batches that wait. -/

namespace Delivery

variable {α : Type}

/-- Where the items are. -/
structure Feed (α : Type) where
  shown   : List α
  queued  : List (List α)
  pending : List α
  deriving DecidableEq, Repr

/-- What happens to them. -/
inductive Event (α : Type) where
  /-- The producer collects items. -/
  | receive (as : List α)
  /-- It hands over what it holds. -/
  | handOver
  /-- The consumer takes a batch. -/
  | deliver
  /-- The consumer empties what it shows. -/
  | empty
  /-- The producer forgets what it holds. -/
  | restart
  deriving DecidableEq, Repr

/-- One event. -/
def Feed.step (f : Feed α) : Event α → Feed α
  | .receive as => { f with pending := f.pending ++ as }
  | .handOver =>
      if f.pending = [] then f else { f with queued := f.queued ++ [f.pending], pending := [] }
  | .deliver =>
      match f.queued with
      | [] => f
      | batch :: queued => { f with shown := f.shown ++ batch, queued }
  | .empty => { f with shown := [] }
  | .restart => { f with pending := [] }

/-- A run. -/
def Feed.run (f : Feed α) (es : List (Event α)) : Feed α := es.foldl Feed.step f

/-- All items, in order. -/
def Feed.due (f : Feed α) : List α := f.shown ++ (f.queued.flatten ++ f.pending)

/-- The event keeps all items there are. -/
def Event.Keeps : Event α → Prop
  | .empty => False
  | .restart => False
  | _ => True

/-- What an event brings. -/
def Event.brings : Event α → List α
  | .receive as => as
  | _ => []

/-- What the events of a run bring. -/
def received (es : List (Event α)) : List α := es.flatMap Event.brings

theorem Feed.run_append (f : Feed α) (es es' : List (Event α)) :
    f.run (es ++ es') = (f.run es).run es' :=
  List.foldl_append

/-- Handing over moves no item past another. -/
theorem due_handOver (f : Feed α) : (f.step .handOver).due = f.due := by
  rw [Feed.step]
  split
  · rfl
  · show f.shown ++ ((f.queued ++ [f.pending]).flatten ++ []) = _
    rw [List.append_nil, List.flatten_append, List.flatten_singleton]
    rfl

/-- Taking a batch does not, either. -/
theorem due_deliver (f : Feed α) : (f.step .deliver).due = f.due := by
  obtain ⟨shown, queued, pending⟩ := f
  cases queued with
  | nil => rfl
  | cons batch queued =>
      show (shown ++ batch) ++ (queued.flatten ++ pending)
        = shown ++ ((batch :: queued).flatten ++ pending)
      rw [List.flatten_cons, List.append_assoc, List.append_assoc]

/-- **One event** that keeps the items adds what it brings. -/
theorem due_step (f : Feed α) {e : Event α} (h : e.Keeps) :
    (f.step e).due = f.due ++ e.brings := by
  cases e with
  | receive as =>
      show f.shown ++ (f.queued.flatten ++ (f.pending ++ as)) = f.shown ++ _ ++ as
      simp only [List.append_assoc]
  | handOver => exact (due_handOver f).trans (List.append_nil _).symm
  | deliver => exact (due_deliver f).trans (List.append_nil _).symm
  | empty => exact h.elim
  | restart => exact h.elim

/-- **Conservation**: in a run that keeps the items, what is due is what was due and
    what has been received since. -/
theorem due_run (es : List (Event α)) :
    ∀ f : Feed α, (∀ e ∈ es, e.Keeps) → (f.run es).due = f.due ++ received es := by
  induction es with
  | nil => exact fun f _ => (List.append_nil _).symm
  | cons e es ih =>
      intro f h
      rw [List.forall_mem_cons] at h
      show ((f.step e).run es).due = f.due ++ (e.brings ++ received es)
      rw [ih (f.step e) h.2, due_step f h.1, List.append_assoc]

/-- One event leaves the items in order. -/
theorem sublist_step (f : Feed α) (e : Event α) :
    (f.step e).due.Sublist (f.due ++ e.brings) := by
  cases e with
  | empty => exact (List.sublist_append_right _ _).trans (List.sublist_append_left _ _)
  | restart =>
      refine List.Sublist.trans ?_ (List.sublist_append_left _ _)
      exact (List.Sublist.refl _).append ((List.Sublist.refl _).append (List.nil_sublist _))
  | receive as => exact (due_step f (e := .receive as) trivial) ▸ List.Sublist.refl _
  | handOver => exact (due_step f (e := .handOver) trivial) ▸ List.Sublist.refl _
  | deliver => exact (due_step f (e := .deliver) trivial) ▸ List.Sublist.refl _

/-- **In any run** items are shown in the order they came in, and none twice. -/
theorem sublist_run (es : List (Event α)) :
    ∀ f : Feed α, (f.run es).due.Sublist (f.due ++ received es) := by
  induction es with
  | nil => exact fun f => List.sublist_append_left _ _
  | cons e es ih =>
      intro f
      refine (ih (f.step e)).trans ?_
      show ((f.step e).due ++ received es).Sublist (f.due ++ (e.brings ++ received es))
      rw [← List.append_assoc]
      exact (sublist_step f e).append (List.Sublist.refl _)

/-- Batches that wait are not empty. -/
def Feed.Sound (f : Feed α) : Prop := ∀ batch ∈ f.queued, batch ≠ []

theorem sound_step {f : Feed α} (h : f.Sound) (e : Event α) : (f.step e).Sound := by
  cases e with
  | receive as => exact h
  | handOver =>
      rw [Feed.step]
      split
      · exact h
      · rename_i hpending
        intro batch hbatch
        rcases List.mem_append.mp hbatch with hold | hnew
        · exact h batch hold
        · rw [List.mem_singleton.mp hnew]
          exact hpending
  | deliver =>
      obtain ⟨shown, queued, pending⟩ := f
      cases queued with
      | nil => exact h
      | cons first queued => exact fun batch hbatch => h batch (List.mem_cons_of_mem _ hbatch)
  | empty => exact h
  | restart => exact h

theorem sound_run (es : List (Event α)) : ∀ {f : Feed α}, f.Sound → (f.run es).Sound := by
  induction es with
  | nil => exact fun h => h
  | cons e es ih => exact fun h => ih (sound_step h e)

/-- Nothing is in the queue when nothing is in its batches. -/
theorem Feed.Sound.queued_eq_nil {f : Feed α} (h : f.Sound) (hnone : f.queued.flatten = []) :
    f.queued = [] := by
  cases hqueued : f.queued with
  | nil => rfl
  | cons batch queued =>
      have hbatch : batch ∈ f.queued := by
        rw [hqueued]
        exact List.mem_cons_self
      exact absurd (List.flatten_eq_nil_iff.mp hnone batch hbatch) (h batch hbatch)

/-- **The consumer catches up**: taking every batch that waits shows them all. -/
theorem drain (f : Feed α) :
    f.run (List.replicate f.queued.length .deliver)
      = { f with shown := f.shown ++ f.queued.flatten, queued := [] } := by
  obtain ⟨shown, queued, pending⟩ := f
  induction queued generalizing shown with
  | nil => exact congrArg (Feed.mk · [] pending) (List.append_nil shown).symm
  | cons batch queued ih =>
      have hrest := ih (shown ++ batch)
      show Feed.run ⟨shown ++ batch, queued, pending⟩ (List.replicate queued.length .deliver)
        = ⟨shown ++ (batch :: queued).flatten, [], pending⟩
      rw [hrest, List.flatten_cons, List.append_assoc]

end Delivery
