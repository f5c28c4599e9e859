import Mathlib.Data.List.Perm.Basic

/-!
# Custody of tokens

A token is accepted into a queue.  Whoever takes it out hands it to a holder or
drops it, and a holder that goes away releases what it holds.  The books say where
every token is; no event but an acceptance changes which tokens there are.
-/

set_option autoImplicit false

namespace Custody

universe u v

variable {Token : Type u} {Holder : Type v}

inductive Event (Token : Type u) (Holder : Type v) where
  | accepted (token : Token)
  | handed (holder : Holder)
  | dropped
  | released (holder : Holder)
  deriving DecidableEq, Repr

structure Inventory (Token : Type u) (Holder : Type v) where
  queued : List Token
  held : List (Holder × Token)
  released : List Token
  lost : List Token
  deriving DecidableEq, Repr

namespace Inventory

def empty : Inventory Token Holder := ⟨[], [], [], []⟩

/-- Every token that was ever accepted. -/
def all (books : Inventory Token Holder) : List Token :=
  books.queued ++ (books.held.map Prod.snd ++ (books.released ++ books.lost))

variable [DecidableEq Holder]

def record (books : Inventory Token Holder) : Event Token Holder → Inventory Token Holder
  | .accepted token => { books with queued := books.queued ++ [token] }
  | .handed holder =>
      match books.queued with
      | [] => books
      | token :: rest => { books with queued := rest, held := books.held ++ [(holder, token)] }
  | .dropped =>
      match books.queued with
      | [] => books
      | token :: rest => { books with queued := rest, lost := books.lost ++ [token] }
  | .released holder =>
      { books with
        held := books.held.filter fun item => item.1 ≠ holder
        released := books.released ++
          (books.held.filter fun item => item.1 = holder).map Prod.snd }

def recordAll (books : Inventory Token Holder) (events : List (Event Token Holder)) :
    Inventory Token Holder :=
  events.foldl record books

@[simp]
theorem recordAll_nil (books : Inventory Token Holder) : books.recordAll [] = books := rfl

theorem recordAll_append (books : Inventory Token Holder)
    (first second : List (Event Token Holder)) :
    books.recordAll (first ++ second) = (books.recordAll first).recordAll second :=
  List.foldl_append

theorem all_accepted (books : Inventory Token Holder) (token : Token) :
    List.Perm (books.record (.accepted token)).all (token :: books.all) := by
  simp only [all, record, List.append_assoc, List.singleton_append]
  exact List.perm_middle

theorem all_handed (books : Inventory Token Holder) (holder : Holder) :
    List.Perm (books.record (.handed holder)).all books.all := by
  cases queued : books.queued with
  | nil => simp [record, queued]
  | cons token rest =>
      simp only [all, record, queued, List.map_append, List.map_cons, List.map_nil,
        List.append_assoc, List.singleton_append]
      refine (List.Perm.append_left rest List.perm_middle).trans ?_
      exact List.perm_middle

theorem all_dropped (books : Inventory Token Holder) :
    List.Perm (books.record .dropped).all books.all := by
  cases queued : books.queued with
  | nil => simp [record, queued]
  | cons token rest =>
      have last : List.Perm (books.lost ++ [token]) (token :: books.lost) :=
        List.perm_append_singleton token books.lost
      simp only [all, record, queued]
      refine (((last.append_left _).append_left _).append_left rest).trans ?_
      refine (List.Perm.append_left rest ?_).trans List.perm_middle
      exact ((List.perm_middle).append_left _).trans List.perm_middle

theorem all_released (books : Inventory Token Holder) (holder : Holder) :
    List.Perm (books.record (.released holder)).all books.all := by
  have parts := (List.filter_append_perm (fun item => decide (item.1 = holder)) books.held).map
    Prod.snd
  simp only [all, record, decide_not]
  refine List.Perm.append_left books.queued ?_
  refine List.Perm.trans ?_ (parts.append_right (books.released ++ books.lost))
  simp only [List.map_append, List.append_assoc]
  -- the released tokens move to the front, past those of the remaining holders
  refine (List.Perm.append_left _ (List.perm_append_comm_assoc _ _ _)).trans ?_
  exact List.perm_append_comm_assoc _ _ _

/-- Tokens are only lost by being dropped. -/
theorem lost_record (books : Inventory Token Holder) (event : Event Token Holder) :
    books.lost <+: (books.record event).lost := by
  unfold record
  split
  · exact List.prefix_refl _
  · split <;> exact List.prefix_refl _
  · split
    · exact List.prefix_refl _
    · exact List.prefix_append _ _
  · exact List.prefix_refl _

theorem lost_recordAll (books : Inventory Token Holder) (events : List (Event Token Holder)) :
    books.lost <+: (books.recordAll events).lost := by
  induction events generalizing books with
  | nil => exact List.prefix_refl _
  | cons event rest ih => exact (books.lost_record event).trans (ih (books.record event))

/-- Dropping one token after another. -/
theorem recordAll_dropped (books : Inventory Token Holder) (count : Nat) :
    books.recordAll (List.replicate count .dropped) =
      { books with
        queued := books.queued.drop count
        lost := books.lost ++ books.queued.take count } := by
  induction count generalizing books with
  | zero => simp [recordAll]
  | succ count ih =>
      rw [List.replicate_succ, recordAll, List.foldl_cons, ← recordAll, ih]
      cases queued : books.queued with
      | nil => simp [record, queued]
      | cons token rest => simp [record, queued]

theorem all_recordAll_dropped (books : Inventory Token Holder) (count : Nat) :
    List.Perm (books.recordAll (List.replicate count .dropped)).all books.all := by
  induction count generalizing books with
  | zero => exact List.Perm.refl _
  | succ count ih => exact (ih (books.record .dropped)).trans books.all_dropped

end Inventory

end Custody
