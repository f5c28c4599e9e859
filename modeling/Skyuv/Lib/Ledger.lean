import Mathlib.Data.List.Basic

/-!
# Counting the holders of a token

Items that carry a token lie in lists, and the lists in the accounts of a larger
structure.  `copies` counts the items with a given token; that nothing is lost
or duplicated is an equation between such counts.
-/

set_option autoImplicit false

namespace Ledger

variable {Item Token Account : Type} [DecidableEq Token]

/-- How many of the items carry the token. -/
def copies (mark : Item → Token) (token : Token) (items : List Item) : Nat :=
  items.countP fun item => mark item = token

variable {mark : Item → Token} {token : Token}

@[simp]
theorem copies_nil : copies mark token [] = 0 := rfl

@[simp]
theorem copies_append (first second : List Item) :
    copies mark token (first ++ second) = copies mark token first + copies mark token second :=
  List.countP_append

theorem copies_cons (item : Item) (rest : List Item) :
    copies mark token (item :: rest) = copies mark token [item] + copies mark token rest :=
  copies_append [item] rest

theorem copies_singleton (item : Item) :
    copies mark token [item] = if mark item = token then 1 else 0 := by
  simp [copies, List.countP_singleton]

/-- Taking out one item takes out its token. -/
theorem copies_eraseIdx {items : List Item} {index : Nat} {item : Item}
    (at_index : items[index]? = some item) :
    copies mark token (items.eraseIdx index) + copies mark token [item] =
      copies mark token items := by
  induction items generalizing index with
  | nil => simp at at_index
  | cons head rest ih =>
      cases index with
      | zero =>
          obtain rfl : head = item := by simpa using at_index
          rw [List.eraseIdx_cons_zero, copies_cons head rest, Nat.add_comm]
      | succ index =>
          rw [List.eraseIdx_cons_succ, copies_cons head, copies_cons head rest, Nat.add_assoc,
            ih (by simpa using at_index)]

/-- Replacing one account changes the total by what the two accounts hold. -/
theorem copies_flatMap_set {accounts : List Account} {holdings : Account → List Item} {index : Nat}
    {before after : Account} (at_index : accounts[index]? = some before) :
    copies mark token ((accounts.set index after).flatMap holdings) +
        copies mark token (holdings before) =
      copies mark token (accounts.flatMap holdings) + copies mark token (holdings after) := by
  induction accounts generalizing index with
  | nil => simp at at_index
  | cons head rest ih =>
      cases index with
      | zero =>
          obtain rfl : head = before := by simpa using at_index
          simp only [List.set_cons_zero, List.flatMap_cons, copies_append]
          omega
      | succ index =>
          have tail := ih (by simpa using at_index)
          simp only [List.set_cons_succ, List.flatMap_cons, copies_append]
          omega

end Ledger
