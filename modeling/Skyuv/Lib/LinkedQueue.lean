import Mathlib.Data.List.Nodup
import Mathlib.Logic.Function.Basic

/-!
# A queue linked through its nodes

A first-in first-out queue as C programs keep it: every node has a field for
the next one, and the queue points to its first and its last node.  `Holds` ties
the pointers to the list of nodes they stand for.
-/

set_option autoImplicit false

namespace LinkedQueue

universe u

variable {Node : Type u}

structure Links (Node : Type u) where
  head : Option Node
  tail : Option Node
  next : Node → Option Node

/-- Following `next` from `link` visits these nodes and then ends. -/
def Chain (next : Node → Option Node) : Option Node → List Node → Prop
  | link, [] => link = none
  | link, node :: rest => link = some node ∧ Chain next (next node) rest

structure Holds (links : Links Node) (nodes : List Node) : Prop where
  chain : Chain links.next links.head nodes
  tail : links.tail = nodes.getLast?
  nodup : nodes.Nodup

namespace Links

def empty : Links Node := ⟨none, none, fun _ => none⟩

variable [DecidableEq Node]

def append (node : Node) (links : Links Node) : Links Node :=
  let cleared := Function.update links.next node none
  match links.tail with
  | none => ⟨some node, some node, cleared⟩
  | some last => ⟨links.head, some node, Function.update cleared last (some node)⟩

def takeHead (links : Links Node) : Option Node × Links Node :=
  match links.head with
  | none => (none, links)
  | some node =>
      (some node,
        { head := links.next node
          tail := if (links.next node).isNone then none else links.tail
          next := Function.update links.next node none })

/-- `append` for a node that is known to point nowhere. -/
def link (node : Node) (links : Links Node) : Links Node :=
  match links.tail with
  | none => { links with head := some node, tail := some node }
  | some last =>
      { links with tail := some node, next := Function.update links.next last (some node) }

end Links

theorem holds_empty : Holds (Links.empty : Links Node) [] := ⟨rfl, rfl, List.nodup_nil⟩

section Chains

variable [DecidableEq Node] {next : Node → Option Node} {link : Option Node} {nodes : List Node}
  {node : Node}

/-- A node outside the chain may point anywhere. -/
theorem Chain.update (chain : Chain next link nodes) (outside : node ∉ nodes)
    (target : Option Node) : Chain (Function.update next node target) link nodes := by
  induction nodes generalizing link with
  | nil => exact chain
  | cons first rest ih =>
      obtain ⟨found, onward⟩ := chain
      have distinct : first ≠ node := fun same => outside (same ▸ List.mem_cons_self ..)
      refine ⟨found, ?_⟩
      rw [Function.update_of_ne distinct]
      exact ih onward fun member => outside (List.mem_cons_of_mem _ member)

/-- Linking a node to the last one makes the chain longer by it. -/
theorem Chain.concat (chain : Chain next link nodes) (nodup : nodes.Nodup) {last : Node}
    (isLast : nodes.getLast? = some last) (outside : node ∉ nodes) (ends : next node = none) :
    Chain (Function.update next last (some node)) link (nodes ++ [node]) := by
  induction nodes generalizing link with
  | nil => cases isLast
  | cons first rest ih =>
      obtain ⟨found, onward⟩ := chain
      obtain ⟨notAgain, nodup⟩ := List.nodup_cons.mp nodup
      refine ⟨found, ?_⟩
      cases rest with
      | nil =>
          obtain rfl : first = last := by simpa using isLast
          have distinct : node ≠ first := fun same => outside (same ▸ List.mem_cons_self ..)
          rw [Function.update_self]
          exact ⟨rfl, by rw [Function.update_of_ne distinct]; exact ends⟩
      | cons second others =>
          have isLast : (second :: others).getLast? = some last := by simpa using isLast
          have distinct : first ≠ last := by
            rintro rfl
            exact notAgain (List.mem_of_getLast? isLast)
          rw [Function.update_of_ne distinct]
          exact ih onward nodup isLast fun member => outside (List.mem_cons_of_mem _ member)

end Chains

theorem Holds.head {links : Links Node} {nodes : List Node} (holds : Holds links nodes) :
    links.head = nodes.head? := by
  cases nodes with
  | nil => exact holds.chain
  | cons first rest => exact holds.chain.1

section Operations

variable [DecidableEq Node] {links : Links Node} {nodes : List Node} {node : Node}

theorem Holds.append (holds : Holds links nodes) (outside : node ∉ nodes) :
    Holds (links.append node) (nodes ++ [node]) := by
  have cleared : Chain (Function.update links.next node none) links.head nodes :=
    holds.chain.update outside none
  have nodup : (nodes ++ [node]).Nodup := by
    rw [← List.concat_eq_append]
    exact holds.nodup.concat outside
  unfold Links.append
  cases tail : links.tail with
  | none =>
      obtain rfl : nodes = [] := List.getLast?_eq_none_iff.mp (holds.tail.symm.trans tail)
      exact ⟨⟨rfl, Function.update_self ..⟩, rfl, nodup⟩
  | some last =>
      have isLast : nodes.getLast? = some last := holds.tail.symm.trans tail
      refine ⟨?_, by simp, nodup⟩
      exact cleared.concat holds.nodup isLast outside (Function.update_self ..)

theorem Holds.takeHead (holds : Holds links nodes) :
    links.takeHead.1 = nodes.head? ∧ Holds links.takeHead.2 nodes.tail := by
  unfold Links.takeHead
  cases nodes with
  | nil =>
      have none : links.head = none := holds.chain
      rw [none]
      exact ⟨rfl, holds⟩
  | cons first rest =>
      obtain ⟨found, onward⟩ := holds.chain
      obtain ⟨notAgain, nodup⟩ := List.nodup_cons.mp holds.nodup
      rw [found]
      refine ⟨rfl, onward.update notAgain none, ?_, nodup⟩
      cases rest with
      | nil =>
          have ends : links.next first = none := onward
          simp [ends]
      | cons second others =>
          have goesOn : links.next first = some second := onward.1
          simpa [goesOn] using holds.tail

/-! ### Queues whose other nodes point nowhere -/

structure Tidy (links : Links Node) (nodes : List Node) : Prop extends Holds links nodes where
  clear : ∀ node ∉ nodes, links.next node = none

omit [DecidableEq Node] in
theorem tidy_empty : Tidy (Links.empty : Links Node) [] := ⟨holds_empty, fun _ _ => rfl⟩

theorem Links.link_eq_append (clear : links.next node = none) :
    links.link node = links.append node := by
  have cleared : Function.update links.next node none = links.next := by
    rw [← clear, Function.update_eq_self]
  rw [Links.link, Links.append, cleared]

theorem Tidy.link (tidy : Tidy links nodes) (outside : node ∉ nodes) :
    Tidy (links.link node) (nodes ++ [node]) := by
  refine ⟨?_, fun other beyond => ?_⟩
  · rw [Links.link_eq_append (tidy.clear node outside)]
    exact tidy.append outside
  · rw [List.mem_append, List.mem_singleton, not_or] at beyond
    have before := tidy.clear other beyond.1
    rw [Links.link]
    cases tail : links.tail with
    | none => exact before
    | some last =>
        have distinct : other ≠ last := by
          rintro rfl
          exact beyond.1 (List.mem_of_getLast? (tidy.tail.symm.trans tail))
        exact (Function.update_of_ne distinct _ _).trans before

theorem Tidy.takeHead {rest : List Node} (tidy : Tidy links (node :: rest)) :
    ∃ others, links.takeHead = (some node, others) ∧ Tidy others rest := by
  obtain ⟨first, holds⟩ := tidy.toHolds.takeHead
  refine ⟨links.takeHead.2, Prod.ext first rfl, holds, fun other outside => ?_⟩
  have found : links.head = some node := tidy.chain.1
  rw [Links.takeHead, found]
  by_cases same : other = node
  · rw [same]
    exact Function.update_self node none links.next
  · refine (Function.update_of_ne same none links.next).trans (tidy.clear other ?_)
    rw [List.mem_cons, not_or]
    exact ⟨same, outside⟩

end Operations

/-! ### Nodes that hold a value -/

/-- A queue whose nodes are allocated one after another, each for its value. -/
structure Cells (Value : Type u) where
  links : Links Nat
  value : Nat → Option Value
  allocated : Nat

namespace Cells

variable {Value : Type u}

def empty : Cells Value := ⟨.empty, fun _ => none, 0⟩

def push (cells : Cells Value) (value : Value) : Cells Value where
  links := cells.links.append cells.allocated
  value := Function.update cells.value cells.allocated (some value)
  allocated := cells.allocated + 1

def pop (cells : Cells Value) : Option Value × Cells Value :=
  (cells.links.takeHead.1.bind cells.value, { cells with links := cells.links.takeHead.2 })

/-- The pointers lead through these values. -/
def Stores (cells : Cells Value) (values : List Value) : Prop :=
  ∃ nodes, Holds cells.links nodes ∧ (∀ node ∈ nodes, node < cells.allocated) ∧
    nodes.map cells.value = values.map some

theorem stores_empty : (empty : Cells Value).Stores [] := ⟨[], holds_empty, by simp, rfl⟩

variable {cells : Cells Value} {values : List Value}

theorem Stores.push (stores : cells.Stores values) (value : Value) :
    (cells.push value).Stores (values ++ [value]) := by
  obtain ⟨nodes, holds, old, contents⟩ := stores
  have fresh : cells.allocated ∉ nodes := fun member => Nat.lt_irrefl _ (old _ member)
  refine ⟨nodes ++ [cells.allocated], holds.append fresh, ?_, ?_⟩
  · simp only [List.mem_append, List.mem_singleton]
    rintro node (member | rfl)
    · exact Nat.lt_succ_of_lt (old node member)
    · exact Nat.lt_succ_self _
  · have kept : nodes.map (cells.push value).value = nodes.map cells.value :=
      List.map_congr_left fun node member =>
        Function.update_of_ne (ne_of_mem_of_not_mem member fresh) _ _
    rw [List.map_append, kept, contents]
    simp [Cells.push]

theorem Stores.pushAll (stores : cells.Stores values) (added : List Value) :
    (added.foldl Cells.push cells).Stores (values ++ added) := by
  induction added generalizing cells values with
  | nil => simpa using stores
  | cons value rest ih => simpa using ih (stores.push value)

theorem Stores.pop (stores : cells.Stores values) :
    cells.pop.1 = values.head? ∧ cells.pop.2.Stores values.tail := by
  obtain ⟨nodes, holds, old, contents⟩ := stores
  obtain ⟨first, rest⟩ := holds.takeHead
  refine ⟨?_, nodes.tail, rest, fun node member => old node (List.mem_of_mem_tail member), ?_⟩
  · rw [Cells.pop, first]
    cases nodes <;> cases values <;> simp_all
  · rw [List.map_tail, List.map_tail]
    exact congrArg List.tail contents

end Cells

end LinkedQueue
