/-
  Foundation/TreeWalk.lean --- walking a tree with a stack of pending nodes.

  A walk takes the node on top of its stack, looks at it and puts what hangs below it in its
  place.  So it meets the nodes of a tree in one order, each before what hangs below it, and
  what it finds is what a loop over the nodes in that order finds.

  A loop that checks every item for itself and adds to running totals, which it leaves at the
  first item that is refused, ends when every item passes and the totals are within their
  limits in the end.  It is enough that a total never returns to its limit.
-/
import Mathlib.Data.List.Nodup
import Mathlib.Algebra.Order.BigOperators.Group.List
import Mathlib.Algebra.Order.Group.Nat
import Mathlib.Algebra.GroupWithZero.Nat
import PatchPilot.Foundation.Fallible

set_option autoImplicit false

namespace PatchPilot.Foundation

/-! ## Trees -/

/-- Nodes, and what hangs below them. -/
structure Branching (ν : Type) where
  below : ν → List ν
  size : ν → Nat
  smaller : ∀ node, ((below node).map size).sum < size node

namespace Branching

variable {ν σ ε : Type} (tree : Branching ν)

/-- A node is larger than any that hangs below it. -/
theorem size_lt {node child : ν} (h : child ∈ tree.below node) : tree.size child < tree.size node :=
  Nat.lt_of_le_of_lt (List.le_sum_of_mem (List.mem_map_of_mem h)) (tree.smaller node)

/-- What holds of a node when it holds of all that hangs below it holds of every node. -/
theorem induction {motive : ν → Prop}
    (h : ∀ node, (∀ child ∈ tree.below node, motive child) → motive node) (node : ν) :
    motive node :=
  (measure tree.size).wf.induction node fun node ih =>
    h node fun child hchild => ih child (tree.size_lt hchild)

/-- The nodes of a tree, each before what hangs below it. -/
def preorder (node : ν) : List ν :=
  node :: (tree.below node).attach.flatMap fun child =>
    have := tree.size_lt child.2
    preorder child.1
termination_by tree.size node

theorem preorder_eq (node : ν) :
    tree.preorder node = node :: (tree.below node).flatMap tree.preorder := by
  rw [preorder, List.flatMap_subtype]
  · rw [List.unattach_attach]
  · exact fun _ _ => rfl

/-! ## The walk -/

/-- The walk over pending nodes, which a node may end. -/
def walk (visit : σ → ν → Except ε σ) : List ν → σ → Except ε σ
  | [], s => .ok s
  | node :: pending, s =>
      match visit s node with
      | .error failure => .error failure
      | .ok s' => walk visit (tree.below node ++ pending) s'
termination_by pending => (pending.map tree.size).sum
decreasing_by
  rw [List.map_append, List.sum_append, List.map_cons, List.sum_cons]
  exact Nat.add_lt_add_right (tree.smaller node) _

/-- The walk is the loop over the nodes that are pending and all that hangs below them. -/
theorem walk_eq (visit : σ → ν → Except ε σ) (pending : List ν) (s : σ) :
    tree.walk visit pending s = (pending.flatMap tree.preorder).foldlM visit s := by
  fun_induction walk tree visit pending s with
  | case1 s => rfl
  | case2 s node pending failure hvisit =>
      rw [List.flatMap_cons, preorder_eq, List.cons_append, List.foldlM_cons, hvisit]
      rfl
  | case3 s node pending s' hvisit ih =>
      rw [List.flatMap_cons, preorder_eq, List.cons_append, List.foldlM_cons, hvisit, ih,
        List.flatMap_append]
      rfl

/-! ## What the nodes have in all -/

/-- What holds of every node of a tree. -/
theorem forall_preorder {P : ν → Prop} {Q : ν → Prop}
    (h : ∀ node, Q node ↔ P node ∧ ∀ child ∈ tree.below node, Q child) (node : ν) :
    (∀ other ∈ tree.preorder node, P other) ↔ Q node := by
  induction node using tree.induction with
  | h node ih =>
      rw [preorder_eq, List.forall_mem_cons, h node]
      refine and_congr_right fun _ => ?_
      rw [List.forall_mem_flatMap]
      exact ⟨fun hall child hchild => (ih child hchild).mp (hall child hchild),
        fun hall child hchild => (ih child hchild).mpr (hall child hchild)⟩

/-- What the nodes of a tree add up to. -/
theorem sum_preorder (own total : ν → Nat)
    (h : ∀ node, total node = own node + ((tree.below node).map total).sum) (node : ν) :
    ((tree.preorder node).map own).sum = total node := by
  induction node using tree.induction with
  | h node ih =>
      rw [preorder_eq, List.map_cons, List.sum_cons, h node, List.map_flatMap, List.flatMap_def,
        List.sum_flatten, List.map_map]
      exact congrArg (fun rest => own node + rest.sum) (List.map_congr_left ih)

/-! ## Places -/

/-- Every node has the way to it from the root as its place, the last step first. -/
def Placed (place : ν → List Nat) : Prop :=
  ∀ node (i : Nat) (h : i < (tree.below node).length),
    place (tree.below node)[i] = i :: place node

section

variable {tree} {place : ν → List Nat} (hplaced : tree.Placed place)

include hplaced

/-- The way to a node is part of the way to all that hangs below it. -/
theorem Placed.suffix (node : ν) : ∀ other ∈ tree.preorder node, place node <:+ place other := by
  induction node using tree.induction with
  | h node ih =>
      rw [preorder_eq, List.forall_mem_cons, List.forall_mem_flatMap]
      refine ⟨List.suffix_rfl, fun child hchild other hother => ?_⟩
      obtain ⟨i, hi, rfl⟩ := List.getElem_of_mem hchild
      have hway := ih _ hchild other hother
      rw [hplaced node i hi] at hway
      exact (List.suffix_cons i _).trans hway

/-- No two nodes of a tree have one place. -/
theorem Placed.nodup (node : ν) : ((tree.preorder node).map place).Nodup := by
  induction node using tree.induction with
  | h node ih =>
      rw [preorder_eq, List.map_cons, List.nodup_cons, List.map_flatMap, List.nodup_flatMap]
      refine ⟨fun h => ?_, ih, ?_⟩
      · obtain ⟨child, hchild, h⟩ := List.mem_flatMap.mp h
        obtain ⟨other, hother, heq⟩ := List.mem_map.mp h
        obtain ⟨i, hi, rfl⟩ := List.getElem_of_mem hchild
        have hway := hplaced.suffix _ other hother
        rw [hplaced node i hi, heq] at hway
        exact absurd hway.length_le (Nat.not_succ_le_self _)
      · refine List.pairwise_iff_getElem.mpr fun i j hi hj hlt => ?_
        refine List.disjoint_left.mpr fun way h h' => ?_
        obtain ⟨other, hother, rfl⟩ := List.mem_map.mp h
        obtain ⟨other', hother', heq⟩ := List.mem_map.mp h'
        have hway := hplaced.suffix _ other hother
        have hway' := hplaced.suffix _ other' hother'
        rw [hplaced node i hi] at hway
        rw [hplaced node j hj, heq] at hway'
        have hsame := List.suffix_of_suffix_length_le hway hway' (Nat.le_refl _)
        have hij := (List.cons.inj (hsame.eq_of_length rfl)).1
        exact absurd hij (Nat.ne_of_lt hlt)

end

end Branching

/-! ## Checks and totals -/

/-- A loop that checks every item and keeps totals within limits.  Whether an item passes may
depend on what was met before, as long as that is no reason to refuse it. -/
theorem foldlM_eq_ok_iff {ν σ ε : Type} {P : ν → Prop} (visit : σ → ν → Except ε σ)
    (step : σ → ν → σ) (Within : σ → Prop) (Ready : σ → List ν → Prop)
    (hready : ∀ s node rest, Ready s (node :: rest) → Ready (step s node) rest)
    (hvisit : ∀ s node rest s', Within s → Ready s (node :: rest) →
      (visit s node = .ok s' ↔ P node ∧ Within (step s node) ∧ s' = step s node))
    (hkept : ∀ s node, Within (step s node) → Within s) :
    ∀ (nodes : List ν) (s s' : σ), Ready s nodes → Within s →
      (nodes.foldlM visit s = .ok s' ↔
        (∀ node ∈ nodes, P node) ∧ Within (nodes.foldl step s) ∧ s' = nodes.foldl step s) := by
  have hback : ∀ (nodes : List ν) (s : σ), Within (nodes.foldl step s) → Within s := by
    intro nodes
    induction nodes with
    | nil => exact fun _ h => h
    | cons node rest ih => exact fun s h => hkept s node (ih _ h)
  intro nodes
  induction nodes with
  | nil =>
      intro s s' _ hwithin
      constructor
      · intro h
        cases h
        exact ⟨fun _ h => absurd h List.not_mem_nil, hwithin, rfl⟩
      · rintro ⟨-, -, rfl⟩
        rfl
  | cons node rest ih =>
      intro s s' hs hwithin
      have hrest := hready s node rest hs
      rw [List.foldlM_cons, List.forall_mem_cons, List.foldl_cons]
      change (visit s node >>= fun s => rest.foldlM visit s) = .ok s' ↔ _
      rw [bind_eq_ok]
      constructor
      · rintro ⟨middle, hmiddle, h⟩
        obtain ⟨hnode, hstep, rfl⟩ := (hvisit s node rest middle hwithin hs).mp hmiddle
        obtain ⟨hall, hend, heq⟩ := (ih _ s' hrest hstep).mp h
        exact ⟨⟨hnode, hall⟩, hend, heq⟩
      · rintro ⟨⟨hnode, hall⟩, hend, heq⟩
        have hstep := hback rest _ hend
        exact ⟨_, (hvisit s node rest _ hwithin hs).mpr ⟨hnode, hstep, rfl⟩,
          (ih _ s' hrest hstep).mpr ⟨hall, hend, heq⟩⟩

section

variable {ν σ : Type} (step : σ → ν → σ) (read : σ → Nat) (own : ν → Nat)

/-- What a loop adds up. -/
theorem foldl_sum (h : ∀ s node, read (step s node) = read s + own node) (nodes : List ν) (s : σ) :
    read (nodes.foldl step s) = read s + (nodes.map own).sum := by
  induction nodes generalizing s with
  | nil => rfl
  | cons node rest ih =>
      rw [List.foldl_cons, ih, h, List.map_cons, List.sum_cons, Nat.add_assoc]

/-- The largest that a loop meets. -/
theorem foldl_max_le_iff (h : ∀ s node, read (step s node) = max (read s) (own node)) (bound : Nat)
    (nodes : List ν) (s : σ) :
    read (nodes.foldl step s) ≤ bound ↔ read s ≤ bound ∧ ∀ node ∈ nodes, own node ≤ bound := by
  induction nodes generalizing s with
  | nil => exact (and_iff_left fun _ h => absurd h List.not_mem_nil).symm
  | cons node rest ih =>
      rw [List.foldl_cons, ih, h, Nat.max_le, List.forall_mem_cons, and_assoc]

end

end PatchPilot.Foundation
