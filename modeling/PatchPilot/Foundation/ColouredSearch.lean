/-
  Foundation/ColouredSearch.lean --- the search for a cycle of a partial function.

  Every node has at most one successor, and the search follows the successors from one node
  after the other.  A node is gray while the search is under way from it, and black when the
  search has left it without a cycle.  A gray node that is met again closes a cycle, because
  the gray nodes are those from which the search has come; from a black node no cycle is
  reached.
-/
import Mathlib.Logic.Function.Basic
import Mathlib.Logic.Relation

set_option autoImplicit false

namespace PatchPilot.Foundation

/-- The colour of a node. -/
inductive Colour
  | white | gray | black
  deriving DecidableEq

section ColouredSearch

variable {α : Type} (next : α → Option α)

/-! ## Walks -/

/-- One step along the function. -/
def Follows (node parent : α) : Prop := next node = some parent

/-- Some node follows on itself. -/
def HasCycle : Prop := ∃ node, Relation.TransGen (Follows next) node node

/-- No walk from the node goes on for ever. -/
def Ends (node : α) : Prop := Acc (fun parent node => Follows next node parent) node

variable {next}

theorem Ends.not_cycle {node : α} (h : Ends next node) :
    ¬Relation.TransGen (Follows next) node node := by
  induction h with
  | intro node _ ih =>
      intro hcycle
      obtain ⟨parent, hstep, hrest⟩ := Relation.TransGen.head'_iff.1 hcycle
      exact ih parent hstep (Relation.TransGen.tail' hrest hstep)

theorem ends_of_none {node : α} (h : next node = none) : Ends next node :=
  Acc.intro node fun parent hstep => by
    rw [Follows, h] at hstep
    exact absurd hstep (Option.some_ne_none parent).symm

theorem ends_of_some {node parent : α} (h : next node = some parent) (hparent : Ends next parent) :
    Ends next node :=
  Acc.intro node fun other hstep => by
    rw [Follows, h] at hstep
    cases hstep
    exact hparent

/-! ## The search -/

variable [DecidableEq α] (next)

/-- The search from a node; there is no answer if it would take more steps. -/
def visit : Nat → α → (α → Colour) → Option (Bool × (α → Colour))
  | 0, _, _ => none
  | steps + 1, node, colour =>
      match colour node with
      | .gray => some (true, colour)
      | .black => some (false, colour)
      | .white =>
          let colour := Function.update colour node .gray
          match next node with
          | none => some (false, Function.update colour node .black)
          | some parent =>
              match visit steps parent colour with
              | none => none
              | some (true, colour) => some (true, colour)
              | some (false, colour) => some (false, Function.update colour node .black)

/-- The search from every node of a list. -/
def visitAll (steps : Nat) : List α → (α → Colour) → Option Bool
  | [], _ => some false
  | node :: rest, colour =>
      match visit next steps node colour with
      | none => none
      | some (true, _) => some true
      | some (false, colour) => visitAll steps rest colour

/-! ## The colours -/

variable {next}

/-- The nodes of a list that are still white. -/
def whites (nodes : List α) (colour : α → Colour) : Nat :=
  nodes.countP fun node => colour node = .white

/-- A node that is coloured is one white node less. -/
theorem whites_update_lt {nodes : List α} {colour : α → Colour} {node : α} (hmem : node ∈ nodes)
    (hwhite : colour node = .white) {other : Colour} (hother : other ≠ .white) :
    whites nodes (Function.update colour node other) < whites nodes colour := by
  have hle : ∀ rest : List α,
      whites rest (Function.update colour node other) ≤ whites rest colour := by
    intro rest
    refine List.countP_mono_left fun x _ hx => ?_
    rw [decide_eq_true_iff] at hx ⊢
    by_cases hsame : x = node
    · rw [hsame, hwhite]
    · rwa [Function.update_of_ne hsame] at hx
  obtain ⟨before, after, rfl⟩ := List.append_of_mem hmem
  have hbefore := hle before
  have hafter := hle after
  have hone : whites [node] (Function.update colour node other) = 0 := by
    simp [whites, hother]
  have hold : whites [node] colour = 1 := by
    simp [whites, hwhite]
  have hsplit : ∀ colour : α → Colour, whites (before ++ node :: after) colour =
      whites before colour + whites [node] colour + whites after colour := by
    intro colour
    rw [whites, ← List.singleton_append, List.countP_append, List.countP_append, ← Nat.add_assoc]
    rfl
  rw [hsplit, hsplit, hone, hold]
  omega

variable (next) in
/-- What the colours say before the search from a node: the walk from a black node ends, and
the gray nodes lead to the node. -/
structure Coloured (colour : α → Colour) (node : α) : Prop where
  black : ∀ other, colour other = .black → Ends next other
  gray : ∀ other, colour other = .gray → Relation.TransGen (Follows next) other node

variable (next) in
/-- What a search without a cycle has done. -/
structure Searched (colour colour' : α → Colour) (node : α) : Prop where
  black : ∀ other, colour' other = .black → Ends next other
  done : colour' node = .black
  kept : ∀ other, colour other = .black → colour' other = .black
  gray : ∀ other, colour' other = .gray ↔ colour other = .gray

/-- The black nodes are the same when a white node turns gray. -/
theorem Coloured.black_gray {colour : α → Colour} {node : α}
    (h : Coloured next colour node) (other : α)
    (hother : Function.update colour node .gray other = .black) : Ends next other := by
  by_cases hsame : other = node
  · rw [hsame, Function.update_self] at hother
    cases hother
  · rw [Function.update_of_ne hsame] at hother
    exact h.black other hother

/-- The search goes on from the successor of a node that has turned gray. -/
theorem Coloured.below {colour : α → Colour} {node parent : α}
    (h : Coloured next colour node) (hnext : next node = some parent) :
    Coloured next (Function.update colour node .gray) parent := by
  refine ⟨h.black_gray, fun other hother => ?_⟩
  by_cases hsame : other = node
  · rw [hsame]
    exact .single hnext
  · rw [Function.update_of_ne hsame] at hother
    exact (h.gray other hother).tail hnext

/-- A gray node turns black when the search leaves it. -/
theorem searched_leave {colour colour' : α → Colour} {node : α} (hwhite : colour node = .white)
    (hblack : ∀ other, colour' other = .black → Ends next other) (hends : Ends next node)
    (hkept : ∀ other, Function.update colour node .gray other = .black → colour' other = .black)
    (hgray : ∀ other,
      colour' other = .gray ↔ Function.update colour node .gray other = .gray) :
    Searched next colour (Function.update colour' node .black) node := by
  refine ⟨fun other h => ?_, Function.update_self .., fun other h => ?_, fun other => ?_⟩
  · by_cases hsame : other = node
    · rw [hsame]
      exact hends
    · rw [Function.update_of_ne hsame] at h
      exact hblack other h
  · by_cases hsame : other = node
    · rw [hsame, Function.update_self]
    · rw [Function.update_of_ne hsame]
      exact hkept other (by rwa [Function.update_of_ne hsame])
  · by_cases hsame : other = node
    · rw [hsame, Function.update_self, hwhite]
      exact ⟨nofun, nofun⟩
    · rw [Function.update_of_ne hsame, hgray, Function.update_of_ne hsame]

/-- The search from a node finds a cycle or leaves the node black, in as many steps as there
are white nodes. -/
theorem visit_eq {nodes : List α}
    (hclosed : ∀ node parent, next node = some parent → parent ∈ nodes)
    {steps : Nat} : ∀ {node : α} {colour : α → Colour}, node ∈ nodes →
      whites nodes colour < steps → Coloured next colour node →
      ∃ found colour', visit next steps node colour = some (found, colour') ∧
        (found = true → HasCycle next) ∧
        (found = false → Searched next colour colour' node) := by
  induction steps with
  | zero => exact fun _ hsteps => absurd hsteps (Nat.not_lt_zero _)
  | succ steps ih =>
      intro node colour hmem hsteps hcoloured
      unfold visit
      cases hnode : colour node with
      | gray =>
          exact ⟨true, colour, rfl, fun _ => ⟨node, hcoloured.gray node hnode⟩,
            fun h => Bool.noConfusion h⟩
      | black =>
          exact ⟨false, colour, rfl, fun h => absurd h Bool.false_ne_true,
            fun _ => ⟨hcoloured.black, hnode, fun _ h => h, fun _ => Iff.rfl⟩⟩
      | white =>
          dsimp only
          cases hnext : next node with
          | none =>
              refine ⟨false, _, rfl, fun h => absurd h Bool.false_ne_true, fun _ => ?_⟩
              exact searched_leave hnode (hcoloured.black_gray) (ends_of_none hnext)
                (fun _ h => h) fun _ => Iff.rfl
          | some parent =>
              have hfewer := whites_update_lt hmem hnode (show Colour.gray ≠ .white from nofun)
              obtain ⟨found, colour', heq, hcycle, hsearched⟩ :=
                ih (hclosed node parent hnext) (by omega) (hcoloured.below hnext)
              dsimp only
              rw [heq]
              cases found with
              | true => exact ⟨true, colour', rfl, hcycle, fun h => Bool.noConfusion h⟩
              | false =>
                  have hdone := hsearched rfl
                  refine ⟨false, _, rfl, fun h => absurd h Bool.false_ne_true, fun _ => ?_⟩
                  exact searched_leave hnode hdone.black
                    (ends_of_some hnext (hdone.black parent hdone.done)) hdone.kept hdone.gray

/-- The search from all nodes of a list finds a cycle, or leaves them all black. -/
theorem visitAll_eq {nodes : List α}
    (hclosed : ∀ node parent, next node = some parent → parent ∈ nodes) (rest : List α) :
    ∀ colour : α → Colour, rest ⊆ nodes →
      (∀ other, colour other = .black → Ends next other) → (∀ other, colour other ≠ .gray) →
      ∃ found, visitAll next (nodes.length + 1) rest colour = some found ∧
        (found = true → HasCycle next) ∧
        (found = false → ∀ node, node ∈ rest ∨ colour node = .black → Ends next node) := by
  induction rest with
  | nil =>
      intro colour _ hblack _
      refine ⟨false, rfl, fun h => absurd h Bool.false_ne_true, fun _ node h => ?_⟩
      exact hblack node (h.resolve_left List.not_mem_nil)
  | cons node rest ih =>
      intro colour hsubset hblack hgray
      have hsteps : whites nodes colour < nodes.length + 1 :=
        Nat.lt_succ_of_le List.countP_le_length
      obtain ⟨found, colour', heq, hcycle, hsearched⟩ := visit_eq hclosed
        (hsubset List.mem_cons_self) hsteps ⟨hblack, fun other h => absurd h (hgray other)⟩
      rw [visitAll, heq]
      cases found with
      | true => exact ⟨true, rfl, hcycle, fun h => Bool.noConfusion h⟩
      | false =>
          have hdone := hsearched rfl
          obtain ⟨found, hrest, hcycle, hends⟩ := ih colour'
            (fun other h => hsubset (List.mem_cons_of_mem node h)) hdone.black
            (fun other h => hgray other ((hdone.gray other).1 h))
          refine ⟨found, hrest, hcycle, fun h other hother => ?_⟩
          rcases hother with hmem | hother
          · cases hmem with
            | head => exact hends h node (.inr hdone.done)
            | tail _ hmem => exact hends h other (.inl hmem)
          · exact hends h other (.inr (hdone.kept other hother))

/-- The search from all nodes answers, and says whether there is a cycle. -/
theorem visitAll_iff {nodes : List α}
    (hclosed : ∀ node parent, next node = some parent → parent ∈ nodes) :
    ∃ found, visitAll next (nodes.length + 1) nodes (fun _ => .white) = some found ∧
      (found = true ↔ HasCycle next) := by
  obtain ⟨found, heq, hcycle, hends⟩ := visitAll_eq hclosed nodes
    (fun _ => .white) (List.Subset.refl nodes) (fun _ h => nomatch h)
    (fun _ h => nomatch h)
  refine ⟨found, heq, hcycle, fun ⟨node, hnode⟩ => ?_⟩
  cases found with
  | true => rfl
  | false =>
      -- A node on a cycle is the successor of another.
      obtain ⟨last, -, hstep⟩ := Relation.TransGen.tail'_iff.1 hnode
      exact absurd hnode (hends rfl node (.inl (hclosed last node hstep))).not_cycle

end ColouredSearch

end PatchPilot.Foundation
