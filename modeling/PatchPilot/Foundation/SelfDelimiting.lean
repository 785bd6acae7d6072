/-
  Foundation/SelfDelimiting.lean --- codes whose words say where they end.

  A reader of a self-delimiting code knows where a word ends without looking at what
  follows it.  So words may be written one after the other, pairs of words are words of a
  code again, and a list of words is known from their concatenation.

  Words that are sorted before they are written give a canonical text of a multiset: two
  lists have the same text exactly when one is a permutation of the other.
-/
import PatchPilot.Foundation.Comparator
import Mathlib.Data.List.Perm.Basic

set_option autoImplicit false

namespace PatchPilot.Foundation

variable {α β γ σ : Type}

/-- The words of the values in a domain are not empty, and a word at the start of a text is
known, with what follows it. -/
structure SelfDelimiting (domain : α → Prop) (encode : α → List σ) : Prop where
  nonempty : ∀ {a}, domain a → encode a ≠ []
  split : ∀ {a b rest rest'}, domain a → domain b → encode a ++ rest = encode b ++ rest' →
    a = b ∧ rest = rest'

namespace SelfDelimiting

variable {domain : α → Prop} {encode : α → List σ}

theorem injective (h : SelfDelimiting domain encode) {a b : α} (ha : domain a) (hb : domain b)
    (heq : encode a = encode b) : a = b := by
  have hrest : encode a ++ [] = encode b ++ [] := by rw [heq]
  exact (h.split ha hb hrest).1

/-- Values that are words of a code under an injection. -/
theorem comap (h : SelfDelimiting domain encode) {f : β → α} {domain' : β → Prop}
    (hdomain : ∀ b, domain' b → domain (f b))
    (hf : ∀ b b', domain' b → domain' b' → f b = f b' → b = b') :
    SelfDelimiting domain' (fun b => encode (f b)) where
  nonempty hb := h.nonempty (hdomain _ hb)
  split {a b _ _} ha hb heq := by
    obtain ⟨hvalue, hrest⟩ := h.split (hdomain a ha) (hdomain b hb) heq
    exact ⟨hf a b ha hb hvalue, hrest⟩

/-- A word of one code followed by a word of another. -/
theorem pair (h : SelfDelimiting domain encode) {domain' : β → Prop} {encode' : β → List σ}
    (h' : SelfDelimiting domain' encode') :
    SelfDelimiting (fun p : α × β => domain p.1 ∧ domain' p.2)
      (fun p => encode p.1 ++ encode' p.2) where
  nonempty hp heq := h.nonempty hp.1 (List.append_eq_nil_iff.mp heq).1
  split {p q rest rest'} hp hq heq := by
    rw [List.append_assoc, List.append_assoc] at heq
    obtain ⟨hfirst, htail⟩ := h.split hp.1 hq.1 heq
    obtain ⟨hsecond, hrest⟩ := h'.split hp.2 hq.2 htail
    exact ⟨Prod.ext hfirst hsecond, hrest⟩

/-! ## Lists of words -/

/-- A list of values is known from the words of its values written one after the other. -/
theorem flatMap_inj (h : SelfDelimiting domain encode) :
    ∀ {l l' : List α}, (∀ a ∈ l, domain a) → (∀ a ∈ l', domain a) →
      l.flatMap encode = l'.flatMap encode → l = l' := by
  intro l
  induction l with
  | nil =>
      intro l' _ hl' heq
      cases l' with
      | nil => rfl
      | cons b l' =>
          rw [List.flatMap_cons] at heq
          exact absurd (List.append_eq_nil_iff.mp heq.symm).1
            (h.nonempty (hl' b List.mem_cons_self))
  | cons a l ih =>
      intro l' hl hl' heq
      cases l' with
      | nil =>
          rw [List.flatMap_cons] at heq
          exact absurd (List.append_eq_nil_iff.mp heq).1 (h.nonempty (hl a List.mem_cons_self))
      | cons b l' =>
          rw [List.flatMap_cons, List.flatMap_cons] at heq
          obtain ⟨hhead, htail⟩ :=
            h.split (hl a List.mem_cons_self) (hl' b List.mem_cons_self) heq
          rw [hhead, ih (fun c hc => hl c (List.mem_cons_of_mem a hc))
            (fun c hc => hl' c (List.mem_cons_of_mem b hc)) htail]

/-- A list of values is known from the words of its values with a separator between them,
whatever the separator is. -/
theorem intercalate_inj (h : SelfDelimiting domain encode) (separator : List σ) :
    ∀ {l l' : List α}, (∀ a ∈ l, domain a) → (∀ a ∈ l', domain a) →
      separator.intercalate (l.map encode) = separator.intercalate (l'.map encode) → l = l' := by
  -- what follows on the first word
  have hfirst : ∀ (a : α) (rest : List α), separator.intercalate ((a :: rest).map encode) =
      encode a ++
        if rest = [] then [] else separator ++ separator.intercalate (rest.map encode) := by
    intro a rest
    cases rest with
    | nil =>
        rw [List.map_cons, List.map_nil, List.intercalate_singleton, if_pos rfl, List.append_nil]
    | cons b rest =>
        rw [List.map_cons, List.map_cons, List.intercalate_cons_cons, if_neg (List.cons_ne_nil _ _),
          List.append_assoc]
  have hnonempty : ∀ {l : List α}, (∀ a ∈ l, domain a) → l ≠ [] →
      separator.intercalate (l.map encode) ≠ [] := by
    intro l hl hne heq
    obtain ⟨a, rest, rfl⟩ := List.exists_cons_of_ne_nil hne
    rw [hfirst] at heq
    exact h.nonempty (hl a List.mem_cons_self) (List.append_eq_nil_iff.mp heq).1
  intro l
  induction l with
  | nil =>
      intro l' _ hl' heq
      by_contra hne
      exact hnonempty hl' (fun hnil => hne hnil.symm) heq.symm
  | cons a l ih =>
      intro l' hl hl' heq
      cases l' with
      | nil => exact absurd heq (hnonempty hl (List.cons_ne_nil _ _))
      | cons b l' =>
          rw [hfirst, hfirst] at heq
          obtain ⟨hhead, htail⟩ :=
            h.split (hl a List.mem_cons_self) (hl' b List.mem_cons_self) heq
          have hrest : ∀ c ∈ l, domain c := fun c hc => hl c (List.mem_cons_of_mem a hc)
          have hrest' : ∀ c ∈ l', domain c := fun c hc => hl' c (List.mem_cons_of_mem b hc)
          rw [hhead]
          refine congrArg (b :: ·) ?_
          split at htail
          · rename_i hnil
            split at htail
            · rename_i hnil'
              rw [hnil, hnil']
            · rename_i hne'
              exact absurd (List.append_eq_nil_iff.mp htail.symm).2 (hnonempty hrest' hne')
          · rename_i hne
            split at htail
            · exact absurd (List.append_eq_nil_iff.mp htail).2 (hnonempty hrest hne)
            · exact ih hrest hrest' (List.append_cancel_left htail)

/-! ## Sorted words -/

/-- A permutation of the words of a list is the words of a permutation of the list. -/
theorem exists_map_of_perm {f : α → γ} :
    ∀ {words : List γ} {l : List α}, words.Perm (l.map f) →
      ∃ l' : List α, l'.Perm l ∧ words = l'.map f := by
  intro words
  induction words with
  | nil =>
      intro l hperm
      rw [List.map_eq_nil_iff.mp hperm.nil_eq.symm]
      exact ⟨[], .refl _, rfl⟩
  | cons word words ih =>
      intro l hperm
      obtain ⟨a, ha, rfl⟩ := List.mem_map.mp (hperm.mem_iff.mp List.mem_cons_self)
      obtain ⟨before, after, rfl⟩ := List.append_of_mem ha
      have hmiddle : (before ++ a :: after).Perm (a :: (before ++ after)) := List.perm_middle
      have htail : words.Perm ((before ++ after).map f) :=
        (hperm.trans (hmiddle.map f)).cons_inv
      obtain ⟨l', hl', hwords⟩ := ih htail
      exact ⟨a :: l', (hl'.cons a).trans hmiddle.symm, by rw [hwords, List.map_cons]⟩

/-- Sorted words, written one after the other, are a canonical text of the values. -/
theorem sorted_flatten_eq_iff (h : SelfDelimiting domain encode)
    (cmp : List σ → List σ → Ordering) [Std.TransCmp cmp] [Std.LawfulEqCmp cmp]
    {l l' : List α} (hl : ∀ a ∈ l, domain a) (hl' : ∀ a ∈ l', domain a) :
    (sortBy cmp (l.map encode)).flatten = (sortBy cmp (l'.map encode)).flatten ↔ l.Perm l' := by
  constructor
  · intro heq
    obtain ⟨k, hk, hsorted⟩ := exists_map_of_perm (sortBy_perm cmp (l.map encode))
    obtain ⟨k', hk', hsorted'⟩ := exists_map_of_perm (sortBy_perm cmp (l'.map encode))
    rw [hsorted, hsorted', ← List.flatMap_def, ← List.flatMap_def] at heq
    have hsame : k = k' := h.flatMap_inj (fun a ha => hl a (hk.mem_iff.mp ha))
      (fun a ha => hl' a (hk'.mem_iff.mp ha)) heq
    exact hk.symm.trans (hsame ▸ hk')
  · intro hperm
    rw [sortBy_eq_of_perm cmp (hperm.map encode)]

end SelfDelimiting

end PatchPilot.Foundation
