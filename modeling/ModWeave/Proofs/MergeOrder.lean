import Mathlib.Data.List.Nodup
import Mathlib.Data.List.Perm.Basic
import ModWeave.Definition
import ModWeave.MergeOrder

/-!
# Who comes first in merge order

`Precedes ds e d` says that the mod `e` stands in front of the mod `d` when the names of all mods are in merge
order.  If no two mods have one name, this is the order in which the mods themselves are arranged
(`precedes_iff`), and of two different mods one precedes the other.

The order of names is total, and two names of which each stands before the other are the same.  So mods without a common
name come to stand in one order, in whatever order they are given (`inMergeOrder_eq_of_perm`).
-/

namespace ModWeave

private theorem map_insertBy {α β : Type} (f : α → β) (le : β → β → Bool) (x : α) (l : List α) :
    (insertBy (fun a b => le (f a) (f b)) x l).map f = insertBy le (f x) (l.map f) := by
  induction l with
  | nil => rfl
  | cons y l ih =>
    by_cases h : le (f x) (f y)
    · simp [insertBy, h]
    · simp [insertBy, h, ih]

/-- Things that take over the names of others are arranged as those are. -/
theorem map_inMergeOrder {α β : Type} (f : α → β) (name : β → String) (l : List α) :
    (inMergeOrder (fun x => name (f x)) l).map f = inMergeOrder name (l.map f) := by
  unfold inMergeOrder sortBy
  induction l with
  | nil => rfl
  | cons x l ih =>
    rw [List.map_cons, List.foldr_cons, List.foldr_cons, ← ih]
    exact map_insertBy f (fun a b => nameLe (name a) (name b)) x _

/-- The names of mods in merge order are the names in merge order. -/
theorem map_name_inMergeOrder (ds : List Definition) :
    (inMergeOrder Definition.name ds).map Definition.name = mergeOrder (ds.map Definition.name) :=
  map_inMergeOrder Definition.name id ds

/-- A mod stands in front of another in merge order. -/
def Precedes (ds : List Definition) (e d : Definition) : Prop :=
  [e.name, d.name].Sublist (mergeOrder (ds.map Definition.name))

/-- Two elements at different places stand in one order or the other. -/
theorem pair_sublist {α : Type} {l : List α} {a b : α} (ha : a ∈ l) (hb : b ∈ l) (ne : a ≠ b) :
    [a, b].Sublist l ∨ [b, a].Sublist l := by
  induction l with
  | nil => cases ha
  | cons x l ih =>
    rcases List.mem_cons.1 ha with a_eq | a_mem <;> rcases List.mem_cons.1 hb with b_eq | b_mem
    · exact absurd (a_eq.trans b_eq.symm) ne
    · exact Or.inl (a_eq ▸ (List.singleton_sublist.2 b_mem).cons_cons a)
    · exact Or.inr (b_eq ▸ (List.singleton_sublist.2 a_mem).cons_cons b)
    · rcases ih a_mem b_mem with h | h
      · exact Or.inl (h.cons x)
      · exact Or.inr (h.cons x)

variable {ds : List Definition} {d e : Definition}

theorem eq_of_name_eq (names : (ds.map Definition.name).Nodup) (hd : d ∈ ds) (he : e ∈ ds) (h : d.name = e.name) :
    d = e :=
  List.inj_on_of_nodup_map names hd he h

/-- With unique names the order of the names is the order of the mods. -/
theorem precedes_iff (names : (ds.map Definition.name).Nodup) (he : e ∈ ds) (hd : d ∈ ds) :
    Precedes ds e d ↔ [e, d].Sublist (inMergeOrder Definition.name ds) := by
  unfold Precedes
  rw [← map_name_inMergeOrder]
  constructor
  · intro h
    obtain ⟨pair, sub, names_eq⟩ := List.sublist_map_iff.1 h
    obtain ⟨a, rest, rfl, a_name, rest_eq⟩ := List.map_eq_cons_iff.1 names_eq.symm
    obtain ⟨b, last, rfl, b_name, last_eq⟩ := List.map_eq_cons_iff.1 rest_eq
    obtain rfl := List.map_eq_nil_iff.1 last_eq
    have mem : ∀ x ∈ [a, b], x ∈ ds := fun x hx => mem_sortBy.1 (sub.subset hx)
    obtain rfl := eq_of_name_eq names (mem a (by simp)) he a_name
    obtain rfl := eq_of_name_eq names (mem b (by simp)) hd b_name
    exact sub
  · exact fun h => h.map Definition.name

theorem precedes_or_precedes (names : (ds.map Definition.name).Nodup) (he : e ∈ ds) (hd : d ∈ ds) (ne : e ≠ d) :
    Precedes ds e d ∨ Precedes ds d e := by
  rw [precedes_iff names he hd, precedes_iff names hd he]
  exact pair_sublist (mem_sortBy.2 he) (mem_sortBy.2 hd) ne

theorem not_precedes_self (names : (ds.map Definition.name).Nodup) : ¬ Precedes ds d d := by
  intro h
  have ordered_names : (mergeOrder (ds.map Definition.name)).Nodup := (sortBy_perm _ _).nodup_iff.2 names
  simpa using ordered_names.sublist h

theorem not_precedes_of_precedes (names : (ds.map Definition.name).Nodup) (h : Precedes ds e d) :
    ¬ Precedes ds d e := by
  intro h'
  have ordered_names : (mergeOrder (ds.map Definition.name)).Nodup := (sortBy_perm _ _).nodup_iff.2 names
  have same := (ordered_names.perm_iff_eq_of_sublist h h').1 (List.Perm.swap ..)
  rw [Precedes, (List.cons_eq_cons.1 same).1] at h
  exact not_precedes_self names h

/-! ### The order of texts and names -/

private theorem leChars_cons_iff {c d : Char} {s t : List Char} :
    leChars (c :: s) (d :: t) = true ↔ c.toNat < d.toNat ∨ (c = d ∧ leChars s t = true) := by
  rw [leChars, Bool.or_eq_true, Bool.and_eq_true, decide_eq_true_iff, decide_eq_true_iff, Char.lt_def,
    UInt32.lt_iff_toNat_lt]
  rfl

theorem leChars_total (s t : List Char) : leChars s t = true ∨ leChars t s = true := by
  induction s generalizing t with
  | nil => exact Or.inl rfl
  | cons c s ih =>
    cases t with
    | nil => exact Or.inr rfl
    | cons d t =>
      rw [leChars_cons_iff, leChars_cons_iff]
      rcases Nat.lt_trichotomy c.toNat d.toNat with lt | same | gt
      · exact Or.inl (Or.inl lt)
      · obtain rfl := Char.toNat_inj.1 same
        exact (ih t).imp (fun h => Or.inr ⟨rfl, h⟩) (fun h => Or.inr ⟨rfl, h⟩)
      · exact Or.inr (Or.inl gt)

theorem leChars_antisymm {s t : List Char} (hst : leChars s t = true) (hts : leChars t s = true) : s = t := by
  induction s generalizing t with
  | nil =>
    cases t with
    | nil => rfl
    | cons d t => cases hts
  | cons c s ih =>
    cases t with
    | nil => cases hst
    | cons d t =>
      rw [leChars_cons_iff] at hst hts
      rcases hst with lt | ⟨rfl, hst⟩
      · rcases hts with gt | ⟨rfl, -⟩ <;> omega
      · rcases hts with gt | ⟨-, hts⟩
        · omega
        · rw [ih hst hts]

theorem leChars_trans {s t u : List Char} (hst : leChars s t = true) (htu : leChars t u = true) :
    leChars s u = true := by
  induction s generalizing t u with
  | nil => rfl
  | cons c s ih =>
    cases t with
    | nil => cases hst
    | cons d t =>
      cases u with
      | nil => cases htu
      | cons e u =>
        rw [leChars_cons_iff] at hst htu ⊢
        rcases hst with lt | ⟨rfl, hst⟩
        · rcases htu with lt' | ⟨rfl, -⟩
          · exact Or.inl (Nat.lt_trans lt lt')
          · exact Or.inl lt
        · exact htu.imp id fun h => ⟨h.1, ih hst h.2⟩

theorem nameLe_total (a b : String) : nameLe a b = true ∨ nameLe b a = true := by
  unfold nameLe
  by_cases same : lowerName a = lowerName b
  · rw [if_pos same, if_pos same.symm]
    exact leChars_total a.toList b.toList
  · rw [if_neg same, if_neg (Ne.symm same)]
    exact leChars_total (lowerName a) (lowerName b)

theorem nameLe_antisymm {a b : String} (hab : nameLe a b = true) (hba : nameLe b a = true) : a = b := by
  unfold nameLe at hab hba
  by_cases same : lowerName a = lowerName b
  · rw [if_pos same] at hab
    rw [if_pos same.symm] at hba
    exact String.toList_injective (leChars_antisymm hab hba)
  · rw [if_neg same] at hab
    rw [if_neg (Ne.symm same)] at hba
    exact absurd (leChars_antisymm hab hba) same

private theorem leChars_lowerName {a b : String} (h : nameLe a b = true) :
    leChars (lowerName a) (lowerName b) = true := by
  unfold nameLe at h
  split at h
  · rename_i same
    rw [same]
    exact (leChars_total _ _).elim id id
  · exact h

theorem nameLe_trans {a b c : String} (hab : nameLe a b = true) (hbc : nameLe b c = true) : nameLe a c = true := by
  have lower_ab := leChars_lowerName hab
  have lower_bc := leChars_lowerName hbc
  unfold nameLe
  by_cases same : lowerName a = lowerName c
  · -- then all three are the same in lower case, and their code points decide
    have same_ab : lowerName a = lowerName b := leChars_antisymm lower_ab (same ▸ lower_bc)
    rw [nameLe, if_pos same_ab] at hab
    rw [nameLe, if_pos (same_ab.symm.trans same)] at hbc
    rw [if_pos same]
    exact leChars_trans hab hbc
  · rw [if_neg same]
    exact leChars_trans lower_ab lower_bc

/-- Named things without a common name come to stand in one order, in whatever order they are given. -/
theorem inMergeOrder_eq_of_perm {α : Type} {name : α → String} {l l' : List α} (perm : l.Perm l')
    (names : (l.map name).Nodup) : inMergeOrder name l = inMergeOrder name l' := by
  have sorted : ∀ k : List α, (inMergeOrder name k).Pairwise fun a b => nameLe (name a) (name b) = true := fun k =>
    sortBy_pairwise (fun a b => nameLe_total (name a) (name b)) (fun _ _ _ hab hbc => nameLe_trans hab hbc) k
  refine List.Perm.eq_of_pairwise (fun a b ha hb hab hba => ?_) (sorted l) (sorted l') ?_
  · exact List.inj_on_of_nodup_map names (mem_sortBy.1 ha) (perm.mem_iff.2 (mem_sortBy.1 hb)) (nameLe_antisymm hab hba)
  · exact ((sortBy_perm _ l).trans perm).trans (sortBy_perm _ l').symm

end ModWeave
