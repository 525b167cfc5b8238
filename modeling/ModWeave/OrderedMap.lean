/-!
# Maps that keep the order of insertion

An ordered map is a list of pairs.  `insert` puts a new key at the end and gives a known key its new value in
place, so that iteration shows the keys in the order in which they came first.  The lemmas say what a look-up
finds after an insertion, and that a look-up among distinct keys does not hang on the order of the pairs.
-/

namespace ModWeave

/-- Pairs of a key and its value, in the order in which the keys came. -/
abbrev OrderedMap (α : Type u) (β : Type v) := List (α × β)

namespace OrderedMap

variable {α : Type u} {β : Type v} [DecidableEq α]

/-- The keys in order. -/
def keys (m : OrderedMap α β) : List α := m.map Prod.fst

/-- The value of a key. -/
def get? (m : OrderedMap α β) (k : α) : Option β := (m.find? fun p => p.1 = k).map Prod.snd

/-- Gives a key its value: in place if the key is known, at the end otherwise. -/
def insert : OrderedMap α β → α → β → OrderedMap α β
  | [], k, v => [(k, v)]
  | p :: m, k, v => if p.1 = k then (k, v) :: m else p :: insert m k v

/-- The map of a list of pairs, in which a later value of a key replaces an earlier one. -/
def ofPairs (pairs : List (α × β)) : OrderedMap α β := pairs.foldl (fun m p => insert m p.1 p.2) []

/-- After an insertion the key has the new value and every other key what it had. -/
theorem get?_insert (m : OrderedMap α β) (k j : α) (v : β) :
    (insert m k v).get? j = if k = j then some v else m.get? j := by
  induction m with
  | nil => by_cases h : k = j <;> simp [insert, get?, h]
  | cons p m ih =>
    unfold insert
    by_cases hp : p.1 = k
    · subst hp
      by_cases h : p.1 = j <;> simp [get?, h]
    · by_cases hj : p.1 = j
      · subst hj
        simp [get?, hp, Ne.symm hp]
      · simp only [hp, ↓reduceIte]
        simpa [get?, hj] using ih

theorem get?_cons (p : α × β) (m : OrderedMap α β) (k : α) :
    get? (p :: m) k = if p.1 = k then some p.2 else get? m k := by
  by_cases h : p.1 = k <;> simp [get?, h]

theorem isSome_get?_iff {m : OrderedMap α β} {k : α} : (get? m k).isSome = true ↔ k ∈ keys m := by
  simp [get?, keys]

theorem get?_eq_none_iff {m : OrderedMap α β} {k : α} : get? m k = none ↔ k ∉ keys m := by
  rw [← isSome_get?_iff, Bool.not_eq_true, Option.isSome_eq_false_iff, Option.isNone_iff_eq_none]

theorem get?_eq_some_of_mem {m : OrderedMap α β} (nodup : (keys m).Nodup) {p : α × β} (h : p ∈ m) :
    get? m p.1 = some p.2 := by
  induction m with
  | nil => cases h
  | cons q m ih =>
    rw [keys, List.map_cons, List.nodup_cons] at nodup
    rw [get?_cons]
    rcases List.mem_cons.1 h with rfl | h
    · rw [if_pos rfl]
    · have : q.1 ≠ p.1 := fun e => nodup.1 (e ▸ List.mem_map_of_mem h)
      rw [if_neg this, ih nodup.2 h]

/-- The order of the pairs does not matter to a look-up. -/
theorem get?_eq_of_perm {m m' : OrderedMap α β} (nodup : (keys m).Nodup) (perm : m.Perm m') (k : α) :
    get? m k = get? m' k := by
  cases found : get? m k with
  | none =>
    rw [get?_eq_none_iff] at found
    exact (get?_eq_none_iff.2 fun mem => found ((perm.map Prod.fst).mem_iff.2 mem)).symm
  | some v =>
    obtain ⟨p, hp, rfl⟩ := Option.map_eq_some_iff.1 found
    obtain rfl : p.1 = k := by simpa using List.find?_some hp
    exact (get?_eq_some_of_mem ((perm.map Prod.fst).nodup_iff.1 nodup)
      (perm.mem_iff.1 (List.mem_of_find?_eq_some hp))).symm

end OrderedMap

end ModWeave
