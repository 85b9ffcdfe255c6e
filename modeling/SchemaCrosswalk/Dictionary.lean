/-!
# Dictionary — finite maps from names, in the order of their keys

A `Dictionary α` keeps its entries in strictly increasing key order, so that two dictionaries
with the same look-ups are equal and the entries can be shown in a fixed order.

- `get?`, `insert`, `erase`: look-up, overwriting insertion and removal of one key
- `ofList`: the dictionary of a list of entries, a later entry replacing an earlier one
- `get?_insert`, `get?_erase`: what the operations do to look-ups
- `ext_get?`: a dictionary is determined by its look-ups
-/

namespace SchemaCrosswalk

universe u v w

namespace Dictionary

/-! ## Entries in key order -/

/-- Keys are strictly increasing, hence distinct. -/
def Ascending {α : Type u} (entries : List (String × α)) : Prop :=
  entries.Pairwise (fun p q => p.1 < q.1)

/-- The value at a key, the first one if there were several. -/
def find {α : Type u} (key : String) : List (String × α) → Option α
  | [] => none
  | (k, a) :: rest => if key = k then some a else find key rest

/-- Put a value at a key, in its place in the order or over the value that is there. -/
def put {α : Type u} (key : String) (value : α) : List (String × α) → List (String × α)
  | [] => [(key, value)]
  | (k, a) :: rest =>
      if key = k then (key, value) :: rest
      else if key < k then (key, value) :: (k, a) :: rest
      else (k, a) :: put key value rest

/-- Drop the entries of a key. -/
def drop {α : Type u} (key : String) (entries : List (String × α)) : List (String × α) :=
  entries.filter (fun p => p.1 != key)

theorem lt_of_not_lt_of_ne {a b : String} (h : ¬ a < b) (hne : a ≠ b) : b < a := by
  rcases Classical.em (b < a) with hlt | hlt
  · exact hlt
  · exact absurd (String.le_antisymm (String.not_lt.1 hlt) (String.not_lt.1 h)) hne

theorem mem_put {α : Type u} {key : String} {value : α} {p : String × α} :
    ∀ {entries : List (String × α)}, p ∈ put key value entries → p = (key, value) ∨ p ∈ entries
  | [], h => by simpa [put] using h
  | (k, a) :: rest, h => by
      unfold put at h
      split at h
      · rcases List.mem_cons.1 h with h | h
        · exact Or.inl h
        · exact Or.inr (List.mem_cons_of_mem _ h)
      · split at h
        · rcases List.mem_cons.1 h with h | h
          · exact Or.inl h
          · exact Or.inr h
        · rcases List.mem_cons.1 h with h | h
          · exact Or.inr (h ▸ List.mem_cons_self)
          · exact (mem_put h).imp id (List.mem_cons_of_mem _)

theorem ascending_put {α : Type u} (key : String) (value : α) :
    ∀ {entries : List (String × α)}, Ascending entries → Ascending (put key value entries)
  | [], _ => by simp [put, Ascending]
  | (k, a) :: rest, h => by
      have hhead := (List.pairwise_cons.1 h).1
      have htail := (List.pairwise_cons.1 h).2
      unfold put
      split
      · next heq => exact List.pairwise_cons.2 ⟨fun p hp => heq ▸ hhead p hp, htail⟩
      · next hne =>
        split
        · next hlt =>
          refine List.pairwise_cons.2 ⟨fun p hp => ?_, h⟩
          rcases List.mem_cons.1 hp with hp | hp
          · exact hp ▸ hlt
          · exact String.lt_trans hlt (hhead p hp)
        · next hnlt =>
          refine List.pairwise_cons.2 ⟨fun p hp => ?_, ascending_put key value htail⟩
          rcases mem_put hp with hp | hp
          · exact hp ▸ lt_of_not_lt_of_ne hnlt hne
          · exact hhead p hp

theorem ascending_drop {α : Type u} (key : String) {entries : List (String × α)}
    (h : Ascending entries) : Ascending (drop key entries) :=
  List.Pairwise.filter _ h

theorem find_put {α : Type u} (key : String) (value : α) (other : String) :
    ∀ entries : List (String × α),
      find other (put key value entries) = if other = key then some value else find other entries
  | [] => by simp [put, find]
  | (k, a) :: rest => by
      unfold put
      split
      · next heq => subst heq; by_cases h : other = key <;> simp [find, h]
      · next hne =>
        split
        · by_cases h : other = key <;> simp [find, h]
        · by_cases h : other = k
          · subst h; simp [find, Ne.symm hne]
          · simp [find, h, find_put key value other rest]

theorem find_drop {α : Type u} (key other : String) :
    ∀ entries : List (String × α),
      find other (drop key entries) = if other = key then none else find other entries
  | [] => by simp [drop, find]
  | (k, a) :: rest => by
      have ih := find_drop key other rest
      by_cases hk : k = key
      · subst hk
        by_cases h : other = k
        · subst h; simpa [drop, find] using ih
        · simpa [drop, find, h] using ih
      · by_cases h : other = k
        · subst h; simp [drop, find, hk]
        · simp only [drop] at ih
          simp [drop, find, hk, h, ih]

theorem mem_of_find {α : Type u} {key : String} {value : α} :
    ∀ {entries : List (String × α)}, find key entries = some value → (key, value) ∈ entries
  | [], h => by simp [find] at h
  | (k, a) :: rest, h => by
      unfold find at h
      split at h
      · next heq => cases h; exact heq ▸ List.mem_cons_self
      · exact List.mem_cons_of_mem _ (mem_of_find h)

theorem find_of_mem {α : Type u} {key : String} {value : α} :
    ∀ {entries : List (String × α)}, Ascending entries → (key, value) ∈ entries →
      find key entries = some value
  | [], _, h => by simp at h
  | (k, a) :: rest, hs, h => by
      have hhead := (List.pairwise_cons.1 hs).1
      rcases List.mem_cons.1 h with h | h
      · cases h; simp [find]
      · have hlt : k < key := hhead _ h
        have hne : key ≠ k := fun e => String.lt_irrefl k (e ▸ hlt)
        simp [find, hne, find_of_mem (List.pairwise_cons.1 hs).2 h]

theorem eq_of_find_eq {α : Type u} :
    ∀ {l m : List (String × α)}, Ascending l → Ascending m →
      (∀ key, find key l = find key m) → l = m
  | [], [], _, _, _ => rfl
  | [], (k, a) :: rest, _, _, h => by simpa [find] using h k
  | (k, a) :: rest, [], _, _, h => by simpa [find] using h k
  | (k, a) :: l, (k', a') :: m, hl, hm, h => by
      have hlhead := (List.pairwise_cons.1 hl).1
      have hmhead := (List.pairwise_cons.1 hm).1
      have hkk : k = k' := by
        rcases Classical.em (k = k') with heq | hne
        · exact heq
        · have h1 : find k m = some a := by simpa [find, hne] using (h k).symm
          have h2 : find k' l = some a' := by simpa [find, Ne.symm hne] using h k'
          exact absurd (hmhead _ (mem_of_find h1)) (String.lt_asymm (hlhead _ (mem_of_find h2)))
      subst hkk
      have ha : a = a' := by simpa [find] using h k
      subst ha
      refine congrArg _ (eq_of_find_eq (List.pairwise_cons.1 hl).2 (List.pairwise_cons.1 hm).2 ?_)
      intro key
      by_cases hk : key = k
      · subst hk
        have hn : ∀ {r : List (String × α)}, (∀ p ∈ r, key < p.1) → find key r = none := by
          intro r hr
          cases hf : find key r with
          | none => rfl
          | some b => exact absurd (hr _ (mem_of_find hf)) (String.lt_irrefl key)
        rw [hn hlhead, hn hmhead]
      · simpa [find, hk] using h key

end Dictionary

/-- A finite map from names: its entries, each key once, in increasing order. -/
structure Dictionary (α : Type u) where
  entries : List (String × α)
  ascending : Dictionary.Ascending entries

namespace Dictionary

variable {α : Type u} {β : Type v}

/-! ## Operations -/

/-- The dictionary without entries. -/
def empty : Dictionary α := ⟨[], List.Pairwise.nil⟩

instance : EmptyCollection (Dictionary α) := ⟨empty⟩

instance : Inhabited (Dictionary α) := ⟨empty⟩

/-- The value at a key. -/
def get? (d : Dictionary α) (key : String) : Option α := find key d.entries

/-- Whether the key has a value. -/
def contains (d : Dictionary α) (key : String) : Bool := (d.get? key).isSome

/-- Put a value at a key, replacing the one that was there. -/
def insert (d : Dictionary α) (key : String) (value : α) : Dictionary α :=
  ⟨put key value d.entries, ascending_put key value d.ascending⟩

/-- Remove a key and its value. -/
def erase (d : Dictionary α) (key : String) : Dictionary α :=
  ⟨drop key d.entries, ascending_drop key d.ascending⟩

/-- The dictionary of a list of entries; of two entries with one key the later one stays. -/
def ofList (entries : List (String × α)) : Dictionary α :=
  entries.foldl (fun d p => d.insert p.1 p.2) empty

/-- The keys, in increasing order. -/
def keys (d : Dictionary α) : List String := d.entries.map (·.1)

/-- The values, in the order of their keys. -/
def values (d : Dictionary α) : List α := d.entries.map (·.2)

/-- The number of keys. -/
def size (d : Dictionary α) : Nat := d.entries.length

/-- Whether there is no entry. -/
def isEmpty (d : Dictionary α) : Bool := d.entries.isEmpty

/-- Apply a function to every value. -/
def map (f : String → α → β) (d : Dictionary α) : Dictionary β :=
  ⟨d.entries.map (fun p => (p.1, f p.1 p.2)), by
    unfold Ascending
    rw [List.pairwise_map]
    exact d.ascending⟩

/-! ## Look-ups -/

@[simp] theorem get?_empty (key : String) : (empty : Dictionary α).get? key = none := rfl

theorem get?_insert (d : Dictionary α) (key : String) (value : α) (other : String) :
    (d.insert key value).get? other = if other = key then some value else d.get? other :=
  find_put key value other d.entries

theorem get?_erase (d : Dictionary α) (key other : String) :
    (d.erase key).get? other = if other = key then none else d.get? other :=
  find_drop key other d.entries

theorem get?_eq_some_iff {d : Dictionary α} {key : String} {value : α} :
    d.get? key = some value ↔ (key, value) ∈ d.entries :=
  ⟨mem_of_find, find_of_mem d.ascending⟩

/-- A dictionary is determined by its look-ups. -/
theorem ext_get? {d e : Dictionary α} (h : ∀ key, d.get? key = e.get? key) : d = e := by
  have : d.entries = e.entries := eq_of_find_eq d.ascending e.ascending h
  cases d; cases e; cases this; rfl

end Dictionary

/-- A finite set of names, listed in increasing order. -/
abbrev NameSet := Dictionary Unit

namespace NameSet

/-- The set of the names in a list. -/
def ofList (names : List String) : NameSet := Dictionary.ofList (names.map (fun n => (n, ())))

/-- The names, in increasing order. -/
def toList (s : NameSet) : List String := Dictionary.keys s

end NameSet

end SchemaCrosswalk
