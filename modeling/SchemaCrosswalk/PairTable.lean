import SchemaCrosswalk.Dictionary

/-!
# Pair tables — finite maps from pairs of names

A pair table is a dictionary of dictionaries. It keeps its entries in the order of the pairs.
-/

namespace SchemaCrosswalk

/-- A finite map from pairs of names. -/
abbrev PairTable (α : Type) := Dictionary (Dictionary α)

namespace PairTable

variable {α : Type}

/-- The table without entries. -/
def empty : PairTable α := Dictionary.empty

/-- The value at a pair. -/
def get? (t : PairTable α) (first second : String) : Option α :=
  (Dictionary.get? t first).bind fun d => d.get? second

/-- Put a value at a pair, replacing the one that was there. -/
def put (t : PairTable α) (first second : String) (value : α) : PairTable α :=
  Dictionary.insert t first (((Dictionary.get? t first).getD Dictionary.empty).insert second value)

/-- The entries in the order of their pairs. -/
def toList (t : PairTable α) : List (String × String × α) :=
  t.entries.flatMap fun p => p.2.entries.map fun q => (p.1, q.1, q.2)

/-- The pairs in order. -/
def pairs (t : PairTable α) : List (String × String) := t.toList.map fun e => (e.1, e.2.1)

/-- The number of pairs. -/
def size (t : PairTable α) : Nat := t.toList.length

/-! ## Look-ups -/

@[simp] theorem get?_empty (first second : String) :
    (empty : PairTable α).get? first second = none :=
  rfl

theorem get?_put (t : PairTable α) (first second : String) (value : α) (other another : String) :
    (t.put first second value).get? other another =
      if other = first ∧ another = second then some value else t.get? other another := by
  unfold get? put
  rw [Dictionary.get?_insert]
  by_cases h : other = first
  · subst h
    by_cases h' : another = second
    · simp [Dictionary.get?_insert, h']
    · cases hd : Dictionary.get? t other <;> simp [Dictionary.get?_insert, h']
  · simp [h]

end PairTable

end SchemaCrosswalk
