import Mathlib.Data.List.Dedup
import Mathlib.Data.List.Pairwise
import SchemaCrosswalk.PairTable
import SchemaCrosswalk.Proofs.Outcomes

/-!
# Dictionary — keys, values and entries of finite maps

What the operations of dictionaries, name sets and pair tables do to keys, values and entries.

* `Dictionary.contains_iff_mem_keys`, `Dictionary.nodup_keys`: a dictionary as a list of keys
* `Dictionary.get?_insert_eq_some_iff`: what an insertion adds that overwrites nothing
* `Dictionary.Inserts.exists_foldlM_empty_iff`: when all entries of a list can be put in
* `NameSet.mem_toList_ofList`: a name set has the names of the list that it is made of
* `PairTable.mem_toList_iff`, `PairTable.pairwise_toList`: the entries of a pair table are its
  look-ups, in order
* `PairTable.get?_putAll`, `PairTable.size_putAll`: what a table holds once many values have been
  put in
-/

namespace SchemaCrosswalk

namespace Dictionary

variable {α β : Type}

instance [DecidableEq α] : DecidableEq (Dictionary α) := fun d e =>
  decidable_of_iff (d.entries = e.entries)
    ⟨fun h => ext_get? fun key => congrArg (find key) h, congrArg entries⟩

/-! ## Keys -/

theorem contains_iff_mem_keys {d : Dictionary α} {key : String} :
    d.contains key = true ↔ key ∈ d.keys := by
  unfold contains keys
  rw [Option.isSome_iff_exists, List.mem_map]
  constructor
  · rintro ⟨value, h⟩
    exact ⟨(key, value), get?_eq_some_iff.1 h, rfl⟩
  · rintro ⟨⟨_, value⟩, hmem, rfl⟩
    exact ⟨value, get?_eq_some_iff.2 hmem⟩

theorem nodup_keys (d : Dictionary α) : d.keys.Nodup := by
  refine (List.Pairwise.map (S := (· ≠ ·)) Prod.fst ?_ d.ascending)
  intro p q hlt heq
  simp [heq] at hlt

theorem contains_insert (d : Dictionary α) (key : String) (value : α) (other : String) :
    (d.insert key value).contains other = true ↔ other = key ∨ d.contains other = true := by
  unfold contains
  rw [get?_insert]
  by_cases h : other = key <;> simp [h]

/-- An entry does not contradict the one that a dictionary has for its key, if any. -/
def Admits (d : Dictionary α) (key : String) (value : α) : Prop :=
  ∀ a, d.get? key = some a → a = value

/-- Inserting a value where there is none, or the same one, adds one entry at most. -/
theorem get?_insert_eq_some_iff {d : Dictionary α} {key : String} {value : α}
    (h : d.Admits key value) (other : String) (a : α) :
    (d.insert key value).get? other = some a ↔ d.get? other = some a ∨ key = other ∧ value = a := by
  rw [get?_insert]
  by_cases hkey : other = key
  · subst hkey
    rw [if_pos rfl, Option.some_inj]
    constructor
    · intro heq
      exact Or.inr ⟨rfl, heq⟩
    · rintro (hget | ⟨-, heq⟩)
      · exact (h a hget).symm
      · exact heq
  · rw [if_neg hkey]
    simp [Ne.symm hkey]

/-! ## Entries that are put in one after the other -/

/-- An entry is put in if it contradicts none that is there, given that it is put in where there is
none and where the same value is there. -/
theorem eq_ok_iff_of_checks {ε : Type} {d d' : Dictionary α} {key : String} {value : α}
    {put : Except ε (Dictionary α)}
    (hnew : d.get? key = none → put = .ok (d.insert key value))
    (hsame : d.get? key = some value → put = .ok (d.insert key value))
    (hother : ∀ existing, d.get? key = some existing → existing ≠ value →
      ∃ problem, put = .error problem) :
    put = .ok d' ↔ d.Admits key value ∧ d' = d.insert key value := by
  by_cases hadmits : d.Admits key value
  · have hput : put = .ok (d.insert key value) := by
      cases hget : d.get? key with
      | none => exact hnew hget
      | some existing => exact hsame (hadmits existing hget ▸ hget)
    rw [hput, Except.ok.injEq]
    simp [hadmits, eq_comm]
  · unfold Admits at hadmits
    push Not at hadmits
    obtain ⟨existing, hget, hne⟩ := hadmits
    obtain ⟨problem, hput⟩ := hother existing hget hne
    rw [hput]
    exact iff_of_false (fun h => by cases h) fun h => hne (h.1 existing hget)

theorem admits_insert_iff {d : Dictionary α} {key other : String} {value a : α}
    (h : d.Admits key value) :
    (d.insert key value).Admits other a ↔ d.Admits other a ∧ (key = other → value = a) := by
  unfold Admits
  simp only [get?_insert_eq_some_iff h]
  constructor
  · intro hall
    exact ⟨fun b hb => hall b (Or.inl hb), fun hkey => hall value (Or.inr ⟨hkey, rfl⟩)⟩
  · rintro ⟨hbefore, hkey⟩ b (hb | ⟨hother, rfl⟩)
    · exact hbefore b hb
    · exact hkey hother

section

variable {ε ι : Type} {step : Dictionary α → ι → Except ε (Dictionary α)}
variable {usable : ι → Prop} {key : ι → String} {value : ι → α}

/-- A step puts in the entry of an item if the item can be used and its entry contradicts none that
is there. -/
def Inserts (step : Dictionary α → ι → Except ε (Dictionary α)) (usable : ι → Prop)
    (key : ι → String) (value : ι → α) : Prop :=
  ∀ d i d', step d i = .ok d' ↔
    (usable i ∧ d.Admits (key i) (value i)) ∧ d' = d.insert (key i) (value i)

/-- Entries can be put in one after the other if each of them can be used, and none contradicts a
later one or an entry that was there before. -/
theorem Inserts.exists_foldlM_iff (h : Inserts step usable key value)
    {items : List ι} {d : Dictionary α} :
    (∃ d', items.foldlM step d = .ok d') ↔
      (∀ i ∈ items, usable i ∧ d.Admits (key i) (value i)) ∧
        items.Pairwise fun i j => key i = key j → value i = value j := by
  induction items generalizing d with
  | nil => simp [pure, Except.pure]
  | cons i items ih =>
      -- Once the first entry is in, it is one of those that the others must not contradict.
      rw [List.foldlM_cons, exists_bind_ok_iff, List.forall_mem_cons, List.pairwise_cons]
      constructor
      · rintro ⟨d₁, hfirst, hrest⟩
        obtain ⟨⟨husable, hadmits⟩, rfl⟩ := (h d i d₁).1 hfirst
        obtain ⟨hall, hpairwise⟩ := ih.1 hrest
        have hboth := fun j hj => (admits_insert_iff hadmits).1 (hall j hj).2
        exact ⟨⟨⟨husable, hadmits⟩, fun j hj => ⟨(hall j hj).1, (hboth j hj).1⟩⟩,
          fun j hj => (hboth j hj).2, hpairwise⟩
      · rintro ⟨⟨⟨husable, hadmits⟩, hall⟩, hfirst, hpairwise⟩
        refine ⟨_, (h d i _).2 ⟨⟨husable, hadmits⟩, rfl⟩, ih.2 ⟨fun j hj => ?_, hpairwise⟩⟩
        exact ⟨(hall j hj).1, (admits_insert_iff hadmits).2 ⟨(hall j hj).2, hfirst j hj⟩⟩

/-- Entries can be put into an empty dictionary if each of them can be used, and no two of them have
one key and different values. -/
theorem Inserts.exists_foldlM_empty_iff (h : Inserts step usable key value)
    {items : List ι} :
    (∃ d, items.foldlM step empty = .ok d) ↔
      (∀ i ∈ items, usable i) ∧ ∀ i ∈ items, ∀ j ∈ items, key i = key j → value i = value j := by
  have hsymm : Std.Symm fun i j => key i = key j → value i = value j :=
    ⟨fun _ _ h hkey => (h hkey.symm).symm⟩
  have hempty : ∀ i, (empty : Dictionary α).Admits (key i) (value i) := by
    intro i a ha
    cases ha
  rw [h.exists_foldlM_iff]
  constructor
  · rintro ⟨hall, hpairwise⟩
    exact ⟨fun i hi => (hall i hi).1, hpairwise.forall_of_forall fun i _ _ => rfl⟩
  · rintro ⟨hall, hagree⟩
    exact ⟨fun i hi => ⟨hall i hi, hempty i⟩, List.pairwise_of_forall_mem_list hagree⟩

/-- The entries that have been put into an empty dictionary are those of the list. -/
theorem Inserts.get?_of_foldlM (h : Inserts step usable key value)
    {items : List ι} {d : Dictionary α} (hall : items.foldlM step empty = .ok d) (name : String)
    (a : α) : d.get? name = some a ↔ ∃ i ∈ items, key i = name ∧ value i = a := by
  have hadds : ∀ d i d', step d i = .ok d' →
      (d'.get? name = some a ↔ d.get? name = some a ∨ key i = name ∧ value i = a) := by
    intro d i d' hadd
    obtain ⟨⟨-, hadmits⟩, rfl⟩ := (h d i d').1 hadd
    exact get?_insert_eq_some_iff hadmits name a
  calc d.get? name = some a
      ↔ empty.get? name = some a ∨ ∃ i ∈ items, key i = name ∧ value i = a :=
        foldlM_iff (fun d => d.get? name = some a) hadds hall
    _ ↔ _ := by simp

end

/-! ## Values -/

theorem find_map (f : String → α → β) (key : String) :
    ∀ entries : List (String × α),
      find key (entries.map fun p => (p.1, f p.1 p.2)) = (find key entries).map (f key)
  | [] => rfl
  | (k, a) :: rest => by
      by_cases h : key = k
      · subst h
        simp [find]
      · simp [find, h, find_map f key rest]

theorem get?_map (f : String → α → β) (d : Dictionary α) (key : String) :
    (d.map f).get? key = (d.get? key).map (f key) :=
  find_map f key d.entries

end Dictionary

namespace NameSet

/-! ## Name sets -/

theorem contains_foldl_insert {name : String} :
    ∀ {names : List String} {s : NameSet},
      (((names.map fun n => (n, ())).foldl (fun d p => Dictionary.insert d p.1 p.2) s).contains name
        = true) ↔ name ∈ names ∨ s.contains name = true
  | [], s => by simp
  | n :: names, s => by
      -- The rest is put into the set that has the first name already.
      have ih := @contains_foldl_insert name names (s.insert n ())
      simp only [List.map_cons, List.foldl_cons, ih, Dictionary.contains_insert, List.mem_cons]
      tauto

theorem contains_foldl_insert_names {names : List String} {s : NameSet} {name : String} :
    (names.foldl (fun s n => Dictionary.insert s n ()) s).contains name = true ↔
      name ∈ names ∨ s.contains name = true := by
  have h := @contains_foldl_insert name names s
  rwa [List.foldl_map] at h

theorem contains_ofList {names : List String} {name : String} :
    (ofList names).contains name = true ↔ name ∈ names := by
  have h := @contains_foldl_insert name names Dictionary.empty
  simpa [ofList, Dictionary.ofList, Dictionary.contains] using h

theorem mem_toList_ofList {names : List String} {name : String} :
    name ∈ (ofList names).toList ↔ name ∈ names :=
  Dictionary.contains_iff_mem_keys.symm.trans contains_ofList

end NameSet

namespace PairTable

variable {α : Type}

/-! ## Entries of pair tables -/

theorem mem_toList_iff {t : PairTable α} {first second : String} {value : α} :
    (first, second, value) ∈ t.toList ↔ t.get? first second = some value := by
  unfold toList get?
  simp only [List.mem_flatMap, List.mem_map, Option.bind_eq_some_iff]
  constructor
  · rintro ⟨⟨f, d⟩, hd, ⟨s, v⟩, hv, heq⟩
    cases heq
    exact ⟨d, Dictionary.get?_eq_some_iff.2 hd, Dictionary.get?_eq_some_iff.2 hv⟩
  · rintro ⟨d, hd, hv⟩
    exact ⟨(first, d), Dictionary.get?_eq_some_iff.1 hd, (second, value),
      Dictionary.get?_eq_some_iff.1 hv, rfl⟩

/-- The order of pairs: by their first names, and then by their second ones. -/
def Before (e f : String × String × α) : Prop := e.1 < f.1 ∨ e.1 = f.1 ∧ e.2.1 < f.2.1

theorem Before.asymm {e f : String × String × α} (h : Before e f) : ¬ Before f e := by
  rcases h with hlt | ⟨heq, hlt⟩ <;> rintro (hlt' | ⟨heq', hlt'⟩)
  · exact String.lt_asymm hlt hlt'
  · exact String.lt_irrefl _ (heq' ▸ hlt)
  · exact String.lt_irrefl _ (heq ▸ hlt')
  · exact String.lt_asymm hlt hlt'

theorem pairwise_toList (t : PairTable α) : t.toList.Pairwise Before := by
  unfold toList
  rw [List.pairwise_flatMap]
  -- Entries of one key differ in their second names, entries of two keys in these keys.
  constructor
  · rintro ⟨first, d⟩ -
    rw [List.pairwise_map]
    exact d.ascending.imp fun hlt => Or.inr ⟨rfl, hlt⟩
  · refine t.ascending.imp ?_
    rintro ⟨first, d⟩ ⟨first', d'⟩ hlt e he f hf
    obtain ⟨q, -, rfl⟩ := List.mem_map.1 he
    obtain ⟨q', -, rfl⟩ := List.mem_map.1 hf
    exact Or.inl hlt

theorem nodup_toList (t : PairTable α) : t.toList.Nodup := by
  refine t.pairwise_toList.imp fun h heq => ?_
  subst heq
  exact h.asymm h

theorem mem_pairs_iff {t : PairTable α} {first second : String} :
    (first, second) ∈ t.pairs ↔ (t.get? first second).isSome = true := by
  unfold pairs
  rw [Option.isSome_iff_exists, List.mem_map]
  constructor
  · rintro ⟨⟨_, _, value⟩, hmem, heq⟩
    cases heq
    exact ⟨value, mem_toList_iff.1 hmem⟩
  · rintro ⟨value, hget⟩
    exact ⟨_, mem_toList_iff.2 hget, rfl⟩

/-- Every pair has one entry. -/
theorem nodup_pairs (t : PairTable α) : t.pairs.Nodup := by
  refine t.pairwise_toList.map _ ?_
  intro e f hbefore hsame
  have hnames := Prod.mk.inj hsame
  rcases hbefore with hlt | ⟨-, hlt⟩
  · exact String.lt_irrefl _ (hnames.1 ▸ hlt)
  · exact String.lt_irrefl _ (hnames.2 ▸ hlt)

theorem size_eq_length_pairs (t : PairTable α) : t.size = t.pairs.length := by
  simp [size, pairs]

/-! ## Values that are put in one after the other -/

section

variable {ι : Type} (place : ι → String × String) (value : ι → α)

/-- The table with the values of some items at their places; of two items with one place the later
one counts. -/
def putAll (items : List ι) (t : PairTable α) : PairTable α :=
  items.foldl (fun t i => t.put (place i).1 (place i).2 (value i)) t

/-- The last item with a place. -/
def lastAt (items : List ι) (first second : String) : Option ι :=
  (items.filter fun i => place i == (first, second)).getLast?

variable {place value}

/-- The last item with a place is one that no other item with this place follows. -/
theorem lastAt_eq_some_iff {items : List ι} {first second : String} {i : ι} :
    lastAt place items first second = some i ↔
      ∃ before after, items = before ++ i :: after ∧ place i = (first, second) ∧
        ∀ j ∈ after, place j ≠ (first, second) := by
  unfold lastAt
  rw [List.getLast?_filter, List.find?_eq_some_iff_append]
  -- The search goes through the items from the end, so what it passes over stands behind.
  constructor
  · rintro ⟨hplace, after, before, hreverse, hafter⟩
    have hitems : items = before.reverse ++ i :: after.reverse := by
      simpa using congrArg List.reverse hreverse
    exact ⟨before.reverse, after.reverse, hitems, beq_iff_eq.1 hplace,
      fun j hj => by simpa using hafter j (List.mem_reverse.1 hj)⟩
  · rintro ⟨before, after, rfl, hplace, hafter⟩
    exact ⟨beq_iff_eq.2 hplace, after.reverse, before.reverse, by simp,
      fun j hj => by simpa using hafter j (List.mem_reverse.1 hj)⟩

/-- At a place stands the value of the last item with this place, or what was there before. -/
theorem get?_putAll (first second : String) :
    ∀ (items : List ι) (t : PairTable α),
      (putAll place value items t).get? first second =
        ((lastAt place items first second).map value).or (t.get? first second)
  | [], t => rfl
  | i :: items, t => by
      have hrest := get?_putAll first second items (t.put (place i).1 (place i).2 (value i))
      have hstep : putAll place value (i :: items) t =
          putAll place value items (t.put (place i).1 (place i).2 (value i)) := rfl
      rw [hstep, hrest, get?_put]
      -- The first item counts only if none of the later ones has its place.
      by_cases hplace : place i = (first, second)
      · have hlast : lastAt place (i :: items) first second =
            some ((lastAt place items first second).getD i) := by
          simp [lastAt, hplace, List.getLast?_cons]
        rw [hlast]
        cases lastAt place items first second <;> simp [hplace]
      · have hlast : lastAt place (i :: items) first second = lastAt place items first second := by
          simp [lastAt, hplace]
        have hother : ¬ (first = (place i).1 ∧ second = (place i).2) := by
          rintro ⟨rfl, rfl⟩
          exact hplace rfl
        rw [hlast, if_neg hother]

theorem mem_pairs_putAll {items : List ι} {p : String × String} :
    p ∈ (putAll place value items empty).pairs ↔ p ∈ items.map place := by
  obtain ⟨first, second⟩ := p
  rw [mem_pairs_iff, get?_putAll]
  simp [lastAt]

/-- There are as many entries as the items have different places. -/
theorem size_putAll (items : List ι) :
    (putAll place value items empty).size = (items.map place).dedup.length := by
  have hperm : (putAll place value items empty).pairs.Perm (items.map place).dedup := by
    rw [List.perm_ext_iff_of_nodup (nodup_pairs _) (List.nodup_dedup _)]
    intro p
    rw [mem_pairs_putAll, List.mem_dedup]
  rw [size_eq_length_pairs, hperm.length_eq]

/-- No value is lost if and only if the items have different places. -/
theorem size_putAll_eq_length_iff {items : List ι} :
    (putAll place value items empty).size = items.length ↔ (items.map place).Nodup := by
  rw [size_putAll, ← List.dedup_eq_self, ← List.length_map place]
  constructor
  · exact (List.dedup_sublist _).eq_of_length
  · exact congrArg List.length

end

end PairTable

end SchemaCrosswalk
