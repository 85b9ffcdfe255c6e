import Mathlib.Data.List.Infix
import SchemaCrosswalk.Proofs.Spelling.LowerCase
import SchemaCrosswalk.Spelling

/-!
# Normal form — normalized spellings are those that normalizing leaves alone

A normalized spelling consists of small characters, its words are parted by single spaces, and no
space stands next to a separator. Such a spelling is its own normal form, and no other one is.

* `Text.Parted`: words parted by single spaces, where a space may stand after and before certain
  characters only
* `Spelling.Spaced`: the spaces that a spelling may have; after a comma one may or may not be allowed
* `Spelling.IsNormal`: the normalized spellings
* `Spelling.normalizeChars_eq_self_iff`: these are the ones that stay as they are
* `Spelling.normalize_normalize`: normalizing twice is normalizing once
-/

namespace SchemaCrosswalk

namespace Text

/-! ## Words parted by single spaces -/

section

variable (mayEnd mayBegin : Char → Prop)

/-- A text of one or more words with a single space between two of them, so that it neither starts
nor ends with a space. A word ends before a space, and begins after it, with certain characters
only. -/
inductive Parted : List Char → Prop where
  | single {c : Char} : isBlank c = false → Parted [c]
  | next {c : Char} {cs : List Char} : isBlank c = false → Parted cs → Parted (c :: cs)
  | space {c d : Char} {cs : List Char} :
      isBlank c = false → mayEnd c → mayBegin d → Parted (d :: cs) → Parted (c :: ' ' :: d :: cs)

/-- What may follow a character of a word: nothing, more characters, or a space and more words. -/
inductive Rest : List Char → Prop where
  | nil : Rest []
  | words {cs : List Char} : Parted mayEnd mayBegin cs → Rest cs
  | space {d : Char} {cs : List Char} :
      mayBegin d → Parted mayEnd mayBegin (d :: cs) → Rest (' ' :: d :: cs)

end

/-- Words may end and begin with any character. -/
def anyChar (_ : Char) : Prop := True

theorem ne_space_of_isBlank {c : Char} (h : isBlank c = false) : c ≠ ' ' := by
  rintro rfl
  exact absurd h (by decide)

section

variable {mayEnd mayBegin : Char → Prop} {c : Char} {cs : List Char}

theorem Parted.isBlank_head (h : Parted mayEnd mayBegin (c :: cs)) : isBlank c = false := by
  cases h with
  | single hc => exact hc
  | next hc _ => exact hc
  | space hc _ _ _ => exact hc

theorem Parted.rest_tail (h : Parted mayEnd mayBegin (c :: cs)) : Rest mayEnd mayBegin cs := by
  cases h with
  | single _ => exact .nil
  | next _ hwords => exact .words hwords
  | space _ _ hbegin hwords => exact .space hbegin hwords

theorem Rest.cons (hc : isBlank c = false) (hend : cs.head? = some ' ' → mayEnd c)
    (h : Rest mayEnd mayBegin cs) : Parted mayEnd mayBegin (c :: cs) := by
  cases h with
  | nil => exact .single hc
  | words hwords => exact .next hc hwords
  | space hbegin hwords => exact .space hc (hend rfl) hbegin hwords

/-- A word may go on with any number of characters that are not blank. -/
theorem Rest.append {more : List Char} (hmore : ∀ e ∈ more, isBlank e = false)
    (h : Rest anyChar anyChar cs) : Rest anyChar anyChar (more ++ cs) := by
  induction more with
  | nil => exact h
  | cons e more ih =>
      obtain ⟨he, hrest⟩ := List.forall_mem_cons.1 hmore
      exact .words ((ih hrest).cons he fun _ => trivial)

/-! ## Collapsing -/

theorem collapseFrom_cons (hc : isBlank c = false) (started passed : Bool) (cs : List Char) :
    collapseFrom started passed (c :: cs) =
      (if started && passed then [' ', c] else [c]) ++ collapseFrom true false cs := by
  rw [collapseFrom, if_neg (by simp [hc])]

theorem collapseFrom_of_parted (h : Parted mayEnd mayBegin cs) : collapseFrom true false cs = cs := by
  induction h with
  | single hc => exact collapseFrom_cons hc true false []
  | @next c cs hc _ ih =>
      calc collapseFrom true false (c :: cs)
          = [c] ++ collapseFrom true false cs := collapseFrom_cons hc true false cs
        _ = c :: cs := by rw [ih]; rfl
  | @space c d cs hc _ _ hwords ih =>
      have hd := hwords.isBlank_head
      have hrest : collapseFrom true false cs = cs := by
        rw [collapseFrom_cons hd] at ih
        exact List.tail_eq_of_cons_eq ih
      calc collapseFrom true false (c :: ' ' :: d :: cs)
          = [c] ++ collapseFrom true true (d :: cs) := collapseFrom_cons hc true false _
        _ = [c] ++ ([' ', d] ++ collapseFrom true false cs) := by rw [collapseFrom_cons hd]; rfl
        _ = c :: ' ' :: d :: cs := by rw [hrest]; rfl

theorem collapse_of_parted (h : Parted mayEnd mayBegin cs) : collapse cs = cs := by
  cases h with
  | single hc => exact collapseFrom_cons hc false false []
  | @next c cs hc hwords =>
      calc collapse (c :: cs)
          = [c] ++ collapseFrom true false cs := collapseFrom_cons hc false false cs
        _ = c :: cs := by rw [collapseFrom_of_parted hwords]; rfl
  | @space c d cs hc hend hbegin hwords =>
      have hstarted := collapseFrom_of_parted (Parted.space hc hend hbegin hwords)
      rw [collapseFrom_cons hc] at hstarted
      exact (collapseFrom_cons hc false false _).trans hstarted

/-- What follows the first character of a word. -/
theorem rest_collapseFrom (cs : List Char) (passed : Bool) :
    Rest anyChar anyChar (collapseFrom true passed cs) := by
  induction cs generalizing passed with
  | nil => exact .nil
  | cons c cs ih =>
      cases hc : isBlank c with
      | true =>
          rw [collapseFrom, if_pos hc]
          exact ih true
      | false =>
          have hwords : Parted anyChar anyChar (c :: collapseFrom true false cs) :=
            (ih false).cons hc fun _ => trivial
          rw [collapseFrom_cons hc]
          cases passed with
          | true => exact .space trivial hwords
          | false => exact .words hwords

theorem parted_collapse (cs : List Char) : collapse cs = [] ∨ Parted anyChar anyChar (collapse cs) := by
  have hfrom : ∀ passed, collapseFrom false passed cs = [] ∨
      Parted anyChar anyChar (collapseFrom false passed cs) := by
    induction cs with
    | nil =>
        intro passed
        exact Or.inl rfl
    | cons c cs ih =>
        intro passed
        cases hc : isBlank c with
        | true =>
            rw [collapseFrom, if_pos hc]
            exact ih true
        | false =>
            right
            rw [collapseFrom_cons hc]
            exact (rest_collapseFrom cs false).cons hc fun _ => trivial
  exact hfrom false

theorem mem_of_mem_collapseFrom {c : Char} (started passed : Bool)
    (h : c ∈ collapseFrom started passed cs) : c ∈ cs ∨ c = ' ' := by
  induction cs generalizing started passed with
  | nil => cases h
  | cons d cs ih =>
      cases hd : isBlank d with
      | true =>
          rw [collapseFrom, if_pos hd] at h
          exact (ih started true h).imp_left (List.mem_cons_of_mem d)
      | false =>
          rw [collapseFrom_cons hd] at h
          rcases List.mem_append.1 h with hfirst | hrest
          · split at hfirst
            · rcases List.mem_pair.1 hfirst with rfl | rfl
              · exact Or.inr rfl
              · exact Or.inl List.mem_cons_self
            · exact Or.inl (List.mem_singleton.1 hfirst ▸ List.mem_cons_self)
          · exact (ih true false hrest).imp_left (List.mem_cons_of_mem d)

theorem mem_of_mem_collapse {c : Char} (h : c ∈ collapse cs) : c ∈ cs ∨ c = ' ' :=
  mem_of_mem_collapseFrom false false h

theorem collapse_cons_of_isBlank {c : Char} (hc : isBlank c = true) (cs : List Char) :
    collapse (c :: cs) = collapse cs := by
  have hpassed : collapseFrom false true cs = collapseFrom false false cs := by
    cases cs with
    | nil => rfl
    | cons d cs => rw [collapseFrom, collapseFrom, Bool.false_and, Bool.false_and]
  rw [collapse, collapseFrom, if_pos hc, hpassed, collapse]

theorem collapse_dropWhile (cs : List Char) : collapse (cs.dropWhile isBlank) = collapse cs := by
  induction cs with
  | nil => rfl
  | cons c cs ih =>
      cases hc : isBlank c with
      | true => rw [List.dropWhile_cons_of_pos hc, ih, collapse_cons_of_isBlank hc]
      | false => rw [List.dropWhile_cons_of_neg (by simp [hc])]

theorem collapseFrom_concat_of_isBlank {c : Char} (hc : isBlank c = true) (cs : List Char)
    (started passed : Bool) :
    collapseFrom started passed (cs ++ [c]) = collapseFrom started passed cs := by
  induction cs generalizing started passed with
  | nil => simp [collapseFrom, hc]
  | cons d cs ih => rw [List.cons_append, collapseFrom, collapseFrom, ih, ih]

theorem collapse_dropTrailing (cs : List Char) : collapse (dropTrailing cs) = collapse cs := by
  rw [dropTrailing_eq_rdropWhile]
  -- Blanks are dropped from the end, so the list is taken apart from there.
  induction cs using List.reverseRecOn with
  | nil => rfl
  | append_singleton cs c ih =>
      cases hc : isBlank c with
      | true =>
          rw [List.rdropWhile_concat_pos _ _ _ hc, ih]
          exact (collapseFrom_concat_of_isBlank hc cs false false).symm
      | false => rw [List.rdropWhile_concat_neg _ _ _ (by simp [hc])]

/-! ## Lower case -/

theorem parted_lowercaseFrom (h : Parted anyChar anyChar cs) (before : List Char) :
    Parted anyChar anyChar (lowercaseFrom before cs) := by
  -- One character that is not blank becomes one or more such characters, and spaces stay.
  have hcons : ∀ {c : Char} {cs before : List Char}, isBlank c = false →
      Rest anyChar anyChar (lowercaseFrom (c :: before) cs) →
        Parted anyChar anyChar (lowercaseFrom before (c :: cs)) := by
    intro c cs before hc hrest
    obtain ⟨d, ds, hds, heq⟩ := exists_lowercaseFrom_cons hc before cs
    obtain ⟨hd, hmore⟩ := List.forall_mem_cons.1 hds
    rw [heq]
    exact (hrest.append hmore).cons hd fun _ => trivial
  induction h generalizing before with
  | single hc => exact hcons hc .nil
  | next hc _ ih => exact hcons hc (.words (ih _))
  | @space c d cs hc _ _ hwords ih =>
      apply hcons hc
      rw [lowercaseFrom_space]
      have hwords' := ih (' ' :: c :: before)
      obtain ⟨e, es, _, heq⟩ :=
        exists_lowercaseFrom_cons hwords.isBlank_head (' ' :: c :: before) cs
      rw [heq] at hwords' ⊢
      exact .space trivial hwords'

end

end Text

namespace Spelling

open Text

/-! ## Spaces and separators -/

/-- A word of a spelling may end with this character before a space: never with an opening
parenthesis, and with a comma only if that is allowed. -/
def mayEnd (afterComma : Prop) (c : Char) : Prop := c ≠ '(' ∧ (c = ',' → afterComma)

/-- A word of a spelling may begin with this character after a space: with no separator. -/
def mayBegin (c : Char) : Prop := joinsPrevious c = false

instance (c : Char) : Decidable (mayBegin c) := inferInstanceAs (Decidable (_ = _))

/-- A text whose words are parted by single spaces none of which stands next to a separator, but
for spaces after commas if these are allowed. -/
def Spaced (afterComma : Prop) (cs : List Char) : Prop :=
  cs = [] ∨ Parted (mayEnd afterComma) mayBegin cs

/-- A normalized spelling: small characters, and no space next to a separator. -/
structure IsNormal (cs : List Char) : Prop where
  spaced : Spaced False cs
  small : ∀ c ∈ cs, IsSmall c

theorem mayEnd_false_iff {c : Char} : mayEnd False c ↔ joinsNext c = false := by
  simp [mayEnd, joinsNext]

/-! ## Tightening -/

theorem tightenFrom_cons {c : Char} (hc : isBlank c = false) (last : Option Char) (cs : List Char) :
    tightenFrom last (c :: cs) = c :: tightenFrom (some c) cs := by
  rw [tightenFrom, if_neg (by simp [ne_space_of_isBlank hc])]

theorem tightenFrom_space (c d : Char) (cs : List Char) :
    tightenFrom (some c) (' ' :: d :: cs) =
      if joinsNext c || joinsPrevious d then tightenFrom (some c) (d :: cs)
      else ' ' :: tightenFrom (some ' ') (d :: cs) := by
  simp [tightenFrom]

theorem parted_tightenFrom {cs : List Char} (h : Parted anyChar anyChar cs) (last : Option Char) :
    Parted (mayEnd False) mayBegin (tightenFrom last cs) := by
  induction h generalizing last with
  | single hc =>
      rw [tightenFrom_cons hc]
      exact .single hc
  | next hc _ ih =>
      rw [tightenFrom_cons hc]
      exact .next hc (ih _)
  | @space c d cs hc _ _ hwords ih =>
      rw [tightenFrom_cons hc, tightenFrom_space]
      split
      · exact .next hc (ih _)
      · next hjoins =>
        -- The space stays, and the word after it still begins with the same character.
        have hrest := ih (some ' ')
        rw [tightenFrom_cons hwords.isBlank_head] at hrest ⊢
        simp only [Bool.or_eq_true, not_or, Bool.not_eq_true] at hjoins
        exact .space hc (mayEnd_false_iff.2 hjoins.1) hjoins.2 hrest

theorem tightenFrom_of_parted {cs : List Char} (h : Parted (mayEnd False) mayBegin cs)
    (last : Option Char) : tightenFrom last cs = cs := by
  induction h generalizing last with
  | single hc => exact tightenFrom_cons hc last []
  | @next c cs hc _ ih => rw [tightenFrom_cons hc, ih]
  | @space c d cs hc hend hbegin _ ih =>
      have hjoins : (joinsNext c || joinsPrevious d) = false := by
        rw [mayEnd_false_iff.1 hend, hbegin, Bool.or_false]
      rw [tightenFrom_cons hc, tightenFrom_space, hjoins, if_neg Bool.false_ne_true, ih]

theorem tightenFrom_sublist (last : Option Char) (cs : List Char) :
    (tightenFrom last cs).Sublist cs := by
  induction cs generalizing last with
  | nil => exact .slnil
  | cons c cs ih =>
      unfold tightenFrom
      split
      · exact (ih last).cons c
      · exact (ih _).cons_cons c

/-! ## Normalizing -/

theorem isNormal_normalizeChars (cs : List Char) : IsNormal (normalizeChars cs) where
  spaced := by
    rcases parted_collapse cs with hnil | hwords
    · left
      rw [normalizeChars, hnil]
      rfl
    · right
      exact parted_tightenFrom (parted_lowercaseFrom hwords []) none
  small := by
    intro c hc
    exact isSmall_of_mem_lowercase ((tightenFrom_sublist none _).mem hc)

/-- Of a text of small characters whose words are parted by single spaces, normalizing only drops
the spaces next to separators. -/
theorem normalizeChars_of_spaced {afterComma : Prop} {cs : List Char} (hspaced : Spaced afterComma cs)
    (hsmall : ∀ c ∈ cs, IsSmall c) : normalizeChars cs = tightenFrom none cs := by
  have hcollapse : collapse cs = cs := by
    rcases hspaced with rfl | hwords
    · rfl
    · exact collapse_of_parted hwords
  rw [normalizeChars, hcollapse, lowercase_eq_self hsmall]

theorem normalizeChars_eq_self {cs : List Char} (h : IsNormal cs) : normalizeChars cs = cs := by
  rw [normalizeChars_of_spaced h.spaced h.small]
  rcases h.spaced with rfl | hwords
  · rfl
  · exact tightenFrom_of_parted hwords none

/-- The normalized spellings are those that normalizing leaves alone. -/
theorem normalizeChars_eq_self_iff {cs : List Char} : normalizeChars cs = cs ↔ IsNormal cs := by
  constructor
  · intro h
    rw [← h]
    exact isNormal_normalizeChars cs
  · exact normalizeChars_eq_self

theorem toList_normalize (raw : String) : (normalize raw).toList = normalizeChars raw.toList :=
  String.toList_ofList

theorem isNormal_normalize (raw : String) : IsNormal (normalize raw).toList := by
  rw [toList_normalize]
  exact isNormal_normalizeChars raw.toList

theorem normalize_eq_self_iff {s : String} : normalize s = s ↔ IsNormal s.toList := by
  rw [← String.toList_inj, toList_normalize, normalizeChars_eq_self_iff]

theorem normalize_normalize (raw : String) : normalize (normalize raw) = normalize raw :=
  normalize_eq_self_iff.2 (isNormal_normalize raw)

/-- Blanks at the ends do not distinguish two spellings. -/
theorem normalize_trim (raw : String) : normalize (Text.trim raw) = normalize raw := by
  unfold normalize normalizeChars Text.trim
  rw [String.toList_ofList, Text.collapse_dropTrailing, Text.collapse_dropWhile]

theorem canonical_trim (raw : String) (stripParameters : Bool) :
    canonical (Text.trim raw) stripParameters = canonical raw stripParameters := by
  unfold canonical
  rw [normalize_trim]

end Spelling

end SchemaCrosswalk
