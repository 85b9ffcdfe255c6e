import SchemaCrosswalk.DocumentFormat
import SchemaCrosswalk.Proofs.Spelling.LowerCase

/-!
# Plain names — names of files in other letter case

Slashes and dots have no case, and lower-casing makes none of them from other characters. So a name
that is written in another letter case can be the name of a file exactly if the name itself can.

* `IsMark`: the characters that a plain name depends on
* `mem_lowercase_iff`, `lowercase_eq_iff`: marks in a text and in its lower case
* `isPlainName_congr`: all spellings of a name are plain, or none is
-/

namespace SchemaCrosswalk

namespace Text

/-- A character that a plain name depends on: a slash or a dot. -/
def IsMark (c : Char) : Prop := c = '/' ∨ c = '\\' ∨ c = '.'

instance (c : Char) : Decidable (IsMark c) := inferInstanceAs (Decidable (_ ∨ _))

variable {c d m : Char} {cs ds : List Char}

theorem toNat_le_of_isMark (h : IsMark m) : m.toNat ≤ 92 := by
  rcases h with rfl | rfl | rfl
  · decide
  · decide
  · decide

theorem isSmall_of_isMark (h : IsMark m) : IsSmall m := by
  rcases h with rfl | rfl | rfl
  · decide
  · decide
  · decide

/-! ## Single characters -/

/-- Runs begin behind ASCII and do not lead to marks. -/
theorem caseRuns_avoidMarks :
    ∀ run ∈ caseRuns, 127 < run.first ∧ 92 < (run.first + run.shift).toNat := by
  decide +kernel

theorem toLower_eq_mark_iff_of_lt : ∀ n < 128,
    ((Char.ofNat n).toLower = '/' ↔ Char.ofNat n = '/') ∧
      ((Char.ofNat n).toLower = '\\' ↔ Char.ofNat n = '\\') ∧
      ((Char.ofNat n).toLower = '.' ↔ Char.ofNat n = '.') := by
  decide +kernel

theorem ne_of_isMark_ofNat {n : Nat} (hm : IsMark m) (hn : 92 < n) : Char.ofNat n ≠ m := by
  rintro rfl
  have hle := toNat_le_of_isMark hm
  rcases toNat_ofNat_or_eq_zero n with hval | hzero
  · omega
  · rw [hzero] at hm
    exact absurd hm (by decide)

theorem mem_lowerChar_iff (hm : IsMark m) : m ∈ lowerChar c ↔ c = m := by
  have hbig : ¬ c.toNat < 128 → c ≠ m := by
    rintro hascii rfl
    have hle := toNat_le_of_isMark hm
    omega
  unfold lowerChar
  -- The cases are those of the definition: ASCII, the dotted capital, a run, and all others.
  split
  · next hascii =>
    have hall := toLower_eq_mark_iff_of_lt c.toNat hascii
    rw [Char.ofNat_toNat] at hall
    have hlower : c.toLower = m ↔ c = m := by
      rcases hm with rfl | rfl | rfl
      · exact hall.1
      · exact hall.2.1
      · exact hall.2.2
    rw [List.mem_singleton, ← hlower]
    exact eq_comm
  · next hascii =>
    simp only [hbig hascii, iff_false]
    split
    · rcases hm with rfl | rfl | rfl
      · decide
      · decide
      · decide
    · split
      · next run hfound =>
        have hcovers := List.find?_some hfound
        have hcover := of_decide_eq_true hcovers
        have havoid := caseRuns_avoidMarks run (List.mem_of_find?_eq_some hfound)
        intro hmem
        refine ne_of_isMark_ofNat hm ?_ (List.mem_singleton.1 hmem).symm
        omega
      · intro hmem
        exact hbig hascii (List.mem_singleton.1 hmem).symm

/-! ## Texts -/

/-- What one character becomes at its place: a sigma takes one of its forms, and every other
character is lower-cased by itself. -/
theorem mem_lowercaseFrom_cons_iff (hm : IsMark m) (before cs : List Char) :
    m ∈ lowercaseFrom before (c :: cs) ↔ c = m ∨ m ∈ lowercaseFrom (c :: before) cs := by
  rw [lowercaseFrom, List.mem_append]
  refine or_congr_left ?_
  split
  · next hsigma =>
    have hform : m ≠ 'ς' ∧ m ≠ 'σ' ∧ m ≠ 'Σ' := by
      rcases hm with rfl | rfl | rfl
      · decide
      · decide
      · decide
    rw [hsigma]
    split
    · simp [hform.1, hform.2.2.symm]
    · simp [hform.2.1, hform.2.2.symm]
  · exact mem_lowerChar_iff hm

theorem mem_lowercase_iff (hm : IsMark m) : m ∈ lowercase cs ↔ m ∈ cs := by
  unfold lowercase
  generalize ([] : List Char) = before
  induction cs generalizing before with
  | nil => rfl
  | cons c cs ih =>
      rw [mem_lowercaseFrom_cons_iff hm, ih (c :: before), List.mem_cons]
      exact or_congr_left eq_comm

/-- A text whose lower case has only marks has only marks itself. -/
theorem isMark_of_lowercaseFrom {before : List Char}
    (h : ∀ d ∈ lowercaseFrom before cs, IsMark d) : ∀ c ∈ cs, IsMark c := by
  induction cs generalizing before with
  | nil =>
      intro c hc
      cases hc
  | cons c cs ih =>
      rw [lowercaseFrom] at h
      rcases List.forall_mem_append.1 h with ⟨hfirst, hrest⟩
      refine List.forall_mem_cons.2 ⟨?_, ih hrest⟩
      split at hfirst
      · split at hfirst
        · exact absurd (hfirst 'ς' List.mem_cons_self) (by decide)
        · exact absurd (hfirst 'σ' List.mem_cons_self) (by decide)
      · rcases List.exists_mem_of_ne_nil _ (lowerChar_ne_nil c) with ⟨d, hd⟩
        have hmark := hfirst d hd
        rw [(mem_lowerChar_iff hmark).1 hd]
        exact hmark

theorem lowercase_eq_iff (h : ∀ d ∈ ds, IsMark d) : lowercase cs = ds ↔ cs = ds := by
  have hsmall : ∀ {cs : List Char}, (∀ c ∈ cs, IsMark c) → lowercase cs = cs := fun hmarks =>
    lowercase_eq_self fun c hc => isSmall_of_isMark (hmarks c hc)
  constructor
  · rintro rfl
    exact (hsmall (isMark_of_lowercaseFrom h)).symm
  · rintro rfl
    exact hsmall h

end Text

open Text

/-! ## Names -/

theorem isPlainName_iff {name : String} :
    isPlainName name = true ↔ '/' ∉ name.toList ∧ '\\' ∉ name.toList ∧
      name.toList ≠ [] ∧ name.toList ≠ ['.'] ∧ name.toList ≠ ['.', '.'] := by
  have hdot : name.toList = ['.'] ↔ name = "." := @String.toList_inj name "."
  have hdots : name.toList = ['.', '.'] ↔ name = ".." := @String.toList_inj name ".."
  have hempty : name.toList = [] ↔ name = "" := @String.toList_inj name ""
  simp only [ne_eq, hdot, hdots, hempty, isPlainName, Bool.not_eq_true', Bool.or_eq_false_iff,
    List.contains_eq_mem, decide_eq_false_iff_not, beq_eq_false_iff_ne, String.isEmpty_eq_false_iff]
  tauto

/-- All spellings of a name are plain, or none is. -/
theorem isPlainName_congr {a b : String} (h : toLowercase a = toLowercase b) :
    isPlainName a = isPlainName b := by
  have hlower : lowercase a.toList = lowercase b.toList := by
    simpa [toLowercase] using congrArg String.toList h
  have hmem : ∀ {m : Char}, IsMark m → (m ∈ a.toList ↔ m ∈ b.toList) := by
    intro m hm
    rw [← mem_lowercase_iff hm, hlower, mem_lowercase_iff hm]
  have heq : ∀ {ds : List Char}, (∀ d ∈ ds, IsMark d) → (a.toList = ds ↔ b.toList = ds) := by
    intro ds hds
    rw [← lowercase_eq_iff hds, hlower, lowercase_eq_iff hds]
  have hslashes : ('/' ∈ a.toList ↔ '/' ∈ b.toList) ∧ ('\\' ∈ a.toList ↔ '\\' ∈ b.toList) :=
    ⟨hmem (by simp [IsMark]), hmem (by simp [IsMark])⟩
  have hdots : (a.toList = [] ↔ b.toList = []) ∧ (a.toList = ['.'] ↔ b.toList = ['.']) ∧
      (a.toList = ['.', '.'] ↔ b.toList = ['.', '.']) :=
    ⟨heq (by simp), heq (by simp [IsMark]), heq (by simp [IsMark])⟩
  rw [Bool.eq_iff_iff, isPlainName_iff, isPlainName_iff]
  simp only [ne_eq, hslashes, hdots]

end SchemaCrosswalk
