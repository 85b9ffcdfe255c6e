import Mathlib.Data.List.DropRight
import SchemaCrosswalk.Text.Lowercase

/-!
# Names — matching up to case, and blanks around a text

* `namesMatch_iff`: two names match if they have the same lower case
* `isBlankText_toLowercase`: lower-casing neither makes nor removes blank texts
* `trim_trim`, `trim_eq_empty_iff`: trimming twice is trimming once, and leaves nothing of a blank
  text only
-/

namespace SchemaCrosswalk.Text

/-! ## Matching -/

theorem namesMatch_iff {a b : String} : namesMatch a b = true ↔ toLowercase a = toLowercase b := by
  unfold namesMatch
  rw [Bool.or_eq_true, beq_iff_eq, beq_iff_eq]
  constructor
  · rintro (rfl | h)
    · rfl
    · exact h
  · exact Or.inr

/-- A name matches the same names as any other spelling of it. -/
theorem namesMatch_congr {a b : String} (h : toLowercase a = toLowercase b) (c : String) :
    namesMatch c a = namesMatch c b := by
  rw [Bool.eq_iff_iff, namesMatch_iff, namesMatch_iff, h]

/-! ## Blank texts in lower case -/

/-- Two closed ranges have no number in common. -/
def apart (r s : Nat × Nat) : Bool := decide (r.2 < s.1 ∨ s.2 < r.1)

/-- Neither the characters that a run shifts nor those that it yields are blank. -/
def CaseRun.avoidsBlanks (run : CaseRun) : Bool :=
  blankRanges.all fun b =>
    apart (run.first, run.last) b &&
      apart ((run.first + run.shift).toNat, (run.last + run.shift).toNat) b

theorem caseRuns_avoidBlanks : ∀ run ∈ caseRuns, run.avoidsBlanks = true := by
  decide +kernel

theorem inRanges_eq_false_of_apart {n : Nat} {r : Nat × Nat} (hn : r.1 ≤ n ∧ n ≤ r.2)
    (h : ∀ b ∈ blankRanges, apart r b = true) : inRanges blankRanges n = false := by
  unfold inRanges
  rw [List.any_eq_false]
  intro b hb hin
  have hapart := of_decide_eq_true (h b hb)
  have hmem := of_decide_eq_true hin
  omega

/-- The character with a number, or the zero character if the number is that of none. -/
theorem toNat_ofNat_or_eq_zero (n : Nat) : (Char.ofNat n).toNat = n ∨ Char.ofNat n = '\x00' := by
  by_cases hn : n.isValidChar
  · left
    rw [Char.ofNat, dif_pos hn]
    rfl
  · right
    rw [Char.ofNat, dif_neg hn]
    rfl

theorem isBlank_ofNat {n : Nat} (h : inRanges blankRanges n = false) :
    isBlank (Char.ofNat n) = false := by
  rcases toNat_ofNat_or_eq_zero n with hval | hzero
  · rw [isBlank, hval, h]
  · rw [hzero]
    decide

/-- A character outside ASCII that has a run is not blank, and neither is its lower case. -/
theorem isBlank_of_covers {run : CaseRun} (hrun : run ∈ caseRuns) {c : Char}
    (h : run.covers c.toNat = true) :
    isBlank c = false ∧ isBlank (Char.ofNat (c.toNat + run.shift).toNat) = false := by
  have hcover := of_decide_eq_true h
  have havoid : ∀ b ∈ blankRanges, apart (run.first, run.last) b = true ∧
      apart ((run.first + run.shift).toNat, (run.last + run.shift).toNat) b = true := by
    have hall := caseRuns_avoidBlanks run hrun
    simpa only [CaseRun.avoidsBlanks, List.all_eq_true, Bool.and_eq_true] using hall
  constructor
  · exact inRanges_eq_false_of_apart ⟨hcover.1, hcover.2.1⟩ fun b hb => (havoid b hb).1
  · refine isBlank_ofNat (inRanges_eq_false_of_apart ?_ fun b hb => (havoid b hb).2)
    show (run.first + run.shift).toNat ≤ _ ∧ _ ≤ (run.last + run.shift).toNat
    omega

theorem isBlank_toLower_of_lt :
    ∀ n < 128, isBlank (Char.ofNat n).toLower = isBlank (Char.ofNat n) := by
  decide +kernel

theorem all_isBlank_lowerChar (c : Char) : (lowerChar c).all isBlank = isBlank c := by
  unfold lowerChar
  -- The cases are those of the definition: ASCII, the dotted capital, a run, and all others.
  split
  · next hascii =>
    have h := isBlank_toLower_of_lt c.toNat hascii
    rw [Char.ofNat_toNat] at h
    simpa using h
  · split
    · next hdotted =>
      subst hdotted
      decide +kernel
    · split
      · next run hfound =>
        have hcovers := List.find?_some hfound
        have hrun := isBlank_of_covers (List.mem_of_find?_eq_some hfound) hcovers
        simp [hrun.1, hrun.2]
      · simp

theorem all_isBlank_lowercaseFrom :
    ∀ before cs : List Char, (lowercaseFrom before cs).all isBlank = cs.all isBlank
  | _, [] => rfl
  | before, c :: cs => by
      rw [lowercaseFrom, List.all_append, all_isBlank_lowercaseFrom (c :: before) cs, List.all_cons]
      congr 1
      split
      · next hsigma =>
        -- Neither the capital sigma nor one of its two small forms is blank.
        subst hsigma
        split <;> decide +kernel
      · exact all_isBlank_lowerChar c

theorem isBlankText_toLowercase (s : String) : isBlankText (toLowercase s) = isBlankText s := by
  unfold isBlankText toLowercase lowercase
  rw [String.toList_ofList, all_isBlank_lowercaseFrom]

theorem isBlankText_congr {a b : String} (h : toLowercase a = toLowercase b) :
    isBlankText a = isBlankText b := by
  rw [← isBlankText_toLowercase a, h, isBlankText_toLowercase]

/-! ## Trimming -/

theorem dropTrailing_eq_rdropWhile (cs : List Char) : dropTrailing cs = cs.rdropWhile isBlank := rfl

/-- Dropping blanks at the end leaves a text that starts with another character as it starts. -/
theorem dropWhile_dropTrailing (cs : List Char) :
    (dropTrailing (cs.dropWhile isBlank)).dropWhile isBlank =
      dropTrailing (cs.dropWhile isBlank) := by
  rw [dropTrailing_eq_rdropWhile]
  -- What is left is a start of a text whose first character, if any, is not blank.
  cases hcs : (cs.dropWhile isBlank).rdropWhile isBlank with
  | nil => rfl
  | cons c rest =>
      have hfirst : (cs.dropWhile isBlank).head? = some c := by
        obtain ⟨tail, htail⟩ := List.rdropWhile_prefix isBlank (cs.dropWhile isBlank)
        rw [← htail, hcs]
        rfl
      have hc : isBlank c = false := by
        have h := List.head?_dropWhile_not isBlank cs
        rw [hfirst] at h
        simpa using h
      rw [List.dropWhile_cons_of_neg (by simp [hc])]

theorem trim_trim (s : String) : trim (trim s) = trim s := by
  unfold trim
  rw [String.toList_ofList, dropWhile_dropTrailing]
  simp only [dropTrailing_eq_rdropWhile, List.rdropWhile_idempotent]

theorem trim_eq_empty_iff {s : String} : trim s = "" ↔ isBlankText s = true := by
  unfold trim isBlankText
  rw [← String.toList_inj, String.toList_ofList, dropTrailing_eq_rdropWhile, List.all_eq_true]
  show List.rdropWhile _ _ = [] ↔ _
  rw [List.rdropWhile_eq_nil_iff]
  constructor
  · intro h c hc
    rw [← List.takeWhile_append_dropWhile (p := isBlank) (l := s.toList), List.mem_append] at hc
    rcases hc with hc | hc
    · exact List.mem_takeWhile_imp hc
    · exact h c hc
  · intro h c hc
    exact h c ((List.dropWhile_sublist isBlank).mem hc)

theorem isEmpty_trim (s : String) : (trim s).isEmpty = isBlankText s := by
  rw [Bool.eq_iff_iff, String.isEmpty_iff, trim_eq_empty_iff]

theorem isBlankText_trim (s : String) : isBlankText (trim s) = isBlankText s := by
  rw [Bool.eq_iff_iff, ← trim_eq_empty_iff, trim_trim, trim_eq_empty_iff]

end SchemaCrosswalk.Text
