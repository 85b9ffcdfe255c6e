import SchemaCrosswalk.Proofs.Spelling.NormalForm

/-!
# Boundaries — lower-casing word by word

Only a capital sigma is lower-cased differently in different places, and it looks no further than to
the next boundary of its word. Blanks, parentheses and commas are boundaries, so what stands before
one of them and what stands behind it are lower-cased apart, and it does not matter whether blanks
are collapsed before or afterwards.

* `IsBoundary`: characters that no sigma looks beyond, and that are their own lower case
* `lowercase_append_cons`, `lowercase_append_of_boundaries`: texts are lower-cased apart
* `lowercase_collapse`: lower-casing and collapsing can be exchanged
-/

namespace SchemaCrosswalk.Text

/-! ## Boundaries -/

/-- A boundary of words: it has no case, it is not passed over, and it is its own lower case. -/
structure IsBoundary (c : Char) : Prop where
  small : IsSmall c
  uncased : isCased c = false
  stops : isCaseIgnorable c = false

theorem blankRanges_apart : ∀ r ∈ casedRanges ++ caseIgnorableRanges, ∀ b ∈ blankRanges,
    apart r b = true := by
  decide +kernel

theorem isBlank_eq_false_of_inRanges {ranges : List (Nat × Nat)} {c : Char}
    (hranges : ∀ r ∈ ranges, r ∈ casedRanges ++ caseIgnorableRanges)
    (h : inRanges ranges c.toNat = true) : isBlank c = false := by
  obtain ⟨r, hr, hin⟩ := List.any_eq_true.1 h
  exact inRanges_eq_false_of_apart (of_decide_eq_true hin) (blankRanges_apart r (hranges r hr))

theorem isSmall_of_isBlank_of_lt :
    ∀ n < 128, isBlank (Char.ofNat n) = true → IsSmall (Char.ofNat n) := by
  decide +kernel

theorem isSmall_of_isBlank {c : Char} (h : isBlank c = true) : IsSmall c := by
  by_cases hascii : c.toNat < 128
  · have hsmall := isSmall_of_isBlank_of_lt c.toNat hascii
    rw [Char.ofNat_toNat] at hsmall
    exact hsmall h
  · have hne : ∀ d : Char, isBlank d = false → c ≠ d := by
      rintro d hd rfl
      rw [h] at hd
      cases hd
    refine ⟨hne 'Σ' (by decide), ?_⟩
    -- Runs shift no blanks.
    have hfind : caseRuns.find? (·.covers c.toNat) = none := by
      apply List.find?_eq_none.2
      intro run hrun hcovers
      have hblank := (isBlank_of_covers hrun hcovers).1
      rw [h] at hblank
      cases hblank
    rw [lowerChar, if_neg hascii, if_neg (hne _ (by decide)), hfind]

theorem isBoundary_of_isBlank {c : Char} (h : isBlank c = true) : IsBoundary c where
  small := isSmall_of_isBlank h
  uncased := by
    by_contra hcased
    rw [Bool.not_eq_false] at hcased
    have hblank := isBlank_eq_false_of_inRanges (fun r => List.mem_append_left _) hcased
    rw [h] at hblank
    cases hblank
  stops := by
    by_contra hignorable
    rw [Bool.not_eq_false] at hignorable
    have hblank := isBlank_eq_false_of_inRanges (fun r => List.mem_append_right _) hignorable
    rw [h] at hblank
    cases hblank

/-- Parentheses and commas are boundaries. -/
theorem isBoundary_of_joinsPrevious {c : Char} (h : Spelling.joinsPrevious c = true) :
    IsBoundary c := by
  have hcases : c = '(' ∨ c = ')' ∨ c = ',' := by
    simpa [Spelling.joinsPrevious, or_assoc] using h
  rcases hcases with rfl | rfl | rfl
  · exact ⟨by decide +kernel, by decide +kernel, by decide +kernel⟩
  · exact ⟨by decide +kernel, by decide +kernel, by decide +kernel⟩
  · exact ⟨by decide +kernel, by decide +kernel, by decide +kernel⟩

/-! ## What a sigma looks at -/

variable {c : Char} {cs ds before before' after after' : List Char}

theorem meetsCased_cons (c : Char) (cs : List Char) :
    meetsCased (c :: cs) = if isCaseIgnorable c then meetsCased cs else isCased c := by
  unfold meetsCased
  rw [List.dropWhile_cons]
  split <;> rfl

theorem meetsCased_cons_of_boundary (h : IsBoundary c) (cs : List Char) :
    meetsCased (c :: cs) = false := by
  rw [meetsCased_cons, h.stops, h.uncased]
  rfl

theorem meetsCased_append_cons (h : IsBoundary c) (cs ds : List Char) :
    meetsCased (cs ++ c :: ds) = meetsCased cs := by
  induction cs with
  | nil => exact meetsCased_cons_of_boundary h ds
  | cons d cs ih => rw [List.cons_append, meetsCased_cons, meetsCased_cons, ih]

/-- What a character becomes between what stands before it, in reverse, and what stands behind. -/
def lowerAt (before : List Char) (c : Char) (after : List Char) : List Char :=
  if c = 'Σ' then [if meetsCased before && !meetsCased after then 'ς' else 'σ'] else lowerChar c

theorem lowercaseFrom_cons (before : List Char) (c : Char) (cs : List Char) :
    lowercaseFrom before (c :: cs) = lowerAt before c cs ++ lowercaseFrom (c :: before) cs :=
  rfl

theorem lowerAt_congr (hbefore : meetsCased before = meetsCased before')
    (hafter : meetsCased after = meetsCased after') :
    lowerAt before c after = lowerAt before' c after' := by
  unfold lowerAt
  rw [hbefore, hafter]

theorem lowerAt_of_boundary (h : IsBoundary c) (before after : List Char) :
    lowerAt before c after = [c] := by
  unfold lowerAt
  rw [if_neg h.small.1, h.small.2]

theorem lowerAt_ne_nil (before : List Char) (c : Char) (after : List Char) :
    lowerAt before c after ≠ [] := by
  unfold lowerAt
  split
  · exact List.cons_ne_nil _ _
  · exact lowerChar_ne_nil c

theorem isBlank_of_mem_lowerAt (hc : isBlank c = false) {d : Char}
    (h : d ∈ lowerAt before c after) : isBlank d = false := by
  unfold lowerAt at h
  split at h
  · rw [List.mem_singleton.1 h]
    split <;> decide
  · rw [isBlank_of_mem_lowerChar h, hc]

theorem meetsCased_cons_congr (c : Char) (h : meetsCased before = meetsCased before') :
    meetsCased (c :: before) = meetsCased (c :: before') := by
  rw [meetsCased_cons, meetsCased_cons, h]

/-- Of what stands before a text, lower-casing it depends on nothing else than what a sigma looks
for. -/
theorem lowercaseFrom_congr (h : meetsCased before = meetsCased before') (cs : List Char) :
    lowercaseFrom before cs = lowercaseFrom before' cs := by
  induction cs generalizing before before' with
  | nil => rfl
  | cons c cs ih =>
      rw [lowercaseFrom_cons, lowercaseFrom_cons, lowerAt_congr h rfl,
        ih (meetsCased_cons_congr c h)]

/-! ## Texts with boundaries in them -/

theorem lowercaseFrom_append_cons (h : IsBoundary c) (before cs ds : List Char) :
    lowercaseFrom before (cs ++ c :: ds) = lowercaseFrom before cs ++ c :: lowercase ds := by
  induction cs generalizing before with
  | nil =>
      have hrest : lowercaseFrom (c :: before) ds = lowercase ds :=
        lowercaseFrom_congr (meetsCased_cons_of_boundary h before) ds
      rw [List.nil_append, lowercaseFrom_cons, lowerAt_of_boundary h, hrest]
      rfl
  | cons d cs ih =>
      have hfirst : lowerAt before d (cs ++ c :: ds) = lowerAt before d cs :=
        lowerAt_congr rfl (meetsCased_append_cons h cs ds)
      rw [List.cons_append, lowercaseFrom_cons, hfirst, ih, lowercaseFrom_cons,
        List.append_assoc]

/-- What stands on the two sides of a boundary is lower-cased apart. -/
theorem lowercase_append_cons (h : IsBoundary c) (cs ds : List Char) :
    lowercase (cs ++ c :: ds) = lowercase cs ++ c :: lowercase ds :=
  lowercaseFrom_append_cons h [] cs ds

theorem lowercase_cons_of_boundary (h : IsBoundary c) (ds : List Char) :
    lowercase (c :: ds) = c :: lowercase ds :=
  lowercase_append_cons h [] ds

theorem lowercase_boundaries_append {marks : List Char} (h : ∀ c ∈ marks, IsBoundary c)
    (ds : List Char) : lowercase (marks ++ ds) = marks ++ lowercase ds := by
  induction marks with
  | nil => rfl
  | cons c marks ih =>
      obtain ⟨hc, hmarks⟩ := List.forall_mem_cons.1 h
      rw [List.cons_append, lowercase_cons_of_boundary hc, ih hmarks, List.cons_append]

theorem lowercase_append_boundaries {marks : List Char} (h : ∀ c ∈ marks, IsBoundary c)
    (cs : List Char) : lowercase (cs ++ marks) = lowercase cs ++ marks := by
  cases marks with
  | nil => rw [List.append_nil, List.append_nil]
  | cons c marks =>
      obtain ⟨hc, hmarks⟩ := List.forall_mem_cons.1 h
      rw [lowercase_append_cons hc, lowercase_eq_self fun d hd => (hmarks d hd).small]

/-- What stands on the two sides of one or more boundaries is lower-cased apart. -/
theorem lowercase_append_of_boundaries {marks : List Char} (hne : marks ≠ [])
    (h : ∀ c ∈ marks, IsBoundary c) (cs ds : List Char) :
    lowercase (cs ++ (marks ++ ds)) = lowercase cs ++ (marks ++ lowercase ds) := by
  obtain ⟨c, marks, rfl⟩ := List.exists_cons_of_ne_nil hne
  obtain ⟨hc, hmarks⟩ := List.forall_mem_cons.1 h
  rw [List.cons_append, lowercase_append_cons hc, lowercase_boundaries_append hmarks,
    List.cons_append]

/-! ## Collapsing -/

/-- What stands between two words: a space if blanks have been passed since the one before. -/
def gap (started passed : Bool) : List Char := if started && passed then [' '] else []

theorem collapseFrom_cons_gap (hc : isBlank c = false) (started passed : Bool) (cs : List Char) :
    collapseFrom started passed (c :: cs) = gap started passed ++ c :: collapseFrom true false cs := by
  rw [collapseFrom_cons hc, gap]
  split <;> rfl

theorem lowercaseFrom_gap (before : List Char) (started passed : Bool) (cs : List Char) :
    lowercaseFrom before (gap started passed ++ cs) =
      gap started passed ++ lowercaseFrom (gap started passed ++ before) cs := by
  unfold gap
  split
  · exact lowercaseFrom_space before cs
  · rfl

theorem collapseFrom_append_of_word {word : List Char} (hne : word ≠ [])
    (h : ∀ c ∈ word, isBlank c = false) (started passed : Bool) (cs : List Char) :
    collapseFrom started passed (word ++ cs) =
      gap started passed ++ (word ++ collapseFrom true false cs) := by
  induction word generalizing started passed with
  | nil => exact absurd rfl hne
  | cons c word ih =>
      obtain ⟨hc, hword⟩ := List.forall_mem_cons.1 h
      rw [List.cons_append, collapseFrom_cons_gap hc]
      cases word with
      | nil => rfl
      | cons d word => rw [ih (List.cons_ne_nil d word) hword]; rfl

/-- Whether a cased character comes next is the same once blanks are collapsed. -/
theorem meetsCased_collapseFrom (cs : List Char) :
    meetsCased (collapseFrom true true cs) = false ∧
      meetsCased (collapseFrom true false cs) = meetsCased cs := by
  induction cs with
  | nil => exact ⟨rfl, rfl⟩
  | cons c cs ih =>
      cases hc : isBlank c with
      | true =>
          rw [collapseFrom, collapseFrom, if_pos hc, if_pos hc,
            meetsCased_cons_of_boundary (isBoundary_of_isBlank hc)]
          exact ⟨ih.1, ih.1⟩
      | false =>
          rw [collapseFrom_cons_gap hc, collapseFrom_cons_gap hc]
          constructor
          · exact meetsCased_cons_of_boundary (isBoundary_of_isBlank rfl) _
          · show meetsCased (c :: collapseFrom true false cs) = meetsCased (c :: cs)
            exact meetsCased_cons_congr c ih.2

theorem lowercaseFrom_collapseFrom {started passed : Bool}
    (hgap : meetsCased (gap started passed ++ before) = meetsCased before')
    (hstart : started = false → meetsCased before = false) (cs : List Char) :
    lowercaseFrom before (collapseFrom started passed cs) =
      collapseFrom started passed (lowercaseFrom before' cs) := by
  -- A sigma looks for the same on both sides, as a blank stops it like a space or the start does.
  induction cs generalizing started passed before before' with
  | nil => rfl
  | cons c cs ih =>
      cases hc : isBlank c with
      | true =>
          have hboundary := isBoundary_of_isBlank hc
          rw [collapseFrom, if_pos hc, lowercaseFrom_cons, lowerAt_of_boundary hboundary,
            List.singleton_append, collapseFrom, if_pos hc]
          refine ih ?_ hstart
          rw [meetsCased_cons_of_boundary hboundary]
          cases started with
          | true => exact meetsCased_cons_of_boundary (isBoundary_of_isBlank rfl) before
          | false => exact hstart rfl
      | false =>
          have hfirst : lowerAt (gap started passed ++ before) c (collapseFrom true false cs) =
              lowerAt before' c cs := lowerAt_congr hgap (meetsCased_collapseFrom cs).2
          have hword : ∀ d ∈ lowerAt before' c cs, isBlank d = false :=
            fun _ => isBlank_of_mem_lowerAt hc
          have hrest : lowercaseFrom (c :: (gap started passed ++ before)) (collapseFrom true false cs) =
              collapseFrom true false (lowercaseFrom (c :: before') cs) :=
            ih (meetsCased_cons_congr c hgap) (fun hstarted => absurd hstarted (by decide))
          rw [collapseFrom_cons_gap hc, lowercaseFrom_gap, lowercaseFrom_cons, hfirst, hrest,
            lowercaseFrom_cons, collapseFrom_append_of_word (lowerAt_ne_nil _ _ _) hword]

/-- It does not matter whether blanks are collapsed before or after lower-casing. -/
theorem lowercase_collapse (cs : List Char) : lowercase (collapse cs) = collapse (lowercase cs) :=
  lowercaseFrom_collapseFrom rfl (fun _ => rfl) cs

end SchemaCrosswalk.Text
