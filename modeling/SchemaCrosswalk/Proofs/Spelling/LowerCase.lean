import SchemaCrosswalk.Proofs.Names

/-!
# Lower case — what lower-casing leaves behind

A character that lower-casing has left behind is its own lower case, so that lower-casing a text
twice is lower-casing it once. Blanks stay what they are, and nothing else becomes blank.

* `IsSmall`: a character that is its own lower case, wherever it stands
* `isSmall_of_mem_lowercase`: lower-casing leaves no other characters behind
* `lowercase_eq_self`: a text of such characters stays as it is
* `exists_lowercaseFrom_cons`: what becomes of one character that is not blank
-/

namespace SchemaCrosswalk.Text

/-- A character that is its own lower case, wherever it stands. -/
def IsSmall (c : Char) : Prop := c ≠ 'Σ' ∧ lowerChar c = [c]

instance (c : Char) : Decidable (IsSmall c) := inferInstanceAs (Decidable (_ ∧ _))

/-! ## Texts of small characters -/

theorem lowercaseFrom_eq_self {cs : List Char} (h : ∀ c ∈ cs, IsSmall c) (before : List Char) :
    lowercaseFrom before cs = cs := by
  induction cs generalizing before with
  | nil => rfl
  | cons c cs ih =>
      obtain ⟨hsmall, hrest⟩ := List.forall_mem_cons.1 h
      calc lowercaseFrom before (c :: cs)
          = lowerChar c ++ lowercaseFrom (c :: before) cs := by
            rw [lowercaseFrom, if_neg hsmall.1]
        _ = [c] ++ cs := by rw [hsmall.2, ih hrest (c :: before)]
        _ = c :: cs := rfl

theorem lowercase_eq_self {cs : List Char} (h : ∀ c ∈ cs, IsSmall c) : lowercase cs = cs :=
  lowercaseFrom_eq_self h []

/-! ## What a run of capital letters leads to -/

/-- The run shifts no character from `low` to `high`. Where every second one is meant, it may shift
those in between. -/
def CaseRun.spares (run : CaseRun) (low high : Nat) (everySecond : Bool) : Bool :=
  Nat.blt high run.first || Nat.blt run.last low ||
    everySecond && run.step == 2 && low % 2 != run.first % 2

/-- A run leads to small characters only: they come after the capital letters of ASCII, they are
neither the dotted capital I nor the capital sigma, and no run shifts them. -/
def CaseRun.settles (run : CaseRun) : Bool :=
  let low := (run.first + run.shift).toNat
  let high := (run.last + run.shift).toNat
  let everySecond := run.step == 2 || run.first == run.last
  Nat.blt 90 low && (Nat.blt high 304 || Nat.blt 304 low) && (Nat.blt high 931 || Nat.blt 931 low) &&
    caseRuns.all fun other => other.spares low high everySecond

theorem caseRuns_settle : ∀ run ∈ caseRuns, run.settles = true := by
  decide +kernel

/-- What holds of the number that a character of a run is shifted to. -/
structure IsSettled (n : Nat) : Prop where
  after_capitals : 90 < n
  ne_dotted : n ≠ 304
  ne_sigma : n ≠ 931
  not_covered : ∀ run ∈ caseRuns, run.covers n = false

theorem isSettled_of_covers {run : CaseRun} (hrun : run ∈ caseRuns) {n : Nat}
    (h : run.covers n = true) : IsSettled (n + run.shift).toNat := by
  have hcover := of_decide_eq_true h
  have hsettles := caseRuns_settle run hrun
  simp only [CaseRun.settles, Bool.and_eq_true, Bool.or_eq_true, Nat.blt_eq,
    List.all_eq_true] at hsettles
  obtain ⟨⟨⟨hafter, hdotted⟩, hsigma⟩, hspares⟩ := hsettles
  refine ⟨by omega, by omega, by omega, ?_⟩
  intro other hother
  -- The other run lies apart from what this one leads to, or shifts the characters in between.
  have hspare := hspares other hother
  simp only [CaseRun.spares, Bool.or_eq_true, Bool.and_eq_true, Nat.blt_eq, beq_iff_eq,
    bne_iff_ne] at hspare
  apply decide_eq_false
  intro hother
  rcases hspare with (happart | happart) | ⟨⟨hsecond, hstep⟩, hparity⟩
  · omega
  · omega
  · have heven : (n - run.first) % 2 = 0 := by
      rcases hsecond with htwo | hone
      · rw [htwo] at hcover
        exact hcover.2.2
      · omega
    rw [hstep] at hother
    omega

theorem toLower_eq_self_of_lt :
    ∀ n < 128, 90 < n → (Char.ofNat n).toLower = Char.ofNat n := by
  decide +kernel

theorem isSmall_of_isSettled {c : Char} (h : IsSettled c.toNat) : IsSmall c := by
  constructor
  · intro hsigma
    exact h.ne_sigma (congrArg Char.toNat hsigma)
  · by_cases hascii : c.toNat < 128
    · have hlower := toLower_eq_self_of_lt c.toNat hascii h.after_capitals
      rw [Char.ofNat_toNat] at hlower
      rw [lowerChar, if_pos hascii, hlower]
    · have hdotted : c ≠ '\u0130' := fun heq => h.ne_dotted (congrArg Char.toNat heq)
      have hfind : caseRuns.find? (·.covers c.toNat) = none := by
        apply List.find?_eq_none.2
        intro run hrun
        simp [h.not_covered run hrun]
      rw [lowerChar, if_neg hascii, if_neg hdotted, hfind]

theorem isSmall_ofNat {n : Nat} (h : IsSettled n) : IsSmall (Char.ofNat n) := by
  rcases toNat_ofNat_or_eq_zero n with hval | hzero
  · apply isSmall_of_isSettled
    rw [hval]
    exact h
  · rw [hzero]
    decide +kernel

/-! ## Lower-casing twice -/

theorem isSmall_toLower_of_lt : ∀ n < 128, IsSmall (Char.ofNat n).toLower := by
  decide +kernel

theorem isSmall_of_mem_lowerChar {c d : Char} (h : d ∈ lowerChar c) : IsSmall d := by
  unfold lowerChar at h
  -- The cases are those of the definition: ASCII, the dotted capital, a run, and all others.
  split at h
  · next hascii =>
    have hsmall := isSmall_toLower_of_lt c.toNat hascii
    rw [Char.ofNat_toNat] at hsmall
    exact List.mem_singleton.1 h ▸ hsmall
  · next hascii =>
    split at h
    · rcases List.mem_pair.1 h with rfl | rfl
      · decide +kernel
      · decide +kernel
    · next hdotted =>
      split at h
      · next run hfound =>
        have hcovers := List.find?_some hfound
        have hsettled := isSettled_of_covers (List.mem_of_find?_eq_some hfound) hcovers
        exact List.mem_singleton.1 h ▸ isSmall_ofNat hsettled
      · next hnone =>
        obtain rfl := List.mem_singleton.1 h
        refine ⟨?_, ?_⟩
        · -- There is a run for the capital sigma.
          rintro rfl
          revert hnone
          decide +kernel
        · rw [lowerChar, if_neg hascii, if_neg hdotted, hnone]

theorem isSmall_of_mem_lowercaseFrom {cs : List Char} (before : List Char) {d : Char}
    (h : d ∈ lowercaseFrom before cs) : IsSmall d := by
  induction cs generalizing before with
  | nil => cases h
  | cons c cs ih =>
      rcases List.mem_append.1 h with hfirst | hrest
      · split at hfirst
        · -- A capital sigma becomes one of its two small forms.
          have hforms : d = 'ς' ∨ d = 'σ' := by
            have heq := List.mem_singleton.1 hfirst
            split at heq
            · exact Or.inl heq
            · exact Or.inr heq
          rcases hforms with rfl | rfl
          · decide +kernel
          · decide +kernel
        · exact isSmall_of_mem_lowerChar hfirst
      · exact ih (c :: before) hrest

theorem isSmall_of_mem_lowercase {cs : List Char} {d : Char} (h : d ∈ lowercase cs) : IsSmall d :=
  isSmall_of_mem_lowercaseFrom [] h

theorem lowercase_lowercase (cs : List Char) : lowercase (lowercase cs) = lowercase cs :=
  lowercase_eq_self fun _ => isSmall_of_mem_lowercase

/-! ## Blanks in lower case -/

theorem isBlank_of_mem_lowerChar {c d : Char} (h : d ∈ lowerChar c) : isBlank d = isBlank c := by
  by_cases hdotted : c = '\u0130'
  · subst hdotted
    rcases List.mem_pair.1 h with rfl | rfl
    · decide +kernel
    · decide +kernel
  · -- All other characters have a single one for their lower case.
    have hsingle : ∃ e, lowerChar c = [e] := by
      unfold lowerChar
      rw [if_neg hdotted]
      split
      · exact ⟨_, rfl⟩
      · split
        · exact ⟨_, rfl⟩
        · exact ⟨_, rfl⟩
    obtain ⟨e, hlower⟩ := hsingle
    have hall := all_isBlank_lowerChar c
    rw [hlower] at h hall
    rw [List.mem_singleton.1 h]
    simpa using hall

theorem lowerChar_ne_nil (c : Char) : lowerChar c ≠ [] := by
  unfold lowerChar
  split
  · exact List.cons_ne_nil _ _
  · split
    · exact List.cons_ne_nil _ _
    · split
      · exact List.cons_ne_nil _ _
      · exact List.cons_ne_nil _ _

/-- A character that is not blank becomes one or more such characters. -/
theorem exists_lowercaseFrom_cons {c : Char} (h : isBlank c = false) (before cs : List Char) :
    ∃ d ds, (∀ e ∈ d :: ds, isBlank e = false) ∧
      lowercaseFrom before (c :: cs) = d :: (ds ++ lowercaseFrom (c :: before) cs) := by
  by_cases hsigma : c = 'Σ'
  · refine ⟨_, [], ?_, by rw [lowercaseFrom, if_pos hsigma]; rfl⟩
    intro e he
    rw [List.mem_singleton.1 he]
    split
    · decide +kernel
    · decide +kernel
  · obtain ⟨d, ds, hlower⟩ := List.exists_cons_of_ne_nil (lowerChar_ne_nil c)
    refine ⟨d, ds, ?_, by rw [lowercaseFrom, if_neg hsigma, hlower]; rfl⟩
    intro e he
    rw [← hlower] at he
    rw [isBlank_of_mem_lowerChar he, h]

theorem lowercaseFrom_space (before cs : List Char) :
    lowercaseFrom before (' ' :: cs) = ' ' :: lowercaseFrom (' ' :: before) cs :=
  rfl

end SchemaCrosswalk.Text
