import SchemaCrosswalk.Proofs.Spelling.NormalForm

/-!
# Parameters — normalized spellings without their parameters

Without its parameters a normalized spelling is normal again, with one exception: where a parameter
group stands between a comma and a space, the space comes to stand behind the comma.

* `Spelling.Outside`: what stands outside the parameter groups, as a relation
* `Spelling.spaced_iff`: a space behind a comma is all that may keep such a text from being normal
* `Spelling.stripChars_cases`: what is left of a normalized spelling
* `Spelling.stripChars_stripChars`: once parameters are removed there are none left
* `Spelling.canonical_canonical_iff`: which canonical spellings are their own canonical forms
* `Spelling.mem_opening_of_narrows`: a spelling without parentheses is never too narrow
-/

namespace SchemaCrosswalk.Spelling

open Text

/-! ## What stands outside the groups -/

/-- The characters of a text that stand outside all of its parameter groups, if as many groups are
open where the text starts as are closed in it. -/
inductive Outside : Nat → List Char → List Char → Prop where
  | nil : Outside 0 [] []
  | opening {depth : Nat} {cs out : List Char} :
      Outside (depth + 1) cs out → Outside depth ('(' :: cs) out
  | closing {depth : Nat} {cs out : List Char} :
      Outside depth cs out → Outside (depth + 1) (')' :: cs) out
  | kept {c : Char} {cs out : List Char} :
      c ≠ '(' → c ≠ ')' → Outside 0 cs out → Outside 0 (c :: cs) (c :: out)
  | dropped {depth : Nat} {c : Char} {cs out : List Char} :
      c ≠ '(' → c ≠ ')' → Outside (depth + 1) cs out → Outside (depth + 1) (c :: cs) out

theorem outside_of_outsideGroups {depth : Nat} {cs out : List Char}
    (h : outsideGroups depth cs = some out) : Outside depth cs out := by
  induction cs generalizing depth out with
  | nil =>
      cases depth with
      | zero => cases h; exact .nil
      | succ depth => cases h
  | cons c cs ih =>
      rw [outsideGroups.eq_def] at h
      by_cases hopen : c = '('
      · subst hopen
        exact .opening (ih (by simpa using h))
      · by_cases hclose : c = ')'
        · subst hclose
          cases depth with
          | zero => simp at h
          | succ depth => exact .closing (ih (by simpa using h))
        · cases depth with
          | zero =>
              have hmap : (outsideGroups 0 cs).map (c :: ·) = some out := by
                simpa [hopen, hclose] using h
              obtain ⟨rest, hrest, rfl⟩ := Option.map_eq_some_iff.1 hmap
              exact .kept hopen hclose (ih hrest)
          | succ depth => exact .dropped hopen hclose (ih (by simpa [hopen, hclose] using h))

namespace Outside

variable {depth : Nat} {cs out : List Char}

theorem sublist (h : Outside depth cs out) : out.Sublist cs := by
  induction h with
  | nil => exact .slnil
  | opening _ ih => exact ih.cons _
  | closing _ ih => exact ih.cons _
  | kept _ _ _ ih => exact ih.cons_cons _
  | dropped _ _ _ ih => exact ih.cons _

theorem not_mem_opening (h : Outside depth cs out) : '(' ∉ out := by
  induction h with
  | nil => exact List.not_mem_nil
  | opening _ ih => exact ih
  | closing _ ih => exact ih
  | kept hopen _ _ ih => 
      intro hmem
      rcases List.mem_cons.1 hmem with heq | hrest
      · exact hopen heq.symm
      · exact ih hrest
  | dropped _ _ _ ih => exact ih

/-- What comes first outside all groups comes first in the text, unless a group does. -/
theorem head_eq {c : Char} (h : Outside 0 cs (c :: out)) :
    (∃ rest, cs = '(' :: rest) ∨ ∃ rest, cs = c :: rest := by
  cases h with
  | opening _ => exact Or.inl ⟨_, rfl⟩
  | kept _ _ _ => exact Or.inr ⟨_, rfl⟩

/-- Outside the groups of a normalized spelling spaces stand as in a normalized spelling, but for
those behind a comma that a group follows. -/
theorem rest {afterComma : Prop} (h : Outside depth cs out)
    (hcs : Rest (mayEnd False) mayBegin cs) (hcomma : [',', '('] <:+: cs → afterComma) :
    Rest (mayEnd afterComma) mayBegin out := by
  induction h with
  | nil => exact .nil
  | opening _ ih =>
      cases hcs with
      | words hwords => exact ih hwords.rest_tail fun hinfix => hcomma (List.infix_cons hinfix)
  | closing _ ih =>
      cases hcs with
      | words hwords => exact ih hwords.rest_tail fun hinfix => hcomma (List.infix_cons hinfix)
  | @kept c cs out hopen hclose hout ih =>
      have ih' := fun hrest => ih hrest fun hinfix => hcomma (List.infix_cons hinfix)
      cases hcs with
      | words hwords =>
          refine .words ((ih' hwords.rest_tail).cons hwords.isBlank_head fun hspace => ⟨hopen, ?_⟩)
          rintro rfl
          -- The space did not stand behind the comma, so a group stands between the two.
          obtain ⟨more, rfl⟩ := List.head?_eq_some_iff.1 hspace
          rcases hout.head_eq with ⟨inside, rfl⟩ | ⟨words, rfl⟩
          · exact hcomma ⟨[], inside, rfl⟩
          · cases hwords with
            | next _ hspace => exact absurd hspace.isBlank_head (by decide)
            | space _ hend _ _ => exact (hend.2 rfl).elim
      | @space d cs hbegin hwords =>
          -- The word behind the space begins with no separator, hence outside all groups.
          cases hout with
          | opening _ => exact absurd hbegin (by decide)
          | kept _ _ _ =>
              cases ih' (.words hwords) with
              | words hrest => exact .space hbegin hrest
              | space _ _ => exact absurd hwords.isBlank_head (by decide)
  | dropped _ _ _ ih =>
      have ih' := fun hrest => ih hrest fun hinfix => hcomma (List.infix_cons hinfix)
      cases hcs with
      | words hwords => exact ih' hwords.rest_tail
      | space _ hwords => exact ih' (.words hwords)

end Outside

/-! ## Spaces behind commas -/

/-- A space behind a comma is all that may keep words from being parted as in a normalized
spelling. -/
theorem parted_iff {afterComma : Prop} {cs : List Char} :
    Parted (mayEnd afterComma) mayBegin cs ↔
      Parted (mayEnd True) mayBegin cs ∧ ([',', ' '] <:+: cs → afterComma) := by
  constructor
  · intro h
    induction h with
    | @single c hc =>
        refine ⟨.single hc, fun hinfix => ?_⟩
        exact absurd hinfix.length_le (Nat.not_succ_le_self 1)
    | @next c cs hc hwords ih =>
        refine ⟨.next hc ih.1, fun hinfix => ?_⟩
        rcases List.infix_cons_iff.1 hinfix with hprefix | hrest
        · obtain ⟨more, heq⟩ := hprefix
          cases heq
          exact absurd hwords.isBlank_head (by decide)
        · exact ih.2 hrest
    | @space c d cs hc hend hbegin _ ih =>
        refine ⟨.space hc ⟨hend.1, fun _ => trivial⟩ hbegin ih.1, fun hinfix => ?_⟩
        rcases List.infix_cons_iff.1 hinfix with hprefix | hrest
        · obtain ⟨more, heq⟩ := hprefix
          cases heq
          exact hend.2 rfl
        · rcases List.infix_cons_iff.1 hrest with hprefix | hrest
          · obtain ⟨more, heq⟩ := hprefix
            cases heq
          · exact ih.2 hrest
  · rintro ⟨h, hcomma⟩
    induction h with
    | single hc => exact .single hc
    | next hc _ ih => exact .next hc (ih fun hinfix => hcomma (List.infix_cons hinfix))
    | @space c d cs hc hend hbegin _ ih =>
        refine .space hc ⟨hend.1, ?_⟩ hbegin
          (ih fun hinfix => hcomma (List.infix_cons (List.infix_cons hinfix)))
        rintro rfl
        exact hcomma ⟨[], d :: cs, rfl⟩

theorem spaced_iff {afterComma : Prop} {cs : List Char} :
    Spaced afterComma cs ↔ Spaced True cs ∧ ([',', ' '] <:+: cs → afterComma) := by
  unfold Spaced
  rw [parted_iff]
  constructor
  · rintro (rfl | ⟨hwords, hcomma⟩)
    · exact ⟨Or.inl rfl, fun hinfix => absurd hinfix.length_le (by decide)⟩
    · exact ⟨Or.inr hwords, hcomma⟩
  · rintro ⟨rfl | hwords, hcomma⟩
    · exact Or.inl rfl
    · exact Or.inr ⟨hwords, hcomma⟩

/-! ## Stripping -/

theorem spaced_collapse_of_rest {afterComma : Prop} {cs : List Char}
    (h : Rest (mayEnd afterComma) mayBegin cs) : Spaced afterComma (collapse cs) := by
  cases h with
  | nil => exact Or.inl rfl
  | words hwords =>
      rw [collapse_of_parted hwords]
      exact Or.inr hwords
  | @space d cs _ hwords =>
      have hcollapse : collapse (' ' :: d :: cs) = collapse (d :: cs) := by
        have hd := hwords.isBlank_head
        exact (collapseFrom_cons hd false true cs).trans (collapseFrom_cons hd false false cs).symm
      rw [hcollapse, collapse_of_parted hwords]
      exact Or.inr hwords

/-- A text without parameters, or with parentheses that are not balanced, stays as it is. -/
theorem stripChars_eq_self_or (cs : List Char) :
    stripChars cs = cs ∨ ∃ out, Outside 0 cs out ∧ stripChars cs = collapse out := by
  unfold stripChars
  split
  · cases hout : outsideGroups 0 cs with
    | none => exact Or.inl rfl
    | some out => exact Or.inr ⟨out, outside_of_outsideGroups hout, rfl⟩
  · exact Or.inl rfl

theorem not_mem_opening_collapse {cs : List Char} (h : '(' ∉ cs) : '(' ∉ collapse cs := by
  intro hmem
  rcases mem_of_mem_collapse hmem with hin | hspace
  · exact h hin
  · exact absurd hspace (by decide)

theorem stripChars_of_not_mem {cs : List Char} (h : '(' ∉ cs) : stripChars cs = cs := by
  unfold stripChars
  rw [if_neg (by simpa using h)]

/-- Once parameters are removed there are none left. -/
theorem stripChars_stripChars (cs : List Char) : stripChars (stripChars cs) = stripChars cs := by
  rcases stripChars_eq_self_or cs with hself | ⟨out, hout, hcollapse⟩
  · rw [hself, hself]
  · rw [hcollapse]
    exact stripChars_of_not_mem (not_mem_opening_collapse hout.not_mem_opening)

/-- A text of small characters without parameters, and without spaces next to separators but for
spaces behind commas if these are allowed. -/
structure IsBare (afterComma : Prop) (cs : List Char) : Prop where
  not_mem_opening : '(' ∉ cs
  spaced : Spaced afterComma cs
  small : ∀ c ∈ cs, IsSmall c

/-- A normalized spelling without its parameters is the spelling itself, or a text with spaces behind
those commas only that a parameter group followed. -/
theorem stripChars_cases {cs : List Char} (h : IsNormal cs) :
    stripChars cs = cs ∨ IsBare ([',', '('] <:+: cs) (stripChars cs) := by
  rcases stripChars_eq_self_or cs with hself | ⟨out, hout, hcollapse⟩
  · exact Or.inl hself
  · right
    rw [hcollapse]
    refine ⟨not_mem_opening_collapse hout.not_mem_opening, ?_, ?_⟩
    · apply spaced_collapse_of_rest
      rcases h.spaced with rfl | hwords
      · cases hout with
        | nil => exact .nil
      · exact hout.rest (.words hwords) id
    · intro c hc
      rcases mem_of_mem_collapse hc with hin | rfl
      · exact h.small c (hout.sublist.mem hin)
      · decide

/-! ## Canonical spellings -/

/-- A space stands behind a comma. -/
def HasSpaceAfterComma (s : String) : Prop := [',', ' '] <:+: s.toList

/-- A parameter group stands behind a comma. -/
def HasGroupAfterComma (s : String) : Prop := [',', '('] <:+: s.toList

instance (s : String) : Decidable (HasSpaceAfterComma s) :=
  inferInstanceAs (Decidable ([',', ' '] <:+: s.toList))

instance (s : String) : Decidable (HasGroupAfterComma s) :=
  inferInstanceAs (Decidable ([',', '('] <:+: s.toList))

theorem toList_strip (s : String) : (strip s).toList = stripChars s.toList := String.toList_ofList

theorem not_hasSpaceAfterComma_of_isNormal {s : String} (h : IsNormal s.toList) :
    ¬ HasSpaceAfterComma s :=
  (spaced_iff.1 h.spaced).2

/-- A spelling without parameters is normal unless a space stands behind a comma. -/
theorem IsBare.normalize_eq_self_iff {afterComma : Prop} {s : String}
    (h : IsBare afterComma s.toList) : normalize s = s ↔ ¬ HasSpaceAfterComma s := by
  rw [Spelling.normalize_eq_self_iff]
  constructor
  · exact not_hasSpaceAfterComma_of_isNormal
  · intro hcomma
    exact ⟨spaced_iff.2 ⟨(spaced_iff.1 h.spaced).1, hcomma⟩, h.small⟩

/-- Normalizing brings no parameters back. -/
theorem IsBare.strip_normalize {afterComma : Prop} {s : String} (h : IsBare afterComma s.toList) :
    strip (normalize s) = normalize s := by
  apply String.toList_inj.1
  rw [toList_strip, toList_normalize, normalizeChars_of_spaced h.spaced h.small]
  exact stripChars_of_not_mem fun hmem => h.not_mem_opening ((tightenFrom_sublist _ _).mem hmem)

theorem strip_canonical (raw : String) : strip (canonical raw true) = canonical raw true := by
  apply String.toList_inj.1
  show (strip (strip (normalize raw))).toList = (strip (normalize raw)).toList
  rw [toList_strip, toList_strip, stripChars_stripChars]

/-- The spelling that a type is looked up by is normal or, where parameters do not count, has
none. -/
theorem canonical_cases (raw : String) (stripParameters : Bool) :
    IsNormal (canonical raw stripParameters).toList ∨
      stripParameters = true ∧
        IsBare (HasGroupAfterComma (normalize raw)) (canonical raw stripParameters).toList := by
  cases stripParameters with
  | false => exact Or.inl (isNormal_normalize raw)
  | true =>
      show IsNormal (strip (normalize raw)).toList ∨ _ ∧ IsBare _ (strip (normalize raw)).toList
      rw [toList_strip]
      rcases stripChars_cases (isNormal_normalize raw) with hself | hbare
      · left
        rw [hself]
        exact isNormal_normalize raw
      · exact Or.inr ⟨rfl, hbare⟩

/-- A canonical spelling is its own canonical form unless a space stands behind a comma in it. -/
theorem canonical_canonical_iff (raw : String) (stripParameters : Bool) :
    canonical (canonical raw stripParameters) stripParameters = canonical raw stripParameters ↔
      ¬ HasSpaceAfterComma (canonical raw stripParameters) := by
  rcases canonical_cases raw stripParameters with hnormal | ⟨rfl, hbare⟩
  · have hself := normalize_eq_self_iff.2 hnormal
    refine iff_of_true ?_ (not_hasSpaceAfterComma_of_isNormal hnormal)
    cases stripParameters with
    | false => exact hself
    | true => exact (congrArg strip hself).trans (strip_canonical raw)
  · have hnormalized : canonical (canonical raw true) true = normalize (canonical raw true) :=
      hbare.strip_normalize
    rw [hnormalized, hbare.normalize_eq_self_iff]

/-- A space comes to stand behind a comma only where a parameter group is removed. -/
theorem not_hasSpaceAfterComma_canonical {raw : String} {stripParameters : Bool}
    (h : stripParameters = true → ¬ HasGroupAfterComma (normalize raw)) :
    ¬ HasSpaceAfterComma (canonical raw stripParameters) := by
  rcases canonical_cases raw stripParameters with hnormal | ⟨hstrips, hbare⟩
  · exact not_hasSpaceAfterComma_of_isNormal hnormal
  · exact fun hspace => h hstrips ((spaced_iff.1 hbare.spaced).2 hspace)

/-- The parentheses of a spelling are balanced. -/
def IsBalanced (s : String) : Prop := (outsideGroups 0 s.toList).isSome = true

instance (s : String) : Decidable (IsBalanced s) :=
  inferInstanceAs (Decidable ((outsideGroups 0 s.toList).isSome = true))

/-- Balanced parentheses are all removed. -/
theorem not_mem_opening_strip {s : String} (h : IsBalanced s) : '(' ∉ (strip s).toList := by
  obtain ⟨out, hout⟩ := Option.isSome_iff_exists.1 h
  rw [toList_strip]
  by_cases hopen : '(' ∈ s.toList
  · rw [stripChars, if_pos (List.contains_iff_mem.2 hopen), hout]
    exact not_mem_opening_collapse (outside_of_outsideGroups hout).not_mem_opening
  · rwa [stripChars_of_not_mem hopen]

/-- Normalizing a canonical spelling brings no parentheses in. -/
theorem mem_opening_of_normalize_canonical {raw : String} {stripParameters : Bool}
    (h : '(' ∈ (normalize (canonical raw stripParameters)).toList) :
    '(' ∈ (canonical raw stripParameters).toList := by
  rcases canonical_cases raw stripParameters with hnormal | ⟨-, hbare⟩
  · rwa [normalize_eq_self_iff.2 hnormal] at h
  · rw [toList_normalize, normalizeChars_of_spaced hbare.spaced hbare.small] at h
    exact (tightenFrom_sublist _ _).mem h

/-! ## Sizes -/

theorem mem_of_cutAt {mark : Char} {cs : List Char} {pieces : List Char × List Char}
    (h : cutAt mark cs = some pieces) : mark ∈ cs := by
  induction cs generalizing pieces with
  | nil => cases h
  | cons c cs ih =>
      unfold cutAt at h
      split at h
      · next heq => exact heq ▸ List.mem_cons_self
      · obtain ⟨rest, hrest, -⟩ := Option.map_eq_some_iff.1 h
        exact List.mem_cons_of_mem c (ih hrest)

/-- Sizes are declared in parentheses. -/
theorem mem_opening_of_sizes {s : String} {found : List Size} (h : sizes s = some found) :
    '(' ∈ (normalize s).toList := by
  obtain ⟨pieces, hcut, -⟩ := Option.bind_eq_some_iff.1 h
  rw [toList_normalize]
  exact mem_of_cutAt hcut

/-- Only a sink type with parentheses can be narrower. -/
theorem mem_opening_of_narrows {source sink : String} (h : narrows source sink = true) :
    '(' ∈ (normalize sink).toList := by
  unfold narrows at h
  cases hsource : sizes source with
  | none => simp [hsource] at h
  | some declared =>
      cases hsink : sizes sink with
      | none => simp [hsource, hsink] at h
      | some found => exact mem_opening_of_sizes hsink

end SchemaCrosswalk.Spelling
