import Mathlib.Data.List.Infix
import SchemaCrosswalk.Proofs.Spelling.Parameters

/-!
# Groups — which characters stand outside all parameter groups

Parentheses are paired if no prefix of a text closes more of them than it opens and the text closes
all of them. Then its parameter groups, which may be nested, can be told apart from what stands
outside them, and this is what is left without the parameters. A text whose parentheses are not
paired stays as it is.

* `Spelling.Paired`, `Spelling.outer`: paired parentheses and what stands outside all of them, by
  counting
* `Spelling.Grouped`: the same by the grammar of nested groups
* `Spelling.outsideGroups_append`: how far the scan has come behind a prefix
* `Text.collapse_eq_intercalate`: collapsing leaves the words, parted by single spaces
* `Spelling.stripsGroups`: what is left of a text without its parameters
-/

namespace SchemaCrosswalk

namespace Text

/-! ## Words -/

/-- The words of a text, which blanks stand around. -/
def words (cs : List Char) : List (List Char) :=
  (cs.splitOnP isBlank).filter fun word => !word.isEmpty

variable {c : Char} {cs : List Char}

theorem words_cons_of_isBlank (hc : isBlank c = true) (cs : List Char) :
    words (c :: cs) = words cs := by
  rw [words, List.splitOnP_cons_eq_if_modifyHead, if_pos hc]
  rfl

theorem splitOnP_cons_of_not_isBlank {word : List Char} {others : List (List Char)}
    (hc : isBlank c = false) (hsplit : cs.splitOnP isBlank = word :: others) :
    (c :: cs).splitOnP isBlank = (c :: word) :: others := by
  rw [List.splitOnP_cons_eq_if_modifyHead, if_neg (by simp [hc]), hsplit, List.modifyHead_cons]

theorem words_cons {word : List Char} {others : List (List Char)} (hc : isBlank c = false)
    (hsplit : cs.splitOnP isBlank = word :: others) :
    words (c :: cs) = (c :: word) :: others.filter (fun word => !word.isEmpty) := by
  rw [words, splitOnP_cons_of_not_isBlank hc hsplit]
  rfl

theorem intercalate_space (word : List Char) (others : List (List Char)) :
    List.intercalate [' '] (word :: others) = word ++ others.flatMap (' ' :: ·) := by
  induction others generalizing word with
  | nil => simp
  | cons other others ih => rw [List.intercalate_cons_cons, ih]; simp

theorem collapseFrom_started (cs : List Char) :
    collapseFrom true true cs = (words cs).flatMap (' ' :: ·) ∧
      ∀ word others, cs.splitOnP isBlank = word :: others →
        collapseFrom true false cs =
          word ++ (others.filter (fun word => !word.isEmpty)).flatMap (' ' :: ·) := by
  -- The first piece of the rest still belongs to the last word, unless a blank has been passed.
  induction cs with
  | nil =>
      refine ⟨rfl, ?_⟩
      intro word others hsplit
      cases hsplit
      rfl
  | cons c cs ih =>
      cases hc : isBlank c with
      | true =>
          rw [collapseFrom, collapseFrom, if_pos hc, if_pos hc, words_cons_of_isBlank hc]
          refine ⟨ih.1, ?_⟩
          intro word others hsplit
          rw [List.splitOnP_cons_eq_if_modifyHead, if_pos hc] at hsplit
          cases hsplit
          exact ih.1
      | false =>
          obtain ⟨word, others, hsplit⟩ :=
            List.exists_cons_of_ne_nil (List.splitOnP_ne_nil isBlank cs)
          have hrest := ih.2 word others hsplit
          rw [collapseFrom_cons hc, collapseFrom_cons hc, hrest, words_cons hc hsplit,
            splitOnP_cons_of_not_isBlank hc hsplit]
          refine ⟨by simp, ?_⟩
          intro word' others' heq
          cases heq
          simp

/-- Collapsing leaves the words of a text, parted by single spaces. -/
theorem collapse_eq_intercalate (cs : List Char) :
    collapse cs = List.intercalate [' '] (words cs) := by
  induction cs with
  | nil => rfl
  | cons c cs ih =>
      cases hc : isBlank c with
      | true => rw [collapse_cons_of_isBlank hc, words_cons_of_isBlank hc, ih]
      | false =>
          obtain ⟨word, others, hsplit⟩ :=
            List.exists_cons_of_ne_nil (List.splitOnP_ne_nil isBlank cs)
          rw [collapse, collapseFrom_cons hc, (collapseFrom_started cs).2 word others hsplit,
            words_cons hc hsplit, intercalate_space]
          rfl

end Text

namespace Spelling

open Text

/-! ## Paired parentheses -/

/-- A text closes only groups that are open, `depth` groups being open where it starts. -/
def ClosesOpen (depth : Nat) (cs : List Char) : Prop :=
  ∀ before, before <+: cs → before.count ')' ≤ depth + before.count '('

/-- The parentheses of a text are paired: no prefix closes more of them than it opens, and all of
them are closed. -/
structure Paired (cs : List Char) : Prop where
  prefixes : ∀ before, before <+: cs → before.count ')' ≤ before.count '('
  total : cs.count '(' = cs.count ')'

/-- A character outside all groups, `depth` groups being open at the start of what stands before it:
it is not a parenthesis, and as many groups are closed before it as there were open. -/
def IsOuter (depth : Nat) (before : List Char) (c : Char) : Prop :=
  c ≠ '(' ∧ c ≠ ')' ∧ depth + before.count '(' = before.count ')'

instance (depth : Nat) (before : List Char) (c : Char) : Decidable (IsOuter depth before c) :=
  inferInstanceAs (Decidable (_ ∧ _))

/-- The characters outside all groups, `depth` groups being open at the start. -/
def outerFrom (depth : Nat) (cs : List Char) : List Char :=
  ((cs.inits.zip cs).filter fun p => IsOuter depth p.1 p.2).map Prod.snd

/-- The characters outside all groups. -/
def outer (cs : List Char) : List Char := outerFrom 0 cs

/-- A text of groups and other characters, and what stands outside the groups. A group is such a
text between parentheses. -/
inductive Grouped : List Char → List Char → Prop where
  | nil : Grouped [] []
  | plain {c : Char} {cs out : List Char} :
      c ≠ '(' → c ≠ ')' → Grouped cs out → Grouped (c :: cs) (c :: out)
  | group {inside within cs out : List Char} :
      Grouped inside within → Grouped cs out → Grouped ('(' :: (inside ++ ')' :: cs)) out

variable {depth : Nat} {c : Char} {cs out before after : List Char}

/-! ## One character of the scan -/

/-- With `depth` groups open before a character, `rest` groups are open behind it. -/
def OpenBehind (depth : Nat) (c : Char) (rest : Nat) : Prop :=
  rest + (if c = ')' then 1 else 0) = depth + if c = '(' then 1 else 0

/-- What of a character is outside all groups if `depth` groups are open before it. -/
def kept (depth : Nat) (c : Char) : List Char := if IsOuter depth [] c then [c] else []

variable {depth rest : Nat} {c : Char} {cs out before after : List Char}

theorem kept_of_plain (hopen : c ≠ '(') (hclose : c ≠ ')') :
    kept depth c = if depth = 0 then [c] else [] := by
  simp [kept, IsOuter, hopen, hclose]

/-- Behind every character some number of groups is open, unless it closes one that is not. -/
theorem exists_openBehind (depth : Nat) (c : Char) :
    (∃ rest, OpenBehind depth c rest) ∨ depth = 0 ∧ c = ')' := by
  by_cases hclose : c = ')'
  · subst hclose
    cases depth with
    | zero => exact Or.inr ⟨rfl, rfl⟩
    | succ depth => exact Or.inl ⟨depth, rfl⟩
  · left
    refine ⟨depth + if c = '(' then 1 else 0, ?_⟩
    rw [OpenBehind, if_neg hclose, Nat.add_zero]

theorem count_cons_eq (c d : Char) (cs : List Char) :
    (c :: cs).count d = cs.count d + if c = d then 1 else 0 := by
  rw [List.count_cons]
  simp only [beq_iff_eq]

theorem closesOpen_nil (depth : Nat) : ClosesOpen depth [] := by
  intro before hbefore
  rw [List.prefix_nil.1 hbefore]
  exact Nat.zero_le _

theorem closesOpen_cons_iff (h : OpenBehind depth c rest) :
    ClosesOpen depth (c :: cs) ↔ ClosesOpen rest cs := by
  unfold OpenBehind at h
  constructor
  · intro hcloses before hbefore
    have hlonger := hcloses (c :: before) (List.cons_prefix_cons.2 ⟨rfl, hbefore⟩)
    rw [count_cons_eq, count_cons_eq] at hlonger
    omega
  · intro hcloses before hbefore
    rcases List.prefix_cons_iff.1 hbefore with rfl | ⟨shorter, rfl, hshorter⟩
    · exact Nat.zero_le _
    · have hle := hcloses shorter hshorter
      rw [count_cons_eq, count_cons_eq]
      omega

theorem not_closesOpen_closing (cs : List Char) : ¬ ClosesOpen 0 (')' :: cs) := by
  intro hcloses
  have hfirst := hcloses [')'] (List.cons_prefix_cons.2 ⟨rfl, List.nil_prefix⟩)
  revert hfirst
  decide

theorem isOuter_cons_iff (h : OpenBehind depth c rest) {d : Char} :
    IsOuter depth (c :: before) d ↔ IsOuter rest before d := by
  unfold OpenBehind at h
  unfold IsOuter
  rw [count_cons_eq, count_cons_eq]
  constructor
  · rintro ⟨hopen, hclose, heq⟩
    exact ⟨hopen, hclose, by omega⟩
  · rintro ⟨hopen, hclose, heq⟩
    exact ⟨hopen, hclose, by omega⟩

theorem outerFrom_cons (h : OpenBehind depth c rest) (cs : List Char) :
    outerFrom depth (c :: cs) = kept depth c ++ outerFrom rest cs := by
  have hshift : ((List.map (c :: ·) cs.inits).zip cs).filter (fun p => IsOuter depth p.1 p.2) =
      ((cs.inits.zip cs).filter fun p => IsOuter rest p.1 p.2).map (Prod.map (c :: ·) id) := by
    rw [List.zip_map_left, List.filter_map]
    simp only [Function.comp_def, Prod.map_fst, Prod.map_snd, id_eq, isOuter_cons_iff h]
  unfold outerFrom kept
  rw [List.inits_cons, List.zip_cons_cons, List.filter_cons, hshift]
  split
  · next houter =>
    rw [if_pos (of_decide_eq_true houter), List.map_cons, List.map_map]
    rfl
  · next houter =>
    rw [if_neg fun hin => houter (decide_eq_true hin), List.map_map]
    rfl

theorem outsideGroups_cons (h : OpenBehind depth c rest) (cs : List Char) :
    outsideGroups depth (c :: cs) = (outsideGroups rest cs).map (kept depth c ++ ·) := by
  unfold OpenBehind at h
  rw [outsideGroups.eq_def]
  by_cases hopen : c = '('
  · subst hopen
    obtain rfl : rest = depth + 1 := h
    simp [kept, IsOuter]
  · by_cases hclose : c = ')'
    · subst hclose
      obtain rfl : rest + 1 = depth := h
      simp [kept, IsOuter]
    · obtain rfl : rest = depth := by simpa [hopen, hclose] using h
      rw [kept_of_plain hopen hclose]
      cases rest with
      | zero => simp [hopen, hclose]
      | succ rest => simp [hopen, hclose]

theorem outsideGroups_closing (cs : List Char) : outsideGroups 0 (')' :: cs) = none := by
  rw [outsideGroups.eq_def]
  rfl

/-! ## The whole scan -/

/-- Behind a prefix that closes only open groups the scan goes on with those that are still open. -/
theorem outsideGroups_append (h : ClosesOpen depth before) (after : List Char) :
    ∃ rest, before.count ')' + rest = depth + before.count '(' ∧
      outsideGroups depth (before ++ after) =
        (outsideGroups rest after).map (outerFrom depth before ++ ·) := by
  -- Each character changes the number of open groups by what it adds to one of the two counts.
  induction before generalizing depth with
  | nil =>
      refine ⟨depth, Nat.zero_add depth, ?_⟩
      show outsideGroups depth after = (outsideGroups depth after).map ([] ++ ·)
      simp
  | cons c before ih =>
      rcases exists_openBehind depth c with ⟨next, hnext⟩ | ⟨rfl, rfl⟩
      · obtain ⟨rest, hrest, hscan⟩ := ih ((closesOpen_cons_iff hnext).1 h)
        refine ⟨rest, ?_, ?_⟩
        · unfold OpenBehind at hnext
          rw [count_cons_eq, count_cons_eq]
          omega
        · rw [List.cons_append, outsideGroups_cons hnext, hscan, outerFrom_cons hnext,
            Option.map_map]
          simp [Function.comp_def]
      · exact absurd h (not_closesOpen_closing before)

theorem outsideGroups_eq_none (h : ¬ ClosesOpen depth cs) : outsideGroups depth cs = none := by
  induction cs generalizing depth with
  | nil => exact absurd (closesOpen_nil depth) h
  | cons c cs ih =>
      rcases exists_openBehind depth c with ⟨rest, hrest⟩ | ⟨rfl, rfl⟩
      · rw [outsideGroups_cons hrest, ih fun hcloses => h ((closesOpen_cons_iff hrest).2 hcloses),
          Option.map_none]
      · exact outsideGroups_closing cs

theorem closesOpen_zero_iff :
    ClosesOpen 0 cs ↔ ∀ before, before <+: cs → before.count ')' ≤ before.count '(' := by
  simp [ClosesOpen]

theorem outsideGroups_of_paired (h : Paired cs) : outsideGroups 0 cs = some (outer cs) := by
  obtain ⟨rest, hrest, hscan⟩ := outsideGroups_append (closesOpen_zero_iff.2 h.prefixes) []
  have hclosed : rest = 0 := by
    have htotal := h.total
    omega
  rw [List.append_nil, hclosed] at hscan
  rw [hscan, outsideGroups, Option.map_some, List.append_nil, outer]

theorem paired_of_outsideGroups (h : outsideGroups 0 cs = some out) : Paired cs := by
  have hcloses : ClosesOpen 0 cs := by
    by_contra hnot
    rw [outsideGroups_eq_none hnot] at h
    cases h
  refine ⟨closesOpen_zero_iff.1 hcloses, ?_⟩
  obtain ⟨rest, hrest, hscan⟩ := outsideGroups_append hcloses []
  rw [List.append_nil, h] at hscan
  cases rest with
  | zero => omega
  | succ rest => cases hscan

/-- The scan finds something exactly if the parentheses are paired. -/
theorem isSome_outsideGroups_iff : (outsideGroups 0 cs).isSome = true ↔ Paired cs := by
  constructor
  · intro h
    obtain ⟨out, hout⟩ := Option.isSome_iff_exists.1 h
    exact paired_of_outsideGroups hout
  · intro h
    rw [outsideGroups_of_paired h]
    rfl

instance (cs : List Char) : Decidable (Paired cs) :=
  decidable_of_iff _ isSome_outsideGroups_iff

/-- Balanced parentheses are paired ones. -/
theorem isBalanced_iff {s : String} : IsBalanced s ↔ Paired s.toList :=
  isSome_outsideGroups_iff

/-! ## The grammar of groups -/

/-- A text that closes `depth` groups opened before it, with what stands outside all groups in it:
in front of every parenthesis that closes one of them is a text of groups and other characters. -/
inductive Layers : Nat → List Char → List Char → Prop where
  | zero {cs out : List Char} : Grouped cs out → Layers 0 cs out
  | succ {depth : Nat} {inside within cs out : List Char} :
      Grouped inside within → Layers depth cs out → Layers (depth + 1) (inside ++ ')' :: cs) out

theorem Layers.group {inside within : List Char} (hinside : Grouped inside within)
    (h : Layers depth cs out) : Layers depth ('(' :: (inside ++ ')' :: cs)) out := by
  cases h with
  | zero hcs => exact .zero (.group hinside hcs)
  | @succ depth first within' cs out hfirst hcs =>
      have hlayers := Layers.succ (Grouped.group hinside hfirst) hcs
      rwa [List.cons_append, List.append_assoc, List.cons_append] at hlayers

theorem Outside.layers (h : Outside depth cs out) : Layers depth cs out := by
  -- A parenthesis that opens joins the two outermost layers of what follows it to one.
  induction h with
  | nil => exact .zero .nil
  | opening _ ih =>
      cases ih with
      | succ hinside hrest => exact hrest.group hinside
  | closing _ ih => exact .succ .nil ih
  | kept hopen hclose _ ih =>
      cases ih with
      | zero hcs => exact .zero (.plain hopen hclose hcs)
  | dropped hopen hclose _ ih =>
      cases ih with
      | succ hinside hrest => exact .succ (.plain hopen hclose hinside) hrest

/-- The scan passes over a text of groups and other characters: outside all groups it keeps what
stands outside, and inside a group it keeps nothing. -/
theorem outsideGroups_append_of_grouped (h : Grouped cs out) (depth : Nat) (after : List Char) :
    outsideGroups depth (cs ++ after) =
      (outsideGroups depth after).map ((if depth = 0 then out else []) ++ ·) := by
  induction h generalizing depth after with
  | nil => simp
  | @plain c cs out hopen hclose _ ih =>
      have hbehind : OpenBehind depth c depth := by simp [OpenBehind, hopen, hclose]
      rw [List.cons_append, outsideGroups_cons hbehind, ih, kept_of_plain hopen hclose,
        Option.map_map]
      cases depth <;> rfl
  | @group inside within cs out _ _ ihInside ihRest =>
      have hopened : outsideGroups depth ('(' :: (inside ++ ')' :: (cs ++ after))) =
          outsideGroups (depth + 1) (inside ++ ')' :: (cs ++ after)) := by
        rw [outsideGroups_cons (rfl : OpenBehind depth '(' (depth + 1))]
        simp [kept, IsOuter]
      have hclosed : outsideGroups (depth + 1) (')' :: (cs ++ after)) =
          outsideGroups depth (cs ++ after) := by
        rw [outsideGroups_cons (rfl : OpenBehind (depth + 1) ')' depth)]
        simp [kept, IsOuter]
      rw [List.cons_append, List.append_assoc, List.cons_append, hopened, ihInside, hclosed,
        ihRest, Option.map_map]
      rfl

/-- The scan finds what stands outside the groups of the grammar. -/
theorem outsideGroups_eq_some_iff : outsideGroups 0 cs = some out ↔ Grouped cs out := by
  constructor
  · intro h
    cases (outside_of_outsideGroups h).layers with
    | zero hgrouped => exact hgrouped
  · intro h
    have hscan := outsideGroups_append_of_grouped h 0 []
    rwa [List.append_nil, outsideGroups, Option.map_some, if_pos rfl, List.append_nil] at hscan

/-! ## Removing the groups -/

/-- What is left of a text without its parameters. -/
structure StripsGroups (s : String) : Prop where
  /-- A text without parentheses that open, or with parentheses that are not paired, stays. -/
  unchanged : '(' ∉ s.toList ∨ ¬ Paired s.toList → strip s = s
  /-- Of other texts the words outside all groups stay, parted by single spaces. -/
  words_outside : '(' ∈ s.toList → Paired s.toList →
    Grouped s.toList (outer s.toList) ∧
      (strip s).toList = List.intercalate [' '] (words (outer s.toList))
  /-- No parentheses are left of them. -/
  no_parentheses : '(' ∈ s.toList → Paired s.toList →
    '(' ∉ (strip s).toList ∧ ')' ∉ (strip s).toList
  /-- Behind every prefix the number of open groups is what the prefix has opened and not closed,
  unless the prefix has closed too many and the scan has ended. -/
  counted : ∀ before after, s.toList = before ++ after →
    (¬ ClosesOpen 0 before ∧ outsideGroups 0 s.toList = none) ∨
      ∃ depth, before.count ')' + depth = before.count '(' ∧
        outsideGroups 0 s.toList = (outsideGroups depth after).map (outer before ++ ·)
  /-- Nothing more is removed the second time. -/
  stripped : strip (strip s) = strip s

theorem ne_of_mem_outer (h : c ∈ outer cs) : c ≠ '(' ∧ c ≠ ')' := by
  obtain ⟨p, hp, rfl⟩ := List.mem_map.1 h
  obtain ⟨hopen, hclose, -⟩ := of_decide_eq_true (List.mem_filter.1 hp).2
  exact ⟨hopen, hclose⟩

theorem ne_of_mem_collapse_outer (h : c ∈ collapse (outer cs)) : c ≠ '(' ∧ c ≠ ')' := by
  rcases mem_of_mem_collapse h with hin | rfl
  · exact ne_of_mem_outer hin
  · decide

theorem stripChars_of_paired (hopen : '(' ∈ cs) (h : Paired cs) :
    stripChars cs = collapse (outer cs) := by
  rw [stripChars, if_pos (List.contains_iff_mem.2 hopen), outsideGroups_of_paired h]

theorem stripChars_of_not_paired (h : ¬ Paired cs) : stripChars cs = cs := by
  have hnone : outsideGroups 0 cs = none := by
    rw [← Option.not_isSome_iff_eq_none, isSome_outsideGroups_iff]
    exact h
  rw [stripChars, hnone, ite_self]

/-- Removing the parameters of a text removes exactly its groups. -/
theorem stripsGroups (s : String) : StripsGroups s where
  unchanged := by
    intro h
    apply String.toList_inj.1
    rw [toList_strip]
    rcases h with hopen | hpaired
    · exact stripChars_of_not_mem hopen
    · exact stripChars_of_not_paired hpaired
  words_outside := by
    intro hopen hpaired
    constructor
    · exact outsideGroups_eq_some_iff.1 (outsideGroups_of_paired hpaired)
    · rw [toList_strip, stripChars_of_paired hopen hpaired, collapse_eq_intercalate]
  no_parentheses := by
    intro hopen hpaired
    rw [toList_strip, stripChars_of_paired hopen hpaired]
    exact ⟨fun hmem => (ne_of_mem_collapse_outer hmem).1 rfl,
      fun hmem => (ne_of_mem_collapse_outer hmem).2 rfl⟩
  counted := by
    intro before after heq
    rw [heq]
    by_cases hcloses : ClosesOpen 0 before
    · right
      obtain ⟨depth, hdepth, hscan⟩ := outsideGroups_append hcloses after
      exact ⟨depth, by omega, hscan⟩
    · left
      refine ⟨hcloses, outsideGroups_eq_none fun hall => hcloses ?_⟩
      intro shorter hshorter
      exact hall shorter (hshorter.trans (List.prefix_append before after))
  stripped := by
    apply String.toList_inj.1
    rw [toList_strip, toList_strip, stripChars_stripChars]

/-- Groups may be nested, and blanks around them become one space. -/
example : Paired "time (3 (x))  with time zone".toList ∧
    strip "time (3 (x))  with time zone" = "time with time zone" := by
  decide +kernel

end Spelling

end SchemaCrosswalk
