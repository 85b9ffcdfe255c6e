import Mathlib.Logic.Relation
import SchemaCrosswalk.Proofs.Spelling.Boundaries

/-!
# Reformatting — the spellings that have the same normal form

Letter case and white space do not distinguish two spellings, and this is all that normalizing takes
away: two spellings have the same normal form exactly if one becomes the other by lower-casing
alike, by exchanging runs of blanks, and by putting blanks at the ends and next to separators or
taking them away there.

* `Spelling.respaceFrom`: blanks and separators in a single pass
* `Spelling.Reformats`: one change of letter case or white space
* `Spelling.normalizeChars_eq_iff`: the texts with the same normal form
* `Spelling.isNormalFormOf_normalize`: what normalizing leads to
-/

namespace SchemaCrosswalk.Spelling

open Text

/-! ## Reformatting -/

/-- A run of any number of blanks. -/
def IsRun (run : List Char) : Prop := ∀ c ∈ run, isBlank c = true

/-- One change of letter case or white space. -/
inductive Reformats : List Char → List Char → Prop where
  /-- Other letters with the same lower case. -/
  | letters {cs ds : List Char} : lowercase cs = lowercase ds → Reformats cs ds
  /-- Other blanks between words. -/
  | blanks (before after : List Char) {run other : List Char} :
      IsRun run → run ≠ [] → IsRun other → other ≠ [] →
        Reformats (before ++ (run ++ after)) (before ++ (other ++ after))
  /-- Blanks at the start. -/
  | start (cs : List Char) {run : List Char} : IsRun run → Reformats cs (run ++ cs)
  /-- Blanks at the end. -/
  | finish (cs : List Char) {run : List Char} : IsRun run → Reformats cs (cs ++ run)
  /-- Blanks behind an opening parenthesis or a comma. -/
  | behind (before after : List Char) {c : Char} {run : List Char} :
      c ∈ ['(', ','] → IsRun run →
        Reformats (before ++ c :: after) (before ++ c :: (run ++ after))
  /-- Blanks before a parenthesis or a comma. -/
  | ahead (before after : List Char) {c : Char} {run : List Char} :
      c ∈ ['(', ')', ','] → IsRun run →
        Reformats (before ++ c :: after) (before ++ (run ++ c :: after))

variable {c : Char} {cs ds : List Char}

/-! ## A single pass -/

/-- The space before `next` that is kept if blanks have been passed since `last`: one between words,
but none at the start and none next to a separator. -/
def keptSpace (last : Option Char) (passed : Bool) (next : Char) : List Char :=
  if passed && last.any (fun c => !joinsNext c) && !joinsPrevious next then [' '] else []

/-- A text with the spaces that are kept in it, behind the character `last`; `passed` says that
blanks have been passed since. -/
def respaceFrom (last : Option Char) (passed : Bool) : List Char → List Char
  | [] => []
  | c :: cs =>
      if isBlank c then respaceFrom last true cs
      else keptSpace last passed c ++ c :: respaceFrom (some c) false cs

theorem respaceFrom_cons_of_isBlank (hc : isBlank c = true) (last : Option Char) (passed : Bool)
    (cs : List Char) : respaceFrom last passed (c :: cs) = respaceFrom last true cs := by
  rw [respaceFrom, if_pos hc]

theorem respaceFrom_cons (hc : isBlank c = false) (last : Option Char) (passed : Bool)
    (cs : List Char) :
    respaceFrom last passed (c :: cs) =
      keptSpace last passed c ++ c :: respaceFrom (some c) false cs := by
  rw [respaceFrom, if_neg (by simp [hc])]

theorem tightenFrom_gap_append (hc : isBlank c = false) (last : Option Char) (passed : Bool)
    (cs : List Char) :
    tightenFrom last (gap last.isSome passed ++ c :: cs) =
      keptSpace last passed c ++ c :: tightenFrom (some c) cs := by
  cases last with
  | none => simp [gap, keptSpace, tightenFrom_cons hc]
  | some d =>
      cases passed with
      | false => exact tightenFrom_cons hc (some d) cs
      | true =>
          have hkept : keptSpace (some d) true c =
              if joinsNext d || joinsPrevious c then [] else [' '] := by
            rw [keptSpace, Option.any_some]
            cases joinsNext d <;> cases joinsPrevious c <;> rfl
          have hspace := tightenFrom_space d c cs
          rw [tightenFrom_cons hc, tightenFrom_cons hc] at hspace
          rw [hkept]
          refine hspace.trans ?_
          split <;> rfl

/-- To collapse blanks and then to drop the spaces next to separators is a single pass. -/
theorem tightenFrom_collapseFrom (last : Option Char) (passed : Bool) (cs : List Char) :
    tightenFrom last (collapseFrom last.isSome passed cs) = respaceFrom last passed cs := by
  induction cs generalizing last passed with
  | nil => rfl
  | cons c cs ih =>
      cases hc : isBlank c with
      | true => rw [collapseFrom, if_pos hc, ih, respaceFrom_cons_of_isBlank hc]
      | false =>
          rw [collapseFrom_cons_gap hc, tightenFrom_gap_append hc, respaceFrom_cons hc]
          exact congrArg (fun rest => keptSpace last passed c ++ c :: rest) (ih (some c) false)

theorem normalizeChars_eq_respaceFrom (cs : List Char) :
    normalizeChars cs = respaceFrom none false (lowercase cs) := by
  rw [normalizeChars, lowercase_collapse]
  exact tightenFrom_collapseFrom none false (lowercase cs)

theorem filter_respaceFrom (last : Option Char) (passed : Bool) (cs : List Char) :
    (respaceFrom last passed cs).filter (!isBlank ·) = cs.filter (!isBlank ·) := by
  induction cs generalizing last passed with
  | nil => rfl
  | cons c cs ih =>
      cases hc : isBlank c with
      | true =>
          rw [respaceFrom_cons_of_isBlank hc, ih, List.filter_cons_of_neg (by simp [hc])]
      | false =>
          have hkept : (keptSpace last passed c).filter (!isBlank ·) = [] := by
            unfold keptSpace
            split <;> rfl
          rw [respaceFrom_cons hc, List.filter_append, hkept, List.nil_append,
            List.filter_cons_of_pos (by simp [hc]), ih, List.filter_cons_of_pos (by simp [hc])]

/-! ## What a single pass makes of reformatting -/

theorem joinsNext_iff : joinsNext c = true ↔ c ∈ ['(', ','] := by
  simp [joinsNext]

theorem joinsPrevious_iff : joinsPrevious c = true ↔ c ∈ ['(', ')', ','] := by
  simp [joinsPrevious, or_assoc]

theorem joinsPrevious_of_joinsNext (h : joinsNext c = true) : joinsPrevious c = true := by
  rw [joinsNext_iff] at h
  rw [joinsPrevious_iff]
  simp only [List.mem_cons] at h ⊢
  tauto

theorem isBoundary_of_isRun {run : List Char} (h : IsRun run) : ∀ c ∈ run, IsBoundary c :=
  fun c hc => isBoundary_of_isBlank (h c hc)

theorem isBlank_of_joinsPrevious (h : joinsPrevious c = true) : isBlank c = false := by
  have hcases : c = '(' ∨ c = ')' ∨ c = ',' := by simpa using joinsPrevious_iff.1 h
  rcases hcases with rfl | rfl | rfl <;> rfl

theorem respaceFrom_append_congr
    (h : ∀ last passed, respaceFrom last passed cs = respaceFrom last passed ds)
    (last : Option Char) (passed : Bool) (before : List Char) :
    respaceFrom last passed (before ++ cs) = respaceFrom last passed (before ++ ds) := by
  induction before generalizing last passed with
  | nil => exact h last passed
  | cons c before ih =>
      rw [List.cons_append, List.cons_append, respaceFrom, respaceFrom, ih, ih]

theorem respaceFrom_run_append {run : List Char} (hrun : IsRun run) (last : Option Char)
    (passed : Bool) (cs : List Char) :
    respaceFrom last passed (run ++ cs) = respaceFrom last (passed || !run.isEmpty) cs := by
  induction run generalizing passed with
  | nil => simp
  | cons c run ih =>
      obtain ⟨hc, hrest⟩ := List.forall_mem_cons.1 hrun
      rw [List.cons_append, respaceFrom_cons_of_isBlank hc, ih hrest]
      simp

/-- At the start and behind a separator it does not matter whether blanks have been passed. -/
theorem respaceFrom_of_joins {last : Option Char} (h : ∀ c ∈ last, joinsNext c = true)
    (passed : Bool) (cs : List Char) : respaceFrom last passed cs = respaceFrom last false cs := by
  have hany : last.any (fun c => !joinsNext c) = false := by
    cases last with
    | none => rfl
    | some c => simp [h c rfl]
  induction cs generalizing passed with
  | nil => rfl
  | cons c cs ih =>
      rw [respaceFrom, respaceFrom, keptSpace, keptSpace, hany, Bool.and_false, Bool.and_false]

theorem keptSpace_of_joinsPrevious (h : joinsPrevious c = true) (last : Option Char)
    (passed : Bool) : keptSpace last passed c = [] := by
  rw [keptSpace, h, Bool.not_true, Bool.and_false, if_neg Bool.false_ne_true]

/-- Reformatting does not change the normal form. -/
theorem normalizeChars_eq_of_reformats (h : Reformats cs ds) :
    normalizeChars cs = normalizeChars ds := by
  rw [normalizeChars_eq_respaceFrom, normalizeChars_eq_respaceFrom]
  -- Blanks and separators are where they were in lower case, and the pass goes on behind them from
  -- the same state.
  cases h with
  | letters hlower => rw [hlower]
  | blanks before after hrun hne hother hne' =>
      rw [lowercase_append_of_boundaries hne (isBoundary_of_isRun hrun),
        lowercase_append_of_boundaries hne' (isBoundary_of_isRun hother)]
      apply respaceFrom_append_congr
      intro last passed
      rw [respaceFrom_run_append hrun, respaceFrom_run_append hother,
        List.isEmpty_eq_false_iff.2 hne, List.isEmpty_eq_false_iff.2 hne']
  | start cs hrun =>
      rw [lowercase_boundaries_append (isBoundary_of_isRun hrun), respaceFrom_run_append hrun]
      exact (respaceFrom_of_joins (by simp) _ _).symm
  | @finish cs run hrun =>
      rw [lowercase_append_boundaries (isBoundary_of_isRun hrun)]
      have hend : ∀ last passed, respaceFrom last passed [] = respaceFrom last passed run := by
        intro last passed
        have hnil := respaceFrom_run_append hrun last passed []
        rw [List.append_nil] at hnil
        exact hnil.symm
      have happend := respaceFrom_append_congr hend none false (lowercase cs)
      rwa [List.append_nil] at happend
  | behind before after hc hrun =>
      have hnext := joinsNext_iff.2 hc
      have hprevious := joinsPrevious_of_joinsNext hnext
      have hboundary := isBoundary_of_joinsPrevious hprevious
      rw [lowercase_append_cons hboundary, lowercase_append_cons hboundary,
        lowercase_boundaries_append (isBoundary_of_isRun hrun)]
      apply respaceFrom_append_congr
      intro last passed
      rw [respaceFrom_cons (isBlank_of_joinsPrevious hprevious),
        respaceFrom_cons (isBlank_of_joinsPrevious hprevious), respaceFrom_run_append hrun,
        respaceFrom_of_joins (by simpa using hnext) (false || _)]
  | @ahead before after c run hc hrun =>
      have hprevious := joinsPrevious_iff.2 hc
      have hboundary := isBoundary_of_joinsPrevious hprevious
      have hlower : lowercase (before ++ (run ++ c :: after)) =
          lowercase before ++ (run ++ c :: lowercase after) := by
        rw [← List.append_assoc, lowercase_append_cons hboundary,
          lowercase_append_boundaries (isBoundary_of_isRun hrun), List.append_assoc]
      rw [lowercase_append_cons hboundary, hlower]
      apply respaceFrom_append_congr
      intro last passed
      rw [respaceFrom_run_append hrun, respaceFrom_cons (isBlank_of_joinsPrevious hprevious),
        respaceFrom_cons (isBlank_of_joinsPrevious hprevious), keptSpace_of_joinsPrevious hprevious,
        keptSpace_of_joinsPrevious hprevious]

/-! ## What a single pass is made of -/

theorem isRun_gap (started passed : Bool) : IsRun (gap started passed) := by
  intro c hc
  unfold gap at hc
  split at hc
  · exact List.mem_singleton.1 hc ▸ rfl
  · cases hc

/-- To drop the space before a character, where it is dropped, is to reformat. -/
theorem eqvGen_keptSpace (before : List Char) (passed : Bool) (c : Char) (cs : List Char) :
    Relation.EqvGen Reformats (before ++ (gap true passed ++ c :: cs))
      (before ++ (keptSpace before.getLast? passed c ++ c :: cs)) := by
  cases passed with
  | false => exact .refl _
  | true =>
      by_cases hprevious : joinsPrevious c = true
      · rw [keptSpace_of_joinsPrevious hprevious]
        exact .symm _ _ (.rel _ _ (.ahead before cs (joinsPrevious_iff.1 hprevious) (isRun_gap _ _)))
      · rcases List.eq_nil_or_concat before with rfl | ⟨words, last, rfl⟩
        · exact .symm _ _ (.rel _ _ (.start (c :: cs) (isRun_gap _ _)))
        · rw [List.concat_eq_append, List.getLast?_concat, List.append_assoc, List.append_assoc]
          by_cases hnext : joinsNext last = true
          · have hkept : keptSpace (some last) true c = [] := by simp [keptSpace, hnext]
            rw [hkept]
            exact .symm _ _
              (.rel _ _ (.behind words (c :: cs) (joinsNext_iff.1 hnext) (isRun_gap _ _)))
          · have hkept : keptSpace (some last) true c = gap true true := by
              simp [keptSpace, gap, hnext, hprevious]
            rw [hkept]
            exact .refl _

/-- The pass is made of single changes, whatever text stands before its characters. -/
theorem eqvGen_respaceFrom (before : List Char) (passed : Bool) (cs : List Char) :
    Relation.EqvGen Reformats (before ++ (gap true passed ++ cs))
      (before ++ respaceFrom before.getLast? passed cs) := by
  -- What the pass has written joins the text before, and a space stands for the blanks passed since.
  induction cs generalizing before passed with
  | nil =>
      rw [respaceFrom, List.append_nil, List.append_nil]
      exact .symm _ _ (.rel _ _ (.finish before (isRun_gap true passed)))
  | cons c cs ih =>
      cases hc : isBlank c with
      | true =>
          have hrun : IsRun (gap true passed ++ [c]) := by
            intro d hd
            rcases List.mem_append.1 hd with hgap | hlast
            · exact isRun_gap true passed d hgap
            · exact List.mem_singleton.1 hlast ▸ hc
          have hblanks : Reformats (before ++ ((gap true passed ++ [c]) ++ cs))
              (before ++ (gap true true ++ cs)) :=
            .blanks before cs hrun (by simp) (isRun_gap true true) (List.cons_ne_nil _ _)
          rw [List.append_assoc, List.singleton_append] at hblanks
          rw [respaceFrom_cons_of_isBlank hc]
          exact .trans _ _ _ (.rel _ _ hblanks) (ih before true)
      | false =>
          have hrest := ih (before ++ (keptSpace before.getLast? passed c ++ [c])) false
          rw [← List.append_assoc before, List.getLast?_concat, List.append_assoc,
            List.append_assoc, List.append_assoc, List.append_assoc] at hrest
          rw [respaceFrom_cons hc]
          exact .trans _ _ _ (eqvGen_keptSpace before passed c cs) hrest

theorem eqvGen_normalizeChars (cs : List Char) :
    Relation.EqvGen Reformats cs (normalizeChars cs) := by
  have hletters : Reformats cs (lowercase cs) := .letters (lowercase_lowercase cs).symm
  have hpass := eqvGen_respaceFrom [] false (lowercase cs)
  rw [normalizeChars_eq_respaceFrom]
  exact .trans _ _ _ (.rel _ _ hletters) hpass

/-- Two texts have the same normal form exactly if reformatting leads from one to the other. -/
theorem normalizeChars_eq_iff :
    normalizeChars cs = normalizeChars ds ↔ Relation.EqvGen Reformats cs ds := by
  constructor
  · intro h
    have hds := eqvGen_normalizeChars ds
    rw [← h] at hds
    exact .trans _ _ _ (eqvGen_normalizeChars cs) (.symm _ _ hds)
  · intro h
    induction h with
    | rel cs ds hstep => exact normalizeChars_eq_of_reformats hstep
    | refl cs => rfl
    | symm cs ds _ ih => exact ih.symm
    | trans cs ds es _ _ ih ih' => exact ih.trans ih'

/-! ## Normal forms -/

/-- A space stands by itself between two words, neither behind an opening parenthesis or a comma nor
before a parenthesis or a comma. -/
structure IsWordSpace (before : List Char) (c : Char) (after : List Char) : Prop where
  space : c = ' '
  behind : ∃ d, before.getLast? = some d ∧ isBlank d = false ∧ d ∉ ['(', ',']
  ahead : ∃ d, after.head? = some d ∧ isBlank d = false ∧ d ∉ ['(', ')', ',']

theorem isWordSpace_of_parted {before after : List Char} (hc : isBlank c = true)
    (h : Parted (mayEnd False) mayBegin (before ++ c :: after)) : IsWordSpace before c after := by
  generalize hcs : before ++ c :: after = cs at h
  -- What stands before the blank is taken apart along with the words.
  induction h generalizing before with
  | @single d hd =>
      cases before with
      | nil =>
          cases hcs
          exact absurd hd (by simp [hc])
      | cons e before => simp at hcs
  | @next d cs hd _ ih =>
      cases before with
      | nil =>
          cases hcs
          exact absurd hd (by simp [hc])
      | cons e before =>
          obtain ⟨rfl, hrest⟩ := List.cons.inj hcs
          obtain ⟨hspace, ⟨f, hf, hbehind⟩, hahead⟩ := ih hrest
          refine ⟨hspace, ⟨f, ?_, hbehind⟩, hahead⟩
          rw [List.getLast?_cons, hf, Option.getD_some]
  | @space d e cs hd hend hbegin hwords ih =>
      match before, hcs with
      | [], hcs =>
          cases hcs
          exact absurd hd (by simp [hc])
      | [f], hcs =>
          cases hcs
          refine ⟨rfl, ⟨d, rfl, hd, ?_⟩, ⟨e, rfl, hwords.isBlank_head, ?_⟩⟩
          · rw [← joinsNext_iff, mayEnd_false_iff.1 hend]
            exact Bool.false_ne_true
          · rw [← joinsPrevious_iff, hbegin]
            exact Bool.false_ne_true
      | f :: g :: before, hcs =>
          obtain ⟨rfl, hspace⟩ := List.cons.inj hcs
          obtain ⟨rfl, hrest⟩ := List.cons.inj hspace
          obtain ⟨hspace, ⟨k, hk, hbehind⟩, hahead⟩ := ih hrest
          refine ⟨hspace, ⟨k, ?_, hbehind⟩, hahead⟩
          rw [List.getLast?_cons, List.getLast?_cons, hk, Option.getD_some, Option.getD_some]

/-- The normal form of a spelling: it is its own normal form, its blanks are single spaces between
words, its other characters are those of the spelling in lower case, one by one, and it is the
normal form of exactly the spellings that reformatting leads to. -/
structure IsNormalFormOf (raw text : String) : Prop where
  fixed : normalize text = text
  spaces : ∀ before c after, text.toList = before ++ c :: after → isBlank c = true →
    IsWordSpace before c after
  letters : text.toList.filter (!isBlank ·) = (toLowercase raw).toList.filter (!isBlank ·)
  shared : ∀ other, normalize other = text ↔ Relation.EqvGen Reformats raw.toList other.toList

/-- Normalizing a spelling leads to its normal form. -/
theorem isNormalFormOf_normalize (raw : String) : IsNormalFormOf raw (normalize raw) where
  fixed := normalize_normalize raw
  spaces := by
    intro before c after heq hc
    rcases (isNormal_normalize raw).spaced with hnil | hwords
    · rw [hnil] at heq
      exact absurd heq.symm (by simp)
    · rw [heq] at hwords
      exact isWordSpace_of_parted hc hwords
  letters := by
    rw [toList_normalize, normalizeChars_eq_respaceFrom, filter_respaceFrom, toLowercase,
      String.toList_ofList]
  shared := by
    intro other
    rw [← String.toList_inj, toList_normalize, toList_normalize, eq_comm]
    exact normalizeChars_eq_iff

example : normalize "  Numeric\t( 10 ,\n2 ) " = "numeric(10,2)" := by
  decide +kernel

end SchemaCrosswalk.Spelling
