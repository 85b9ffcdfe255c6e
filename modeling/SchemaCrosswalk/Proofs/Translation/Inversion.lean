import Mathlib.Data.List.Nodup
import SchemaCrosswalk.Proofs.Translation.Lookup

/-!
# Inversion — what comes back from the other direction

Inverting a translation exchanges the sides of its entries and drops those whose sink type an
earlier entry has. What is left names every sink type once. So a sink type leads back to the first
source type that is translated to it, and translating that again leads to the sink type one started
from.
Where no source type is listed twice, nothing more is dropped by inverting again: from then on the
entries are only turned over.

* `swapped_sublist`: the entries of an inversion are exchanged ones, in their order
* `swapped_eq_map_swap`: nothing is dropped where all sink types differ
* `lookup_of_mem`: distinct source types are all translated by their own entries
* `InvertsAsSection`: what is known of the inversions of a translation
* `inverts_as_section`: it holds of every translation with distinct source types
-/

namespace SchemaCrosswalk.Translation

variable {t u : Translation} {entries : List (String × String)} {seen : List String}

/-! ## Exchanged entries -/

/-- The entries of an inversion are exchanged ones, in their order. -/
theorem swapped_sublist :
    ∀ (entries : List (String × String)) (seen : List String),
      (swapped seen entries).Sublist (entries.map Prod.swap)
  | [], _ => List.Sublist.slnil
  | (source, sink) :: rest, seen => by
      by_cases hseen : sink ∈ seen
      · simpa [swapped, hseen] using (swapped_sublist rest seen).cons (sink, source)
      · simpa [swapped, hseen] using swapped_sublist rest (sink :: seen)

theorem mem_of_mem_swapped {e : String × String} (h : e ∈ swapped seen entries) :
    e.swap ∈ entries := by
  have hmem : e ∈ entries.map Prod.swap := (swapped_sublist entries seen).mem h
  rcases List.mem_map.1 hmem with ⟨f, hf, rfl⟩
  simpa using hf

/-- The entries of an inversion have distinct source types, none of which was seen before. -/
theorem nodup_swapped :
    ∀ (entries : List (String × String)) (seen : List String),
      ((swapped seen entries).map Prod.fst).Nodup ∧
        ∀ e ∈ swapped seen entries, e.1 ∉ seen
  | [], _ => by simp [swapped]
  | (source, sink) :: rest, seen => by
      by_cases hseen : sink ∈ seen
      · simpa [swapped, hseen] using nodup_swapped rest seen
      · have hrest := nodup_swapped rest (sink :: seen)
        -- The sink type of the first entry is among those that the rest has to avoid.
        have hfresh : sink ∉ (swapped (sink :: seen) rest).map Prod.fst := by
          intro hmem
          rcases List.mem_map.1 hmem with ⟨e, he, hsink⟩
          exact hrest.2 e he (hsink ▸ List.mem_cons_self)
        have hswapped : swapped seen ((source, sink) :: rest) =
            (sink, source) :: swapped (sink :: seen) rest := by
          simp [swapped, hseen]
        rw [hswapped]
        refine ⟨List.nodup_cons.2 ⟨hfresh, hrest.1⟩, ?_⟩
        intro e he
        rcases List.mem_cons.1 he with rfl | he
        · exact hseen
        · exact fun hmem => hrest.2 e he (List.mem_cons_of_mem sink hmem)

/-- Where all sink types differ and none was seen before, no entry is dropped. -/
theorem swapped_eq_map_swap (hdistinct : (entries.map Prod.snd).Nodup)
    (hnew : ∀ e ∈ entries, e.2 ∉ seen) : swapped seen entries = entries.map Prod.swap := by
  induction entries generalizing seen with
  | nil => rfl
  | cons e rest ih =>
      have hseen : e.2 ∉ seen := hnew e List.mem_cons_self
      have hparts := List.nodup_cons.1 hdistinct
      have hrest : swapped (e.2 :: seen) rest = rest.map Prod.swap := by
        refine ih hparts.2 ?_
        intro f hf hmem
        rcases List.mem_cons.1 hmem with hsame | hmem
        · exact hparts.1 (List.mem_map.2 ⟨f, hf, hsame⟩)
        · exact hnew f (List.mem_cons_of_mem e hf) hmem
      obtain ⟨source, sink⟩ := e
      simpa [swapped, hseen] using hrest

/-- Source types that are distinct are distinct sink types of the inversion. -/
theorem nodup_snd_swapped (hdistinct : (entries.map Prod.fst).Nodup) :
    ((swapped seen entries).map Prod.snd).Nodup := by
  have hsublist : ((swapped seen entries).map Prod.snd).Sublist (entries.map Prod.fst) := by
    simpa [Function.comp_def] using (swapped_sublist entries seen).map Prod.snd
  exact hdistinct.sublist hsublist

/-! ## Looking up what is listed -/

theorem lookup_congr (h : t.entries = u.entries) (x : String) : t.lookup x = u.lookup x := by
  apply lookup_eq_of_scan
  rw [h]
  exact scan_lookup u x

/-- The first entry with a spelling translates it. -/
theorem lookup_of_isFirst {x : String} {e : String × String} (h : IsFirst id x t.entries e) :
    t.lookup x = some e.2 :=
  lookup_eq_of_scan (.exact h)

/-- Distinct source types are all translated by their own entries. -/
theorem lookup_of_mem (hdistinct : (t.entries.map Prod.fst).Nodup) {e : String × String}
    (h : e ∈ t.entries) : t.lookup e.1 = some e.2 := by
  obtain ⟨before, after, hentries⟩ := List.append_of_mem h
  apply lookup_of_isFirst
  refine ⟨before, after, hentries, rfl, ?_⟩
  intro b hb hsame
  -- An earlier entry with the same source type would be a repetition.
  rw [hentries, List.map_append, List.map_cons] at hdistinct
  have hdisjoint := List.disjoint_of_nodup_append hdistinct
  exact hdisjoint (List.mem_map_of_mem hb) (by simp [← hsame])

/-! ## Back and forth -/

/-- A sink type leads back to the source type of the first entry that has it. -/
theorem exists_first_lookup_invert {k : String} (h : ∃ e ∈ t.entries, e.2 = k) :
    ∃ before source after, t.entries = before ++ (source, k) :: after ∧
      (∀ b ∈ before, b.2 ≠ k) ∧ t.invert.lookup k = some source := by
  have hsome : (t.entries.find? fun e => e.2 == k).isSome = true := by
    simpa [List.find?_isSome] using h
  rcases Option.isSome_iff_exists.1 hsome with ⟨⟨source, sink⟩, hfound⟩
  obtain ⟨hsink, before, after, hentries, hbefore⟩ := List.find?_eq_some_iff_append.1 hfound
  obtain rfl : sink = k := by simpa using hsink
  have hnot : ∀ b ∈ before, b.2 ≠ sink := by
    intro b hb
    simpa using hbefore b hb
  refine ⟨before, source, after, hentries, hnot, ?_⟩
  have hfirst : IsFirst id sink (t.entries.map Prod.swap) (sink, source) := by
    refine ⟨before.map Prod.swap, after.map Prod.swap, by simp [hentries], rfl, ?_⟩
    intro b hb
    rcases List.mem_map.1 hb with ⟨e, he, rfl⟩
    exact hnot e he
  exact lookup_invert_eq_iff_scan.2 (.exact hfirst)

/-- Translating a type back and forth leads to the type itself, up to case, white space and
parameters. -/
theorem exists_lookup_of_lookup_invert (hdistinct : (t.entries.map Prod.fst).Nodup)
    {x source : String} (h : t.invert.lookup x = some source) :
    ∃ k, t.lookup source = some k ∧ (Spelling.normalize k = Spelling.normalize x ∨
      Spelling.normalize k = Spelling.strip (Spelling.normalize x)) := by
  rcases exists_speaks_of_lookup h with ⟨e, hmem, hspeaks, rfl⟩
  have hswapped : e.swap ∈ t.entries := mem_of_mem_swapped hmem
  exact ⟨e.1, lookup_of_mem hdistinct hswapped, hspeaks⟩

/-! ## Inverting again -/

theorem entries_invert_invert (hdistinct : (t.entries.map Prod.fst).Nodup) :
    t.invert.invert.entries = t.invert.entries.map Prod.swap :=
  swapped_eq_map_swap (nodup_snd_swapped hdistinct) fun _ _ => List.not_mem_nil

/-- The entries that are left after inverting twice are those of the translation, in their order,
without those whose sink type an earlier one has. -/
theorem entries_invert_invert_sublist (hdistinct : (t.entries.map Prod.fst).Nodup) :
    t.invert.invert.entries.Sublist t.entries := by
  have hsublist : t.invert.entries.Sublist (t.entries.map Prod.swap) :=
    swapped_sublist t.entries []
  rw [entries_invert_invert hdistinct]
  simpa using hsublist.map Prod.swap

theorem nodup_fst_invert (t : Translation) : (t.invert.entries.map Prod.fst).Nodup :=
  (nodup_swapped t.entries []).1

theorem entries_invert_invert_invert (hdistinct : (t.entries.map Prod.fst).Nodup) :
    t.invert.invert.invert.entries = t.invert.entries := by
  -- What an inversion lists has distinct source types, so it is turned over twice as a whole.
  calc t.invert.invert.invert.entries
      = t.invert.invert.entries.map Prod.swap := entries_invert_invert (nodup_fst_invert t)
    _ = (t.invert.entries.map Prod.swap).map Prod.swap := by rw [entries_invert_invert hdistinct]
    _ = t.invert.entries := by simp

/-- Two translations serve the same engines with the same entries, answers and fallback. -/
structure SameTable (t u : Translation) : Prop where
  sourceEngine : t.sourceEngine = u.sourceEngine
  sinkEngine : t.sinkEngine = u.sinkEngine
  entries : t.entries = u.entries
  lookup : ∀ x, t.lookup x = u.lookup x
  fallback : t.fallback = u.fallback
  reverseFallback : t.reverseFallback = u.reverseFallback

/-- What is known of the inversions of a translation. The first one leads from a sink type back to
the source type that is listed first for it, and from there one comes to that sink type again. The
third one is like the first one. The second one serves the direction of the translation itself, and
translates what it still lists as the translation does. -/
structure InvertsAsSection (t : Translation) : Prop where
  first_source : ∀ k, (∃ e ∈ t.entries, e.2 = k) →
    ∃ before source after, t.entries = before ++ (source, k) :: after ∧
      (∀ b ∈ before, b.2 ≠ k) ∧ t.invert.lookup k = some source
  leads_back : ∀ x source, t.invert.lookup x = some source →
    ∃ k, t.lookup source = some k ∧ (Spelling.normalize k = Spelling.normalize x ∨
      Spelling.normalize k = Spelling.strip (Spelling.normalize x))
  thrice : SameTable t.invert.invert.invert t.invert
  sourceEngine_twice : t.invert.invert.sourceEngine = t.sourceEngine
  sinkEngine_twice : t.invert.invert.sinkEngine = t.sinkEngine
  fallback_twice : t.invert.invert.fallback = t.fallback
  reverseFallback_twice : t.invert.invert.reverseFallback = t.reverseFallback
  entries_twice : t.invert.invert.entries.Sublist t.entries
  lookup_twice : ∀ e ∈ t.invert.invert.entries,
    t.invert.invert.lookup e.1 = some e.2 ∧ t.lookup e.1 = some e.2

/-- The inversion of a translation with distinct source types is a section of it. -/
theorem inverts_as_section (t : Translation) (hdistinct : (t.entries.map Prod.fst).Nodup) :
    t.InvertsAsSection where
  first_source := fun _ h => exists_first_lookup_invert h
  leads_back := fun _ _ h => exists_lookup_of_lookup_invert hdistinct h
  thrice :=
    { sourceEngine := rfl
      sinkEngine := rfl
      entries := entries_invert_invert_invert hdistinct
      lookup := fun x => lookup_congr (entries_invert_invert_invert hdistinct) x
      fallback := rfl
      reverseFallback := rfl }
  sourceEngine_twice := rfl
  sinkEngine_twice := rfl
  fallback_twice := rfl
  reverseFallback_twice := rfl
  entries_twice := entries_invert_invert_sublist hdistinct
  lookup_twice := by
    intro e he
    have hsublist := entries_invert_invert_sublist hdistinct
    have hleft : (t.invert.invert.entries.map Prod.fst).Nodup :=
      hdistinct.sublist (hsublist.map Prod.fst)
    exact ⟨lookup_of_mem hleft he, lookup_of_mem hdistinct (hsublist.mem he)⟩

/-- A document with sink types that differ in case and in white space only. -/
def namesDocument : String :=
  "mappings:\n  nvarchar: text\n  varchar: TEXT\n  ntext: text\n  decimal: numeric(10,2)\n" ++
    "  money: NUMERIC( 10, 2 )\nreverse_fallback: sql_variant\n"

/-- The parametrized and oddly spelled text leads back to the source type that is listed first for a
text, although another one is listed for a text in capital letters. -/
theorem inverts_as_section_names :
    ∃ t, ofText namesDocument "mssql" "postgres" "names.yaml" = .ok t ∧
      (t.entries.map Prod.fst).Nodup ∧ t.InvertsAsSection ∧
        t.invert.lookup "Text (5)" = some "nvarchar" ∧ t.lookup "nvarchar" = some "text" ∧
          t.invert.invert.entries = [("nvarchar", "text"), ("varchar", "TEXT"),
            ("decimal", "numeric(10,2)"), ("money", "NUMERIC( 10, 2 )")] := by
  have hread : ((ofText namesDocument "mssql" "postgres" "names.yaml").toOption.map fun t =>
      (t.entries.map Prod.fst, t.invert.lookup "Text (5)", t.lookup "nvarchar",
        t.invert.invert.entries)) =
      some (["nvarchar", "varchar", "ntext", "decimal", "money"], some "nvarchar", some "text",
        [("nvarchar", "text"), ("varchar", "TEXT"), ("decimal", "numeric(10,2)"),
          ("money", "NUMERIC( 10, 2 )")]) := by
    decide +kernel
  rcases Option.map_eq_some_iff.1 hread with ⟨t, hok, hparts⟩
  simp only [Prod.mk.injEq] at hparts
  obtain ⟨hsources, hback, hforth, htwice⟩ := hparts
  have hdistinct : (t.entries.map Prod.fst).Nodup := by
    rw [hsources]
    decide
  exact ⟨t, eq_ok_of_toOption hok, hdistinct, inverts_as_section t hdistinct, hback, hforth, htwice⟩

end SchemaCrosswalk.Translation
