import Mathlib.Logic.Function.Iterate
import SchemaCrosswalk.Proofs.Dictionary
import SchemaCrosswalk.Proofs.Outcomes
import SchemaCrosswalk.Translation

/-!
# Lookup — which entry of a translation speaks for a type

A translation keeps its entries in two dictionaries, by their spellings and by the normal forms of
these. A type is looked up by its spelling, by its normal form and by that without parameters. So a
type that is translated is translated by an entry with one of these three spellings, and a type that
is not gets the fallback.

* `get?_firstWins`: the first entry of a key is the one that counts
* `Translation.Scan`: what is found for a type by going through the entries in order
* `Translation.Speaks`: an entry may be found for a type
* `Translation.mapType_cases`: the sink type of a type is that of an entry, or the fallback
* `Translation.lookup_scans`: a translation answers by a scan, however often it has been inverted
-/

namespace SchemaCrosswalk

/-! ## Entries by a key -/

/-- What is found after some entries have been put in: what was there before, or else the first of
them with the key. -/
theorem get?_foldl_firstWins (key : String → String) (name : String)
    (entries : List (String × String)) (d : Dictionary String) :
    (entries.foldl
        (fun d p => if d.contains (key p.1) then d else d.insert (key p.1) p.2) d).get? name =
      (d.get? name).or ((entries.find? fun e => key e.1 == name).map Prod.snd) := by
  induction entries generalizing d with
  | nil => simp
  | cons e entries ih =>
      rw [List.foldl_cons, ih]
      by_cases hname : key e.1 = name
      · -- The entry has the key: it counts if nothing was there.
        subst hname
        cases hget : d.get? (key e.1) with
        | some target => simp [Dictionary.contains, hget]
        | none => simp [Dictionary.contains, Dictionary.get?_insert, hget]
      · cases hcontains : d.contains (key e.1) with
        | true => simp [hname]
        | false => simp [hname, Dictionary.get?_insert, Ne.symm hname]

theorem get?_firstWins (key : String → String) (entries : List (String × String)) (name : String) :
    (firstWins key entries).get? name =
      (entries.find? fun e => key e.1 == name).map Prod.snd := by
  simpa [firstWins] using get?_foldl_firstWins key name entries Dictionary.empty

section

variable {key : String → String} {name : String} {entries : List (String × String)}
variable {e : String × String}

/-- The first entry of a list that has a key. -/
def IsFirst (key : String → String) (name : String) (entries : List (String × String))
    (e : String × String) : Prop :=
  ∃ before after, entries = before ++ e :: after ∧ key e.1 = name ∧ ∀ b ∈ before, key b.1 ≠ name

theorem IsFirst.mem (h : IsFirst key name entries e) : e ∈ entries := by
  obtain ⟨before, after, rfl, -⟩ := h
  simp

theorem IsFirst.key_eq (h : IsFirst key name entries e) : key e.1 = name := by
  obtain ⟨-, -, -, hkey, -⟩ := h
  exact hkey

theorem find?_eq_some_iff_isFirst :
    entries.find? (fun e => key e.1 == name) = some e ↔ IsFirst key name entries e := by
  rw [List.find?_eq_some_iff_append]
  constructor
  · rintro ⟨hkey, before, after, hentries, hbefore⟩
    exact ⟨before, after, hentries, beq_iff_eq.1 hkey, fun b hb => by simpa using hbefore b hb⟩
  · rintro ⟨before, after, hentries, hkey, hbefore⟩
    exact ⟨beq_iff_eq.2 hkey, before, after, hentries, fun b hb => by simpa using hbefore b hb⟩

theorem get?_firstWins_eq_some_iff {target : String} :
    (firstWins key entries).get? name = some target ↔
      ∃ e, IsFirst key name entries e ∧ e.2 = target := by
  rw [get?_firstWins, Option.map_eq_some_iff]
  simp only [find?_eq_some_iff_isFirst]

theorem get?_firstWins_of_isFirst (h : IsFirst key name entries e) :
    (firstWins key entries).get? name = some e.2 :=
  get?_firstWins_eq_some_iff.2 ⟨e, h, rfl⟩

theorem get?_firstWins_eq_none_iff :
    (firstWins key entries).get? name = none ↔ ∀ e ∈ entries, key e.1 ≠ name := by
  rw [get?_firstWins, Option.map_eq_none_iff, List.find?_eq_none]
  simp only [beq_iff_eq]

end

namespace Translation

variable {t : Translation} {x target : String}

/-! ## Scanning -/

/-- No entry is spelled like a type, neither exactly nor in normal form, with its parameters or
without them. -/
def Unlisted (entries : List (String × String)) (x : String) : Prop :=
  ∀ e ∈ entries, e.1 ≠ x ∧ Spelling.normalize e.1 ≠ Spelling.normalize x ∧
    Spelling.normalize e.1 ≠ Spelling.strip (Spelling.normalize x)

/-- What is found for a type by going through the entries in order: once for its spelling, once for
its normal form, and once for that without parameters. -/
inductive Scan (entries : List (String × String)) (x : String) : Option String → Prop
  | exact {e : String × String} (hfirst : IsFirst id x entries e) : Scan entries x (some e.2)
  | folded {e : String × String} (hexact : ∀ e ∈ entries, e.1 ≠ x)
      (hfirst : IsFirst Spelling.normalize (Spelling.normalize x) entries e) :
      Scan entries x (some e.2)
  | bare {e : String × String} (hexact : ∀ e ∈ entries, e.1 ≠ x)
      (hfolded : ∀ e ∈ entries, Spelling.normalize e.1 ≠ Spelling.normalize x)
      (hfirst : IsFirst Spelling.normalize (Spelling.strip (Spelling.normalize x)) entries e) :
      Scan entries x (some e.2)
  | unlisted (h : Unlisted entries x) : Scan entries x none

theorem lookup_eq (t : Translation) (x : String) :
    t.lookup x = ((firstWins id t.entries).get? x).or
      (((firstWins Spelling.normalize t.entries).get? (Spelling.normalize x)).or
        ((firstWins Spelling.normalize t.entries).get? (Spelling.strip (Spelling.normalize x)))) := by
  rw [← t.exact_eq, ← t.folded_eq]
  rfl

theorem scan_lookup (t : Translation) (x : String) : Scan t.entries x (t.lookup x) := by
  cases hexact : (firstWins id t.entries).get? x with
  | some target =>
      obtain ⟨e, hfirst, rfl⟩ := get?_firstWins_eq_some_iff.1 hexact
      rw [lookup_eq, hexact, Option.some_or]
      exact .exact hfirst
  | none =>
      rw [lookup_eq, hexact, Option.none_or]
      rw [get?_firstWins_eq_none_iff] at hexact
      cases hfolded : (firstWins Spelling.normalize t.entries).get? (Spelling.normalize x) with
      | some target =>
          obtain ⟨e, hfirst, rfl⟩ := get?_firstWins_eq_some_iff.1 hfolded
          exact .folded hexact hfirst
      | none =>
          rw [get?_firstWins_eq_none_iff] at hfolded
          rw [Option.none_or]
          cases hbare : (firstWins Spelling.normalize t.entries).get?
              (Spelling.strip (Spelling.normalize x)) with
          | some target =>
              obtain ⟨e, hfirst, rfl⟩ := get?_firstWins_eq_some_iff.1 hbare
              exact .bare hexact hfolded hfirst
          | none =>
              rw [get?_firstWins_eq_none_iff] at hbare
              exact .unlisted fun e he => ⟨hexact e he, hfolded e he, hbare e he⟩

theorem lookup_eq_of_scan {found : Option String} (h : Scan t.entries x found) :
    t.lookup x = found := by
  rw [lookup_eq]
  cases h with
  | exact hfirst => rw [get?_firstWins_of_isFirst hfirst, Option.some_or]
  | folded hexact hfirst =>
      rw [get?_firstWins_eq_none_iff.2 hexact, get?_firstWins_of_isFirst hfirst, Option.none_or,
        Option.some_or]
  | bare hexact hfolded hfirst =>
      rw [get?_firstWins_eq_none_iff.2 hexact, get?_firstWins_eq_none_iff.2 hfolded,
        get?_firstWins_of_isFirst hfirst, Option.none_or, Option.none_or]
  | unlisted hall =>
      rw [get?_firstWins_eq_none_iff.2 fun e he => (hall e he).1,
        get?_firstWins_eq_none_iff.2 fun e he => (hall e he).2.1,
        get?_firstWins_eq_none_iff.2 fun e he => (hall e he).2.2, Option.none_or, Option.none_or]

theorem lookup_eq_iff_scan {found : Option String} :
    t.lookup x = found ↔ Scan t.entries x found := by
  constructor
  · rintro rfl
    exact scan_lookup t x
  · exact lookup_eq_of_scan

theorem lookup_eq_none_iff : t.lookup x = none ↔ Unlisted t.entries x := by
  rw [lookup_eq_iff_scan]
  constructor
  · intro h
    cases h with
    | unlisted hall => exact hall
  · exact .unlisted

/-! ## Entries for a type -/

/-- An entry is spelled like a type, up to case and white space and possibly without the parameters
of the type. -/
def Speaks (x : String) (e : String × String) : Prop :=
  Spelling.normalize e.1 = Spelling.normalize x ∨
    Spelling.normalize e.1 = Spelling.strip (Spelling.normalize x)

/-- What is found for a type stands in an entry that speaks for it. -/
theorem exists_speaks_of_lookup (h : t.lookup x = some target) :
    ∃ e ∈ t.entries, Speaks x e ∧ e.2 = target := by
  cases lookup_eq_iff_scan.1 h with
  | exact hfirst => exact ⟨_, hfirst.mem, Or.inl (congrArg Spelling.normalize hfirst.key_eq), rfl⟩
  | folded _ hfirst => exact ⟨_, hfirst.mem, Or.inl hfirst.key_eq, rfl⟩
  | bare _ _ hfirst => exact ⟨_, hfirst.mem, Or.inr hfirst.key_eq, rfl⟩

/-- The sink type of a type is that of an entry that speaks for it, or the fallback. -/
theorem mapType_cases (t : Translation) (x : String) :
    (∃ e ∈ t.entries, Speaks x e ∧ (t.mapType x).target = e.2) ∨
      (t.mapType x).target = t.fallback := by
  unfold mapType
  cases hlookup : t.lookup x with
  | none => exact Or.inr rfl
  | some target =>
      rcases exists_speaks_of_lookup hlookup with ⟨e, hmem, hspeaks, htarget⟩
      exact Or.inl ⟨e, hmem, hspeaks, htarget.symm⟩

/-! ## Inverting -/

/-- Entries that are dropped because an earlier one has their sink type are never the first ones with
any property of it. -/
theorem find?_swapped (p : String → Bool) (entries : List (String × String)) (seen : List String)
    (hseen : ∀ sink ∈ seen, p sink = false) :
    (swapped seen entries).find? (fun e => p e.1) =
      (entries.map Prod.swap).find? (fun e => p e.1) := by
  induction entries generalizing seen with
  | nil => rfl
  | cons e entries ih =>
      obtain ⟨source, sink⟩ := e
      rw [swapped, List.map_cons]
      -- A sink type with the property has not been seen, so its entry is kept and found.
      cases hp : p sink with
      | true =>
          have hnew : seen.contains sink = false := by
            rw [← Bool.not_eq_true, List.contains_iff_mem]
            intro hmem
            rw [hseen sink hmem] at hp
            cases hp
          rw [hnew, if_neg Bool.false_ne_true]
          simp [hp]
      | false =>
          have hrest := ih (sink :: seen) (List.forall_mem_cons.2 ⟨hp, hseen⟩)
          -- Whether the entry is kept or dropped, it is passed over.
          split
          · simpa [hp] using ih seen hseen
          · simpa [hp] using hrest

/-- An inverted translation answers like one that keeps all of the exchanged entries. -/
theorem lookup_invert_eq_iff_scan {found : Option String} :
    t.invert.lookup x = found ↔ Scan (t.entries.map Prod.swap) x found := by
  have hget : ∀ key name, (firstWins key (swapped [] t.entries)).get? name =
      (firstWins key (t.entries.map Prod.swap)).get? name := by
    intro key name
    rw [get?_firstWins, get?_firstWins,
      find?_swapped (fun sink => key sink == name) t.entries [] fun _ h => absurd h List.not_mem_nil]
  have hlookup : t.invert.lookup x =
      (ofEntries t.sinkEngine t.sourceEngine t.origin (t.entries.map Prod.swap)
        t.reverseFallback t.fallback (!t.inverted)).lookup x := by
    rw [lookup_eq, lookup_eq]
    exact congrArg₂ _ (hget _ _) (congrArg₂ _ (hget _ _) (hget _ _))
  rw [hlookup]
  exact lookup_eq_iff_scan

/-! ## Documents -/

/-- The entries of a document in order, as texts. -/
def Document.listed (d : Document) : List (String × String) :=
  d.mappings.map fun p => ((valueText? p.1).getD "", (valueText? p.2).getD "")

/-- An entry of the mappings is accepted if both sides are texts that are not blank. -/
theorem entry_eq_ok_iff {p : Yaml.Value × Yaml.Value} {e : String × String} :
    entry p = .ok e ↔ valueText? p.1 = some e.1 ∧ valueText? p.2 = some e.2 ∧
      Text.isBlankText e.1 = false ∧ Text.isBlankText e.2 = false := by
  unfold entry
  cases hsource : valueText? p.1 with
  | none => simp
  | some source =>
      cases hsink : valueText? p.2 with
      | none => simp
      | some sink =>
          cases hblank : Text.isBlankText source || Text.isBlankText sink with
          | true =>
              have hsome : Text.isBlankText source = true ∨ Text.isBlankText sink = true := by
                simpa using hblank
              refine iff_of_false (by simp [hblank]) ?_
              rintro ⟨hfirst, hsecond, hnot⟩
              cases hfirst
              cases hsecond
              rcases hsome with hsome | hsome <;> simp [hsome] at hnot
          | false =>
              have hnone : Text.isBlankText source = false ∧ Text.isBlankText sink = false := by
                simpa using hblank
              simp only [hblank, Bool.false_eq_true, if_false, Except.ok.injEq, Option.some_inj]
              constructor
              · rintro rfl
                exact ⟨rfl, rfl, hnone⟩
              · rintro ⟨hfirst, hsecond, -⟩
                exact Prod.ext hfirst hsecond

theorem eq_of_entry {p : Yaml.Value × Yaml.Value} {e : String × String} (h : entry p = .ok e) :
    e = ((valueText? p.1).getD "", (valueText? p.2).getD "") := by
  obtain ⟨hsource, hsink, -⟩ := entry_eq_ok_iff.1 h
  simp [hsource, hsink]

/-- A document is accepted only if its fallbacks are not blank and all of its entries are accepted,
and then it is these that the translation has. -/
theorem exists_entries_of_ofDocument {d : Document} {sourceEngine sinkEngine origin : String}
    (h : ofDocument d sourceEngine sinkEngine origin = .ok t) :
    Text.isBlankText d.fallback = false ∧ d.reverseFallback.any Text.isBlankText = false ∧
      ∃ entries, d.mappings.mapM entry = .ok entries ∧
        t = ofEntries (Engine.normalize sourceEngine) (Engine.normalize sinkEngine) origin entries
          d.fallback (d.reverseFallback.getD d.fallback) false := by
  have hdeclared := mapError_eq_ok_iff.1 h
  simp only [ofDeclaration] at hdeclared
  obtain ⟨_, -, h₁⟩ := bind_eq_ok_iff.1 hdeclared
  obtain ⟨_, -, h₂⟩ := bind_eq_ok_iff.1 h₁
  split at h₂
  · obtain ⟨_, hthrown, -⟩ := bind_eq_ok_iff.1 h₂
    cases hthrown
  · next hfallback =>
    split at h₂
    · obtain ⟨_, hthrown, -⟩ := bind_eq_ok_iff.1 h₂
      cases hthrown
    · next hreverse =>
      obtain ⟨entries, hentries, h₃⟩ := bind_eq_ok_iff.1 h₂
      exact ⟨by simpa using hfallback, by simpa using hreverse, entries, hentries,
        (Except.ok.inj h₃).symm⟩

/-- The entries of a translation are those of its document. -/
theorem entries_of_ofDocument {d : Document} {sourceEngine sinkEngine origin : String}
    (h : ofDocument d sourceEngine sinkEngine origin = .ok t) : t.entries = d.listed := by
  obtain ⟨-, -, entries, hentries, rfl⟩ := exists_entries_of_ofDocument h
  exact mapM_eq_map_of_ok (fun _ _ => eq_of_entry) hentries

/-- Inverting again and again exchanges the entries again and again. -/
theorem entries_iterate_invert (t : Translation) (n : ℕ) :
    (invert^[n] t).entries = (swapped [])^[n] t.entries := by
  induction n with
  | zero => rfl
  | succ n ih =>
      rw [Function.iterate_succ_apply', Function.iterate_succ_apply', ← ih]
      rfl

/-- The dictionaries of a translation answer for a type as a scan of its entries does, and so do
those of the inverted translation. -/
structure AnswersByScan (t : Translation) (x : String) : Prop where
  lookup_iff : ∀ found, t.lookup x = found ↔ Scan t.entries x found
  lookup_eq_none_iff : t.lookup x = none ↔ Unlisted t.entries x
  isLossy_iff : (t.mapType x).isLossy = true ↔ Unlisted t.entries x
  target_of_unlisted : Unlisted t.entries x → (t.mapType x).target = t.fallback
  mapType_of_lookup : ∀ target, t.lookup x = some target → t.mapType x = ⟨target, none⟩
  lookup_invert_iff : ∀ found,
    t.invert.lookup x = found ↔ Scan (t.entries.map Prod.swap) x found

theorem answersByScan (t : Translation) (x : String) : t.AnswersByScan x where
  lookup_iff := fun _ => lookup_eq_iff_scan
  lookup_eq_none_iff := lookup_eq_none_iff
  isLossy_iff := by
    rw [← lookup_eq_none_iff, mapType]
    cases t.lookup x with
    | none => simp [TypeMapping.isLossy]
    | some target => simp [TypeMapping.isLossy]
  target_of_unlisted := by
    intro h
    rw [mapType, lookup_eq_none_iff.2 h]
  mapType_of_lookup := by
    intro target h
    rw [mapType, h]
  lookup_invert_iff := fun _ => lookup_invert_eq_iff_scan

/-- A translation, be it declared by a document or inverted any number of times, answers by a scan of
its entries in order. -/
theorem lookup_scans (t : Translation) (n : ℕ) (x : String) :
    (∀ d sourceEngine sinkEngine origin,
        ofDocument d sourceEngine sinkEngine origin = .ok t → t.entries = d.listed) ∧
      (invert^[n] t).entries = (swapped [])^[n] t.entries ∧ (invert^[n] t).AnswersByScan x :=
  ⟨fun _ _ _ _ h => entries_of_ofDocument h, entries_iterate_invert t n, answersByScan _ x⟩

/-- Of three entries with one normal form but for parameters, the first one answers for all spellings
that are not listed. -/
example :
    let t := ofEntries "mssql" "postgres" "ints.yaml"
      [("INT", "integer"), ("int", "bigint"), ("int(8)", "smallint")] "text" "text" false
    t.lookup "int" = some "bigint" ∧ t.lookup "Int" = some "integer" ∧
      t.lookup "INT( 4 )" = some "integer" ∧ t.lookup "INT( 8 )" = some "smallint" := by
  decide +kernel

end Translation

end SchemaCrosswalk
