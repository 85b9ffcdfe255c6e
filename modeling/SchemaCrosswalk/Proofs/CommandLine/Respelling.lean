import SchemaCrosswalk.Proofs.Attachments.Isolation
import SchemaCrosswalk.Proofs.CommandLine.Answers
import SchemaCrosswalk.Proofs.Resolution.Respelling

/-!
# Respelled requests — one attachment under two spellings

The tables of a request may be named in any letter case: they are found in the snapshot, and so are
their overrides. Attachments under two spellings are resolved alike. A modification goes on with
what is kept under the very spelling that it is given, since the file of an attachment has its name
from it. So two spellings are modified alike as long as the same is kept under both, and what was
kept under one of them is not seen under the other.

* `Request.Respells`: names of the same tables in another letter case
* `Request.alike_found`: both spellings find the same tables
* `Request.SpellingsAgree`: what is alike under both spellings
* `Request.ModifiesOwn`: what each of them is modified from once one has been attached
* `Request.spellings_agree`: both for all requests
-/

namespace SchemaCrosswalk.CommandLine

variable {config : Configuration} {pair : TablePair} {files : FileTree} {now : Timestamp}
variable {source sink : String}

/-! ## Reports -/

/-- What two runs print is the same, as JSON, or else below the heading with the tables. -/
def SameReport (json : Bool) (lines lines' : List String) : Prop :=
  if json then lines = lines' else lines.tail = lines'.tail

theorem sameReport_reportLines (json apply : Bool) (directory sourceTable sinkTable : String)
    (source sink : String) (r : Resolution) (warnings : List MappingWarning) :
    SameReport json (reportLines json apply directory sourceTable sinkTable r warnings)
      (reportLines json apply directory source sink r warnings) := by
  cases json with
  | true => rfl
  | false => rfl

/-- Two executions fail alike, or both succeed and print the same report. -/
def Execution.Alike (json : Bool) (e e' : Execution) : Prop :=
  ∃ o o', e.Tells o ∧ e'.Tells o' ∧ Outcome.Alike (SameReport json) o o'

/-- An execution that did not fail because of a file. -/
def Execution.IsServed (e : Execution) : Prop := ∀ problem, e.failure ≠ some (.file problem)

/-- Executions that are alike have the same exit code. -/
theorem Execution.Alike.exitCode_eq {json : Bool} {e e' : Execution} (h : e.Alike json e') :
    e.exitCode = e'.exitCode := by
  rcases h with ⟨o, o', htells, htells', halike⟩
  cases halike with
  | ok _ => exact htells.1.trans htells'.1.symm
  | error hfault => exact htells.1.trans (hfault.exitCode_eq.trans htells'.1.symm)

namespace Request

variable {q : Request}

/-! ## What both spellings find -/

/-- The same request with other names of the tables. -/
def respelled (q : Request) (source sink : String) : Request :=
  { q with sourceTable := source, sinkTable := sink }

/-- Names in another letter case under which the snapshot has the same tables. -/
structure Respells (q : Request) (source sink : String) (files : FileTree) : Prop where
  sourceTable : Text.namesMatch q.sourceTable source = true
  sinkTable : Text.namesMatch q.sinkTable sink = true
  source_eq : ∀ s, q.snapshotIn files = .ok s →
    s.columns? q.sourceEngine source = s.columns? q.sourceEngine q.sourceTable
  sink_eq : ∀ s, q.snapshotIn files = .ok s →
    s.columns? q.sinkEngine sink = s.columns? q.sinkEngine q.sinkTable

theorem respells_iff_of_ok {s : Snapshot} (hs : q.snapshotIn files = .ok s) :
    q.Respells source sink files ↔
      (Text.namesMatch q.sourceTable source = true ∧ Text.namesMatch q.sinkTable sink = true) ∧
        s.columns? q.sourceEngine source = s.columns? q.sourceEngine q.sourceTable ∧
        s.columns? q.sinkEngine sink = s.columns? q.sinkEngine q.sinkTable := by
  constructor
  · intro h
    exact ⟨⟨h.sourceTable, h.sinkTable⟩, h.source_eq s hs, h.sink_eq s hs⟩
  · rintro ⟨⟨hsource, hsink⟩, hcolumns, hcolumns'⟩
    refine ⟨hsource, hsink, fun s' hs' => ?_, fun s' hs' => ?_⟩
    · cases hs.symm.trans hs'
      exact hcolumns
    · cases hs.symm.trans hs'
      exact hcolumns'

theorem respells_iff_of_error {fault : Fault} (hs : q.snapshotIn files = .error fault) :
    q.Respells source sink files ↔
      Text.namesMatch q.sourceTable source = true ∧ Text.namesMatch q.sinkTable sink = true := by
  constructor
  · intro h
    exact ⟨h.sourceTable, h.sinkTable⟩
  · rintro ⟨hsource, hsink⟩
    refine ⟨hsource, hsink, fun s hs' => ?_, fun s hs' => ?_⟩
    · cases hs.symm.trans hs'
    · cases hs.symm.trans hs'

instance (q : Request) (source sink : String) (files : FileTree) :
    Decidable (q.Respells source sink files) :=
  match hs : q.snapshotIn files with
  | .ok _ => decidable_of_iff _ (respells_iff_of_ok hs).symm
  | .error _ => decidable_of_iff _ (respells_iff_of_error hs).symm

theorem alike_columns {s : Snapshot} {engine table table' : String}
    (hname : Text.namesMatch table table' = true)
    (h : s.columns? engine table' = s.columns? engine table) :
    Outcome.Alike Eq (s.columns engine table) (s.columns engine table') := by
  unfold Snapshot.columns
  rw [h]
  cases s.columns? engine table with
  | none => exact .error (.unknownTable (Engine.normalize engine) hname)
  | some columns => exact .ok rfl

theorem alike_columnsOf (h : q.Respells source sink files) {s : Snapshot}
    (hs : q.snapshotIn files = .ok s) :
    Outcome.Alike Eq (q.columnsOf s) ((q.respelled source sink).columnsOf s) := by
  refine (alike_columns h.sourceTable (h.source_eq s hs)).bind_eq fun sourceColumns _ _ => ?_
  refine (alike_columns h.sinkTable (h.sink_eq s hs)).bind_eq fun sinkColumns _ _ => ?_
  exact .refl _

/-- Under both spellings a run finds the same tables, the source table by its spelling, or it fails
in the same way. -/
theorem alike_found (h : q.Respells source sink files) (now : Timestamp) :
    Outcome.Alike
      (fun found found' => found.2.sourceTable = q.sourceTable ∧
        found' = (found.1, found.2.respelled source))
      (q.found files now) ((q.respelled source sink).found files now) := by
  rw [found_eq, found_eq]
  refine Outcome.Alike.bind_same fun config hconfig => ?_
  refine Outcome.Alike.bind_same fun s hsnapshot => ?_
  have hs : q.snapshotIn files = .ok s := by
    unfold snapshotIn
    rw [hconfig]
    exact hsnapshot
  -- The checker is that of the engines and the service, which the spelling leaves alone.
  refine (alike_columnsOf h hs).bind_eq fun columns _ _ => ?_
  have hchecker : (q.respelled source sink).checkerIn config files now =
      q.checkerIn config files now := rfl
  rw [hchecker]
  refine Outcome.Alike.bind_same fun checker _ => ?_
  exact .ok ⟨rfl, rfl⟩

theorem found_respelled (h : q.Respells source sink files)
    (hfound : q.found files now = .ok (config, pair)) :
    (q.respelled source sink).found files now = .ok (config, pair.respelled source) := by
  have halike := alike_found h now
  rw [hfound] at halike
  rcases halike.exists_ok with ⟨found, hother, -, hsame⟩
  rw [hother, hsame]

/-- The attachments of both spellings. -/
theorem matches_keyOf (h : q.Respells source sink files)
    (hsource : pair.sourceTable = q.sourceTable) :
    (keyOf q.sinkTable pair).Matches (keyOf sink (pair.respelled source)) where
  sourceTable := by
    simpa [keyOf, TablePair.respelled, hsource] using h.sourceTable
  sinkEngine := rfl
  sinkTable := h.sinkTable

/-! ## What both spellings come to -/

theorem alike_resolved_attach (h : q.Respells source sink files)
    (mappings : List ExplicitMapping) (now : Timestamp) :
    Outcome.Alike Eq (q.resolved mappings false files now)
      ((q.respelled source sink).resolved mappings false files now) := by
  refine (alike_found h now).bind ?_
  rintro ⟨config, pair⟩ _ - - ⟨hsource, rfl⟩
  exact Resolution.alike_resolveForAttach (hsource ▸ h.sourceTable) mappings

/-- All that a modification depends on beside the tables are the mappings it goes on with. -/
theorem alike_resolved_modify (h : q.Respells source sink files)
    (hpersisted : Outcome.Alike Eq (q.persisted files now)
      ((q.respelled source sink).persisted files now)) (mappings : List ExplicitMapping) :
    Outcome.Alike Eq (q.resolved mappings true files now)
      ((q.respelled source sink).resolved mappings true files now) := by
  refine (alike_found h now).bind ?_
  rintro ⟨config, pair⟩ _ hfound hfound' ⟨hsource, rfl⟩
  unfold persisted at hpersisted
  rw [hfound, hfound'] at hpersisted
  refine hpersisted.bind_eq fun existing _ _ => ?_
  exact .of_eq (Resolution.resolveForModify_respelled (hsource ▸ h.sourceTable) _).symm

/-- Mappings of an attachment that can have a file are kept, unless it is the files that fail. -/
theorem kept_of_path {s : AttachmentStore} {k : AttachmentKey} {path : String}
    (hpath : s.path k = .ok path) {mappings : Dictionary String} {w : Workspace}
    (hfiles : ∀ problem, ((s.persist k mappings).runOn w).1 ≠ .error (.file problem)) :
    ((s.persist k mappings).runOn w).1 = .ok () := by
  have hplain := (AttachmentStore.path_eq_ok_iff.1 hpath).1
  rw [AttachmentStore.runOn_persist hplain] at hfiles ⊢
  simp only at hfiles ⊢
  cases houtcome : (s.format.persist w.files s.directory
      (Path.join s.directory (AttachmentStore.fileName k)) ⟨k, some w.now, mappings⟩).2 with
  | ok done => rfl
  | error fault =>
      rcases DocumentFormat.exists_problem_of_persist houtcome with ⟨problem, rfl⟩
      exact absurd houtcome (hfiles problem)

/-- Mappings can be kept under both spellings or under none, unless it is the files that fail. -/
theorem alike_persist {k k' : AttachmentKey} (s : AttachmentStore) (h : k.Matches k')
    (mappings : Dictionary String) (w : Workspace)
    (hfiles : ∀ problem, ((s.persist k mappings).runOn w).1 ≠ .error (.file problem))
    (hfiles' : ∀ problem, ((s.persist k' mappings).runOn w).1 ≠ .error (.file problem)) :
    Outcome.Alike Eq ((s.persist k mappings).runOn w).1 ((s.persist k' mappings).runOn w).1 := by
  have hpath := s.alike_path h
  generalize ho : s.path k = o at hpath
  generalize ho' : s.path k' = o' at hpath
  cases hpath with
  | ok _ =>
      rw [kept_of_path ho hfiles, kept_of_path ho' hfiles']
      exact .refl _
  | error hfault =>
      rw [AttachmentStore.runOn_persist_of_refused ho, AttachmentStore.runOn_persist_of_refused ho']
      exact .error hfault

/-! ## What both spellings print -/

theorem alike_concluded (h : q.Respells source sink files)
    (hsource : pair.sourceTable = q.sourceTable) {apply : Bool}
    {result : Resolution × List MappingWarning}
    (hfiles : apply = true → ∀ problem,
      q.concluded apply files now config pair result ≠ .error (.file problem))
    (hfiles' : apply = true → ∀ problem,
      (q.respelled source sink).concluded apply files now config (pair.respelled source) result ≠
        .error (.file problem)) :
    Outcome.Alike (SameReport q.outputJson) (q.concluded apply files now config pair result)
      ((q.respelled source sink).concluded apply files now config (pair.respelled source)
        result) := by
  cases apply with
  | false => exact .ok (sameReport_reportLines _ _ _ _ _ _ _ _ _)
  | true =>
      have hkept := alike_persist (storeOf config) (matches_keyOf h hsource) result.1.applied
        { files, now } (fun problem hproblem => hfiles rfl problem (concluded_of_error hproblem))
        fun problem hproblem => hfiles' rfl problem (concluded_of_error hproblem)
      exact hkept.bind_eq fun _ _ _ => .ok (sameReport_reportLines _ _ _ _ _ _ _ _ _)

theorem alike_answer (h : q.Respells source sink files) {mappings : List ExplicitMapping}
    {modify apply : Bool}
    (hresolved : Outcome.Alike Eq (q.resolved mappings modify files now)
      ((q.respelled source sink).resolved mappings modify files now))
    (hfiles : apply = true → ∀ problem,
      q.answer mappings modify apply files now ≠ .error (.file problem))
    (hfiles' : apply = true → ∀ problem,
      (q.respelled source sink).answer mappings modify apply files now ≠ .error (.file problem)) :
    Outcome.Alike (SameReport q.outputJson) (q.answer mappings modify apply files now)
      ((q.respelled source sink).answer mappings modify apply files now) := by
  unfold resolved at hresolved
  unfold answer
  refine (alike_found h now).bind ?_
  rintro ⟨config, pair⟩ _ hfound hfound' ⟨hsource, rfl⟩
  rw [hfound, hfound'] at hresolved
  -- From here on both runs have one resolution, and they differ in where it is kept.
  refine hresolved.bind_eq fun result hresult hresult' => alike_concluded h hsource ?_ ?_
  · rw [← answer_of_resolutionIn hfound hresult]
    exact hfiles
  · rw [← answer_of_resolutionIn hfound' hresult']
    exact hfiles'

theorem alike_execute (h : q.Respells source sink files) {mappings : List ExplicitMapping}
    {modify apply : Bool}
    (hresolved : Outcome.Alike Eq (q.resolved mappings modify files now)
      ((q.respelled source sink).resolved mappings modify files now))
    (hfiles : apply = true → ((q.run mappings modify apply).execute files now).IsServed ∧
      (((q.respelled source sink).run mappings modify apply).execute files now).IsServed) :
    ((q.run mappings modify apply).execute files now).Alike q.outputJson
      (((q.respelled source sink).run mappings modify apply).execute files now) := by
  have htells := q.tells_execute mappings modify apply files now
  have htells' := (q.respelled source sink).tells_execute mappings modify apply files now
  refine ⟨_, _, htells, htells', alike_answer h hresolved ?_ ?_⟩
  · intro happly problem hproblem
    rw [hproblem] at htells
    exact (hfiles happly).1 problem htells.2.1
  · intro happly problem hproblem
    rw [hproblem] at htells'
    exact (hfiles happly).2 problem htells'.2.1

/-- What is alike of two requests: how they attach, how they modify what is kept alike, and what
their runs print, unless it is the files that fail when mappings are kept. -/
structure SpellingsAgree (q q' : Request) (files : FileTree) (now : Timestamp) : Prop where
  -- what they come to
  attach : ∀ mappings, Outcome.Alike Eq (q.resolved mappings false files now)
    (q'.resolved mappings false files now)
  modify : Outcome.Alike Eq (q.persisted files now) (q'.persisted files now) → ∀ mappings,
    Outcome.Alike Eq (q.resolved mappings true files now) (q'.resolved mappings true files now)
  -- what they print, or how they fail
  execute : ∀ mappings modify apply, Outcome.Alike Eq (q.resolved mappings modify files now)
      (q'.resolved mappings modify files now) →
    (apply = true → ((q.run mappings modify apply).execute files now).IsServed ∧
      ((q'.run mappings modify apply).execute files now).IsServed) →
    ((q.run mappings modify apply).execute files now).Alike q.outputJson
      ((q'.run mappings modify apply).execute files now)

/-! ## One spelling that is attached -/

/-- The tables have been attached under one spelling, and both spellings find them again. The
attachment under the other spelling has another file, with what was kept there before. -/
structure AttachedApart (q : Request) (source sink : String) (mappings : List ExplicitMapping)
    (files : FileTree) (now later : Timestamp) (config : Configuration) (pair : TablePair)
    (held : Option AttachmentStore.Keep) : Prop where
  found : q.found files now = .ok (config, pair)
  attached : ((q.attach mappings).execute files now).exitCode = 0
  again : q.found ((q.attach mappings).execute files now).files later = .ok (config, pair)
  respells : q.Respells source sink ((q.attach mappings).execute files now).files
  holds : (storeOf config).Holds files (keyOf sink (pair.respelled source)) held
  apart : AttachmentStore.fileName (keyOf q.sinkTable pair) ≠
    AttachmentStore.fileName (keyOf sink (pair.respelled source))

variable {mappings : List ExplicitMapping} {later : Timestamp}
variable {held : Option AttachmentStore.Keep}

theorem sourceTable_of_found (h : q.found files now = .ok (config, pair)) :
    pair.sourceTable = q.sourceTable := by
  rw [found_eq] at h
  rcases bind_eq_ok_iff.1 h with ⟨config, -, hconfig⟩
  rcases bind_eq_ok_iff.1 hconfig with ⟨s, -, hs⟩
  rcases bind_eq_ok_iff.1 hs with ⟨columns, -, hcolumns⟩
  rcases bind_eq_ok_iff.1 hcolumns with ⟨checker, -, hpure⟩
  cases hpure
  rfl

/-- A modification puts new mappings over those that it loads. -/
theorem resolved_modify (hfound : q.found files now = .ok (config, pair))
    {existing : Option AttachmentDocument}
    (hload : (storeOf config).load? files (keyOf q.sinkTable pair) = .ok existing)
    (new : List ExplicitMapping) :
    q.resolved new true files now = Resolution.resolveForModify pair
      (mergeMappings ((existing.map (·.explicitMappings)).getD []) new) := by
  unfold resolved resolutionIn persistedIn
  rw [hfound]
  show ((storeOf config).load? files (keyOf q.sinkTable pair) >>= _) >>= _ = _
  rw [hload]
  rfl

/-- After an attachment under one spelling, each spelling is modified from what is kept under itself.
Where the other spelling has nothing, both are modified alike only if nothing was applied. -/
structure ModifiesOwn (q q' : Request) (pair : TablePair) (kept : AttachmentDocument)
    (held : Option AttachmentDocument) (files : FileTree) (later : Timestamp) : Prop where
  own : ∀ new, q.resolved new true files later =
    Resolution.resolveForModify pair (mergeMappings kept.explicitMappings new)
  other : ∀ new, q'.resolved new true files later =
    Resolution.resolveForModify pair
      (mergeMappings ((held.map (·.explicitMappings)).getD []) new)
  alike_iff : held = none → (Outcome.Alike Eq (q.resolved [] true files later)
    (q'.resolved [] true files later) ↔ kept.mappings = Dictionary.empty)

/-- What an attachment under one spelling leaves to be loaded: its own mappings under this spelling,
and what was there before under the other one. -/
theorem loads_of_attachedApart (h : q.AttachedApart source sink mappings files now later config pair
      held)
    (hreads : ∀ r, Resolution.resolve pair mappings = .ok r →
      AttachmentDocument.format.ReadsBack ⟨keyOf q.sinkTable pair, some now, r.applied⟩)
    (hheld : ∀ k ∈ held, AttachmentDocument.format.ReadsBack k.document) :
    ∃ r, Resolution.resolveForAttach pair mappings = .ok (r, []) ∧
      (storeOf config).load? ((q.attach mappings).execute files now).files
          (keyOf q.sinkTable pair) = .ok (some ⟨keyOf q.sinkTable pair, some now, r.applied⟩) ∧
      (storeOf config).load? ((q.attach mappings).execute files now).files
          (keyOf sink (pair.respelled source)) =
        .ok (held.map AttachmentStore.Keep.document) := by
  rcases exists_persist_of_attach h.found h.attached with
    ⟨r, warnings, w, w', hattach, rfl, rfl, hkeep, hfiles⟩
  rcases Resolution.resolveForAttach_eq_ok_iff.1 hattach with ⟨hresolve, -, hnone⟩
  rw [hnone] at hattach
  rw [← hfiles]
  -- The attachment changed one file only, and the other spelling has another one.
  have hmatches := matches_keyOf h.respells (sourceTable_of_found h.found)
  have hplain := hmatches.isPlain (AttachmentStore.isPlain_of_persist hkeep)
  have hheld' := AttachmentStore.holds_persist hplain h.holds
    (q := ⟨w.now, keyOf q.sinkTable pair, r.applied⟩) hkeep
  rw [if_neg h.apart] at hheld'
  exact ⟨r, hattach, AttachmentStore.load?_of_runOn_persist hkeep (hreads r hresolve),
    AttachmentStore.load?_of_holds hplain hheld hheld'⟩

/-- A modification without new mappings of what was applied comes to the same resolution as one of
nothing only if nothing was applied. -/
theorem alike_modify_iff {explicit : List ExplicitMapping} {r : Resolution}
    (hresolve : Resolution.resolve pair explicit = .ok r) (key : AttachmentKey)
    (time : Option Timestamp) :
    Outcome.Alike Eq
        (Resolution.resolveForModify pair
          (mergeMappings (AttachmentDocument.explicitMappings ⟨key, time, r.applied⟩) []))
        (Resolution.resolveForModify pair (mergeMappings [] [])) ↔
      r.applied = Dictionary.empty := by
  have hpersisted := Resolution.resolve_persisted hresolve key time
  have hmodify := Resolution.resolveForModify_eq_ok_iff.2 ⟨hpersisted, rfl⟩
  constructor
  · intro halike
    rw [hmodify] at halike
    have hsame := (Resolution.resolveForModify_eq_ok_iff.1 halike.eq_ok).1
    have hnone : pair.explicitMappings (mergeMappings [] []) = .ok Dictionary.empty := rfl
    have happlied := Resolution.explicitMappings_of_resolve hsame
    rw [hnone] at happlied
    exact (Except.ok.inj happlied).symm
  · intro hempty
    rw [hempty]
    exact .refl _

theorem modifiesOwn_of_attachedApart
    (h : q.AttachedApart source sink mappings files now later config pair held)
    (hreads : ∀ r, Resolution.resolve pair mappings = .ok r →
      AttachmentDocument.format.ReadsBack ⟨keyOf q.sinkTable pair, some now, r.applied⟩)
    (hheld : ∀ k ∈ held, AttachmentDocument.format.ReadsBack k.document) :
    ∃ r, q.resolved mappings false files now = .ok (r, []) ∧
      q.ModifiesOwn (q.respelled source sink) pair
        ⟨keyOf q.sinkTable pair, some now, r.applied⟩ (held.map AttachmentStore.Keep.document)
        ((q.attach mappings).execute files now).files later := by
  rcases loads_of_attachedApart h hreads hheld with ⟨r, hattach, hload, hload'⟩
  have hresolve := Resolution.resolveForAttach_eq_ok hattach
  have hresolved : q.resolved mappings false files now = .ok (r, []) := by
    unfold resolved
    rw [h.found]
    exact hattach
  have hsource := sourceTable_of_found h.found
  have hother := found_respelled h.respells h.again
  have hagain := h.again
  have hname : Text.namesMatch pair.sourceTable source = true := hsource ▸ h.respells.sourceTable
  -- How the files came about is told by the four facts, so they can be any files from here on.
  generalize ((q.attach mappings).execute files now).files = left at hload hload' hother hagain ⊢
  have hown := resolved_modify hagain hload
  have hmodify : ∀ new, (q.respelled source sink).resolved new true left later =
      Resolution.resolveForModify pair (mergeMappings
        (((held.map AttachmentStore.Keep.document).map (·.explicitMappings)).getD []) new) :=
    fun new => (resolved_modify hother hload' new).trans
      (Resolution.resolveForModify_respelled hname _)
  refine ⟨r, hresolved, hown, hmodify, fun hnone => ?_⟩
  rw [hown, hmodify, hnone]
  exact alike_modify_iff hresolve _ _

/-- Two spellings of the tables are attached alike, and modified alike where the same is kept under
both. Once one of them has been attached, a modification of the other does not go on with it but
with what was kept under the other one before. -/
theorem spellings_agree (h : q.Respells source sink files) (now : Timestamp) :
    q.SpellingsAgree (q.respelled source sink) files now ∧
      ∀ (mappings : List ExplicitMapping) (later : Timestamp) (config : Configuration)
        (pair : TablePair) (held : Option AttachmentStore.Keep),
        q.AttachedApart source sink mappings files now later config pair held →
        (∀ r, Resolution.resolve pair mappings = .ok r →
          AttachmentDocument.format.ReadsBack ⟨keyOf q.sinkTable pair, some now, r.applied⟩) →
        (∀ k ∈ held, AttachmentDocument.format.ReadsBack k.document) →
          ∃ r, q.resolved mappings false files now = .ok (r, []) ∧
            q.ModifiesOwn (q.respelled source sink) pair
              ⟨keyOf q.sinkTable pair, some now, r.applied⟩
              (held.map AttachmentStore.Keep.document)
              ((q.attach mappings).execute files now).files later := by
  constructor
  · exact ⟨fun mappings => alike_resolved_attach h mappings now,
      fun hpersisted => alike_resolved_modify h hpersisted,
      fun mappings modify apply hresolved => alike_execute h hresolved⟩
  · intro mappings later config pair held hapart hreads hheld
    exact modifiesOwn_of_attachedApart hapart hreads hheld

end Request

/-! ## People whose tables are named otherwise -/

/-- The people are resolved once more, as a modification without new mappings. -/
def peopleModified (source sink : String) : Execution :=
  ((peopleRequest.respelled source sink).run [] true false).execute peopleAttached.files
    ⟨20001, 0, 0⟩

/-- What the people are resolved from and what is printed of them, before they are attached, then,
and later. All of it is computed together, since every run starts with the same files. -/
theorem runs_people :
    ((peopleRequest.found peopleFiles ⟨20000, 0, 0⟩).toOption =
        some (peopleConfiguration, peopleTables) ∧
      peopleRequest.Respells "PEOPLE" "Contacts" peopleFiles ∧
      DocumentFormat.IsVacant peopleFiles "mappings" "PEOPLE__crm.Contacts.yaml") ∧
    (peopleAttached.exitCode = 0 ∧
      (peopleRequest.found peopleAttached.files ⟨20001, 0, 0⟩).toOption =
        some (peopleConfiguration, peopleTables) ∧
      peopleRequest.Respells "PEOPLE" "Contacts" peopleAttached.files) ∧
    (peopleModified "people" "contacts").output =
        "people → contacts\n  Name → Label (explicit)\n  Valid: true\n" ∧
      (peopleModified "PEOPLE" "Contacts").output = "PEOPLE → Contacts\n  Valid: true\n" := by
  decide +kernel

theorem attachedApart_people :
    peopleRequest.AttachedApart "PEOPLE" "Contacts" peopleMappings peopleFiles ⟨20000, 0, 0⟩
      ⟨20001, 0, 0⟩ peopleConfiguration peopleTables none := by
  rcases runs_people with ⟨⟨hfound, -, hvacant⟩, ⟨hok, hagain, hrespells⟩, -⟩
  exact {
    found := eq_ok_of_toOption hfound
    attached := hok
    again := eq_ok_of_toOption hagain
    respells := hrespells
    holds := hvacant
    apart := by decide }

theorem spellings_agree_people :
    peopleRequest.SpellingsAgree (peopleRequest.respelled "PEOPLE" "Contacts") peopleFiles
        ⟨20000, 0, 0⟩ ∧
      ∃ r, peopleRequest.resolved peopleMappings false peopleFiles ⟨20000, 0, 0⟩ = .ok (r, []) ∧
        peopleRequest.ModifiesOwn (peopleRequest.respelled "PEOPLE" "Contacts") peopleTables
          ⟨⟨"people", "crm", "contacts"⟩, some ⟨20000, 0, 0⟩, r.applied⟩ none
          peopleAttached.files ⟨20001, 0, 0⟩ := by
  have hreads : ∀ r, Resolution.resolve peopleTables peopleMappings = .ok r →
      AttachmentDocument.format.ReadsBack
        ⟨keyOf peopleRequest.sinkTable peopleTables, some ⟨20000, 0, 0⟩, r.applied⟩ := by
    intro r hr
    cases resolve_people.symm.trans hr
    exact readsBack_people _ List.mem_cons_self
  have hrespells : peopleRequest.Respells "PEOPLE" "Contacts" peopleFiles := runs_people.1.2.1
  have hagree := Request.spellings_agree hrespells ⟨20000, 0, 0⟩
  exact ⟨hagree.1, hagree.2 peopleMappings ⟨20001, 0, 0⟩ peopleConfiguration peopleTables none
    attachedApart_people hreads (by simp)⟩

/-- The mapping that was kept is found under the spelling of the attachment only. -/
theorem other_spelling_is_modified_anew :
    peopleRequest.Respells "PEOPLE" "Contacts" peopleAttached.files ∧
      peopleAttached.exitCode = 0 ∧
      (peopleModified "people" "contacts").output =
        "people → contacts\n  Name → Label (explicit)\n  Valid: true\n" ∧
      (peopleModified "PEOPLE" "Contacts").output = "PEOPLE → Contacts\n  Valid: true\n" := by
  rcases runs_people with ⟨-, ⟨hok, -, hrespells⟩, houtputs⟩
  exact ⟨hrespells, hok, houtputs⟩

end SchemaCrosswalk.CommandLine
