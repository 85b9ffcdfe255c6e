import Mathlib.Data.List.Infix
import SchemaCrosswalk.Proofs.Attachments.Documents

/-!
# Isolation — which document an attachment is loaded from

The document of an attachment lies in a file whose name is made of the three names of the
attachment. Two attachments have one file if their names make one text, and then the document that
was kept last is loaded for both. An attachment is kept apart from all others as long as nothing
else was kept in its file since, which is so where the names can be told apart in the text.

* `AttachmentStore.keepAll`: mappings that are kept one after the other
* `AttachmentStore.load?_of_keepAll`: the last document in the file of an attachment is loaded
* `AttachmentStore.fileName_inj_of_separable`: names that can be told apart in a file name
* `AttachmentStore.loads_own_iff`: when an attachment is loaded with its own mappings
-/

namespace SchemaCrosswalk

/-! ## Names that can be told apart -/

/-- The names of an attachment can be told apart in the name of its file: the source table ends
where two underscores come first, and the sink engine at the first dot after them. -/
structure AttachmentKey.IsSeparable (k : AttachmentKey) : Prop where
  sourceTable : ¬ ['_', '_'] <:+: k.sourceTable.toList ++ ['_']
  sinkEngine : '.' ∉ k.sinkEngine.toList

namespace AttachmentStore

variable {s : AttachmentStore} {k : AttachmentKey} {path : String}

section

variable {mark cs cs' rest rest' : List Char}

/-- A mark that stands first behind a text does not begin inside of that text. -/
theorem length_le_of_append_mark (hmark : mark ≠ []) (hcs' : ¬ mark <:+: cs' ++ mark.dropLast)
    (h : cs ++ (mark ++ rest) = cs' ++ (mark ++ rest')) : cs'.length ≤ cs.length := by
  by_contra hlonger
  have hwhole : mark.dropLast ++ [mark.getLast hmark] = mark := List.dropLast_append_getLast hmark
  have hlength : mark.dropLast.length + 1 = mark.length := by
    have hlengths := congrArg List.length hwhole
    simpa using hlengths
  -- Both texts begin the same one, so the shorter begins the longer.
  have hbegins : cs ++ mark <+: cs' ++ (mark ++ rest') := ⟨rest, by rw [List.append_assoc, h]⟩
  have hbegins' : cs' ++ mark.dropLast <+: cs' ++ (mark ++ rest') := by
    refine ⟨[mark.getLast hmark] ++ rest', ?_⟩
    rw [List.append_assoc, ← List.append_assoc mark.dropLast, hwhole]
  have hshorter : (cs ++ mark).length ≤ (cs' ++ mark.dropLast).length := by
    rw [List.length_append, List.length_append]
    omega
  have hprefix : cs ++ mark <+: cs' ++ mark.dropLast :=
    List.prefix_of_prefix_length_le hbegins hbegins' hshorter
  exact hcs' ((List.suffix_append cs mark).isInfix.trans hprefix.isInfix)

/-- A text is cut in one way only at the first occurrence of a mark. -/
theorem append_mark_inj (hmark : mark ≠ []) (hcs : ¬ mark <:+: cs ++ mark.dropLast)
    (hcs' : ¬ mark <:+: cs' ++ mark.dropLast)
    (h : cs ++ (mark ++ rest) = cs' ++ (mark ++ rest')) : cs = cs' ∧ rest = rest' := by
  have hlength : cs.length = cs'.length :=
    Nat.le_antisymm (length_le_of_append_mark hmark hcs h.symm)
      (length_le_of_append_mark hmark hcs' h)
  rcases List.append_inj h hlength with ⟨hbefore, hafter⟩
  exact ⟨hbefore, List.append_cancel_left hafter⟩

end

/-- Attachments whose names can be told apart have files of their own. -/
theorem fileName_inj_of_separable {k k' : AttachmentKey} (hk : k.IsSeparable)
    (hk' : k'.IsSeparable) (h : fileName k = fileName k') : k = k' := by
  rcases k with ⟨source, engine, sink⟩
  rcases k' with ⟨source', engine', sink'⟩
  have hchars : source.toList ++ (['_', '_'] ++ (engine.toList ++ (['.'] ++ sink.toList))) =
      source'.toList ++ (['_', '_'] ++ (engine'.toList ++ (['.'] ++ sink'.toList))) := by
    rw [fileName_eq_stem_append, fileName_eq_stem_append, String.append_left_inj] at h
    have hstem := congrArg String.toList h
    simpa [stem] using hstem
  have hengine : ∀ {name : String}, '.' ∉ name.toList →
      ¬ ['.'] <:+: name.toList ++ ['.'].dropLast := by
    intro name hname hinfix
    exact hname (by simpa using hinfix.subset List.mem_cons_self)
  -- The first mark ends the source table, the next one the sink engine.
  rcases append_mark_inj (by simp) hk.sourceTable hk'.sourceTable hchars with ⟨hsource, hrest⟩
  rcases append_mark_inj (by simp) (hengine hk.sinkEngine) (hengine hk'.sinkEngine) hrest with
    ⟨hengines, hsink⟩
  rw [AttachmentKey.mk.injEq]
  exact ⟨String.toList_inj.1 hsource, String.toList_inj.1 hengines, String.toList_inj.1 hsink⟩

/-! ## Documents that are kept -/

/-- New mappings of an attachment, kept at a time. -/
structure Keep where
  time : Timestamp
  key : AttachmentKey
  mappings : Dictionary String

/-- The document that is kept. -/
def Keep.document (q : Keep) : AttachmentDocument := ⟨q.key, some q.time, q.mappings⟩

variable {q : Keep} {qs : List Keep} {w w' w'' : Workspace}

/-- The workspace after mappings have been kept one after the other, if none of them fails. -/
def keepAll (s : AttachmentStore) (w : Workspace) : List Keep → Option Workspace
  | [] => some w
  | q :: qs =>
      match (s.persist q.key q.mappings).runOn (w.at q.time) with
      | (.ok (), w') => keepAll s w' qs
      | (.error _, _) => none

theorem keepAll_cons_eq_some_iff :
    s.keepAll w (q :: qs) = some w'' ↔
      ∃ w', (s.persist q.key q.mappings).runOn (w.at q.time) = (.ok (), w') ∧
        s.keepAll w' qs = some w'' := by
  rw [keepAll]
  rcases (s.persist q.key q.mappings).runOn (w.at q.time) with ⟨fault | ⟨⟩, w'⟩
  · simp
  · simp

/-- The last document that was kept in the file of an attachment. -/
def lastInFile (qs : List Keep) (k : AttachmentKey) : Option Keep :=
  (qs.filter fun q => fileName q.key == fileName k).getLast?

/-- The last document that was kept for an attachment. -/
def lastOf (qs : List Keep) (k : AttachmentKey) : Option Keep :=
  (qs.filter fun q => q.key == k).getLast?

/-- What the file of an attachment holds: a document, or nothing so far. -/
def Holds (s : AttachmentStore) (files : FileTree) (k : AttachmentKey) : Option Keep → Prop
  | some q => files.read (Path.join s.directory (fileName k)) = .ok (s.format.print q.document)
  | none => DocumentFormat.IsVacant files s.directory (fileName k)

theorem holds_none (h : DocumentFormat.IsVacant w.files s.directory (fileName k)) :
    s.Holds w.files k none :=
  h

theorem load?_of_holds (hplain : k.IsPlain) {held : Option Keep}
    (hreads : ∀ q ∈ held, s.format.ReadsBack q.document) (h : s.Holds w.files k held) :
    s.load? w.files k = .ok (held.map Keep.document) := by
  cases held with
  | none =>
      rw [load?_eq hplain]
      exact DocumentFormat.load?_of_isVacant (isFileName_fileName hplain) h
  | some q => exact load?_of_read hplain (hreads q rfl) h

/-- Keeping mappings changes what is in the file of the attachment and in no other file. -/
theorem holds_persist (hplain : k.IsPlain) {held : Option Keep} (h : s.Holds w.files k held)
    (hkeep : (s.persist q.key q.mappings).runOn (w.at q.time) = (.ok (), w')) :
    s.Holds w'.files k (if fileName q.key = fileName k then some q else held) := by
  have hpersist := persist_of_runOn hkeep
  have hname := isFileName_fileName (isPlain_of_persist hkeep)
  by_cases hfile : fileName q.key = fileName k
  · rw [if_pos hfile]
    have hread := DocumentFormat.read_persist hname hpersist
    rw [hfile] at hread
    exact hread
  · rw [if_neg hfile]
    cases held with
    | none =>
        exact DocumentFormat.isVacant_persist_of_ne hname hpersist (Ne.symm hfile)
          (fileName_ne_draftName k q.key) h
    | some held =>
        exact DocumentFormat.read_persist_of_ne hname hpersist (Ne.symm hfile)
          (fileName_ne_draftName k q.key) (isFileName_fileName hplain) h

theorem lastInFile_cons (q : Keep) (qs : List Keep) (k : AttachmentKey) :
    lastInFile (q :: qs) k =
      (lastInFile qs k).or (if fileName q.key = fileName k then some q else none) := by
  unfold lastInFile
  by_cases hfile : fileName q.key = fileName k
  · rw [if_pos hfile, List.filter_cons_of_pos (by simp [hfile]), List.getLast?_cons]
    cases (qs.filter fun q => fileName q.key == fileName k).getLast? <;> rfl
  · rw [if_neg hfile, List.filter_cons_of_neg (by simp [hfile]), Option.or_none]

/-- After a run the file of an attachment holds the last document that was kept in it. -/
theorem holds_of_keepAll (hplain : k.IsPlain) :
    ∀ {qs : List Keep} {w : Workspace} {held : Option Keep}, s.keepAll w qs = some w' →
      s.Holds w.files k held → s.Holds w'.files k ((lastInFile qs k).or held) := by
  intro qs
  induction qs with
  | nil =>
      intro w held hrun hheld
      cases hrun
      exact hheld
  | cons q qs ih =>
      intro w held hrun hheld
      rcases keepAll_cons_eq_some_iff.1 hrun with ⟨w₁, hkeep, hrest⟩
      have hfirst := holds_persist hplain hheld hkeep
      have hall := ih hrest hfirst
      rw [lastInFile_cons, Option.or_assoc]
      -- What the first document leaves in the file is what the rest of the run starts with.
      by_cases hfile : fileName q.key = fileName k
      · rw [if_pos hfile] at hall ⊢
        exact hall
      · rw [if_neg hfile] at hall ⊢
        exact hall

/-! ## Attachments that are loaded with their own mappings -/

/-- An attachment is loaded with the mappings that were kept for it last, or has none if nothing was
kept for it. -/
def LoadsOwn (s : AttachmentStore) (files : FileTree) (qs : List Keep) (k : AttachmentKey) : Prop :=
  s.load? files k = .ok ((lastOf qs k).map Keep.document)

theorem mem_of_lastInFile (h : lastInFile qs k = some q) :
    q ∈ qs ∧ fileName q.key = fileName k := by
  have hmem := List.mem_filter.1 (List.mem_of_getLast? h)
  exact ⟨hmem.1, by simpa using hmem.2⟩

/-- The last document in the file of an attachment is its own exactly if it was kept for it. -/
theorem map_document_lastInFile_eq_iff :
    (lastInFile qs k).map Keep.document = (lastOf qs k).map Keep.document ↔
      ∀ q, lastInFile qs k = some q → q.key = k := by
  have hfilter : qs.filter (fun q => q.key == k) =
      (qs.filter fun q => fileName q.key == fileName k).filter fun q => q.key == k := by
    rw [List.filter_filter]
    refine List.filter_congr fun q _ => ?_
    by_cases hkey : q.key = k
    · simp [hkey]
    · simp [hkey]
  constructor
  · intro heq q hlast
    rw [hlast, Option.map_some] at heq
    rcases Option.map_eq_some_iff.1 heq.symm with ⟨own, hown, hdocument⟩
    have hkey : own.key = k := by
      have hmem := (List.mem_filter.1 (List.mem_of_getLast? hown)).2
      simpa using hmem
    have hkeys : own.key = q.key := congrArg AttachmentDocument.key hdocument
    rw [← hkeys, hkey]
  · intro hall
    congr 1
    unfold lastOf
    rw [hfilter]
    cases hlast : lastInFile qs k with
    | none =>
        have hempty := List.getLast?_eq_none_iff.1 hlast
        rw [hempty]
        rfl
    | some q =>
        -- The last document in the file passes the filter, so it is still the last one.
        rcases List.getLast?_eq_some_iff.1 hlast with ⟨before, hbefore⟩
        rw [hbefore, List.filter_append]
        simp [hall q hlast]

/-- After a run an attachment is loaded with the last document that was kept in its file. -/
theorem load?_of_keepAll (hplain : k.IsPlain)
    (hvacant : DocumentFormat.IsVacant w.files s.directory (fileName k))
    (hrun : s.keepAll w qs = some w') (hreads : ∀ q ∈ qs, s.format.ReadsBack q.document) :
    s.load? w'.files k = .ok ((lastInFile qs k).map Keep.document) := by
  have hheld := holds_of_keepAll hplain hrun (holds_none hvacant)
  rw [Option.or_none] at hheld
  refine load?_of_holds hplain ?_ hheld
  intro q hq
  exact hreads q (mem_of_lastInFile hq).1

/-- After a run an attachment is loaded with its own mappings exactly if nothing else was kept in
its file last. This is so for attachments whose names can be told apart, and keeping more mappings
does not change what is loaded for an attachment with another file. -/
theorem loads_own_iff (hpath : s.path k = .ok path)
    (hvacant : DocumentFormat.IsVacant w.files s.directory (fileName k))
    (hrun : s.keepAll w qs = some w') (hreads : ∀ q ∈ qs, s.format.ReadsBack q.document) :
    (s.LoadsOwn w'.files qs k ↔ ∀ q, lastInFile qs k = some q → q.key = k) ∧
      (k.IsSeparable → (∀ q ∈ qs, q.key.IsSeparable) → s.LoadsOwn w'.files qs k) ∧
      ∀ (q : Keep) (w'' : Workspace),
        (s.persist q.key q.mappings).runOn (w'.at q.time) = (.ok (), w'') →
          fileName q.key ≠ fileName k → s.load? w''.files k = s.load? w'.files k := by
  have hplain : k.IsPlain := (path_eq_ok_iff.1 hpath).1
  have hload := load?_of_keepAll hplain hvacant hrun hreads
  have hiff : s.LoadsOwn w'.files qs k ↔ ∀ q, lastInFile qs k = some q → q.key = k := by
    unfold LoadsOwn
    rw [hload, Except.ok.injEq]
    exact map_document_lastInFile_eq_iff
  refine ⟨hiff, ?_, ?_⟩
  · intro hk hall
    refine hiff.2 fun q hlast => ?_
    rcases mem_of_lastInFile hlast with ⟨hmem, hfile⟩
    exact fileName_inj_of_separable (hall q hmem) hk hfile
  · intro q w'' hkeep hfile
    -- What was last in the file before the new mappings were kept is last in it after that.
    have hbefore := holds_of_keepAll hplain hrun (holds_none hvacant)
    have hheld := holds_persist hplain hbefore hkeep
    rw [if_neg hfile, Option.or_none] at hheld
    have hload' : s.load? w''.files k = .ok ((lastInFile qs k).map Keep.document) :=
      load?_of_holds hplain (fun q hq => hreads q (mem_of_lastInFile hq).1) hheld
    rw [hload, hload']

/-- A directory of attachments. -/
def orderStore : AttachmentStore := { directory := "mappings" }

/-- An order table attached to a table of a warehouse, and to one of a part of the warehouse. Both
attachments have the file `dbo.Orders__warehouse.eu.orders.yaml`. -/
def orderKeeps : List Keep :=
  [⟨⟨20000, 0, 0⟩, ⟨"dbo.Orders", "warehouse", "eu.orders"⟩, Dictionary.ofList [("id", "OrderId")]⟩,
    ⟨⟨20001, 0, 0⟩, ⟨"dbo.Orders", "warehouse.eu", "orders"⟩, Dictionary.ofList [("code", "Code")]⟩]

theorem readsBack_orderKeeps : ∀ q ∈ orderKeeps, orderStore.format.ReadsBack q.document := by
  have hread : ∀ q ∈ orderKeeps,
      (AttachmentDocument.form.read q.document.toTree.render).toOption = some q.document := by
    decide +kernel
  intro q hq
  exact AttachmentDocument.readsBack_of_read (hread q hq)

theorem path_orderKeeps : ∀ q ∈ orderKeeps,
    orderStore.path q.key = .ok "mappings/dbo.Orders__warehouse.eu.orders.yaml" := by
  intro q hq
  rcases List.mem_pair.1 hq with rfl | rfl
  · rfl
  · rfl

theorem isVacant_orderKeeps :
    ∀ q ∈ orderKeeps, DocumentFormat.IsVacant {} orderStore.directory (fileName q.key) := by
  decide +kernel

theorem loads_own_iff_orders :
    ∃ w', orderStore.keepAll {} orderKeeps = some w' ∧
      orderStore.LoadsOwn w'.files orderKeeps ⟨"dbo.Orders", "warehouse.eu", "orders"⟩ ∧
      ¬ orderStore.LoadsOwn w'.files orderKeeps ⟨"dbo.Orders", "warehouse", "eu.orders"⟩ := by
  have hrun : (orderStore.keepAll {} orderKeeps).isSome = true := by
    decide +kernel
  rcases Option.isSome_iff_exists.1 hrun with ⟨w', hw'⟩
  have hiff : ∀ q ∈ orderKeeps, orderStore.LoadsOwn w'.files orderKeeps q.key ↔
      ∀ q', lastInFile orderKeeps q.key = some q' → q'.key = q.key := fun q hq =>
    (loads_own_iff (path_orderKeeps q hq) (isVacant_orderKeeps q hq) hw' readsBack_orderKeeps).1
  refine ⟨w', hw', (hiff orderKeeps[1] (List.getElem_mem _)).2 ?_, fun h => ?_⟩
  · intro q hlast
    cases hlast
    rfl
  · have hlast := (hiff orderKeeps[0] (List.getElem_mem _)).1 h _ rfl
    exact absurd hlast (by decide)

/-- Of two attachments with one file, the one that was never kept is loaded with the mappings of the
other, and once it has been kept it is loaded in the place of the other. -/
theorem one_file_for_two_attachments :
    (∃ w', orderStore.keepAll {} (orderKeeps.take 1) = some w' ∧
        orderStore.load? w'.files ⟨"dbo.Orders", "warehouse.eu", "orders"⟩ =
          .ok (some orderKeeps[0].document)) ∧
      ∃ w', orderStore.keepAll {} orderKeeps = some w' ∧
        orderStore.load? w'.files ⟨"dbo.Orders", "warehouse", "eu.orders"⟩ =
          .ok (some orderKeeps[1].document) := by
  have hplain : ∀ q ∈ orderKeeps, q.key.IsPlain := fun q hq =>
    (path_eq_ok_iff.1 (path_orderKeeps q hq)).1
  have hload : ∀ q ∈ orderKeeps, ∀ qs w', qs <+: orderKeeps →
      orderStore.keepAll {} qs = some w' →
        orderStore.load? w'.files q.key = .ok ((lastInFile qs q.key).map Keep.document) :=
    fun q hq qs w' hqs hw' =>
      load?_of_keepAll (hplain q hq) (isVacant_orderKeeps q hq) hw' fun q' hq' =>
        readsBack_orderKeeps q' (hqs.subset hq')
  have hrun : (orderStore.keepAll {} (orderKeeps.take 1)).isSome = true ∧
      (orderStore.keepAll {} orderKeeps).isSome = true := by
    decide +kernel
  rcases Option.isSome_iff_exists.1 hrun.1 with ⟨w₁, hw₁⟩
  rcases Option.isSome_iff_exists.1 hrun.2 with ⟨w₂, hw₂⟩
  have hfirst := hload orderKeeps[1] (List.getElem_mem _) _ w₁ (List.take_prefix 1 _) hw₁
  have hsecond := hload orderKeeps[0] (List.getElem_mem _) _ w₂ (List.prefix_refl _) hw₂
  exact ⟨⟨w₁, hw₁, hfirst⟩, w₂, hw₂, hsecond⟩

end AttachmentStore

end SchemaCrosswalk
