import SchemaCrosswalk.Proofs.Dictionary
import SchemaCrosswalk.Proofs.Files.Place

/-!
# Persistence — what replacing the document in a file does to a tree

A document is written to a draft beside its file, and the draft is moved over the file. Once that
has succeeded the file holds the document, the draft is gone, every other file is as it was, and
doing it again succeeds as well.

* `FileTree.replaced`: the tree after the draft has been moved
* `DocumentFormat.persist_eq_ok_iff`: when a document is persisted, and what the tree is then
* `DocumentFormat.load?_persist`: what was persisted is loaded
* `DocumentFormat.mem_files_persist`: which files there are afterwards
* `DocumentFormat.persist_again`: a document that was persisted can be replaced by any other
* `DocumentFormat.read_persist_of_ne`, `DocumentFormat.isVacant_persist_of_ne`: the documents in
  other files, and the places without one, are as they were
-/

namespace SchemaCrosswalk

/-- The name of the draft of a file. -/
def draftName (name : String) : String := name ++ ".tmp"

theorem isFileName_draftName {name : String} (h : IsFileName name) : IsFileName (draftName name) :=
  isFileName_append h.no_slash (by decide) (by decide)

/-- A file with the ending of documents is never taken for the draft of another one. -/
theorem ne_draftName (name other : String) : name ++ ".yaml" ≠ draftName (other ++ ".yaml") := by
  intro heq
  have hlast := congrArg (fun s : String => s.toList.getLast?) heq
  simp [draftName] at hlast

theorem draftName_ne (name : String) : draftName name ≠ name := by
  intro h
  have hlength : (name ++ ".tmp").length = name.length := congrArg String.length h
  rw [String.length_append] at hlength
  have htmp : ".tmp".length = 4 := rfl
  omega

namespace FileTree

variable {t t' : FileTree} {place folder : List String} {directory name path text : String}

/-! ## Directories that are made -/

/-- One tree is the other with directories where nothing was. -/
structure MakesDirectories (t t' : FileTree) : Prop where
  keep : ∀ key e, t.entries.get? key = some e → t'.entries.get? key = some e
  made : ∀ key e, t'.entries.get? key = some e → t.entries.get? key = some e ∨ e = .directory

theorem MakesDirectories.refl (t : FileTree) : MakesDirectories t t :=
  ⟨fun _ _ => id, fun _ _ => Or.inl⟩

theorem MakesDirectories.trans {t'' : FileTree} (h : MakesDirectories t t')
    (h' : MakesDirectories t' t'') : MakesDirectories t t'' where
  keep key e hkey := h'.keep key e (h.keep key e hkey)
  made key e hkey := by
    rcases h'.made key e hkey with hkey | hdirectory
    · exact h.made key e hkey
    · exact Or.inr hdirectory

theorem MakesDirectories.keepsDirectories (h : MakesDirectories t t') : KeepsDirectories t t' :=
  fun key => h.keep key .directory

theorem MakesDirectories.file_iff (h : MakesDirectories t t') :
    t'.entries.get? path = some (.file text) ↔ t.entries.get? path = some (.file text) := by
  constructor
  · intro hfile
    rcases h.made path _ hfile with hfile | hdirectory
    · exact hfile
    · cases hdirectory
  · exact h.keep path _

theorem makesDirectories_set (hnone : t.entryAt? place = none) :
    MakesDirectories t (t.set place .directory) := by
  have hfree : t.entries.get? (key place) = none := by
    unfold entryAt? at hnone
    split at hnone
    · cases hnone
    · exact hnone
  constructor
  · intro other e hother
    show (t.entries.insert _ _).get? other = some e
    rw [Dictionary.get?_insert]
    split
    · next heq =>
      rw [heq, hfree] at hother
      cases hother
    · exact hother
  · intro other e hother
    have hinsert : (t.entries.insert (key place) .directory).get? other = some e := hother
    rw [Dictionary.get?_insert] at hinsert
    split at hinsert
    · exact Or.inr (Option.some_inj.1 hinsert).symm
    · exact Or.inl hinsert

theorem makesDirectories_makeAlong (names : List String) :
    ∀ (t : FileTree) (place : List String), MakesDirectories t (t.makeAlong place names).1 := by
  induction names with
  | nil =>
      intro t place
      exact .refl t
  | cons name names ih =>
      intro t place
      unfold makeAlong
      simp only
      -- A name that is too long or a file in the way ends the making.
      split
      · exact .refl t
      · split
        · exact ih t _
        · exact .refl t
        · next hnone => exact (makesDirectories_set hnone).trans (ih _ _)

theorem makesDirectories_createDirectories (t : FileTree) (directory : String) :
    MakesDirectories t (t.createDirectories directory).1 := by
  unfold createDirectories
  split
  · exact .refl t
  · exact makesDirectories_makeAlong _ t _

theorem entryAt?_set (t : FileTree) (place : List String) :
    (t.set place .directory).entryAt? place = some .directory := by
  unfold entryAt?
  split
  · rfl
  · show (t.entries.insert (key place) _).get? (key place) = _
    rw [Dictionary.get?_insert, if_pos rfl]

/-- Where directories have been made and are kept there are none to make. -/
theorem makeAlong_again (names : List String) :
    ∀ {t made t' : FileTree} {place : List String},
      t.makeAlong place names = (made, .ok ()) → KeepsDirectories made t' →
        t'.makeAlong place names = (t', .ok ()) := by
  induction names with
  | nil =>
      intro t made t' place _ _
      rfl
  | cons name names ih =>
      intro t made t' place hmade hkeep
      unfold makeAlong at hmade ⊢
      simp only at hmade ⊢
      split at hmade
      · cases hmade
      · next hlength =>
        rw [if_neg hlength]
        -- The next place is a directory in the tree that was made, whoever made it.
        have hnext : t'.entryAt? (child place name) = some .directory ∧
            ∃ t : FileTree, t.makeAlong (child place name) names = (made, .ok ()) := by
          split at hmade
          · next hdirectory =>
            have hkept := (makesDirectories_makeAlong names t (child place name)).keepsDirectories
            rw [hmade] at hkept
            exact ⟨entryAt?_eq_directory (hkept.trans hkeep) hdirectory, t, hmade⟩
          · cases hmade
          · have hkept := (makesDirectories_makeAlong names
              (t.set (child place name) .directory) (child place name)).keepsDirectories
            rw [hmade] at hkept
            exact ⟨entryAt?_eq_directory (hkept.trans hkeep) (entryAt?_set t _), _, hmade⟩
        obtain ⟨hdirectory, t, hrest⟩ := hnext
        rw [hdirectory]
        exact ih hrest hkeep

theorem createDirectories_again {made : FileTree}
    (h : t.createDirectories directory = (made, .ok ())) (hkeep : KeepsDirectories made t') :
    t'.createDirectories directory = (t', .ok ()) := by
  unfold createDirectories at h ⊢
  split at h
  · cases h
  · next hproblem => exact makeAlong_again _ h hkeep

/-! ## Files that are read and written -/

/-- What is done at the place of a file succeeds if the place is reached and it succeeds there. -/
theorem locate_bind_eq_ok_iff {α : Type} (h : IsFileName name)
    {act : List String → Except FileProblem α} {a : α} :
    (t.locate (Path.join directory name)).bind act = .ok a ↔
      IsUsable directory name ∧ ∃ folder, t.IsFolder directory folder ∧
        act (name :: folder) = .ok a := by
  constructor
  · intro hbind
    cases hlocate : t.locate (Path.join directory name) with
    | error problem =>
        rw [hlocate] at hbind
        cases hbind
    | ok place =>
        rw [hlocate] at hbind
        obtain ⟨husable, folder, hfolder, rfl⟩ := (locate_join_eq_ok_iff h).1 hlocate
        exact ⟨husable, folder, hfolder, hbind⟩
  · rintro ⟨husable, folder, hfolder, hact⟩
    rw [(locate_join_eq_ok_iff h).2 ⟨husable, folder, hfolder, rfl⟩]
    exact hact

theorem entry_join_eq_ok_iff (h : IsFileName name) {e : FileEntry} :
    t.entry (Path.join directory name) = .ok e ↔
      IsUsable directory name ∧ ∃ folder, t.IsFolder directory folder ∧
        t.entries.get? (key (name :: folder)) = some e := by
  unfold entry
  rw [Path.namesDirectory_join directory h]
  refine (locate_bind_eq_ok_iff h).trans (and_congr_right fun _ => ?_)
  refine exists_congr fun folder => and_congr_right fun _ => ?_
  rw [entryAt?_cons_of_isFileName t folder h]
  cases t.entries.get? (key (name :: folder)) with
  | none => simp
  | some found => cases found <;> simp

theorem read_join_eq_ok_iff (h : IsFileName name) :
    t.read (Path.join directory name) = .ok text ↔
      IsUsable directory name ∧ ∃ folder, t.IsFolder directory folder ∧
        t.entries.get? (key (name :: folder)) = some (.file text) := by
  rw [← entry_join_eq_ok_iff h]
  unfold read
  cases t.entry (Path.join directory name) with
  | error problem => simp [Bind.bind, Except.bind]
  | ok found => cases found <;> simp [Bind.bind, Except.bind]

theorem write_join_eq_ok_iff (h : IsFileName name) :
    t.write (Path.join directory name) text = .ok t' ↔
      IsUsable directory name ∧ ∃ folder, t.IsFolder directory folder ∧
        t.entries.get? (key (name :: folder)) ≠ some .directory ∧
          t' = t.set (name :: folder) (.file text) := by
  unfold write
  rw [Path.namesDirectory_join directory h]
  refine (locate_bind_eq_ok_iff h).trans (and_congr_right fun _ => ?_)
  refine exists_congr fun folder => and_congr_right fun _ => ?_
  rw [entryAt?_cons_of_isFileName t folder h]
  cases t.entries.get? (key (name :: folder)) with
  | none => simp [eq_comm]
  | some found => cases found <;> simp [eq_comm]

/-! ## Addresses of files -/

/-- Where a path leads if all on its way is a directory. -/
def folderOf (directory : String) : List String :=
  (Path.components directory).foldl child (start directory)

theorem foldl_child_of_walk {names : List String} :
    ∀ {place : List String}, t.walk place names = .ok folder →
      folder = names.foldl child place := by
  induction names with
  | nil =>
      intro place hwalk
      exact (Except.ok.inj hwalk).symm
  | cons name names ih =>
      intro place hwalk
      unfold walk at hwalk
      split at hwalk
      · cases hwalk
      · cases hwalk
      · split at hwalk
        · cases hwalk
        · exact ih hwalk

theorem IsFolder.eq_folderOf (h : t.IsFolder directory folder) : folder = folderOf directory :=
  foldl_child_of_walk h.1

/-- The path from the top of a file in a directory. -/
def address (directory name : String) : String := key (name :: folderOf directory)

theorem address_inj {other : String} :
    address directory name = address directory other ↔ name = other :=
  key_cons_inj

theorem mem_files_iff : (path, text) ∈ t.files ↔ t.entries.get? path = some (.file text) := by
  rw [Dictionary.get?_eq_some_iff, files, List.mem_filterMap]
  constructor
  · rintro ⟨⟨other, found | found⟩, hmem, hfile⟩
    · cases hfile
      exact hmem
    · cases hfile
  · intro hmem
    exact ⟨_, hmem, rfl⟩

/-! ## Files that are replaced -/

/-- The tree with the draft of a file. -/
def drafted (t : FileTree) (directory name text : String) : FileTree :=
  t.set (draftName name :: folderOf directory) (.file text)

/-- The tree without the draft of a file. -/
def undrafted (t : FileTree) (directory name : String) : FileTree :=
  ⟨t.entries.erase (address directory (draftName name))⟩

/-- The tree in which the draft of a file has been moved over it. -/
def replaced (t : FileTree) (directory name text : String) : FileTree :=
  (t.undrafted directory name).set (name :: folderOf directory) (.file text)

theorem address_draftName_ne (directory name : String) :
    address directory (draftName name) ≠ address directory name :=
  fun heq => draftName_ne name (address_inj.1 heq)

theorem get?_drafted (t : FileTree) (directory name text key : String) :
    (t.drafted directory name text).entries.get? key =
      if key = address directory (draftName name) then some (.file text)
      else t.entries.get? key :=
  Dictionary.get?_insert _ _ _ _

theorem get?_undrafted (t : FileTree) (directory name key : String) :
    (t.undrafted directory name).entries.get? key =
      if key = address directory (draftName name) then none else t.entries.get? key :=
  Dictionary.get?_erase _ _ _

theorem get?_replaced (t : FileTree) (directory name text key : String) :
    (t.replaced directory name text).entries.get? key =
      if key = address directory name then some (.file text)
      else if key = address directory (draftName name) then none
      else t.entries.get? key := by
  rw [← get?_undrafted]
  exact Dictionary.get?_insert _ _ _ _

theorem undrafted_drafted (t : FileTree) (directory name text : String) :
    (t.drafted directory name text).undrafted directory name = t.undrafted directory name := by
  refine congrArg FileTree.mk (Dictionary.ext_get? fun key => ?_)
  have hleft := get?_undrafted (t.drafted directory name text) directory name key
  have hright := get?_undrafted t directory name key
  refine hleft.trans (Eq.trans ?_ hright.symm)
  split
  · rfl
  · next hne => rw [get?_drafted, if_neg hne]

/-- A tree in which a file can be written, as a draft first. -/
structure IsReplaceable (t : FileTree) (directory name : String) : Prop where
  isFolder : t.IsFolder directory (folderOf directory)
  usable : IsUsable directory name
  draft_usable : IsUsable directory (draftName name)
  not_directory : t.entries.get? (address directory name) ≠ some .directory
  draft_not_directory : t.entries.get? (address directory (draftName name)) ≠ some .directory

section

variable (h : t.entries.get? (address directory (draftName name)) ≠ some .directory)
include h

theorem keepsDirectories_drafted (text : String) :
    KeepsDirectories t (t.drafted directory name text) := by
  intro key hkey
  have hne : key ≠ address directory (draftName name) := fun heq => h (heq ▸ hkey)
  rw [get?_drafted, if_neg hne]
  exact hkey

theorem keepsDirectories_undrafted : KeepsDirectories t (t.undrafted directory name) := by
  intro key hkey
  have hne : key ≠ address directory (draftName name) := fun heq => h (heq ▸ hkey)
  rw [get?_undrafted, if_neg hne]
  exact hkey

end

namespace IsReplaceable

variable (h : t.IsReplaceable directory name) (text : String)
include h

theorem keepsDirectories : KeepsDirectories t (t.replaced directory name text) := by
  intro key hkey
  have hne : key ≠ address directory name := fun heq => h.not_directory (heq ▸ hkey)
  have hdraft : key ≠ address directory (draftName name) :=
    fun heq => h.draft_not_directory (heq ▸ hkey)
  rw [get?_replaced, if_neg hne, if_neg hdraft]
  exact hkey

theorem replaced : (t.replaced directory name text).IsReplaceable directory name where
  isFolder := h.isFolder.keep (h.keepsDirectories text)
  usable := h.usable
  draft_usable := h.draft_usable
  not_directory := by simp [get?_replaced]
  draft_not_directory := by simp [get?_replaced, address_draftName_ne]

theorem read_replaced (hname : IsFileName name) :
    (t.replaced directory name text).read (Path.join directory name) = .ok text := by
  have hget : (t.replaced directory name text).entries.get? (address directory name) =
      some (.file text) := by
    rw [get?_replaced, if_pos rfl]
  exact (read_join_eq_ok_iff hname).2 ⟨h.usable, _, (h.replaced text).isFolder, hget⟩

end IsReplaceable

/-! ## Drafts that are moved -/

theorem rename_join_eq_ok_iff (hname : IsFileName name) {target : String} :
    t.rename (Path.join directory name) target = .ok t' ↔
      ∃ text, t.read (Path.join directory name) = .ok text ∧
        FileTree.write ⟨t.entries.erase (address directory name)⟩ target text = .ok t' := by
  unfold rename
  cases hread : t.read (Path.join directory name) with
  | error problem => simp [Bind.bind, Except.bind]
  | ok text =>
      obtain ⟨husable, folder, hfolder, -⟩ := (read_join_eq_ok_iff hname).1 hread
      have hlocate := (locate_join_eq_ok_iff hname).2 ⟨husable, folder, hfolder, rfl⟩
      obtain rfl := hfolder.eq_folderOf
      rw [hlocate]
      simp [Bind.bind, Except.bind, address]

/-- Where the draft of a file was written it is moved if the file can be written. -/
theorem rename_draft_eq_ok_iff (hname : IsFileName name)
    (hfolder : t.IsFolder directory (folderOf directory))
    (husable : IsUsable directory (draftName name))
    (hfree : t.entries.get? (address directory (draftName name)) ≠ some .directory) :
    (t.drafted directory name text).rename (Path.join directory (draftName name))
        (Path.join directory name) = .ok t' ↔
      (t.undrafted directory name).write (Path.join directory name) text = .ok t' := by
  have hdraft := isFileName_draftName hname
  have hget : (t.drafted directory name text).entries.get? (address directory (draftName name)) =
      some (.file text) := by
    rw [get?_drafted, if_pos rfl]
  have hread := (read_join_eq_ok_iff hdraft).2
    ⟨husable, _, hfolder.keep (keepsDirectories_drafted hfree text), hget⟩
  have hmoved : (⟨(t.drafted directory name text).entries.erase _⟩ : FileTree) =
      t.undrafted directory name := undrafted_drafted t directory name text
  rw [rename_join_eq_ok_iff hdraft, hread, hmoved]
  simp

/-- A draft is written and moved over its file if both can be written. -/
theorem write_rename_eq_ok_iff (hname : IsFileName name) :
    (∃ draft, t.write (Path.join directory (draftName name)) text = .ok draft ∧
        draft.rename (Path.join directory (draftName name)) (Path.join directory name) = .ok t') ↔
      t.IsReplaceable directory name ∧ t' = t.replaced directory name text := by
  have hdraft := isFileName_draftName hname
  have htarget := get?_undrafted t directory name (address directory name)
  rw [if_neg (address_draftName_ne directory name).symm] at htarget
  constructor
  · rintro ⟨draft, hwrite, hrename⟩
    obtain ⟨husable, folder, hfolder, hfree, rfl⟩ := (write_join_eq_ok_iff hdraft).1 hwrite
    obtain rfl := hfolder.eq_folderOf
    have hmove := (rename_draft_eq_ok_iff hname hfolder husable hfree).1 hrename
    obtain ⟨husable', folder, hfolder', hfree', rfl⟩ := (write_join_eq_ok_iff hname).1 hmove
    obtain rfl := hfolder'.eq_folderOf
    exact ⟨⟨hfolder, husable', husable, fun hget => hfree' (htarget.trans hget), hfree⟩, rfl⟩
  · rintro ⟨h, rfl⟩
    refine ⟨_, (write_join_eq_ok_iff hdraft).2
      ⟨h.draft_usable, _, h.isFolder, h.draft_not_directory, rfl⟩, ?_⟩
    refine (rename_draft_eq_ok_iff hname h.isFolder h.draft_usable h.draft_not_directory).2 ?_
    have hfolder := h.isFolder.keep (keepsDirectories_undrafted h.draft_not_directory)
    exact (write_join_eq_ok_iff hname).2
      ⟨h.usable, _, hfolder, fun hget => h.not_directory (htarget.symm.trans hget), rfl⟩

end FileTree

/-! ## Documents that are persisted -/

namespace DocumentFormat

open FileTree

variable {α : Type} {f : DocumentFormat α} {t done : FileTree} {directory name : String} {d : α}

theorem draftPath_join (hname : IsFileName name) :
    draftPath (Path.join directory name) = Path.join directory (draftName name) :=
  Path.join_append hname (isFileName_draftName hname)

/-- A document is persisted if its directory can be made and its file and the draft written. -/
theorem persist_eq_ok_iff (hname : IsFileName name) :
    f.persist t directory (Path.join directory name) d = (done, .ok ()) ↔
      ∃ made, t.createDirectories directory = (made, .ok ()) ∧
        made.IsReplaceable directory name ∧ done = made.replaced directory name (f.print d) := by
  unfold persist
  rw [draftPath_join hname]
  rcases hmade : t.createDirectories directory with ⟨made, problem | ⟨⟩⟩
  · simp
  · have hthis : ∀ P : FileTree → Prop,
        (∃ other, (made, Except.ok (ε := FileProblem) ()) = (other, .ok ()) ∧ P other) ↔
          P made := by
      simp
    rw [hthis, ← write_rename_eq_ok_iff hname]
    cases hwrite : made.write (Path.join directory (draftName name)) (f.print d) with
    | error problem => simp [hwrite]
    | ok drafted =>
        cases hrename : drafted.rename (Path.join directory (draftName name))
            (Path.join directory name) with
        | error problem => simp [hwrite, hrename]
        | ok moved => simp [hwrite, hrename, eq_comm]

theorem exists_read_of_load? {path : String} (h : f.load? t path = .ok (some d)) :
    ∃ text, f.read text path = .ok d := by
  unfold load? at h
  split at h
  · cases hread : t.read path with
    | error problem =>
        rw [hread] at h
        cases h
    | ok text =>
        rw [hread] at h
        refine ⟨text, ?_⟩
        cases hdocument : f.read text path with
        | error fault =>
            simp only [Except.mapError, Bind.bind, Except.bind, hdocument] at h
            cases h
        | ok found =>
            simp only [Except.mapError, Bind.bind, Except.bind, hdocument] at h
            cases h
            rfl
  · cases h

/-- What is in a file is loaded from it. -/
theorem load?_of_read {path text : String} (h : t.read path = .ok text) :
    f.load? t path = some <$> f.read text path := by
  have hcontains : t.contains path = true := by
    unfold FileTree.read at h
    unfold contains
    cases hentry : t.entry path with
    | error problem =>
        rw [hentry] at h
        cases h
    | ok e => rfl
  unfold load?
  rw [if_pos hcontains, h]
  rfl

theorem read_persist (hname : IsFileName name)
    (h : f.persist t directory (Path.join directory name) d = (done, .ok ())) :
    done.read (Path.join directory name) = .ok (f.print d) := by
  obtain ⟨made, -, hreplaceable, rfl⟩ := (persist_eq_ok_iff hname).1 h
  exact hreplaceable.read_replaced (f.print d) hname

/-- What was persisted is loaded. -/
theorem load?_persist (hname : IsFileName name)
    (h : f.persist t directory (Path.join directory name) d = (done, .ok ())) :
    f.load? done (Path.join directory name) =
      some <$> f.read (f.print d) (Path.join directory name) :=
  load?_of_read (read_persist hname h)

/-- Whether a document can be persisted does not depend on what it holds. -/
theorem persist_any (hname : IsFileName name)
    (h : (f.persist t directory (Path.join directory name) d).2 = .ok ()) (d' : α) :
    (f.persist t directory (Path.join directory name) d').2 = .ok () := by
  obtain ⟨made, hmade, hreplaceable, -⟩ := (persist_eq_ok_iff hname).1 (Prod.ext rfl h)
  have hpersist := (persist_eq_ok_iff (f := f) (d := d') hname).2 ⟨made, hmade, hreplaceable, rfl⟩
  rw [hpersist]

/-- Where a document was persisted any other one can take its place. -/
theorem persist_again (hname : IsFileName name)
    (h : f.persist t directory (Path.join directory name) d = (done, .ok ())) (d' : α) :
    (f.persist done directory (Path.join directory name) d').2 = .ok () := by
  obtain ⟨made, hmade, hreplaceable, rfl⟩ := (persist_eq_ok_iff hname).1 h
  have hagain := createDirectories_again hmade (hreplaceable.keepsDirectories (f.print d))
  have hpersist := (persist_eq_ok_iff (f := f) (d := d') hname).2
    ⟨_, hagain, hreplaceable.replaced _, rfl⟩
  rw [hpersist]

/-- Persisting a document replaces its file, removes a draft beside it and leaves all other files
as they are. -/
theorem mem_files_persist (hname : IsFileName name)
    (h : f.persist t directory (Path.join directory name) d = (done, .ok ()))
    {path text : String} :
    (path, text) ∈ done.files ↔
      path = address directory name ∧ text = f.print d ∨
        path ≠ address directory name ∧ path ≠ address directory (draftName name) ∧
          (path, text) ∈ t.files := by
  obtain ⟨made, hmade, hreplaceable, rfl⟩ := (persist_eq_ok_iff hname).1 h
  have hmakes := makesDirectories_createDirectories t directory
  rw [hmade] at hmakes
  have hfile : made.entries.get? path = some (.file text) ↔
      t.entries.get? path = some (.file text) := hmakes.file_iff
  rw [mem_files_iff, mem_files_iff, get?_replaced, ← hfile]
  by_cases hpath : path = address directory name
  · simp [hpath, eq_comm]
  · by_cases hdraft : path = address directory (draftName name)
    · simp [hdraft, address_draftName_ne]
    · simp [hpath, hdraft]

/-! ## Documents in other files -/

/-- Nothing lies at the place of a file once its directory has been made. -/
def IsVacant (t : FileTree) (directory name : String) : Prop :=
  (t.createDirectories directory).1.entries.get? (address directory name) = none

instance (t : FileTree) (directory name : String) : Decidable (IsVacant t directory name) :=
  inferInstanceAs (Decidable (_ = none))

theorem load?_of_isVacant (hname : IsFileName name) (h : IsVacant t directory name) :
    f.load? t (Path.join directory name) = .ok none := by
  have hcontains : t.contains (Path.join directory name) = false := by
    unfold contains
    cases hentry : t.entry (Path.join directory name) with
    | error problem => rfl
    | ok e =>
        -- What is found at the place would still be there once the directory has been made.
        rcases (entry_join_eq_ok_iff hname).1 hentry with ⟨-, folder, hfolder, hget⟩
        rw [hfolder.eq_folderOf] at hget
        have hkept := (makesDirectories_createDirectories t directory).keep _ e hget
        have hnone : (t.createDirectories directory).1.entries.get? (address directory name) =
            none := h
        rw [address, hkept] at hnone
        cases hnone
  unfold load?
  rw [hcontains]
  rfl

section

variable {other : String} (hname : IsFileName name)
variable (h : f.persist t directory (Path.join directory name) d = (done, .ok ()))
variable (hother : other ≠ name) (hdraft : other ≠ draftName name)
include hname h hother hdraft

/-- Persisting a document leaves another file with the text that it has. -/
theorem read_persist_of_ne (hotherName : IsFileName other) {text : String}
    (hread : t.read (Path.join directory other) = .ok text) :
    done.read (Path.join directory other) = .ok text := by
  rcases (persist_eq_ok_iff hname).1 h with ⟨made, hmade, hreplaceable, rfl⟩
  rcases (read_join_eq_ok_iff hotherName).1 hread with ⟨husable, folder, hfolder, hget⟩
  have hmakes : MakesDirectories t made := by
    have hmakes := makesDirectories_createDirectories t directory
    rw [hmade] at hmakes
    exact hmakes
  have hkeeps : KeepsDirectories t (made.replaced directory name (f.print d)) :=
    hmakes.keepsDirectories.trans (hreplaceable.keepsDirectories (f.print d))
  rw [hfolder.eq_folderOf] at hget hfolder
  refine (read_join_eq_ok_iff hotherName).2 ⟨husable, _, hfolder.keep hkeeps, ?_⟩
  -- Neither the file that was written nor the draft is the other file.
  have hfile : address directory other ≠ address directory name :=
    fun heq => hother (address_inj.1 heq)
  have hdraftFile : address directory other ≠ address directory (draftName name) :=
    fun heq => hdraft (address_inj.1 heq)
  have hkept := hmakes.keep _ _ hget
  rw [← address, get?_replaced, if_neg hfile, if_neg hdraftFile]
  exact hkept

/-- Persisting a document puts nothing at the place of another file. -/
theorem isVacant_persist_of_ne (hvacant : IsVacant t directory other) :
    IsVacant done directory other := by
  rcases (persist_eq_ok_iff hname).1 h with ⟨made, hmade, hreplaceable, rfl⟩
  have hagain := createDirectories_again hmade (hreplaceable.keepsDirectories (f.print d))
  have hfile : address directory other ≠ address directory name :=
    fun heq => hother (address_inj.1 heq)
  have hdraftFile : address directory other ≠ address directory (draftName name) :=
    fun heq => hdraft (address_inj.1 heq)
  unfold IsVacant at hvacant ⊢
  rw [hmade] at hvacant
  rw [hagain, get?_replaced, if_neg hfile, if_neg hdraftFile]
  exact hvacant

end

end DocumentFormat

end SchemaCrosswalk
