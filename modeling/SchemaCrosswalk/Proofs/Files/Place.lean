import Mathlib.Data.List.Basic
import SchemaCrosswalk.DocumentFormat

/-!
# Places — where the files of a directory lie

A file in a directory is named by the path of the directory and its own name. In a tree it lies
at the place of that name inside the place of the directory, so files of different names lie
apart.

* `IsFileName`: the names of files in a directory
* `Path.components_join`, `Path.namesDirectory_join`: how the path of such a file is read
* `FileTree.key_cons_inj`: files of one directory are told apart by their names
* `FileTree.locate_join_eq_ok_iff`: when the place of such a file is reached
-/

namespace SchemaCrosswalk

/-! ## Names of files -/

/-- A name that leads from a directory to something inside of it. -/
structure IsFileName (name : String) : Prop where
  ne_empty : name ≠ ""
  no_slash : '/' ∉ name.toList
  ne_self : name ≠ "."
  ne_parent : name ≠ ".."

theorem no_slash_of_isPlainName {name : String} (h : isPlainName name = true) :
    '/' ∉ name.toList := by
  simp [isPlainName] at h
  tauto

/-- With an ending of its own a text without slashes is the name of a file. -/
theorem isFileName_append {name ending : String} (hname : '/' ∉ name.toList)
    (hending : '/' ∉ ending.toList) (hlength : 2 < ending.length) :
    IsFileName (name ++ ending) := by
  have hlong : 2 < (name ++ ending).length := by
    rw [String.length_append]
    omega
  have hshort : ∀ short : String, short.length ≤ 2 → name ++ ending ≠ short := by
    rintro short hle rfl
    omega
  refine ⟨hshort "" (by decide), ?_, hshort "." (by decide), hshort ".." (by decide)⟩
  rw [String.toList_append, List.mem_append]
  rintro (h | h)
  · exact hname h
  · exact hending h

/-! ## Paths of files -/

namespace Text

theorem splitOn_ne_nil (mark : Char) : ∀ cs : List Char, splitOn mark cs ≠ []
  | [] => by simp [splitOn]
  | c :: cs => by
      unfold splitOn
      split
      · simp
      · split <;> simp

theorem splitOn_of_not_mem {mark : Char} : ∀ {cs : List Char}, mark ∉ cs → splitOn mark cs = [cs]
  | [], _ => rfl
  | c :: cs, h => by
      have hne : c ≠ mark := fun heq => h (heq ▸ List.mem_cons_self)
      have hrest : mark ∉ cs := fun hmem => h (List.mem_cons_of_mem _ hmem)
      rw [splitOn, if_neg hne, splitOn_of_not_mem hrest]

/-- A mark cuts a text into the pieces before it and those after it. -/
theorem splitOn_append_cons {mark : Char} (after : List Char) :
    ∀ before : List Char, splitOn mark (before ++ mark :: after) =
      splitOn mark before ++ splitOn mark after
  | [] => by simp [splitOn]
  | c :: cs => by
      rw [List.cons_append, splitOn, splitOn, splitOn_append_cons after cs]
      by_cases h : c = mark
      · simp [h]
      · rw [if_neg h, if_neg h]
        cases hpieces : splitOn mark cs with
        | nil => exact absurd hpieces (splitOn_ne_nil mark cs)
        | cons piece pieces => rfl

end Text

namespace Path

variable {directory name : String}

theorem isAbsolute_of_no_slash (h : '/' ∉ name.toList) : isAbsolute name = false := by
  unfold isAbsolute
  cases hchars : name.toList with
  | nil => rfl
  | cons c cs =>
      have hne : c ≠ '/' := fun heq => h (hchars ▸ heq ▸ List.mem_cons_self)
      simpa using hne

/-- The path of a file in a directory: the characters of the directory, with a slash at their end
unless they are empty, and the name. -/
theorem toList_join (directory : String) (h : '/' ∉ name.toList) :
    (join directory name).toList = name.toList ∧ directory = "" ∨
      ∃ before, (join directory name).toList = before ++ '/' :: name.toList ∧
        (directory.toList = before ∨ directory.toList = before ++ ['/']) ∧ directory ≠ "" := by
  unfold join
  rw [isAbsolute_of_no_slash h, Bool.false_or]
  by_cases hempty : directory = ""
  · left
    simp [hempty]
  · right
    have hnot : directory.isEmpty = false := by
      simpa using hempty
    rw [hnot]
    by_cases hlast : directory.toList.getLast? = some '/'
    · obtain ⟨before, hbefore⟩ := List.getLast?_eq_some_iff.1 hlast
      refine ⟨before, ?_, Or.inr hbefore, hempty⟩
      simp [hbefore]
    · exact ⟨directory.toList, by simp [hlast], Or.inl rfl, hempty⟩

/-- The names of a path whose pieces between the slashes are given. -/
def named (pieces : List (List Char)) : List String :=
  (pieces.map String.ofList).filter fun c => !c.isEmpty && c != "."

theorem components_eq_named (path : String) :
    components path = named (Text.splitOn '/' path.toList) :=
  rfl

theorem named_append (pieces more : List (List Char)) :
    named (pieces ++ more) = named pieces ++ named more := by
  simp [named]

theorem named_singleton (h : IsFileName name) : named [name.toList] = [name] := by
  simp [named, h.ne_empty, h.ne_self]

/-- The names on the way to a file are those on the way to its directory and its own. -/
theorem components_join (directory : String) (h : IsFileName name) :
    components (join directory name) = components directory ++ [name] := by
  rw [components_eq_named, components_eq_named]
  rcases toList_join directory h.no_slash with
    ⟨hpath, rfl⟩ | ⟨before, hpath, hdirectory, -⟩
  · rw [hpath, Text.splitOn_of_not_mem h.no_slash, named_singleton h]
    rfl
  · rw [hpath, Text.splitOn_append_cons, Text.splitOn_of_not_mem h.no_slash, named_append,
      named_singleton h]
    -- A slash at the end of the directory leaves a piece without a name.
    rcases hdirectory with hdirectory | hdirectory
    · rw [hdirectory]
    · rw [hdirectory, Text.splitOn_append_cons, named_append]
      simp [named, Text.splitOn]

theorem namesDirectory_join (directory : String) (h : IsFileName name) :
    namesDirectory (join directory name) = false := by
  have hlast : ((Text.splitOn '/' (join directory name).toList).map String.ofList).getLast? =
      some name := by
    rcases toList_join directory h.no_slash with ⟨hpath, -⟩ | ⟨before, hpath, -⟩
    · rw [hpath, Text.splitOn_of_not_mem h.no_slash]
      simp
    · rw [hpath, Text.splitOn_append_cons, Text.splitOn_of_not_mem h.no_slash]
      simp
  unfold namesDirectory
  rw [hlast]
  simp [h.ne_empty, h.ne_self, h.ne_parent]

theorem join_ne_empty (directory : String) (h : IsFileName name) : join directory name ≠ "" := by
  intro hempty
  have hchars : (join directory name).toList = [] := by
    rw [hempty]
    rfl
  rcases toList_join directory h.no_slash with ⟨hpath, -⟩ | ⟨before, hpath, -⟩
  · rw [hpath, String.toList_eq_nil_iff] at hchars
    exact h.ne_empty hchars
  · rw [hpath] at hchars
    simp at hchars

/-- An ending of the path is an ending of the name. -/
theorem join_append {ending : String} (h : IsFileName name) (h' : IsFileName (name ++ ending)) :
    join directory name ++ ending = join directory (name ++ ending) := by
  unfold join
  rw [isAbsolute_of_no_slash h.no_slash, isAbsolute_of_no_slash h'.no_slash]
  split
  · rfl
  · split
    · rw [String.append_assoc]
    · rw [String.append_assoc]

theorem isAbsolute_join (directory : String) (h : IsFileName name) :
    isAbsolute (join directory name) = isAbsolute directory := by
  rcases toList_join directory h.no_slash with ⟨hpath, rfl⟩ | ⟨before, hpath, hdirectory, hne⟩
  · have hname := isAbsolute_of_no_slash h.no_slash
    unfold isAbsolute at hname ⊢
    rw [hpath, hname]
    rfl
  · unfold isAbsolute
    rw [hpath]
    cases before with
    | nil =>
        rcases hdirectory with hdirectory | hdirectory
        · exact absurd (String.toList_eq_nil_iff.1 hdirectory) hne
        · rw [hdirectory]
          rfl
    | cons c cs => rcases hdirectory with hdirectory | hdirectory <;> rw [hdirectory] <;> rfl

end Path

/-! ## Places of files -/

namespace FileTree

variable {t t' : FileTree} {place folder : List String} {directory name other : String}

theorem start_join (directory : String) (h : IsFileName name) :
    start (Path.join directory name) = start directory := by
  unfold start
  rw [Path.isAbsolute_join directory h]

theorem child_of_isFileName (folder : List String) (h : IsFileName name) :
    child folder name = name :: folder := by
  unfold child
  simp [h.ne_parent]

theorem isTop_cons_of_isFileName (folder : List String) (h : IsFileName name) :
    isTop (name :: folder) = false := by
  have hroot : name ≠ rootName := by
    rintro rfl
    exact h.no_slash (by decide)
  simp [isTop, h.ne_parent, hroot]

theorem entryAt?_cons_of_isFileName (t : FileTree) (folder : List String) (h : IsFileName name) :
    t.entryAt? (name :: folder) = t.entries.get? (key (name :: folder)) := by
  unfold entryAt?
  rw [isTop_cons_of_isFileName folder h]
  rfl

/-- Two files of one directory have one key only if they have one name. -/
theorem key_cons_inj : key (name :: folder) = key (other :: folder) ↔ name = other := by
  refine ⟨fun h => ?_, fun h => by rw [h]⟩
  -- At the top a key is the name alone, elsewhere that of the directory comes before it.
  unfold key at h
  rw [List.reverse_cons, List.reverse_cons] at h
  by_cases hfolder : folder.reverse = []
  · simpa [hfolder] using h
  · rw [String.intercalate_append_of_ne_nil hfolder (by simp),
      String.intercalate_append_of_ne_nil hfolder (by simp), String.intercalate_singleton,
      String.intercalate_singleton] at h
    simpa using h

/-! ## Ways through a tree -/

/-- What is a directory in one tree is one in the other. -/
def KeepsDirectories (t t' : FileTree) : Prop :=
  ∀ key, t.entries.get? key = some .directory → t'.entries.get? key = some .directory

theorem KeepsDirectories.refl (t : FileTree) : KeepsDirectories t t := fun _ => id

theorem KeepsDirectories.trans {t'' : FileTree} (h : KeepsDirectories t t')
    (h' : KeepsDirectories t' t'') : KeepsDirectories t t'' :=
  fun key hkey => h' key (h key hkey)

theorem entryAt?_eq_directory (h : KeepsDirectories t t')
    (hplace : t.entryAt? place = some .directory) : t'.entryAt? place = some .directory := by
  unfold entryAt? at hplace ⊢
  split
  · rfl
  · next htop =>
    rw [if_neg htop] at hplace
    exact h _ hplace

/-- A way through directories stays one while they are kept. -/
theorem walk_of_keepsDirectories (h : KeepsDirectories t t') :
    ∀ {names place : List String}, t.walk place names = .ok folder →
      t'.walk place names = .ok folder
  | [], _, hwalk => hwalk
  | name :: names, place, hwalk => by
      unfold walk at hwalk ⊢
      split at hwalk
      · cases hwalk
      · cases hwalk
      · next hdirectory =>
        -- Every place but the last has to be a directory, and stays one.
        rw [entryAt?_eq_directory h hdirectory]
        split at hwalk
        · cases hwalk
        · next hlength =>
          simp only [if_neg hlength]
          exact walk_of_keepsDirectories h hwalk

theorem walk_append (t : FileTree) (more : List String) :
    ∀ names place : List String,
      t.walk place (names ++ more) = (t.walk place names).bind fun p => t.walk p more
  | [], _ => rfl
  | name :: names, place => by
      rw [List.cons_append, walk, walk]
      split
      · rfl
      · rfl
      · split
        · rfl
        · exact walk_append t more names _

/-- A path leads to a directory. -/
def IsFolder (t : FileTree) (directory : String) (folder : List String) : Prop :=
  t.walk (start directory) (Path.components directory) = .ok folder ∧
    t.entryAt? folder = some .directory

theorem IsFolder.keep (hkeep : KeepsDirectories t t') (h : t.IsFolder directory folder) :
    t'.IsFolder directory folder :=
  ⟨walk_of_keepsDirectories hkeep h.1, entryAt?_eq_directory hkeep h.2⟩

/-- Nothing is wrong with a path as such and with the length of the last name. -/
def IsUsable (directory name : String) : Prop :=
  pathProblem? (Path.join directory name) = none ∧ name.utf8ByteSize ≤ nameLimit

/-- The place of a file is reached if its directory is and its path is usable. -/
theorem locate_join_eq_ok_iff (h : IsFileName name) :
    t.locate (Path.join directory name) = .ok place ↔
      IsUsable directory name ∧ ∃ folder, t.IsFolder directory folder ∧
        place = name :: folder := by
  -- The way to the file is the way to its directory and one step more.
  unfold locate IsUsable IsFolder
  have hne : (Path.join directory name).isEmpty = false := by
    simpa using Path.join_ne_empty directory h
  rw [hne, start_join directory h, Path.components_join directory h, walk_append]
  cases hproblem : pathProblem? (Path.join directory name) with
  | some problem => simp
  | none =>
      cases hwalk : t.walk (start directory) (Path.components directory) with
      | error problem => simp [Except.bind]
      | ok folder =>
          simp only [Except.bind, walk, child_of_isFileName folder h]
          cases hentry : t.entryAt? folder with
          | none => simp [hentry]
          | some entry =>
              cases entry with
              | file text => simp [hentry]
              | directory =>
                  by_cases hlength : nameLimit < name.utf8ByteSize
                  · simp [hlength, hentry, Nat.not_le.2 hlength]
                  · simp [hlength, hentry, Nat.not_lt.1 hlength, eq_comm]

end FileTree

end SchemaCrosswalk
