import PrivacyMapping.Files
import PrivacyMapping.Proofs.Entries

/-!
# Files that are written

What the operations on a file system do to the files in it. Making directories changes no file,
whether it succeeds or not. Writing a file gives the file that the path names its content, so that a
reader of the path finds it there, and changes no other file (`fileWritten_of_write`). It does not
matter whether a path is written from the root or from the working directory (`walk_from_root`).
-/

namespace PrivacyMapping.Files

variable {files left : Files} {place other : Place} {path : String} {content : ByteArray}

/-! ## Contents -/

theorem get?_nodes_of_node? {node : Option FileNode} (h : files.node? place = node)
    (hnode : node ≠ some .directory) : files.nodes.get? (files.placeKey place) = node := by
  unfold node? at h
  split_ifs at h with around
  · exact absurd h.symm hnode
  · exact h

theorem contents_put_directory (h : files.node? place = none) :
    (files.put place .directory).contents = files.contents := by
  have absent := get?_nodes_of_node? h (by simp)
  rw [contents, put, Entries.insert_of_not_mem (Entries.get?_eq_none_iff.1 absent),
    List.filterMap_append]
  exact List.append_nil _

theorem contents_put_file (h : files.node? place ≠ some .directory) (content : ByteArray) :
    (files.put place (.file content)).contents =
      files.contents.insert (files.placeKey place) content := by
  have hnode := get?_nodes_of_node? rfl h
  rw [← hnode] at h
  rw [contents, put, contents]
  dsimp only
  generalize files.nodes = nodes at h ⊢
  induction nodes with
  | nil => rfl
  | cons entry rest ih =>
    obtain ⟨key, node⟩ := entry
    rw [Entries.get?] at h
    rw [Entries.insert]
    by_cases hkey : key = files.placeKey place
    · rw [if_pos hkey] at h ⊢
      cases node with
      | directory => exact absurd rfl h
      | file old => simp [Entries.insert, hkey]
    · rw [if_neg hkey] at h ⊢
      cases node with
      | directory => simpa using ih h
      | file old => simpa [Entries.insert, hkey] using ih h

/-! ## Directories that are made -/

theorem contents_createFrom (files : Files) (place : Place) (parts : List String) :
    (files.createFrom place parts).2.contents = files.contents := by
  induction parts generalizing files place with
  | nil => rfl
  | cons part rest ih =>
    rw [createFrom]
    split
    · rfl
    · split
      · rfl
      · exact ih _ _
      · next absent => rw [ih, contents_put_directory absent]

theorem contents_createDirectories (files : Files) (path : String) :
    (files.createDirectories path).2.contents = files.contents := by
  unfold createDirectories
  split
  · rfl
  · exact contents_createFrom files _ _

/-! ## Paths after a change -/

theorem node?_put (files : Files) (place : Place) (node : FileNode) (other : Place) :
    (files.put place node).node? other =
      if other <:+ files.home.place then some .directory
      else (files.nodes.insert (files.placeKey place) node).get? (files.placeKey other) := rfl

theorem start_put (files : Files) (place : Place) (node : FileNode) (parts : List String) :
    (files.put place node).start parts = files.start parts := rfl

theorem node?_put_of_directory (h : files.node? place ≠ some .directory) (node : FileNode)
    (directory : files.node? other = some .directory) :
    (files.put place node).node? other = some .directory := by
  rw [node?_put]
  unfold node? at directory
  split_ifs at directory ⊢ with around
  · rfl
  · have hnode := get?_nodes_of_node? rfl h
    have hne : files.placeKey other ≠ files.placeKey place := by
      intro same
      rw [same, hnode] at directory
      exact h directory
    rw [Entries.get?_insert_of_ne _ _ hne]
    exact directory

theorem node?_put_self (h : files.node? place ≠ some .directory) (node : FileNode) :
    (files.put place node).node? place = some node := by
  rw [node?_put]
  unfold node? at h
  split_ifs at h ⊢ with around
  · exact absurd rfl h
  · exact Entries.get?_insert_self _ _ _

theorem step_put (h : files.node? place ≠ some .directory) (node : FileNode) {start next : Place}
    {part : String} (hstep : files.step start part = .ok next) :
    (files.put place node).step start part = .ok next := by
  cases directory : files.node? start with
  | none => simp [step, directory] at hstep
  | some there =>
    cases there with
    | file content => simp [step, directory] at hstep
    | directory =>
      rw [step, directory] at hstep
      rw [step, node?_put_of_directory h node directory]
      exact hstep

/-- Paths that could be followed lead to the same places, as they go through directories only. -/
theorem walk_put (h : files.node? place ≠ some .directory) (node : FileNode) {parts : List String}
    {target : Place} (hwalk : files.walk parts = .ok target) :
    (files.put place node).walk parts = .ok target := by
  unfold walk at hwalk ⊢
  rw [start_put]
  generalize files.start parts = start at hwalk ⊢
  induction parts generalizing start with
  | nil => exact hwalk
  | cons part rest ih =>
    rw [List.foldlM_cons] at hwalk ⊢
    cases hstep : files.step start part with
    | error fault => simp [hstep, bind, Except.bind] at hwalk
    | ok next =>
      rw [hstep] at hwalk
      rw [step_put h node hstep]
      exact ih next hwalk

/-! ## Paths from the root -/

/-- A name that leads from a directory to a place in it. -/
structure IsName (name : String) : Prop where
  leads : name ≠ "" ∧ name ≠ "." ∧ name ≠ parentName
  short : name.utf8ByteSize ≤ nameLimit

theorem foldlM_step_of_names (names : ∀ name ∈ place, IsName name)
    (around : place <:+ files.home.place) : place.reverse.foldlM files.step [] = .ok place := by
  induction place with
  | nil => rfl
  | cons name place ih =>
    obtain ⟨⟨⟨nonempty, notHere, notBack⟩, short⟩, rest⟩ := List.forall_mem_cons.1 names
    have outside : place <:+ files.home.place := (List.suffix_cons name place).trans around
    have directory : files.node? place = some .directory := if_pos outside
    rw [List.reverse_cons, List.foldlM_append, ih rest outside]
    simp [step, directory, nonempty, notHere, notBack, short, bind, Except.bind, pure, Except.pure]

/-- A path through the working directory from the root on leads where its rest leads from there. -/
theorem walk_from_root (names : ∀ name ∈ files.home.place, IsName name) {parts : List String}
    (relative : parts.head? ≠ some "") :
    files.walk ("" :: files.home.place.reverse ++ parts) = files.walk parts := by
  have root : files.node? [] = some .directory := if_pos List.nil_suffix
  have arrived := foldlM_step_of_names names List.suffix_rfl
  have enter : files.step [] "" = .ok [] := by simp [step, root]
  rw [walk, walk, start, start, if_neg relative, List.cons_append, List.head?_cons, if_pos rfl,
    List.foldlM_cons, enter]
  exact List.foldlM_append.trans (by rw [arrived]; rfl)

/-- A file of the working directory, read by a path from the root. -/
example (content : ByteArray) :
    (⟨[("plan.json", .file content)]⟩ : Files).read "/work/./plan.json" = .ok content := rfl

/-! ## Files that are written -/

theorem target_eq_ok_iff :
    files.target path = .ok place ↔ pathFault? path = none ∧
      (FilePath.parts path).getLast? ≠ some "" ∧ files.walk (FilePath.parts path) = .ok place ∧
      files.node? place ≠ some .directory := by
  unfold target
  cases pathFault? path with
  | some fault => simp
  | none =>
    by_cases slash : (FilePath.parts path).getLast? = some ""
    · cases hwalk : files.walk ((FilePath.parts path).reverse.dropWhile (· = "")).tail.reverse <;>
        simp [slash, hwalk, bind, Except.bind, throw, throwThe, MonadExceptOf.throw]
    · cases hwalk : files.walk (FilePath.parts path) with
      | error fault => simp [slash, hwalk, bind, Except.bind]
      | ok found =>
        simp only [slash, hwalk, bind, Except.bind, if_false, ne_eq, not_false_eq_true, true_and,
          Except.ok.injEq]
        by_cases directory : files.node? found = some .directory
        · simp only [directory, throw, throwThe, MonadExceptOf.throw, reduceCtorEq, false_iff, not_and]
          rintro rfl
          exact not_not_intro directory
        · split
          · next there => exact absurd there directory
          · simp only [pure, Except.pure, Except.ok.injEq, iff_self_and]
            rintro rfl
            exact directory

/-- `after` is `before` with `content` in the file that `path` names: a reader of the path finds it
there, and all other files are as they were. -/
structure FileWritten (path : String) (content : ByteArray) (before after : Files) : Prop where
  read_eq : after.read path = .ok content
  contents_eq : ∃ place, after.target path = .ok place ∧
    after.contents = before.contents.insert (after.placeKey place) content

theorem fileWritten_of_write (h : files.write path content = .ok left) :
    FileWritten path content files left := by
  cases htarget : files.target path with
  | error fault => simp [write, htarget, bind, Except.bind] at h
  | ok place =>
    rw [write, htarget] at h
    obtain rfl := Except.ok.inj h
    obtain ⟨fault, slash, hwalk, hnode⟩ := target_eq_ok_iff.1 htarget
    have followed := walk_put hnode (.file content) hwalk
    have stored := node?_put_self hnode (.file content)
    constructor
    · simp [read, fault, followed, stored, bind, Except.bind, pure, Except.pure]
    · exact ⟨place, target_eq_ok_iff.2 ⟨fault, slash, followed, by simp [stored]⟩,
        contents_put_file hnode content⟩

end PrivacyMapping.Files

/-! ## Texts in files -/

namespace PrivacyMapping.FileReader

theorem fromUTF8?_toUTF8 (text : String) : String.fromUTF8? text.toUTF8 = some text := by
  simp [String.fromUTF8?, String.isValidUTF8, String.fromUTF8]

theorem text_eq_ok {read : FileReader} {path text : String} (h : read path = .ok text.toUTF8) :
    read.text path = .ok text := by
  rw [FileReader.text, h]
  simp only [fromUTF8?_toUTF8]

end PrivacyMapping.FileReader
