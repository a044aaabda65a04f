import EngenhoPromessa.Text.Str

/-
  Paths of a file system without symbolic links, with `join`
  as on Unix.

  A place is the list of the names from the root to it. A
  path is walked part by part: a name goes down, `..` goes
  up, and every step starts at a directory. Where a walk
  ends is decided by the text of the path alone.

  Key definitions include:
    * `Path.join`
    * `Path.FileTree`
    * `Path.walk`
    * `Path.place`

  Key theorems include:
    * `Path.eq_placeFrom_of_walk`
    * `Path.walk_names`
-/

------------------------------------------------------------
-- Parts Of A Path
------------------------------------------------------------

namespace Path

/- A path from the root. -/
def isAbsolute (path : String) : Bool :=
  Str.startsWith "/" path

/- An absolute path replaces the one it is joined to. -/
def join (base path : String) : String :=
  if isAbsolute path then
    path
  else if base.isEmpty || base.toList.getLast? = some '/' then
    base ++ path
  else
    base ++ "/" ++ path

/- What stands between the slashes. -/
def parts (path : String) : List String :=
  (path.toList.splitOn '/').map String.ofList

/- A part that goes down. -/
def IsName (part : String) : Prop :=
  part ≠ "" ∧ part ≠ "." ∧ part ≠ ".." ∧ '/' ∉ part.toList

/- The text of relative names, one below the other. -/
def relative (names : List String) : String :=
  String.ofList (['/'].intercalate (names.map String.toList))

/- The parts of two paths that are joined. -/
theorem parts_append (base path : String) :
    parts (base ++ "/" ++ path) =
      parts base ++ parts path := by
  have hText :
      (base ++ "/" ++ path).toList =
        base.toList ++ '/' :: path.toList := by
    simp
  rw [parts, hText, List.splitOn_append_cons_self,
    List.map_append]
  rfl

/- The parts of names are the names. -/
theorem parts_relative
    {names : List String}
    (hNames : ∀ name ∈ names, IsName name)
    (hSome : names ≠ []) :
    parts (relative names) = names := by
  have hSlash :
      ∀ cs ∈ names.map String.toList, '/' ∉ cs := by
    intro cs hcs
    rcases List.mem_map.mp hcs with ⟨name, hName, rfl⟩
    exact (hNames name hName).2.2.2
  rw [parts, relative, String.toList_ofList,
    List.splitOn_intercalate '/' hSlash (by simpa using hSome)]
  simp

/- Every text is that of its parts. -/
theorem relative_parts (path : String) :
    relative (parts path) = path := by
  simp [relative, parts, Function.comp_def]

/- A slash at the end is followed by an empty part. -/
theorem getLast?_parts_of_slash
    {path : String}
    (hSlash : path.toList.getLast? = some '/') :
    (parts path).getLast? = some "" := by
  rcases List.getLast?_eq_some_iff.mp hSlash with
    ⟨before, hText⟩
  rw [parts, hText, List.splitOn_append_cons_self]
  simp

/- Names make up a relative path. -/
theorem isAbsolute_eq_false_of_isNames
    {path : String}
    (hNames : ∀ part ∈ parts path, IsName part) :
    isAbsolute path = false := by
  by_contra hAbsolute
  rcases Str.exists_of_startsWith
    (Bool.not_eq_false _ ▸ hAbsolute) with ⟨rest, rfl⟩
  have hParts : "" ∈ parts ("" ++ "/" ++ rest) := by
    rw [parts_append]
    exact List.mem_append_left _ (by decide)
  exact (hNames "" (by simpa using hParts)).1 rfl

/- A relative path goes on from where its base ends. -/
theorem parts_join_of_relative
    {base path : String}
    (hRelative : isAbsolute path = false)
    (hBase : base ≠ "")
    (hLast : base.toList.getLast? ≠ some '/') :
    parts (join base path) = parts base ++ parts path := by
  rw [join, if_neg (by simp [hRelative]),
    if_neg (by simp [hBase, hLast]), parts_append]

end Path

------------------------------------------------------------
-- Walking
------------------------------------------------------------

namespace Path

/- The names from the root on. -/
abbrev Place := List String

/- A file is there with its text, if it is one of UTF-8. -/
structure FileTree where
  isDir : Place → Bool
  file : Place → Option (Option String)

/-
  One part of a path: a name, the place itself, or its
  parent.
-/
def enter (place : Place) (part : String) : Place :=
  if part = "" ∨ part = "." then
    place
  else if part = ".." then
    place.dropLast
  else
    place ++ [part]

/- Where parts lead, if they can be walked. -/
def placeFrom (start : Place) (parts : List String) : Place :=
  parts.foldl enter start

/- The place of an absolute path. -/
def place (path : String) : Place :=
  placeFrom [] (parts path)

/- Goes part by part through directories that are there. -/
def walk
    (tree : FileTree)
    (start : Place) : List String → Except String Place
| [] => .ok start
| part :: rest =>
    if tree.isDir start then
      walk tree (enter start part) rest
    else if (tree.file start).isSome then
      .error "Not a directory (os error 20)"
    else
      .error "No such file or directory (os error 2)"

/- The file of an absolute path, with its place. -/
def openFile
    (tree : FileTree)
    (path : String) :
    Except String (Place × Option String) := do
  let place ← walk tree [] (parts path)
  match tree.file place with
  | some content => .ok (place, content)
  | none =>
      if tree.isDir place then
        .error "Is a directory (os error 21)"
      else
        .error "No such file or directory (os error 2)"

/- A walk ends where the text of its parts says. -/
theorem eq_placeFrom_of_walk
    {tree : FileTree}
    {start last : Place}
    {parts : List String}
    (hWalk : walk tree start parts = .ok last) :
    last = placeFrom start parts := by
  induction parts generalizing start with
  | nil => exact (Except.ok.inj hWalk).symm
  | cons part parts ih =>
      rw [walk] at hWalk
      split at hWalk
      · exact ih hWalk
      · split at hWalk
        · simp at hWalk
        · simp at hWalk

theorem enter_of_isName
    {part : String}
    (hName : IsName part)
    (place : Place) :
    enter place part = place ++ [part] := by
  rcases hName with ⟨hEmpty, hDot, hDots, _⟩
  simp [enter, hEmpty, hDot, hDots]

theorem placeFrom_append
    (start : Place)
    (first second : List String) :
    placeFrom start (first ++ second) =
      placeFrom (placeFrom start first) second :=
  List.foldl_append

/- Proper names never lead back up. -/
theorem placeFrom_names
    {names : List String}
    (hNames : ∀ name ∈ names, IsName name)
    (start : Place) :
    placeFrom start names = start ++ names := by
  induction names generalizing start with
  | nil => simp [placeFrom]
  | cons name names ih =>
      rcases List.forall_mem_cons.mp hNames with
        ⟨hName, hRest⟩
      change placeFrom (enter start name) names = _
      rw [enter_of_isName hName, ih hRest]
      simp

/- Names lead down through directories. -/
theorem walk_names
    {tree : FileTree}
    {names : List String}
    (hNames : ∀ name ∈ names, IsName name)
    {start : Place}
    (hDirs :
      ∀ n, n < names.length →
        tree.isDir (start ++ names.take n) = true) :
    walk tree start names = .ok (start ++ names) := by
  induction names generalizing start with
  | nil => simp [walk]
  | cons name names ih =>
      rcases List.forall_mem_cons.mp hNames with
        ⟨hName, hRest⟩
      have hStart : tree.isDir start = true := by
        simpa using hDirs 0 (by simp)
      rw [walk, if_pos hStart, enter_of_isName hName,
        ih hRest]
      · simp
      · intro n hn
        simpa using hDirs (n + 1) (by simpa using hn)

/- The names from a directory down to a place in it. -/
def namesBelow (dir place : Place) : Option (List String) :=
  if dir.isPrefixOf place then
    some (place.drop dir.length)
  else
    none

@[simp] theorem namesBelow_append
    (dir : Place)
    (names : List String) :
    namesBelow dir (dir ++ names) = some names := by
  simp [namesBelow]

/- A path that never goes up stays below its start. -/
theorem isPrefix_placeFrom
    {parts : List String}
    (hDown : ∀ part ∈ parts, part ≠ "..")
    (start : Place) :
    start <+: placeFrom start parts := by
  induction parts generalizing start with
  | nil => exact List.prefix_refl start
  | cons part parts ih =>
      rcases List.forall_mem_cons.mp hDown with
        ⟨hPart, hRest⟩
      have hStep : start <+: enter start part := by
        unfold enter
        split
        · exact List.prefix_refl start
        · exact List.prefix_append start [part]
      exact hStep.trans (ih hRest (enter start part))

/- A file is opened where the walk ends, if one is there. -/
theorem openFile_eq_ok_iff
    {tree : FileTree}
    {path : String}
    {place : Place}
    {content : Option String} :
    openFile tree path = .ok (place, content) ↔
      walk tree [] (parts path) = .ok place ∧
        tree.file place = some content := by
  unfold openFile
  cases hWalk : walk tree [] (parts path) with
  | error e => simp [bind, Except.bind]
  | ok found =>
      simp only [bind, Except.bind, Except.ok.injEq]
      cases hFile : tree.file found with
      | none =>
          have hNone :
              found = place →
                tree.file place ≠ some content := by
            rintro rfl
            simp [hFile]
          by_cases hDir : tree.isDir found = true
          · simpa [hDir] using hNone
          · simpa [hDir] using hNone
      | some text =>
          constructor
          · intro hOpen
            rcases Prod.mk.inj (Except.ok.inj hOpen) with
              ⟨rfl, rfl⟩
            exact ⟨rfl, hFile⟩
          · rintro ⟨rfl, hSome⟩
            rw [hFile] at hSome
            rw [Option.some.inj hSome]

/- A file that was opened is at the place of its path. -/
theorem eq_place_of_openFile
    {tree : FileTree}
    {path : String}
    {place : Place}
    {content : Option String}
    (hOpen : openFile tree path = .ok (place, content)) :
    place = Path.place path :=
  eq_placeFrom_of_walk (openFile_eq_ok_iff.mp hOpen).1

end Path
