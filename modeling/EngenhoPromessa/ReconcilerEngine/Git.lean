import EngenhoPromessa.Effect.Fallible
import EngenhoPromessa.External.Crates
import EngenhoPromessa.PromessaTypes.Action
import EngenhoPromessa.Text.Str

/-
  The `git` commands of a flux commit: remote repositories,
  and the working copy in a temporary directory.

  A command may not be started, or exit with an error before
  it does anything; otherwise it does what it is for, or git
  refuses. What becomes of the commands of an attempt, and
  of its reads and writes, is given with it.

  Key definitions include:
    * `GitWorld`
    * `Attempt`
    * `Git.runGit`
    * `Git.pushed`

  Key theorems include:
    * `Git.exec_runGit_eq_ok`
    * `Git.atomic_runGit`
-/

------------------------------------------------------------
-- Repositories
------------------------------------------------------------

namespace EngenhoPromessa

/- A commit, with the texts of its regular files. -/
structure Commit where
  sha : String
  authorName : String
  authorEmail : String
  message : String
  files : List (String × String)
deriving DecidableEq, Repr

/- The history of a branch, from its newest commit back. -/
structure Branch where
  head : Commit
  earlier : List Commit
deriving DecidableEq, Repr

/- The branches of the repositories, by URL and name. -/
abbrev Remotes := String → String → Option Branch

/-
  A shallow clone of one branch: the commit it was cloned
  at, the files and the index, and the commits made since,
  the newest first.
-/
structure WorkingCopy where
  origin : String
  branch : String
  base : Commit
  files : List (String × String)
  index : List (String × String)
  commits : List Commit
deriving DecidableEq, Repr

/- The commits ever made are kept, wherever they went. -/
structure GitWorld where
  remotes : Remotes
  workingCopy : Option WorkingCopy
  made : List Commit

namespace Branch

/- The history with one more commit. -/
def extend (b : Branch) (new : Commit) : Branch where
  head := new
  earlier := b.head :: b.earlier

end Branch

namespace WorkingCopy

/- The last commit of the clone. -/
def head (copy : WorkingCopy) : Commit :=
  copy.commits.head?.getD copy.base

end WorkingCopy

namespace Git

/- Set the text of a file, in place when it exists. -/
def setFile
    (path text : String) :
    List (String × String) → List (String × String)
| [] => [(path, text)]
| (p, t) :: files =>
    if p = path then
      (path, text) :: files
    else
      (p, t) :: setFile path text files

/- A file that is set is read, and the others stay. -/
theorem lookup_setFile
    (path text p : String)
    (files : List (String × String)) :
    (setFile path text files).lookup p =
      if p = path then some text else files.lookup p := by
  induction files with
  | nil =>
      by_cases hPath : p = path
      · simp [setFile, hPath]
      · have hBeq : (p == path) = false := by simpa using hPath
        simp [setFile, List.lookup_cons, hBeq, hPath]
  | cons file files ih =>
      rcases file with ⟨q, t⟩
      by_cases hHere : q = path
      · subst hHere
        by_cases hPath : p = q
        · simp [setFile, hPath]
        · have hBeq : (p == q) = false := by simpa using hPath
          simp [setFile, List.lookup_cons, hBeq, hPath]
      · by_cases hPath : p = q
        · simp [setFile, hHere, hPath]
        · have hBeq : (p == q) = false := by simpa using hPath
          simp [setFile, hHere, List.lookup_cons, hBeq, ih]

/- The remotes with another history of one branch. -/
def setBranch
    (url name : String)
    (branch : Branch)
    (remotes : Remotes) : Remotes :=
  fun u n =>
    if u = url ∧ n = name then some branch
    else remotes u n

@[simp] theorem setBranch_self
    (url name : String)
    (branch : Branch)
    (remotes : Remotes) :
    setBranch url name branch remotes url name =
      some branch := by
  simp [setBranch]

end Git

end EngenhoPromessa

------------------------------------------------------------
-- Attempts
------------------------------------------------------------

namespace EngenhoPromessa

/- How a command can fail by itself. -/
inductive CommandFault where
  | notSpawned (error : String)
  | exited (stderr : String)
deriving DecidableEq, Repr

/-
  What becomes of the stages of an attempt, and what they
  are given: the temporary directory, the name of the new
  commit, the time, and what git prints when it refuses.
-/
structure Attempt where
  tempdir : Option String
  clone : Option CommandFault
  read : Option String
  write : Option String
  add : Option CommandFault
  commit : Option CommandFault
  revParse : Option CommandFault
  push : Option CommandFault
  workdir : String
  sha : String
  committedAt : DateTime
  refusal : String

/- A computation with git. -/
abbrev GitRun (α : Type) := Fallible GitWorld ReconcilerError α

namespace Git

open Fallible

/- `run_git`, for a command that may also be refused. -/
def runGit
    (stage : String)
    (fault : Option CommandFault)
    (refusal : String)
    (command : GitWorld → Option GitWorld) : GitRun Unit :=
  ofExec (fun w =>
    match fault with
    | some (.notSpawned e) =>
        (.error (.internal
          ("git " ++ stage ++ " spawn failed: " ++ e)), w)
    | some (.exited stderr) =>
        (.error (.substrateRefused
          ("git " ++ stage ++ " failed: " ++
            Str.trim stderr)), w)
    | none =>
        match command w with
        | some w' => (.ok (), w')
        | none =>
            (.error (.substrateRefused
              ("git " ++ stage ++ " failed: " ++
                Str.trim refusal)), w))

/- A command succeeds if it runs and does its work. -/
theorem exec_runGit_eq_ok
    {stage : String}
    {fault : Option CommandFault}
    {refusal : String}
    {command : GitWorld → Option GitWorld}
    {w w' : GitWorld}
    {u : Unit} :
    (runGit stage fault refusal command).exec w =
        (.ok u, w') ↔
      fault = none ∧ command w = some w' := by
  simp only [runGit, exec_ofExec]
  rcases fault with _ | _ | _
  · cases command w with
    | none => simp
    | some w₁ => simp
  · simp
  · simp

/- A command that fails has done nothing. -/
theorem atomic_runGit
    {γ : Type}
    (view : GitWorld → γ)
    (stage : String)
    (fault : Option CommandFault)
    (refusal : String)
    (command : GitWorld → Option GitWorld) :
    Atomic view (runGit stage fault refusal command) := by
  intro w e w' hRun
  simp only [runGit, exec_ofExec] at hRun
  rcases fault with _ | _ | _
  · cases hCommand : command w with
    | none =>
        simp only [hCommand] at hRun
        rw [← (Prod.mk.inj hRun).2]
    | some w₁ => simp [hCommand] at hRun
  · rw [← (Prod.mk.inj hRun).2]
  · rw [← (Prod.mk.inj hRun).2]

/- What a command's work keeps is kept, failed or not. -/
theorem keeps_runGit
    {γ : Type}
    {view : GitWorld → γ}
    (stage : String)
    (fault : Option CommandFault)
    (refusal : String)
    {command : GitWorld → Option GitWorld}
    (hCommand :
      ∀ w w', command w = some w' → view w' = view w) :
    Keeps view (runGit stage fault refusal command) := by
  intro w
  rcases hRun : (runGit stage fault refusal command).exec w
    with ⟨e | u, w'⟩
  · exact atomic_runGit view stage fault refusal command w e
      w' hRun
  · exact hCommand w w' (exec_runGit_eq_ok.mp hRun).2

end Git

end EngenhoPromessa

------------------------------------------------------------
-- Commands
------------------------------------------------------------

namespace EngenhoPromessa

namespace Git

/- `git clone --depth 1 --branch <branch> <url> <dir>`. -/
def cloned
    (url branch : String)
    (w : GitWorld) : Option GitWorld :=
  (w.remotes url branch).map (fun b =>
    { w with
      workingCopy := some
        { origin := url
          branch := branch
          base := b.head
          files := b.head.files
          index := b.head.files
          commits := [] } })

/- `git add <path>`. -/
def added
    (path : String)
    (w : GitWorld) : Option GitWorld := do
  let copy ← w.workingCopy
  let text ← copy.files.lookup path
  return { w with
    workingCopy := some
      { copy with index := setFile path text copy.index } }

/- `git commit -m <message>`, refused without a change. -/
def committed
    (authorName authorEmail message sha : String)
    (w : GitWorld) : Option GitWorld := do
  let copy ← w.workingCopy
  if copy.index = copy.head.files then
    none
  else
    let new : Commit :=
      { sha := sha
        authorName := authorName
        authorEmail := authorEmail
        message := message
        files := copy.index }
    return { w with
      workingCopy := some
        { copy with commits := new :: copy.commits }
      made := w.made ++ [new] }

/-
  `git push origin <branch>`, refused unless the remote
  branch is where it was cloned.
-/
def pushed
    (branch : String)
    (w : GitWorld) : Option GitWorld := do
  let copy ← w.workingCopy
  let b ← w.remotes copy.origin branch
  if copy.branch ≠ branch ∨ b.head.sha ≠ copy.base.sha then
    none
  else
    match copy.commits with
    | [] => return w
    | newest :: older =>
        return { w with
          remotes := setBranch copy.origin branch
            { head := newest
              earlier := older ++ b.head :: b.earlier }
            w.remotes }

end Git

end EngenhoPromessa
