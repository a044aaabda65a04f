import EngenhoPromessa.Text.Str

/-
  Lines written one after another, each with its end, are the
  lines that are read again.

  Key definitions include:
    * `Str.IsLine`
    * `Str.unlines`

  Key theorems include:
    * `Str.lines_unlines`
-/

------------------------------------------------------------
-- Written Lines
------------------------------------------------------------

namespace Str

/- A text without line breaks and carriage returns. -/
def IsLine (s : String) : Prop :=
  ∀ c ∈ s.toList, c ≠ '\n' ∧ c ≠ '\r'

/- Each line with its line break. -/
def unlines (ls : List String) : String :=
  String.ofList (ls.flatMap (fun l => l.toList ++ ['\n']))

/- A line without carriage returns is left as it is. -/
theorem stripCarriageReturn_of_not_mem
    {line : List Char}
    (hLine : ∀ c ∈ line, c ≠ '\r') :
    stripCarriageReturn line = line := by
  cases line with
  | nil => rfl
  | cons c cs =>
      have hC := (List.forall_mem_cons.mp hLine).1
      unfold stripCarriageReturn
      split
      · rename_i hEq
        exact absurd (List.cons.inj hEq).1 hC
      · rfl

/-
  The line that is being read when a break comes. The
  induction is on what is left of it.
-/
theorem linesFrom_append_newline
    {cs : List Char}
    (hLine : ∀ c ∈ cs, c ≠ '\n')
    (line rest : List Char) :
    linesFrom line (cs ++ '\n' :: rest) =
      (stripCarriageReturn (cs.reverse ++ line)).reverse ::
        linesFrom [] rest := by
  induction cs generalizing line with
  | nil => simp [linesFrom]
  | cons c cs ih =>
      rcases List.forall_mem_cons.mp hLine with ⟨hC, hCs⟩
      have hStep :
          linesFrom line (c :: (cs ++ '\n' :: rest)) =
            linesFrom (c :: line) (cs ++ '\n' :: rest) := by
        rw [linesFrom]
        exact hC
      rw [List.cons_append, hStep, ih hCs]
      simp

/- What is written line by line is read line by line. -/
theorem lines_unlines
    {ls : List String}
    (hLines : ∀ l ∈ ls, IsLine l) :
    lines (unlines ls) = ls := by
  unfold lines unlines
  rw [String.toList_ofList]
  induction ls with
  | nil => rfl
  | cons l ls ih =>
      rcases List.forall_mem_cons.mp hLines with ⟨hL, hLs⟩
      have hReturn :
          stripCarriageReturn (l.toList.reverse ++ []) =
            l.toList.reverse := by
        rw [List.append_nil]
        exact stripCarriageReturn_of_not_mem
          (fun c hc => (hL c (List.mem_reverse.mp hc)).2)
      rw [List.flatMap_cons, List.append_assoc,
        List.singleton_append,
        linesFrom_append_newline (fun c hc => (hL c hc).1),
        List.map_cons, ih hLs, hReturn, List.reverse_reverse,
        String.ofList_toList]

end Str
