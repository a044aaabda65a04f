import EngenhoPromessa.Text.Str
import Mathlib.Logic.Relation

/-
  Texts of records, one on a line, and what blank lines have
  to do with them: wherever they are inserted or removed,
  the records stay.

  Key definitions include:
    * `Str.records`
    * `Str.BlankEdit`

  Key theorems include:
    * `Str.records_append_newline`
    * `Str.records_eq_of_edits`
-/

------------------------------------------------------------
-- Records
------------------------------------------------------------

namespace Str

/- The trimmed lines of a text, without the blank ones. -/
def records (s : String) : List String :=
  ((lines s).map trim).filter (fun line => line ≠ "")

/- All of it is white space. -/
def IsBlank (s : String) : Prop :=
  ∀ c ∈ s.toList, isWhitespace c = true

/-
  Blank lines are inserted at the start of a line, or behind
  the last one.
-/
inductive BlankEdit : String → String → Prop where
  | line
      (before blank after : String)
      (hStart : before = "" ∨ ∃ s, before = s ++ "\n")
      (hBlank : IsBlank blank) :
      BlankEdit (before ++ after)
        (before ++ blank ++ "\n" ++ after)
  | last
      (text blank : String)
      (hBlank : IsBlank blank) :
      BlankEdit text (text ++ "\n" ++ blank)

end Str

------------------------------------------------------------
-- Trimming
------------------------------------------------------------

namespace Str

/- White space at the end is trimmed away. -/
theorem trim_append_whitespace
    {c : Char}
    (hC : isWhitespace c = true)
    (cs : List Char) :
    trim (String.ofList (cs ++ [c])) =
      trim (String.ofList cs) := by
  unfold trim trimEndList
  rw [String.toList_ofList, String.toList_ofList,
    List.dropWhile_append]
  by_cases hNone : (cs.dropWhile isWhitespace).isEmpty
  · rw [if_pos hNone, List.isEmpty_iff.mp hNone]
    simp [hC]
  · rw [if_neg hNone]
    simp [hC]

/- A carriage return before a line end does not count. -/
theorem trim_stripCarriageReturn (line : List Char) :
    trim (String.ofList (stripCarriageReturn line).reverse) =
      trim (String.ofList line.reverse) := by
  unfold stripCarriageReturn
  split
  · rw [List.reverse_cons,
      trim_append_whitespace (by decide)]
  · rfl

theorem trim_of_isBlank
    {s : String}
    (hBlank : IsBlank s) : trim s = "" := by
  rw [trim, List.dropWhile_eq_nil_iff.mpr hBlank]
  rfl

end Str

------------------------------------------------------------
-- Texts Put Together
------------------------------------------------------------

namespace Str

/- The records of a text whose first line was begun. -/
def recordsFrom (line cs : List Char) : List String :=
  ((linesFrom line cs).map (fun l =>
    trim (String.ofList l))).filter (fun l => l ≠ "")

theorem records_eq (s : String) :
    records s = recordsFrom [] s.toList := by
  simp only [records, recordsFrom, lines, List.map_map,
    Function.comp_def]

theorem recordsFrom_nil (line : List Char) :
    recordsFrom line [] =
      [trim (String.ofList line.reverse)].filter
        (fun l => l ≠ "") := by
  cases line with
  | nil => rfl
  | cons c line => rfl

theorem recordsFrom_newline (line cs : List Char) :
    recordsFrom line ('\n' :: cs) =
      recordsFrom line [] ++ recordsFrom [] cs := by
  rw [recordsFrom_nil, ← trim_stripCarriageReturn line,
    recordsFrom, linesFrom, List.map_cons,
    ← List.singleton_append, List.filter_append]
  rfl

/- Any other character goes on with the line. -/
theorem recordsFrom_cons
    {c : Char}
    (hC : c ≠ '\n')
    (line cs : List Char) :
    recordsFrom line (c :: cs) =
      recordsFrom (c :: line) cs := by
  rw [recordsFrom, recordsFrom, linesFrom]
  exact hC

/- By induction on the text up to the line break. -/
theorem recordsFrom_append_newline
    (line cs ds : List Char) :
    recordsFrom line (cs ++ '\n' :: ds) =
      recordsFrom line cs ++ recordsFrom [] ds := by
  induction cs generalizing line with
  | nil => exact recordsFrom_newline line ds
  | cons c cs ih =>
      rw [List.cons_append]
      by_cases hC : c = '\n'
      · subst hC
        rw [recordsFrom_newline, recordsFrom_newline line cs,
          ih, List.append_assoc]
      · rw [recordsFrom_cons hC, recordsFrom_cons hC, ih]

theorem records_append_newline (a b : String) :
    records (a ++ "\n" ++ b) = records a ++ records b := by
  rw [records_eq, records_eq, records_eq,
    ← recordsFrom_append_newline]
  simp

/- A line of white space is no record. -/
theorem recordsFrom_nil_of_whitespace
    {line : List Char}
    (hLine : ∀ c ∈ line, isWhitespace c = true) :
    recordsFrom line [] = [] := by
  have hBlank : IsBlank (String.ofList line.reverse) := by
    simpa [IsBlank] using hLine
  rw [recordsFrom_nil, trim_of_isBlank hBlank]
  rfl

/- Nor is there one in white space of several lines. -/
theorem recordsFrom_of_whitespace
    {line cs : List Char}
    (hLine : ∀ c ∈ line, isWhitespace c = true)
    (hCs : ∀ c ∈ cs, isWhitespace c = true) :
    recordsFrom line cs = [] := by
  induction cs generalizing line with
  | nil => exact recordsFrom_nil_of_whitespace hLine
  | cons c cs ih =>
      rw [List.forall_mem_cons] at hCs
      by_cases hC : c = '\n'
      · subst hC
        rw [recordsFrom_newline,
          recordsFrom_nil_of_whitespace hLine,
          ih (by simp) hCs.2, List.append_nil]
      · rw [recordsFrom_cons hC]
        exact ih (List.forall_mem_cons.mpr ⟨hCs.1, hLine⟩)
          hCs.2

theorem records_of_isBlank
    {s : String}
    (hBlank : IsBlank s) : records s = [] := by
  rw [records_eq]
  exact recordsFrom_of_whitespace (by simp) hBlank

end Str

------------------------------------------------------------
-- Edits
------------------------------------------------------------

namespace Str

/- One edit of a blank line changes no record. -/
theorem records_eq_of_edit
    {s t : String}
    (hEdit : BlankEdit s t) : records s = records t := by
  cases hEdit with
  | line before blank after hStart hBlank =>
      have hAfter :
          records (blank ++ "\n" ++ after) =
            records after := by
        rw [records_append_newline,
          records_of_isBlank hBlank, List.nil_append]
      rcases hStart with rfl | ⟨s, rfl⟩
      · simpa using hAfter.symm
      · have hText :
            s ++ "\n" ++ blank ++ "\n" ++ after =
              s ++ "\n" ++ (blank ++ "\n" ++ after) := by
          simp [String.append_assoc]
        rw [hText, records_append_newline,
          records_append_newline, hAfter]
  | last _ blank hBlank =>
      rw [records_append_newline, records_of_isBlank hBlank,
        List.append_nil]

/- No chain of such edits does. -/
theorem records_eq_of_edits
    {s t : String}
    (hEdits : Relation.EqvGen BlankEdit s t) :
    records s = records t := by
  induction hEdits with
  | rel s t hEdit => exact records_eq_of_edit hEdit
  | refl s => rfl
  | symm s t _ ih => exact ih.symm
  | trans s t u _ _ ihST ihTU => exact ihST.trans ihTU

end Str
