import EngenhoPromessa.External.Reference
import EngenhoPromessa.ScannerCatalog.Parsers
import EngenhoPromessa.Text.BlankLines

/-
  What blank lines do to a Trufflehog output. Its banner is
  tolerated as line number 0, and the blank lines before it
  are counted although they are passed over.

  Key definitions include:
    * `Trufflehog.HasBanner`
    * `Trufflehog.OpensText`
    * `Trufflehog.IgnoresBlankLines`

  Key theorems include:
    * `Trufflehog.toOption_trufflehogParse`
    * `Trufflehog.ignoresBlankLines_iff`
-/

------------------------------------------------------------
-- Banners
------------------------------------------------------------

namespace EngenhoPromessa

namespace Trufflehog

variable [SerdeJson]

/- The line is a value of its own. -/
def IsJson (line : String) : Prop :=
  ∃ v, SerdeJson.fromStr line = .ok v

instance (line : String) : Decidable (IsJson line) :=
  match hJson : SerdeJson.fromStr line with
  | .ok v => .isTrue ⟨v, hJson⟩
  | .error _ => .isFalse (by simp [IsJson, hJson])

/- Only the first record is not JSON. -/
def HasBanner (raw : String) : Prop :=
  ∃ banner rest,
    Str.records raw = banner :: rest ∧
      ¬ IsJson banner ∧ ∀ line ∈ rest, IsJson line

/- The text does not start with a blank line. -/
omit [SerdeJson] in
def OpensText (raw : String) : Prop :=
  (Str.lines raw).head?.map Str.trim ≠ some ""

omit [SerdeJson] in
instance (raw : String) : Decidable (OpensText raw) :=
  inferInstanceAs (Decidable (_ ≠ _))

/-
  The two outputs have the same findings or are both in
  error, and the first is in error only because of a record
  behind the first one.
-/
def IgnoresBlankLines
    (scanner : ScannerKind)
    (raw raw' : String) : Prop :=
  (trufflehogParse raw scanner).toOption =
      (trufflehogParse raw' scanner).toOption ∧
    ((∃ fs, trufflehogParse raw scanner = .ok fs) ↔
      ∀ line ∈ (Str.records raw).tail, IsJson line)

end Trufflehog

end EngenhoPromessa

------------------------------------------------------------
-- Records That Are Read
------------------------------------------------------------

namespace EngenhoPromessa

namespace Trufflehog

variable [SerdeJson]

/- The findings of records, if they all are JSON. -/
def findingsOf
    (scanner : ScannerKind)
    (records : List String) :
    Option (List UnstampedFinding) :=
  records.mapM (fun line =>
    (SerdeJson.fromStr line).toOption.map
      (trufflehogFinding scanner))

/- A line that is a value adds its finding. -/
theorem findingsOf_cons_ok
    {scanner : ScannerKind}
    {line : String}
    {v : Json}
    (hJson : SerdeJson.fromStr line = .ok v)
    (rest : List String) :
    findingsOf scanner (line :: rest) =
      (findingsOf scanner rest).map
        (trufflehogFinding scanner v :: ·) := by
  rw [findingsOf, List.mapM_cons, hJson]
  exact Option.map_eq_bind.symm

/- A line that is none spoils them all. -/
theorem findingsOf_cons_error
    {scanner : ScannerKind}
    {line e : String}
    (hJson : SerdeJson.fromStr line = .error e)
    (rest : List String) :
    findingsOf scanner (line :: rest) = none := by
  rw [findingsOf, List.mapM_cons, hJson]
  rfl

/- All is read if every line is a value. -/
theorem isSome_findingsOf
    (scanner : ScannerKind)
    (records : List String) :
    (findingsOf scanner records).isSome = true ↔
      ∀ line ∈ records, IsJson line := by
  induction records with
  | nil => simp [findingsOf]
  | cons line rest ih =>
      rw [List.forall_mem_cons, ← ih]
      cases hJson : SerdeJson.fromStr line with
      | ok v => simp [findingsOf_cons_ok hJson, IsJson, hJson]
      | error e =>
          simp [findingsOf_cons_error hJson, IsJson, hJson]

/- The lines behind the first one have no banner. -/
theorem toOption_trufflehogLines_succ
    (scanner : ScannerKind)
    (idx : Nat)
    (lines : List String) :
    (trufflehogLines scanner (idx + 1) lines).toOption =
      findingsOf scanner ((lines.map Str.trim).filter
        (fun line => line ≠ "")) := by
  induction lines generalizing idx with
  | nil => rfl
  | cons line rest ih =>
      rw [trufflehogLines, List.map_cons]
      by_cases hBlank : Str.trim line = ""
      · simpa [hBlank] using ih (idx + 1)
      · cases hJson : SerdeJson.fromStr (Str.trim line) with
        | ok v =>
            rw [List.filter_cons_of_pos (by simpa using hBlank),
              findingsOf_cons_ok hJson, ← ih (idx + 1)]
            simp only [String.isEmpty_iff, hBlank, if_false]
            cases trufflehogLines scanner (idx + 1 + 1) rest <;>
              rfl
        | error e =>
            rw [List.filter_cons_of_pos (by simpa using hBlank),
              findingsOf_cons_error hJson]
            simp [hBlank, Except.toOption]

/- The records that are read: all but a tolerated banner. -/
def readRecords (raw : String) : List String :=
  match Str.records raw with
  | [] => []
  | banner :: rest =>
      if OpensText raw ∧ ¬ IsJson banner then
        rest
      else
        banner :: rest

/- Without a banner every record is read. -/
theorem readRecords_of_not_opensText
    {raw : String}
    (hOpens : ¬ OpensText raw) :
    readRecords raw = Str.records raw := by
  unfold readRecords
  cases Str.records raw with
  | nil => rfl
  | cons banner rest => exact if_neg (fun h => hOpens h.1)

/- A first record that is a value is no banner. -/
theorem readRecords_of_isJson
    {raw banner : String}
    {rest : List String}
    (hRecords : Str.records raw = banner :: rest)
    (hJson : IsJson banner) :
    readRecords raw = banner :: rest := by
  rw [readRecords, hRecords]
  exact if_neg (fun h => h.2 hJson)

/- One that is none is passed over at the start of the text. -/
theorem readRecords_of_not_isJson
    {raw banner : String}
    {rest : List String}
    (hRecords : Str.records raw = banner :: rest)
    (hJson : ¬ IsJson banner) :
    readRecords raw =
      if OpensText raw then rest else banner :: rest := by
  rw [readRecords, hRecords]
  simp only [hJson, not_false_eq_true, and_true]

/- What the parser reads are the findings of these records. -/
theorem toOption_trufflehogParse
    (scanner : ScannerKind)
    (raw : String) :
    (trufflehogParse raw scanner).toOption =
      findingsOf scanner (readRecords raw) := by
  cases hLines : Str.lines raw with
  | nil =>
      have hRecords : Str.records raw = [] := by
        rw [Str.records, hLines]
        rfl
      rw [trufflehogParse, hLines, readRecords, hRecords]
      rfl
  | cons line rest =>
      have hRest :=
        toOption_trufflehogLines_succ scanner 0 rest
      have hOpens :
          OpensText raw ↔ Str.trim line ≠ "" := by
        simp [OpensText, hLines]
      rw [trufflehogParse, hLines, trufflehogLines]
      by_cases hBlank : Str.trim line = ""
      · have hRecords :
            Str.records raw =
              (rest.map Str.trim).filter
                (fun line => line ≠ "") := by
          simp [Str.records, hLines, hBlank]
        rw [readRecords_of_not_opensText
          (fun h => hOpens.mp h hBlank), hRecords, ← hRest]
        simp [hBlank]
      · have hRecords :
            Str.records raw =
              Str.trim line :: (rest.map Str.trim).filter
                (fun line => line ≠ "") := by
          simp [Str.records, hLines, hBlank]
        simp only [String.isEmpty_iff, hBlank, if_false]
        cases hJson : SerdeJson.fromStr (Str.trim line) with
        | ok v =>
            rw [readRecords_of_isJson hRecords ⟨v, hJson⟩,
              findingsOf_cons_ok hJson, ← hRest]
            cases trufflehogLines scanner (0 + 1) rest <;> rfl
        | error e =>
            have hNot : ¬ IsJson (Str.trim line) := by
              simp [IsJson, hJson]
            rw [readRecords_of_not_isJson hRecords hNot,
              if_pos (hOpens.mpr hBlank)]
            exact hRest

/- The parse succeeds if all records that are read are JSON. -/
theorem exists_ok_iff
    (scanner : ScannerKind)
    (raw : String) :
    (∃ fs, trufflehogParse raw scanner = .ok fs) ↔
      ∀ line ∈ readRecords raw, IsJson line := by
  rw [← isSome_findingsOf scanner,
    ← toOption_trufflehogParse]
  cases trufflehogParse raw scanner with
  | ok fs => simp [Except.toOption]
  | error e => simp [Except.toOption]

end Trufflehog

end EngenhoPromessa

------------------------------------------------------------
-- Blank Lines
------------------------------------------------------------

namespace EngenhoPromessa

namespace Trufflehog

variable [SerdeJson]

/- With a banner, the text is read if the banner opens it. -/
theorem findingsOf_readRecords_of_banner
    (scanner : ScannerKind)
    {raw banner : String}
    {rest : List String}
    (hRecords : Str.records raw = banner :: rest)
    (hJson : ¬ IsJson banner) :
    findingsOf scanner (readRecords raw) =
      if OpensText raw then findingsOf scanner rest
      else none := by
  rw [readRecords_of_not_isJson hRecords hJson]
  by_cases hOpens : OpensText raw
  · rw [if_pos hOpens, if_pos hOpens]
  · rw [if_neg hOpens, if_neg hOpens]
    refine Option.not_isSome_iff_eq_none.mp ?_
    rw [isSome_findingsOf, List.forall_mem_cons]
    exact fun h => hJson h.1

/- A banner is a first record alone in being no value. -/
theorem hasBanner_iff
    {raw banner : String}
    {rest : List String}
    (hRecords : Str.records raw = banner :: rest) :
    HasBanner raw ↔
      ¬ IsJson banner ∧ ∀ line ∈ rest, IsJson line := by
  unfold HasBanner
  rw [hRecords]
  constructor
  · rintro ⟨banner', rest', hSame, hBanner⟩
    rcases List.cons.inj hSame with ⟨rfl, rfl⟩
    exact hBanner
  · exact fun hBanner => ⟨banner, rest, rfl, hBanner⟩

/-
  Blank lines are ignored unless there is a banner, and then
  as long as none of them comes before it.
-/
theorem ignoresBlankLines_iff
    (scanner : ScannerKind)
    {raw raw' : String}
    (hEdits : Relation.EqvGen Str.BlankEdit raw raw') :
    IgnoresBlankLines scanner raw raw' ↔
      (HasBanner raw → OpensText raw ∧ OpensText raw') := by
  have hSame := Str.records_eq_of_edits hEdits
  unfold IgnoresBlankLines
  rw [exists_ok_iff, ← isSome_findingsOf scanner,
    ← isSome_findingsOf scanner, toOption_trufflehogParse,
    toOption_trufflehogParse]
  cases hRecords : Str.records raw with
  | nil =>
      have hBanner : ¬ HasBanner raw := by
        simp [HasBanner, hRecords]
      have hRead : readRecords raw = [] := by
        rw [readRecords, hRecords]
      have hRead' : readRecords raw' = [] := by
        rw [readRecords, ← hSame, hRecords]
      simp [hRead, hRead', hBanner]
  | cons banner rest =>
      have hRecords' := hSame.symm.trans hRecords
      rw [hasBanner_iff hRecords, List.tail_cons,
        ← isSome_findingsOf scanner rest]
      by_cases hJson : IsJson banner
      · rw [readRecords_of_isJson hRecords hJson,
          readRecords_of_isJson hRecords' hJson,
          isSome_findingsOf, isSome_findingsOf]
        simp [hJson]
      · rw [findingsOf_readRecords_of_banner scanner hRecords
            hJson,
          findingsOf_readRecords_of_banner scanner hRecords'
            hJson]
        cases findingsOf scanner rest with
        | none => simp
        | some fs =>
            by_cases hOpens : OpensText raw
            · by_cases hOpens' : OpensText raw'
              · simp [hOpens, hOpens', hJson]
              · simp [hOpens, hOpens', hJson]
            · simp [hOpens, hJson]

end Trufflehog

end EngenhoPromessa

namespace EngenhoPromessa

namespace Reference

/- A banner and one record. -/
def banneredText : String :=
  "starting\n\x7b\x7d\n"

theorem blankEdit_banneredText :
    Str.BlankEdit banneredText ("\n" ++ banneredText) := by
  have hEdit := Str.BlankEdit.line "" "" banneredText
    (.inl rfl) (by simp [Str.IsBlank])
  simpa using hEdit

end Reference

namespace Trufflehog

open Reference

/- With the blank line the text opens otherwise. -/
theorem ignoresBlankLines_iff_bannered :
    IgnoresBlankLines .trufflehog banneredText
        ("\n" ++ banneredText) ↔
      (HasBanner banneredText →
        OpensText banneredText ∧
          OpensText ("\n" ++ banneredText)) :=
  ignoresBlankLines_iff .trufflehog
    (.rel _ _ blankEdit_banneredText)

/- The banner is then no longer passed over. -/
theorem not_ignoresBlankLines_bannered :
    ¬ ∀ raw raw',
      Relation.EqvGen Str.BlankEdit raw raw' →
      IgnoresBlankLines .trufflehog raw raw' := by
  intro hIgnores
  have hSame := (hIgnores banneredText ("\n" ++ banneredText)
    (.rel _ _ blankEdit_banneredText)).1
  exact absurd (congrArg Option.isSome hSame) (by decide)

end Trufflehog

end EngenhoPromessa
