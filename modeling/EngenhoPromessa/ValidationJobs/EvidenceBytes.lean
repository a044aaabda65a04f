import EngenhoPromessa.Collections.Cuts
import EngenhoPromessa.Collections.StableSort
import EngenhoPromessa.Text.Str
import EngenhoPromessa.ValidationJobs.Aggregate

/-
  What the evidence bytes of the aggregate say about the
  findings. The fields end with zeros, which texts may have
  in them, an absent CVE is written as an empty one, and the
  sort leaves findings tied that differ in severity.

  Key definitions include:
    * `ValidationJobs.Faithful`
    * `ValidationJobs.ZeroFree`
    * `ValidationJobs.FaithfulOn`

  Key theorems include:
    * `ValidationJobs.forall₂_sameFields`
    * `ValidationJobs.faithful_iff`
-/

------------------------------------------------------------
-- Faithful Bytes
------------------------------------------------------------

namespace EngenhoPromessa

namespace ValidationJobs

variable {JobId : Type}

/-
  However the two maps are read, the bytes are the same just
  when the findings are.
-/
def Faithful (sink sink' : ScanResultSink JobId) : Prop :=
  ∀ outcomes outcomes',
    sink.IsOutcomes outcomes →
    sink'.IsOutcomes outcomes' →
    (aggregateBytes outcomes = aggregateBytes outcomes' ↔
      sink.findings.Perm sink'.findings)

/- Faithful on all sinks with findings of one class. -/
def FaithfulOn
    (JobId : Type)
    (D : Finding → Prop) : Prop :=
  ∀ sink sink' : ScanResultSink JobId,
    (∀ f ∈ sink.findings, D f) →
    (∀ f ∈ sink'.findings, D f) →
    Faithful sink sink'

/- The text of no field has a zero in it. -/
structure ZeroFree (f : Finding) : Prop where
  scanner : '\x00' ∉ f.scanner.toList
  severity : '\x00' ∉ f.severity.toList
  cveId : '\x00' ∉ (f.cveId.getD "").toList

/- The findings agree in all that is written of them. -/
structure SameFields (f g : Finding) : Prop where
  scanner : f.scanner = g.scanner
  severity : f.severity = g.severity
  cveId : f.cveId.getD "" = g.cveId.getD ""

end ValidationJobs

end EngenhoPromessa

------------------------------------------------------------
-- Texts Of Findings
------------------------------------------------------------

namespace EngenhoPromessa

namespace ValidationJobs

/- What is written of a finding. -/
def findingText (f : Finding) : List Char :=
  f.scanner.toList ++ '\x00' ::
    (f.severity.toList ++ '\x00' ::
      ((f.cveId.getD "").toList ++ ['\x00']))

/- The bytes are those of one text. -/
theorem serdeBytesOf_eq (fs : List Finding) :
    serdeBytesOf fs =
      Str.asBytes (String.ofList (fs.flatMap findingText)) := by
  have hZero : [0] = Str.asBytes "\x00" := rfl
  induction fs with
  | nil => rfl
  | cons f fs ih =>
      unfold serdeBytesOf at ih ⊢
      rw [List.flatMap_cons, ih, hZero]
      simp only [← Str.asBytes_append]
      refine congrArg Str.asBytes (String.toList_inj.mp ?_)
      simp [findingText]

theorem serdeBytesOf_eq_iff {fs gs : List Finding} :
    serdeBytesOf fs = serdeBytesOf gs ↔
      fs.flatMap findingText = gs.flatMap findingText := by
  rw [serdeBytesOf_eq, serdeBytesOf_eq,
    Str.asBytes_injective.eq_iff, String.ofList_inj]

/- Three zeros end the fields; more are in the fields. -/
theorem count_findingText (f : Finding) :
    (findingText f).count '\x00' =
      f.scanner.toList.count '\x00' +
        f.severity.toList.count '\x00' +
        (f.cveId.getD "").toList.count '\x00' + 3 := by
  simp only [findingText, List.count_append,
    List.count_cons_self, List.count_nil]
  omega

/- A finding without zeros is written with three. -/
theorem zeroFree_iff {f : Finding} :
    ZeroFree f ↔ (findingText f).count '\x00' = 3 := by
  rw [count_findingText]
  constructor
  · rintro ⟨hScanner, hSeverity, hCve⟩
    rw [List.count_eq_zero.mpr hScanner,
      List.count_eq_zero.mpr hSeverity,
      List.count_eq_zero.mpr hCve]
  · intro hCount
    refine ⟨?_, ?_, ?_⟩ <;>
      exact List.count_eq_zero.mp (by omega)

/- Every finding has three zeros at least. -/
theorem three_mul_length_le (fs : List Finding) :
    3 * fs.length ≤
      (fs.flatMap findingText).count '\x00' := by
  induction fs with
  | nil => simp
  | cons f fs ih =>
      rw [List.flatMap_cons, List.count_append,
        count_findingText, List.length_cons]
      omega

theorem findingText_append (f : Finding) (rest : List Char) :
    findingText f ++ rest =
      f.scanner.toList ++ '\x00' ::
        (f.severity.toList ++ '\x00' ::
          ((f.cveId.getD "").toList ++ '\x00' :: rest)) := by
  simp [findingText]

/- Without zeros, a text is read in one way only. -/
theorem sameFields_of_append_eq
    {f g : Finding}
    (hF : ZeroFree f)
    (hG : ZeroFree g)
    {rest rest' : List Char}
    (hText :
      findingText f ++ rest = findingText g ++ rest') :
    SameFields f g ∧ rest = rest' := by
  rw [findingText_append, findingText_append] at hText
  rcases Cuts.eq_of_not_mem hF.scanner hG.scanner hText with
    ⟨hScanner, hText⟩
  rcases Cuts.eq_of_not_mem hF.severity hG.severity hText with
    ⟨hSeverity, hText⟩
  rcases Cuts.eq_of_not_mem hF.cveId hG.cveId hText with
    ⟨hCve, hRest⟩
  exact
    ⟨{ scanner := String.toList_inj.mp hScanner
       severity := String.toList_inj.mp hSeverity
       cveId := String.toList_inj.mp hCve }, hRest⟩

theorem findingText_congr
    {f g : Finding}
    (hSame : SameFields f g) :
    findingText f = findingText g := by
  rw [findingText, findingText, hSame.scanner,
    hSame.severity, hSame.cveId]

/- Without zeros the text tells where each field ends. -/
theorem forall₂_sameFields
    {fs gs : List Finding}
    (hFs : ∀ f ∈ fs, ZeroFree f)
    (hGs : ∀ g ∈ gs, ZeroFree g)
    (hText :
      fs.flatMap findingText = gs.flatMap findingText) :
    List.Forall₂ SameFields fs gs := by
  induction fs generalizing gs with
  | nil =>
      cases gs with
      | nil => exact .nil
      | cons g gs => simp [findingText] at hText
  | cons f fs ih =>
      cases gs with
      | nil => simp [findingText] at hText
      | cons g gs =>
          rw [List.forall_mem_cons] at hFs hGs
          rcases sameFields_of_append_eq hFs.1 hGs.1 hText with
            ⟨hSame, hRest⟩
          exact .cons hSame (ih hFs.2 hGs.2 hRest)

/- Only one finding has the text of one without zeros. -/
theorem exists_sameFields_of_text_eq
    {f : Finding}
    (hFree : ZeroFree f)
    {gs : List Finding}
    (hText : gs.flatMap findingText = findingText f) :
    ∃ g, gs = [g] ∧ SameFields g f := by
  have hCount : (findingText f).count '\x00' = 3 :=
    zeroFree_iff.mp hFree
  have hLength := three_mul_length_le gs
  rw [hText, hCount] at hLength
  rcases gs with _ | ⟨g, _ | ⟨g', gs⟩⟩
  · simp [findingText] at hText
  · rw [List.flatMap_singleton] at hText
    have hG : ZeroFree g := by
      rw [zeroFree_iff, hText, hCount]
    refine ⟨g, rfl, ?_⟩
    exact (sameFields_of_append_eq hG hFree
      (congrArg (· ++ []) hText)).1
  · simp only [List.length_cons] at hLength
    omega

end ValidationJobs

end EngenhoPromessa

------------------------------------------------------------
-- One Content Among All Others
------------------------------------------------------------

namespace EngenhoPromessa

namespace ValidationJobs

variable {JobId : Type}

theorem aggregateBytes_eq_iff
    {outcomes outcomes' : List ScanOutcome} :
    aggregateBytes outcomes = aggregateBytes outcomes' ↔
      (sortedFindings outcomes).flatMap findingText =
        (sortedFindings outcomes').flatMap findingText :=
  serdeBytesOf_eq_iff

/- A report of these findings. -/
def outcomeOf (findings : List Finding) : ScanOutcome where
  scanner := ""
  findings := findings
  hash := ""

/- A sink with one report. -/
def sinkOf
    [Inhabited JobId]
    (findings : List Finding) : ScanResultSink JobId where
  inner := [(default, outcomeOf findings)]
  nodup := List.nodup_singleton _

/- It has one outcome, so it is read in one order. -/
theorem isOutcomes_sinkOf
    [Inhabited JobId]
    (findings : List Finding) :
    (sinkOf findings : ScanResultSink JobId).IsOutcomes
      [outcomeOf findings] :=
  .refl _

/- And it has these findings. -/
@[simp] theorem findings_sinkOf
    [Inhabited JobId]
    (findings : List Finding) :
    (sinkOf findings : ScanResultSink JobId).findings =
      findings := by
  simp [ScanResultSink.findings, sinkOf, outcomeOf]

/- They are sorted by scanner and CVE. -/
@[simp] theorem sortedFindings_outcomeOf
    (findings : List Finding) :
    sortedFindings [outcomeOf findings] =
      findings.insertionSort
        (StableSort.NotAfter findingOrder) := by
  simp only [sortedFindings, outcomeOf,
    List.flatMap_singleton]
  rfl

/- A finding with the text of all is all there is. -/
theorem findings_eq_singleton
    [Inhabited JobId]
    {sink : ScanResultSink JobId}
    (hFaithful : ∀ sink', Faithful sink sink')
    {outcomes : List ScanOutcome}
    (hOutcomes : sink.IsOutcomes outcomes)
    {g : Finding}
    (hText :
      (sortedFindings outcomes).flatMap findingText =
        findingText g) :
    sink.findings = [g] := by
  have hBytes :
      aggregateBytes outcomes =
        aggregateBytes [outcomeOf [g]] := by
    rw [aggregateBytes_eq_iff, hText]
    simp
  have hPerm := (hFaithful (sinkOf [g]) outcomes
    [outcomeOf [g]] hOutcomes (isOutcomes_sinkOf [g])).mp
    hBytes
  rw [findings_sinkOf] at hPerm
  exact List.perm_singleton.mp hPerm

/- Many findings have the text of one with a long CVE. -/
theorem exists_findingText_eq
    (f : Finding)
    (fs : List Finding) :
    ∃ g, findingText g = (f :: fs).flatMap findingText := by
  induction fs generalizing f with
  | nil => exact ⟨f, by simp⟩
  | cons f' fs ih =>
      rcases ih f' with ⟨g, hG⟩
      refine ⟨{ f with cveId := some (String.ofList
        ((f.cveId.getD "").toList ++ '\x00' ::
          (g.scanner.toList ++ '\x00' ::
            (g.severity.toList ++ '\x00' ::
              (g.cveId.getD "").toList)))) }, ?_⟩
      rw [List.flatMap_cons, ← hG]
      simp [findingText]

/- What no other finding is written like has no zeros. -/
theorem zeroFree_of_text_unique
    {f : Finding}
    (hUnique : ∀ g, findingText g = findingText f → g = f) :
    ZeroFree f ∧ f.cveId.getD "" ≠ "" := by
  have hZero {s : String} (hMem : '\x00' ∈ s.toList) :
      ∃ x y, s = x ++ "\x00" ++ y :=
    Str.exists_append_of_mem (by decide) hMem
  have hNe (x y : String) : x ++ "\x00" ++ y ≠ x :=
    Str.append_append_ne (by decide) x y
  refine ⟨⟨?_, ?_, ?_⟩, ?_⟩
  · intro hMem
    rcases hZero hMem with ⟨x, y, hScanner⟩
    have hRead := hUnique
      { scanner := x
        severity := y
        cveId := some
          (f.severity ++ "\x00" ++ f.cveId.getD "") }
      (by simp [findingText, hScanner])
    exact hNe x y (hScanner.symm.trans
      (congrArg Finding.scanner hRead).symm)
  · intro hMem
    rcases hZero hMem with ⟨x, y, hSeverity⟩
    have hRead := hUnique
      { scanner := f.scanner ++ "\x00" ++ x
        severity := y
        cveId := f.cveId }
      (by simp [findingText, hSeverity])
    exact hNe f.scanner x (congrArg Finding.scanner hRead)
  · intro hMem
    rcases hZero hMem with ⟨x, y, hCve⟩
    have hRead := hUnique
      { scanner := f.scanner
        severity := f.severity ++ "\x00" ++ x
        cveId := some y }
      (by simp [findingText, hCve])
    exact hNe f.severity x (congrArg Finding.severity hRead)
  · intro hEmpty
    -- An absent CVE and an empty one are written alike.
    have hNone := hUnique { f with cveId := none }
      (by simp [findingText, hEmpty])
    have hSome := hUnique { f with cveId := some "" }
      (by simp [findingText, hEmpty])
    have hBoth := congrArg Finding.cveId
      (hNone.trans hSome.symm)
    simp at hBoth

/- The content is nothing, or one finding read one way. -/
def IsPlain (findings : List Finding) : Prop :=
  findings = [] ∨
    ∃ f, findings = [f] ∧ ZeroFree f ∧
      f.cveId.getD "" ≠ ""

/- Two findings can be read another way, so there is one. -/
theorem isPlain_of_faithful
    [Inhabited JobId]
    {sink : ScanResultSink JobId}
    (hFaithful : ∀ sink', Faithful sink sink') :
    IsPlain sink.findings := by
  have hOutcomes :
      sink.IsOutcomes (sink.inner.map Prod.snd) := .refl _
  have hPerm := sortedFindings_perm hOutcomes
  have hAll {g : Finding} := findings_eq_singleton (g := g)
    hFaithful hOutcomes
  rcases hSorted :
      sortedFindings (sink.inner.map Prod.snd) with
    _ | ⟨f, fs⟩
  · rw [hSorted] at hPerm
    exact .inl (List.nil_perm.mp hPerm)
  · rw [hSorted] at hPerm hAll
    rcases exists_findingText_eq f fs with ⟨g, hG⟩
    rw [hAll hG.symm] at hPerm
    -- The one finding is the first, so there are no more.
    obtain ⟨rfl, rfl⟩ :=
      List.cons.inj (List.perm_singleton.mp hPerm)
    have hOne := hAll hG.symm
    refine .inr ⟨f, hOne, zeroFree_of_text_unique ?_⟩
    intro g hText
    have hOther := hAll (g := g)
      (by rw [List.flatMap_singleton, hText])
    exact (List.cons.inj (hOther.symm.trans hOne)).1

/- One plain finding is read in one way only. -/
theorem faithful_of_isPlain
    {sink : ScanResultSink JobId}
    (hPlain : IsPlain sink.findings)
    (sink' : ScanResultSink JobId) :
    Faithful sink sink' := by
  intro outcomes outcomes' hOutcomes hOutcomes'
  have hPerm := sortedFindings_perm hOutcomes
  have hPerm' := sortedFindings_perm hOutcomes'
  rw [aggregateBytes_eq_iff]
  rcases hPlain with hNone | ⟨f, hOne, hFree, hCve⟩
  · rw [hNone, List.perm_nil] at hPerm
    rw [hNone, hPerm, List.nil_perm]
    constructor
    · intro hText
      have hLength := three_mul_length_le
        (sortedFindings outcomes')
      rw [← hText, hPerm'.length_eq] at hLength
      simp only [List.flatMap_nil, List.count_nil] at hLength
      exact List.length_eq_zero_iff.mp (by omega)
    · intro hNone'
      rw [hNone', List.perm_nil] at hPerm'
      rw [hPerm']
  · rw [hOne, List.perm_singleton] at hPerm
    rw [hOne, hPerm, List.flatMap_singleton,
      List.singleton_perm]
    constructor
    · intro hText
      rcases exists_sameFields_of_text_eq hFree hText.symm
        with ⟨g, hSorted, hSame⟩
      obtain rfl : g = f :=
        Finding.ext hSame.scanner hSame.severity
          (Str.eq_of_getD_eq hCve hSame.cveId)
      rw [hSorted] at hPerm'
      exact List.singleton_perm.mp hPerm'
    · intro hOne'
      rw [← hOne', List.perm_singleton] at hPerm'
      rw [hPerm', List.flatMap_singleton]

end ValidationJobs

end EngenhoPromessa

------------------------------------------------------------
-- Contents Of One Class
------------------------------------------------------------

namespace EngenhoPromessa

namespace ValidationJobs

/-
  Findings of the class that are sorted alike, or written
  alike, are the same.
-/
def TellsApart (D : Finding → Prop) : Prop :=
  ∀ f g, D f → D g → f.scanner = g.scanner →
    f.cveId = g.cveId ∨
      (f.severity = g.severity ∧
        f.cveId.getD "" = g.cveId.getD "") →
    f = g

instance : Std.TransCmp findingOrder := by
  have hLex :
      findingOrder =
        compareLex (compareOn Finding.scanner)
          (compareOn Finding.cveId) := rfl
  exact hLex ▸ inferInstance

theorem findingOrder_eq_iff {f g : Finding} :
    findingOrder f g = .eq ↔
      f.scanner = g.scanner ∧ f.cveId = g.cveId := by
  rw [findingOrder, Ordering.then_eq_eq,
    Std.compare_eq_iff_eq, Std.compare_eq_iff_eq]

/- In such a class findings written alike are the same. -/
theorem eq_of_forall₂_sameFields
    {D : Finding → Prop}
    (hApart : TellsApart D)
    {fs gs : List Finding}
    (hFs : ∀ f ∈ fs, D f)
    (hGs : ∀ g ∈ gs, D g)
    (hSame : List.Forall₂ SameFields fs gs) :
    fs = gs := by
  induction hSame with
  | nil => rfl
  | cons hHead _ ih =>
      rw [List.forall_mem_cons] at hFs hGs
      rw [ih hFs.2 hGs.2, hApart _ _ hFs.1 hGs.1 hHead.scanner
        (.inr ⟨hHead.severity, hHead.cveId⟩)]

/-
  Then the order is that of the findings, and their texts
  part them.
-/
theorem faithfulOn_of_tellsApart
    {JobId : Type}
    {D : Finding → Prop}
    (hFree : ∀ f, D f → ZeroFree f)
    (hApart : TellsApart D) :
    FaithfulOn JobId D := by
  intro sink sink' hD hD' outcomes outcomes'
    hOutcomes hOutcomes'
  have hPerm := sortedFindings_perm hOutcomes
  have hPerm' := sortedFindings_perm hOutcomes'
  rw [aggregateBytes_eq_iff]
  constructor
  · intro hText
    have hOf : ∀ f ∈ sortedFindings outcomes, D f :=
      fun f hMem => hD f (hPerm.mem_iff.mp hMem)
    have hOf' : ∀ f ∈ sortedFindings outcomes', D f :=
      fun f hMem => hD' f (hPerm'.mem_iff.mp hMem)
    have hSame := forall₂_sameFields
      (fun f hMem => hFree f (hOf f hMem))
      (fun f hMem => hFree f (hOf' f hMem)) hText
    have hSorted := eq_of_forall₂_sameFields hApart hOf hOf'
      hSame
    exact hPerm.symm.trans (hSorted ▸ hPerm')
  · intro hFindings
    have hRead := hOutcomes.flatMap_right
      ScanOutcome.findings
    have hRead' := hOutcomes'.flatMap_right
      ScanOutcome.findings
    have hSorted :
        sortedFindings outcomes = sortedFindings outcomes' := by
      refine StableSort.insertionSort_eq_of_perm ?_
        (hRead.trans (hFindings.trans hRead'.symm))
      intro f hF g hG hTie
      rcases findingOrder_eq_iff.mp hTie with
        ⟨hScanner, hCve⟩
      exact hApart f g (hD f (hRead.mem_iff.mp hF))
        (hD g (hRead.mem_iff.mp hG)) hScanner (.inl hCve)
    rw [hSorted]

/- Reports of tied findings keep their order in the bytes. -/
theorem tellsApart_of_faithfulOn
    {JobId : Type}
    [Inhabited JobId]
    {D : Finding → Prop}
    (hFree : ∀ f, D f → ZeroFree f)
    (hFaithful : FaithfulOn JobId D) :
    TellsApart D := by
  have hOf (fs gs : List Finding)
      (hFs : ∀ f ∈ fs, D f)
      (hGs : ∀ g ∈ gs, D g) :=
    hFaithful (sinkOf fs) (sinkOf gs)
      (by simpa using hFs) (by simpa using hGs)
      [outcomeOf fs] [outcomeOf gs]
      (isOutcomes_sinkOf fs) (isOutcomes_sinkOf gs)
  simp only [aggregateBytes_eq_iff, findings_sinkOf,
    sortedFindings_outcomeOf] at hOf
  rintro f g hF hG hScanner (hCve | ⟨hSeverity, hCve⟩)
  · have hLe : StableSort.NotAfter findingOrder f g := by
      simp [StableSort.NotAfter,
        findingOrder_eq_iff.mpr ⟨hScanner, hCve⟩]
    have hGe : StableSort.NotAfter findingOrder g f := by
      simp [StableSort.NotAfter,
        findingOrder_eq_iff.mpr ⟨hScanner.symm, hCve.symm⟩]
    have hText := (hOf [f, g] [g, f]
      (by simp [hF, hG]) (by simp [hF, hG])).mpr
      (.swap g f [])
    simp only [List.insertionSort_cons,
      List.insertionSort_nil, List.orderedInsert_nil,
      List.orderedInsert_cons, if_pos hLe, if_pos hGe,
      List.flatMap_cons] at hText
    have hSame := (sameFields_of_append_eq (hFree f hF)
      (hFree g hG) hText).1
    exact Finding.ext hScanner hSame.severity hCve
  · have hText : findingText f = findingText g :=
      findingText_congr ⟨hScanner, hSeverity, hCve⟩
    have hPerm := (hOf [f] [g] (by simp [hF])
      (by simp [hG])).mp (by simp [hText])
    exact (List.cons.inj (List.perm_singleton.mp hPerm)).1

/-
  Against every other content, only the bytes of no finding
  or of one plain finding are faithful. On findings without
  zeros, they are faithful just when those sorted alike or
  written alike are the same.
-/
theorem faithful_iff
    (JobId : Type)
    [Inhabited JobId] :
    (∀ sink : ScanResultSink JobId,
      (∀ sink', Faithful sink sink') ↔
        IsPlain sink.findings) ∧
      ∀ D : Finding → Prop,
        (∀ f, D f → ZeroFree f) →
        (FaithfulOn JobId D ↔ TellsApart D) :=
  ⟨fun _ => ⟨isPlain_of_faithful, faithful_of_isPlain⟩,
    fun _ hFree =>
      ⟨tellsApart_of_faithfulOn hFree,
        faithfulOn_of_tellsApart hFree⟩⟩

end ValidationJobs

end EngenhoPromessa

namespace EngenhoPromessa

namespace Reference

open ValidationJobs

/- One CVE that a scanner rates in two ways. -/
def ratedFinding
    (severity : String) : ValidationJobs.Finding where
  scanner := "trivy"
  severity := severity
  cveId := some "CVE-2025-0001"

/- One job reports that CVE with these ratings. -/
def ratedSink
    (severities : List String) : ScanResultSink String :=
  ScanResultSink.new.record "epc.scan/trivy@sha256:abc"
    (outcomeOf (severities.map ratedFinding))

/- What a scanner reports that rates every CVE as high. -/
structure HighTrivy (f : ValidationJobs.Finding) :
    Prop where
  scanner : f.scanner = "trivy"
  severity : f.severity = "High"
  cveId : ∃ cveId,
    f.cveId = some cveId ∧ '\x00' ∉ cveId.toList

/- What one reports that rates one CVE either way. -/
def RatedTrivy (f : ValidationJobs.Finding) : Prop :=
  f = ratedFinding "High" ∨ f = ratedFinding "Low"

/- Its findings have no zero in them. -/
theorem zeroFree_of_highTrivy
    {f : ValidationJobs.Finding}
    (hHigh : HighTrivy f) :
    ZeroFree f := by
  rcases hHigh with ⟨hScanner, hSeverity, cveId, hCve, hFree⟩
  refine ⟨?_, ?_, ?_⟩
  · rw [hScanner]
    decide
  · rw [hSeverity]
    decide
  · rw [hCve]
    exact hFree

/- Two of them differ in the CVE or not at all. -/
theorem tellsApart_highTrivy : TellsApart HighTrivy := by
  rintro ⟨scanner, severity, cveId⟩
    ⟨scanner', severity', cveId'⟩
    ⟨_, hSeverity, id, hId, _⟩
    ⟨_, hSeverity', id', hId', _⟩
    hScanner hAlike
  subst hScanner hSeverity hSeverity' hId hId'
  rcases hAlike with hSorted | ⟨_, hWritten⟩
  · cases hSorted
    rfl
  · cases hWritten
    rfl

/- Nor do these. -/
theorem zeroFree_of_ratedTrivy
    {f : ValidationJobs.Finding}
    (hRated : RatedTrivy f) :
    ZeroFree f := by
  rcases hRated with rfl | rfl
  · exact ⟨by decide, by decide, by decide⟩
  · exact ⟨by decide, by decide, by decide⟩

/- These two are sorted alike. -/
theorem not_tellsApart_ratedTrivy :
    ¬ TellsApart RatedTrivy := by
  intro hApart
  exact absurd
    (hApart (ratedFinding "High") (ratedFinding "Low")
      (.inl rfl) (.inr rfl) rfl (.inl rfl))
    (by decide)

end Reference

namespace ValidationJobs

open Reference

/- Each part, where it holds and where it does not. -/
theorem faithful_iff_trivy :
    ((∀ sink', Faithful (ratedSink ["High"]) sink') ∧
      ¬ ∀ sink', Faithful (ratedSink ["High", "Low"]) sink') ∧
    FaithfulOn String HighTrivy ∧
      ¬ FaithfulOn String RatedTrivy := by
  rcases faithful_iff String with ⟨hOne, hClass⟩
  have hPlain : IsPlain (ratedSink ["High"]).findings :=
    .inr ⟨ratedFinding "High", rfl,
      zeroFree_of_ratedTrivy (.inl rfl), by decide⟩
  have hNotPlain :
      ¬ IsPlain (ratedSink ["High", "Low"]).findings := by
    rintro (hNone | ⟨f, hOnly, -⟩)
    · cases hNone
    · cases hOnly
  refine ⟨⟨(hOne _).mpr hPlain, ?_⟩, ?_, ?_⟩
  · exact fun hFaithful => hNotPlain ((hOne _).mp hFaithful)
  · exact (hClass _ (fun _ => zeroFree_of_highTrivy)).mpr
      tellsApart_highTrivy
  · intro hFaithful
    exact not_tellsApart_ratedTrivy
      ((hClass _ (fun _ => zeroFree_of_ratedTrivy)).mp
        hFaithful)

/- One multiset of findings, and two evidences of it. -/
theorem not_faithful_rated :
    ¬ ∀ sink sink' : ScanResultSink String,
      Faithful sink sink' := by
  intro hFaithful
  have hBytes := hFaithful
    (Reference.ratedSink ["High", "Low"])
    (Reference.ratedSink ["Low", "High"])
    _ _ (.refl _) (.refl _)
  exact absurd (hBytes.mpr (.swap _ _ [])) (by decide)

end ValidationJobs

end EngenhoPromessa
