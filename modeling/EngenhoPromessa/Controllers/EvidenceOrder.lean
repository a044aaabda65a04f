import EngenhoPromessa.Collections.StableSort
import EngenhoPromessa.Controllers.GateSafety

/-
  The evidence does not depend on the order in which the
  children are listed.

  The sort key leaves ties, and ties keep the order of the
  input. But tied findings have one scanner, and with it one
  child, whose own order no listing changes.

  Key theorems include:
    * `ImageValidation.canonicalFindingsBytes_perm`
-/

------------------------------------------------------------
-- The Order Of Findings
------------------------------------------------------------

namespace EngenhoPromessa

namespace ImageValidation

theorem findingOrder_eq_compareLex :
    findingOrder =
      compareLex (compareOn ScanFinding.scanner)
        (compareLex (compareOn ScanFinding.cveId)
          (compareOn ScanFinding.firstSeen)) := rfl

instance : Std.TransCmp findingOrder :=
  findingOrder_eq_compareLex ▸ inferInstance

/- `a` may stand before `b` in the evidence. -/
def FindingLe (a b : ScanFinding) : Prop :=
  findingOrder a b ≠ .gt

instance (a b : ScanFinding) : Decidable (FindingLe a b) :=
  inferInstanceAs (Decidable (findingOrder a b ≠ .gt))

instance : Std.Total FindingLe :=
  inferInstanceAs
    (Std.Total (StableSort.NotAfter findingOrder))

instance : IsTrans ScanFinding FindingLe :=
  inferInstanceAs
    (IsTrans ScanFinding (StableSort.NotAfter findingOrder))

/- Tied findings are of one scanner. -/
theorem scanner_eq_of_ties
    {a b : ScanFinding}
    (hTies : StableSort.Ties FindingLe a b) :
    a.scanner = b.scanner := by
  have hEq : findingOrder a b = .eq :=
    StableSort.eq_of_ties hTies
  have hScanner : compare a.scanner b.scanner = .eq := by
    unfold findingOrder at hEq
    exact (Ordering.then_eq_eq.mp hEq).1
  exact compare_eq_iff_eq.mp hScanner

end ImageValidation

end EngenhoPromessa

------------------------------------------------------------
-- Children In Any Order
------------------------------------------------------------

namespace EngenhoPromessa

namespace ImageValidation

/- Every finding carries the scanner of its own child. -/
def CarriesOwnScanner (children : List ScanJob) : Prop :=
  ∀ c ∈ children, ∀ f ∈ childFindings c,
    f.scanner = c.spec.scanner

/- What ties with a finding comes from its scanner's child. -/
theorem tiesWith_flatMap
    {children : List ScanJob}
    (hOwn : CarriesOwnScanner children)
    (f : ScanFinding) :
    StableSort.tiesWith FindingLe f
        (children.flatMap childFindings) =
      (children.filter (fun c =>
          c.spec.scanner = f.scanner)).flatMap
        (fun c =>
          StableSort.tiesWith FindingLe f
            (childFindings c)) := by
  induction children with
  | nil => rfl
  | cons c children ih =>
      rcases List.forall_mem_cons.mp hOwn with
        ⟨hFirst, hRest⟩
      have hTail := ih hRest
      unfold StableSort.tiesWith at hTail ⊢
      rw [List.flatMap_cons, List.filter_append, hTail]
      by_cases hScanner : c.spec.scanner = f.scanner
      · simp [hScanner]
      · have hNone :
            (childFindings c).filter (fun g =>
              StableSort.Ties FindingLe f g) = [] := by
          refine List.filter_eq_nil_iff.mpr ?_
          intro g hMem hTies
          have hSame :=
            scanner_eq_of_ties (of_decide_eq_true hTies)
          exact hScanner
            ((hFirst g hMem).symm.trans hSame.symm)
        simp [hScanner, hNone]

/-
  Children with distinct scanners give the same evidence in
  every order, whatever ties their findings have.
-/
theorem canonicalFindingsBytes_perm
    [Chrono]
    [SerdeJson]
    {children children' : List ScanJob}
    (hDistinct :
      (children.map (fun c => c.spec.scanner)).Nodup)
    (hOwn : CarriesOwnScanner children)
    (hPerm : children.Perm children') :
    canonicalFindingsBytes children =
      canonicalFindingsBytes children' := by
  have hOwn' : CarriesOwnScanner children' :=
    fun c hMem => hOwn c (hPerm.mem_iff.mpr hMem)
  have hSorted :
      sortedFindings children = sortedFindings children' := by
    change List.insertionSort FindingLe _ =
      List.insertionSort FindingLe _
    refine StableSort.insertionSort_eq_of_classes
      (fun f => ?_)
    rw [tiesWith_flatMap hOwn, tiesWith_flatMap hOwn',
      StableSort.filter_eq_of_perm hDistinct hPerm]
  unfold canonicalFindingsBytes
  rw [hSorted]

end ImageValidation

namespace Reference

/- Two scanners' children, each with two tied findings. -/
def tiedChildren : List ScanJob :=
  [childOf .trivy .attested
      [{ verifiedSecret with scanner := .trivy },
        { verifiedSecret with
          scanner := .trivy
          message := none }],
    childOf .trufflehog .attested
      [verifiedSecret, { verifiedSecret with message := none }]]

end Reference

namespace ImageValidation

/- Two children whose findings tie, in either order. -/
theorem canonicalFindingsBytes_perm_tied :
    canonicalFindingsBytes Reference.tiedChildren =
      canonicalFindingsBytes Reference.tiedChildren.reverse :=
  canonicalFindingsBytes_perm (by decide)
    (by
      intro c hChild f hFinding
      simp only [Reference.tiedChildren, List.mem_cons,
        List.not_mem_nil, or_false] at hChild
      rcases hChild with rfl | rfl
      · have hBoth := List.mem_cons.mp hFinding
        simp only [List.mem_singleton] at hBoth
        rcases hBoth with rfl | rfl
        · rfl
        · rfl
      · have hBoth := List.mem_cons.mp hFinding
        simp only [List.mem_singleton] at hBoth
        rcases hBoth with rfl | rfl
        · rfl
        · rfl)
    (List.reverse_perm _).symm

end ImageValidation

end EngenhoPromessa
