import EngenhoPromessa.Text.Str
import Mathlib.Data.List.Infix

/-
  `str::to_lowercase`, and what a search for a pattern finds
  in its result.

  A capital sigma is the one letter whose small form depends
  on the letters around it. With its two small forms taken
  as one, lower-casing goes letter by letter.

  Key definitions include:
    * `Str.UnicodeCase`
    * `Str.toLowercase`
    * `Str.foldedLowercase`

  Key theorems include:
    * `Str.contains_toLowercase_iff`
    * `Str.endsWith_toLowercase_iff`
    * `Str.foldedLowercase_append`
-/

------------------------------------------------------------
-- Lower-Casing
------------------------------------------------------------

namespace Str

/-
  The tables of the Unicode database that lower-casing reads,
  known on the ASCII characters.
-/
class UnicodeCase where
  toLowercase : Char → List Char
  cased : Char → Bool
  caseIgnorable : Char → Bool
  toLowercase_ascii :
    ∀ c : Char, c.toNat < 128 →
      toLowercase c = [toAsciiLower c]

variable [UnicodeCase]

/- A cased letter follows, with at most ignorable ones first. -/
def caseIgnorableThenCased (cs : List Char) : Bool :=
  match cs.dropWhile UnicodeCase.caseIgnorable with
  | c :: _ => UnicodeCase.cased c
  | [] => false

/- A sigma that ends a word has a form of its own. -/
def mapUppercaseSigma (before after : List Char) : Char :=
  if caseIgnorableThenCased before &&
      !caseIgnorableThenCased after then
    'ς'
  else
    'σ'

/- `before` is what was read, last character first. -/
def lowercaseFrom
    (before : List Char) : List Char → List Char
| [] => []
| c :: cs =>
    (if c = 'Σ' then [mapUppercaseSigma before cs]
      else UnicodeCase.toLowercase c) ++
      lowercaseFrom (c :: before) cs

/-
  `str::to_lowercase`: only the final sigma depends on what
  is around it.
-/
def toLowercase (s : String) : String :=
  String.ofList (lowercaseFrom [] s.toList)

end Str

------------------------------------------------------------
-- The Two Small Sigmas As One
------------------------------------------------------------

namespace Str

/- Both small sigmas are taken for one. -/
def foldSigma (c : Char) : Char :=
  if c = 'ς' then 'σ' else c

/- A pattern without a sigma of either form. -/
def sigmaFree (p : List Char) : Bool :=
  p.all (fun c => c != 'ς' && c != 'σ')

theorem ne_of_sigmaFree
    {p : List Char}
    (hFree : sigmaFree p = true)
    {c : Char}
    (hc : c ∈ p) : c ≠ 'ς' ∧ c ≠ 'σ' := by
  have hBoth := List.all_eq_true.mp hFree c hc
  rwa [Bool.and_eq_true, bne_iff_ne, bne_iff_ne] at hBoth

/- Folding does not turn another text into it. -/
theorem eq_of_map_foldSigma
    {p cs : List Char}
    (hFree : sigmaFree p = true)
    (hMap : p = cs.map foldSigma) : p = cs := by
  have hFixed : ∀ c ∈ cs, foldSigma c = c := by
    intro c hc
    have hMem : foldSigma c ∈ p := by
      rw [hMap]
      exact List.mem_map_of_mem hc
    have hNot := (ne_of_sigmaFree hFree hMem).2
    unfold foldSigma at hNot ⊢
    split
    · next hSigma => exact absurd (if_pos hSigma) hNot
    · rfl
  rw [hMap, List.map_congr_left hFixed, List.map_id']

theorem map_foldSigma
    {p : List Char}
    (hFree : sigmaFree p = true) : p.map foldSigma = p := by
  have hFixed : ∀ c ∈ p, foldSigma c = c :=
    fun c hc => if_neg (ne_of_sigmaFree hFree hc).1
  rw [List.map_congr_left hFixed, List.map_id']

/- Sigmas do not matter for where it occurs. -/
theorem infix_map_foldSigma_iff
    {p : List Char}
    (hFree : sigmaFree p = true)
    (cs : List Char) :
    p <:+: cs.map foldSigma ↔ p <:+: cs := by
  constructor
  · intro hInfix
    rcases List.infix_map_iff.mp hInfix with
      ⟨q, hq, hMap⟩
    rwa [eq_of_map_foldSigma hFree hMap]
  · intro hInfix
    rw [← map_foldSigma hFree]
    exact hInfix.map foldSigma

/- Nor for whether a text begins with it. -/
theorem prefix_map_foldSigma_iff
    {p : List Char}
    (hFree : sigmaFree p = true)
    (cs : List Char) :
    p <+: cs.map foldSigma ↔ p <+: cs := by
  constructor
  · intro hPrefix
    rcases List.prefix_map_iff.mp hPrefix with
      ⟨q, hq, hMap⟩
    rwa [eq_of_map_foldSigma hFree hMap]
  · intro hPrefix
    rw [← map_foldSigma hFree]
    exact hPrefix.map foldSigma

/- Nor for whether one ends with it. -/
theorem suffix_map_foldSigma_iff
    {p : List Char}
    (hFree : sigmaFree p = true)
    (cs : List Char) :
    p <:+ cs.map foldSigma ↔ p <:+ cs := by
  constructor
  · intro hSuffix
    rcases List.suffix_map_iff.mp hSuffix with
      ⟨q, hq, hMap⟩
    rwa [eq_of_map_foldSigma hFree hMap]
  · intro hSuffix
    rw [← map_foldSigma hFree]
    exact hSuffix.map foldSigma

end Str

------------------------------------------------------------
-- Letter By Letter
------------------------------------------------------------

namespace Str

variable [UnicodeCase]

/- The lower case of a character, the sigmas taken for one. -/
def foldedLowercaseChar (c : Char) : List Char :=
  (if c = 'Σ' then ['σ'] else UnicodeCase.toLowercase c).map
    foldSigma

/- The lower case of a text, the sigmas taken for one. -/
def foldedLowercase (s : String) : List Char :=
  s.toList.flatMap foldedLowercaseChar

/- Whichever small sigma it becomes, it is folded to one. -/
theorem foldSigma_mapUppercaseSigma
    (before after : List Char) :
    foldSigma (mapUppercaseSigma before after) = 'σ' := by
  unfold mapUppercaseSigma
  split
  · rfl
  · rfl

/- Up to sigmas the lower case goes by characters alone. -/
theorem map_foldSigma_lowercaseFrom
    (before cs : List Char) :
    (lowercaseFrom before cs).map foldSigma =
      cs.flatMap foldedLowercaseChar := by
  induction cs generalizing before with
  | nil => rfl
  | cons c cs ih =>
      rw [lowercaseFrom, List.map_append, ih,
        List.flatMap_cons, foldedLowercaseChar]
      by_cases hSigma : c = 'Σ'
      · rw [if_pos hSigma, if_pos hSigma, List.map_singleton,
          foldSigma_mapUppercaseSigma]
        rfl
      · rw [if_neg hSigma, if_neg hSigma]

theorem map_foldSigma_toLowercase (s : String) :
    (toLowercase s).toList.map foldSigma =
      foldedLowercase s := by
  rw [toLowercase, String.toList_ofList,
    map_foldSigma_lowercaseFrom, foldedLowercase]

theorem foldedLowercase_append (s t : String) :
    foldedLowercase (s ++ t) =
      foldedLowercase s ++ foldedLowercase t := by
  simp [foldedLowercase]

/- A text of ASCII characters that are no sigmas. -/
theorem foldedLowercase_of_ascii
    {s : String}
    (hAscii : ∀ c ∈ s.toList, c.toNat < 128) :
    foldedLowercase s = s.toList.map toAsciiLower := by
  have hFold :
      ∀ c : Char, c.toNat < 128 →
        foldSigma (toAsciiLower c) = toAsciiLower c :=
    forall_char_lt (by decide)
  have hChar :
      ∀ c ∈ s.toList,
        foldedLowercaseChar c = [toAsciiLower c] := by
    intro c hc
    have hNat := hAscii c hc
    have hSigma : c ≠ 'Σ' := by
      rintro rfl
      exact absurd hNat (by decide)
    rw [foldedLowercaseChar, if_neg hSigma,
      UnicodeCase.toLowercase_ascii c hNat,
      List.map_singleton, hFold c hNat]
  rw [foldedLowercase, List.flatMap_congr hChar,
    List.map_eq_flatMap]

end Str

------------------------------------------------------------
-- Searching A Lower-Cased Text
------------------------------------------------------------

namespace Str

/- `contains` finds an occurrence. -/
theorem contains_eq_true_iff (pattern s : String) :
    contains pattern s = true ↔
      pattern.toList <:+: s.toList := by
  unfold contains
  rw [List.any_eq_true, List.infix_iff_prefix_suffix]
  constructor
  · rintro ⟨t, ht, hPrefix⟩
    exact ⟨t, List.isPrefixOf_iff_prefix.mp hPrefix,
      (List.mem_tails _ _).mp ht⟩
  · rintro ⟨t, hPrefix, ht⟩
    exact ⟨t, (List.mem_tails _ _).mpr ht,
      List.isPrefixOf_iff_prefix.mpr hPrefix⟩

variable [UnicodeCase]

/- What has no sigma is found in the folded text. -/
theorem contains_toLowercase_iff
    {pattern : String}
    (hFree : sigmaFree pattern.toList = true)
    (s : String) :
    contains pattern (toLowercase s) = true ↔
      pattern.toList <:+: foldedLowercase s := by
  rw [contains_eq_true_iff, ← map_foldSigma_toLowercase,
    infix_map_foldSigma_iff hFree]

/- The same for how a lower-case text begins. -/
theorem startsWith_toLowercase_iff
    {pre : String}
    (hFree : sigmaFree pre.toList = true)
    (s : String) :
    startsWith pre (toLowercase s) = true ↔
      pre.toList <+: foldedLowercase s := by
  rw [startsWith, List.isPrefixOf_iff_prefix,
    ← map_foldSigma_toLowercase,
    prefix_map_foldSigma_iff hFree]

/- The same for how it ends. -/
theorem endsWith_toLowercase_iff
    {post : String}
    (hFree : sigmaFree post.toList = true)
    (s : String) :
    endsWith post (toLowercase s) = true ↔
      post.toList <:+ foldedLowercase s := by
  rw [endsWith, List.isSuffixOf_iff_suffix,
    ← map_foldSigma_toLowercase,
    suffix_map_foldSigma_iff hFree]

end Str
