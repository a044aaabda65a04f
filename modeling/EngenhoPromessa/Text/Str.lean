import Mathlib.Data.List.Basic
import Mathlib.Data.List.TakeDrop
import Mathlib.Data.List.TakeWhile

/-
  String operations with the behaviour of their namesakes on
  `str`, by recursion over the characters.

  Key definitions include:
    * `Str.trimStart`
    * `Str.trim`
    * `Str.lines`
    * `Str.firstWord`
    * `Str.toAsciiUppercase`
    * `Str.eqIgnoreAsciiCase`
    * `Str.startsWith`
    * `Str.endsWith`
    * `Str.trimEndMatches`
    * `Str.trimStartMatches`
    * `Str.afterLast`
    * `Str.stripPrefix`
    * `Str.splitOnce`
    * `Str.split`
    * `Str.beforeAny`
    * `Str.contains`
-/

------------------------------------------------------------
-- Characters
------------------------------------------------------------

namespace Str

/- The Unicode `White_Space` property. -/
def isWhitespace (c : Char) : Bool :=
  let n := c.toNat
  (9 ≤ n && n ≤ 13) || n == 0x20 || n == 0x85 ||
    n == 0xa0 || n == 0x1680 ||
    (0x2000 ≤ n && n ≤ 0x200a) || n == 0x2028 ||
    n == 0x2029 || n == 0x202f || n == 0x205f || n == 0x3000

/- `char::to_ascii_uppercase`. -/
def toAsciiUpper (c : Char) : Char :=
  if 'a' ≤ c && c ≤ 'z' then
    Char.ofNat (c.toNat - 32)
  else
    c

/- `char::to_ascii_lowercase`. -/
def toAsciiLower (c : Char) : Char :=
  if 'A' ≤ c && c ≤ 'Z' then
    Char.ofNat (c.toNat + 32)
  else
    c

end Str

------------------------------------------------------------
-- Trimming And Splitting
------------------------------------------------------------

namespace Str

/- `str::trim_start`. -/
def trimStart (s : String) : String :=
  String.ofList (s.toList.dropWhile isWhitespace)

/- White space is taken from the end. -/
def trimEndList (cs : List Char) : List Char :=
  (cs.reverse.dropWhile isWhitespace).reverse

/- `str::trim`. -/
def trim (s : String) : String :=
  String.ofList
    (trimEndList (s.toList.dropWhile isWhitespace))

/- `str::trim_end_matches` of one character. -/
def trimEndMatches (c : Char) (s : String) : String :=
  String.ofList
    ((s.toList.reverse.dropWhile (fun d => d == c)).reverse)

/-
  Drop a leading pattern as often as it occurs. A pattern
  with a character in it occurs at most once for each
  character of the text, so that much fuel is enough.
-/
def dropPrefixes
    (pattern : List Char) : Nat → List Char → List Char
| 0, cs => cs
| fuel + 1, cs =>
    if pattern.isPrefixOf cs then
      dropPrefixes pattern fuel (cs.drop pattern.length)
    else
      cs

/- `str::trim_start_matches` of a text. -/
def trimStartMatches (pattern s : String) : String :=
  String.ofList
    (dropPrefixes pattern.toList s.length s.toList)

/- `s.rsplit(c).next()`: what follows the last `c`, or all. -/
def afterLast (c : Char) (s : String) : String :=
  String.ofList
    ((s.toList.reverse.takeWhile (fun d => d != c)).reverse)

/- A line's own carriage return belongs to its line break. -/
def stripCarriageReturn : List Char → List Char
| '\r' :: cs => cs
| cs => cs

/- `line` is the line being read, last character first. -/
def linesFrom (line : List Char) :
    List Char → List (List Char)
| [] => if line.isEmpty then [] else [line.reverse]
| '\n' :: cs =>
    (stripCarriageReturn line).reverse :: linesFrom [] cs
| c :: cs => linesFrom (c :: line) cs

/-
  `str::lines`: without line breaks, and without an empty
  last line.
-/
def lines (s : String) : List String :=
  (linesFrom [] s.toList).map String.ofList

/- `s.split_whitespace().next()`. -/
def firstWord (s : String) : Option String :=
  let word :=
    (s.toList.dropWhile isWhitespace).takeWhile
      (fun c => !isWhitespace c)
  if word.isEmpty then none else some (String.ofList word)

/- `str::to_ascii_uppercase`. -/
def toAsciiUppercase (s : String) : String :=
  String.ofList (s.toList.map toAsciiUpper)

/- `str::to_ascii_lowercase`. -/
def toAsciiLowercase (s : String) : String :=
  String.ofList (s.toList.map toAsciiLower)

/- Equality of the lower-cased texts. -/
def eqIgnoreAsciiCase (s t : String) : Bool :=
  toAsciiLowercase s = toAsciiLowercase t

/- `str::starts_with`. -/
def startsWith (pre s : String) : Bool :=
  pre.toList.isPrefixOf s.toList

/- `str::ends_with`. -/
def endsWith (post s : String) : Bool :=
  post.toList.isSuffixOf s.toList

/- What follows a prefix, if the text has it. -/
def stripPrefix (pre s : String) : Option String :=
  if startsWith pre s then
    some (String.ofList (s.toList.drop pre.length))
  else
    none

/- Split at the first `c`; the parts do not contain it. -/
def splitOnce
    (c : Char)
    (s : String) : Option (String × String) :=
  match s.toList.span (fun d => d != c) with
  | (before, _ :: after) =>
      some (String.ofList before, String.ofList after)
  | (_, []) => none

/-
  `part` is the piece being read, last character first, and
  `skip` counts what is left of an occurrence of the pattern.
-/
def splitFrom
    (pattern part : List Char) :
    Nat → List Char → List (List Char)
| _, [] => [part.reverse]
| skip + 1, _ :: cs => splitFrom pattern part skip cs
| 0, c :: cs =>
    if pattern.isPrefixOf (c :: cs) then
      part.reverse ::
        splitFrom pattern [] (pattern.length - 1) cs
    else
      splitFrom pattern (c :: part) 0 cs

/- The pieces around a pattern that has a character. -/
def split (pattern s : String) : List String :=
  (splitFrom pattern.toList [] 0 s.toList).map String.ofList

/- `s.split(cs).next()`: what precedes the first of `cs`. -/
def beforeAny (cs : List Char) (s : String) : String :=
  String.ofList (s.toList.takeWhile (fun c => c ∉ cs))

/- `str::contains`. -/
def contains (pattern s : String) : Bool :=
  s.toList.tails.any (fun cs => pattern.toList.isPrefixOf cs)

end Str

------------------------------------------------------------
-- The Parts Around A Character
------------------------------------------------------------

namespace Str

/- A text falls apart at its first `c` in one way. -/
theorem span_ne_append_cons
    {c : Char}
    {before : List Char}
    (hNot : c ∉ before)
    (after : List Char) :
    (before ++ c :: after).span (fun d => d != c) =
      (before, c :: after) := by
  have hAll : ∀ d ∈ before, (d != c) = true := by
    intro d hd
    rw [bne_iff_ne]
    rintro rfl
    exact hNot hd
  rw [List.span_eq_takeWhile_dropWhile,
    List.takeWhile_append_of_pos hAll,
    List.dropWhile_append_of_pos hAll]
  simp

/- The split is at the first one of the character. -/
theorem splitOnce_of_toList_eq
    {c : Char}
    {s before after : String}
    (hText : s.toList = before.toList ++ c :: after.toList)
    (hNot : c ∉ before.toList) :
    splitOnce c s = some (before, after) := by
  rw [splitOnce, hText, span_ne_append_cons hNot]
  simp

/- Without the character there is no split. -/
theorem splitOnce_of_not_mem
    {c : Char}
    {s : String}
    (hNot : c ∉ s.toList) :
    splitOnce c s = none := by
  have hAll : ∀ d ∈ s.toList, (d != c) = true := by
    intro d hd
    rw [bne_iff_ne]
    rintro rfl
    exact hNot hd
  rw [splitOnce, List.span_eq_takeWhile_dropWhile,
    List.dropWhile_eq_nil_iff.mpr hAll]

/- A character that occurs has a first place. -/
theorem exists_parts_of_mem
    {c : Char}
    {s : String}
    (hMem : c ∈ s.toList) :
    ∃ before after : String,
      s.toList = before.toList ++ c :: after.toList ∧
        c ∉ before.toList := by
  rcases List.eq_append_cons_of_mem hMem with
    ⟨before, after, hText, hNot⟩
  refine ⟨String.ofList before, String.ofList after, ?_, ?_⟩
  · simpa using hText
  · simpa using hNot

/- The same with the character as a separator. -/
theorem exists_append_of_mem
    {c : Char}
    {sep s : String}
    (hSep : sep.toList = [c])
    (hMem : c ∈ s.toList) :
    ∃ before after : String, s = before ++ sep ++ after := by
  rcases exists_parts_of_mem hMem with
    ⟨before, after, hText, -⟩
  refine ⟨before, after, String.toList_inj.mp ?_⟩
  simpa [hSep] using hText

/- A text is never its own continuation. -/
theorem append_append_ne
    {sep : String}
    (hSep : sep ≠ "")
    (s t : String) :
    s ++ sep ++ t ≠ s := by
  intro hSame
  have hLength := congrArg (fun s => s.toList.length) hSame
  simp only [String.toList_append, List.length_append]
    at hLength
  have hNil : sep.toList = [] :=
    List.length_eq_zero_iff.mp (by omega)
  exact hSep (String.toList_eq_nil_iff.mp hNil)

/- A text that is not empty was not left out. -/
theorem eq_of_getD_eq
    {s t : Option String}
    (hSome : s.getD "" ≠ "")
    (hSame : t.getD "" = s.getD "") : t = s := by
  cases s with
  | none => exact absurd rfl hSome
  | some a =>
      cases t with
      | none => exact absurd hSame.symm hSome
      | some b => exact congrArg some hSame

end Str

------------------------------------------------------------
-- Prefixes
------------------------------------------------------------

namespace Str

theorem startsWith_append (pre t : String) :
    startsWith pre (pre ++ t) = true := by
  simp [startsWith]

theorem stripPrefix_append (pre t : String) :
    stripPrefix pre (pre ++ t) = some t := by
  rw [stripPrefix, if_pos (startsWith_append pre t),
    String.toList_append, ← String.length_toList,
    List.drop_left, String.ofList_toList]

/- A text with a prefix is the prefix and the rest. -/
theorem exists_of_startsWith
    {pre s : String}
    (hStarts : startsWith pre s = true) :
    ∃ t, s = pre ++ t := by
  rcases List.isPrefixOf_iff_prefix.mp hStarts with
    ⟨rest, hRest⟩
  refine ⟨String.ofList rest, String.toList_inj.mp ?_⟩
  simpa using hRest.symm

/- Taking it off and writing it are inverse. -/
theorem stripPrefix_eq_some_iff (pre s t : String) :
    stripPrefix pre s = some t ↔ s = pre ++ t := by
  constructor
  · intro hStrip
    by_cases hStarts : startsWith pre s = true
    · rcases exists_of_startsWith hStarts with ⟨rest, rfl⟩
      rw [stripPrefix_append] at hStrip
      rw [Option.some.inj hStrip]
    · rw [stripPrefix, if_neg hStarts] at hStrip
      exact absurd hStrip (by simp)
  · rintro rfl
    exact stripPrefix_append pre t

end Str

------------------------------------------------------------
-- Letter Case
------------------------------------------------------------

namespace Str

/- The first characters can be looked at one by one. -/
theorem forall_char_lt
    {P : Char → Prop}
    {bound : Nat}
    (hAll : ∀ n < bound, P (Char.ofNat n))
    (c : Char)
    (hBound : c.toNat < bound) : P c := by
  have hChar := hAll c.toNat hBound
  rwa [Char.ofNat_toNat] at hChar

/- The upper case does not depend on the case. -/
theorem toAsciiUpper_toAsciiLower (c : Char) :
    toAsciiUpper (toAsciiLower c) = toAsciiUpper c := by
  have hAscii :
      ∀ c : Char, c.toNat < 91 →
        toAsciiUpper (toAsciiLower c) = toAsciiUpper c :=
    forall_char_lt (by decide)
  by_cases hLetter : ('A' ≤ c && c ≤ 'Z') = true
  · rw [Bool.and_eq_true, decide_eq_true_eq,
      decide_eq_true_eq] at hLetter
    exact hAscii c (Nat.lt_succ_of_le hLetter.2)
  · rw [toAsciiLower, if_neg hLetter]

/- The same for texts. -/
theorem toAsciiUppercase_toAsciiLowercase (s : String) :
    toAsciiUppercase (toAsciiLowercase s) =
      toAsciiUppercase s := by
  simp [toAsciiUppercase, toAsciiLowercase,
    Function.comp_def, toAsciiUpper_toAsciiLower]

theorem toAsciiUppercase_eq
    {s t : String}
    (hSame : eqIgnoreAsciiCase s t = true) :
    toAsciiUppercase s = toAsciiUppercase t := by
  rw [← toAsciiUppercase_toAsciiLowercase s,
    of_decide_eq_true hSame,
    toAsciiUppercase_toAsciiLowercase]

end Str
