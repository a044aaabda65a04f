import EngenhoPromessa.PromessaTypes.Action
import EngenhoPromessa.Collections.Straddles
import EngenhoPromessa.Text.Lowercase

/-
  How a failed copy is classified: by signatures searched for
  in the whole of what the copying program wrote, the copied
  image's reference and digest included.

  A digest can hold one of the numeric signatures, so the
  class does depend on the digest as soon as the text around
  it can look like a failure of the network at all.

  Key definitions include:
    * `classifySkopeoFailure`
    * `HexDigest`
    * `DigestIndependent`
    * `NetworkSilent`

  Key theorems include:
    * `digestIndependent_iff_networkSilent`
-/

------------------------------------------------------------
-- Error Classes
------------------------------------------------------------

namespace EngenhoPromessa

namespace ReconcilerError

/- The kinds of errors. -/
inductive Class where
  | invalidSpec
  | internal
  | transient
  | substrateRefused
deriving DecidableEq, Repr

/- The kind of an error, without its text. -/
def errorClass : ReconcilerError → Class
| .invalidSpec _ => .invalidSpec
| .internal _ => .internal
| .transient _ => .transient
| .substrateRefused _ => .substrateRefused

end ReconcilerError

end EngenhoPromessa

------------------------------------------------------------
-- Classifying A Failure
------------------------------------------------------------

namespace EngenhoPromessa

/- The words that tell of a refused login. -/
def authSignatures : List String :=
  ["unauthorized", "401", "403", "authentication required",
    "access denied", "forbidden"]

/- The words that tell of a network in trouble. -/
def networkSignatures : List String :=
  ["connection refused", "connection reset", "timed out",
    "timeout", "no such host",
    "temporary failure in name resolution", "dial tcp",
    "i/o timeout"]

/- The debug form of an exit code. -/
def debugCode : Option Int32 → String
| none => "None"
| some code => "Some(" ++ toString code ++ ")"

/- Goes by the words on standard error, the login first. -/
def classifySkopeoFailure
    [Str.UnicodeCase]
    (code : Option Int32)
    (stderr : String) : ReconcilerError :=
  let lower := Str.toLowercase stderr
  if authSignatures.any
      (fun needle => Str.contains needle lower) then
    .substrateRefused
      ("skopeo copy auth failure (exit " ++ debugCode code ++
        "): " ++ stderr)
  else if networkSignatures.any
      (fun needle => Str.contains needle lower) then
    .transient
      ("skopeo copy transient failure (exit " ++
        debugCode code ++ "): " ++ stderr)
  else
    -- Anything else is a deterministic refusal.
    .substrateRefused
      ("skopeo copy failed (exit " ++ debugCode code ++
        "): " ++ stderr)

end EngenhoPromessa

------------------------------------------------------------
-- Digests
------------------------------------------------------------

namespace EngenhoPromessa

/- A digit of a digest, in either case. -/
def isHexDigit (c : Char) : Bool :=
  ('0' ≤ c && c ≤ '9') || ('a' ≤ c && c ≤ 'f') ||
    ('A' ≤ c && c ≤ 'F')

/- The hexadecimal part of a SHA-256 digest. -/
structure HexDigest where
  text : String
  length_eq : text.length = 64
  hex : ∀ c ∈ text.toList, isHexDigit c = true

namespace HexDigest

/- The digits in lower case. -/
def lowered (d : HexDigest) : List Char :=
  d.text.toList.map Str.toAsciiLower

/- Zeros between what a digest begins and ends with. -/
def padded
    (front back : List Char)
    (hLength : front.length + back.length ≤ 64)
    (hHex : (front ++ back).all isHexDigit = true) :
    HexDigest where
  text :=
    String.ofList
      (front ++
        List.replicate (64 - front.length - back.length) '0' ++
        back)
  length_eq := by
    rw [String.length_ofList, List.length_append,
      List.length_append, List.length_replicate]
    omega
  hex := by
    intro c hc
    rw [String.toList_ofList, List.mem_append,
      List.mem_append, List.mem_replicate] at hc
    rcases hc with (hFront | ⟨-, rfl⟩) | hBack
    · exact List.all_eq_true.mp hHex c
        (List.mem_append_left back hFront)
    · rfl
    · exact List.all_eq_true.mp hHex c
        (List.mem_append_right front hBack)

/- A digit is an ASCII character. -/
theorem toNat_lt_of_isHexDigit
    {c : Char}
    (hHex : isHexDigit c = true) : c.toNat < 128 := by
  simp only [isHexDigit, Bool.or_eq_true, Bool.and_eq_true,
    decide_eq_true_eq] at hHex
  rcases hHex with (⟨-, h⟩ | ⟨-, h⟩) | ⟨-, h⟩
  · exact lt_of_le_of_lt h (by decide)
  · exact lt_of_le_of_lt h (by decide)
  · exact lt_of_le_of_lt h (by decide)

/- There are sixty-four of them. -/
theorem length_lowered (d : HexDigest) :
    d.lowered.length = 64 := by
  rw [lowered, List.length_map, String.length_toList,
    d.length_eq]

/- Lower case leaves digits digits. -/
theorem hex_lowered (d : HexDigest) :
    d.lowered.all isHexDigit = true := by
  have hLower :
      ∀ c : Char, c.toNat < 128 →
        isHexDigit c = true →
          isHexDigit (Str.toAsciiLower c) = true :=
    Str.forall_char_lt (by decide)
  refine List.all_eq_true.mpr fun c hc => ?_
  rcases List.mem_map.mp hc with ⟨b, hb, rfl⟩
  have hHex := d.hex b hb
  exact hLower b (toNat_lt_of_isHexDigit hHex) hHex

/- The lower case of a padded digest. -/
theorem lowered_padded
    (front back : List Char)
    (hLength : front.length + back.length ≤ 64)
    (hHex : (front ++ back).all isHexDigit = true) :
    (padded front back hLength hHex).lowered =
      front.map Str.toAsciiLower ++
        List.replicate (64 - front.length - back.length)
          '0' ++
        back.map Str.toAsciiLower := by
  have hZero : Str.toAsciiLower '0' = '0' := by decide
  simp [lowered, padded, List.map_replicate, hZero]

/- A part of a digest has hexadecimal digits only. -/
theorem hex_of_subset
    {d : HexDigest}
    {cs : List Char}
    (hPart : cs ⊆ d.lowered) :
    cs.all isHexDigit = true :=
  List.all_eq_true.mpr fun c hc =>
    List.all_eq_true.mp d.hex_lowered c (hPart hc)

theorem foldedLowercase_text
    [Str.UnicodeCase]
    (d : HexDigest) :
    Str.foldedLowercase d.text = d.lowered :=
  Str.foldedLowercase_of_ascii
    (fun c hc => toNat_lt_of_isHexDigit (d.hex c hc))

end HexDigest

end EngenhoPromessa

------------------------------------------------------------
-- Independence Of The Digest
------------------------------------------------------------

namespace EngenhoPromessa

variable [Str.UnicodeCase]

/- One of the words occurs, in any case. -/
def Mentions (signatures : List String) (s : String) : Prop :=
  ∃ p ∈ signatures, Str.contains p (Str.toLowercase s) = true

instance (signatures : List String) (s : String) :
    Decidable (Mentions signatures s) :=
  inferInstanceAs (Decidable (∃ p ∈ signatures, _))

/- Nothing about the class of a failure is up to the digest. -/
structure DigestIndependent (pre post : String) : Prop where
  same_class :
    ∀ (code : Option Int32) (d d' : HexDigest),
      (classifySkopeoFailure code
          (pre ++ d.text ++ post)).errorClass =
        (classifySkopeoFailure code
          (pre ++ d'.text ++ post)).errorClass
  transient_of_network :
    Mentions networkSignatures pre ∨
        Mentions networkSignatures post →
      ∀ (code : Option Int32) (d : HexDigest),
        (classifySkopeoFailure code
          (pre ++ d.text ++ post)).errorClass = .transient

/- The signatures' beginnings that a digest can complete. -/
def begunSignatures : List String :=
  ["connection refus", "connection refuse"]

/- The signatures' ends that a digest can lead up to. -/
def endedSignatures : List String :=
  ["onnection refused", "onnection reset", "ial tcp"]

/-
  No digest between the two texts makes them look like a
  failure of the network.
-/
structure NetworkSilent (pre post : String) : Prop where
  pre_silent : ¬ Mentions networkSignatures pre
  post_silent : ¬ Mentions networkSignatures post
  not_begun :
    ∀ b ∈ begunSignatures,
      Str.endsWith b (Str.toLowercase pre) = false
  not_ended :
    ∀ e ∈ endedSignatures,
      Str.startsWith e (Str.toLowercase post) = false

end EngenhoPromessa

------------------------------------------------------------
-- Searching Around A Digest
------------------------------------------------------------

namespace EngenhoPromessa

/- Signatures that a search in a folded text finds. -/
structure Searchable (signatures : List String) : Prop where
  sigmaFree : ∀ p ∈ signatures, Str.sigmaFree p.toList = true
  short : ∀ p ∈ signatures, p.toList.length ≤ 64

/- The words of the login have no sigma. -/
theorem searchable_auth : Searchable authSignatures where
  sigmaFree := by decide
  short := by decide

/- Nor have those of the network. -/
theorem searchable_network :
    Searchable networkSignatures where
  sigmaFree := by decide
  short := by decide

variable [Str.UnicodeCase]

/- The network counts if the login was not at fault. -/
theorem errorClass_eq_transient_iff
    (code : Option Int32)
    (stderr : String) :
    (classifySkopeoFailure code stderr).errorClass =
        .transient ↔
      ¬ Mentions authSignatures stderr ∧
        Mentions networkSignatures stderr := by
  simp only [classifySkopeoFailure, Mentions,
    ← List.any_eq_true]
  split
  · next hAuth =>
      simp [ReconcilerError.errorClass, hAuth]
  · next hAuth =>
      split
      · next hNetwork =>
          simp [ReconcilerError.errorClass, hAuth, hNetwork]
      · next hNetwork =>
          simp [ReconcilerError.errorClass, hNetwork]

/- There is no third class. -/
theorem errorClass_eq_refused_iff
    (code : Option Int32)
    (stderr : String) :
    (classifySkopeoFailure code stderr).errorClass =
        .substrateRefused ↔
      (classifySkopeoFailure code stderr).errorClass ≠
        .transient := by
  simp only [classifySkopeoFailure]
  split
  · simp [ReconcilerError.errorClass]
  · split
    · simp [ReconcilerError.errorClass]
    · simp [ReconcilerError.errorClass]

/- A word occurs if it does so in the folded text. -/
theorem mentions_iff
    {signatures : List String}
    (hSearchable : Searchable signatures)
    (s : String) :
    Mentions signatures s ↔
      ∃ p ∈ signatures,
        p.toList <:+: Str.foldedLowercase s := by
  refine exists_congr fun p =>
    and_congr_right fun hp => ?_
  exact Str.contains_toLowercase_iff
    (hSearchable.sigmaFree p hp) s

/- Where a signature is found: outside, inside, or between. -/
theorem mentions_around_iff
    {signatures : List String}
    (hSearchable : Searchable signatures)
    (pre post : String)
    (d : HexDigest) :
    Mentions signatures (pre ++ d.text ++ post) ↔
      Mentions signatures pre ∨ Mentions signatures post ∨
        ∃ p ∈ signatures,
          p.toList <:+: d.lowered ∨
            Straddles p.toList (Str.foldedLowercase pre)
              d.lowered ∨
            Straddles p.toList d.lowered
              (Str.foldedLowercase post) := by
  have hAround :
      ∀ p ∈ signatures,
        (p.toList <:+:
            Str.foldedLowercase (pre ++ d.text ++ post) ↔
          p.toList <:+: Str.foldedLowercase pre ∨
            p.toList <:+: Str.foldedLowercase post ∨
            p.toList <:+: d.lowered ∨
            Straddles p.toList (Str.foldedLowercase pre)
              d.lowered ∨
            Straddles p.toList d.lowered
              (Str.foldedLowercase post)) := by
    intro p hp
    rw [Str.foldedLowercase_append,
      Str.foldedLowercase_append, d.foldedLowercase_text,
      Straddles.infix_around_iff
        (d.length_lowered ▸ hSearchable.short p hp)]
    tauto
  rw [mentions_iff hSearchable, mentions_iff hSearchable,
    mentions_iff hSearchable, ← exists_or, ← exists_or]
  refine exists_congr fun p => ?_
  rw [← and_or_left, ← and_or_left]
  exact and_congr_right (hAround p)

end EngenhoPromessa

------------------------------------------------------------
-- Silent Surroundings
------------------------------------------------------------

namespace EngenhoPromessa

/- Nothing of hexadecimal digits alone is a signature. -/
theorem network_not_hex :
    ∀ p ∈ networkSignatures,
      p.toList.all isHexDigit = false := by
  decide

theorem begun_of_cut :
    ∀ p ∈ networkSignatures, ∀ k < p.toList.length, 0 < k →
      (p.toList.drop k).all isHexDigit = true →
        ∃ b ∈ begunSignatures, b.toList = p.toList.take k := by
  decide

theorem ended_of_cut :
    ∀ p ∈ networkSignatures, ∀ k < p.toList.length, 0 < k →
      (p.toList.take k).all isHexDigit = true →
        ∃ e ∈ endedSignatures, e.toList = p.toList.drop k := by
  decide

/- The begun words have no sigma. -/
theorem begun_sigmaFree :
    ∀ b ∈ begunSignatures,
      Str.sigmaFree b.toList = true := by
  decide

/- Nor have the ended ones. -/
theorem ended_sigmaFree :
    ∀ e ∈ endedSignatures,
      Str.sigmaFree e.toList = true := by
  decide

variable [Str.UnicodeCase]

/- A silent surrounding finds no word with any digest. -/
theorem NetworkSilent.not_mentions
    {pre post : String}
    (hSilent : NetworkSilent pre post)
    (d : HexDigest) :
    ¬ Mentions networkSignatures
      (pre ++ d.text ++ post) := by
  rw [mentions_around_iff searchable_network]
  rintro (hPre | hPost | ⟨p, hp, hInside | hLeft | hRight⟩)
  · exact hSilent.pre_silent hPre
  · exact hSilent.post_silent hPost
  · have hNot := network_not_hex p hp
    rw [HexDigest.hex_of_subset hInside.subset] at hNot
    exact absurd hNot (by decide)
  · rcases hLeft with ⟨k, hk, hPos, hEnd, hDigest⟩
    rcases begun_of_cut p hp k hk hPos
        (HexDigest.hex_of_subset hDigest.subset) with
      ⟨b, hb, hCut⟩
    have hNot := hSilent.not_begun b hb
    rw [← Bool.not_eq_true,
      Str.endsWith_toLowercase_iff (begun_sigmaFree b hb),
      hCut] at hNot
    exact hNot hEnd
  · rcases hRight with ⟨k, hk, hPos, hDigest, hBegin⟩
    rcases ended_of_cut p hp k hk hPos
        (HexDigest.hex_of_subset hDigest.subset) with
      ⟨e, he, hCut⟩
    have hNot := hSilent.not_ended e he
    rw [← Bool.not_eq_true,
      Str.startsWith_toLowercase_iff (ended_sigmaFree e he),
      hCut] at hNot
    exact hNot hBegin

end EngenhoPromessa

------------------------------------------------------------
-- Digests That Decide The Class
------------------------------------------------------------

namespace EngenhoPromessa

/-
  A digest that brings no authentication signature into any
  text that ends with `e` before it and begins with `b`
  after it.
-/
def Harmless (e d b : List Char) : Prop :=
  ∀ p ∈ authSignatures,
    ¬ p.toList <:+: d ∧
      Straddles.ApartBefore p.toList e d ∧
      Straddles.ApartAfter p.toList d b

instance (e d b : List Char) : Decidable (Harmless e d b) :=
  inferInstanceAs (Decidable (∀ p ∈ authSignatures, _))

namespace HexDigest

/- The digest of zeros. -/
def zeros : HexDigest :=
  padded [] [] (by decide) (by decide)

/- A digest with an authentication signature in it. -/
def with401 : HexDigest :=
  padded ['4', '0', '1'] [] (by decide) (by decide)

/- It completes a text that ends with `b`. -/
def completing (b : String) : HexDigest :=
  if b = "connection refus" then
    padded ['e', 'd'] [] (by decide) (by decide)
  else
    padded ['d'] [] (by decide) (by decide)

/- It leads up to a text that begins with `e`. -/
def leadingTo (e : String) : HexDigest :=
  if e = "ial tcp" then
    padded [] ['d'] (by decide) (by decide)
  else
    padded [] ['c'] (by decide) (by decide)

end HexDigest

/- The digits that go on with a begun word. -/
theorem HexDigest.lowered_completing (b : String) :
    (completing b).lowered =
      if b = "connection refus" then
        'e' :: 'd' :: List.replicate 62 '0'
      else
        'd' :: List.replicate 63 '0' := by
  unfold completing
  split
  · rw [lowered_padded]
    decide
  · rw [lowered_padded]
    decide

/- The digits that come before an ended one. -/
theorem HexDigest.lowered_leadingTo (e : String) :
    (leadingTo e).lowered =
      List.replicate 63 '0' ++
        if e = "ial tcp" then ['d'] else ['c'] := by
  unfold leadingTo
  split
  · rw [lowered_padded]
    decide
  · rw [lowered_padded]
    decide

/- Zeros bring about no word of the login. -/
theorem harmless_zeros :
    Harmless [] HexDigest.zeros.lowered [] := by
  rw [HexDigest.zeros, HexDigest.lowered_padded]
  decide

/- Nor does what completes a begun word. -/
theorem harmless_completing :
    ∀ b ∈ begunSignatures,
      Harmless b.toList (HexDigest.completing b).lowered
        [] := by
  simp only [HexDigest.lowered_completing]
  decide

set_option maxRecDepth 1024 in
/- Nor what leads to an ended one. -/
theorem harmless_leadingTo :
    ∀ e ∈ endedSignatures,
      Harmless [] (HexDigest.leadingTo e).lowered
        e.toList := by
  simp only [HexDigest.lowered_leadingTo]
  decide

/- But these digits are such a word themselves. -/
theorem auth_with401 :
    ∃ p ∈ authSignatures,
      p.toList <:+: HexDigest.with401.lowered :=
  ⟨"401", by decide, [], List.replicate 61 '0', by decide⟩

/- What is begun is completed. -/
theorem network_completing :
    ∀ b ∈ begunSignatures,
      ∃ p ∈ networkSignatures,
        Straddles p.toList b.toList
          (HexDigest.completing b).lowered := by
  simp only [HexDigest.lowered_completing]
  decide

theorem network_leadingTo :
    ∀ e ∈ endedSignatures,
      ∃ p ∈ networkSignatures,
        Straddles p.toList (HexDigest.leadingTo e).lowered
          e.toList := by
  simp only [HexDigest.lowered_leadingTo]
  decide

end EngenhoPromessa

------------------------------------------------------------
-- Where The Digest Does Not Matter
------------------------------------------------------------

namespace EngenhoPromessa

variable [Str.UnicodeCase]

/- Harmless digits leave the network to blame. -/
theorem Harmless.transient
    {e b : List Char}
    {d : HexDigest}
    (hHarmless : Harmless e d.lowered b)
    {pre post : String}
    (hPre : ¬ Mentions authSignatures pre)
    (hPost : ¬ Mentions authSignatures post)
    (hEnd : e <:+ Str.foldedLowercase pre)
    (hBegin : b <+: Str.foldedLowercase post)
    (hNetwork :
      Mentions networkSignatures (pre ++ d.text ++ post))
    (code : Option Int32) :
    (classifySkopeoFailure code
      (pre ++ d.text ++ post)).errorClass = .transient := by
  rw [errorClass_eq_transient_iff]
  refine ⟨?_, hNetwork⟩
  rw [mentions_around_iff searchable_auth]
  rintro (h | h | ⟨p, hp, hInside | hLeft | hRight⟩)
  · exact hPre h
  · exact hPost h
  · exact (hHarmless p hp).1 hInside
  · exact Straddles.not_of_apartBefore (hHarmless p hp).2.1
      hEnd hLeft
  · exact Straddles.not_of_apartAfter (hHarmless p hp).2.2
      hBegin hRight

/- Some digest leaves room for the network. -/
theorem exists_transient_of_not_networkSilent
    {pre post : String}
    (hPre : ¬ Mentions authSignatures pre)
    (hPost : ¬ Mentions authSignatures post)
    (hNot : ¬ NetworkSilent pre post) :
    ∃ d : HexDigest, ∀ code,
      (classifySkopeoFailure code
        (pre ++ d.text ++ post)).errorClass =
          .transient := by
  by_contra hNone
  have hNever :
      ∀ {e b : List Char} {d : HexDigest},
        Harmless e d.lowered b →
        e <:+ Str.foldedLowercase pre →
        b <+: Str.foldedLowercase post →
          ¬ Mentions networkSignatures
            (pre ++ d.text ++ post) :=
    fun hHarmless hEnd hBegin hNetwork =>
      hNone ⟨_, hHarmless.transient hPre hPost hEnd hBegin
        hNetwork⟩
  have hZeros :=
    hNever harmless_zeros List.nil_suffix List.nil_prefix
  rw [mentions_around_iff searchable_network, not_or,
    not_or] at hZeros
  refine hNot ⟨hZeros.1, hZeros.2.1, ?_, ?_⟩
  · intro b hb
    rw [← Bool.not_eq_true,
      Str.endsWith_toLowercase_iff (begun_sigmaFree b hb)]
    intro hEnd
    rcases network_completing b hb with ⟨p, hp, hAcross⟩
    refine hNever (harmless_completing b hb) hEnd
      List.nil_prefix ?_
    rw [mentions_around_iff searchable_network]
    exact .inr (.inr ⟨p, hp, .inr (.inl
      (hAcross.mono hEnd List.prefix_rfl))⟩)
  · intro e he
    rw [← Bool.not_eq_true,
      Str.startsWith_toLowercase_iff (ended_sigmaFree e he)]
    intro hBegin
    rcases network_leadingTo e he with ⟨p, hp, hAcross⟩
    refine hNever (harmless_leadingTo e he)
      List.nil_suffix hBegin ?_
    rw [mentions_around_iff searchable_network]
    exact .inr (.inr ⟨p, hp, .inr (.inr
      (hAcross.mono List.suffix_rfl hBegin))⟩)

/- And one digest reads as a refused authentication. -/
theorem refused_with401
    (pre post : String)
    (code : Option Int32) :
    (classifySkopeoFailure code
      (pre ++ HexDigest.with401.text ++ post)).errorClass =
        .substrateRefused := by
  rw [errorClass_eq_refused_iff, Ne,
    errorClass_eq_transient_iff]
  rintro ⟨hAuth, -⟩
  rcases auth_with401 with ⟨p, hp, hInside⟩
  refine hAuth ?_
  rw [mentions_around_iff searchable_auth]
  exact .inr (.inr ⟨p, hp, .inl hInside⟩)

/-
  Around a digest, the class of a failure is independent of
  the digest exactly where it is never the network's.
-/
theorem digestIndependent_iff_networkSilent
    (pre post : String)
    (hPre : ¬ Mentions authSignatures pre)
    (hPost : ¬ Mentions authSignatures post) :
    DigestIndependent pre post ↔ NetworkSilent pre post := by
  constructor
  · intro hIndependent
    by_contra hNot
    rcases exists_transient_of_not_networkSilent hPre hPost
        hNot with ⟨d, hTransient⟩
    have hSame :=
      hIndependent.same_class none d HexDigest.with401
    rw [hTransient, refused_with401] at hSame
    exact absurd hSame (by decide)
  · intro hSilent
    have hRefused :
        ∀ code (d : HexDigest),
          (classifySkopeoFailure code
            (pre ++ d.text ++ post)).errorClass =
              .substrateRefused := by
      intro code d
      rw [errorClass_eq_refused_iff, Ne,
        errorClass_eq_transient_iff]
      exact fun h => hSilent.not_mentions d h.2
    refine ⟨?_, ?_⟩
    · intro code d d'
      rw [hRefused, hRefused]
    · rintro (h | h)
      · exact absurd h hSilent.pre_silent
      · exact absurd h hSilent.post_silent

end EngenhoPromessa

------------------------------------------------------------
-- An Outage And A Missing Manifest
------------------------------------------------------------

namespace EngenhoPromessa

/- The tables, exact on the ASCII characters. -/
instance Reference.unicodeCase : Str.UnicodeCase where
  toLowercase c := [Str.toAsciiLower c]
  cased c := c.isAlpha
  caseIgnorable c :=
    c.toNat ∈ [0x27, 0x2e, 0x3a, 0x5e, 0x60]
  toLowercase_ascii _ _ := rfl

/- What is written before the digest of the source. -/
def copyingFrom : String :=
  "initializing source docker://zot:5000/auth@sha256:"

/- This message is read alike for every digest. -/
theorem digestIndependent_manifestUnknown :
    DigestIndependent copyingFrom ": manifest unknown" :=
  (digestIndependent_iff_networkSilent copyingFrom
      ": manifest unknown" (by decide +kernel)
      (by decide +kernel)).mpr
    { pre_silent := by decide +kernel
      post_silent := by decide +kernel
      not_begun := by decide +kernel
      not_ended := by decide }

/-
  An outage of the registry is a refusal for good if the
  digest has a 401 in it.
-/
theorem not_digestIndependent_timeout :
    ¬ Mentions authSignatures copyingFrom ∧
      ¬ Mentions authSignatures ": dial tcp: i/o timeout" ∧
      Mentions networkSignatures
        ": dial tcp: i/o timeout" ∧
      (classifySkopeoFailure (some 1)
          (copyingFrom ++ HexDigest.zeros.text ++
            ": dial tcp: i/o timeout")).errorClass =
        .transient ∧
      (classifySkopeoFailure (some 1)
          (copyingFrom ++ HexDigest.with401.text ++
            ": dial tcp: i/o timeout")).errorClass =
        .substrateRefused ∧
      ¬ DigestIndependent copyingFrom
        ": dial tcp: i/o timeout" := by
  have hPre : ¬ Mentions authSignatures copyingFrom := by
    decide +kernel
  have hPost :
      ¬ Mentions authSignatures ": dial tcp: i/o timeout" := by
    decide +kernel
  have hNetwork :
      Mentions networkSignatures
        ": dial tcp: i/o timeout" := by
    decide +kernel
  have hZeros :=
    harmless_zeros.transient hPre hPost List.nil_suffix
      List.nil_prefix
      ((mentions_around_iff searchable_network copyingFrom
        _ HexDigest.zeros).mpr (.inr (.inl hNetwork)))
      (some 1)
  have hRefused :=
    refused_with401 copyingFrom ": dial tcp: i/o timeout"
      (some 1)
  refine ⟨hPre, hPost, hNetwork, hZeros, hRefused, ?_⟩
  intro hIndependent
  have hSame :=
    hIndependent.same_class (some 1) HexDigest.zeros
      HexDigest.with401
  rw [hZeros, hRefused] at hSame
  exact absurd hSame (by decide)

end EngenhoPromessa
