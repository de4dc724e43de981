import I2cTopology.Proofs.CNotation
import I2cTopology.Proofs.PathText

/-!
# The grammar of written paths

A text is read as a path if each of its segments stands for a token and they are not too many.  Two rules
are lenient: an ordinal that is left out is zero, and what stands behind a dot is dropped if it is no
integer.  Otherwise the leftmost segment that stands for no token is reported, unless the limit is met
before it.

* `SegmentReads`: the token that a segment stands for.
* `Parsed`, `parse_eq_iff`: what a text comes to, and that reading comes to it.
* `parse_digitless`: together the two rules let segments without a digit pass, always as adapter zero.
-/

namespace I2cTopology

theorem Text.pieces_eq_splitOn (separator : Char) (text : List Char) :
    pieces separator text = text.splitOn separator := by
  induction text with
  | nil => rfl
  | cons c rest ih =>
    rw [pieces, List.splitOn, List.splitOnP_cons_eq_if_modifyHead, ih, List.splitOn]
    by_cases hc : c = separator
    · simp [hc]
    · rw [if_neg hc, if_neg (by simpa using hc)]
      cases hrest : List.splitOnP (· == separator) rest with
      | nil => exact absurd hrest (List.splitOnP_ne_nil _ _)
      | cons piece others => rfl

namespace BusPath

open Numeral (IsInteger cNotation?_eq_some_iff)

/-! ## Segments -/

/-- The text before a dot stands for the ordinal.  An empty text stands for zero. -/
def OrdinalReads (text : List Char) (ordinal : UInt32) : Prop :=
  text = [] ∧ ordinal = 0 ∨ IsInteger text ordinal.toNat

/-- The token that a segment stands for.  A segment is cut at its first dot, and the part behind the dot is
not empty. -/
inductive SegmentReads : List Char → PathToken → Prop
  | bus {segment : List Char} {nr : UInt32} (hnr : IsInteger segment nr.toNat) :
      SegmentReads segment (.bus nr)
  | mux {before after : List Char} {ordinal output : UInt32} (hdot : '.' ∉ before)
      (hordinal : OrdinalReads before ordinal) (houtput : IsInteger after output.toNat) :
      SegmentReads (before ++ '.' :: after) (.mux ordinal output)
  /-- An output number that is no integer is dropped. -/
  | dropped {before after : List Char} {ordinal : UInt32} (hdot : '.' ∉ before) (hafter : after ≠ [])
      (hordinal : OrdinalReads before ordinal)
      (houtput : ∀ output : UInt32, ¬ IsInteger after output.toNat) :
      SegmentReads (before ++ '.' :: after) (.bus ordinal)

/-- The segment stands for a token. -/
def Readable (segment : List Char) : Prop :=
  ∃ token, SegmentReads segment token

theorem ordinal?_eq_some_iff {text : List Char} {ordinal : UInt32} :
    ordinal? text = some ordinal ↔ OrdinalReads text ordinal := by
  cases text with
  | nil =>
    have hempty : ¬ IsInteger [] ordinal.toNat := fun h => h.ne_nil rfl
    simp [ordinal?, OrdinalReads, hempty, eq_comm]
  | cons c rest =>
    simp [ordinal?, OrdinalReads, cNotation?_eq_some_iff]

theorem cNotation?_eq_none_iff {text : List Char} :
    Numeral.cNotation? text = none ↔ ∀ number : UInt32, ¬ IsInteger text number.toNat := by
  simp only [Option.eq_none_iff_forall_ne_some, ne_eq, cNotation?_eq_some_iff]

theorem tokenOfSegment?_of_reads {segment : List Char} {token : PathToken}
    (h : SegmentReads segment token) : tokenOfSegment? segment = some token := by
  cases h with
  | bus hnr =>
    rw [tokenOfSegment?, Text.cut?_of_not_mem (hnr.not_mem (by decide) (by decide))]
    exact Option.map_eq_some_iff.mpr ⟨_, cNotation?_eq_some_iff.mpr hnr, rfl⟩
  | mux hdot hordinal houtput =>
    obtain ⟨first, rest, rfl⟩ := List.exists_cons_of_ne_nil houtput.ne_nil
    simp only [tokenOfSegment?, Text.cut?_append_separator _ hdot, ordinal?_eq_some_iff.mpr hordinal,
      cNotation?_eq_some_iff.mpr houtput, Option.bind_eq_bind, Option.bind_some]
  | dropped hdot hafter hordinal houtput =>
    obtain ⟨first, rest, rfl⟩ := List.exists_cons_of_ne_nil hafter
    simp only [tokenOfSegment?, Text.cut?_append_separator _ hdot, ordinal?_eq_some_iff.mpr hordinal,
      cNotation?_eq_none_iff.mpr houtput, Option.bind_eq_bind, Option.bind_some]

theorem reads_of_tokenOfSegment? {segment : List Char} {token : PathToken}
    (h : tokenOfSegment? segment = some token) : SegmentReads segment token := by
  unfold tokenOfSegment? at h
  split at h
  next before c after hcut =>
    obtain ⟨rfl, hdot⟩ := Text.cut?_eq_some_iff.mp hcut
    obtain ⟨ordinal, hordinal, htoken⟩ := Option.bind_eq_some_iff.mp h
    have hordinal := ordinal?_eq_some_iff.mp hordinal
    split at htoken
    next output houtput =>
      obtain rfl := Option.some.inj htoken
      exact .mux hdot hordinal (cNotation?_eq_some_iff.mp houtput)
    next houtput =>
      obtain rfl := Option.some.inj htoken
      exact .dropped hdot (List.cons_ne_nil c after) hordinal (cNotation?_eq_none_iff.mp houtput)
  next =>
    obtain ⟨nr, hnr, rfl⟩ := Option.map_eq_some_iff.mp h
    exact .bus (cNotation?_eq_some_iff.mp hnr)

/-- The token of a segment is found, if it stands for one. -/
theorem tokenOfSegment?_eq_some_iff {segment : List Char} {token : PathToken} :
    tokenOfSegment? segment = some token ↔ SegmentReads segment token :=
  ⟨reads_of_tokenOfSegment?, tokenOfSegment?_of_reads⟩

theorem readable_iff {segment : List Char} : Readable segment ↔ (tokenOfSegment? segment).isSome = true := by
  rw [Option.isSome_iff_exists]
  exact exists_congr fun _ => tokenOfSegment?_eq_some_iff.symm

/-! ## Lists of segments -/

/-- The first segment that stands for no token is this one, at this position. -/
structure FirstFault (segments : List (List Char)) (index : Nat) (fault : List Char) : Prop where
  at_index : segments[index]? = some fault
  before : ∀ segment ∈ segments.take index, Readable segment
  unreadable : ¬ Readable fault

theorem exists_reads {segments : List (List Char)} (h : ∀ segment ∈ segments, Readable segment) :
    ∃ tokens, List.Forall₂ SegmentReads segments tokens := by
  induction segments with
  | nil => exact ⟨[], .nil⟩
  | cons segment rest ih =>
    obtain ⟨token, htoken⟩ := h segment List.mem_cons_self
    obtain ⟨tokens, htokens⟩ := ih fun other hother => h other (List.mem_cons_of_mem _ hother)
    exact ⟨token :: tokens, .cons htoken htokens⟩

/-- Either all segments stand for tokens, or there is a first one that does not. -/
theorem readable_or_firstFault (segments : List (List Char)) :
    (∀ segment ∈ segments, Readable segment) ∨ ∃ index fault, FirstFault segments index fault := by
  induction segments with
  | nil => exact .inl (by simp)
  | cons segment rest ih =>
    by_cases hsegment : Readable segment
    · obtain hrest | ⟨index, fault, hat, hbefore, hfault⟩ := ih
      · exact .inl (List.forall_mem_cons.mpr ⟨hsegment, hrest⟩)
      · exact .inr ⟨index + 1, fault, hat, List.forall_mem_cons.mpr ⟨hsegment, hbefore⟩, hfault⟩
    · exact .inr ⟨0, segment, rfl, by simp, hsegment⟩

/-! ## Texts -/

/-- What a text comes to.  Segments are counted from zero, and there is room for nineteen. -/
inductive Parsed (text : String) : Except Malformed BusPath → Prop
  | empty (htext : text = "") : Parsed text (.error ⟨text, .empty⟩)
  | read {tokens : List PathToken} (htext : text ≠ "")
      (hreads : List.Forall₂ SegmentReads (text.toList.splitOn ':') tokens)
      (hroom : (text.toList.splitOn ':').length ≤ 19) : Parsed text (.ok ⟨tokens ++ [.stop]⟩)
  | tooDeep (hreads : ∀ segment ∈ (text.toList.splitOn ':').take 19, Readable segment)
      (hmany : 19 < (text.toList.splitOn ':').length) : Parsed text (.error ⟨text, .tooDeep⟩)
  | emptySegment {index : Nat} (htext : text ≠ "") (hindex : index < 19)
      (hfault : FirstFault (text.toList.splitOn ':') index []) :
      Parsed text (.error ⟨text, .emptySegment index⟩)
  | notNumeric {index : Nat} {segment : List Char} (hindex : index < 19) (hsegment : segment ≠ [])
      (hfault : FirstFault (text.toList.splitOn ':') index segment) :
      Parsed text (.error ⟨text, .notNumeric index (String.ofList segment)⟩)

theorem parse_of_ne_empty {text : String} (h : text ≠ "") :
    parse text = ((tokensOfSegments 0 (text.toList.splitOn ':')).map fun steps =>
      (⟨steps ++ [.stop]⟩ : BusPath)).mapError (Malformed.mk text) := by
  have hchars : text.toList.isEmpty = false := by simpa [List.isEmpty_eq_false_iff] using h
  rw [parse, parseChars, hchars, if_neg Bool.false_ne_true, Text.pieces_eq_splitOn]

/-- A fault behind segments that stand for tokens is reported. -/
theorem parse_eq_error {text : String} {index : Nat} {reason : Reason} (htext : text ≠ "")
    (hreads : ∀ segment ∈ (text.toList.splitOn ':').take index, Readable segment)
    (hindex : index < maxTokens) (hroom : index ≤ (text.toList.splitOn ':').length)
    (hfault : tokensOfSegments index ((text.toList.splitOn ':').drop index) = .error reason) :
    parse text = .error ⟨text, reason⟩ := by
  obtain ⟨tokens, htokens⟩ := exists_reads hreads
  have htokens := htokens.imp fun _ _ => tokenOfSegment?_eq_some_iff.mpr
  have hlength : ((text.toList.splitOn ':').take index).length = index := List.length_take_of_le hroom
  have hall : tokensOfSegments 0 (text.toList.splitOn ':') = .error reason := by
    rw [← List.take_append_drop index (text.toList.splitOn ':'),
      tokensOfSegments_append htokens (by omega), hlength, Nat.zero_add, hfault]
    rfl
  rw [parse_of_ne_empty htext, hall]
  rfl

theorem FirstFault.lt_length {segments : List (List Char)} {index : Nat} {fault : List Char}
    (h : FirstFault segments index fault) : index < segments.length :=
  (List.getElem?_eq_some_iff.mp h.at_index).1

theorem FirstFault.drop_eq_cons {segments : List (List Char)} {index : Nat} {fault : List Char}
    (h : FirstFault segments index fault) : ∃ rest, segments.drop index = fault :: rest := by
  obtain ⟨hindex, hfault⟩ := List.getElem?_eq_some_iff.mp h.at_index
  exact ⟨segments.drop (index + 1), hfault ▸ List.drop_eq_getElem_cons hindex⟩

theorem parse_of_parsed {text : String} {outcome : Except Malformed BusPath} (h : Parsed text outcome) :
    parse text = outcome := by
  have hmax : maxTokens = 20 := rfl
  cases h with
  | empty htext =>
    subst htext
    rfl
  | @read tokens htext hreads hroom =>
    have hlength := hreads.length_eq
    rw [parse_of_ne_empty htext,
      tokensOfSegments_eq (hreads.imp fun _ _ => tokenOfSegment?_eq_some_iff.mpr), if_pos (by omega)]
    rfl
  | tooDeep hreads hmany =>
    have htext : text ≠ "" := by
      rintro rfl
      simp at hmany
    refine parse_eq_error htext hreads (by omega) (by omega) ?_
    rw [List.drop_eq_getElem_cons hmany, tokensOfSegments, if_pos (by omega)]
  | emptySegment htext hindex hfault =>
    obtain ⟨rest, hrest⟩ := hfault.drop_eq_cons
    refine parse_eq_error htext hfault.before (by omega) hfault.lt_length.le ?_
    rw [hrest, tokensOfSegments, if_neg (by omega)]
    rfl
  | @notNumeric index segment hindex hsegment hfault =>
    obtain ⟨rest, hrest⟩ := hfault.drop_eq_cons
    have htext : text ≠ "" := by
      rintro rfl
      exact hsegment (List.mem_singleton.mp (List.mem_of_getElem? hfault.at_index))
    have hnone : tokenOfSegment? segment = none := by
      simpa [readable_iff] using hfault.unreadable
    refine parse_eq_error htext hfault.before (by omega) hfault.lt_length.le ?_
    rw [hrest, tokensOfSegments, if_neg (by omega), if_neg (by simpa using hsegment), hnone]

theorem exists_parsed (text : String) : ∃ outcome, Parsed text outcome := by
  by_cases htext : text = ""
  · exact ⟨_, .empty htext⟩
  obtain hreads | ⟨index, fault, hfault⟩ := readable_or_firstFault (text.toList.splitOn ':')
  · by_cases hroom : (text.toList.splitOn ':').length ≤ 19
    · obtain ⟨tokens, htokens⟩ := exists_reads hreads
      exact ⟨_, .read htext htokens hroom⟩
    · exact ⟨_, .tooDeep (fun segment hsegment => hreads segment (List.mem_of_mem_take hsegment)) (by omega)⟩
  · by_cases hindex : index < 19
    · by_cases hempty : fault = []
      · subst hempty
        exact ⟨_, .emptySegment htext hindex hfault⟩
      · exact ⟨_, .notNumeric hindex hempty hfault⟩
    · -- The limit is met before the fault.
      have hlength := hfault.lt_length
      refine ⟨_, .tooDeep (fun segment hsegment => hfault.before segment ?_) (by omega)⟩
      exact List.take_subset_take_left _ (by omega) hsegment

/-- Reading comes to nothing else, since every text comes to something. -/
theorem parsed_of_parse {text : String} {outcome : Except Malformed BusPath} (h : parse text = outcome) :
    Parsed text outcome := by
  obtain ⟨other, hother⟩ := exists_parsed text
  rwa [← h, parse_of_parsed hother]

/-- **The grammar of written paths.**  A text is read as the tokens of its segments, closed by the stop
token, if it is not empty, its segments are at most nineteen and each stands for a token.  The empty text is
reported as such, a twentieth segment if the ones before it stand for tokens, and otherwise the leftmost
segment that stands for none, as empty or as not numeric. -/
theorem parse_eq_iff {text : String} {outcome : Except Malformed BusPath} :
    parse text = outcome ↔ Parsed text outcome :=
  ⟨parsed_of_parse, parse_of_parsed⟩

/-! ## Segments without a digit -/

/-- The text has no decimal digit. -/
def Digitless (text : List Char) : Prop :=
  ∀ c ∈ text, c.isDigit = false

theorem Digitless.not_isInteger {text part : List Char} (h : Digitless text) (hpart : part ⊆ text)
    (value : Nat) : ¬ IsInteger part value := by
  intro hinteger
  obtain ⟨c, hc, hdigit⟩ := hinteger.exists_isDigit
  rw [h c (hpart hc)] at hdigit
  cases hdigit

/-- Only the two lenient rules together give a segment without a digit a token. -/
theorem segmentReads_digitless_iff {segment : List Char} {token : PathToken} (h : Digitless segment) :
    SegmentReads segment token ↔ (∃ rest, rest ≠ [] ∧ segment = '.' :: rest) ∧ token = .bus 0 := by
  constructor
  · intro hreads
    cases hreads with
    | bus hnr => exact absurd hnr (h.not_isInteger (List.Subset.refl _) _)
    | @mux before after _ _ _ _ houtput =>
      have hafter : after ⊆ before ++ '.' :: after := by simp
      exact absurd houtput (h.not_isInteger hafter _)
    | dropped _ hafter hordinal =>
      obtain ⟨rfl, rfl⟩ | hordinal := hordinal
      · exact ⟨⟨_, hafter, rfl⟩, rfl⟩
      · exact absurd hordinal (h.not_isInteger (List.subset_append_left _ _) _)
  · rintro ⟨⟨rest, hrest, rfl⟩, rfl⟩
    have hinteger (output : UInt32) : ¬ IsInteger rest output.toNat :=
      h.not_isInteger (List.subset_cons_self _ _) _
    exact @SegmentReads.dropped [] rest 0 List.not_mem_nil hrest (.inl ⟨rfl, rfl⟩) hinteger

/-- Segments that all stand for one token. -/
theorem forall₂_replicate {segments : List (List Char)} {token : PathToken}
    (h : ∀ segment ∈ segments, SegmentReads segment token) :
    List.Forall₂ SegmentReads segments (List.replicate segments.length token) := by
  induction segments with
  | nil => exact .nil
  | cons segment rest ih =>
    obtain ⟨hsegment, hrest⟩ := List.forall_mem_cons.mp h
    exact .cons hsegment (ih hrest)

/-- **Segments without a digit.**  In a text that is read, a segment without a digit is a dot and something
behind it, and it stands for adapter zero.  Conversely, a text is read if all its segments are such. -/
theorem parse_digitless (text : String) :
    (∀ path, parse text = .ok path → ∀ (index : Nat) (segment : List Char),
      (text.toList.splitOn ':')[index]? = some segment → (∀ c ∈ segment, c.isDigit = false) →
        (∃ rest, rest ≠ [] ∧ segment = '.' :: rest) ∧ path.tokens[index]? = some (.bus 0)) ∧
    ((text.toList.splitOn ':').length ≤ 19 →
      (∀ segment ∈ text.toList.splitOn ':', (∀ c ∈ segment, c.isDigit = false) ∧
        ∃ rest, rest ≠ [] ∧ segment = '.' :: rest) →
        parse text =
          .ok ⟨List.replicate (text.toList.splitOn ':').length (.bus 0) ++ [.stop]⟩) := by
  constructor
  · intro path hparse index segment hsegment hdigitless
    cases parsed_of_parse hparse with
    | @read tokens _ hreads _ =>
      obtain ⟨hlength, hall⟩ := List.forall₂_iff_get.mp hreads
      obtain ⟨hindex, rfl⟩ := List.getElem?_eq_some_iff.mp hsegment
      have htokens : index < tokens.length := hlength ▸ hindex
      obtain ⟨hshape, htoken⟩ := (segmentReads_digitless_iff hdigitless).mp (hall index hindex htokens)
      refine ⟨hshape, ?_⟩
      rw [List.getElem?_append_left htokens, List.getElem?_eq_getElem htokens]
      exact congrArg some htoken
  · intro hroom hsegments
    have htext : text ≠ "" := by
      rintro rfl
      -- The only segment of the empty text is empty.
      obtain ⟨-, rest, -, hrest⟩ := hsegments [] (List.mem_singleton_self [])
      cases hrest
    refine parse_of_parsed (.read htext (forall₂_replicate fun segment hsegment => ?_) hroom)
    obtain ⟨hdigitless, hshape⟩ := hsegments segment hsegment
    exact (segmentReads_digitless_iff hdigitless).mpr ⟨hshape, rfl⟩

/-- A dot and a letter name adapter zero. -/
theorem parse_dot_letter :
    parse ".x" = .ok ⟨[.bus 0, .stop]⟩ ∧ ∃ rest, rest ≠ [] ∧ ['.', 'x'] = '.' :: rest := by
  obtain ⟨hshape, hread⟩ := parse_digitless ".x"
  have hdigitless : ∀ c ∈ ['.', 'x'], c.isDigit = false := by simp [Char.isDigit]
  have hparse : parse ".x" = .ok ⟨[.bus 0, .stop]⟩ := by
    refine hread (by decide) fun segment hsegment => ?_
    obtain rfl : segment = ['.', 'x'] := List.mem_singleton.mp hsegment
    exact ⟨hdigitless, ['x'], List.cons_ne_nil _ _, rfl⟩
  exact ⟨hparse, (hshape _ hparse 0 ['.', 'x'] rfl hdigitless).1⟩

end BusPath
end I2cTopology
