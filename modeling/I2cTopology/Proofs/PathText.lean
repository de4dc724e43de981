import I2cTopology.BusPath.Reading
import I2cTopology.Proofs.Decimal
import Mathlib.Data.List.Forall2

/-!
# Written paths and their steps

Cutting a text at a separator undoes joining texts that do not hold it.  The written steps of a path
hold no colon and no two steps are written alike, so a written path determines its steps, and reading
it gives them back as long as a path has room for them.

* `pieces_joined`: the pieces of joined segments are the segments.
* `parseChars_joined`: a written path is read as its steps, and is refused as too deep if they are
  more than the stop token leaves room for.
* `joined_segments_injOn`: paths that are written alike have the same steps.
-/

namespace I2cTopology
namespace Text

/-- The characters that are no letters, by their numbers. -/
theorem isAlpha_eq_false_iff (c : Char) :
    c.isAlpha = false ↔
      ¬ (c.val ≥ 'A'.val ∧ c.val ≤ 'Z'.val) ∧ ¬ (c.val ≥ 'a'.val ∧ c.val ≤ 'z'.val) := by
  have halpha : c.isAlpha = (decide (c.val ≥ 'A'.val ∧ c.val ≤ 'Z'.val) ||
      (decide (c.val ≥ 'a'.val) && decide (c.val ≤ 'z'.val))) := rfl
  rw [halpha, ← Bool.decide_and, Bool.or_eq_false_iff, decide_eq_false_iff_not,
    decide_eq_false_iff_not]

/-- A separator between two texts separates their pieces. -/
theorem pieces_append_separator (separator : Char) (front back : List Char) :
    pieces separator (front ++ separator :: back) =
      pieces separator front ++ pieces separator back := by
  induction front with
  | nil => simp [pieces]
  | cons c rest ih =>
      rw [List.cons_append, pieces, pieces, ih]
      by_cases hc : c = separator
      · rw [if_pos hc, if_pos hc, List.cons_append]
      · rw [if_neg hc, if_neg hc]
        cases hrest : pieces separator rest with
        | nil => exact absurd hrest (pieces_ne_nil separator rest)
        | cons piece others => rfl

/-- A text without the separator is its own only piece. -/
theorem pieces_of_not_mem {separator : Char} {text : List Char} (h : separator ∉ text) :
    pieces separator text = [text] := by
  induction text with
  | nil => rfl
  | cons c rest ih =>
      have hc : c ≠ separator := fun heq => h (heq ▸ List.mem_cons_self)
      have hrest : separator ∉ rest := fun hmem => h (List.mem_cons_of_mem c hmem)
      rw [pieces, if_neg hc, ih hrest]

theorem cut?_of_not_mem {separator : Char} {text : List Char} (h : separator ∉ text) :
    cut? separator text = none := by
  induction text with
  | nil => rfl
  | cons c rest ih =>
      have hc : c ≠ separator := fun heq => h (heq ▸ List.mem_cons_self)
      have hrest : separator ∉ rest := fun hmem => h (List.mem_cons_of_mem c hmem)
      rw [cut?, if_neg hc, ih hrest, Option.map_none]

/-- A text is cut at the first separator. -/
theorem cut?_append_separator {separator : Char} {front : List Char} (back : List Char)
    (h : separator ∉ front) :
    cut? separator (front ++ separator :: back) = some (front, back) := by
  induction front with
  | nil => simp [cut?]
  | cons c rest ih =>
      have hc : c ≠ separator := fun heq => h (heq ▸ List.mem_cons_self)
      have hrest : separator ∉ rest := fun hmem => h (List.mem_cons_of_mem c hmem)
      rw [List.cons_append, cut?, if_neg hc, ih hrest, Option.map_some]

theorem cut?_eq_some_iff {separator : Char} {text front back : List Char} :
    cut? separator text = some (front, back) ↔
      text = front ++ separator :: back ∧ separator ∉ front := by
  constructor
  · intro h
    induction text generalizing front with
    | nil => cases h
    | cons c rest ih =>
      rw [cut?] at h
      split at h
      next hc =>
        obtain ⟨rfl, rfl⟩ := Prod.mk.inj (Option.some.inj h)
        exact ⟨by rw [hc, List.nil_append], List.not_mem_nil⟩
      next hc =>
        obtain ⟨⟨before, after⟩, hrest, heq⟩ := Option.map_eq_some_iff.mp h
        obtain ⟨rfl, rfl⟩ := Prod.mk.inj heq
        obtain ⟨rfl, hbefore⟩ := ih hrest
        exact ⟨rfl, List.not_mem_cons_of_ne_of_not_mem (Ne.symm hc) hbefore⟩
  · rintro ⟨rfl, hfront⟩
    exact cut?_append_separator back hfront

theorem cut?_eq_none_iff {separator : Char} {text : List Char} :
    cut? separator text = none ↔ separator ∉ text := by
  refine ⟨fun h hmem => ?_, cut?_of_not_mem⟩
  -- A text with the separator would be cut at its first occurrence.
  obtain ⟨front, back, rfl, hfront⟩ := List.eq_append_cons_of_mem hmem
  rw [cut?_append_separator back hfront] at h
  cases h

/-- A text is cut at the first separator in one way only. -/
theorem eq_of_append_separator {separator : Char} {front back other rest : List Char}
    (h : front ++ separator :: back = other ++ separator :: rest) (hfront : separator ∉ front)
    (hother : separator ∉ other) : front = other ∧ back = rest := by
  have hcut := cut?_append_separator back hfront
  rw [h, cut?_append_separator rest hother] at hcut
  obtain ⟨rfl, rfl⟩ := Prod.mk.inj (Option.some.inj hcut)
  exact ⟨rfl, rfl⟩

end Text

namespace BusPath

/-- Every token of the list is a step of a walk. -/
def Walkable (tokens : List PathToken) : Prop :=
  ∀ token ∈ tokens, token.isTerminal = false

/-! ## Joined segments -/

theorem joined_cons {segments : List (List Char)} (first : List Char) (h : segments ≠ []) :
    joined (first :: segments) = first ++ ':' :: joined segments := by
  cases segments with
  | nil => exact absurd rfl h
  | cons next others => rfl

/-- Two runs of segments are joined by one more colon. -/
theorem joined_append {front back : List (List Char)} (hfront : front ≠ []) (hback : back ≠ []) :
    joined (front ++ back) = joined front ++ ':' :: joined back := by
  induction front with
  | nil => exact absurd rfl hfront
  | cons first rest ih =>
      rw [List.cons_append, joined_cons first (by simp [hback])]
      by_cases hrest : rest = []
      · rw [hrest, List.nil_append, joined]
      · rw [ih hrest, joined_cons first hrest, List.append_assoc, List.cons_append]

theorem pieces_joined {segments : List (List Char)} (hne : segments ≠ [])
    (hcolon : ∀ segment ∈ segments, ':' ∉ segment) :
    Text.pieces ':' (joined segments) = segments := by
  induction segments with
  | nil => exact absurd rfl hne
  | cons first rest ih =>
      have hfirst : ':' ∉ first := hcolon first List.mem_cons_self
      by_cases hrest : rest = []
      · rw [hrest, joined, Text.pieces_of_not_mem hfirst]
      · have hothers := ih hrest fun segment hmem => hcolon segment (List.mem_cons_of_mem _ hmem)
        rw [joined_cons first hrest, Text.pieces_append_separator, hothers,
          Text.pieces_of_not_mem hfirst, List.singleton_append]

/-! ## Written steps -/

/-- A written step holds digits and dots only. -/
theorem isDigit_or_dot_of_mem_segment {token : PathToken} {c : Char} (hc : c ∈ token.segment) :
    c.isDigit = true ∨ c = '.' := by
  have hdigit {n : Nat} (hmem : c ∈ Nat.toDigits 10 n) : c.isDigit = true ∨ c = '.' :=
    .inl (Numeral.isDigit_of_mem_toDigits hmem)
  cases token with
  | bus nr => exact hdigit hc
  | mux ordinal output =>
      rcases List.mem_append.mp hc with hfirst | hrest
      · exact hdigit hfirst
      rcases List.mem_cons.mp hrest with rfl | hlast
      · exact .inr rfl
      · exact hdigit hlast
  | channel number => exact absurd hc List.not_mem_nil
  | address number => exact absurd hc List.not_mem_nil
  | stop => exact absurd hc List.not_mem_nil

/-- A written step holds no colon. -/
theorem colon_not_mem_segment (token : PathToken) : ':' ∉ token.segment := by
  intro hmem
  obtain h | h := isDigit_or_dot_of_mem_segment hmem <;> cases h

theorem mem_of_mem_joined {segments : List (List Char)} {c : Char} (hc : c ∈ joined segments) :
    c = ':' ∨ ∃ segment ∈ segments, c ∈ segment := by
  fun_induction joined segments with
  | case1 => exact absurd hc List.not_mem_nil
  | case2 segment => exact .inr ⟨segment, List.mem_singleton_self _, hc⟩
  | case3 segment next others ih =>
      rcases List.mem_append.mp hc with hfirst | hrest
      · exact .inr ⟨segment, List.mem_cons_self, hfirst⟩
      rcases List.mem_cons.mp hrest with rfl | hlater
      · exact .inl rfl
      · exact (ih hlater).imp_right fun ⟨other, hother, hmem⟩ =>
          ⟨other, List.mem_cons_of_mem _ hother, hmem⟩

/-- A written path holds digits, dots and colons only. -/
theorem isDigit_or_mark_of_mem_joined {tokens : List PathToken} {c : Char}
    (hc : c ∈ joined (tokens.map PathToken.segment)) : c.isDigit = true ∨ c = '.' ∨ c = ':' := by
  obtain rfl | ⟨segment, hsegment, hmem⟩ := mem_of_mem_joined hc
  · exact .inr (.inr rfl)
  · obtain ⟨token, -, rfl⟩ := List.mem_map.mp hsegment
    exact (isDigit_or_dot_of_mem_segment hmem).imp_right .inl

/-- A written path has no letters. -/
theorem isAlpha_of_mem_joined {tokens : List PathToken} {c : Char}
    (hc : c ∈ joined (tokens.map PathToken.segment)) : c.isAlpha = false := by
  obtain hdigit | rfl | rfl := isDigit_or_mark_of_mem_joined hc
  · rw [Text.isAlpha_eq_false_iff]
    simp only [Char.isDigit] at hdigit
    grind
  · rfl
  · rfl

theorem segment_ne_nil {token : PathToken} (h : token.isTerminal = false) :
    token.segment ≠ [] := by
  cases token with
  | bus nr => exact Nat.toDigits_ne_nil
  | mux ordinal output => simp [PathToken.segment]
  | channel number => simp [PathToken.isTerminal] at h
  | address number => simp [PathToken.isTerminal] at h
  | stop => simp [PathToken.isTerminal] at h

/-- Cutting a written path at its colons gives its written steps. -/
theorem pieces_joined_segments {tokens : List PathToken} (hne : tokens ≠ []) :
    Text.pieces ':' (joined (tokens.map PathToken.segment)) = tokens.map PathToken.segment := by
  apply pieces_joined (by simpa using hne)
  intro written hwritten
  obtain ⟨token, -, rfl⟩ := List.mem_map.mp hwritten
  exact colon_not_mem_segment token

/-- The written form of a step is read as the step. -/
theorem tokenOfSegment?_segment {token : PathToken} (h : token.isTerminal = false) :
    tokenOfSegment? token.segment = some token := by
  have hdot := Numeral.not_mem_toDigits (c := '.') (by decide)
  cases token with
  | bus nr =>
      rw [PathToken.segment, tokenOfSegment?, Text.cut?_of_not_mem (hdot nr.toNat),
        Numeral.cNotation?_toDigits, Option.map_some]
  | mux ordinal output =>
      have hordinal : ordinal? (Nat.toDigits 10 ordinal.toNat) = some ordinal := by
        have hne : (Nat.toDigits 10 ordinal.toNat).isEmpty = false := by
          simp [Nat.toDigits_ne_nil]
        rw [ordinal?, hne, if_neg Bool.false_ne_true, Numeral.cNotation?_toDigits]
      rw [PathToken.segment, tokenOfSegment?, Text.cut?_append_separator _ (hdot ordinal.toNat)]
      obtain ⟨c, after, hafter⟩ := List.exists_cons_of_ne_nil
        (Nat.toDigits_ne_nil (n := output.toNat) (b := 10))
      have houtput : Numeral.cNotation? (c :: after) = some output := by
        rw [← hafter, Numeral.cNotation?_toDigits]
      simp only [hafter, hordinal, houtput, Option.bind_eq_bind, Option.bind_some]
  | channel number => simp [PathToken.isTerminal] at h
  | address number => simp [PathToken.isTerminal] at h
  | stop => simp [PathToken.isTerminal] at h

/-! ## Reading a written path -/

/-- Segments that stand for tokens are passed, as long as there is room. -/
theorem tokensOfSegments_append {index : Nat} {front back : List (List Char)} {tokens : List PathToken}
    (hreads : List.Forall₂ (fun segment token => tokenOfSegment? segment = some token) front tokens)
    (hroom : index + front.length < maxTokens) :
    tokensOfSegments index (front ++ back) =
      (tokensOfSegments (index + front.length) back).map (tokens ++ ·) := by
  induction hreads generalizing index with
  | nil =>
      show _ = Except.map id _
      rw [Except.map_id]
      rfl
  | @cons segment token front tokens hsegment _ ih =>
      have hne : ¬ segment.isEmpty = true := by
        rintro hempty
        rw [List.isEmpty_iff.mp hempty] at hsegment
        cases hsegment
      have hlength : index + 1 + front.length = index + (segment :: front).length := by
        rw [List.length_cons]
        omega
      rw [List.cons_append, tokensOfSegments, if_neg (by omega), if_neg hne, hsegment, ih (by omega),
        hlength]
      cases tokensOfSegments (index + (segment :: front).length) back <;> rfl

/-- Segments that stand for tokens are read as these tokens, up to the room for them. -/
theorem tokensOfSegments_eq {segments : List (List Char)} {tokens : List PathToken}
    (hreads : List.Forall₂ (fun segment token => tokenOfSegment? segment = some token) segments tokens) :
    tokensOfSegments 0 segments =
      if tokens.length < maxTokens then .ok tokens else .error .tooDeep := by
  have hmax : maxTokens = 20 := rfl
  have hlength := hreads.length_eq
  by_cases hfits : tokens.length < maxTokens
  · have hall : tokensOfSegments 0 (segments ++ []) = _ := tokensOfSegments_append hreads (by omega)
    rw [List.append_nil] at hall
    simp [hall, hfits, tokensOfSegments, Except.map]
  · -- The limit is looked at before the segment is read, so it alone decides.
    have hmany : maxTokens - 1 < segments.length := by omega
    have hfront : (segments.take (maxTokens - 1)).length = maxTokens - 1 :=
      List.length_take_of_le (Nat.le_of_lt hmany)
    rw [if_neg hfits, ← List.take_append_drop (maxTokens - 1) segments,
      tokensOfSegments_append (List.forall₂_take _ hreads) (by rw [hfront]; decide), hfront,
      Nat.zero_add, List.drop_eq_getElem_cons hmany, tokensOfSegments, if_pos rfl]
    rfl

/-- **Reading a written path.**  A path of at least one step is read as its steps, if they and the
stop token are no more tokens than a path holds, and is too deep otherwise. -/
theorem parseChars_joined {tokens : List PathToken} (hne : tokens ≠ []) (hwalk : Walkable tokens) :
    parseChars (joined (tokens.map PathToken.segment)) =
      if tokens.length < maxTokens then .ok ⟨tokens ++ [.stop]⟩ else .error .tooDeep := by
  have hnonempty : (joined (tokens.map PathToken.segment)).isEmpty = false := by
    obtain ⟨token, rest, rfl⟩ := List.exists_cons_of_ne_nil hne
    have htoken := segment_ne_nil (hwalk token List.mem_cons_self)
    cases rest with
    | nil => simp [joined, htoken]
    | cons next others => simp [joined]
  have hreads : List.Forall₂ (fun segment token => tokenOfSegment? segment = some token)
      (tokens.map PathToken.segment) tokens :=
    List.forall₂_map_left_iff.mpr
      (List.forall₂_same.mpr fun token hmem => tokenOfSegment?_segment (hwalk token hmem))
  rw [parseChars, hnonempty, if_neg Bool.false_ne_true, pieces_joined_segments hne,
    tokensOfSegments_eq hreads]
  by_cases hfits : tokens.length < maxTokens
  · rw [if_pos hfits, if_pos hfits]
    rfl
  · rw [if_neg hfits, if_neg hfits]
    rfl

/-- Steps that are written alike, one by one, are the same steps. -/
theorem map_segment_injOn {a b : List PathToken} (ha : Walkable a) (hb : Walkable b)
    (h : a.map PathToken.segment = b.map PathToken.segment) : a = b := by
  have hread : ∀ {tokens : List PathToken}, Walkable tokens →
      (tokens.map PathToken.segment).map tokenOfSegment? = tokens.map some := by
    intro tokens hwalk
    rw [List.map_map]
    exact List.map_congr_left fun token hmem => tokenOfSegment?_segment (hwalk token hmem)
  have hsome : a.map some = b.map some := by rw [← hread ha, ← hread hb, h]
  exact (List.map_inj_right fun _ _ => Option.some.inj).mp hsome

/-- Two written paths with one text have the same steps. -/
theorem joined_segments_injOn {a b : List PathToken} (hane : a ≠ []) (hbne : b ≠ [])
    (ha : Walkable a) (hb : Walkable b)
    (h : joined (a.map PathToken.segment) = joined (b.map PathToken.segment)) : a = b := by
  apply map_segment_injOn ha hb
  rw [← pieces_joined_segments hane, h, pieces_joined_segments hbne]

/-- A written path that goes on after another one and a colon goes on after its steps. -/
theorem prefix_of_joined_segments {front tokens : List PathToken} {rest : List Char}
    (hfront : front ≠ []) (htokens : tokens ≠ []) (hwalkFront : Walkable front)
    (hwalk : Walkable tokens)
    (h : joined (tokens.map PathToken.segment) = joined (front.map PathToken.segment) ++ ':' :: rest) :
    front <+: tokens := by
  have hcut := congrArg (Text.pieces ':') h
  rw [pieces_joined_segments htokens, Text.pieces_append_separator,
    pieces_joined_segments hfront] at hcut
  obtain ⟨opening, others, rfl, hopening, -⟩ := List.map_eq_append_iff.mp hcut
  have hwalkOpening : Walkable opening := fun token hmem =>
    hwalk token (List.mem_append_left others hmem)
  rw [map_segment_injOn hwalkOpening hwalkFront hopening]
  exact List.prefix_append front others

end BusPath
end I2cTopology
