import I2cTopology.Forest.Resolve
import I2cTopology.Proofs.PathText
import Mathlib.Data.List.TakeWhile

/-!
# Writing, reading and collecting paths

A path comes from a text or from a list of tokens.  Both ways keep one limit on the number of tokens,
each in its own words, and a path is written with a rule of its own on where to stop.  They agree:
whatever is written is read back, and it leads where the path leads.

* `Obtainable.exists_steps`: the shape of every path that can be had.
* `follow?_takeWhile`: nothing matters to a walk after the first token that ends it.
* `codec_consistent`: the two ways to a path, and the way back to a text.
-/

namespace I2cTopology

/-- A step in decimal. -/
def PathToken.decimal : PathToken → String
  | bus nr => toString nr
  | mux ordinal output => s!"{ordinal}.{output}"
  | _ => ""

theorem PathToken.toList_decimal (token : PathToken) : token.decimal.toList = token.segment := by
  have hdigits : ∀ number : UInt32, (toString number).toList = Nat.toDigits 10 number.toNat := by
    intro number
    show (toString number.toNat).toList = _
    rw [Nat.toString_eq_repr, Nat.toList_repr]
  cases token with
  | bus nr => exact hdigits nr
  | mux ordinal output =>
      have hdot : (toString "." : String).toList = ['.'] := rfl
      simp [decimal, segment, hdigits, hdot]
  | channel number => rfl
  | address number => rfl
  | stop => rfl

namespace BusPath

/-- Steps in decimal, joined by colons. -/
def written (steps : List PathToken) : String :=
  ":".intercalate (steps.map PathToken.decimal)

/-- The path comes from a text or from a list of tokens. -/
def Obtainable (path : BusPath) : Prop :=
  (∃ text, parse text = .ok path) ∨ ∃ tokens, ofTokens? tokens = some path

/-! ## Written steps -/

theorem toList_written (steps : List PathToken) :
    (written steps).toList = joined (steps.map PathToken.segment) := by
  unfold written
  induction steps with
  | nil => rfl
  | cons step rest ih =>
      cases rest with
      | nil => simp [joined, PathToken.toList_decimal]
      | cons next others =>
          have hcolon : (":" : String).toList = [':'] := rfl
          rw [List.map_cons, List.map_cons, String.intercalate_cons_cons, ← List.map_cons,
            String.toList_append, String.toList_append, ih, PathToken.toList_decimal, hcolon,
            List.append_assoc, List.singleton_append]
          rfl

theorem render_eq_written (path : BusPath) : path.render = written path.walk := by
  apply String.toList_inj.mp
  rw [toList_written, render, String.toList_ofList]

/-- **Reading written steps.**  Steps are read back, up to the room for them. -/
theorem parse_written {steps : List PathToken} (hne : steps ≠ []) (hwalk : Walkable steps) :
    parse (written steps) =
      if steps.length < maxTokens then .ok ⟨steps ++ [.stop]⟩
      else .error ⟨written steps, .tooDeep⟩ := by
  rw [parse, toList_written, parseChars_joined hne hwalk]
  split <;> rfl

/-! ## The shape of a path -/

theorem isTerminal_of_tokenOfSegment? {segment : List Char} {token : PathToken}
    (h : tokenOfSegment? segment = some token) : token.isTerminal = false := by
  unfold tokenOfSegment? at h
  split at h
  · obtain ⟨ordinal, -, h⟩ := Option.bind_eq_some_iff.mp h
    split at h <;> cases h <;> rfl
  · obtain ⟨nr, -, rfl⟩ := Option.map_eq_some_iff.mp h
    rfl

/-- Whatever is read from segments are steps, and they leave room for the stop token. -/
theorem walkable_of_tokensOfSegments {index : Nat} {segments : List (List Char)}
    {tokens : List PathToken} (hindex : index < maxTokens)
    (h : tokensOfSegments index segments = .ok tokens) :
    Walkable tokens ∧ index + tokens.length < maxTokens := by
  induction segments generalizing index tokens with
  | nil =>
      cases h
      exact ⟨by simp [Walkable], hindex⟩
  | cons segment rest ih =>
      rw [tokensOfSegments] at h
      split at h
      · cases h
      · rename_i hroom
        split at h
        · cases h
        · cases htoken : tokenOfSegment? segment with
          | none => simp [htoken] at h
          | some token =>
              simp only [htoken] at h
              cases hrest : tokensOfSegments (index + 1) rest with
              | error reason => simp [hrest, Except.map] at h
              | ok others =>
                  simp only [hrest, Except.map, Except.ok.injEq] at h
                  subst h
                  obtain ⟨hwalk, hlength⟩ := ih (by omega) hrest
                  refine ⟨?_, by rw [List.length_cons]; omega⟩
                  intro step hstep
                  rcases List.mem_cons.mp hstep with rfl | hmem
                  · exact isTerminal_of_tokenOfSegment? htoken
                  · exact hwalk step hmem

/-- **The shape of a path.**  A path is closed by its only stop token and is not too long. -/
theorem Obtainable.exists_steps {path : BusPath} (h : path.Obtainable) :
    ∃ steps, path.tokens = steps ++ [.stop] ∧ .stop ∉ steps ∧ steps.length < maxTokens := by
  rcases h with ⟨text, hparse⟩ | ⟨tokens, htokens⟩
  · unfold parse parseChars at hparse
    split at hparse
    · cases hparse
    · cases hsteps : tokensOfSegments 0 (Text.pieces ':' text.toList) with
      | error reason => simp [hsteps, Except.map, Except.mapError] at hparse
      | ok steps =>
          simp only [hsteps, Except.map, Except.mapError, Except.ok.injEq] at hparse
          subst hparse
          obtain ⟨hwalk, hlength⟩ := walkable_of_tokensOfSegments (by decide) hsteps
          refine ⟨steps, rfl, ?_, by omega⟩
          intro hstop
          cases hwalk _ hstop
  · simp only [ofTokens?, Option.ite_none_right_eq_some, Option.some.injEq] at htokens
    obtain ⟨hlength, rfl⟩ := htokens
    refine ⟨_, rfl, ?_, hlength⟩
    intro hstop
    simpa using List.mem_takeWhile_imp hstop

theorem walk_append_stop (steps : List PathToken) :
    walk ⟨steps ++ [.stop]⟩ = steps.takeWhile fun token => !token.isTerminal := by
  induction steps with
  | nil => rfl
  | cons step rest ih =>
      unfold walk at ih ⊢
      cases hterminal : step.isTerminal <;> simp [hterminal, ih]

/-- Steps are collected as they are, up to the room for them. -/
theorem ofTokens?_of_walkable {steps : List PathToken} (hwalk : Walkable steps) :
    ofTokens? steps = if steps.length < maxTokens then some ⟨steps ++ [.stop]⟩ else none := by
  have hkept : steps.takeWhile (· ≠ .stop) = steps := by
    rw [List.takeWhile_eq_self_iff]
    intro step hstep
    have hopen := hwalk step hstep
    cases step <;> simp_all [PathToken.isTerminal]
  simp only [ofTokens?, hkept]

theorem render_append_stop {steps : List PathToken} (hwalk : Walkable steps) :
    render ⟨steps ++ [.stop]⟩ = written steps := by
  have hkept : steps.takeWhile (fun token => !token.isTerminal) = steps := by
    rw [List.takeWhile_eq_self_iff]
    simpa [Walkable] using hwalk
  rw [render_eq_written, walk_append_stop, hkept]

theorem walkable_walk (path : BusPath) : Walkable path.walk := by
  intro token hmem
  simpa using List.mem_takeWhile_imp hmem

theorem walk_ne_nil {path : BusPath} (h : path.first.isTerminal = false) : path.walk ≠ [] := by
  obtain ⟨tokens⟩ := path
  cases tokens with
  | nil => cases h
  | cons token rest =>
      have hopens : token.isTerminal = false := h
      simp [walk, hopens]

theorem Obtainable.length_walk_lt {path : BusPath} (h : path.Obtainable) :
    path.walk.length < maxTokens := by
  obtain ⟨steps, htokens, -, hlength⟩ := h.exists_steps
  have hwalk : path.walk = steps.takeWhile fun token => !token.isTerminal := by
    rw [← walk_append_stop, ← htokens]
  have hshorter := (steps.takeWhile_sublist fun token => !token.isTerminal).length_le
  rw [hwalk]
  omega

end BusPath

/-! ## Where a path leads -/

/-- Tokens after the first one that ends a walk do not matter to it. -/
theorem Forest.follow?_takeWhile (forest : Forest) (id : AdapterId) (tokens : List PathToken) :
    forest.follow? id ((tokens.takeWhile fun token => !token.isTerminal) ++ [.stop]) =
      forest.follow? id tokens := by
  induction tokens generalizing id with
  | nil => rfl
  | cons token rest ih =>
      cases hterminal : token.isTerminal with
      | true =>
          have hstop : PathToken.stop.isTerminal = true := rfl
          simp [Forest.follow?, hterminal, hstop]
      | false => simp [Forest.follow?, hterminal, ih]

theorem Forest.resolveTokens?_walk (forest : Forest) (path : BusPath) :
    forest.resolveTokens? ⟨path.walk ++ [.stop]⟩ = forest.resolveTokens? path := by
  obtain ⟨tokens⟩ := path
  cases tokens with
  | nil => rfl
  | cons token rest =>
      cases hterminal : token.isTerminal with
      | true =>
          cases token <;> simp_all [BusPath.walk, PathToken.isTerminal, resolveTokens?, startNr?]
      | false =>
          have hwalk : BusPath.walk ⟨token :: rest⟩ =
              token :: rest.takeWhile fun token => !token.isTerminal := by
            simp [BusPath.walk, hterminal]
          simp only [hwalk, List.cons_append, resolveTokens?, Forest.follow?_takeWhile]

namespace BusPath

/-- **Paths and texts.**  Steps in decimal are read as these steps, and collected as these steps, if
there are at most nineteen; otherwise the text is too deep, and there is no such path.  What is written
of a path that opens with a step is read as the steps before the first token that ends a walk, and leads
where the path leads.  Every path is closed by its only stop token and has at most twenty tokens. -/
theorem codec_consistent :
    (∀ steps, steps ≠ [] → (∀ step ∈ steps, step.isTerminal = false) →
      (steps.length ≤ 19 →
        parse (written steps) = .ok ⟨steps ++ [.stop]⟩ ∧
          ofTokens? steps = some ⟨steps ++ [.stop]⟩ ∧
          render ⟨steps ++ [.stop]⟩ = written steps) ∧
      (19 < steps.length →
        parse (written steps) = .error ⟨written steps, .tooDeep⟩ ∧ ofTokens? steps = none)) ∧
    (∀ path, Obtainable path → path.first.isTerminal = false →
      parse path.render =
        .ok ⟨(path.tokens.takeWhile fun token => !token.isTerminal) ++ [.stop]⟩ ∧
      ∀ forest : Forest, forest.resolve path.render = .ok (forest.resolveTokens? path)) ∧
    (∀ path, Obtainable path →
      (∃ steps, path.tokens = steps ++ [.stop] ∧ .stop ∉ steps) ∧
        path.tokens.length ≤ 20 ∧ path.depth + 1 = path.tokens.length) := by
  have hmax : maxTokens = 20 := rfl
  refine ⟨?_, ?_, ?_⟩
  · intro steps hne hwalk
    rw [parse_written hne hwalk, ofTokens?_of_walkable hwalk, render_append_stop hwalk]
    constructor
    · intro hshort
      have hroom : steps.length < maxTokens := by omega
      rw [if_pos hroom, if_pos hroom]
      exact ⟨rfl, rfl, rfl⟩
    · intro hlong
      have hfull : ¬ steps.length < maxTokens := by omega
      rw [if_neg hfull, if_neg hfull]
      exact ⟨rfl, rfl⟩
  · intro path hpath hfirst
    have hread : parse path.render = .ok ⟨path.walk ++ [.stop]⟩ := by
      rw [render_eq_written, parse_written (walk_ne_nil hfirst) (walkable_walk path),
        if_pos hpath.length_walk_lt]
    refine ⟨hread, ?_⟩
    intro forest
    rw [Forest.resolve, hread]
    exact congrArg Except.ok (forest.resolveTokens?_walk path)
  · intro path hpath
    obtain ⟨steps, htokens, hstop, hlength⟩ := hpath.exists_steps
    refine ⟨⟨steps, htokens, hstop⟩, ?_, ?_⟩
    · rw [htokens, List.length_append, List.length_singleton]
      omega
    · simp [depth, htokens]

/-- A path whose chip address stops the walk is written without it. -/
theorem codec_consistent_address :
    parse (written [.bus 0, .mux 1 3]) = .ok ⟨[.bus 0, .mux 1 3, .stop]⟩ ∧
      parse (render ⟨[.bus 8, .address 80, .bus 2, .stop]⟩) = .ok ⟨[.bus 8, .stop]⟩ := by
  obtain ⟨hsteps, hpaths, -⟩ := codec_consistent
  constructor
  · exact ((hsteps [.bus 0, .mux 1 3] (by simp) (by decide)).1 (by decide)).1
  · have hpath : Obtainable ⟨[.bus 8, .address 80, .bus 2, .stop]⟩ :=
      Or.inr ⟨[.bus 8, .address 80, .bus 2], by decide⟩
    exact (hpaths _ hpath rfl).1

end BusPath
end I2cTopology
