import I2cTopology.Proofs.Forest.Resolution

/-!
# Trails

What it means that a path leads to an adapter, said without a walk: there is a trail, one adapter for
each token up to the first one that ends a walk.  The trail starts at the placed adapter whose kernel id
the first token holds, goes on from parent to child, and each further adapter is the one that its token
names.

* `BuiltFrom.follow?_eq_some_iff`: following tokens from an adapter is descending along a trail.
* `resolves_iff_trail`: a path leads to the end of its trail, if it has one; it has one at most.
-/

namespace I2cTopology
namespace Forest

/-- The adapters that the tokens of a walk lead along. -/
structure Trail (forest : Forest) (walk : List PathToken) (trail : List AdapterId) : Prop where
  /-- The walk starts at a placed adapter, whose kernel id is the number of the first token. -/
  start : ∃ token id, walk.head? = some token ∧ trail.head? = some id ∧ forest.Placed id ∧
    (token = .bus (forest.adapter id).nr ∨ ∃ output, token = .mux (forest.adapter id).nr output)
  descends : trail.IsChain fun parent child => child ∈ forest.children parent
  /-- There are as many further adapters as further tokens, and each is named by its token. -/
  named : List.Forall₂ forest.Names walk.tail trail.tail

theorem startNr?_eq_some_iff (token : PathToken) (nr : UInt32) :
    startNr? token = some nr ↔ token = .bus nr ∨ ∃ output, token = .mux nr output := by
  cases token <;> simp [startNr?]

theorem startNr?_eq_none_iff (token : PathToken) :
    startNr? token = none ↔ token.isTerminal = true := by
  cases token <;> simp [startNr?, PathToken.isTerminal]

namespace BuiltFrom

variable {found : List Adapter} {forest : Forest}

/-- **Descending.**  The tokens lead from an adapter down along children that they name. -/
theorem follow?_eq_some_iff (h : BuiltFrom found forest) (tokens : List PathToken)
    (id last : AdapterId) :
    forest.follow? id tokens = some last ↔
      ∃ below, (id :: below).IsChain (fun parent child => child ∈ forest.children parent) ∧
        List.Forall₂ forest.Names (tokens.takeWhile fun token => !token.isTerminal) below ∧
        (id :: below).getLast? = some last := by
  induction tokens generalizing id with
  | nil => simp [follow?]
  | cons token rest ih =>
      rw [follow?]
      cases hterminal : token.isTerminal with
      | true => simp [hterminal]
      | false =>
          rw [if_neg Bool.false_ne_true, List.takeWhile_cons_of_pos (by simp [hterminal]),
            Option.bind_eq_some_iff]
          constructor
          · rintro ⟨child, hfind, hfollow⟩
            obtain ⟨hchild, hnames⟩ := (h.find?_selects_eq_some_iff token id child).mp hfind
            obtain ⟨below, hchain, hnamed, hlast⟩ := (ih child).mp hfollow
            refine ⟨child :: below, List.isChain_cons_cons.mpr ⟨hchild, hchain⟩,
              List.Forall₂.cons hnames hnamed, ?_⟩
            rw [List.getLast?_cons_cons, hlast]
          · rintro ⟨_, hchain, hnamed, hlast⟩
            cases hnamed with
            | @cons _ child _ below hnames hnamed =>
                obtain ⟨hchild, hchain⟩ := List.isChain_cons_cons.mp hchain
                rw [List.getLast?_cons_cons] at hlast
                exact ⟨child, (h.find?_selects_eq_some_iff token id child).mpr ⟨hchild, hnames⟩,
                  (ih child).mpr ⟨below, hchain, hnamed, hlast⟩⟩

/-- Tokens lead down along one way at most. -/
theorem below_unique (h : BuiltFrom found forest) {tokens : List PathToken} {id : AdapterId}
    {below below' : List AdapterId}
    (hchain : (id :: below).IsChain fun parent child => child ∈ forest.children parent)
    (hchain' : (id :: below').IsChain fun parent child => child ∈ forest.children parent)
    (hnamed : List.Forall₂ forest.Names tokens below)
    (hnamed' : List.Forall₂ forest.Names tokens below') : below = below' := by
  induction hnamed generalizing id below' with
  | nil =>
      cases hnamed'
      rfl
  | cons hnames _ ih =>
      cases hnamed' with
      | cons hnames' hrest' =>
          obtain ⟨hchild, hchain⟩ := List.isChain_cons_cons.mp hchain
          obtain ⟨hchild', hchain'⟩ := List.isChain_cons_cons.mp hchain'
          obtain rfl := h.eq_of_names hchild hchild' hnames hnames'
          rw [ih hchain hchain' hrest']

/-- Whoever is reached from a placed adapter by going from parent to child has a place. -/
theorem placed_of_descends (h : BuiltFrom found forest) {id last : AdapterId}
    {below : List AdapterId} (hid : forest.Placed id)
    (hchain : (id :: below).IsChain fun parent child => child ∈ forest.children parent)
    (hlast : (id :: below).getLast? = some last) : forest.Placed last := by
  induction below generalizing id with
  | nil => exact Option.some.inj hlast ▸ hid
  | cons child rest ih =>
      obtain ⟨hchild, hchain⟩ := List.isChain_cons_cons.mp hchain
      rw [List.getLast?_cons_cons] at hlast
      exact ih ((h.mem_children_iff child id).mp hchild).1 hchain hlast

/-- A trail, taken apart. -/
theorem trail_iff (h : BuiltFrom found forest) (token : PathToken) (rest : List PathToken)
    (trail : List AdapterId) :
    forest.Trail (token :: rest) trail ↔ ∃ id below, trail = id :: below ∧
      (startNr? token).bind forest.lookup? = some id ∧
      (id :: below).IsChain (fun parent child => child ∈ forest.children parent) ∧
      List.Forall₂ forest.Names rest below := by
  have hstart : ∀ id, (startNr? token).bind forest.lookup? = some id ↔ forest.Placed id ∧
      (token = .bus (forest.adapter id).nr ∨
        ∃ output, token = .mux (forest.adapter id).nr output) := by
    intro id
    simp only [Option.bind_eq_some_iff, startNr?_eq_some_iff, h.lookup?_eq_some_iff]
    rw [h.adapter_eq]
    constructor
    · rintro ⟨nr, htoken, hplaced, rfl⟩
      exact ⟨hplaced, htoken⟩
    · rintro ⟨hplaced, htoken⟩
      exact ⟨_, htoken, hplaced, rfl⟩
  constructor
  · rintro ⟨⟨_, id, htoken, hid, hplaced, hnumber⟩, hchain, hnamed⟩
    obtain rfl := Option.some.inj htoken
    obtain ⟨below, rfl⟩ := List.head?_eq_some_iff.mp hid
    exact ⟨id, below, rfl, (hstart id).mpr ⟨hplaced, hnumber⟩, hchain, hnamed⟩
  · rintro ⟨id, below, rfl, hlookup, hchain, hnamed⟩
    obtain ⟨hplaced, hnumber⟩ := (hstart id).mp hlookup
    exact ⟨⟨token, id, rfl, rfl, hplaced, hnumber⟩, hchain, hnamed⟩

/-- Paths lead to placed adapters only. -/
theorem placed_of_resolveTokens? (h : BuiltFrom found forest) {path : BusPath} {id : AdapterId}
    (hid : forest.resolveTokens? path = some id) : forest.Placed id := by
  unfold resolveTokens? at hid
  split at hid
  · cases hid
  · simp only [Option.bind_eq_bind, Option.bind_eq_some_iff] at hid
    obtain ⟨nr, -, start, hlookup, hfollow⟩ := hid
    obtain ⟨below, hchain, -, hlast⟩ := (h.follow?_eq_some_iff _ start id).mp hfollow
    exact h.placed_of_descends ((h.lookup?_eq_some_iff nr start).mp hlookup).1 hchain hlast

end BuiltFrom

theorem not_trail_nil (forest : Forest) (trail : List AdapterId) : ¬ forest.Trail [] trail := by
  rintro ⟨⟨_, _, hnone, -⟩, -, -⟩
  cases hnone

/-- **Where a path leads.**  A path leads to the end of the trail along the tokens before the first one
that ends a walk.  There is one trail at most, a path that opens with such a token leads nowhere, and
nobody who is left out of the forest is ever reached. -/
theorem resolves_iff_trail {found : List Adapter} {policy : OrphanPolicy} {forest : Forest}
    (h : build found policy = .ok forest) (path : BusPath) :
    (∀ id, forest.resolveTokens? path = some id ↔
      ∃ trail, forest.Trail path.walk trail ∧ trail.getLast? = some id) ∧
    (∀ trail trail', forest.Trail path.walk trail → forest.Trail path.walk trail' →
      trail = trail') ∧
    (path.first.isTerminal = true → forest.resolveTokens? path = none) ∧
    (∀ id ∈ forest.unplaced, forest.resolveTokens? path ≠ some id) := by
  have hbuilt : BuiltFrom found forest := ⟨policy, h⟩
  obtain ⟨tokens⟩ := path
  cases tokens with
  | nil => simp [BusPath.walk, resolveTokens?, not_trail_nil]
  | cons token rest =>
      have hresolve : ∀ id, forest.resolveTokens? ⟨token :: rest⟩ = some id ↔
          ∃ start, (startNr? token).bind forest.lookup? = some start ∧
            forest.follow? start rest = some id := by
        intro id
        rw [resolveTokens?]
        simp only [Option.bind_eq_bind, ← Option.bind_assoc, Option.bind_eq_some_iff]
      cases hterminal : token.isTerminal with
      | true =>
          have hnone := (startNr?_eq_none_iff token).mpr hterminal
          simp [BusPath.walk, hterminal, resolveTokens?, hnone, not_trail_nil]
      | false =>
          have hwalk : BusPath.walk ⟨token :: rest⟩ =
              token :: rest.takeWhile fun token => !token.isTerminal := by
            rw [BusPath.walk, List.takeWhile_cons_of_pos (by simp [hterminal])]
          rw [hwalk]
          refine ⟨?_, ?_, ?_, ?_⟩
          · intro id
            simp only [hresolve, hbuilt.trail_iff, hbuilt.follow?_eq_some_iff]
            constructor
            · rintro ⟨start, hlookup, below, hchain, hnamed, hlast⟩
              exact ⟨_, ⟨start, below, rfl, hlookup, hchain, hnamed⟩, hlast⟩
            · rintro ⟨_, ⟨start, below, rfl, hlookup, hchain, hnamed⟩, hlast⟩
              exact ⟨start, hlookup, below, hchain, hnamed, hlast⟩
          · intro trail trail' htrail htrail'
            obtain ⟨id, below, rfl, hlookup, hchain, hnamed⟩ := (hbuilt.trail_iff _ _ _).mp htrail
            obtain ⟨id', below', rfl, hlookup', hchain', hnamed'⟩ :=
              (hbuilt.trail_iff _ _ _).mp htrail'
            obtain rfl := Option.some.inj (hlookup.symm.trans hlookup')
            rw [hbuilt.below_unique hchain hchain' hnamed hnamed']
          · intro hfirst
            have hopens : token.isTerminal = true := hfirst
            rw [hterminal] at hopens
            contradiction
          · intro id hout hreached
            obtain ⟨start, hlookup, hfollow⟩ := (hresolve id).mp hreached
            obtain ⟨nr, -, hstart⟩ := Option.bind_eq_some_iff.mp hlookup
            have hplaced := ((hbuilt.lookup?_eq_some_iff nr start).mp hstart).1
            obtain ⟨below, hchain, -, hlast⟩ := (hbuilt.follow?_eq_some_iff _ _ _).mp hfollow
            exact hbuilt.not_placed_of_mem_unplaced hout
              (hbuilt.placed_of_descends hplaced hchain hlast)

/-- In the sample the path stops at the channel, whatever follows the chip's address. -/
theorem resolves_iff_trail_sample :
    build sample .warn = .ok sampleForest ∧
      sampleForest.resolveTokens? ⟨[.bus 3, .mux 1 1, .address 80, .bus 9, .stop]⟩ = some 0 := by
  refine ⟨build_sample, ?_⟩
  have htrail : sampleForest.Trail [.bus 3, .mux 1 1] [2, 0] := by
    refine ⟨⟨_, 2, rfl, rfl, by decide, Or.inl rfl⟩, ?_, ?_⟩
    · exact List.isChain_cons_cons.mpr ⟨by decide, List.IsChain.singleton 0⟩
    · exact List.Forall₂.cons (Or.inr ⟨1, 1, rfl, rfl, rfl⟩) List.Forall₂.nil
  exact ((resolves_iff_trail build_sample _).1 0).mpr ⟨[2, 0], htrail, rfl⟩

end Forest
end I2cTopology
