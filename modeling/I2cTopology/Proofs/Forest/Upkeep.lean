import I2cTopology.Forest.Matching
import I2cTopology.Proofs.Forest.Trails

/-!
# The upkeep of a forest

Chips, identities of device files and open handles are put into a forest once it stands.  None of that
moves an adapter: places, paths and what a path leads to depend on the plain forest only, in which all of
it is left out.  The chips of a forest that was surveyed carry the places of their adapters, so an entry
that names the bus of such a chip points at the chip's adapter.

* `resolve_eq_of_plain_eq`: forests that are plainly the same resolve paths alike.
* `Surveyed.modify`: the upkeep of a surveyed forest.
* `Surveyed.entryAdapter?_eq_some`: the adapter of a chip is the one that its entry points at.
-/

namespace I2cTopology

/-- Letter case makes no difference to a character that is no letter. -/
theorem Text.eq_of_toLower_eq {c d : Char} (hletter : d.isAlpha = false)
    (h : c.toLower = d.toLower) : c = d := by
  obtain ⟨hcapital, hsmall⟩ := (Text.isAlpha_eq_false_iff d).mp hletter
  have hsame : d.toLower = d := by rw [Char.toLower, dif_neg hcapital]
  rw [hsame, Char.toLower] at h
  split at h
  next hc =>
    -- A capital letter becomes a small one.
    subst h
    refine absurd ?_ hsmall
    simp only [Char.reduceVal, UInt32.reduceSub, ge_iff_le, UInt32.le_iff_toNat_le,
      UInt32.toNat_add, UInt32.reduceToNat] at hc ⊢
    omega
  next => exact h

/-- Letter case makes no difference to a text without letters. -/
theorem Text.eq_of_eqIgnoringCase {a b : String} (hletters : ∀ c ∈ b.toList, c.isAlpha = false)
    (h : eqIgnoringCase a b = true) : a = b := by
  have hlower : a.toList.map Char.toLower = b.toList.map Char.toLower := eq_of_beq h
  apply String.toList_inj.mp
  generalize a.toList = as at hlower
  generalize b.toList = bs at hletters hlower
  induction bs generalizing as with
  | nil => exact List.map_eq_nil_iff.mp hlower
  | cons d rest ih =>
    obtain ⟨c, others, rfl, hfirst, hothers⟩ := List.map_eq_cons_iff.mp hlower
    have hletter := hletters d List.mem_cons_self
    have hrest := ih others (fun c hc => hletters c (List.mem_cons_of_mem d hc)) hothers
    rw [Text.eq_of_toLower_eq hletter hfirst, hrest]

/-- The bus is named by a path that can be read, or not at all. -/
def BusSelector.Readable (selector : BusSelector) : Prop :=
  match selector.path with
  | some text => ∃ path, BusPath.parse text = .ok path
  | none => selector.nr = none

/-- The adapter without what is learned about it after it was given its place. -/
def Adapter.plain (adapter : Adapter) : Adapter :=
  { adapter with identity := none, chips := [], handle := none }

namespace Forest

/-! ## Changes to one adapter -/

theorem adapter_modify (forest : Forest) (id other : AdapterId) (change : Adapter → Adapter) :
    (forest.modify id change).adapter other =
      if other = id ∧ id < forest.adapters.size then change (forest.adapter other)
      else forest.adapter other := by
  simp only [adapter, modify, Array.getElem?_modify]
  by_cases hid : id = other
  · subst hid
    by_cases hlt : id < forest.adapters.size
    · simp [hlt]
    · simp [hlt]
  · simp [hid, Ne.symm hid]

/-- What all changes and the adapter before them have, the adapter has after them. -/
theorem adapter_modify_cases (forest : Forest) (id other : AdapterId) (change : Adapter → Adapter) :
    (forest.modify id change).adapter other = forest.adapter other ∨
      other = id ∧ (forest.modify id change).adapter other = change (forest.adapter id) := by
  rw [adapter_modify]
  split
  next h => exact .inr ⟨h.1, by rw [h.1]⟩
  next => exact .inl rfl

@[simp] theorem size_adapters_modify (forest : Forest) (id : AdapterId)
    (change : Adapter → Adapter) :
    (forest.modify id change).adapters.size = forest.adapters.size :=
  Array.size_modify

/-- A change that changes nothing. -/
theorem modify_eq_self {forest : Forest} {id : AdapterId} {change : Adapter → Adapter}
    (h : id < forest.adapters.size → change (forest.adapter id) = forest.adapter id) :
    forest.modify id change = forest := by
  have hadapters : forest.adapters.modify id change = forest.adapters := by
    apply Array.ext_getElem?
    intro position
    rw [Array.getElem?_modify]
    split
    next heq =>
      subst heq
      by_cases hlt : id < forest.adapters.size
      · have hget : forest.adapters[id]? = some (forest.adapter id) := by
          rw [adapter, Array.getElem?_eq_getElem hlt, Option.getD_some]
        rw [hget, Option.map_some, h hlt]
      · rw [Array.getElem?_eq_none (Nat.le_of_not_lt hlt), Option.map_none]
    next => rfl
  rw [modify, hadapters]

theorem modify_modify (forest : Forest) (id : AdapterId) (first second : Adapter → Adapter) :
    (forest.modify id first).modify id second = forest.modify id (second ∘ first) := by
  have hadapters : (forest.adapters.modify id first).modify id second =
      forest.adapters.modify id (second ∘ first) := by
    apply Array.ext_getElem?
    intro position
    rw [Array.getElem?_modify, Array.getElem?_modify, Array.getElem?_modify]
    split
    · rw [Option.map_map]
    · rfl
  rw [modify, modify, hadapters, modify]

/-! ## Plain forests -/

/-- The forest without what is learned about its adapters after they were given their places. -/
def plain (forest : Forest) : Forest :=
  { forest with adapters := forest.adapters.map Adapter.plain }

theorem adapter_plain (forest : Forest) (id : AdapterId) :
    forest.plain.adapter id = (forest.adapter id).plain := by
  simp only [adapter, plain, Array.getElem?_map]
  cases forest.adapters[id]? <;> rfl

theorem plain_modify {change : Adapter → Adapter}
    (hchange : ∀ adapter, (change adapter).plain = adapter.plain) (forest : Forest)
    (id : AdapterId) : (forest.modify id change).plain = forest.plain := by
  have hadapters : (forest.adapters.modify id change).map Adapter.plain =
      forest.adapters.map Adapter.plain := by
    apply Array.ext_getElem?
    intro position
    rw [Array.getElem?_map, Array.getElem?_modify, Array.getElem?_map]
    split
    · rw [Option.map_map]
      exact congrFun (congrArg Option.map (funext hchange)) _
    · rfl
  simp only [plain, modify, hadapters]

theorem selects_plain (forest : Forest) : forest.plain.selects = forest.selects := by
  funext token id
  cases token <;> simp only [selects, adapter_plain] <;> rfl

theorem follow?_plain (forest : Forest) (id : AdapterId) (tokens : List PathToken) :
    forest.plain.follow? id tokens = forest.follow? id tokens := by
  induction tokens generalizing id with
  | nil => rfl
  | cons token rest ih =>
    rw [follow?, follow?, selects_plain]
    split
    · rfl
    · exact congrArg _ (funext ih)

theorem resolve_plain (forest : Forest) (text : String) :
    forest.plain.resolve text = forest.resolve text := by
  have htokens : forest.plain.resolveTokens? = forest.resolveTokens? := by
    funext path
    unfold resolveTokens?
    simp only [follow?_plain]
    rfl
  rw [resolve, resolve, htokens]

theorem resolve_eq_of_plain_eq {forest other : Forest} (h : forest.plain = other.plain)
    (text : String) : forest.resolve text = other.resolve text := by
  rw [← resolve_plain, h, resolve_plain]

theorem seats_eq_of_plain_eq {forest other : Forest} (h : forest.plain = other.plain) :
    forest.seats = other.seats := by
  have hseats : forest.plain.seats = other.plain.seats := congrArg Forest.seats h
  exact hseats

theorem path_eq_of_plain_eq {forest other : Forest} (h : forest.plain = other.plain)
    (id : AdapterId) : forest.path id = other.path id := by
  rw [path, path, seat?, seat?, seats_eq_of_plain_eq h]

theorem entryAdapter?_eq_of_plain_eq {forest other : Forest} (h : forest.plain = other.plain)
    (entry : ExpectedChip) : forest.entryAdapter? entry = other.entryAdapter? entry := by
  have hindex : forest.plain.index = other.plain.index := congrArg Forest.index h
  have hlookup : forest.lookup? = other.lookup? := congrArg KernelIndex.lookup? hindex
  unfold entryAdapter?
  simp only [resolve_eq_of_plain_eq h, hlookup]

/-! ## Surveyed forests -/

/-- The adapter as its chips know it. -/
def descriptor (forest : Forest) (id : AdapterId) : BusDescriptor :=
  ⟨(forest.adapter id).kind, (forest.adapter id).nr, forest.path id⟩

theorem descriptor_plain (forest : Forest) (id : AdapterId) :
    forest.plain.descriptor id = forest.descriptor id := by
  rw [descriptor, descriptor, adapter_plain]
  rfl

/-- The chip knows the placed adapter that it sits on. -/
structure SitsOn (forest : Forest) (id : AdapterId) (chip : Chip) : Prop where
  placed : forest.Placed id
  adapter : chip.adapter = id
  bus : chip.bus = forest.descriptor id

/-- The forest was built, and the chips on it know where they sit. -/
structure Surveyed (forest : Forest) : Prop where
  built : ∃ found origin, BuiltFrom found origin ∧ origin.plain = forest.plain
  chips : ∀ id, ∀ chip ∈ (forest.adapter id).chips, forest.SitsOn id chip

theorem placed_of_plain_eq {forest other : Forest} (h : forest.plain = other.plain) {id : AdapterId}
    (hplaced : forest.Placed id) : other.Placed id := by
  rw [Placed, preorder, seats_eq_of_plain_eq h] at hplaced
  exact hplaced

theorem sitsOn_of_plain_eq {forest other : Forest} (h : forest.plain = other.plain) {id : AdapterId}
    {chip : Chip} (hsits : forest.SitsOn id chip) : other.SitsOn id chip := by
  refine ⟨placed_of_plain_eq h hsits.placed, hsits.adapter, ?_⟩
  rw [hsits.bus, ← descriptor_plain, h, descriptor_plain]

/-- A change keeps a forest surveyed if it brings no chips but such as sit on the adapter. -/
theorem Surveyed.modify {forest : Forest} (h : Surveyed forest) {change : Adapter → Adapter}
    {id : AdapterId} (hplain : ∀ adapter, (change adapter).plain = adapter.plain)
    (hchips : ∀ chip ∈ (change (forest.adapter id)).chips, forest.SitsOn id chip) :
    Surveyed (forest.modify id change) := by
  have hsame : forest.plain = (forest.modify id change).plain := (plain_modify hplain forest id).symm
  obtain ⟨found, origin, hbuilt, horigin⟩ := h.built
  refine ⟨⟨found, origin, hbuilt, horigin.trans hsame⟩, fun other chip hchip => ?_⟩
  obtain hold | ⟨rfl, hnew⟩ := forest.adapter_modify_cases id other change
  · rw [hold] at hchip
    exact sitsOn_of_plain_eq hsame (h.chips other chip hchip)
  · rw [hnew] at hchip
    exact sitsOn_of_plain_eq hsame (hchips chip hchip)

/-- A built forest has no chips yet. -/
theorem surveyed_of_builtFrom {found : List Adapter} {forest : Forest} (h : BuiltFrom found forest)
    (hbare : ∀ adapter ∈ found, adapter.chips = []) : Surveyed forest := by
  refine ⟨⟨found, forest, h, rfl⟩, fun id chip hchip => ?_⟩
  rw [h.adapter_eq, List.getElem?_toArray] at hchip
  cases hget : found[id]? with
  | none =>
    rw [hget] at hchip
    exact absurd hchip List.not_mem_nil
  | some adapter =>
    rw [hget, Option.getD_some, hbare adapter (List.mem_of_getElem? hget)] at hchip
    exact absurd hchip List.not_mem_nil

theorem surveyed_empty : Surveyed .empty := by
  have hbuild : build [] .warn = .ok .empty := by cbv
  exact surveyed_of_builtFrom ⟨_, hbuild⟩ fun _ hmem => absurd hmem List.not_mem_nil

/-- Paths lead to placed adapters. -/
theorem Surveyed.placed_of_resolve {forest : Forest} (h : Surveyed forest) {text : String}
    {id : AdapterId} (hresolve : forest.resolve text = .ok (some id)) : forest.Placed id := by
  obtain ⟨found, origin, hbuilt, horigin⟩ := h.built
  rw [← resolve_eq_of_plain_eq horigin, resolve] at hresolve
  cases hparse : BusPath.parse text with
  | error refusal =>
    rw [hparse] at hresolve
    cases hresolve
  | ok path =>
    rw [hparse] at hresolve
    have hid : origin.resolveTokens? path = some id := Except.ok.inj hresolve
    exact placed_of_plain_eq horigin (hbuilt.placed_of_resolveTokens? hid)

/-- Placed adapters are there. -/
theorem Surveyed.lt_size_of_placed {forest : Forest} (h : Surveyed forest) {id : AdapterId}
    (hplaced : forest.Placed id) : id < forest.adapters.size := by
  obtain ⟨found, origin, hbuilt, horigin⟩ := h.built
  have hsize : origin.adapters.size = forest.adapters.size := by
    have hsame := congrArg (fun other : Forest => other.adapters.size) horigin
    simpa [plain] using hsame
  -- A placed adapter has a lineage.
  obtain ⟨above, habove, -⟩ := (hbuilt.placed_iff id).mp (placed_of_plain_eq horigin.symm hplaced)
  rw [← hsize, hbuilt.adapters_eq]
  exact habove.lt_size

theorem Surveyed.lt_size_of_resolve {forest : Forest} (h : Surveyed forest) {text : String}
    {id : AdapterId} (hresolve : forest.resolve text = .ok (some id)) : id < forest.adapters.size :=
  h.lt_size_of_placed (h.placed_of_resolve hresolve)

/-- Entries point at placed adapters. -/
theorem Surveyed.placed_of_entryAdapter? {forest : Forest} (h : Surveyed forest)
    {entry : ExpectedChip} (hreadable : entry.bus.Readable) {id : AdapterId}
    (hid : forest.entryAdapter? entry = some id) : forest.Placed id := by
  cases hpath : entry.bus.path with
  | none =>
    rw [BusSelector.Readable, hpath] at hreadable
    rw [entryAdapter?, hpath, hreadable] at hid
    cases hid
  | some text =>
    simp only [entryAdapter?, hpath] at hid
    split at hid
    next found hresolve =>
      rw [hid] at hresolve
      exact h.placed_of_resolve hresolve
    next => cases hid

/-! ## Forests that are alike -/

/-- The forests have the same places and the same chips. -/
structure Alike (forest other : Forest) : Prop where
  plain : forest.plain = other.plain
  chips : ∀ id, (forest.adapter id).chips = (other.adapter id).chips

theorem Alike.refl (forest : Forest) : forest.Alike forest :=
  ⟨rfl, fun _ => rfl⟩

theorem Alike.trans {forest other last : Forest} (first : forest.Alike other)
    (second : other.Alike last) : forest.Alike last :=
  ⟨first.plain.trans second.plain, fun id => (first.chips id).trans (second.chips id)⟩

theorem alike_modify {change : Adapter → Adapter}
    (hplain : ∀ adapter, (change adapter).plain = adapter.plain)
    (hchips : ∀ adapter, (change adapter).chips = adapter.chips) (forest : Forest)
    (id : AdapterId) : forest.Alike (forest.modify id change) := by
  refine ⟨(plain_modify hplain forest id).symm, fun other => ?_⟩
  rw [adapter_modify]
  split
  · exact (hchips _).symm
  · rfl

theorem Alike.surveyed {forest other : Forest} (alike : forest.Alike other)
    (h : Surveyed forest) : Surveyed other := by
  obtain ⟨found, origin, hbuilt, horigin⟩ := h.built
  refine ⟨⟨found, origin, hbuilt, horigin.trans alike.plain⟩, fun id chip hchip => ?_⟩
  rw [← alike.chips id] at hchip
  exact sitsOn_of_plain_eq alike.plain (h.chips id chip hchip)

/-- The chips of every adapter stand in the order of their addresses. -/
def Ordered (forest : Forest) : Prop :=
  ∀ id, (forest.adapter id).chips.Pairwise fun a b => a.address ≤ b.address

theorem Alike.ordered {forest other : Forest} (alike : forest.Alike other) (h : forest.Ordered) :
    other.Ordered :=
  fun id => alike.chips id ▸ h id

/-- The flags of an entry depend on nothing but the places and the chips. -/
theorem Alike.reconcileEntry_eq {forest other : Forest} (alike : forest.Alike other) :
    forest.reconcileEntry = other.reconcileEntry := by
  funext entry
  simp only [reconcileEntry, entryAdapter?_eq_of_plain_eq alike.plain, alike.chips]

/-! ## The adapter of an entry -/

/-- The flags in closed form. -/
theorem reconcileEntry_eq (forest : Forest) (entry : ExpectedChip) :
    forest.reconcileEntry entry =
      { entry with
        available := (forest.entryAdapter? entry).isSome
        matched := (forest.entryAdapter? entry).any fun id =>
          (forest.adapter id).chips.any (·.satisfies entry) } := by
  unfold reconcileEntry
  cases forest.entryAdapter? entry <;> rfl

/-- The path of a placed adapter has no letters. -/
theorem BuiltFrom.isAlpha_path {found : List Adapter} {forest : Forest} (h : BuiltFrom found forest)
    {id : AdapterId} (hid : forest.Placed id) {c : Char} (hc : c ∈ (forest.path id).toList) :
    c.isAlpha = false := by
  obtain ⟨above, habove, hfits⟩ := (h.placed_iff id).mp hid
  rw [h.path_eq habove hfits, toList_lineagePath h.distinctNrs] at hc
  exact BusPath.isAlpha_of_mem_joined hc

/-- If the path of a placed adapter can be read, it leads to the adapter. -/
theorem BuiltFrom.resolve_path_of_parse {found : List Adapter} {forest : Forest}
    (h : BuiltFrom found forest) {id : AdapterId} (hid : forest.Placed id) {path : BusPath}
    (hparse : BusPath.parse (forest.path id) = .ok path) :
    forest.resolve (forest.path id) = .ok (some id) := by
  obtain ⟨above, habove, hfits⟩ := (h.placed_iff id).mp hid
  have hread : BusPath.parse (forest.path id) =
      .ok ⟨lineageSteps found.toArray (id :: above) ++ [.stop]⟩ := by
    have hne : lineageSteps found.toArray (id :: above) ≠ [] := lineageSteps_ne_nil id above
    have hchars := BusPath.parseChars_joined hne (walkable_lineageSteps _)
    rw [← toList_lineagePath h.distinctNrs, ← h.path_eq habove hfits] at hchars
    -- What was read at all was not too deep.
    split at hchars
    · rw [BusPath.parse, hchars]
      rfl
    · rw [BusPath.parse, hchars] at hparse
      cases hparse
  rw [resolve, hread]
  exact congrArg Except.ok (h.resolveTokens?_lineageSteps habove hfits)

/-- A chip that satisfies an entry with a path sits on the adapter that has this path. -/
theorem Surveyed.path_eq_of_satisfies {forest : Forest} (h : Surveyed forest) {entry : ExpectedChip}
    {id : AdapterId} {chip : Chip} (hchip : chip ∈ (forest.adapter id).chips)
    (hsatisfies : chip.satisfies entry = true) {text : String} (htext : entry.bus.path = some text) :
    text = forest.path id := by
  obtain ⟨hplaced, -, hbus⟩ := h.chips id chip hchip
  obtain ⟨found, origin, hbuilt, horigin⟩ := h.built
  simp only [Chip.satisfies, htext, Bool.and_eq_true] at hsatisfies
  have hagrees := hsatisfies.2
  rw [hbus, descriptor, ← path_eq_of_plain_eq horigin] at hagrees
  rw [← path_eq_of_plain_eq horigin]
  -- The path of the adapter has no letters, so it is the text of the entry.
  exact Text.eq_of_eqIgnoringCase
    (fun _ => hbuilt.isAlpha_path (placed_of_plain_eq horigin.symm hplaced)) hagrees

/-- An entry that names a bus points at the adapter of every chip that satisfies it. -/
theorem Surveyed.entryAdapter?_eq_some {forest : Forest} (h : Surveyed forest) {entry : ExpectedChip}
    (hreadable : entry.bus.Readable) (hany : entry.bus.isAny = false) {id : AdapterId} {chip : Chip}
    (hchip : chip ∈ (forest.adapter id).chips) (hsatisfies : chip.satisfies entry = true) :
    forest.entryAdapter? entry = some id := by
  have hplaced := (h.chips id chip hchip).placed
  cases hpath : entry.bus.path with
  | none =>
    rw [BusSelector.Readable, hpath] at hreadable
    simp [BusSelector.isAny, hpath, hreadable] at hany
  | some text =>
    rw [BusSelector.Readable, hpath] at hreadable
    obtain ⟨path, hparse⟩ := hreadable
    obtain rfl := h.path_eq_of_satisfies hchip hsatisfies hpath
    obtain ⟨found, origin, hbuilt, horigin⟩ := h.built
    rw [← path_eq_of_plain_eq horigin] at hparse
    have hresolve := hbuilt.resolve_path_of_parse (placed_of_plain_eq horigin.symm hplaced) hparse
    rw [resolve_eq_of_plain_eq horigin, path_eq_of_plain_eq horigin] at hresolve
    simp only [entryAdapter?, hpath, hresolve]

end Forest
end I2cTopology
