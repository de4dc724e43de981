import I2cTopology.Proofs.Context.Rounds
import I2cTopology.Proofs.Context.Worlds

/-!
# The removal of all configured chips of an adapter

However the machine behaves, the rounds of a removal do not go on for ever unless new chips keep appearing.
On a machine that removes what it is told to remove, one round is spent on every configured chip, and none
is left in the end.

* `Removes`: a machine that removes the chips of an adapter.
* `Rounds.of_removes`: the rounds on such a machine.
* `removeOn_rounds`: what holds of every removal, from any context in a history.
-/

namespace I2cTopology

namespace Forest

variable {forest other : Forest} {entries : List ExpectedChip} {id : AdapterId} {address : UInt16}

/-- The forest without the chips at an address of an adapter. -/
def without (forest : Forest) (id : AdapterId) (address : UInt16) : Forest :=
  forest.modify id fun adapter =>
    { adapter with chips := adapter.chips.filter fun chip => chip.address != address }

theorem plain_without (forest : Forest) (id : AdapterId) (address : UInt16) :
    (forest.without id address).plain = forest.plain := by
  apply plain_modify
  exact fun _ => rfl

theorem chips_without (forest : Forest) (id : AdapterId) (address : UInt16) :
    ((forest.without id address).adapter id).chips =
      (forest.adapter id).chips.filter fun chip => chip.address != address := by
  rw [without, adapter_modify]
  split
  · rfl
  next hout =>
    have hnone : (forest.adapter id).chips = [] := by
      rw [adapter, Array.getElem?_eq_none (Nat.le_of_not_lt fun hlt => hout ⟨rfl, hlt⟩)]
      rfl
    rw [hnone, List.filter_nil]

theorem Alike.configuredAddresses_eq (alike : forest.Alike other) (entries : List ExpectedChip)
    (id : AdapterId) : forest.configuredAddresses entries id = other.configuredAddresses entries id := by
  rw [configuredAddresses, configuredAddresses, alike.chips]

/-- If the addresses are distinct, the configured chips without the first are the others. -/
theorem configuredAddresses_without {others : List UInt16}
    (hdistinct : ((forest.adapter id).chips.map Chip.address).Nodup)
    (h : forest.configuredAddresses entries id = address :: others) :
    (forest.without id address).configuredAddresses entries id = others := by
  have hnodup : (forest.configuredAddresses entries id).Nodup :=
    hdistinct.sublist (List.filter_sublist.map _)
  rw [h, List.nodup_cons] at hnodup
  have hothers : others.filter (· != address) = others := by
    apply List.filter_eq_self.mpr
    intro other hother
    exact bne_iff_ne.mpr fun heq => hnodup.1 (heq ▸ hother)
  calc (forest.without id address).configuredAddresses entries id
      = (forest.configuredAddresses entries id).filter (· != address) := by
        rw [configuredAddresses, configuredAddresses, chips_without, List.filter_comm, List.filter_map]
        rfl
    _ = others := by simp [h, hothers]

end Forest

/-- A machine that removes the chips of an adapter: each has its place under the directory of the adapter, and
when its address is written to the attribute that removes chips, it is gone and all else is as before. -/
structure Act.Machine.Removes {μ : Type} (machine : Act.Machine μ) (shown : μ → Forest) (id : AdapterId) :
    Prop where
  present : ∀ world, ∀ chip ∈ ((shown world).adapter id).chips,
    (machine (.present ((shown world).chipPath id chip.address)) world).1 = true
  accepts : ∀ world, ∀ chip ∈ ((shown world).adapter id).chips,
    (machine ((shown world).removal id chip.address).query world).1 = (.ok () : Except FileFailure Unit)
  removes : ∀ world, ∀ chip ∈ ((shown world).adapter id).chips,
    ((shown world).without id chip.address).Alike
      (shown (machine ((shown world).removal id chip.address).query world).2)

namespace Context

variable {μ : Type} {machine : Act.Machine μ} {shown : μ → Forest} {world final : μ}
  {context before after : Context} {path : String} {id : AdapterId} {talk : List Exchange}
  {rounds removed : Nat} {last : Option UInt16} {result : Option (Except Failure (Option Nat))}

/-- The context is ready and shows the forest of the machine, the path leads to the adapter in it, and no two
chips on the adapter are at the same address. -/
structure InStep (context : Context) (forest : Forest) (path : String) (id : AdapterId) : Prop where
  ready : context.readiness = .ready
  alike : context.forest.Alike forest
  leads : context.forest.resolve path = .ok (some id)
  distinct : ((context.forest.adapter id).chips.map Chip.address).Nodup

/-- The forest that is left after the removal of a chip. -/
theorem InStep.without {forest other : Forest} {address : UInt16} (inStep : InStep before forest path id)
    (hready : after.readiness = .ready) (hother : (forest.without id address).Alike other)
    (hforest : after.forest = other) : InStep after other path id where
  ready := hready
  alike := hforest ▸ .refl _
  leads := by
    have hplain : before.forest.plain = after.forest.plain := by
      rw [inStep.alike.plain, hforest, ← hother.plain, Forest.plain_without]
    rw [← Forest.resolve_eq_of_plain_eq hplain]
    exact inStep.leads
  distinct := by
    rw [hforest, ← hother.chips, Forest.chips_without, ← inStep.alike.chips]
    exact inStep.distinct.sublist (List.filter_sublist.map _)

/-- A chip is removed. -/
theorem of_remove (shows : machine.ShowsForest context.settings shown) (removes : machine.Removes shown id)
    (alike : context.forest.Alike (shown world)) {chip : Chip}
    (hchip : chip ∈ (context.forest.adapter id).chips) {outcome : Option (Except Failure Bool)}
    (dialogue : (remove id chip.address).run.Dialogue context talk outcome after)
    (answers : machine.Answers world talk final) :
    outcome = some (.ok true) ∧ after = context ∧
      ((shown world).without id chip.address).Alike (shown final) := by
  obtain ⟨rfl, attempt⟩ := attempt_of_remove dialogue
  rw [alike.chips] at hchip
  rw [Forest.chipPath_eq_of_plain_eq alike.plain, Forest.removal_eq_of_plain_eq alike.plain] at attempt
  cases attempt.attempted shows.still answers with
  | spared hfound =>
    rw [removes.present world chip hchip] at hfound
    cases hfound
  | @refused between _ _ _ hbetween hanswer =>
    have haccepts := removes.accepts between chip (hbetween ▸ hchip)
    rw [hbetween, hanswer] at haccepts
    cases haccepts
  | @accepted between _ hbetween _ hfinal =>
    have hremoves := removes.removes between chip (hbetween ▸ hchip)
    rw [hbetween, ← hfinal] at hremoves
    exact ⟨rfl, rfl, hremoves⟩

/-- The configured addresses that are left after a round. -/
theorem Round.Tries.configuredAddresses_eq_cons {round : Round} {forest other : Forest}
    (tries : round.Tries path last) (inStep : InStep round.before forest path round.found.adapter)
    (hother : (forest.without round.found.adapter round.address).Alike other) :
    round.before.forest.configuredAddresses round.before.config round.found.adapter =
      round.address :: other.configuredAddresses
        (other.reconcile (Forest.markMatched round.before.config round.found.entry)) round.found.adapter := by
  obtain ⟨others, hothers⟩ := tries.configuredAddresses_eq
  have hdistinct := inStep.distinct
  rw [inStep.alike.chips] at hdistinct
  rw [hothers, Forest.configuredAddresses_reconcile, Forest.configuredAddresses_markMatched,
    ← hother.configuredAddresses_eq]
  rw [inStep.alike.configuredAddresses_eq] at hothers
  rw [Forest.configuredAddresses_without hdistinct hothers]

/-- A round removes the first of the configured chips. -/
theorem Round.Tries.of_removes {round : Round} (tries : round.Tries path last)
    (shows : machine.ShowsForest round.before.settings shown) (removes : machine.Removes shown id)
    (inStep : InStep round.before (shown world) path id)
    (answers : machine.Answers world round.talk final) :
    round.result = some (.ok true) ∧ InStep round.after (shown final) path id ∧
      round.after.settings = round.before.settings ∧
      round.after.rescans = round.before.rescans + 1 ∧
      round.before.forest.configuredAddresses round.before.config id =
        round.address :: round.after.forest.configuredAddresses round.after.config id := by
  have hid := located_of_resolve inStep.ready inStep.leads
  obtain rfl : round.found.adapter = id := Except.ok.inj (tries.located.symm.trans hid)
  have hchip : round.before.forest.chipAt round.found ∈
      ((round.before.marked round.found).forest.adapter round.found.adapter).chips :=
    List.mem_of_getElem? (Forest.configured_of_firstConfigured? tries.found).2.chip
  -- To mark an entry changes nothing that matters to the machine.
  have shows : machine.ShowsForest (round.before.marked round.found).settings shown := shows
  have alike : (round.before.marked round.found).forest.Alike (shown world) := inStep.alike
  obtain ⟨gone, context, first, rest, between, -, head, hfirst, tail, hrest⟩ :=
    Op.exists_of_bind tries.dialogue answers fun head answers =>
      ⟨true, (of_remove shows removes alike hchip head answers).1⟩
  obtain ⟨hgone, rfl, hwithout⟩ := of_remove shows removes alike hchip head hfirst
  obtain rfl := Except.ok.inj (Option.some.inj hgone)
  obtain ⟨_, after, second, closing, last, -, scanned, hsecond, closed, hclosing⟩ :=
    Op.exists_of_bind tail hrest fun scanned answers =>
      ⟨(), (rescan_of_showsForest shows inStep.ready scanned answers).1⟩
  obtain ⟨-, rfl, hlast⟩ := rescan_of_showsForest shows inStep.ready scanned hsecond
  obtain ⟨rfl, hresult, hafter⟩ := Act.dialogue_done_iff.mp closed
  cases hclosing
  rw [hafter, hlast]
  exact ⟨hresult, inStep.without inStep.ready hwithout rfl, rfl, rfl,
    tries.configuredAddresses_eq_cons inStep hwithout⟩

/-- The rounds remove one configured chip each until none is left. -/
theorem Rounds.of_removes {list : List Round}
    (h : Rounds path rounds last removed context list talk result after)
    (shows : machine.ShowsForest context.settings shown) (removes : machine.Removes shown id)
    (inStep : InStep context (shown world) path id) (answers : machine.Answers world talk final)
    (hlast : ∀ address ∈ last, address ∉ context.forest.configuredAddresses context.config id)
    (hrounds : (context.forest.configuredAddresses context.config id).length < rounds) :
    let number := (context.forest.configuredAddresses context.config id).length
    result = some (.ok (some (removed + number))) ∧ after.rescans = context.rescans + number ∧
      InStep after (shown final) path id ∧
      after.forest.configuredAddresses after.config id = [] := by
  induction h generalizing world with
  | exhausted => exact absurd hrounds (Nat.not_lt_zero _)
  | astray hid => cases (located_of_resolve inStep.ready inStep.leads).symm.trans hid
  | cleared hid hnone =>
    obtain rfl := Except.ok.inj ((located_of_resolve inStep.ready inStep.leads).symm.trans hid)
    have hnone := Forest.firstConfigured?_eq_none_iff.mp hnone
    cases answers
    rw [hnone]
    exact ⟨rfl, rfl, inStep, rfl⟩
  | survived hid hfound heq =>
    -- The chip of the round before is gone.
    obtain rfl := Except.ok.inj ((located_of_resolve inStep.ready inStep.leads).symm.trans hid)
    obtain ⟨others, hothers⟩ := Forest.configuredAddresses_of_firstConfigured? hfound
    exact absurd (hothers ▸ List.mem_cons_self) (hlast _ heq)
  | stopped tries hstopped =>
    exact absurd (tries.of_removes shows removes inStep answers).1 (hstopped true)
  | @next _ _ removed round gone _ _ _ _ tries hgone rest ih =>
    obtain ⟨between, hround, hrest⟩ := Act.Machine.answers_append_iff.mp answers
    obtain ⟨hresult, hinStep, hsettings, hrescans, hcons⟩ :=
      tries.of_removes shows removes inStep hround
    obtain rfl : gone = true := Except.ok.inj (Option.some.inj (hgone.symm.trans hresult))
    rw [hcons, List.length_cons] at hrounds ⊢
    have hgoneFor : round.address ∉
        round.after.forest.configuredAddresses round.after.config id := by
      have hnodup : (round.before.forest.configuredAddresses round.before.config id).Nodup :=
        inStep.distinct.sublist (List.filter_sublist.map _)
      rw [hcons] at hnodup
      exact (List.nodup_cons.mp hnodup).1
    obtain ⟨hresult, hcount, hlater⟩ := ih (hsettings ▸ shows) hinStep hrest
      (fun address haddress => Option.some.inj haddress ▸ hgoneFor) (Nat.lt_of_succ_lt_succ hrounds)
    refine ⟨hresult.trans ?_, by omega, hlater⟩
    rw [if_pos rfl, Nat.add_assoc, Nat.add_comm 1]

/-! ## A bench with two sensors -/

/-- A sensor at an address of the bench. -/
def sensorAt (address : UInt16) : Chip :=
  { Forest.sensor with
    address := address
    location := (benchForest none).chipPath 0 address }

/-- The addresses of the sensors that are left. -/
def addressesLeft (left : Bool × Bool) : List UInt16 :=
  (if left.1 then [0x48] else []) ++ if left.2 then [0x49] else []

/-- There is a sensor in the directory. -/
def sensorLeft (left : Bool × Bool) (path : FilePath) : Bool :=
  (addressesLeft left).any fun address => path == (benchForest none).chipPath 0 address

/-- The bench with two sensors, either of which can be removed. Its state tells which of them are left. -/
def pairMachine (query : Query) (left : Bool × Bool) : query.Answer × (Bool × Bool) :=
  match query with
  | .present path => (sensorLeft left path, left)
  | .entries dir =>
    if dir.text = "/sys/devices/i2c-0" then
      (.names ((addressesLeft left).map (Chip.directoryName 0)), left)
    else ((benchMachine (.entries dir) fun _ => none).1, left)
  | .canonical path =>
    if sensorLeft left path then (.ok path, left)
    else ((benchMachine (.canonical path) fun _ => none).1, left)
  | .writeAttribute dir name value =>
    if Write.mk dir name value = (benchForest none).removal 0 0x48 then (.ok (), (false, left.2))
    else if Write.mk dir name value = (benchForest none).removal 0 0x49 then (.ok (), (left.1, false))
    else (.error (.refused .noEntry), left)
  | .standardInput => (.ok "bench-i2c-0-0x48\n*-i2c-0-0x49", left)
  | other => ((benchMachine other fun _ => none).1, left)

/-- What a scan finds on that bench. -/
def pairForest (left : Bool × Bool) : Forest :=
  (benchForest none).setChips 0 ((addressesLeft left).map sensorAt)

theorem showsForest_pairMachine : Act.Machine.ShowsForest pairMachine {} pairForest where
  scan context left := by
    obtain ⟨_ | _, _ | _⟩ := left <;> with_unfolding_all rfl
  still query left h := by
    cases query with
    | writeAttribute => cases h
    | entries dir => simp only [pairMachine]; split <;> rfl
    | canonical path => simp only [pairMachine]; split <;> rfl
    | _ => rfl

theorem chips_pairForest (left : Bool × Bool) :
    ((pairForest left).adapter 0).chips = (addressesLeft left).map sensorAt := by
  have hsorted : ((addressesLeft left).map sensorAt).Pairwise fun a b => a.address ≤ b.address := by
    obtain ⟨_ | _, _ | _⟩ := left <;> decide
  have hmodified := Forest.adapter_modify (benchForest none) 0 0
  rw [pairForest, Forest.setChips, hmodified, if_pos ⟨rfl, by decide⟩]
  exact List.mergeSort_of_pairwise (hsorted.imp decide_eq_true)

theorem alike_pairForest {left after : Bool × Bool} {address : UInt16}
    (hleft : addressesLeft after = (addressesLeft left).filter (· != address)) :
    ((pairForest left).without 0 address).Alike (pairForest after) where
  plain := by
    rw [Forest.plain_without]
    exact (Forest.plain_setChips _ _ _).trans (Forest.plain_setChips _ _ _).symm
  chips id := by
    by_cases hid : id = 0
    · subst hid
      rw [Forest.chips_without, chips_pairForest, chips_pairForest, hleft, List.filter_map]
      rfl
    · have hother (forest : Forest) (change : Adapter → Adapter) :
          (forest.modify 0 change).adapter id = forest.adapter id := by
        rw [Forest.adapter_modify, if_neg fun h => hid h.1]
      rw [Forest.without, hother, pairForest, Forest.setChips, hother, pairForest, Forest.setChips, hother]

/-- Each sensor that is left can be seen, and can be removed without the other. -/
theorem removable_pairMachine {left : Bool × Bool} {chip : Chip}
    (hchip : chip ∈ ((pairForest left).adapter 0).chips) :
    (pairMachine (.present ((pairForest left).chipPath 0 chip.address)) left).1 = true ∧
      (pairMachine ((pairForest left).removal 0 chip.address).query left).1 =
        (.ok () : Except FileFailure Unit) ∧
      addressesLeft (pairMachine ((pairForest left).removal 0 chip.address).query left).2 =
        (addressesLeft left).filter (· != chip.address) := by
  rw [chips_pairForest] at hchip
  obtain ⟨address, haddress, rfl⟩ := List.mem_map.mp hchip
  have hcases : (left.1 = true ∧ address = 0x48) ∨ left.2 = true ∧ address = 0x49 := by
    obtain ⟨_ | _, _ | _⟩ := left
    · cases haddress
    · exact .inr ⟨rfl, List.mem_singleton.mp haddress⟩
    · exact .inl ⟨rfl, List.mem_singleton.mp haddress⟩
    · exact (List.mem_pair.mp haddress).imp (⟨rfl, ·⟩) (⟨rfl, ·⟩)
  obtain ⟨first, second⟩ := left
  obtain ⟨rfl, rfl⟩ | ⟨rfl, rfl⟩ := hcases
  · cases second <;> with_unfolding_all exact ⟨rfl, rfl, rfl⟩
  · cases first <;> with_unfolding_all exact ⟨rfl, rfl, rfl⟩

theorem removes_pairMachine : Act.Machine.Removes pairMachine pairForest 0 where
  present _ _ hchip := (removable_pairMachine hchip).1
  accepts _ _ hchip := (removable_pairMachine hchip).2.1
  removes _ _ hchip := alike_pairForest (removable_pairMachine hchip).2.2

/-- One of the sensors is expected by its name, the other by its address alone. -/
def pairEntries : List ExpectedChip :=
  [{ name := some "bench", bus := { nr := some 0, path := some "0" }, address := some 0x48,
      origin := ⟨"<stdin>", 1⟩ },
    { name := none, bus := { nr := some 0, path := some "0" }, address := some 0x49,
      origin := ⟨"<stdin>", 2⟩ }]

/-- The context that an initialization on that bench leaves. -/
def pairContext : Context where
  settings := {}
  readiness := .ready
  forest := pairForest (true, true)
  config := (pairForest (true, true)).reconcile pairEntries

theorem history_pairContext : ∃ ends, History {} [⟨.init .standardInput, ends⟩] pairContext := by
  have hrun : ((Call.init .standardInput).op.run.run pairMachine (.fresh {}) (true, true)).2.1 =
      pairContext := by
    with_unfolding_all rfl
  exact History.start.run pairMachine _ (.init .standardInput) hrun

/-! ## Every removal -/

/-- **Removals come to an end.**  Take any history of a ready context and the removal of all configured chips
from the adapter at a path.  Whatever is answered, the removal is made of rounds and a closing notice.

* In a round nothing is written, or the address of the first configured chip is written to the attribute of
  its adapter that removes chips.  No two rounds in a row are for the same address.
* If after every round that comes to its end the path leads to an adapter with some of the chips that the
  adapter of the round had, as it does if it leads to an adapter of the same kernel id and path on which
  nothing new appears, then there are no more rounds than distinct addresses at which chips of the adapter
  satisfied an entry, and the removal comes to its end after one look more.
* On a machine that removes what it is told to remove, in step with which the context is, the removal gives
  the number of chips of the adapter that satisfied an entry, after as many rescans, and no chip of the
  adapter satisfies an entry any more. -/
theorem removeOn_rounds {settings : Settings} {steps : List Step}
    (history : History settings steps context) (hready : context.readiness = .ready) (path : String)
    (moreRounds : Nat) :
    (∀ talk result after, (removeOn path moreRounds).run.Dialogue context talk result after →
      ∃ list closing, Rounds path moreRounds none 0 context list talk result after ∧
        talk = list.flatMap Round.talk ++ closing ∧ Unasked closing ∧
        (∀ round ∈ list, written round.talk = [] ∨ written round.talk = [round.removal]) ∧
        (list.map Round.address).IsChain (· ≠ ·) ∧
        ∀ id, context.forest.resolve path = .ok (some id) →
          (∀ round ∈ list, ∀ gone, round.result = some (.ok gone) → round.Shrinks path) →
          let number := (context.forest.configuredAddresses context.config id).dedup.length
          list.length ≤ number ∧ (number < moreRounds → result ≠ some (.ok none))) ∧
    (∀ {μ : Type} (machine : Act.Machine μ) (shown : μ → Forest) (world : μ) (id : AdapterId),
      machine.ShowsForest context.settings shown → machine.Removes shown id →
      InStep context (shown world) path id →
      let number := (context.forest.configuredAddresses context.config id).length
      number < moreRounds →
        ∃ after final,
          (removeOn path moreRounds).run.run machine context world =
            (some (.ok (some number)), after, final) ∧
          after.rescans = context.rescans + number ∧ InStep after (shown final) path id ∧
          ∀ chip ∈ (after.forest.adapter id).chips, ∀ entry ∈ after.config,
            chip.satisfies entry = false) := by
  constructor
  · intro talk result after dialogue
    obtain ⟨list, h⟩ := exists_rounds_of_dialogue dialogue
    obtain ⟨closing, unasked, htalk⟩ := h.talk_eq
    refine ⟨list, closing, h, htalk, unasked, fun round hround => ?_, h.isChain_ne,
      fun id hid hshrinks => ?_⟩
    · obtain ⟨last, tries⟩ := h.tries_of_mem hround
      exact tries.written_cases
    · have hlength := h.length_le hshrinks (located_of_resolve hready hid)
        (history.ordered.configuredAddresses _ _)
      refine ⟨hlength, fun hrounds hresult => ?_⟩
      subst hresult
      exact absurd hlength (h.length_eq_of_exhausted ▸ Nat.not_le_of_lt hrounds)
  · intro μ machine shown world id shows removes inStep number hrounds
    generalize hrun : (removeOn path moreRounds).run.run machine context world = run
    obtain ⟨result, after, final⟩ := run
    obtain ⟨talk, dialogue, answers⟩ := Act.run_eq_iff.mp hrun
    obtain ⟨list, h⟩ := exists_rounds_of_dialogue dialogue
    obtain ⟨rfl, hrescans, hinStep, hnone⟩ := h.of_removes shows removes inStep answers nofun hrounds
    refine ⟨after, final, by rw [Nat.zero_add], hrescans, hinStep, fun chip hchip entry hentry => ?_⟩
    rw [Forest.configuredAddresses, List.map_eq_nil_iff, List.filter_eq_nil_iff] at hnone
    simpa using fun hsatisfies => hnone chip hchip (List.any_eq_true.mpr ⟨entry, hentry, hsatisfies⟩)

/-- The two sensors of the bench are removed in two rounds, and the third finds none. -/
theorem removeOn_rounds_pair : ∃ steps after final,
    History {} steps pairContext ∧ pairContext.readiness = .ready ∧
      (removeOn "0" 3).run.run pairMachine pairContext (true, true) =
        (some (.ok (some 2)), after, final) ∧
      after.rescans = 2 ∧
      ∀ chip ∈ (after.forest.adapter 0).chips, ∀ entry ∈ after.config, chip.satisfies entry = false := by
  obtain ⟨ends, history⟩ := history_pairContext
  have hchips : (pairContext.forest.adapter 0).chips = [sensorAt 0x48, sensorAt 0x49] :=
    chips_pairForest (true, true)
  have inStep : InStep pairContext (pairForest (true, true)) "0" 0 :=
    ⟨rfl, .refl _, by with_unfolding_all rfl, by rw [hchips]; decide⟩
  have hnumber : (pairContext.forest.configuredAddresses pairContext.config 0).length = 2 := by
    have hconfig : pairContext.forest.configuredAddresses pairContext.config 0 =
        pairContext.forest.configuredAddresses pairEntries 0 :=
      Forest.configuredAddresses_reconcile 0
    rw [hconfig, Forest.configuredAddresses, hchips]
    with_unfolding_all rfl
  obtain ⟨-, hremoval⟩ := removeOn_rounds history rfl "0" 3
  obtain ⟨after, final, hrun, hrescans, -, hnone⟩ := hremoval pairMachine pairForest (true, true) 0
    showsForest_pairMachine removes_pairMachine inStep (by rw [hnumber]; decide)
  rw [hnumber] at hrun hrescans
  exact ⟨_, after, final, history, rfl, hrun, hrescans, hnone⟩

end Context
end I2cTopology
