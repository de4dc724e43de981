import I2cTopology.Proofs.Context.ControlSafety

/-!
# Rounds of removal

The configured chips of one adapter are removed in rounds.  Each round looks for the adapter at the path
again, takes the first chip on it that satisfies an entry, tries to remove it and scans.  Nothing counts the
rounds but the world: a round that finds the chip of the round before gives up, and chips stand in the order
of their addresses, so as long as nothing new appears the addresses ascend from round to round.

* `Rounds`: the rounds of a removal, with what is said and what comes of it.
* `Rounds.isChain_ne`: no two rounds in a row try to remove a chip at the same address.
* `Rounds.isChain_lt`: the addresses ascend while the chips of the adapter only get fewer.
-/

namespace I2cTopology
namespace Context

open Act (WritesNothing)

variable {context before after : Context} {path : String} {id : AdapterId} {talk : List Exchange}
  {rounds removed : Nat} {last : Option UInt16} {result : Option (Except Failure (Option Nat))}

/-! ## One round -/

/-- The context with the entry of a chip marked. -/
def marked (context : Context) (found : ConfiguredChip) : Context :=
  { context with config := Forest.markMatched context.config found.entry }

/-- Removes a chip and scans again. -/
def removeOnce (id : AdapterId) (address : UInt16) : Op Context Bool := do
  let gone ← remove id address
  rescan
  return gone

theorem removeRounds_succ (path : String) (rounds : Nat) (last : Option UInt16) (removed : Nat) :
    removeRounds path (rounds + 1) last removed = (do
      let id ← adapter path
      let context ← Op.getState
      match context.forest.firstConfigured? context.config id with
      | none => return some removed
      | some found =>
        Op.modifyState (marked · found)
        let address := (context.forest.chipAt found).address
        if last = some address then
          let nr := (context.forest.adapter id).nr
          Op.report .warn .control s!"i2c-{nr}: {showAddress address} survived removal"
          return some removed
        else
          let gone ← removeOnce id address
          removeRounds path rounds (some address) (if gone then removed + 1 else removed)) := by
  simp only [removeOnce, Op.bind_assoc]
  rfl

/-- A round in which the removal of a chip is tried, from the look at the adapter to the end of the scan. -/
structure Round where
  before : Context
  found : ConfiguredChip
  talk : List Exchange
  result : Option (Except Failure Bool)
  after : Context

namespace Round

/-- The address of the chip that is to be removed. -/
def address (round : Round) : UInt16 :=
  (round.before.forest.chipAt round.found).address

/-- The write that removes the chip. -/
def removal (round : Round) : Write :=
  round.before.forest.removal round.found.adapter round.address

/-- The chip is the first of the adapter at the path that satisfies an entry, it is not at the address of
the round before, and it is tried to remove it. -/
structure Tries (path : String) (last : Option UInt16) (round : Round) : Prop where
  located : round.before.located path = .ok round.found.adapter
  found : round.before.forest.firstConfigured? round.before.config round.found.adapter = some round.found
  fresh : last ≠ some round.address
  dialogue : (removeOnce round.found.adapter round.address).run.Dialogue
    (round.before.marked round.found) round.talk round.result round.after

/-- After the round the path leads to an adapter, and as far as entries are concerned, its chips are some of
those that were on the adapter of the round.  The adapter of the same kernel id and path may stand elsewhere in
the forest by then, for a scan finds others come and go; so nothing is asked of where it stands. -/
def Shrinks (path : String) (round : Round) : Prop :=
  ∃ id, round.after.forest.resolve path = .ok (some id) ∧
    ((round.after.forest.adapter id).chips.map Chip.features).Sublist
      ((round.before.forest.adapter round.found.adapter).chips.map Chip.features)

theorem Tries.ready {round : Round} (tries : round.Tries path last) : round.before.readiness = .ready :=
  ready_of_located tries.located

/-- The round claims the chip and goes on with what is then marked. -/
theorem Tries.claimFirst_eq {round : Round} (tries : round.Tries path last) :
    round.before.forest.claimFirst round.before.config round.found.adapter =
      (some round.found, (round.before.marked round.found).config) := by
  rw [Forest.claimFirst, tries.found]
  rfl

/-- The address is the first of those that are configured. -/
theorem Tries.configuredAddresses_eq {round : Round} (tries : round.Tries path last) :
    ∃ others, round.before.forest.configuredAddresses round.before.config round.found.adapter =
      round.address :: others :=
  Forest.configuredAddresses_of_firstConfigured? tries.found

/-- A round that comes to its end has found a new forest. -/
theorem Tries.after_of_ok {round : Round} {gone : Bool} (tries : round.Tries path last)
    (hgone : round.result = some (.ok gone)) :
    ∃ forest, round.after = (round.before.marked round.found).renewed forest := by
  have dialogue := tries.dialogue
  rw [hgone] at dialogue
  obtain ⟨_, _, first, rest, -, head, tail⟩ := Op.dialogue_bind_ok_iff.mp dialogue
  obtain ⟨rfl, -⟩ := attempt_of_remove head
  obtain ⟨_, final, second, closing, -, scanned, closed⟩ := Op.dialogue_bind_ok_iff.mp tail
  obtain ⟨-, -, hafter⟩ := Act.dialogue_done_iff.mp closed
  rw [hafter]
  cases rescanned_of_runs scanned.runs with
  | succeeded forest => exact ⟨forest, rfl⟩

/-- While the chips only get fewer, so do the configured addresses. -/
theorem Tries.configuredAddresses_sublist {round : Round} {gone : Bool} (tries : round.Tries path last)
    (hgone : round.result = some (.ok gone))
    (hchips : ((round.after.forest.adapter id).chips.map Chip.features).Sublist
      ((round.before.forest.adapter round.found.adapter).chips.map Chip.features)) :
    (round.after.forest.configuredAddresses round.after.config id).Sublist
      (round.before.forest.configuredAddresses round.before.config round.found.adapter) := by
  have hconfig : round.after.forest.configuredAddresses round.after.config id =
      round.after.forest.configuredAddresses round.before.config id := by
    obtain ⟨forest, hafter⟩ := tries.after_of_ok hgone
    rw [hafter]
    exact (Forest.configuredAddresses_reconcile _).trans (Forest.configuredAddresses_markMatched _ _)
  rw [hconfig]
  exact Forest.configuredAddresses_sublist hchips

/-- In a round nothing is written but the address of the chip to the attribute that removes chips. -/
theorem Tries.written_cases {round : Round} (tries : round.Tries path last) :
    written round.talk = [] ∨ written round.talk = [round.removal] := by
  have hrest {gone : Bool} : (rescan >>= fun _ => pure gone : Op Context Bool).run.WritesNothing :=
    .andThen writesNothing_rescan fun _ => .pure gone
  obtain ⟨gone, between, first, rest, htalk, head, tail⟩ | ⟨failure, head, -⟩ | ⟨head, -⟩ :=
    Op.dialogue_bind_iff.mp tries.dialogue
  · obtain ⟨rfl, attempt⟩ := attempt_of_remove head
    rw [htalk, written_append, hrest.written_eq_nil tail, List.append_nil]
    exact attempt.written_cases
  · exact (attempt_of_remove head).2.written_cases
  · exact (attempt_of_remove head).2.written_cases

end Round

/-! ## All rounds -/

/-- The rounds of a removal, with what is said and what comes of it. -/
inductive Rounds (path : String) : Nat → Option UInt16 → Nat → Context → List Round → List Exchange →
    Option (Except Failure (Option Nat)) → Context → Prop
  /-- No rounds are left. -/
  | exhausted {last : Option UInt16} {removed : Nat} {context : Context} :
      Rounds path 0 last removed context [] [] (some (.ok none)) context
  /-- There is no adapter at the path. -/
  | astray {rounds : Nat} {last : Option UInt16} {removed : Nat} {context : Context} {failure : Failure}
      (hid : context.located path = .error failure) :
      Rounds path (rounds + 1) last removed context [] [] (some (.error failure)) context
  /-- No chip on the adapter satisfies an entry. -/
  | cleared {rounds : Nat} {last : Option UInt16} {removed : Nat} {context : Context} {id : AdapterId}
      (hid : context.located path = .ok id)
      (hnone : context.forest.firstConfigured? context.config id = none) :
      Rounds path (rounds + 1) last removed context [] [] (some (.ok (some removed))) context
  /-- The chip of the round before is still there. -/
  | survived {rounds : Nat} {last : Option UInt16} {removed : Nat} {context : Context} {id : AdapterId}
      {found : ConfiguredChip} {talk : List Exchange} (hid : context.located path = .ok id)
      (hfound : context.forest.firstConfigured? context.config id = some found)
      (hlast : last = some (context.forest.chipAt found).address) (unasked : Unasked talk) :
      Rounds path (rounds + 1) last removed context [] talk (some (.ok (some removed)))
        (context.marked found)
  /-- A round fails or is broken off. -/
  | stopped {rounds : Nat} {last : Option UInt16} {removed : Nat} {round : Round}
      (tries : round.Tries path last) (hstopped : ∀ gone, round.result ≠ some (.ok gone)) :
      Rounds path (rounds + 1) last removed round.before [round] round.talk
        (round.result.map fun outcome => outcome.map fun _ => none) round.after
  | next {rounds : Nat} {last : Option UInt16} {removed : Nat} {round : Round} {gone : Bool}
      {later : List Round} {talk : List Exchange} {result : Option (Except Failure (Option Nat))}
      {after : Context} (tries : round.Tries path last) (hgone : round.result = some (.ok gone))
      (rest : Rounds path rounds (some round.address) (if gone then removed + 1 else removed) round.after
        later talk result after) :
      Rounds path (rounds + 1) last removed round.before (round :: later) (round.talk ++ talk) result after

theorem exists_rounds_of_dialogue
    (dialogue : (removeRounds path rounds last removed).run.Dialogue context talk result after) :
    ∃ list, Rounds path rounds last removed context list talk result after := by
  induction rounds generalizing context last removed talk with
  | zero =>
    obtain ⟨rfl, rfl, rfl⟩ := Act.dialogue_done_iff.mp dialogue
    exact ⟨[], .exhausted⟩
  | succ rounds ih =>
    rw [removeRounds_succ] at dialogue
    obtain ⟨id, between, first, rest, rfl, head, tail⟩ | ⟨failure, head, rfl⟩ | ⟨head, -⟩ :=
      Op.dialogue_bind_iff.mp dialogue
    · obtain ⟨rfl, hid, rfl⟩ := dialogue_adapter_iff.mp head
      have hid : between.located path = .ok id := (Option.some.inj hid).symm
      rw [Op.run_getState_bind, Act.dialogue_look_iff] at tail
      cases hfound : between.forest.firstConfigured? between.config id with
      | none =>
        rw [hfound] at tail
        obtain ⟨rfl, rfl, rfl⟩ := Act.dialogue_done_iff.mp tail
        exact ⟨[], .cleared hid hfound⟩
      | some found =>
        rw [hfound] at tail
        dsimp only at tail
        rw [Op.run_modifyState_bind, Act.dialogue_look_iff, Act.dialogue_store_iff] at tail
        split at tail
        next hlast =>
          rw [Op.run_report_bind, Act.dialogue_report_bind_iff] at tail
          obtain ⟨_, rfl, closed⟩ := tail
          obtain ⟨rfl, rfl, rfl⟩ := Act.dialogue_done_iff.mp closed
          exact ⟨[], .survived hid hfound hlast (Scan.unasked_notice _ _ _)⟩
        next hlast =>
          obtain ⟨rfl, -⟩ := Forest.configured_of_firstConfigured? hfound
          obtain ⟨gone, final, said, others, rfl, tried, further⟩ | ⟨failure, tried, rfl⟩ | ⟨tried, rfl⟩ :=
            Op.dialogue_bind_iff.mp tail
          · obtain ⟨later, hlater⟩ := ih further
            have tries : Round.Tries path last ⟨between, found, said, some (.ok gone), final⟩ :=
              ⟨hid, hfound, hlast, tried⟩
            exact ⟨_ :: later, .next tries rfl hlater⟩
          · have tries : Round.Tries path last ⟨between, found, rest, some (.error failure), after⟩ :=
              ⟨hid, hfound, hlast, tried⟩
            exact ⟨[_], .stopped tries nofun⟩
          · have tries : Round.Tries path last ⟨between, found, rest, none, after⟩ :=
              ⟨hid, hfound, hlast, tried⟩
            exact ⟨[_], .stopped tries nofun⟩
    · obtain ⟨rfl, hid, rfl⟩ := dialogue_adapter_iff.mp head
      exact ⟨[], .astray (Option.some.inj hid).symm⟩
    · exact nomatch (dialogue_adapter_iff.mp head).2.1

namespace Rounds

variable {list : List Round}

/-- Apart from what is said in its rounds, a removal gives at most a notice. -/
theorem talk_eq (h : Rounds path rounds last removed context list talk result after) :
    ∃ closing, Unasked closing ∧ talk = list.flatMap Round.talk ++ closing := by
  induction h with
  | exhausted | astray | cleared => exact ⟨[], Scan.unasked_nil, rfl⟩
  | @survived _ _ _ _ _ _ talk _ _ _ unasked => exact ⟨talk, unasked, rfl⟩
  | stopped => exact ⟨[], Scan.unasked_nil, by simp⟩
  | next _ _ _ ih =>
    obtain ⟨closing, unasked, rfl⟩ := ih
    exact ⟨closing, unasked, by simp⟩

theorem tries_of_mem (h : Rounds path rounds last removed context list talk result after)
    {round : Round} (hmem : round ∈ list) : ∃ last, round.Tries path last := by
  induction h with
  | exhausted | astray | cleared | survived => cases hmem
  | stopped tries =>
    obtain rfl := List.mem_singleton.mp hmem
    exact ⟨_, tries⟩
  | next tries _ _ ih =>
    obtain rfl | hmem := List.mem_cons.mp hmem
    · exact ⟨_, tries⟩
    · exact ih hmem

/-- No two rounds in a row try to remove a chip at the same address. -/
theorem isChain_ne (h : Rounds path rounds last removed context list talk result after) :
    (last.toList ++ list.map Round.address).IsChain (· ≠ ·) := by
  have hfresh {last : Option UInt16} {address : UInt16} {others : List UInt16}
      (hne : last ≠ some address) (hothers : (address :: others).IsChain (· ≠ ·)) :
      (last.toList ++ address :: others).IsChain (· ≠ ·) := by
    cases last with
    | none => exact hothers
    | some before => exact List.isChain_cons_cons.mpr ⟨fun h => hne (congrArg some h), hothers⟩
  induction h with
  | @exhausted last | @astray _ last | @cleared _ last | @survived _ last => cases last <;> simp
  | stopped tries => exact hfresh tries.fresh (.singleton _)
  | next tries _ _ ih => exact hfresh tries.fresh ih

/-- While the chips of the adapter only get fewer, the addresses ascend, and all of them were configured
from the start. -/
theorem isChain_lt (h : Rounds path rounds last removed context list talk result after)
    (hshrinks : ∀ round ∈ list, ∀ gone, round.result = some (.ok gone) → round.Shrinks path)
    (hid : context.located path = .ok id)
    (hsorted : (context.forest.configuredAddresses context.config id).Pairwise (· ≤ ·)) :
    (list.map Round.address).IsChain (· < ·) ∧
      ∀ round ∈ list, round.address ∈ context.forest.configuredAddresses context.config id := by
  -- The adapter that the path leads to may be another one in each round.
  induction h generalizing id with
  | exhausted | astray | cleared | survived => exact ⟨.nil, List.forall_mem_nil _⟩
  | @stopped _ _ _ round tries =>
    obtain rfl := Except.ok.inj (tries.located.symm.trans hid)
    obtain ⟨others, hothers⟩ := tries.configuredAddresses_eq
    exact ⟨.singleton _, List.forall_mem_singleton.mpr (hothers ▸ List.mem_cons_self)⟩
  | @next _ _ _ round gone later _ _ _ tries hgone rest ih =>
    obtain rfl := Except.ok.inj (tries.located.symm.trans hid)
    obtain ⟨others, hothers⟩ := tries.configuredAddresses_eq
    obtain ⟨hround, hlater⟩ := List.forall_mem_cons.mp hshrinks
    obtain ⟨next, hleads, hchips⟩ := hround gone hgone
    have hsub := tries.configuredAddresses_sublist hgone hchips
    have hready : round.after.readiness = .ready := by
      obtain ⟨forest, hafter⟩ := tries.after_of_ok hgone
      rw [hafter]
      exact tries.ready
    obtain ⟨hchain, hmem⟩ :=
      ih hlater (located_of_resolve hready hleads) (hsorted.sublist hsub)
    refine ⟨?_, List.forall_mem_cons.mpr ⟨hothers ▸ List.mem_cons_self, fun other hother =>
      hsub.subset (hmem other hother)⟩⟩
    -- The first address of all is not above that of the next round, and not the same.
    rw [hothers, List.pairwise_cons] at hsorted
    have hchainNe := rest.isChain_ne
    cases later with
    | nil => exact .singleton _
    | cons second more =>
      have hne : round.address ≠ second.address := (List.isChain_cons_cons.mp hchainNe).1
      have hsecond := hsub.subset (hmem second List.mem_cons_self)
      rw [hothers] at hsecond
      obtain heq | hsecond := List.mem_cons.mp hsecond
      · exact absurd heq.symm hne
      · exact List.isChain_cons_cons.mpr ⟨UInt16.lt_of_le_of_ne (hsorted.1 _ hsecond) hne, hchain⟩

theorem length_eq_of_exhausted
    (h : Rounds path rounds last removed context list talk (some (.ok none)) after) :
    list.length = rounds := by
  generalize hresult : some (Except.ok none) = result at h
  induction h with
  | exhausted => rfl
  | astray | cleared | survived => cases hresult
  | @stopped _ _ _ round _ hstopped =>
    cases hround : round.result with
    | none =>
      rw [hround] at hresult
      cases hresult
    | some outcome =>
      cases outcome with
      | error failure =>
        rw [hround] at hresult
        cases hresult
      | ok gone => exact absurd hround (hstopped gone)
  | next _ _ _ ih => rw [List.length_cons, ih hresult]

/-- While the chips of the adapter only get fewer, there are no more rounds than configured addresses. -/
theorem length_le (h : Rounds path rounds last removed context list talk result after)
    (hshrinks : ∀ round ∈ list, ∀ gone, round.result = some (.ok gone) → round.Shrinks path)
    (hid : context.located path = .ok id)
    (hsorted : (context.forest.configuredAddresses context.config id).Pairwise (· ≤ ·)) :
    list.length ≤ (context.forest.configuredAddresses context.config id).dedup.length := by
  obtain ⟨hchain, hmem⟩ := h.isChain_lt hshrinks hid hsorted
  have hnodup : (list.map Round.address).Nodup :=
    (List.isChain_iff_pairwise.mp hchain).imp UInt16.ne_of_lt
  have hsub : list.map Round.address ⊆ (context.forest.configuredAddresses context.config id).dedup := by
    intro address haddress
    obtain ⟨round, hround, rfl⟩ := List.mem_map.mp haddress
    exact List.mem_dedup.mpr (hmem round hround)
  calc list.length = (list.map Round.address).length := by rw [List.length_map]
    _ ≤ _ := (List.subperm_of_subset hnodup hsub).length_le

end Rounds

/-! ## The order of chips -/

theorem Move.ordered {scope : Scope} (move : Move scope talk before after)
    (h : before.forest.Ordered) : after.forest.Ordered := by
  cases move with
  | cleanedUp => exact fun _ => .nil
  | invalidated => exact h
  | installed scan => exact (Scan.accounts_of_scan scan).ordered
  | rescanned rescan =>
    cases rescan with
    | brokenOff => exact h
    | failed => exact h
    | succeeded scan => exact (Scan.accounts_of_scan scan).ordered
  | marked => exact h
  | attached attached => exact attached.alike.1.ordered h
  | used => exact (alike_setHandle _ _ before).ordered h
  | closed => exact (alike_closed _ before).ordered h

theorem History.ordered {settings : Settings} {steps : List Step}
    (history : History settings steps context) : context.forest.Ordered := by
  induction history with
  | start => exact fun _ => .nil
  | @step _ before _ call _ _ _ _ run ih =>
    obtain ⟨talk, -, dialogue⟩ := Act.runs_iff_dialogue.mp run.runs
    have moves := (call.traced before _ _ _ dialogue).2
    exact moves.preserves (T := fun _ => True) (fun _ => ⟨trivial, trivial⟩)
      (fun move _ => move.ordered) trivial ih

end Context
end I2cTopology
