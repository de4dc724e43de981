import I2cTopology.Proofs.Context.Controls
import I2cTopology.Proofs.Matching

/-!
# The safety of control attributes

Nothing but the control attributes of adapters is ever written, and only by the calls that add and remove
chips.  What they write goes to an adapter that is placed in the forest of the moment, right after a look
that showed its address to be free, or taken.  The calls on all configured chips go through lists that were
made before their first write.  No forest is installed until the list is done, so what was true of the list
when it was made is true at each write.

* `Proper`: what holds of every write.
* `Call.MayWrite`: which writes a call may issue.
* `writes_of_history`: every write in a history.
-/

namespace I2cTopology

open Act (WriteRule WritesNothing)

namespace Context

variable {context before after : Context} {id : AdapterId} {said : List Exchange}
  {rule : WriteRule Context}

/-! ## Calls that write nothing -/

theorem writesNothing_ensureReady : ensureReady.run.WritesNothing := by
  refine .andThen .getState fun context => ?_
  split
  · exact .pure ()
  · exact .throw _

theorem writesNothing_reconciled (forest : Forest) (config : List ExpectedChip) :
    (reconciled forest config).run.WritesNothing :=
  .andThen (.of_readOnly (.ofAct (.reportAll _))) fun _ => .pure _

theorem writesNothing_rescan : rescan.run.WritesNothing := by
  refine .andThen writesNothing_ensureReady fun _ => .andThen (.modifyState _) fun _ => ?_
  refine .andThen .getState fun before => ?_
  refine .andThen (.outcome (.of_readOnly (Scan.readOnly_scan _))) fun scanned => ?_
  refine .andThen (.modifyState _) fun _ => ?_
  cases scanned with
  | error failure => exact .andThen (.report _ _ _) fun _ => .throw failure
  | ok forest =>
    refine .andThen (writesNothing_reconciled forest _) fun config => ?_
    exact .andThen (.modifyState _) fun _ => .report _ _ _

theorem writesNothing_init (source : ConfigSource) : (init source).run.WritesNothing := by
  rw [init_eq]
  refine .andThen .getState fun before => ?_
  split
  · exact .throw _
  · refine .andThen (.modifyState _) fun _ => ?_
    refine .andThen (.of_readOnly (Scan.readOnly_scan _)) fun forest => ?_
    refine .andThen (.of_readOnly (ConfigSource.readOnly_load source)) fun loaded => ?_
    refine .andThen (writesNothing_reconciled forest loaded) fun config => ?_
    exact .andThen (.report _ _ _) fun _ => .modifyState _

theorem writesNothing_lookup (path : String) : (lookup path).run.WritesNothing := by
  refine .andThen writesNothing_ensureReady fun _ => .andThen .getState fun context => ?_
  split
  · exact .pure _
  · exact .throw _

theorem writesNothing_adapter (path : String) : (adapter path).run.WritesNothing :=
  .of_readOnly (readOnly_adapter path)

theorem writesNothing_attach (id : AdapterId) : (attach id).run.WritesNothing := by
  unfold attach
  refine .andThen .getState fun context => ?_
  dsimp only
  split
  · exact .pure ()
  refine .andThen (.of_readOnly (.ofAct (Handle.readOnly_openAt _ _ _))) fun opened => ?_
  refine WritesNothing.andThen (.modifyState _) fun _ => ?_
  split
  · exact .throw _
  · exact .modifyState _

theorem writesNothing_connectTwice (path : String) : (connectTwice path).run.WritesNothing := by
  refine .andThen (writesNothing_adapter path) fun first => ?_
  refine .andThen (.outcome (writesNothing_attach first)) fun attached => ?_
  unfold conclude
  cases attached with
  | ok _ => exact .pure first
  | error failure =>
    dsimp only
    split
    · refine .andThen (.report _ _ _) fun _ => .andThen (.modifyState _) fun _ => ?_
      refine .andThen writesNothing_rescan fun _ => .andThen (writesNothing_adapter path) fun second => ?_
      exact .andThen (writesNothing_attach second) fun _ => .pure second
    · exact .throw failure

theorem writesNothing_openHandle (path : String) : (openHandle path).run.WritesNothing := by
  rw [openHandle_eq]
  refine .andThen writesNothing_ensureReady fun _ => .andThen .getState fun context => ?_
  split
  · exact .andThen writesNothing_rescan fun _ => writesNothing_connectTwice path
  · exact writesNothing_connectTwice path

theorem writesNothing_closeHandle (path : String) : (closeHandle path).run.WritesNothing :=
  .andThen (writesNothing_adapter path) fun _ => .andThen .getState fun _ =>
    WritesNothing.andThen (.modifyState _) fun _ => .pure _

/-- Using a handle writes what its use writes. -/
theorem writesNothing_withHandle {α : Type} (path : String) {use : Op Handle α}
    (huse : use.run.WritesNothing) : (withHandle path use).run.WritesNothing :=
  .andThen (writesNothing_openHandle path) fun _ => huse.within

/-! ## Every write -/

/-- A write that goes to a placed adapter of a ready context, after a look at the address that is written:
where a chip is added the address was free, where one is removed it was taken. Either way the address reads
back as itself. -/
inductive Proper (said : List Exchange) (context : Context) : Write → Prop
  | adds {id : AdapterId} {name : String} {address : UInt16} (hready : context.readiness = .ready)
      (hplaced : context.forest.Placed id) (haddress : address ≤ ExpectedChip.maxAddress)
      (hread : Numeral.cNotation16? (showAddress address).toList = some address)
      (hfree : JustChecked (context.forest.chipPath id address) false said) :
      Proper said context (context.forest.addition id name address)
  | removes {id : AdapterId} {address : UInt16} (hready : context.readiness = .ready)
      (hplaced : context.forest.Placed id)
      (hread : Numeral.cNotation16? (showAddress address).toList = some address)
      (htaken : JustChecked (context.forest.chipPath id address) true said) :
      Proper said context (context.forest.removal id address)

/-- The write removes a chip of the adapter that satisfies an entry. -/
def RemovesConfigured (context : Context) (id : AdapterId) (write : Write) : Prop :=
  ∃ chip ∈ (context.forest.adapter id).chips, (∃ entry ∈ context.config, chip.satisfies entry = true) ∧
    write = context.forest.removal id chip.address

/-- The write adds the chip of an entry that was not found although its adapter is there. The name and the
address stand before and behind the only blank in the value. -/
def AddsExpected (context : Context) (write : Write) : Prop :=
  ∃ entry ∈ context.config, ∃ id name address,
    entry.available = true ∧ entry.matched = false ∧
      entry.name = some name ∧ entry.address = some address ∧
      context.forest.entryAdapter? entry = some id ∧ write = context.forest.addition id name address ∧
      ∃ numeral, Text.pieces ' ' write.value.toList = [name.toList, numeral] ∧
        Numeral.cNotation16? numeral = some address

/-- The writes that a call may issue. -/
def Call.MayWrite (call : Call) (context : Context) (write : Write) : Prop :=
  match call with
  | .newDevice path name address =>
    ∃ id, context.forest.resolve path = .ok (some id) ∧ write = context.forest.addition id name address
  | .deleteDevice path address =>
    ∃ id, context.forest.resolve path = .ok (some id) ∧ write = context.forest.removal id address
  | .initializeAll => context.AddsExpected write
  | .removeAll => ∃ id, context.RemovesConfigured id write
  | .removeOn path _ =>
    ∃ id, context.forest.resolve path = .ok (some id) ∧ context.RemovesConfigured id write
  | _ => False

/-- What is done with a handle writes to no attribute. -/
def Call.Silent : Call → Prop
  | .useHandle _ use => use.run.WritesNothing
  | _ => True

/-- The rule for the writes of a call. -/
def Call.permits (call : Call) : WriteRule Context :=
  fun said context write => context.Proper said write ∧ call.MayWrite context write

/-! ## One chip after the other -/

theorem abides_settle (entry : ExpectedChip) (outcome : Except Failure Bool) :
    (settle entry outcome).run.Abides rule said context := by
  apply WritesNothing.abides
  unfold settle
  cases outcome with
  | ok added => exact .pure _
  | error failure =>
    dsimp only
    split <;> exact .andThen (.report _ _ _) fun _ => .pure 0

theorem abides_instantiateConfigured {entry : ExpectedChip}
    (hwrite : ∀ id name address said, context.forest.wanted? entry = some (id, name, address) →
      address ≤ ExpectedChip.maxAddress → JustChecked (context.forest.chipPath id address) false said →
        rule said context (context.forest.addition id name address)) :
    (instantiateConfigured entry).run.Abides rule said context := by
  rw [instantiateConfigured_eq]
  refine .getState_andThen ?_
  cases hid : context.forest.entryAdapter? entry with
  | none => trivial
  | some id =>
    refine .andThen (.outcome ?_) fun outcome _ _ _ => abides_settle entry outcome
    unfold instantiateEntry concrete
    cases hname : entry.name with
    | none => trivial
    | some name =>
      cases hnumber : entry.address with
      | none => trivial
      | some address =>
        refine abides_instantiate fun haddress said hchecked => ?_
        have hwanted := Forest.wanted?_eq_some_iff.mpr ⟨hid, hname, hnumber⟩
        exact hwrite id name address said hwanted haddress hchecked

theorem abides_instantiateEach {entries : List ExpectedChip}
    (haddress : ∀ entry ∈ entries, ∀ address, entry.address = some address →
      address ≤ ExpectedChip.maxAddress)
    (hwrite : ∀ entry ∈ entries, ∀ id name address said,
      context.forest.wanted? entry = some (id, name, address) → address ≤ ExpectedChip.maxAddress →
        JustChecked (context.forest.chipPath id address) false said →
          rule said context (context.forest.addition id name address)) :
    (instantiateEach entries).run.Abides rule said context := by
  induction entries generalizing said with
  | nil => trivial
  | cons entry rest ih =>
    obtain ⟨hfirst, hothers⟩ := List.forall_mem_cons.mp haddress
    obtain ⟨hentry, hrest⟩ := List.forall_mem_cons.mp hwrite
    refine .andThen (abides_instantiateConfigured hentry) fun added talk final dialogue => ?_
    -- Nothing has changed, so the entries that are left are looked up in the same forest.
    obtain ⟨rfl, -⟩ := served_of_instantiateConfigured hfirst dialogue
    exact .andThen (ih hothers hrest) fun _ _ _ _ => trivial

/-- Removing a configured chip changes nothing. -/
theorem eq_of_removeConfigured {found : ConfiguredChip} {talk : List Exchange}
    {result : Option (Except Failure Nat)}
    (dialogue : (removeConfigured found).run.Dialogue context talk result after) : after = context := by
  unfold removeConfigured at dialogue
  rw [Op.run_getState_bind, Act.dialogue_look_iff] at dialogue
  dsimp only at dialogue
  rw [Op.run_outcome_bind] at dialogue
  obtain ⟨outcome, between, first, rest, rfl, head, tail⟩ | ⟨rfl, head⟩ :=
    Act.dialogue_bind_iff.mp dialogue
  · obtain ⟨rfl, -⟩ := attempt_of_remove head
    cases outcome with
    | ok removed => exact (Act.dialogue_done_iff.mp tail).2.2
    | error failure =>
      dsimp only at tail
      rw [Op.run_report_bind, Act.dialogue_report_bind_iff] at tail
      obtain ⟨_, -, last⟩ := tail
      exact (Act.dialogue_done_iff.mp last).2.2
  · exact (attempt_of_remove head).1

theorem abides_removeConfigured {found : ConfiguredChip}
    (hwrite : ∀ said,
      JustChecked (context.forest.chipPath found.adapter (context.forest.chipAt found).address) true said →
        rule said context (context.forest.removal found.adapter (context.forest.chipAt found).address)) :
    (removeConfigured found).run.Abides rule said context := by
  refine .getState_andThen (.andThen (.outcome (abides_remove hwrite)) fun outcome _ _ _ => ?_)
  cases outcome with
  | ok removed => trivial
  | error failure => exact ⟨nofun, fun _ => trivial⟩

theorem abides_removeEach {chips : List ConfiguredChip}
    (hwrite : ∀ found ∈ chips, ∀ said,
      JustChecked (context.forest.chipPath found.adapter (context.forest.chipAt found).address) true said →
        rule said context (context.forest.removal found.adapter (context.forest.chipAt found).address)) :
    (removeEach chips).run.Abides rule said context := by
  induction chips generalizing said with
  | nil => trivial
  | cons found rest ih =>
    obtain ⟨hfound, hrest⟩ := List.forall_mem_cons.mp hwrite
    refine .andThen (abides_removeConfigured hfound) fun removed talk final dialogue => ?_
    obtain rfl := eq_of_removeConfigured dialogue
    exact .andThen (ih hrest) fun _ _ _ _ => trivial

/-! ## Calls -/

theorem abides_ensureReady_andThen {α : Type} {f : Unit → Op Context α}
    (tail : context.readiness = .ready → (f ()).run.Abides rule said context) :
    (ensureReady >>= f).run.Abides rule said context := by
  rw [run_ensureReady_bind, Act.Abides]
  split
  next hobstacle => exact tail (obstacle?_eq_none_iff.mp hobstacle)
  next => trivial

theorem abides_adapter_andThen {α : Type} {path : String} {f : AdapterId → Op Context α}
    (tail : ∀ id, context.readiness = .ready → context.forest.resolve path = .ok (some id) →
      (f id).run.Abides rule said context) : (adapter path >>= f).run.Abides rule said context := by
  refine .readOnly_andThen (readOnly_adapter path) fun id talk dialogue => ?_
  obtain ⟨rfl, hid, -⟩ := dialogue_adapter_iff.mp dialogue
  have hid : context.located path = .ok id := (Option.some.inj hid).symm
  have hready := ready_of_located hid
  rw [List.append_nil]
  exact tail id hready (resolve_of_located hready hid)

theorem addsExpected_of_wanted {entry : ExpectedChip} {name : String} {address : UInt16}
    (hentry : entry ∈ context.config) (hdeclared : entry.Declared)
    (hflags : (entry.available && !entry.matched) = true)
    (hwanted : context.forest.wanted? entry = some (id, name, address)) :
    context.AddsExpected (context.forest.addition id name address) := by
  simp only [Bool.and_eq_true, Bool.not_eq_true'] at hflags
  obtain ⟨hid, hname, hnumber⟩ := Forest.wanted?_eq_some_iff.mp hwanted
  refine ⟨entry, hentry, _, _, _, hflags.1, hflags.2, hname, hnumber, hid, rfl,
    _, ?_, cNotation16?_showAddress _⟩
  -- A name is one word, and so is a numeral.
  have hblank : ¬ Text.WordChar ' ' := fun h => nomatch h.2
  rw [toList_value_addition, Text.pieces_append_separator, Text.pieces_of_not_mem fun hmem =>
    hblank (hdeclared.wordChar_of_mem_name hname hmem), Text.pieces_of_not_mem (not_mem_showAddress address)]
  rfl

theorem abides_initializeAll (hflagged : Flagged context)
    (hdeclared : ∀ entry ∈ context.config, entry.Declared) :
    initializeAll.run.Abides (Call.permits .initializeAll) said context := by
  unfold initializeAll
  refine abides_ensureReady_andThen fun hready => .getState_andThen (.andThen ?_ fun added _ _ _ => ?_)
  · have hsub {entry : ExpectedChip}
        (h : entry ∈ context.config.filter fun entry => entry.available && !entry.matched) :=
      List.mem_filter.mp h
    refine abides_instantiateEach (fun entry h address => (hdeclared entry (hsub h).1).address_le)
      fun entry h id name address said hwanted haddress hfree => ⟨?_, ?_⟩
    · obtain ⟨hid, -, -⟩ := Forest.wanted?_eq_some_iff.mp hwanted
      have hplaced := hflagged.surveyed.placed_of_entryAdapter? (hdeclared entry (hsub h).1).readable hid
      exact .adds hready hplaced haddress (cNotation16?_showAddress _) hfree
    · exact addsExpected_of_wanted (hsub h).1 (hdeclared entry (hsub h).1) (hsub h).2 hwanted
  · dsimp only
    split
    · exact (WritesNothing.andThen writesNothing_rescan fun _ => .pure added).abides
    · trivial

theorem removesConfigured_of_configured {found : ConfiguredChip}
    (h : context.forest.Configured context.config found) :
    context.RemovesConfigured found.adapter
      (context.forest.removal found.adapter (context.forest.chipAt found).address) := by
  obtain ⟨hchip, entry, hentry, hsatisfies⟩ := h
  exact ⟨_, List.mem_of_getElem? hchip, ⟨entry, List.mem_of_getElem? hentry, hsatisfies⟩, rfl⟩

theorem abides_removeAll (hflagged : Flagged context) :
    removeAll.run.Abides (Call.permits .removeAll) said context := by
  unfold removeAll
  refine abides_ensureReady_andThen fun hready => .getState_andThen (.andThen ?_ fun removed _ _ _ => ?_)
  · refine abides_removeEach fun found hfound said htaken => ?_
    have hconfigured := Forest.configured_of_mem_configuredChips hfound
    have hplaced := (hflagged.surveyed.chips _ _ (List.mem_of_getElem? hconfigured.chip)).placed
    exact ⟨.removes hready hplaced (cNotation16?_showAddress _) htaken, _, removesConfigured_of_configured hconfigured⟩
  · dsimp only
    split
    · exact (WritesNothing.andThen writesNothing_rescan fun _ => .pure removed).abides
    · trivial

/-- A mark leaves the chip of an entry configured. -/
theorem removesConfigured_of_marked {found : ConfiguredChip}
    (h : context.forest.Configured context.config found) :
    ({ context with config := Forest.markMatched context.config found.entry } : Context).RemovesConfigured
      found.adapter (context.forest.removal found.adapter (context.forest.chipAt found).address) := by
  obtain ⟨hchip, entry, hentry, hsatisfies⟩ := h
  refine ⟨_, List.mem_of_getElem? hchip, ⟨{ entry with matched := true }, ?_, hsatisfies⟩, rfl⟩
  apply List.mem_of_getElem? (i := found.entry)
  rw [Forest.markMatched, List.getElem?_modify_eq, hentry]
  rfl

theorem abides_removeRounds {path : String} {moreRounds : Nat} (rounds : Nat) (last : Option UInt16)
    (removed : Nat) (hflagged : Flagged context) :
    (removeRounds path rounds last removed).run.Abides (Call.permits (.removeOn path moreRounds)) said
      context := by
  -- A round that is not the last ends with a rescan, after which the flags can be relied on again.
  induction rounds generalizing said context last removed with
  | zero => trivial
  | succ rounds ih =>
    refine abides_adapter_andThen fun id hready hid => .getState_andThen ?_
    split
    · trivial
    next found hfound =>
      obtain ⟨rfl, hconfigured⟩ := Forest.configured_of_firstConfigured? hfound
      refine .modifyState_andThen ?_
      dsimp only
      split
      · exact ⟨nofun, fun _ => trivial⟩
      · have hplaced := hflagged.surveyed.placed_of_resolve hid
        refine .andThen (abides_remove fun said htaken =>
          ⟨.removes hready hplaced (cNotation16?_showAddress _) htaken, _, hid, removesConfigured_of_marked hconfigured⟩)
          fun gone talk final hremove => ?_
        obtain ⟨rfl, -⟩ := attempt_of_remove hremove
        refine .andThen writesNothing_rescan.abides fun _ talk after hrescan => ih _ _ ?_
        have moves : Moves {} talk _ after := (Traced.rescan _ _ _ hrescan).2
        exact moves.flagged (hflagged.mark hfound)

/-- Every call keeps to its rule. -/
theorem abides_call (call : Call) (hsilent : call.Silent) (hflagged : Flagged context)
    (hdeclared : ∀ entry ∈ context.config, entry.Declared) :
    call.op.run.Abides call.permits said context := by
  cases call with
  | init source => exact (writesNothing_init source).abides
  | cleanup => exact (WritesNothing.modifyState _).abides
  | invalidate => exact (WritesNothing.modifyState _).abides
  | tree => exact (writesNothing_ensureReady.andThen fun _ => .andThen .getState fun _ => .pure _).abides
  | configuration =>
    exact (writesNothing_ensureReady.andThen fun _ => .andThen .getState fun _ => .pure _).abides
  | lookup path => exact (writesNothing_lookup path).abides
  | adapter path => exact (writesNothing_adapter path).abides
  | rescan => exact writesNothing_rescan.abides
  | openHandle path => exact (writesNothing_openHandle path).abides
  | useHandle path use => exact (writesNothing_withHandle path hsilent).abides
  | closeHandle path => exact (writesNothing_closeHandle path).abides
  | newDevice path name address =>
    refine abides_adapter_andThen fun id hready hid => abides_instantiate fun haddress said hfree => ?_
    have hplaced := hflagged.surveyed.placed_of_resolve hid
    exact ⟨.adds hready hplaced haddress (cNotation16?_showAddress _) hfree, id, hid, rfl⟩
  | deleteDevice path address =>
    refine abides_adapter_andThen fun id hready hid => abides_remove fun said htaken => ?_
    have hplaced := hflagged.surveyed.placed_of_resolve hid
    exact ⟨.removes hready hplaced (cNotation16?_showAddress _) htaken, id, hid, rfl⟩
  | initializeAll => exact abides_initializeAll hflagged hdeclared
  | removeAll => exact abides_removeAll hflagged
  | removeOn path moreRounds => exact abides_removeRounds _ none 0 hflagged

/-- **Control attributes are safe.**  Take any history of a context, whatever was answered and whichever
calls were broken off, and any further call.  Every write in the call, whether it was accepted, refused or
never answered, was issued in some state of the context, and in that state

* the context is ready, and the write goes to the directory of an adapter that is placed in the forest;
* it is `new_device` with a name and an address of ten bits that was free when it was looked at last, or
  `delete_device` with an address that was taken, and in either case the address reads back as itself;
* if all configured chips are removed, or those of the adapter at a path, there is a chip at the address
  on the adapter that satisfies an entry, and in the second case the path leads to the adapter;
* if missing chips are added, the write adds the chip of an entry whose adapter is available and which is
  not matched, to that adapter, and the value splits at its only blank into name and address.

Calls other than those that add or remove chips write nothing. -/
theorem writes_of_history {settings : Settings} {steps : List Step}
    (history : History settings steps before) {call : Call} (hsilent : call.Silent)
    {front back : List Exchange} {write : Write} {answer : Option write.query.Answer}
    {result : Option (Except Failure call.Reply)}
    (dialogue : call.op.run.Dialogue before (front ++ ⟨write.query, answer⟩ :: back) result after) :
    ∃ context, call.op.run.Issues before front context write ∧
      context.Proper front write ∧ call.MayWrite context write := by
  obtain ⟨context, issued⟩ := dialogue.exists_issues
  have abides : call.op.run.Abides call.permits [] before :=
    abides_call call hsilent history.flagged history.declared
  exact ⟨context, issued, abides.of_issues issued⟩

/-- The machine goes down while the missing chip of the bench is added. -/
theorem writes_of_history_bench : ∃ ends front context,
    History {} [⟨.init .standardInput, ends⟩] benchContext ∧
      initializeAll.run.Issues benchContext front context (benchContext.forest.addition 0 "lm75" 0x48) ∧
      context.Proper front (benchContext.forest.addition 0 "lm75" 0x48) ∧
      context.AddsExpected (benchContext.forest.addition 0 "lm75" 0x48) := by
  obtain ⟨ends, history⟩ := history_benchContext
  have dialogue : ∃ notice, (Call.op .initializeAll).run.Dialogue benchContext
      ([.checking (benchContext.forest.chipPath 0 0x48) false, ⟨.report notice, some ()⟩] ++
        [⟨(benchContext.forest.addition 0 "lm75" 0x48).query, none⟩]) none benchContext := by
    show ∃ notice, initializeAll.run.Dialogue _ _ _ _
    apply Exists.intro
    with_unfolding_all
      apply Act.Dialogue.look
      apply Act.Dialogue.look
      apply Act.Dialogue.look
      apply Act.Dialogue.look
      apply Act.Dialogue.ask (show (Query.present _).Answer from false)
      apply Act.Dialogue.look
      apply Act.Dialogue.ask (show (Query.report _).Answer from ())
      exact .broken rfl
  obtain ⟨notice, dialogue⟩ := dialogue
  have hsilent : Call.Silent .initializeAll := trivial
  obtain ⟨context, issued, proper, adds⟩ := writes_of_history history hsilent dialogue
  exact ⟨ends, _, context, history, issued, proper, adds⟩

end Context
end I2cTopology
