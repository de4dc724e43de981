import I2cTopology.Proofs.Account
import I2cTopology.Proofs.Context.Declarations
import I2cTopology.Proofs.Writes

/-!
# What is written to control attributes

A chip is added or removed in three exchanges: a look whether its address is taken, a notice, and the write.
Nothing is written if the look shows that there is nothing to do, and the state stays what it was.

* `toList_showAddress_eq_digits`: how an address is written.
* `Attempt`: what is said when a chip is added or removed.
* `attempt_of_remove`, `attempt_of_instantiate`: what is said, and that nothing changes.
* `abides_remove`, `abides_instantiate`: a rule about writes has to allow what is written after the look.
-/

namespace I2cTopology

open Act (WriteRule WritesNothing)

namespace Exchange

/-- A look whether a path leads to something. -/
def checking (path : FilePath) (present : Bool) : Exchange :=
  ⟨.present path, some present⟩

/-- A value is written. -/
def writing (write : Write) (answer : Except FileFailure Unit) : Exchange :=
  ⟨write.query, some answer⟩

end Exchange

namespace Forest

/-- Where the kernel keeps the chip at an address of an adapter. -/
def chipPath (forest : Forest) (id : AdapterId) (address : UInt16) : FilePath :=
  let adapter := forest.adapter id
  adapter.location.join (Chip.directoryName adapter.nr address)

/-- The write that adds a chip. -/
def addition (forest : Forest) (id : AdapterId) (name : String) (address : UInt16) : Write :=
  ⟨(forest.adapter id).location, "new_device", s!"{name} {Context.showAddress address}"⟩

/-- The write that removes a chip. -/
def removal (forest : Forest) (id : AdapterId) (address : UInt16) : Write :=
  ⟨(forest.adapter id).location, "delete_device", Context.showAddress address⟩

theorem chipPath_eq_of_plain_eq {forest other : Forest} (h : forest.plain = other.plain) :
    forest.chipPath = other.chipPath := by
  funext id address
  have hsighting := sighting_eq_of_plain_eq h id
  have hnr : (forest.adapter id).nr = (other.adapter id).nr := congrArg Sighting.number hsighting
  have hlocation : (forest.adapter id).location = (other.adapter id).location :=
    congrArg Sighting.location hsighting
  rw [chipPath, chipPath, hnr, hlocation]

theorem addition_eq_of_plain_eq {forest other : Forest} (h : forest.plain = other.plain) :
    forest.addition = other.addition := by
  funext id name address
  have hlocation : (forest.adapter id).location = (other.adapter id).location :=
    congrArg Sighting.location (sighting_eq_of_plain_eq h id)
  rw [addition, addition, hlocation]

theorem removal_eq_of_plain_eq {forest other : Forest} (h : forest.plain = other.plain) :
    forest.removal = other.removal := by
  funext id address
  have hlocation : (forest.adapter id).location = (other.adapter id).location :=
    congrArg Sighting.location (sighting_eq_of_plain_eq h id)
  rw [removal, removal, hlocation]

/-- What an entry asks to be added where: its adapter, its name and its address. -/
def wanted? (forest : Forest) (entry : ExpectedChip) : Option (AdapterId × String × UInt16) := do
  let id ← forest.entryAdapter? entry
  let name ← entry.name
  let address ← entry.address
  return (id, name, address)

theorem wanted?_eq_some_iff {forest : Forest} {entry : ExpectedChip} {id : AdapterId} {name : String}
    {address : UInt16} :
    forest.wanted? entry = some (id, name, address) ↔
      forest.entryAdapter? entry = some id ∧ entry.name = some name ∧ entry.address = some address := by
  simp only [wanted?, Option.bind_eq_bind, Option.bind_eq_some_iff, Option.pure_def,
    Option.some.injEq, Prod.mk.injEq]
  constructor
  · rintro ⟨_, hid, _, hname, _, hnumber, rfl, rfl, rfl⟩
    exact ⟨hid, hname, hnumber⟩
  · rintro ⟨hid, hname, hnumber⟩
    exact ⟨_, hid, _, hname, _, hnumber, rfl, rfl, rfl⟩

theorem wanted?_eq_of_plain_eq {forest other : Forest} (h : forest.plain = other.plain)
    (entry : ExpectedChip) : forest.wanted? entry = other.wanted? entry := by
  rw [wanted?, wanted?, entryAdapter?_eq_of_plain_eq h]

end Forest

theorem written_of_unasked {talk : List Exchange} (unasked : Unasked talk) : written talk = [] := by
  apply List.filterMap_eq_nil_iff.mpr
  rintro ⟨question, answer⟩ hmem
  have hreport := unasked _ hmem
  cases question with
  | report => rfl
  | _ => cases hreport

namespace Context

variable {context after : Context} {id : AdapterId} {name : String} {address : UInt16}
  {talk said : List Exchange} {rule : WriteRule Context}

/-! ## One chip -/

theorem toList_showAddress (address : UInt16) :
    (showAddress address).toList = ExpectedChip.addressText (some address) := by
  rw [showAddress, String.toList_append]
  rfl

/-- What is written of an address are `0x` and its digits in lower-case hexadecimal, with a zero in front of a
single one. -/
theorem toList_showAddress_eq_digits (address : UInt16) :
    (showAddress address).toList =
      '0' :: 'x' :: (Nat.toDigits 16 address.toNat).leftpad 2 '0' := by
  rw [showAddress, String.toList_append, Numeral.toList_hexadecimal]
  rfl

/-- An address that is written to an attribute reads back as itself. -/
theorem cNotation16?_showAddress (address : UInt16) :
    Numeral.cNotation16? (showAddress address).toList = some address := by
  rw [toList_showAddress]
  exact Numeral.cNotation16?_hexadecimal 2 address

theorem toList_value_addition (forest : Forest) (id : AdapterId) (name : String) (address : UInt16) :
    (forest.addition id name address).value.toList =
      name.toList ++ ' ' :: (showAddress address).toList := by
  have htext (text : String) : toString text = text := rfl
  simp [Forest.addition, htext]

theorem not_mem_showAddress (address : UInt16) : ' ' ∉ (showAddress address).toList := by
  rw [toList_showAddress]
  intro hmem
  obtain h | h := ExpectedChip.isAlphanum_of_mem_addressText hmem <;> cases h

/-- What is written to add a chip tells its address. -/
theorem address_eq_of_addition_eq {forest other : Forest} {first second : AdapterId}
    {name otherName : String} {number : UInt16}
    (h : forest.addition first name address = other.addition second otherName number) :
    address = number := by
  have hvalue := congrArg (fun write : Write => write.value.toList) h
  simp only [toList_value_addition] at hvalue
  -- The address is what stands behind the last blank.
  have hback (text : String) (address : UInt16) :
      ((text.toList ++ ' ' :: (showAddress address).toList).reverse.takeWhile (· != ' ')).reverse =
        (showAddress address).toList := by
    rw [List.reverse_append, List.reverse_cons, List.append_assoc, List.takeWhile_append_of_pos]
    · simp
    · intro c hc
      refine bne_iff_ne.mpr fun heq => ?_
      subst heq
      exact not_mem_showAddress address (List.mem_reverse.mp hc)
  have hshown : (showAddress address).toList = (showAddress number).toList := by
    rw [← hback name address, hvalue, hback]
  have hread := cNotation16?_showAddress address
  rw [hshown, cNotation16?_showAddress] at hread
  exact (Option.some.inj hread).symm

/-- What is said when a value is written. -/
inductive Controlled (write : Write) : List Exchange → Option (Except Failure Unit) → Prop
  | broken (notice : Notice) : Controlled write [⟨.report notice, some ()⟩, ⟨write.query, none⟩] none
  | refused (notice : Notice) (refusal : FileFailure) (failure : Failure) :
      Controlled write [⟨.report notice, some ()⟩, .writing write (.error refusal)] (some (.error failure))
  | written (notice : Notice) :
      Controlled write [⟨.report notice, some ()⟩, .writing write (.ok ())] (some (.ok ()))

/-- What is said when a value is written only if an address is taken, or only if it is free. -/
inductive Attempt (path : FilePath) (taken : Bool) (write : Write) :
    List Exchange → Option (Except Failure Bool) → Prop
  | checkBroken : Attempt path taken write [⟨.present path, none⟩] none
  | spared {reports : List Exchange} (unasked : Unasked reports) :
      Attempt path taken write (.checking path (!taken) :: reports) (some (.ok false))
  | made {talk : List Exchange} {outcome : Option (Except Failure Unit)}
      (controlled : Controlled write talk outcome) :
      Attempt path taken write (.checking path taken :: talk)
        (outcome.map fun written => written.map fun _ => true)

/-- Nothing is written before the check, and nothing but the one value after it. -/
theorem Attempt.written_cases {path : FilePath} {taken : Bool} {write : Write}
    {result : Option (Except Failure Bool)} (attempt : Attempt path taken write talk result) :
    written talk = [] ∨ written talk = [write] := by
  cases attempt with
  | checkBroken => exact .inl rfl
  | @spared reports unasked =>
    have hreports : written reports = [] := written_of_unasked unasked
    exact .inl hreports
  | made controlled => cases controlled <;> exact .inr rfl

theorem controlled_of_dialogue {value : String} {result : Option (Except Failure Unit)}
    (dialogue : (control id name value).run.Dialogue context talk result after) :
    after = context ∧ Controlled ⟨(context.forest.adapter id).location, name, value⟩ talk result := by
  unfold control at dialogue
  rw [Op.run_getState_bind, Act.dialogue_look_iff, Op.run_report_bind, Act.dialogue_report_bind_iff]
    at dialogue
  obtain ⟨rest, rfl, dialogue⟩ := dialogue
  cases dialogue with
  | broken => exact ⟨rfl, .broken _⟩
  | ask answer rest =>
    cases answer with
    | error refusal => cases rest with | done => exact ⟨rfl, .refused _ refusal _⟩
    | ok _ => cases rest with | done => exact ⟨rfl, .written _⟩

theorem run_isOccupied_bind {α : Type} (f : Bool → Op Context α) :
    (isOccupied id address >>= f).run = .look fun context =>
      (Act.query (.present (context.forest.chipPath id address))).bind fun answer => (f answer).run := rfl

/-- What is written if the address is taken, or if it is free. -/
theorem attempt_of_isOccupied {taken : Bool} {write : Write} {f : Bool → Op Context Bool}
    {result : Option (Except Failure Bool)}
    (hspared : ∀ {talk result}, (f !taken).run.Dialogue context talk result after →
      after = context ∧ Unasked talk ∧ result = some (.ok false))
    (hmade : ∀ {talk result}, (f taken).run.Dialogue context talk result after →
      after = context ∧ ∃ outcome, Controlled write talk outcome ∧
        result = outcome.map fun written => written.map fun _ => true)
    (dialogue : (isOccupied id address >>= f).run.Dialogue context talk result after) :
    after = context ∧ Attempt (context.forest.chipPath id address) taken write talk result := by
  rw [run_isOccupied_bind, Act.dialogue_look_iff, Act.dialogue_query_bind_iff] at dialogue
  obtain ⟨occupied, rest, rfl, dialogue⟩ | ⟨-, rfl, rfl, rfl⟩ := dialogue
  · have hcases : ∀ a b : Bool, a = b ∨ a = !b := by decide
    obtain rfl | rfl := hcases occupied taken
    · obtain ⟨hafter, outcome, controlled, rfl⟩ := hmade dialogue
      exact ⟨hafter, .made controlled⟩
    · obtain ⟨hafter, unasked, rfl⟩ := hspared dialogue
      exact ⟨hafter, .spared unasked⟩
  · exact ⟨rfl, .checkBroken⟩

/-- What counts as one chip once the value is written. -/
theorem controlled_of_dialogue_counted {value : String} {result : Option (Except Failure Bool)}
    (dialogue : (control id name value >>= fun _ => pure true).run.Dialogue context talk result after) :
    after = context ∧ ∃ outcome,
      Controlled ⟨(context.forest.adapter id).location, name, value⟩ talk outcome ∧
        result = outcome.map fun written => written.map fun _ => true := by
  obtain ⟨_, between, first, rest, rfl, head, tail⟩ | ⟨failure, head, rfl⟩ | ⟨head, rfl⟩ :=
    Op.dialogue_bind_iff.mp dialogue
  · obtain ⟨rfl, controlled⟩ := controlled_of_dialogue head
    obtain ⟨rfl, rfl, rfl⟩ := Act.dialogue_done_iff.mp tail
    rw [List.append_nil]
    exact ⟨rfl, _, controlled, rfl⟩
  · obtain ⟨rfl, controlled⟩ := controlled_of_dialogue head
    exact ⟨rfl, _, controlled, rfl⟩
  · obtain ⟨rfl, controlled⟩ := controlled_of_dialogue head
    exact ⟨rfl, _, controlled, rfl⟩

theorem attempt_of_remove {result : Option (Except Failure Bool)}
    (dialogue : (remove id address).run.Dialogue context talk result after) :
    after = context ∧
      Attempt (context.forest.chipPath id address) true (context.forest.removal id address) talk result := by
  refine attempt_of_isOccupied (fun spared => ?_) (fun made => ?_) dialogue
  · obtain ⟨rfl, rfl, rfl⟩ := Act.dialogue_done_iff.mp spared
    exact ⟨rfl, Scan.unasked_nil, rfl⟩
  · exact controlled_of_dialogue_counted made

theorem attempt_of_instantiate {result : Option (Except Failure Bool)}
    (haddress : address ≤ ExpectedChip.maxAddress)
    (dialogue : (instantiate id name address).run.Dialogue context talk result after) :
    after = context ∧
      Attempt (context.forest.chipPath id address) false (context.forest.addition id name address) talk
        result := by
  unfold instantiate at dialogue
  simp only [UInt16.not_lt.mpr haddress, if_false] at dialogue
  refine attempt_of_isOccupied (fun spared => ?_) (fun made => ?_) dialogue
  · simp only [Bool.not_false, if_true, Op.run_getState_bind, Act.dialogue_look_iff,
      Op.run_report_bind, Act.dialogue_report_bind_iff] at spared
    obtain ⟨rest, rfl, last⟩ := spared
    obtain ⟨rfl, rfl, rfl⟩ := Act.dialogue_done_iff.mp last
    exact ⟨rfl, Scan.unasked_notice _ _ _, rfl⟩
  · exact controlled_of_dialogue_counted made

/-! ## The chip of an entry -/

/-- The number of chips that an attempt makes. -/
def counted : Except Failure Bool → Nat
  | .ok true => 1
  | _ => 0

/-- What is made of the outcome of an attempt for an entry. -/
def settle (entry : ExpectedChip) : Except Failure Bool → Op Context Nat
  | .ok added => return if added then 1 else 0
  | .error failure => do
    if isIncomplete failure then
      Op.report .debug .control failure.message
    else
      Op.report .warn .control s!"{entry.origin.display}: {failure.message}"
    return 0

theorem instantiateConfigured_eq (entry : ExpectedChip) : instantiateConfigured entry = (do
    match (← Op.getState).forest.entryAdapter? entry with
    | none => return 0
    | some id => settle entry (← Op.outcome (instantiateEntry id entry))) := rfl

theorem counted_of_settle {entry : ExpectedChip} {outcome : Except Failure Bool}
    {result : Option (Except Failure Nat)}
    (dialogue : (settle entry outcome).run.Dialogue context talk result after) :
    after = context ∧ Unasked talk ∧ result = some (.ok (counted outcome)) := by
  cases outcome with
  | ok added =>
    obtain ⟨rfl, rfl, rfl⟩ := Act.dialogue_done_iff.mp dialogue
    cases added <;> exact ⟨rfl, Scan.unasked_nil, rfl⟩
  | error failure =>
    have hreport {level : Level} {area : Area} {message : String}
        (dialogue : ((do Op.report level area message; return 0 : Op Context Nat)).run.Dialogue context
          talk result after) : after = context ∧ Unasked talk ∧ result = some (.ok 0) := by
      rw [Op.run_report_bind, Act.dialogue_report_bind_iff] at dialogue
      obtain ⟨rest, rfl, last⟩ := dialogue
      obtain ⟨rfl, rfl, rfl⟩ := Act.dialogue_done_iff.mp last
      exact ⟨rfl, Scan.unasked_notice _ _ _, rfl⟩
    unfold settle at dialogue
    dsimp only at dialogue
    split at dialogue <;> exact hreport dialogue

/-- What is said when the chip of an entry is added. -/
inductive Served (context : Context) (entry : ExpectedChip) :
    List Exchange → Option (Except Failure Nat) → Prop
  /-- The entry does not say what is to be added, or where. -/
  | idle {talk : List Exchange} (hnothing : context.forest.wanted? entry = none) (unasked : Unasked talk) :
      Served context entry talk (some (.ok 0))
  | attempted {id : AdapterId} {name : String} {address : UInt16} {talk reports : List Exchange}
      {result : Option (Except Failure Bool)}
      (hwanted : context.forest.wanted? entry = some (id, name, address))
      (attempt : Attempt (context.forest.chipPath id address) false
        (context.forest.addition id name address) talk result) (unasked : Unasked reports) :
      Served context entry (talk ++ reports) (result.map fun outcome => .ok (counted outcome))

theorem served_of_instantiateConfigured {entry : ExpectedChip} {result : Option (Except Failure Nat)}
    (haddress : ∀ address, entry.address = some address → address ≤ ExpectedChip.maxAddress)
    (dialogue : (instantiateConfigured entry).run.Dialogue context talk result after) :
    after = context ∧ Served context entry talk result := by
  rw [instantiateConfigured_eq, Op.run_getState_bind, Act.dialogue_look_iff] at dialogue
  cases hid : context.forest.entryAdapter? entry with
  | none =>
    rw [hid] at dialogue
    obtain ⟨rfl, rfl, rfl⟩ := Act.dialogue_done_iff.mp dialogue
    exact ⟨rfl, .idle (by rw [Forest.wanted?, hid]; rfl) Scan.unasked_nil⟩
  | some id =>
    rw [hid] at dialogue
    dsimp only at dialogue
    rw [Op.run_outcome_bind] at dialogue
    unfold instantiateEntry concrete at dialogue
    -- An entry that leaves out a part is settled without a question.
    have hincomplete {failure : Failure} (hnothing : context.forest.wanted? entry = none)
        (dialogue : (settle entry (.error failure)).run.Dialogue context talk result after) :
        after = context ∧ Served context entry talk result := by
      obtain ⟨rfl, unasked, rfl⟩ := counted_of_settle dialogue
      exact ⟨rfl, .idle hnothing unasked⟩
    cases hname : entry.name with
    | none =>
      rw [hname] at dialogue
      exact hincomplete (by rw [Forest.wanted?, hid, hname]; rfl) dialogue
    | some name =>
      cases hnumber : entry.address with
      | none =>
        rw [hname, hnumber] at dialogue
        exact hincomplete (by rw [Forest.wanted?, hid, hname, hnumber]; rfl) dialogue
      | some address =>
        rw [hname, hnumber] at dialogue
        have hwanted : context.forest.wanted? entry = some (id, name, address) :=
          Forest.wanted?_eq_some_iff.mpr ⟨hid, hname, hnumber⟩
        obtain ⟨outcome, between, first, rest, rfl, head, tail⟩ | ⟨rfl, head⟩ :=
          Act.dialogue_bind_iff.mp dialogue
        · obtain ⟨rfl, attempt⟩ := attempt_of_instantiate (haddress address hnumber) head
          obtain ⟨rfl, unasked, rfl⟩ := counted_of_settle tail
          exact ⟨rfl, .attempted hwanted attempt unasked⟩
        · obtain ⟨rfl, attempt⟩ := attempt_of_instantiate (haddress address hnumber) head
          rw [← List.append_nil talk]
          exact ⟨rfl, .attempted hwanted attempt Scan.unasked_nil⟩

/-! ## Rules about one chip -/

/-- Somebody looked whether the path leads to something, and nothing but a notice came after. -/
def JustChecked (path : FilePath) (present : Bool) (said : List Exchange) : Prop :=
  ∃ earlier notice, said = earlier ++ [.checking path present, ⟨.report notice, some ()⟩]

theorem abides_control {value : String}
    (hwrite : ∀ notice, rule (said ++ [⟨.report notice, some ()⟩]) context
      ⟨(context.forest.adapter id).location, name, value⟩) :
    (control id name value).run.Abides rule said context := by
  refine ⟨nofun, fun _ => ⟨fun write h => ?_, fun answer => ?_⟩⟩
  · obtain rfl := Option.some.inj h
    exact hwrite _
  · cases answer <;> trivial

/-- What is written after a look at the address is written by all that follows. -/
theorem abides_control_counted {value : String} {path : FilePath} {present : Bool}
    (hwrite : ∀ said, JustChecked path present said →
      rule said context ⟨(context.forest.adapter id).location, name, value⟩) :
    (control id name value >>= fun _ => pure true).run.Abides rule
      (said ++ [.checking path present]) context := by
  refine .andThen (abides_control fun notice => hwrite _ ⟨said, notice, ?_⟩) fun _ _ _ _ => trivial
  rw [List.append_assoc]
  rfl

theorem abides_remove
    (hwrite : ∀ said, JustChecked (context.forest.chipPath id address) true said →
      rule said context (context.forest.removal id address)) :
    (remove id address).run.Abides rule said context := by
  unfold remove
  rw [run_isOccupied_bind]
  refine ⟨nofun, fun occupied => ?_⟩
  cases occupied with
  | false => trivial
  | true => exact abides_control_counted hwrite

theorem abides_instantiate
    (hwrite : address ≤ ExpectedChip.maxAddress → ∀ said,
      JustChecked (context.forest.chipPath id address) false said →
        rule said context (context.forest.addition id name address)) :
    (instantiate id name address).run.Abides rule said context := by
  unfold instantiate
  by_cases haddress : ExpectedChip.maxAddress < address
  · rw [if_pos haddress]
    trivial
  · rw [if_neg haddress]
    dsimp only
    rw [run_isOccupied_bind]
    refine ⟨nofun, fun occupied => ?_⟩
    cases occupied with
    | true => exact ⟨nofun, fun _ => trivial⟩
    | false => exact abides_control_counted (hwrite (UInt16.not_lt.mp haddress))

end Context
end I2cTopology
