import I2cTopology.Proofs.Context.Worlds

/-!
# The addition of all missing chips

Every entry whose adapter is there and whose chip is missing is taken in turn, and its chip is added unless
something is at its address already.  Several entries may ask for the same chip, or for chips at the same
address: the first that succeeds takes the address.  What is refused once is refused again, so when all has
been tried, trying again adds nothing.

* `Adds`: a machine to which chips can be added.
* `Supply`, `Supplies`: what comes of one entry, and of all of them, on such a machine.
* `initializeAll_complete`: the addition of all missing chips, and the same again.
-/

namespace I2cTopology

/-- An adapter, and the name and the address of a chip that is wanted on it. -/
abbrev Demand : Type :=
  AdapterId × String × UInt16

namespace Forest

/-- Where the kernel keeps the chip that is wanted. -/
def demandPath (forest : Forest) (demand : Demand) : FilePath :=
  forest.chipPath demand.1 demand.2.2

/-- The write that adds the chip that is wanted. -/
def demandWrite (forest : Forest) (demand : Demand) : Write :=
  forest.addition demand.1 demand.2.1 demand.2.2

end Forest

/-- What can be seen of a machine: the forest that a scan finds, and which paths lead to something. -/
structure Sight (κ : Type) where
  shown : κ → Forest
  there : κ → FilePath → Bool

namespace Sight

variable {κ : Type} {sight : Sight κ} {before between after : κ}

/-- Nothing gets lost, and the adapters stay what they are. -/
structure Grows (sight : Sight κ) (before after : κ) : Prop where
  plain : (sight.shown before).plain = (sight.shown after).plain
  there : ∀ path, sight.there before path = true → sight.there after path = true
  chips : ∀ id, ∀ chip ∈ ((sight.shown before).adapter id).chips,
    ∃ kept ∈ ((sight.shown after).adapter id).chips, kept.features = chip.features

theorem Grows.refl (state : κ) : sight.Grows state state :=
  ⟨rfl, fun _ h => h, fun _ chip hchip => ⟨chip, hchip, rfl⟩⟩

theorem Grows.trans (first : sight.Grows before between) (second : sight.Grows between after) :
    sight.Grows before after where
  plain := first.plain.trans second.plain
  there path h := second.there path (first.there path h)
  chips id chip hchip := by
    obtain ⟨kept, hkept, heq⟩ := first.chips id chip hchip
    obtain ⟨last, hlast, hsame⟩ := second.chips id kept hkept
    exact ⟨last, hlast, hsame.trans heq⟩

theorem Grows.of_eq (h : after = before) : sight.Grows before after := by
  rw [h]
  exact .refl before

/-- The forest has the adapters that are seen, and nothing is there yet where the chip would be. -/
structure Room (sight : Sight κ) (forest : Forest) (state : κ) (demand : Demand) : Prop where
  plain : forest.plain = (sight.shown state).plain
  free : sight.there state (forest.demandPath demand) = false

end Sight

/-- A machine to which chips can be added. What the kernel knows is changed by nothing but a write that is
accepted.  Where there is room for a chip, it depends on the directory and the value alone whether the write
that adds the chip is accepted, and if it is, the chip is there and nothing gets lost. -/
structure Act.Machine.Adds {μ κ : Type} (machine : Act.Machine μ) (kernel : μ → κ) (sight : Sight κ) :
    Prop where
  still : ∀ query world, query.write? = none → kernel (machine query world).2 = kernel world
  looks : ∀ world path, (machine (.present path) world).1 = sight.there (kernel world) path
  refused : ∀ world (write : Write) refusal,
    (machine write.query world).1 = (.error refusal : Except FileFailure Unit) →
      kernel (machine write.query world).2 = kernel world
  steady : ∀ forest demand first second, sight.Room forest (kernel first) demand →
    sight.Room forest (kernel second) demand →
      (machine (forest.demandWrite demand).query first).1 = (.ok () : Except FileFailure Unit) →
        (machine (forest.demandWrite demand).query second).1 = (.ok () : Except FileFailure Unit)
  added : ∀ forest demand world, sight.Room forest (kernel world) demand →
    (machine (forest.demandWrite demand).query world).1 = (.ok () : Except FileFailure Unit) →
      sight.there (kernel (machine (forest.demandWrite demand).query world).2) (forest.demandPath demand) =
        true ∧
      sight.Grows (kernel world) (kernel (machine (forest.demandWrite demand).query world).2)

namespace Context

variable {μ κ : Type} {machine : Act.Machine μ} {kernel : μ → κ} {sight : Sight κ} {world final : μ}
  {context after : Context} {entry : ExpectedChip} {entries : List ExpectedChip} {talk : List Exchange}
  {made : List Demand}

/-! ## One entry -/

/-- What comes of an entry, with the chips that are added for it. -/
inductive Supply (machine : Act.Machine μ) (kernel : μ → κ) (sight : Sight κ) (forest : Forest)
    (entry : ExpectedChip) (world final : μ) (talk : List Exchange) : List Demand → Prop
  /-- The entry does not say what is to be added, or where. -/
  | idle (hnothing : forest.wanted? entry = none) (hfinal : kernel final = kernel world)
      (haccepted : accepted talk = []) : Supply machine kernel sight forest entry world final talk []
  /-- Something is there already. -/
  | spared {demand : Demand} (hwanted : forest.wanted? entry = some demand)
      (hthere : sight.there (kernel world) (forest.demandPath demand) = true)
      (hfinal : kernel final = kernel world) (haccepted : accepted talk = []) :
      Supply machine kernel sight forest entry world final talk []
  | refused {demand : Demand} {between : μ} {refusal : FileFailure}
      (hwanted : forest.wanted? entry = some demand) (room : sight.Room forest (kernel between) demand)
      (hanswer : (machine (forest.demandWrite demand).query between).1 =
        (.error refusal : Except FileFailure Unit))
      (hsaid : Exchange.writing (forest.demandWrite demand) (.error refusal) ∈ talk)
      (hfinal : kernel final = kernel world) (haccepted : accepted talk = []) :
      Supply machine kernel sight forest entry world final talk []
  | added {demand : Demand} {between : μ} (hwanted : forest.wanted? entry = some demand)
      (room : sight.Room forest (kernel between) demand) (hbetween : kernel between = kernel world)
      (hanswer : (machine (forest.demandWrite demand).query between).1 =
        (.ok () : Except FileFailure Unit))
      (hfinal : kernel final = kernel (machine (forest.demandWrite demand).query between).2)
      (haccepted : accepted talk = [forest.demandWrite demand]) :
      Supply machine kernel sight forest entry world final talk [demand]

theorem exists_supply (adds : machine.Adds kernel sight)
    (hplain : context.forest.plain = (sight.shown (kernel world)).plain)
    (haddress : ∀ address, entry.address = some address → address ≤ ExpectedChip.maxAddress)
    {result : Option (Except Failure Nat)}
    (dialogue : (instantiateConfigured entry).run.Dialogue context talk result after)
    (answers : machine.Answers world talk final) :
    after = context ∧ ∃ made : List Demand, result = some (.ok made.length) ∧
      Supply machine kernel sight context.forest entry world final talk made := by
  obtain ⟨rfl, served⟩ := served_of_instantiateConfigured haddress dialogue
  refine ⟨rfl, ?_⟩
  cases served with
  | idle hnothing unasked =>
    have hwritten := written_of_unasked unasked
    exact ⟨[], rfl, .idle hnothing (answers.view_eq adds.still hwritten) (accepted_of_written hwritten)⟩
  | @attempted id name address first reports result hwanted attempt unasked =>
    obtain ⟨middle, hfirst, hreports⟩ := Act.Machine.answers_append_iff.mp answers
    have hwritten := written_of_unasked unasked
    have hfinal := hreports.view_eq adds.still hwritten
    have haccepted : accepted (first ++ reports) = accepted first := by
      rw [accepted_append, accepted_of_written hwritten, List.append_nil]
    cases attempt.attempted adds.still hfirst with
    | spared hfound hmiddle hnone =>
      rw [adds.looks] at hfound
      exact ⟨[], rfl, .spared hwanted hfound (hfinal.trans hmiddle) (haccepted.trans hnone)⟩
    | @refused between refusal failure hfound hbetween hanswer hmiddle hsaid hnone =>
      rw [adds.looks] at hfound
      have room : sight.Room after.forest (kernel between) (id, name, address) :=
        ⟨hbetween ▸ hplain, hbetween ▸ hfound⟩
      have hkept : kernel middle = kernel world :=
        (hmiddle ▸ adds.refused _ _ _ hanswer).trans hbetween
      exact ⟨[], rfl, .refused hwanted room hanswer (List.mem_append_left _ hsaid) (hfinal.trans hkept)
        (haccepted.trans hnone)⟩
    | @accepted between hfound hbetween hanswer hmiddle hone =>
      rw [adds.looks] at hfound
      have room : sight.Room after.forest (kernel between) (id, name, address) :=
        ⟨hbetween ▸ hplain, hbetween ▸ hfound⟩
      exact ⟨[_], rfl, .added hwanted room hbetween hanswer (hmiddle ▸ hfinal) (haccepted.trans hone)⟩

theorem Supply.grows {forest : Forest} (adds : machine.Adds kernel sight)
    (supply : Supply machine kernel sight forest entry world final talk made) :
    sight.Grows (kernel world) (kernel final) := by
  cases supply with
  | idle _ hfinal | spared _ _ hfinal | refused _ _ _ _ hfinal => exact .of_eq hfinal
  | added _ room hbetween hanswer hfinal =>
    rw [hfinal, ← hbetween]
    exact (adds.added forest _ _ room hanswer).2

/-! ## All entries -/

/-- What comes of entries one after the other. -/
inductive Supplies (machine : Act.Machine μ) (kernel : μ → κ) (sight : Sight κ) (forest : Forest) :
    List ExpectedChip → μ → List Exchange → List Demand → μ → Prop
  | nil {world : μ} : Supplies machine kernel sight forest [] world [] [] world
  | cons {entry : ExpectedChip} {entries : List ExpectedChip} {world between final : μ}
      {first rest : List Exchange} {made others : List Demand}
      (head : Supply machine kernel sight forest entry world between first made)
      (tail : Supplies machine kernel sight forest entries between rest others final) :
      Supplies machine kernel sight forest (entry :: entries) world (first ++ rest) (made ++ others) final

theorem exists_supplies (adds : machine.Adds kernel sight)
    (hplain : context.forest.plain = (sight.shown (kernel world)).plain)
    (haddress : ∀ entry ∈ entries, ∀ address, entry.address = some address →
      address ≤ ExpectedChip.maxAddress)
    {result : Option (Except Failure Nat)}
    (dialogue : (instantiateEach entries).run.Dialogue context talk result after)
    (answers : machine.Answers world talk final) :
    after = context ∧ ∃ made : List Demand, result = some (.ok made.length) ∧
      Supplies machine kernel sight context.forest entries world talk made final := by
  induction entries generalizing world final talk result after with
  | nil =>
    obtain ⟨rfl, rfl, rfl⟩ := Act.dialogue_done_iff.mp dialogue
    cases answers
    exact ⟨rfl, [], rfl, .nil⟩
  | cons entry rest ih =>
    obtain ⟨hentry, hrest⟩ := List.forall_mem_cons.mp haddress
    obtain ⟨added, _, first, later, between, rfl, head, hfirst, tail, hlater⟩ :=
      Op.exists_of_bind dialogue answers fun head answers => by
        obtain ⟨-, made, hadded, -⟩ := exists_supply adds hplain hentry head answers
        exact ⟨_, hadded⟩
    obtain ⟨rfl, made, hadded, supply⟩ := exists_supply adds hplain hentry head hfirst
    obtain rfl := Except.ok.inj (Option.some.inj hadded)
    have hbetween := hplain.trans (supply.grows adds).plain
    obtain ⟨number, _, second, closing, last, rfl, others, hsecond, closed, hclosing⟩ :=
      Op.exists_of_bind tail hlater fun others answers => by
        obtain ⟨-, more, hnumber, -⟩ := ih hbetween hrest others answers
        exact ⟨_, hnumber⟩
    obtain ⟨rfl, more, hnumber, supplies⟩ := ih hbetween hrest others hsecond
    obtain rfl := Except.ok.inj (Option.some.inj hnumber)
    obtain ⟨rfl, rfl, rfl⟩ := Act.dialogue_done_iff.mp closed
    cases hclosing
    rw [List.append_nil]
    exact ⟨rfl, made ++ more, by rw [List.length_append], .cons supply supplies⟩

namespace Supplies

variable {forest : Forest} {demand : Demand}

theorem grows (adds : machine.Adds kernel sight)
    (supplies : Supplies machine kernel sight forest entries world talk made final) :
    sight.Grows (kernel world) (kernel final) := by
  induction supplies with
  | nil => exact .refl _
  | cons head _ ih => exact (head.grows adds).trans ih

/-- What is accepted is what adds the chips. -/
theorem accepted_eq (supplies : Supplies machine kernel sight forest entries world talk made final) :
    accepted talk = made.map forest.demandWrite := by
  induction supplies with
  | nil => rfl
  | cons head _ ih =>
    rw [accepted_append, List.map_append, ih]
    congr 1
    cases head with
    | idle _ _ haccepted | spared _ _ _ haccepted | refused _ _ _ _ _ haccepted => exact haccepted
    | added _ _ _ _ _ haccepted => exact haccepted

/-- If no chip is added, nothing changes. -/
theorem kernel_eq (supplies : Supplies machine kernel sight forest entries world talk made final)
    (hmade : made = []) : kernel final = kernel world := by
  induction supplies with
  | nil => rfl
  | cons head _ ih =>
    obtain ⟨hfirst, hothers⟩ := List.append_eq_nil_iff.mp hmade
    rw [ih hothers]
    cases head with
    | idle _ hfinal | spared _ _ hfinal | refused _ _ _ _ hfinal => exact hfinal
    | added => cases hfirst

/-- No two chips are added at the same address of an adapter, and none where something was before. -/
theorem nodup (adds : machine.Adds kernel sight)
    (supplies : Supplies machine kernel sight forest entries world talk made final) :
    (made.map fun demand => (demand.1, demand.2.2)).Nodup ∧
      ∀ demand ∈ made, sight.there (kernel world) (forest.demandPath demand) = false := by
  induction supplies with
  | nil => exact ⟨.nil, nofun⟩
  | @cons _ _ world between _ _ _ made others head _ ih =>
    obtain ⟨hothers, hfree⟩ := ih
    have hkept : ∀ demand ∈ others, sight.there (kernel world) (forest.demandPath demand) = false := by
      intro demand hdemand
      by_contra hthere
      rw [Bool.not_eq_false] at hthere
      have hbetween := (head.grows adds).there _ hthere
      rw [hfree demand hdemand] at hbetween
      cases hbetween
    cases head with
    | idle | spared | refused => exact ⟨hothers, hkept⟩
    | @added demand _ _ room hbetween hanswer hfinal =>
      obtain ⟨hthere, -⟩ := adds.added forest demand _ room hanswer
      rw [← hfinal] at hthere
      have hfirst := room.free
      rw [hbetween] at hfirst
      refine ⟨List.nodup_cons.mpr ⟨fun hmem => ?_, hothers⟩, List.forall_mem_cons.mpr ⟨hfirst, hkept⟩⟩
      -- Another chip at the address would be where there is one already.
      obtain ⟨other, hother, hplace⟩ := List.mem_map.mp hmem
      have hpath : forest.demandPath other = forest.demandPath demand := by
        rw [Forest.demandPath, Forest.demandPath, congrArg Prod.fst hplace, congrArg Prod.snd hplace]
      have hnot := hfree other hother
      rw [hpath, hthere] at hnot
      cases hnot

/-- A chip that is added is wanted by an entry, and is accepted where there is room for it. -/
theorem of_mem (adds : machine.Adds kernel sight)
    (supplies : Supplies machine kernel sight forest entries world talk made final)
    (hmem : demand ∈ made) :
    (∃ entry ∈ entries, forest.wanted? entry = some demand) ∧ ∃ between,
      sight.Grows (kernel world) (kernel between) ∧ sight.Room forest (kernel between) demand ∧
        (machine (forest.demandWrite demand).query between).1 = (.ok () : Except FileFailure Unit) := by
  induction supplies with
  | nil => cases hmem
  | cons head _ ih =>
    obtain hmem | hmem := List.mem_append.mp hmem
    · cases head with
      | idle | spared | refused => cases hmem
      | added hwanted room hbetween hanswer =>
        obtain rfl := List.mem_singleton.mp hmem
        exact ⟨⟨_, List.mem_cons_self, hwanted⟩, _, .of_eq hbetween, room, hanswer⟩
    · obtain ⟨⟨entry, hentry, hwanted⟩, between, grows, hanswer⟩ := ih hmem
      exact ⟨⟨entry, List.mem_cons_of_mem _ hentry, hwanted⟩, between,
        (head.grows adds).trans grows, hanswer⟩

/-- Where an entry wants a chip, something is there in the end, or its write was refused although there was
room. -/
theorem supplied (adds : machine.Adds kernel sight)
    (supplies : Supplies machine kernel sight forest entries world talk made final)
    (hentry : entry ∈ entries) (hwanted : forest.wanted? entry = some demand) :
    sight.there (kernel final) (forest.demandPath demand) = true ∨
      ∃ between refusal, sight.Room forest (kernel between) demand ∧
        (machine (forest.demandWrite demand).query between).1 =
          (.error refusal : Except FileFailure Unit) ∧
        Exchange.writing (forest.demandWrite demand) (.error refusal) ∈ talk := by
  induction supplies with
  | nil => cases hentry
  | cons head tail ih =>
    obtain rfl | hentry := List.mem_cons.mp hentry
    · have hsame {other : Demand} (hother : forest.wanted? entry = some other) : demand = other :=
        Option.some.inj (hwanted.symm.trans hother)
      cases head with
      | idle hnothing => cases hwanted.symm.trans hnothing
      | spared hother hthere hfinal =>
        obtain rfl := hsame hother
        rw [← hfinal] at hthere
        exact .inl ((tail.grows adds).there _ hthere)
      | refused hother room hanswer hsaid =>
        obtain rfl := hsame hother
        exact .inr ⟨_, _, room, hanswer, List.mem_append_left _ hsaid⟩
      | added hother room _ hanswer hfinal =>
        obtain rfl := hsame hother
        obtain ⟨hthere, -⟩ := adds.added forest demand _ room hanswer
        rw [← hfinal] at hthere
        exact .inl ((tail.grows adds).there _ hthere)
    · obtain hthere | ⟨between, refusal, room, hanswer, hsaid⟩ := ih hentry
      · exact .inl hthere
      · exact .inr ⟨between, refusal, room, hanswer, List.mem_append_right _ hsaid⟩

end Supplies

/-! ## The call -/

/-- The entries whose adapter is there and whose chip is missing. -/
def missing (context : Context) : List ExpectedChip :=
  context.config.filter fun entry => entry.available && !entry.matched

/-- What comes of a call: the missing chips are added, and if any was, there is a scan afterwards. -/
structure Instantiated (machine : Act.Machine μ) (kernel : μ → κ) (sight : Sight κ) (context : Context)
    (world : μ) (talk : List Exchange) (made : List Demand) (after : Context) (final : μ) : Prop where
  supplies : ∃ front rest between, talk = front ++ rest ∧ written rest = [] ∧
    Supplies machine kernel sight context.forest context.missing world front made between ∧
    kernel final = kernel between
  unchanged : made = [] → after = context
  renewed : made ≠ [] → after = context.renewed (sight.shown (kernel final))

theorem exists_instantiated (shows : machine.ShowsForest context.settings (sight.shown ∘ kernel))
    (adds : machine.Adds kernel sight) (hready : context.readiness = .ready)
    (hplain : context.forest.plain = (sight.shown (kernel world)).plain)
    (haddress : ∀ entry ∈ context.config, ∀ address, entry.address = some address →
      address ≤ ExpectedChip.maxAddress)
    {result : Option (Except Failure Nat)}
    (dialogue : initializeAll.run.Dialogue context talk result after)
    (answers : machine.Answers world talk final) :
    ∃ made : List Demand, result = some (.ok made.length) ∧
      Instantiated machine kernel sight context world talk made after final := by
  unfold initializeAll at dialogue
  rw [run_ensureReady_bind, Act.dialogue_look_iff, obstacle?_eq_none_iff.mpr hready] at dialogue
  dsimp only at dialogue
  rw [Op.run_getState_bind, Act.dialogue_look_iff] at dialogue
  have hmissing : ∀ entry ∈ context.missing, ∀ address, entry.address = some address →
      address ≤ ExpectedChip.maxAddress :=
    fun entry hentry => haddress entry (List.mem_of_mem_filter hentry)
  obtain ⟨added, _, front, rest, between, rfl, head, hfront, tail, hrest⟩ :=
    Op.exists_of_bind dialogue answers fun head answers => by
      obtain ⟨-, made, hadded, -⟩ := exists_supplies adds hplain hmissing head answers
      exact ⟨_, hadded⟩
  obtain ⟨rfl, made, hadded, supplies⟩ := exists_supplies adds hplain hmissing head hfront
  obtain rfl := Except.ok.inj (Option.some.inj hadded)
  refine ⟨made, ?_⟩
  split at tail
  next hpositive =>
    have hmade : made ≠ [] := List.length_pos_iff.mp hpositive
    obtain ⟨_, _, scanned, closing, last, rfl, rescan, hscanned, closed, hclosing⟩ :=
      Op.exists_of_bind tail hrest fun rescan answers =>
        ⟨(), (rescan_of_showsForest shows hready rescan answers).1⟩
    obtain ⟨-, rfl, -⟩ := rescan_of_showsForest shows hready rescan hscanned
    obtain ⟨rfl, rfl, rfl⟩ := Act.dialogue_done_iff.mp closed
    cases hclosing
    have hwritten := writesNothing_rescan.written_eq_nil rescan
    have hkernel := hscanned.view_eq adds.still hwritten
    rw [List.append_nil]
    refine ⟨rfl, ⟨front, scanned, between, rfl, hwritten, supplies, hkernel⟩, fun h => absurd h hmade,
      fun _ => ?_⟩
    rw [hkernel]
    rfl
  next hnone =>
    obtain ⟨rfl, rfl, rfl⟩ := Act.dialogue_done_iff.mp tail
    cases hrest
    have hmade : made = [] := List.length_eq_zero_iff.mp (Nat.eq_zero_of_not_pos hnone)
    exact ⟨rfl, ⟨front, [], _, rfl, rfl, supplies, rfl⟩, fun _ => rfl, fun h => absurd hmade h⟩

/-- Flags that are up to date are those of a reconciliation, entry by entry. -/
theorem UpToDate.reconcileEntry_eq (h : context.UpToDate) (hentry : entry ∈ context.config) :
    context.forest.reconcileEntry entry = entry := by
  rw [h] at hentry
  obtain ⟨origin, -, rfl⟩ := List.mem_map.mp hentry
  exact context.forest.reconcileEntry_idem origin

/-- What is missing after a scan that has lost nothing was missing before. -/
theorem exists_missing_of_renewed {forest : Forest} (huptodate : context.UpToDate)
    (hplain : context.forest.plain = forest.plain)
    (hchips : ∀ id, ∀ chip ∈ (context.forest.adapter id).chips,
      ∃ kept ∈ (forest.adapter id).chips, kept.features = chip.features)
    (hentry : entry ∈ (context.renewed forest).missing) :
    ∃ origin ∈ context.missing, forest.wanted? entry = context.forest.wanted? origin := by
  obtain ⟨hmem, hflags⟩ := List.mem_filter.mp hentry
  obtain ⟨origin, horigin, rfl⟩ := List.mem_map.mp hmem
  have hid := Forest.entryAdapter?_eq_of_plain_eq hplain origin
  have hfixed := huptodate.reconcileEntry_eq horigin
  rw [Forest.reconcileEntry_eq] at hflags hfixed
  simp only [Bool.and_eq_true, Bool.not_eq_true'] at hflags
  obtain ⟨havailable, hmatched⟩ := hflags
  refine ⟨origin, List.mem_filter.mpr ⟨horigin, ?_⟩, ?_⟩
  · rw [← hid] at havailable hmatched
    rw [← hfixed]
    simp only [Bool.and_eq_true, Bool.not_eq_true']
    refine ⟨havailable, ?_⟩
    -- A chip that matched the entry before would still match it.
    cases hadapter : context.forest.entryAdapter? origin with
    | none => rfl
    | some id =>
      rw [hadapter, Option.any_some, List.any_eq_false] at hmatched
      rw [Option.any_some, List.any_eq_false]
      intro chip hchip
      obtain ⟨kept, hkept, hfeatures⟩ := hchips id chip hchip
      rw [← Chip.satisfies_eq_of_features_eq hfeatures]
      exact hmatched kept hkept
  · rw [← Forest.wanted?_eq_of_plain_eq hplain, Forest.reconcileEntry_eq]
    rfl

namespace Instantiated

theorem grows (adds : machine.Adds kernel sight)
    (h : Instantiated machine kernel sight context world talk made after final) :
    sight.Grows (kernel world) (kernel final) := by
  obtain ⟨_, _, between, -, -, supplies, hfinal⟩ := h.supplies
  rw [hfinal]
  exact supplies.grows adds

/-- The context stays in step with the machine. -/
theorem plain_eq (adds : machine.Adds kernel sight)
    (hplain : context.forest.plain = (sight.shown (kernel world)).plain)
    (h : Instantiated machine kernel sight context world talk made after final) :
    after.readiness = context.readiness ∧ after.settings = context.settings ∧
      context.forest.plain = after.forest.plain ∧
      after.forest.plain = (sight.shown (kernel final)).plain := by
  have hfinal := hplain.trans (h.grows adds).plain
  by_cases hmade : made = []
  · obtain rfl := h.unchanged hmade
    exact ⟨rfl, rfl, rfl, hfinal⟩
  · obtain rfl := h.renewed hmade
    exact ⟨rfl, rfl, hfinal, rfl⟩

theorem exists_missing (adds : machine.Adds kernel sight) (huptodate : context.UpToDate)
    (alike : context.forest.Alike (sight.shown (kernel world)))
    (h : Instantiated machine kernel sight context world talk made after final)
    (hentry : entry ∈ after.missing) :
    ∃ origin ∈ context.missing, after.forest.wanted? entry = context.forest.wanted? origin := by
  by_cases hmade : made = []
  · obtain rfl := h.unchanged hmade
    exact ⟨entry, hentry, rfl⟩
  · obtain rfl := h.renewed hmade
    refine exists_missing_of_renewed huptodate (alike.plain.trans (h.grows adds).plain) ?_ hentry
    intro id chip hchip
    rw [alike.chips] at hchip
    exact (h.grows adds).chips id chip hchip

/-- What was not added by the first call is not added by a second. -/
theorem made_again (adds : machine.Adds kernel sight) (huptodate : context.UpToDate)
    (alike : context.forest.Alike (sight.shown (kernel world))) {again : List Exchange}
    {more : List Demand} {later : Context} {last : μ}
    (first : Instantiated machine kernel sight context world talk made after final)
    (second : Instantiated machine kernel sight after final again more later last) : more = [] := by
  apply List.eq_nil_iff_forall_not_mem.mpr
  intro demand hdemand
  obtain ⟨_, _, _, -, -, others, -⟩ := second.supplies
  obtain ⟨⟨entry, hentry, hwanted⟩, between, grows, room, hanswer⟩ := others.of_mem adds hdemand
  obtain ⟨-, -, hplain, -⟩ := first.plain_eq adds alike.plain
  have hpath : context.forest.demandPath = after.forest.demandPath := by
    funext demand
    rw [Forest.demandPath, Forest.demandPath, Forest.chipPath_eq_of_plain_eq hplain]
  have hwrite : context.forest.demandWrite = after.forest.demandWrite := by
    funext demand
    rw [Forest.demandWrite, Forest.demandWrite, Forest.addition_eq_of_plain_eq hplain]
  obtain ⟨origin, horigin, hsame⟩ := first.exists_missing adds huptodate alike hentry
  obtain ⟨_, _, middle, -, -, supplies, hfinal⟩ := first.supplies
  -- An entry of the first call wanted the same chip.
  obtain hthere | ⟨refusing, refusal, hroom, hrefused, -⟩ :=
    supplies.supplied adds horigin (hsame.symm.trans hwanted)
  · rw [← hfinal] at hthere
    have hlater := grows.there _ hthere
    rw [hpath, room.free] at hlater
    cases hlater
  · rw [hwrite] at hrefused
    have hsteady := adds.steady after.forest demand between refusing room
      ⟨hplain ▸ hroom.plain, hpath ▸ hroom.free⟩ hanswer
    cases hrefused.symm.trans hsteady

end Instantiated

/-! ## A bench with a socket -/

/-- The bench with a socket for a temperature sensor. Its state tells whether the sensor is plugged in, and
what is written may plug it in. -/
def socketMachine (query : Query) (plugged : Bool) : query.Answer × Bool :=
  match query with
  | .present path => (plugged && path == (benchForest none).chipPath 0 0x48, plugged)
  | .writeAttribute dir name value =>
    if Write.mk dir name value = (benchForest none).addition 0 "bench" 0x48 then (.ok (), true)
    else (.error (.refused .noEntry), plugged)
  | .standardInput => (.ok "*-i2c-*-72\nbench-i2c-0-0x48", plugged)
  | query =>
    (((if plugged then Forest.sensorMachine else benchMachine) query fun _ => none).1, plugged)

/-- What a scan finds on that bench. -/
def socketForest (plugged : Bool) : Forest :=
  if plugged then Forest.sensorForest else benchForest none

theorem showsForest_socketMachine : Act.Machine.ShowsForest socketMachine {} socketForest where
  scan context plugged := by
    cases plugged <;> with_unfolding_all rfl
  still query plugged h := by
    cases query with
    | writeAttribute => cases h
    | _ => rfl

/-- The context that an initialization leaves while the socket is empty. -/
def socketContext : Context where
  settings := {}
  readiness := .ready
  forest := socketForest false
  config := [
    { name := none, bus := {}, address := some 0x48, origin := ⟨"<stdin>", 1⟩ },
    { name := some "bench", bus := { nr := some 0, path := some "0" }, address := some 0x48,
      origin := ⟨"<stdin>", 2⟩, available := true }]

theorem history_socketContext : ∃ ends, History {} [⟨.init .standardInput, ends⟩] socketContext := by
  have hrun : ((Call.init .standardInput).op.run.run socketMachine (.fresh {}) false).2.1 =
      socketContext := by
    with_unfolding_all rfl
  exact History.start.run socketMachine _ (.init .standardInput) hrun

/-- What can be seen of the bench with the socket. -/
def socketSight : Sight Bool where
  shown := socketForest
  there plugged path := plugged && path == (benchForest none).chipPath 0 0x48

theorem plain_socketForest (plugged : Bool) : (socketForest plugged).plain = (benchForest none).plain := by
  cases plugged <;> with_unfolding_all rfl

/-- The bench has one adapter, so what is written tells where the chip is to be. -/
theorem place_of_addition_socket {id : AdapterId} {name : String} {address : UInt16}
    (h : (benchForest none).addition id name address = (benchForest none).addition 0 "bench" 0x48) :
    id = 0 ∧ address = 0x48 := by
  refine ⟨?_, address_eq_of_addition_eq h⟩
  cases id with
  | zero => rfl
  | succ id =>
    have hdir : "" = "/sys/devices/i2c-0" := congrArg (fun write : Write => write.dir.text) h
    exact absurd hdir (by decide)

theorem adds_socketMachine : Act.Machine.Adds socketMachine id socketSight := by
  have hanswer (write : Write) (first second : Bool) :
      (socketMachine write.query first).1 = (socketMachine write.query second).1 := by
    simp only [Write.query, socketMachine]
    split <;> rfl
  refine ⟨fun query plugged h => ?_, fun _ _ => rfl, fun plugged write refusal h => ?_,
    fun forest demand first second _ _ h => (hanswer _ second first).trans h,
    fun forest demand plugged room h => ?_⟩
  · cases query with
    | writeAttribute => cases h
    | _ => rfl
  · simp only [Write.query, socketMachine] at h ⊢
    split at h
    · cases h
    next hadds => rw [if_neg hadds]
  · -- Nothing that adds a chip is accepted but what adds the sensor.
    have hplain : forest.plain = (benchForest none).plain := room.plain.trans (plain_socketForest plugged)
    have hwrite : forest.demandWrite demand = (benchForest none).addition 0 "bench" 0x48 := by
      simp only [Write.query, socketMachine] at h
      split at h
      next hadds => exact hadds
      next => cases h
    have hplace := hwrite
    rw [Forest.demandWrite, Forest.addition_eq_of_plain_eq hplain] at hplace
    obtain ⟨hid, haddress⟩ := place_of_addition_socket hplace
    have hpath : forest.demandPath demand = (benchForest none).chipPath 0 0x48 := by
      rw [Forest.demandPath, Forest.chipPath_eq_of_plain_eq hplain, hid, haddress]
    have hplugged : (socketMachine (forest.demandWrite demand).query plugged).2 = true := by
      rw [hwrite]
      simp only [Write.query, socketMachine]
      rfl
    rw [hplugged, hpath]
    refine ⟨by simp [socketSight], ⟨?_, fun path hpath => ?_, fun other chip hchip => ?_⟩⟩
    · exact (plain_socketForest plugged).trans (plain_socketForest true).symm
    · exact Bool.and_eq_true_iff.mpr ⟨rfl, (Bool.and_eq_true_iff.mp hpath).2⟩
    · cases plugged with
      | true => exact ⟨chip, hchip, rfl⟩
      | false => cases other <;> cases hchip

/-! ## Every addition of missing chips -/

/-- **All missing chips are added, once.**  Take any history of a ready context with flags that are up to
date, on a machine that shows the forest of the context and to which chips can be added.  The addition of all
missing chips comes to its end, and

* its result is the number of writes that were accepted, no two of which were for the same address of an
  adapter;
* for every entry with a name and an address whose adapter is there and which was not matched, something is
  in the place of its chip in the end, or the write that adds the chip was refused;
* the same call again gives zero, leaves the context as it is, and changes nothing for the kernel. -/
theorem initializeAll_complete {settings : Settings} {steps : List Step}
    (history : History settings steps context) (hready : context.readiness = .ready)
    (huptodate : context.UpToDate)
    (shows : machine.ShowsForest context.settings (sight.shown ∘ kernel))
    (adds : machine.Adds kernel sight) (alike : context.forest.Alike (sight.shown (kernel world))) :
    ∃ (made : List Demand) (talk : List Exchange) (after : Context) (final : μ),
      initializeAll.run.run machine context world = (some (.ok made.length), after, final) ∧
      initializeAll.run.Dialogue context talk (some (.ok made.length)) after ∧
      machine.Answers world talk final ∧
      accepted talk = made.map context.forest.demandWrite ∧
      (made.map fun demand => (demand.1, demand.2.2)).Nodup ∧
      (∀ entry ∈ context.config, entry.available = true → entry.matched = false →
        ∀ name address, entry.name = some name → entry.address = some address →
          ∃ id, context.forest.entryAdapter? entry = some id ∧
            (sight.there (kernel final) (context.forest.chipPath id address) = true ∨
              ∃ refusal,
                Exchange.writing (context.forest.addition id name address) (.error refusal) ∈ talk)) ∧
      ∃ last, initializeAll.run.run machine after final = (some (.ok 0), after, last) ∧
        kernel last = kernel final := by
  have haddress {steps : List Step} {context : Context} (history : History settings steps context) :
      ∀ entry ∈ context.config, ∀ address, entry.address = some address →
        address ≤ ExpectedChip.maxAddress :=
    fun entry hentry address => (history.declared entry hentry).address_le
  generalize hrun : initializeAll.run.run machine context world = run
  obtain ⟨result, after, final⟩ := run
  obtain ⟨talk, dialogue, answers⟩ := Act.run_eq_iff.mp hrun
  obtain ⟨ends, hafter⟩ := history.run machine world .initializeAll (congrArg (·.2.1) hrun)
  obtain ⟨made, rfl, first⟩ :=
    exists_instantiated shows adds hready alike.plain (haddress history) dialogue answers
  obtain ⟨front, rest, between, htalk, hwritten, supplies, hfinal⟩ := first.supplies
  obtain ⟨hkeeps, hsettings, -, hplain⟩ := first.plain_eq adds alike.plain
  refine ⟨made, talk, after, final, rfl, dialogue, answers, ?_, (supplies.nodup adds).1,
    fun entry hentry havailable hmatched name address hname hnumber => ?_, ?_⟩
  · rw [htalk, accepted_append, accepted_of_written hwritten, List.append_nil, supplies.accepted_eq]
  · have hid : (context.forest.entryAdapter? entry).isSome = true := by
      rw [← huptodate.reconcileEntry_eq hentry, Forest.reconcileEntry_eq] at havailable
      exact havailable
    obtain ⟨id, hid⟩ := Option.isSome_iff_exists.mp hid
    have hmissing : entry ∈ context.missing :=
      List.mem_filter.mpr ⟨hentry, by rw [havailable, hmatched]; rfl⟩
    refine ⟨id, hid, ?_⟩
    rw [hfinal, htalk]
    obtain hthere | ⟨_, refusal, -, -, hsaid⟩ :=
      supplies.supplied adds hmissing (Forest.wanted?_eq_some_iff.mpr ⟨hid, hname, hnumber⟩)
    · exact .inl hthere
    · exact .inr ⟨refusal, List.mem_append_left _ hsaid⟩
  · generalize hagain : initializeAll.run.run machine after final = run
    obtain ⟨outcome, later, last⟩ := run
    obtain ⟨again, repeated, answered⟩ := Act.run_eq_iff.mp hagain
    obtain ⟨more, rfl, second⟩ := exists_instantiated (hsettings ▸ shows) adds (hkeeps.trans hready)
      hplain (haddress hafter) repeated answered
    obtain rfl := first.made_again adds huptodate alike second
    obtain rfl := second.unchanged rfl
    obtain ⟨_, _, middle, -, -, others, hlast⟩ := second.supplies
    exact ⟨last, rfl, hlast.trans (others.kernel_eq rfl)⟩

/-- The sensor is added to the bench, and not a second time. -/
theorem initializeAll_complete_socket : ∃ steps after,
    History {} steps socketContext ∧
      initializeAll.run.run socketMachine socketContext false = (some (.ok 1), after, true) ∧
      initializeAll.run.run socketMachine after true = (some (.ok 0), after, true) := by
  obtain ⟨ends, history⟩ := history_socketContext
  have huptodate : socketContext.UpToDate := by with_unfolding_all rfl
  obtain ⟨made, talk, after, final, hrun, -, -, -, -, -, last, hagain, hlast⟩ :=
    initializeAll_complete history rfl huptodate showsForest_socketMachine adds_socketMachine (.refl _)
  have hresult : (initializeAll.run.run socketMachine socketContext false).1 = some (.ok 1) := by
    with_unfolding_all rfl
  have hfinal : (initializeAll.run.run socketMachine socketContext false).2.2 = true := by
    with_unfolding_all rfl
  rw [hrun] at hresult hfinal
  obtain rfl : final = true := hfinal
  obtain rfl : last = true := hlast
  have hmade : made.length = 1 := Except.ok.inj (Option.some.inj hresult)
  rw [hmade] at hrun
  exact ⟨_, after, history, hrun, hagain⟩

end Context
end I2cTopology
