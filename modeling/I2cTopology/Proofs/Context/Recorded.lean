import I2cTopology.Proofs.Context.Rescan

/-!
# Runs with their rescans on record

An operation may scan again in its middle, even several times. A recorded run tells how each of these
rescans ended. Whatever else it stores is bound to be calm: only a rescan makes a context busy or counts
itself, and a context that is not ready stays without a forest.
-/

namespace I2cTopology

namespace Context

/-- How a rescan ended. -/
inductive RescanEnd where
  | succeeded
  | failed
  | brokenOff
  deriving DecidableEq, Repr

/-- The end of a rescan with an outcome. -/
def RescanEnd.of : Except Failure Unit → RescanEnd
  | .ok _ => succeeded
  | .error _ => failed

/-- The end of a rescan with a result, if it has one. -/
def RescanEnd.ofResult : Option (Except Failure Unit) → RescanEnd
  | none => brokenOff
  | some outcome => of outcome

/-- A context that is not ready has no forest and no configuration. -/
def Vacant (context : Context) : Prop :=
  context.readiness = .notReady → context.forest = .empty ∧ context.config = []

/-- A change that is no part of a rescan. -/
structure Calm (before after : Context) : Prop where
  rescans : after.rescans = before.rescans
  busy : after.readiness = .busy → before.readiness = .busy
  vacant : before.Vacant → after.Vacant

/-- The runs of an act, with the ends of the rescans in it. What a rescan does to the state cannot be
stored outside of one, so none of them goes unrecorded. -/
inductive Recorded {α : Type} :
    Act Context α → Context → List Query → List RescanEnd → Option α → Context → Prop
  | done {result : α} {context : Context} :
      Recorded (.done result) context [] [] (some result) context
  | ask {query : Query} {next : query.Answer → Act Context α} {before after : Context}
      {asked : List Query} {ends : List RescanEnd} {result : Option α} (answer : query.Answer)
      (rest : Recorded (next answer) before asked ends result after) :
      Recorded (.ask query next) before (query :: asked) ends result after
  | broken {query : Query} {next : query.Answer → Act Context α} {context : Context}
      (breaks : query.isReport = false) :
      Recorded (.ask query next) context [query] [] none context
  | look {next : Context → Act Context α} {before after : Context} {asked : List Query}
      {ends : List RescanEnd} {result : Option α}
      (rest : Recorded (next before) before asked ends result after) :
      Recorded (.look next) before asked ends result after
  | store {next : Act Context α} {before between after : Context} {asked : List Query}
      {ends : List RescanEnd} {result : Option α} (calm : Calm before between)
      (rest : Recorded next between asked ends result after) :
      Recorded (.store between next) before asked ends result after
  | abort {context : Context} : Recorded .abort context [] [] none context
  /-- A rescan comes to its end, and the act goes on. -/
  | rescanned {next : Except Failure Unit → Act Context α} {before between after : Context}
      {first others : List Query} {ends : List RescanEnd} {result : Option α}
      {outcome : Except Failure Unit} (head : rescan.run.Runs before first (some outcome) between)
      (rest : Recorded (next outcome) between others ends result after) :
      Recorded (rescan.run.bind next) before (first ++ others) (.of outcome :: ends) result after
  /-- A rescan is broken off, and with it the act. -/
  | rescanBroken {next : Except Failure Unit → Act Context α} {before after : Context}
      {asked : List Query} (head : rescan.run.Runs before asked none after) :
      Recorded (rescan.run.bind next) before asked [.brokenOff] none after

variable {α β τ : Type} {act : Act Context α} {before between after context : Context}
  {asked : List Query} {ends : List RescanEnd} {result : Option α}

/-! ## What a recorded run does to the state -/

namespace Recorded

/-- A recorded run is a run. -/
theorem runs (run : Recorded act before asked ends result after) :
    act.Runs before asked result after := by
  induction run with
  | done => exact .done
  | ask answer _ ih => exact .ask answer ih
  | broken breaks => exact .broken breaks
  | look _ ih => exact .look ih
  | store _ _ ih => exact .store ih
  | abort => exact .abort
  | rescanned head _ ih => exact head.bind ih
  | rescanBroken head => exact head.bind_broken

/-- The counter goes up by one for each rescan that succeeded. -/
theorem rescans_eq (run : Recorded act before asked ends result after) :
    after.rescans = before.rescans + ends.count .succeeded := by
  induction run with
  | done => rfl
  | ask _ _ ih => exact ih
  | broken => rfl
  | look _ ih => exact ih
  | store calm _ ih => rw [ih, calm.rescans]
  | abort => rfl
  | rescanned head _ ih =>
    rw [ih]
    cases rescanned_of_runs head with
    | failed failure => simp [RescanEnd.of]
    | succeeded forest =>
      simp [RescanEnd.of, renewed]
      omega
  | rescanBroken head =>
    cases rescanned_of_runs head with
    | brokenOff => rfl

/-- Only a rescan that is broken off makes a context busy. -/
theorem brokenOff_mem (run : Recorded act before asked ends result after)
    (hbusy : after.readiness = .busy) : before.readiness = .busy ∨ .brokenOff ∈ ends := by
  induction run with
  | done => exact .inl hbusy
  | ask _ _ ih => exact ih hbusy
  | broken => exact .inl hbusy
  | look _ ih => exact ih hbusy
  | store calm _ ih => exact (ih hbusy).imp_left calm.busy
  | abort => exact .inl hbusy
  | rescanned head _ ih =>
    cases rescanned_of_runs head with
    | failed failure => exact (ih hbusy).imp_right (List.mem_cons_of_mem _)
    | succeeded forest => exact (ih hbusy).imp_right (List.mem_cons_of_mem _)
  | rescanBroken => exact .inr List.mem_cons_self

/-- A rescan that is broken off is the last thing that happens. -/
theorem busy_of_brokenOff (run : Recorded act before asked ends result after)
    (hend : .brokenOff ∈ ends) : after.readiness = .busy := by
  induction run with
  | done => cases hend
  | ask _ _ ih => exact ih hend
  | broken => cases hend
  | look _ ih => exact ih hend
  | store _ _ ih => exact ih hend
  | abort => cases hend
  | @rescanned _ _ _ _ _ _ _ _ outcome _ _ ih =>
    -- A rescan with an outcome was not broken off, so it was a later one.
    refine ih ((List.mem_cons.mp hend).resolve_left fun h => ?_)
    cases outcome <;> cases h
  | rescanBroken head =>
    cases rescanned_of_runs head with
    | brokenOff => rfl

/-- A context that is not ready has no forest at the end if it had none at the start. -/
theorem vacant (run : Recorded act before asked ends result after) (hvacant : before.Vacant) :
    after.Vacant := by
  induction run with
  | done => exact hvacant
  | ask _ _ ih => exact ih hvacant
  | broken => exact hvacant
  | look _ ih => exact ih hvacant
  | store calm _ ih => exact ih (calm.vacant hvacant)
  | abort => exact hvacant
  | rescanned head _ ih =>
    cases rescanned_of_runs head with
    | failed failure => exact ih hvacant
    | succeeded forest hready => exact ih fun hnot => nomatch hready.symm.trans hnot
  | rescanBroken head =>
    cases rescanned_of_runs head with
    | brokenOff => exact fun hnot => nomatch hnot

/-! ## Recorded runs one after the other -/

theorem bind {f : α → Act Context β} {a : α} {first others : List Query}
    {firstEnds otherEnds : List RescanEnd} {result : Option β}
    (head : Recorded act before first firstEnds (some a) between)
    (tail : Recorded (f a) between others otherEnds result after) :
    Recorded (act.bind f) before (first ++ others) (firstEnds ++ otherEnds) result after := by
  generalize hresult : some a = found at head
  induction head with
  | done =>
    obtain rfl := Option.some.inj hresult
    exact tail
  | ask answer _ ih => exact .ask answer (ih tail hresult)
  | broken => cases hresult
  | look _ ih => exact .look (ih tail hresult)
  | store calm _ ih => exact .store calm (ih tail hresult)
  | abort => cases hresult
  | rescanned head _ ih =>
    -- What goes on after the rescan now has the second act behind it.
    rw [Act.bind_assoc, List.append_assoc]
    exact .rescanned head (ih tail hresult)
  | rescanBroken => cases hresult

theorem bind_broken {f : α → Act Context β} (head : Recorded act before asked ends none after) :
    Recorded (act.bind f) before asked ends none after := by
  generalize hresult : none = found at head
  induction head with
  | done => cases hresult
  | ask answer _ ih => exact .ask answer (ih hresult)
  | broken breaks => exact .broken breaks
  | look _ ih => exact .look (ih hresult)
  | store calm _ ih => exact .store calm (ih hresult)
  | abort => exact .abort
  | rescanned head _ ih =>
    rw [Act.bind_assoc]
    exact .rescanned head (ih hresult)
  | rescanBroken head =>
    rw [Act.bind_assoc]
    exact .rescanBroken head

theorem andThen {op : Op Context α} {f : α → Op Context β} {a : α} {first others : List Query}
    {firstEnds otherEnds : List RescanEnd} {result : Option (Except Failure β)}
    (head : Recorded op.run before first firstEnds (some (.ok a)) between)
    (tail : Recorded (f a).run between others otherEnds result after) :
    Recorded (op >>= f).run before (first ++ others) (firstEnds ++ otherEnds) result after := by
  rw [Op.run_bind]
  exact head.bind tail

theorem andThen_failed {op : Op Context α} {f : α → Op Context β} {failure : Failure}
    (head : Recorded op.run before asked ends (some (.error failure)) after) :
    Recorded (op >>= f).run before asked ends (some (.error failure)) after := by
  rw [Op.run_bind, ← List.append_nil asked, ← List.append_nil ends]
  exact head.bind .done

theorem andThen_broken {op : Op Context α} {f : α → Op Context β}
    (head : Recorded op.run before asked ends none after) :
    Recorded (op >>= f).run before asked ends none after := by
  rw [Op.run_bind]
  exact head.bind_broken

/-- A rescan is on record with its own end. -/
theorem of_rescan {result : Option (Except Failure Unit)}
    (run : rescan.run.Runs before asked result after) :
    Recorded rescan.run before asked [.ofResult result] result after := by
  -- The rescan is all there is, so nothing goes on after it.
  rw [← Act.bind_done rescan.run]
  cases result with
  | none => exact .rescanBroken run
  | some outcome =>
    rw [← List.append_nil asked]
    exact .rescanned run .done

/-! ## Acts without a rescan -/

theorem of_readOnly (readOnly : act.ReadOnly) (run : act.Runs before asked result after) :
    Recorded act before asked [] result after := by
  induction run with
  | done => exact .done
  | ask answer _ ih => cases readOnly with | ask rest => exact .ask answer (ih (rest answer))
  | broken breaks => exact .broken breaks
  | look _ ih => cases readOnly with | look rest => exact .look (ih (rest _))
  | store => cases readOnly
  | abort => exact .abort

theorem of_within {view : Context → τ} {update : τ → Context → Context} {act : Act τ α}
    (calm : ∀ part context, Calm context (update part context))
    (run : (act.within view update).Runs before asked result after) :
    Recorded (act.within view update) before asked [] result after := by
  induction act generalizing before asked with
  | done a => cases run with | done => exact .done
  | ask query next ih =>
    cases run with
    | ask answer rest => exact .ask answer (ih answer rest)
    | broken breaks => exact .broken breaks
  | look next ih => cases run with | look rest => exact .look (ih _ rest)
  | store part next ih =>
    cases run with
    | look rest => cases rest with | store rest => exact .look (.store (calm part _) (ih rest))
  | abort => cases run with | abort => exact .abort

end Recorded

/-- No run of the act makes a rescan. -/
def Quiet (act : Act Context α) : Prop :=
  ∀ before asked result after, act.Runs before asked result after →
    Recorded act before asked [] result after

namespace Quiet

theorem of_readOnly {act : Act Context α} (readOnly : act.ReadOnly) : Quiet act :=
  fun _ _ _ _ run => .of_readOnly readOnly run

theorem bind {act : Act Context α} {f : α → Act Context β} (head : Quiet act)
    (tail : ∀ a, Quiet (f a)) : Quiet (act.bind f) := by
  intro before asked result after run
  obtain ⟨a, between, first, rest, rfl, hhead, htail⟩ | ⟨rfl, hhead⟩ := Act.runs_bind_iff.mp run
  · exact (head _ _ _ _ hhead).bind (tail a _ _ _ _ htail)
  · exact (head _ _ _ _ hhead).bind_broken

theorem andThen {op : Op Context α} {f : α → Op Context β} (head : Quiet op.run)
    (tail : ∀ a, Quiet (f a).run) : Quiet (op >>= f).run := by
  rw [Op.run_bind]
  refine head.bind fun outcome => ?_
  cases outcome with
  | error failure => exact of_readOnly .done
  | ok a => exact tail a

theorem modifyState {change : Context → Context} (calm : ∀ context, Calm context (change context)) :
    Quiet (Op.modifyState change).run := by
  intro before asked result after run
  obtain ⟨rfl, rfl, rfl⟩ := Op.runs_modifyState_iff.mp run
  exact .look (.store (calm before) .done)

end Quiet

/-! ## Calm changes -/

theorem calm_cleanedUp (context : Context) : Calm context context.cleanedUp where
  rescans := rfl
  busy := fun h => nomatch h
  vacant := fun _ _ => ⟨rfl, rfl⟩

theorem calm_ready (context : Context) (forest : Forest) (config : List ExpectedChip) :
    Calm context { context with forest := forest, config := config, readiness := .ready } where
  rescans := rfl
  busy := fun h => nomatch h
  vacant := fun _ h => nomatch h

theorem calm_invalidated (context : Context) : Calm context { context with invalidated := true } where
  rescans := rfl
  busy := id
  vacant := id

theorem calm_modify (context : Context) (id : AdapterId) (change : Adapter → Adapter) :
    Calm context { context with forest := context.forest.modify id change } where
  rescans := rfl
  busy := fun h => h
  vacant := fun hvacant hnot => by
    obtain ⟨hforest, hconfig⟩ := hvacant hnot
    refine ⟨?_, hconfig⟩
    show context.forest.modify id change = .empty
    rw [hforest]
    rfl

theorem calm_markMatched (context : Context) (position : Nat) :
    Calm context { context with config := Forest.markMatched context.config position } where
  rescans := rfl
  busy := id
  vacant := fun hvacant hnot => by
    obtain ⟨hforest, hconfig⟩ := hvacant hnot
    refine ⟨hforest, ?_⟩
    simp [hconfig, Forest.markMatched]

end Context
end I2cTopology
