import I2cTopology.Proofs.Runs

/-!
# Acts that come to their end

What an act ensures holds of its result if there is one.  What an act yields on a machine, it has in any
case: whatever states the machine and the act start from, the act comes to its end there, with a result that
has the property.

* `yields_bind_iff`: two acts yield what the second yields from each result of the first.
* `Yields.run`: what is yielded holds of every run on the machine.
-/

namespace I2cTopology

namespace Act

variable {σ α β γ μ : Type} {machine : Machine μ} {P Q : α → Prop}

/-- On the machine the act comes to its end with a result that has the property. -/
def Yields (machine : Machine μ) (P : α → Prop) : Act σ α → Prop
  | done result => P result
  | ask query next => ∀ world, (next (machine query world).1).Yields machine P
  | look next => ∀ state, (next state).Yields machine P
  | store _ next => next.Yields machine P
  | abort => False

theorem Yields.run {act : Act σ α} (yields : act.Yields machine P) (state : σ) (world : μ) :
    ∃ result after final, act.run machine state world = (some result, after, final) ∧ P result := by
  induction act generalizing state world with
  | done result => exact ⟨result, state, world, rfl, yields⟩
  | ask query next ih => exact ih _ (yields world) state _
  | look next ih => exact ih _ (yields state) state world
  | store other next ih => exact ih yields other world
  | abort => exact absurd yields id

theorem Yields.mono {act : Act σ α} (yields : act.Yields machine P) (weaker : ∀ a, P a → Q a) :
    act.Yields machine Q := by
  induction act with
  | done result => exact weaker result yields
  | ask query next ih => exact fun world => ih _ (yields world)
  | look next ih => exact fun state => ih state (yields state)
  | store state next ih => exact ih yields
  | abort => exact yields

theorem yields_bind_iff {act : Act σ α} {f : α → Act σ β} {P : β → Prop} :
    (act.bind f).Yields machine P ↔ act.Yields machine fun a => (f a).Yields machine P := by
  induction act with
  | done result => exact Iff.rfl
  | ask query next ih => exact forall_congr' fun world => ih _
  | look next ih => exact forall_congr' ih
  | store state next ih => exact ih
  | abort => exact Iff.rfl

theorem Yields.bind {act : Act σ α} {f : α → Act σ β} {P : β → Prop} (head : act.Yields machine Q)
    (tail : ∀ a, Q a → (f a).Yields machine P) : (act.bind f).Yields machine P :=
  yields_bind_iff.mpr (head.mono tail)

/-! ## Questions -/

theorem yields_ask {query : Query} {next : query.Answer → Act σ α} {answer : query.Answer}
    (hanswer : ∀ world, (machine query world).1 = answer) (tail : (next answer).Yields machine P) :
    (ask query next).Yields machine P :=
  fun world => (hanswer world).symm ▸ tail

/-- The answer to a question does not matter. -/
theorem yields_ask_of_forall {query : Query} {next : query.Answer → Act σ α}
    (tail : ∀ answer, (next answer).Yields machine P) : (ask query next).Yields machine P :=
  fun _ => tail _

theorem yields_reportAll (notices : List Notice) :
    (reportAll notices : Act σ Unit).Yields machine fun _ => True := by
  induction notices with
  | nil => trivial
  | cons notice rest ih => exact fun _ => ih

theorem yields_entries {dir : FilePath} {names : List String}
    (hnames : ∀ world, (machine (.entries dir) world).1 = .names names) :
    (entries dir : Act σ _).Yields machine (· = .ok names) := by
  intro world
  rw [hnames world]
  rfl

/-- A listing may be refused, as long as it does not break off. -/
theorem yields_entries_of_forall {dir : FilePath}
    (hlisted : ∀ world, (machine (.entries dir) world).1 ≠ .aborted) :
    (entries dir : Act σ _).Yields machine fun _ => True := by
  intro world
  cases hlisting : (machine (.entries dir) world).1 with
  | names names => trivial
  | refused failure => trivial
  | aborted => exact absurd hlisting (hlisted world)

/-! ## Members of a list -/

/-- If what is seen of each result is known, it is known what is seen of all of them. -/
theorem yields_filterMap {f : α → Act σ (Option β)} {seen : β → γ} {expected : α → Option γ} {as : List α}
    (each : ∀ a ∈ as, (f a).Yields machine fun found => found.map seen = expected a) :
    (filterMap f as).Yields machine fun bs => bs.map seen = as.filterMap expected := by
  induction as with
  | nil => rfl
  | cons a rest ih =>
    have hrest := ih fun other hother => each other (List.mem_cons_of_mem a hother)
    refine (each a List.mem_cons_self).bind fun found hfound => ?_
    cases found with
    | none =>
      rw [List.filterMap_cons_none hfound.symm]
      exact hrest
    | some b =>
      refine hrest.bind fun others hothers => ?_
      rw [List.filterMap_cons_some hfound.symm, ← hothers]
      rfl

/-- The act comes to its end for all members if it does for each. -/
theorem yields_filterMap_of_forall {f : α → Act σ (Option β)} {as : List α}
    (each : ∀ a, (f a).Yields machine fun _ => True) :
    (filterMap f as).Yields machine fun _ => True := by
  induction as with
  | nil => trivial
  | cons a rest ih =>
    refine (each a).bind fun found _ => ?_
    cases found with
    | none => exact ih
    | some b => exact ih.bind fun _ _ => trivial

/-- If each member has one result at most, always the same, and some member has it for sure, it is the
first one that is found. -/
theorem yields_findSome? {f : α → Act σ (Option β)} {as : List α} {b : β}
    (each : ∀ a ∈ as, (f a).Yields machine fun found => ∀ other, found = some other → other = b)
    (hsure : ∃ a ∈ as, (f a).Yields machine (· = some b)) :
    (findSome? f as).Yields machine (· = some b) := by
  induction as with
  | nil =>
    obtain ⟨a, hmem, -⟩ := hsure
    exact absurd hmem List.not_mem_nil
  | cons a rest ih =>
    have hothers := fun other hother => each other (List.mem_cons_of_mem a hother)
    obtain ⟨sure, hmem, hfinds⟩ := hsure
    obtain rfl | hmem := List.mem_cons.mp hmem
    · refine hfinds.bind fun found hfound => ?_
      subst hfound
      rfl
    · refine (each a List.mem_cons_self).bind fun found hfound => ?_
      cases found with
      | none => exact ih hothers ⟨sure, hmem, hfinds⟩
      | some other => exact congrArg some (hfound other rfl)

end Act

namespace Op

variable {σ α β μ : Type} {machine : Act.Machine μ} {P : β → Prop} {Q : α → Prop}

/-- On the machine the operation succeeds with a result that has the property. -/
def Yields (machine : Act.Machine μ) (P : α → Prop) (op : Op σ α) : Prop :=
  op.run.Yields machine fun outcome => ∃ a, outcome = .ok a ∧ P a

theorem Yields.andThen {op : Op σ α} {f : α → Op σ β} (head : op.Yields machine Q)
    (tail : ∀ a, Q a → (f a).Yields machine P) : (op >>= f).Yields machine P := by
  rw [Yields, run_bind]
  refine Act.Yields.bind head fun outcome houtcome => ?_
  obtain ⟨a, rfl, ha⟩ := houtcome
  exact tail a ha

theorem yields_pure {b : β} (h : P b) : (pure b : Op σ β).Yields machine P :=
  ⟨b, rfl, h⟩

theorem yields_ofAct {act : Act σ β} (h : act.Yields machine P) : (ofAct act).Yields machine P :=
  Act.Yields.bind h fun b hb => ⟨b, rfl, hb⟩

theorem yields_query {query : Query} {P : query.Answer → Prop}
    (h : ∀ world, P (machine query world).1) : (Op.query query : Op σ _).Yields machine P :=
  yields_ofAct h

theorem Yields.run {op : Op σ β} (yields : op.Yields machine P) (state : σ) (world : μ) :
    ∃ b after final, op.run.run machine state world = (some (.ok b), after, final) ∧ P b := by
  obtain ⟨outcome, after, final, hrun, b, rfl, hb⟩ := Act.Yields.run yields state world
  exact ⟨b, after, final, hrun, hb⟩

end Op
end I2cTopology
