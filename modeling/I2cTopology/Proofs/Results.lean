import I2cTopology.Proofs.Dialogues

/-!
# What acts come to

A property that an act ensures holds of its result whenever it comes to its end, whatever is answered on
the way.  Acts that may fail ensure it of the result of every success.

* `ensures_bind_iff`: two acts ensure what the second ensures of each result of the first.
* `Ensures.of_dialogue`: what is ensured holds at the end of every dialogue.
* `FailsWith`: how an operation may fail.
-/

namespace I2cTopology

namespace Act

variable {σ α β : Type} {P Q : α → Prop}

/-- The act comes to its end only with a result that has the property. -/
def Ensures (P : α → Prop) : Act σ α → Prop
  | done result => P result
  | ask _ next => ∀ answer, (next answer).Ensures P
  | look next => ∀ state, (next state).Ensures P
  | store _ next => next.Ensures P
  | abort => True

theorem Ensures.of_dialogue {act : Act σ α} {before after : σ} {talk : List Exchange} {result : α}
    (ensures : act.Ensures P) (dialogue : act.Dialogue before talk (some result) after) : P result := by
  generalize hresult : some result = found at dialogue
  induction dialogue with
  | done =>
    obtain rfl := Option.some.inj hresult
    exact ensures
  | ask answer _ ih => exact ih (ensures answer) hresult
  | broken => cases hresult
  | look _ ih => exact ih (ensures _) hresult
  | store _ ih => exact ih ensures hresult
  | abort => cases hresult

theorem Ensures.mono {act : Act σ α} (ensures : act.Ensures P) (weaker : ∀ a, P a → Q a) :
    act.Ensures Q := by
  induction act with
  | done result => exact weaker result ensures
  | ask query next ih => exact fun answer => ih answer (ensures answer)
  | look next ih => exact fun state => ih state (ensures state)
  | store state next ih => exact ih ensures
  | abort => trivial

theorem ensures_bind_iff {act : Act σ α} {f : α → Act σ β} {P : β → Prop} :
    (act.bind f).Ensures P ↔ act.Ensures fun a => (f a).Ensures P := by
  induction act with
  | done result => exact Iff.rfl
  | ask query next ih => exact forall_congr' ih
  | look next ih => exact forall_congr' ih
  | store state next ih => exact ih
  | abort => exact Iff.rfl

theorem Ensures.bind {act : Act σ α} {f : α → Act σ β} {P : β → Prop} (head : act.Ensures Q)
    (tail : ∀ a, Q a → (f a).Ensures P) : (act.bind f).Ensures P :=
  ensures_bind_iff.mpr (head.mono tail)

/-- An act ensures what all results have. -/
theorem ensures_of_forall {act : Act σ α} (all : ∀ a, P a) : act.Ensures P := by
  induction act with
  | done result => exact all result
  | ask query next ih => exact ih
  | look next ih => exact ih
  | store state next ih => exact ih
  | abort => trivial

/-- What follows an act ensures a property if it does so after every result. -/
theorem Ensures.bind_of_forall {act : Act σ α} {f : α → Act σ β} {P : β → Prop}
    (tail : ∀ a, (f a).Ensures P) : (act.bind f).Ensures P :=
  ensures_bind_iff.mpr (ensures_of_forall tail)

theorem ensures_filterMap {P : β → Prop} {f : α → Act σ (Option β)} {as : List α}
    (each : ∀ a ∈ as, (f a).Ensures fun found => ∀ b, found = some b → P b) :
    (filterMap f as).Ensures fun bs => ∀ b ∈ bs, P b := by
  induction as with
  | nil => exact fun b hb => absurd hb List.not_mem_nil
  | cons a rest ih =>
    have hrest := ih fun other hother => each other (List.mem_cons_of_mem _ hother)
    refine (each a List.mem_cons_self).bind fun found hfound => ?_
    cases found with
    | none => exact hrest
    | some b =>
      refine hrest.bind fun others hothers => ?_
      exact List.forall_mem_cons.mpr ⟨hfound b rfl, hothers⟩

end Act

namespace Op

variable {σ α β : Type} {P : β → Prop} {Q : α → Prop}

/-- The operation succeeds only with a result that has the property. -/
def Ensures (P : α → Prop) (op : Op σ α) : Prop :=
  op.run.Ensures fun outcome => ∀ a, outcome = .ok a → P a

theorem Ensures.andThen {op : Op σ α} {f : α → Op σ β} (head : op.Ensures Q)
    (tail : ∀ a, Q a → (f a).Ensures P) : (op >>= f).Ensures P := by
  rw [Ensures, run_bind]
  refine Act.Ensures.bind head fun outcome houtcome => ?_
  cases outcome with
  | error failure => exact fun a ha => nomatch ha
  | ok a => exact tail a (houtcome a rfl)

/-- What follows an operation ensures a property if it does so after every result. -/
theorem ensures_andThen {op : Op σ α} {f : α → Op σ β} (tail : ∀ a, (f a).Ensures P) :
    (op >>= f).Ensures P :=
  Ensures.andThen (Act.ensures_of_forall fun _ _ _ => trivial) fun a _ => tail a

theorem ensures_pure {b : β} (h : P b) : (pure b : Op σ β).Ensures P := by
  intro a ha
  cases ha
  exact h

theorem ensures_throw (failure : Failure) : (throw failure : Op σ β).Ensures P :=
  fun _ ha => nomatch ha

theorem ensures_ofAct {act : Act σ β} (h : act.Ensures P) : (ofAct act).Ensures P := by
  refine Act.Ensures.bind h fun b hb a ha => ?_
  cases ha
  exact hb

theorem Ensures.of_dialogue {op : Op σ β} {before after : σ} {talk : List Exchange} {b : β}
    (ensures : op.Ensures P) (dialogue : op.run.Dialogue before talk (some (.ok b)) after) : P b :=
  Act.Ensures.of_dialogue (show op.run.Ensures _ from ensures) dialogue b rfl

/-! ## Failures -/

/-- The operation fails only in a way that has the property. -/
def FailsWith (P : Failure → Prop) (op : Op σ α) : Prop :=
  op.run.Ensures fun outcome => ∀ failure, outcome = .error failure → P failure

variable {R : Failure → Prop}

theorem FailsWith.andThen {op : Op σ α} {f : α → Op σ β} (head : op.FailsWith R)
    (tail : ∀ a, (f a).FailsWith R) : (op >>= f).FailsWith R := by
  rw [FailsWith, run_bind]
  refine Act.Ensures.bind head fun outcome houtcome => ?_
  cases outcome with
  | error failure =>
    rintro other hother
    obtain rfl := Except.error.inj hother
    exact houtcome failure rfl
  | ok a => exact tail a

theorem failsWith_pure (b : β) : (pure b : Op σ β).FailsWith R :=
  fun _ h => nomatch h

theorem failsWith_throw {failure : Failure} (h : R failure) : (throw failure : Op σ β).FailsWith R := by
  intro other hother
  cases hother
  exact h

/-- An act alone does not fail. -/
theorem failsWith_ofAct (act : Act σ β) : (ofAct act).FailsWith R :=
  Act.Ensures.bind_of_forall fun _ _ h => nomatch h

theorem FailsWith.of_dialogue {op : Op σ β} {before after : σ} {talk : List Exchange} {failure : Failure}
    (fails : op.FailsWith R) (dialogue : op.run.Dialogue before talk (some (.error failure)) after) :
    R failure :=
  Act.Ensures.of_dialogue (show op.run.Ensures _ from fails) dialogue failure rfl

end Op
end I2cTopology
