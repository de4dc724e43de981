import I2cTopology.Proofs.Runs

/-!
# Runs with their answers

A dialogue of an act is a run of it in which the answers are on record as well.  Every run is a dialogue
once its answers are written down, and what a machine makes of an act is the one dialogue whose answers
are the machine's.

* `runs_iff_dialogue`: runs are dialogues whose answers are left out.
* `dialogue_bind_iff`: a dialogue of two acts is one of the first, continued by one of the second.
* `run_eq_iff`: the run of an act on a machine is its dialogue with that machine.
-/

namespace I2cTopology

/-- A question that was asked, with its answer. A question that brought the act down has none. -/
structure Exchange where
  question : Query
  answer : Option question.Answer

namespace Exchange

/-- A look at the identity of a device file. -/
def look (path : FilePath) (found : Except FileFailure FileIdentity) : Exchange :=
  ⟨.deviceIdentity path, some found⟩

/-- The opening of a device file. -/
def opening (path : FilePath) (opened : Except FileFailure DeviceFile) : Exchange :=
  ⟨.openDevice path, some opened⟩

/-- A directory is listed. -/
def listing (dir : FilePath) (answer : Listing) : Exchange :=
  ⟨.entries dir, some answer⟩

/-- A notice for the journal. -/
def notice (level : Level) (area : Area) (message : String) : Exchange :=
  ⟨.report ⟨level, area, message⟩, some ()⟩

end Exchange

namespace Act

variable {σ τ α β μ : Type}

/-- The runs of an act: the state before, the exchanges, the result and the state after. The result is
none if the act was broken off. -/
inductive Dialogue : Act σ α → σ → List Exchange → Option α → σ → Prop
  | done {result : α} {state : σ} : Dialogue (.done result) state [] (some result) state
  | ask {query : Query} {next : query.Answer → Act σ α} {before after : σ} {talk : List Exchange}
      {result : Option α} (answer : query.Answer)
      (rest : Dialogue (next answer) before talk result after) :
      Dialogue (.ask query next) before (⟨query, some answer⟩ :: talk) result after
  | broken {query : Query} {next : query.Answer → Act σ α} {state : σ}
      (breaks : query.isReport = false) : Dialogue (.ask query next) state [⟨query, none⟩] none state
  | look {next : σ → Act σ α} {before after : σ} {talk : List Exchange} {result : Option α}
      (rest : Dialogue (next before) before talk result after) :
      Dialogue (.look next) before talk result after
  | store {next : Act σ α} {before between after : σ} {talk : List Exchange} {result : Option α}
      (rest : Dialogue next between talk result after) :
      Dialogue (.store between next) before talk result after
  | abort {state : σ} : Dialogue .abort state [] none state

variable {act : Act σ α} {s t u : σ} {talk : List Exchange} {asked : List Query}

@[simp] theorem dialogue_done_iff {a : α} {r : Option α} :
    (done a : Act σ α).Dialogue s talk r t ↔ talk = [] ∧ r = some a ∧ t = s := by
  constructor
  · intro dialogue
    cases dialogue with
    | done => exact ⟨rfl, rfl, rfl⟩
  · rintro ⟨rfl, rfl, rfl⟩
    exact .done

@[simp] theorem dialogue_look_iff {next : σ → Act σ α} {r : Option α} :
    (look next).Dialogue s talk r t ↔ (next s).Dialogue s talk r t := by
  constructor
  · intro dialogue
    cases dialogue with
    | look rest => exact rest
  · exact .look

@[simp] theorem dialogue_store_iff {next : Act σ α} {r : Option α} :
    (store u next).Dialogue s talk r t ↔ next.Dialogue u talk r t := by
  constructor
  · intro dialogue
    cases dialogue with
    | store rest => exact rest
  · exact .store

theorem Dialogue.runs {r : Option α} (dialogue : act.Dialogue s talk r t) :
    act.Runs s (talk.map Exchange.question) r t := by
  induction dialogue with
  | done => exact .done
  | ask answer _ ih => exact .ask answer ih
  | broken breaks => exact .broken breaks
  | look _ ih => exact .look ih
  | store _ ih => exact .store ih
  | abort => exact .abort

/-- A run is a dialogue whose answers are left out. -/
theorem runs_iff_dialogue {r : Option α} :
    act.Runs s asked r t ↔ ∃ talk, talk.map Exchange.question = asked ∧ act.Dialogue s talk r t := by
  constructor
  · intro run
    induction run with
    | done => exact ⟨[], rfl, .done⟩
    | @ask query _ _ _ _ _ answer _ ih =>
      obtain ⟨talk, rfl, dialogue⟩ := ih
      exact ⟨⟨query, some answer⟩ :: talk, rfl, .ask answer dialogue⟩
    | @broken query _ _ breaks => exact ⟨[⟨query, none⟩], rfl, .broken breaks⟩
    | look _ ih =>
      obtain ⟨talk, rfl, dialogue⟩ := ih
      exact ⟨talk, rfl, .look dialogue⟩
    | store _ ih =>
      obtain ⟨talk, rfl, dialogue⟩ := ih
      exact ⟨talk, rfl, .store dialogue⟩
    | abort => exact ⟨[], rfl, .abort⟩
  · rintro ⟨talk, rfl, dialogue⟩
    exact dialogue.runs

theorem ReadOnly.eq_of_dialogue {r : Option α} (readOnly : act.ReadOnly)
    (dialogue : act.Dialogue s talk r t) : t = s :=
  readOnly.eq_of_runs dialogue.runs

/-! ## Acts one after the other -/

theorem Dialogue.bind {f : α → Act σ β} {a : α} {first rest : List Exchange} {r : Option β}
    (head : act.Dialogue s first (some a) t) (tail : (f a).Dialogue t rest r u) :
    (act.bind f).Dialogue s (first ++ rest) r u := by
  generalize hresult : some a = result at head
  induction head with
  | done =>
    obtain rfl := Option.some.inj hresult
    exact tail
  | ask answer _ ih => exact .ask answer (ih tail hresult)
  | broken => cases hresult
  | look _ ih => exact .look (ih tail hresult)
  | store _ ih => exact .store (ih tail hresult)
  | abort => cases hresult

theorem Dialogue.bind_broken {f : α → Act σ β} (head : act.Dialogue s talk none t) :
    (act.bind f).Dialogue s talk none t := by
  generalize hresult : none = result at head
  induction head with
  | done => cases hresult
  | ask answer _ ih => exact .ask answer (ih hresult)
  | broken breaks => exact .broken breaks
  | look _ ih => exact .look (ih hresult)
  | store _ ih => exact .store (ih hresult)
  | abort => exact .abort

/-- A dialogue of two acts is a dialogue of the first that comes to its end and a dialogue of the second,
or a dialogue of the first that was broken off. -/
theorem dialogue_bind_iff {f : α → Act σ β} {r : Option β} :
    (act.bind f).Dialogue s talk r u ↔
      (∃ a t first rest, talk = first ++ rest ∧ act.Dialogue s first (some a) t ∧
        (f a).Dialogue t rest r u) ∨
      r = none ∧ act.Dialogue s talk none u := by
  constructor
  · intro dialogue
    -- Every constructor of the first act has one way on, except that a question may break it off.
    induction act generalizing s talk with
    | done a => exact .inl ⟨a, s, [], talk, rfl, .done, dialogue⟩
    | ask query next ih =>
      cases dialogue with
      | broken breaks => exact .inr ⟨rfl, .broken breaks⟩
      | ask answer rest =>
        obtain ⟨a, t, first, later, rfl, head, tail⟩ | ⟨rfl, head⟩ := ih answer rest
        · exact .inl ⟨a, t, _ :: first, later, rfl, .ask answer head, tail⟩
        · exact .inr ⟨rfl, .ask answer head⟩
    | look next ih =>
      cases dialogue with
      | look rest =>
        obtain ⟨a, t, first, later, rfl, head, tail⟩ | ⟨rfl, head⟩ := ih s rest
        · exact .inl ⟨a, t, first, later, rfl, .look head, tail⟩
        · exact .inr ⟨rfl, .look head⟩
    | store state next ih =>
      cases dialogue with
      | store rest =>
        obtain ⟨a, t, first, later, rfl, head, tail⟩ | ⟨rfl, head⟩ := ih rest
        · exact .inl ⟨a, t, first, later, rfl, .store head, tail⟩
        · exact .inr ⟨rfl, .store head⟩
    | abort =>
      cases dialogue with
      | abort => exact .inr ⟨rfl, .abort⟩
  · rintro (⟨a, t, first, rest, rfl, head, tail⟩ | ⟨rfl, head⟩)
    · exact head.bind tail
    · exact head.bind_broken

theorem dialogue_bind_some_iff {f : α → Act σ β} {b : β} :
    (act.bind f).Dialogue s talk (some b) u ↔
      ∃ a t first rest, talk = first ++ rest ∧ act.Dialogue s first (some a) t ∧
        (f a).Dialogue t rest (some b) u := by
  rw [dialogue_bind_iff]
  exact or_iff_left fun h => nomatch h.1

/-! The same holds of runs, which are dialogues without their answers. -/

theorem Runs.bind {f : α → Act σ β} {a : α} {first rest : List Query} {r : Option β}
    (head : act.Runs s first (some a) t) (tail : (f a).Runs t rest r u) :
    (act.bind f).Runs s (first ++ rest) r u := by
  obtain ⟨talk, rfl, hhead⟩ := runs_iff_dialogue.mp head
  obtain ⟨later, rfl, htail⟩ := runs_iff_dialogue.mp tail
  rw [← List.map_append]
  exact (hhead.bind htail).runs

theorem Runs.bind_broken {f : α → Act σ β} (head : act.Runs s asked none t) :
    (act.bind f).Runs s asked none t := by
  obtain ⟨talk, rfl, hhead⟩ := runs_iff_dialogue.mp head
  exact hhead.bind_broken.runs

theorem runs_bind_iff {f : α → Act σ β} {r : Option β} :
    (act.bind f).Runs s asked r u ↔
      (∃ a t first rest, asked = first ++ rest ∧ act.Runs s first (some a) t ∧
        (f a).Runs t rest r u) ∨
      r = none ∧ act.Runs s asked none u := by
  constructor
  · intro run
    obtain ⟨talk, rfl, dialogue⟩ := runs_iff_dialogue.mp run
    obtain ⟨a, t, first, rest, rfl, head, tail⟩ | ⟨rfl, head⟩ := dialogue_bind_iff.mp dialogue
    · exact .inl ⟨a, t, _, _, List.map_append, head.runs, tail.runs⟩
    · exact .inr ⟨rfl, head.runs⟩
  · rintro (⟨a, t, first, rest, rfl, head, tail⟩ | ⟨rfl, head⟩)
    · exact head.bind tail
    · exact head.bind_broken

theorem dialogue_query_bind_iff {query : Query} {f : query.Answer → Act σ α} {r : Option α} :
    ((Act.query query).bind f).Dialogue s talk r t ↔
      (∃ answer rest, talk = ⟨query, some answer⟩ :: rest ∧ (f answer).Dialogue s rest r t) ∨
      query.isReport = false ∧ talk = [⟨query, none⟩] ∧ r = none ∧ t = s := by
  constructor
  · intro dialogue
    cases dialogue with
    | ask answer rest => exact .inl ⟨answer, _, rfl, rest⟩
    | broken breaks => exact .inr ⟨breaks, rfl, rfl, rfl⟩
  · rintro (⟨answer, rest, rfl, dialogue⟩ | ⟨breaks, rfl, rfl, rfl⟩)
    · exact .ask answer dialogue
    · exact .broken breaks

theorem talk_of_query {query : Query} {answer : query.Answer}
    (dialogue : (Act.query query).Dialogue s talk (some answer) t) : talk = [⟨query, some answer⟩] := by
  cases dialogue with
  | ask answer rest => cases rest with | done => rfl

theorem dialogue_query_bind_some_iff {query : Query} {f : query.Answer → Act σ α} {a : α} :
    ((Act.query query).bind f).Dialogue s talk (some a) t ↔
      ∃ answer rest, talk = ⟨query, some answer⟩ :: rest ∧ (f answer).Dialogue s rest (some a) t := by
  rw [dialogue_query_bind_iff]
  exact or_iff_left fun h => nomatch h.2.2.1

theorem dialogue_entries_bind_some_iff {dir : FilePath}
    {f : Except FileFailure (List String) → Act σ α} {a : α} :
    ((entries dir).bind f).Dialogue s talk (some a) t ↔
      (∃ names rest, talk = .listing dir (.names names) :: rest ∧
        (f (.ok names)).Dialogue s rest (some a) t) ∨
      ∃ failure rest, talk = .listing dir (.refused failure) :: rest ∧
        (f (.error failure)).Dialogue s rest (some a) t := by
  constructor
  · intro dialogue
    cases dialogue with
    | ask answer rest =>
      cases answer with
      | names names => exact .inl ⟨names, _, rfl, rest⟩
      | refused failure => exact .inr ⟨failure, _, rfl, rest⟩
      | aborted => cases rest
  · rintro (⟨names, rest, rfl, dialogue⟩ | ⟨failure, rest, rfl, dialogue⟩)
    · exact .ask (show (Query.entries dir).Answer from .names names) dialogue
    · exact .ask (show (Query.entries dir).Answer from .refused failure) dialogue

theorem talk_of_entries {dir : FilePath} {names : List String}
    (dialogue : (entries dir).Dialogue s talk (some (.ok names)) t) :
    talk = [.listing dir (.names names)] := by
  cases dialogue with
  | ask answer rest =>
    cases answer with
    | names names => cases rest with | done => rfl
    | refused failure => cases rest
    | aborted => cases rest

theorem dialogue_report_bind_iff {level : Level} {area : Area} {message : String}
    {f : Unit → Act σ α} {r : Option α} :
    ((report level area message).bind f).Dialogue s talk r t ↔
      ∃ rest, talk = .notice level area message :: rest ∧ (f ()).Dialogue s rest r t := by
  constructor
  · intro dialogue
    cases dialogue with
    | broken breaks => cases breaks
    | ask answer rest => exact ⟨_, rfl, rest⟩
  · rintro ⟨rest, rfl, dialogue⟩
    exact .ask (show (Query.report _).Answer from ()) dialogue

theorem dialogue_reportAll_bind_iff {notices : List Notice} {f : Unit → Act σ α} {r : Option α} :
    ((reportAll notices).bind f).Dialogue s talk r t ↔
      ∃ rest, talk = notices.map (fun notice => ⟨.report notice, some ()⟩) ++ rest ∧
        (f ()).Dialogue s rest r t := by
  induction notices generalizing talk with
  | nil => exact ⟨fun dialogue => ⟨talk, rfl, dialogue⟩, fun ⟨_, heq, dialogue⟩ => heq ▸ dialogue⟩
  | cons notice others ih =>
    constructor
    · intro dialogue
      cases dialogue with
      | broken breaks => cases breaks
      | ask answer dialogue =>
        obtain ⟨rest, rfl, tail⟩ := ih.mp dialogue
        exact ⟨rest, rfl, tail⟩
    · rintro ⟨rest, rfl, dialogue⟩
      exact .ask (show (Query.report _).Answer from ()) (ih.mpr ⟨rest, rfl, dialogue⟩)

/-! ## Acts on a part of a state -/

/-- An act on a part of a state talks as it does on its own, and the rest of the state stays. -/
theorem dialogue_within {view : σ → τ} {update : τ → σ → σ} {act : Act τ α} {r : Option α} {part : τ}
    (hview : ∀ part, view (update part s) = part)
    (hupdate : ∀ part other, update other (update part s) = update other s)
    (dialogue : (act.within view update).Dialogue (update part s) talk r t) :
    ∃ final, act.Dialogue part talk r final ∧ t = update final s := by
  -- The state is always the update of the part that the act has stored last.
  induction act generalizing part talk with
  | done a =>
    cases dialogue with
    | done => exact ⟨part, .done, rfl⟩
  | ask query next ih =>
    cases dialogue with
    | ask answer rest =>
      obtain ⟨final, hnext, rfl⟩ := ih answer rest
      exact ⟨final, .ask answer hnext, rfl⟩
    | broken breaks => exact ⟨part, .broken breaks, rfl⟩
  | look next ih =>
    cases dialogue with
    | look rest =>
      simp only [hview] at rest
      obtain ⟨final, hnext, rfl⟩ := ih part rest
      exact ⟨final, .look hnext, rfl⟩
  | store other next ih =>
    cases dialogue with
    | look rest =>
      cases rest with
      | store rest =>
        rw [hupdate] at rest
        obtain ⟨final, hnext, rfl⟩ := ih rest
        exact ⟨final, .store hnext, rfl⟩
  | abort =>
    cases dialogue with
    | abort => exact ⟨part, .abort, rfl⟩

/-- An act on a part that cannot be replaced leaves the state alone. -/
theorem eq_of_dialogue_within {view : σ → τ} {update : τ → σ → σ} {act : Act τ α} {r : Option α}
    (hupdate : ∀ part, update part s = s) (dialogue : (act.within view update).Dialogue s talk r t) :
    t = s := by
  induction act generalizing talk with
  | done a => cases dialogue with | done => rfl
  | ask query next ih =>
    cases dialogue with
    | ask answer rest => exact ih answer rest
    | broken breaks => rfl
  | look next ih => cases dialogue with | look rest => exact ih _ rest
  | store part next ih =>
    cases dialogue with
    | look rest =>
      cases rest with
      | store rest =>
        rw [hupdate] at rest
        exact ih rest
  | abort => cases dialogue with | abort => rfl

/-! ## Dialogues with a machine -/

/-- The machine gives the answers of a dialogue, and is in another state afterwards. -/
inductive Machine.Answers (machine : Machine μ) : μ → List Exchange → μ → Prop
  | nil {world : μ} : Answers machine world [] world
  | cons {query : Query} {world after : μ} {talk : List Exchange}
      (rest : Answers machine (machine query world).2 talk after) :
      Answers machine world (⟨query, some (machine query world).1⟩ :: talk) after

variable {machine : Machine μ} {world between after : μ} {first rest : List Exchange}

theorem Machine.Answers.append (head : machine.Answers world first between)
    (tail : machine.Answers between rest after) : machine.Answers world (first ++ rest) after := by
  induction head with
  | nil => exact tail
  | cons _ ih => exact .cons (ih tail)

theorem Machine.answers_append_iff :
    machine.Answers world (first ++ rest) after ↔
      ∃ between, machine.Answers world first between ∧ machine.Answers between rest after := by
  constructor
  · intro answers
    induction first generalizing world with
    | nil => exact ⟨world, .nil, answers⟩
    | cons exchange others ih =>
      cases answers with
      | cons later =>
        obtain ⟨between, head, tail⟩ := ih later
        exact ⟨between, .cons head, tail⟩
  · rintro ⟨between, head, tail⟩
    exact head.append tail

theorem Machine.answers_cons_iff {exchange : Exchange} :
    machine.Answers world (exchange :: rest) after ↔
      exchange.answer = some (machine exchange.question world).1 ∧
        machine.Answers (machine exchange.question world).2 rest after := by
  constructor
  · intro answers
    cases answers with
    | cons later => exact ⟨rfl, later⟩
  · rintro ⟨hanswer, later⟩
    obtain ⟨question, answer⟩ := exchange
    obtain rfl : answer = some (machine question world).1 := hanswer
    exact .cons later

theorem exists_dialogue_of_run (machine : Machine μ) (act : Act σ α) (s : σ) (world : μ) :
    ∃ talk, act.Dialogue s talk (act.run machine s world).1 (act.run machine s world).2.1 ∧
      machine.Answers world talk (act.run machine s world).2.2 := by
  induction act generalizing s world with
  | done a => exact ⟨[], .done, .nil⟩
  | ask query next ih =>
    obtain ⟨talk, dialogue, answers⟩ := ih (machine query world).1 s (machine query world).2
    exact ⟨_, .ask _ dialogue, .cons answers⟩
  | look next ih =>
    obtain ⟨talk, dialogue, answers⟩ := ih s s world
    exact ⟨talk, .look dialogue, answers⟩
  | store state next ih =>
    obtain ⟨talk, dialogue, answers⟩ := ih state world
    exact ⟨talk, .store dialogue, answers⟩
  | abort => exact ⟨[], .abort, .nil⟩

theorem Dialogue.run_eq {r : Option α} (dialogue : act.Dialogue s talk r t)
    (answers : machine.Answers world talk after) : act.run machine s world = (r, t, after) := by
  induction dialogue generalizing world with
  | done => cases answers with | nil => rfl
  | ask answer _ ih => cases answers with | cons later => exact ih later
  | broken => cases answers
  | look _ ih => exact ih answers
  | store _ ih => exact ih answers
  | abort => cases answers with | nil => rfl

/-- The run of an act on a machine is the dialogue in which the machine gives the answers. -/
theorem run_eq_iff {r : Option α} :
    act.run machine s world = (r, t, after) ↔
      ∃ talk, act.Dialogue s talk r t ∧ machine.Answers world talk after := by
  constructor
  · intro hrun
    have hdialogue := exists_dialogue_of_run machine act s world
    rw [hrun] at hdialogue
    exact hdialogue
  · rintro ⟨talk, dialogue, answers⟩
    exact dialogue.run_eq answers

end Act

namespace Op

variable {σ α β : Type} {s t : σ} {talk : List Exchange}

theorem dialogue_modifyState_iff {change : σ → σ} {r : Option (Except Failure Unit)} :
    (modifyState change).run.Dialogue s talk r t ↔ talk = [] ∧ r = some (.ok ()) ∧ t = change s := by
  show (Act.look fun state => .store (change state) (.done (.ok ()))).Dialogue s talk r t ↔ _
  rw [Act.dialogue_look_iff, Act.dialogue_store_iff, Act.dialogue_done_iff]

/-- A dialogue of two operations is one of the first that succeeds and one of the second, or one of the
first that fails or is broken off. -/
theorem dialogue_bind_iff {op : Op σ α} {f : α → Op σ β} {r : Option (Except Failure β)} {u : σ} :
    (op >>= f).run.Dialogue s talk r u ↔
      (∃ a t first rest, talk = first ++ rest ∧ op.run.Dialogue s first (some (.ok a)) t ∧
        (f a).run.Dialogue t rest r u) ∨
      (∃ failure, op.run.Dialogue s talk (some (.error failure)) u ∧ r = some (.error failure)) ∨
      op.run.Dialogue s talk none u ∧ r = none := by
  rw [run_bind, Act.dialogue_bind_iff]
  constructor
  · rintro (⟨outcome, t, first, rest, rfl, head, tail⟩ | ⟨rfl, head⟩)
    · cases outcome with
      | ok a => exact .inl ⟨a, t, first, rest, rfl, head, tail⟩
      | error failure =>
        obtain ⟨rfl, rfl, rfl⟩ := Act.dialogue_done_iff.mp tail
        rw [List.append_nil]
        exact .inr (.inl ⟨failure, head, rfl⟩)
    · exact .inr (.inr ⟨head, rfl⟩)
  · rintro (⟨a, t, first, rest, rfl, head, tail⟩ | ⟨failure, head, rfl⟩ | ⟨head, rfl⟩)
    · exact .inl ⟨_, t, first, rest, rfl, head, tail⟩
    · exact .inl ⟨_, u, talk, [], (List.append_nil talk).symm, head, .done⟩
    · exact .inr ⟨rfl, head⟩

theorem dialogue_bind_ok_iff {op : Op σ α} {f : α → Op σ β} {b : β} {u : σ} :
    (op >>= f).run.Dialogue s talk (some (.ok b)) u ↔
      ∃ a t first rest, talk = first ++ rest ∧ op.run.Dialogue s first (some (.ok a)) t ∧
        (f a).run.Dialogue t rest (some (.ok b)) u := by
  rw [dialogue_bind_iff]
  exact or_iff_left fun h => by obtain ⟨_, -, h⟩ | ⟨-, h⟩ := h <;> cases h

/-- If the first of two operations succeeds whatever else the machine does, the second follows. -/
theorem exists_of_bind {μ : Type} {machine : Act.Machine μ} {world final : μ} {op : Op σ α}
    {f : α → Op σ β} {r : Option (Except Failure β)} {u : σ}
    (dialogue : (op >>= f).run.Dialogue s talk r u) (answers : machine.Answers world talk final)
    (succeeds : ∀ {said outcome t between}, op.run.Dialogue s said outcome t →
      machine.Answers world said between → ∃ a, outcome = some (.ok a)) :
    ∃ a t first rest between, talk = first ++ rest ∧ op.run.Dialogue s first (some (.ok a)) t ∧
      machine.Answers world first between ∧ (f a).run.Dialogue t rest r u ∧
      machine.Answers between rest final := by
  obtain ⟨a, t, first, rest, rfl, head, tail⟩ | ⟨failure, head, -⟩ | ⟨head, -⟩ :=
    dialogue_bind_iff.mp dialogue
  · obtain ⟨between, hfirst, hrest⟩ := Act.Machine.answers_append_iff.mp answers
    exact ⟨a, t, first, rest, between, rfl, head, hfirst, tail, hrest⟩
  · obtain ⟨a, hresult⟩ := succeeds head answers
    cases hresult
  · obtain ⟨a, hresult⟩ := succeeds head answers
    cases hresult

theorem dialogue_ofAct_ok_iff {act : Act σ α} {a : α} :
    (ofAct act).run.Dialogue s talk (some (.ok a)) t ↔ act.Dialogue s talk (some a) t := by
  show (act.bind fun a => .done (Except.ok (ε := Failure) a)).Dialogue s talk _ t ↔ _
  rw [Act.dialogue_bind_some_iff]
  constructor
  · rintro ⟨other, between, first, rest, rfl, head, tail⟩
    obtain ⟨rfl, hresult, rfl⟩ := Act.dialogue_done_iff.mp tail
    obtain rfl := Except.ok.inj (Option.some.inj hresult)
    rw [List.append_nil]
    exact head
  · exact fun dialogue => ⟨a, t, talk, [], (List.append_nil talk).symm, dialogue, .done⟩

end Op

end I2cTopology
