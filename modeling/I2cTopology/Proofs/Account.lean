import I2cTopology.Proofs.Context.Reading
import I2cTopology.Proofs.Survey

/-!
# What a scan was told

A scan asks about each entry of the directory of links in turn, and about each entry of the directory of
each placed adapter.  Each answer is given once and may contradict all others.  What a scan comes to accounts
for exactly these answers: nothing that was shown is lost, and nothing else is found.

* `InTurn`: a talk that goes through its subjects one after the other.
* `Heard`, `Visited`: what is said about one entry, and about the chips of one adapter.
* `Accounts`, `accounts_of_scan`: the forest of a scan against what was said during the scan.
-/

namespace I2cTopology

open Act (dialogue_bind_some_iff dialogue_query_bind_some_iff dialogue_entries_bind_some_iff
  dialogue_report_bind_iff dialogue_done_iff)

namespace Exchange

/-- A path is resolved. -/
def resolving (path : FilePath) (target : Except FileFailure FilePath) : Exchange :=
  ⟨.canonical path, some target⟩

/-- A name attribute is read. -/
def naming (dir : FilePath) (name : Option String) : Exchange :=
  ⟨.readAttribute dir "name", some name⟩

end Exchange

/-- Nothing is asked. -/
def Unasked (talk : List Exchange) : Prop :=
  ∀ exchange ∈ talk, exchange.question.isReport = true

/-! ## Subjects one after the other -/

/-- The talk goes through the subjects in order. -/
inductive InTurn {α : Type} (said : α → List Exchange → Prop) : List α → List Exchange → Prop
  | nil : InTurn said [] []
  | cons {subject : α} {others : List α} {first rest : List Exchange} (head : said subject first)
      (tail : InTurn said others rest) : InTurn said (subject :: others) (first ++ rest)

theorem InTurn.imp {α : Type} {said other : α → List Exchange → Prop}
    (each : ∀ subject talk, said subject talk → other subject talk) {subjects : List α}
    {talk : List Exchange} (h : InTurn said subjects talk) : InTurn other subjects talk := by
  induction h with
  | nil => exact .nil
  | cons head _ ih => exact .cons (each _ _ head) ih

/-- Every subject has its turn. -/
theorem InTurn.exists_of_mem {α : Type} {said : α → List Exchange → Prop} {subjects : List α}
    {talk : List Exchange} {subject : α} (h : InTurn said subjects talk) (hmem : subject ∈ subjects) :
    ∃ part, said subject part := by
  induction h with
  | nil => cases hmem
  | cons head _ ih =>
    obtain rfl | hmem := List.mem_cons.mp hmem
    · exact ⟨_, head⟩
    · exact ih hmem

namespace Act

variable {σ α β γ : Type} {s t : σ} {talk : List Exchange}

/-- While the members of a list are gone through, each of them is a subject, together with what is seen of
the result that it comes to. -/
theorem inTurn_of_filterMap {f : α → Act σ (Option β)} (readOnly : ∀ a, (f a).ReadOnly) {seen : β → γ}
    {said : α × Option γ → List Exchange → Prop}
    (each : ∀ a found talk, (f a).Dialogue s talk (some found) s → said (a, found.map seen) talk)
    {as : List α} {bs : List β} (dialogue : (filterMap f as).Dialogue s talk (some bs) t) :
    ∃ heard : List (α × Option γ), heard.map Prod.fst = as ∧
      heard.filterMap Prod.snd = bs.map seen ∧ InTurn said heard talk := by
  induction as generalizing talk bs t with
  | nil =>
    obtain ⟨rfl, hbs, -⟩ := dialogue_done_iff.mp dialogue
    obtain rfl := Option.some.inj hbs
    exact ⟨[], rfl, rfl, .nil⟩
  | cons a rest ih =>
    obtain ⟨found, between, first, later, rfl, head, tail⟩ := dialogue_bind_some_iff.mp dialogue
    obtain rfl := (readOnly a).eq_of_dialogue head
    have hhead := each a found first head
    cases found with
    | none =>
      obtain ⟨heard, rfl, hbs, turns⟩ := ih tail
      exact ⟨(a, none) :: heard, rfl, hbs, .cons hhead turns⟩
    | some b =>
      obtain ⟨others, final, middle, last, rfl, hothers, hdone⟩ := dialogue_bind_some_iff.mp tail
      obtain ⟨rfl, hbs, -⟩ := dialogue_done_iff.mp hdone
      obtain rfl := Option.some.inj hbs
      obtain ⟨heard, rfl, hbs, turns⟩ := ih hothers
      rw [List.append_nil]
      exact ⟨(a, some (seen b)) :: heard, rfl, congrArg (seen b :: ·) hbs, .cons hhead turns⟩

/-- To leave members out is to come to nothing for them. -/
theorem filterMap_filter (f : α → Act σ (Option β)) (p : α → Bool) (as : List α) :
    filterMap f (as.filter p) = filterMap (fun a => if p a then f a else .done none) as := by
  induction as with
  | nil => rfl
  | cons a rest ih =>
    rw [filterMap, List.filter_cons]
    split
    · rw [filterMap]
      simp only [ih]
    · exact ih

end Act

/-! ## Sightings -/

/-- What identifies an adapter or a chip: its number, its directory and its name. -/
structure Sighting (ν : Type) where
  number : ν
  location : FilePath
  name : Option String
  deriving DecidableEq, Repr

def Adapter.sighting (adapter : Adapter) : Sighting UInt32 :=
  ⟨adapter.nr, adapter.location, adapter.name⟩

def Chip.sighting (chip : Chip) : Sighting UInt16 :=
  ⟨chip.address, chip.location, chip.name⟩

theorem Forest.plain_setChips (forest : Forest) (id : AdapterId) (chips : List Chip) :
    (forest.setChips id chips).plain = forest.plain := by
  apply Forest.plain_modify
  exact fun _ => rfl

theorem Forest.unplaced_eq_of_plain_eq {forest other : Forest} (h : forest.plain = other.plain) :
    forest.unplaced = other.unplaced := by
  have hunplaced : forest.plain.unplaced = other.plain.unplaced := congrArg Forest.unplaced h
  exact hunplaced

theorem Forest.sightings_eq_of_plain_eq {forest other : Forest} (h : forest.plain = other.plain) :
    forest.adapters.toList.map Adapter.sighting = other.adapters.toList.map Adapter.sighting := by
  have hplain (forest : Forest) : forest.plain.adapters.toList.map Adapter.sighting =
      forest.adapters.toList.map Adapter.sighting := by
    rw [Forest.plain, Array.toList_map, List.map_map]
    rfl
  rw [← hplain, h, hplain]

theorem Forest.sighting_eq_of_plain_eq {forest other : Forest} (h : forest.plain = other.plain)
    (id : AdapterId) : (forest.adapter id).sighting = (other.adapter id).sighting := by
  have hsame : (forest.adapter id).plain.sighting = (other.adapter id).plain.sighting := by
    rw [← Forest.adapter_plain, h, Forest.adapter_plain]
  exact hsame

namespace Scan

variable {σ ν : Type} {before after : σ} {talk rest : List Exchange} {settings : Settings}
  {dir : FilePath} {entry : String} {forest final : Forest} {id : AdapterId}

/-- What is said about an entry of a directory, and whether something is found there.  An entry whose name
gives no number is not asked about.  Of any other the link is resolved, and then the name is read, either
where the link leads or at the link. -/
inductive Heard (number? : String → Option ν) (named : FilePath → FilePath → FilePath) (dir : FilePath) :
    String × Option (Sighting ν) → List Exchange → Prop
  | foreign {entry : String} {talk : List Exchange} (hnumber : number? entry = none)
      (unasked : Unasked talk) : Heard number? named dir (entry, none) talk
  | dangling {entry : String} {number : ν} {failure : FileFailure} {rest : List Exchange}
      (hnumber : number? entry = some number) :
      Heard number? named dir (entry, none) (.resolving (dir.join entry) (.error failure) :: rest)
  | nameless {entry : String} {number : ν} {location : FilePath} {rest : List Exchange}
      (hnumber : number? entry = some number) :
      Heard number? named dir (entry, none)
        (.resolving (dir.join entry) (.ok location) ::
          .naming (named (dir.join entry) location) none :: rest)
  | found {entry : String} {number : ν} {location : FilePath} {name : String} {rest : List Exchange}
      (hnumber : number? entry = some number) :
      Heard number? named dir (entry, some ⟨number, location, some name⟩)
        (.resolving (dir.join entry) (.ok location) ::
          .naming (named (dir.join entry) location) (some name) :: rest)

/-- What is said about an entry of the directory of links. The name is read where the link leads. -/
def HeardAdapter (dir : FilePath) : String × Option (Sighting UInt32) → List Exchange → Prop :=
  Heard adapterNr? (fun _ location => location) dir

/-- What is said about an entry of the directory of an adapter. -/
def HeardChip (nr : UInt32) (dir : FilePath) : String × Option (Sighting UInt16) → List Exchange → Prop :=
  Heard (chipAddress? nr) (fun path _ => path) dir

theorem Heard.append {number? : String → Option ν} {named : FilePath → FilePath → FilePath}
    {hearing : String × Option (Sighting ν)} (heard : Heard number? named dir hearing talk)
    (unasked : Unasked rest) : Heard number? named dir hearing (talk ++ rest) := by
  cases heard with
  | foreign hnumber hquiet =>
    exact .foreign hnumber fun exchange hmem => (List.mem_append.mp hmem).elim (hquiet _) (unasked _)
  | dangling hnumber => exact .dangling hnumber
  | nameless hnumber => exact .nameless hnumber
  | found hnumber => exact .found hnumber

section Hearing

variable {α : Type} {number? : String → Option ν} {named : FilePath → FilePath → FilePath} {number : ν}
  {seen : α → Sighting ν} {read : Except SkipReason α}

/-- Adapters and chips are read alike: the link is resolved, the name is read, and whatever is asked from
there on, something is found. -/
theorem heard_reading {resolved : Except FileFailure FilePath → Act σ (Except SkipReason α)}
    {next : FilePath → Option String → Act σ (Except SkipReason α)}
    (hnumber : number? entry = some number)
    (dialogue : ((Act.query (.canonical (dir.join entry))).bind resolved).Dialogue before talk
      (some read) after)
    (herror : ∀ failure, ∃ reason, resolved (.error failure) = .done (.error reason))
    (hok : ∀ location, resolved (.ok location) =
      (Act.query (.readAttribute (named (dir.join entry) location) "name")).bind (next location))
    (hnone : ∀ location, ∃ reason, next location none = .done (.error reason))
    (hsome : ∀ location name, (next location (some name)).Ensures
      fun read => ∃ a, read = .ok a ∧ seen a = ⟨number, location, some name⟩) :
    Heard number? named dir (entry, read.toOption.map seen) talk := by
  obtain ⟨target, rest, rfl, answered⟩ := dialogue_query_bind_some_iff.mp dialogue
  cases target with
  | error failure =>
    obtain ⟨reason, hreason⟩ := herror failure
    rw [hreason] at answered
    obtain ⟨rfl, hread, -⟩ := dialogue_done_iff.mp answered
    obtain rfl := Option.some.inj hread
    exact .dangling hnumber
  | ok location =>
    rw [hok location] at answered
    obtain ⟨name, rest, rfl, told⟩ := dialogue_query_bind_some_iff.mp answered
    cases name with
    | none =>
      obtain ⟨reason, hreason⟩ := hnone location
      rw [hreason] at told
      obtain ⟨rfl, hread, -⟩ := dialogue_done_iff.mp told
      obtain rfl := Option.some.inj hread
      exact .nameless hnumber
    | some name =>
      obtain ⟨a, rfl, hseen⟩ := (hsome location name).of_dialogue told
      rw [Except.toOption, Option.map_some, hseen]
      exact .found hnumber

theorem unasked_nil : Unasked [] :=
  nofun

theorem unasked_notice (level : Level) (area : Area) (message : String) :
    Unasked [.notice level area message] := by
  intro exchange hmem
  obtain rfl := List.mem_singleton.mp hmem
  rfl

/-- What was read is kept. -/
theorem Heard.kept {a : α} {found : Option α}
    (heard : Heard number? named dir (entry, some (seen a)) talk)
    (dialogue : (Act.done (some a)).Dialogue before rest (some found) after) :
    Heard number? named dir (entry, found.map seen) (talk ++ rest) := by
  obtain ⟨rfl, hfound, -⟩ := dialogue_done_iff.mp dialogue
  obtain rfl := Option.some.inj hfound
  exact heard.append unasked_nil

/-- Nothing was read, and it is reported why. -/
theorem Heard.skipped {message : String} {found : Option α}
    (heard : Heard number? named dir (entry, none) talk)
    (dialogue : ((Act.report .info .scan message).bind fun _ => .done none).Dialogue before rest
      (some found) after) :
    Heard number? named dir (entry, found.map seen) (talk ++ rest) := by
  obtain ⟨_, rfl, last⟩ := dialogue_report_bind_iff.mp dialogue
  obtain ⟨rfl, hfound, -⟩ := dialogue_done_iff.mp last
  obtain rfl := Option.some.inj hfound
  exact heard.append (unasked_notice _ _ _)

end Hearing

theorem heard_readAdapter {read : Except SkipReason Adapter}
    (dialogue : (readAdapter settings (dir.join entry) entry).Dialogue before talk (some read) after) :
    HeardAdapter dir (entry, read.toOption.map Adapter.sighting) talk := by
  unfold readAdapter at dialogue
  split at dialogue
  next hnr =>
    obtain ⟨rfl, hread, -⟩ := dialogue_done_iff.mp dialogue
    obtain rfl := Option.some.inj hread
    exact .foreign hnr unasked_nil
  next nr hnr =>
    refine heard_reading hnr dialogue (fun _ => ⟨_, rfl⟩) (fun _ => rfl) (fun _ => ⟨_, rfl⟩)
      fun location name => ?_
    refine .bind_of_forall fun chip => .bind_of_forall fun channel => ?_
    refine .bind_of_forall fun subsystem => .bind_of_forall fun identity => ?_
    exact .bind_of_forall fun _ => ⟨_, rfl, rfl⟩

theorem heard_readChip {nr : UInt32} {bus : BusDescriptor} {address : UInt16}
    {read : Except SkipReason Chip} (haddress : chipAddress? nr entry = some address)
    (dialogue : (readChip (dir.join entry) address bus id).Dialogue before talk (some read) after) :
    HeardChip nr dir (entry, read.toOption.map Chip.sighting) talk := by
  refine heard_reading haddress dialogue (fun _ => ⟨_, rfl⟩) (fun _ => rfl) (fun _ => ⟨_, rfl⟩)
    fun location name => ?_
  dsimp only
  split
  · exact .bind_of_forall fun _ => .bind_of_forall fun _ => ⟨_, rfl, rfl⟩
  · refine .bind_of_forall fun driver => .bind_of_forall fun module => ?_
    exact .bind_of_forall fun _ => .bind_of_forall fun _ => ⟨_, rfl, rfl⟩

theorem heard_surveyAdapter {found : Option Adapter}
    (dialogue : (surveyAdapter settings dir entry).Dialogue before talk (some found) after) :
    HeardAdapter dir (entry, found.map Adapter.sighting) talk := by
  obtain ⟨read, between, first, rest, rfl, head, tail⟩ := dialogue_bind_some_iff.mp dialogue
  have heard := heard_readAdapter head
  cases read with
  | ok adapter => exact heard.kept tail
  | error reason => exact heard.skipped tail

theorem heard_surveyChip {bus : BusDescriptor} {found : Option Chip}
    (dialogue : (surveyChip dir bus id entry).Dialogue before talk (some found) after) :
    HeardChip bus.nr dir (entry, found.map Chip.sighting) talk := by
  unfold surveyChip at dialogue
  split at dialogue
  next hforeign =>
    obtain ⟨rfl, hfound, -⟩ := dialogue_done_iff.mp dialogue
    obtain rfl := Option.some.inj hfound
    exact .foreign hforeign unasked_nil
  next address haddress =>
    obtain ⟨read, between, first, rest, rfl, head, tail⟩ := dialogue_bind_some_iff.mp dialogue
    have heard := heard_readChip haddress head
    cases read with
    | ok chip => exact heard.kept tail
    | error reason => exact heard.skipped tail

/-! ## Chips -/

/-- What is said about the chips of an adapter, and which chips the adapter has in the end. -/
inductive Visited (forest : Forest) (id : AdapterId) : List Exchange → Prop
  | refused {failure : FileFailure} {rest : List Exchange} (unasked : Unasked rest)
      (hchips : (forest.adapter id).chips = []) :
      Visited forest id (.listing (forest.adapter id).location (.refused failure) :: rest)
  | listed {heard : List (String × Option (Sighting UInt16))} {talk : List Exchange}
      (turns : InTurn (HeardChip (forest.adapter id).nr (forest.adapter id).location) heard talk)
      (hchips : ((forest.adapter id).chips.map Chip.sighting).Perm (heard.filterMap Prod.snd))
      (hsorted : (forest.adapter id).chips.Pairwise fun a b => a.address ≤ b.address) :
      Visited forest id
        (.listing (forest.adapter id).location (.names (heard.map Prod.fst)) :: talk)

theorem visited_of_surveyChips {chips : List Chip}
    (dialogue : (surveyChips forest id).Dialogue before talk (some chips) after)
    (hplain : final.plain = forest.plain)
    (hchips : (final.adapter id).chips = chips.mergeSort fun a b => a.address ≤ b.address) :
    Visited final id talk := by
  have hsighting := Forest.sighting_eq_of_plain_eq hplain id
  have hnr : (final.adapter id).nr = (forest.adapter id).nr := congrArg Sighting.number hsighting
  have hlocation : (final.adapter id).location = (forest.adapter id).location :=
    congrArg Sighting.location hsighting
  obtain ⟨names, rest, rfl, listed⟩ | ⟨failure, rest, rfl, refused⟩ :=
    dialogue_entries_bind_some_iff.mp dialogue
  · obtain ⟨heard, rfl, hheard, turns⟩ := Act.inTurn_of_filterMap (readOnly_surveyChip _ _ _)
      (fun entry found talk said => heard_surveyChip said) listed
    rw [← hlocation]
    refine .listed (by rwa [hnr, hlocation]) ?_ ?_
    · rw [hchips, hheard]
      exact (List.mergeSort_perm _ _).map _
    · rw [hchips]
      exact pairwise_le_mergeSort_key Chip.address chips
  · obtain ⟨_, rfl, last⟩ := dialogue_report_bind_iff.mp refused
    obtain ⟨rfl, hnone, -⟩ := dialogue_done_iff.mp last
    obtain rfl := Option.some.inj hnone
    rw [← hlocation]
    exact .refused (unasked_notice _ _ _) (hchips.trans List.mergeSort_nil)

theorem visits_of_attachChips {ids : List AdapterId}
    (dialogue : (attachChips ids forest).Dialogue before talk (some final) after) (hnodup : ids.Nodup)
    (hids : ∀ id ∈ ids, id < forest.adapters.size) :
    InTurn (Visited final) ids talk ∧ final.plain = forest.plain ∧
      ∀ id, id ∉ ids → (final.adapter id).chips = (forest.adapter id).chips := by
  induction ids generalizing forest before talk with
  | nil =>
    obtain ⟨rfl, hfinal, -⟩ := dialogue_done_iff.mp dialogue
    obtain rfl := Option.some.inj hfinal
    exact ⟨.nil, rfl, fun _ _ => rfl⟩
  | cons id rest ih =>
    obtain ⟨chips, between, first, later, rfl, head, tail⟩ := dialogue_bind_some_iff.mp dialogue
    obtain ⟨hid, hrest⟩ := List.nodup_cons.mp hnodup
    have hplain : (forest.setChips id chips).plain = forest.plain :=
      Forest.plain_setChips forest id chips
    obtain ⟨turns, hfinal, hothers⟩ := ih tail hrest fun other hother => by
      rw [Forest.setChips, Forest.size_adapters_modify]
      exact hids other (List.mem_cons_of_mem id hother)
    refine ⟨.cons (visited_of_surveyChips head (hfinal.trans hplain) ?_) turns, hfinal.trans hplain,
      fun other hother => ?_⟩
    · -- The chips of the adapter stay what they are while the others are given theirs.
      rw [hothers id hid, Forest.setChips, Forest.adapter_modify,
        if_pos ⟨rfl, hids id List.mem_cons_self⟩]
    · obtain ⟨hne, hother⟩ := not_or.mp (mt List.mem_cons.mpr hother)
      rw [hothers other hother, Forest.setChips, Forest.adapter_modify, if_neg fun h => hne h.1]

/-! ## Whole scans -/

/-- What is said during a scan, and which adapters there are in the end. -/
inductive Told (settings : Settings) (forest : Forest) : List Exchange → Prop
  | intro {mount links reports chips closing : List Exchange}
      {heard : List (String × Option (Sighting UInt32))}
      (mounted : ∀ exchange ∈ mount, exchange.question = .isDirectory settings.sysfsRoot ∨
        exchange.question = .isSysfs settings.sysfsRoot)
      (turns : InTurn (HeardAdapter settings.devicesDir) heard links)
      (hadapters : forest.adapters.toList.map Adapter.sighting = heard.filterMap Prod.snd)
      (hreports : Unasked reports)
      (visits : InTurn (Visited forest) (forest.seats.map Seat.id) chips)
      (hclosing : Unasked closing) :
      Told settings forest
        (mount ++ .listing settings.devicesDir (.names (heard.map Prod.fst)) ::
          (links ++ (reports ++ (chips ++ closing))))

/-- The forest accounts for what was said during a scan. -/
structure Accounts (settings : Settings) (talk : List Exchange) (forest : Forest) : Prop where
  told : Told settings forest talk
  /-- Every adapter is placed or not, and nobody else is. -/
  ids : (forest.seats.map Seat.id ++ forest.unplaced).Perm (List.range forest.adapters.size)
  sits : ∀ id, ∀ chip ∈ (forest.adapter id).chips, forest.SitsOn id chip
  bare : ∀ id ∈ forest.unplaced, (forest.adapter id).chips = []

theorem mounted_of_checkMount {root : FilePath} {verify : Bool}
    (dialogue : (checkMount root verify).run.Dialogue before talk (some (.ok ())) after) :
    ∀ exchange ∈ talk, exchange.question = .isDirectory root ∨ exchange.question = .isSysfs root := by
  unfold checkMount at dialogue
  obtain ⟨directory, _, first, rest, rfl, head, tail⟩ := Op.dialogue_bind_ok_iff.mp dialogue
  obtain rfl := Act.talk_of_query (Op.dialogue_ofAct_ok_iff.mp head)
  rw [List.singleton_append, List.forall_mem_cons]
  refine ⟨.inl rfl, ?_⟩
  cases directory with
  | false => cases tail
  | true =>
    simp only [Bool.not_true, Bool.false_eq_true, if_false] at tail
    split at tail
    · obtain ⟨sysfs, _, second, last, rfl, verified, closing⟩ := Op.dialogue_bind_ok_iff.mp tail
      obtain rfl := Act.talk_of_query (Op.dialogue_ofAct_ok_iff.mp verified)
      rw [List.singleton_append, List.forall_mem_cons]
      refine ⟨.inr rfl, ?_⟩
      cases sysfs with
      | false => cases closing
      | true =>
        cases closing with
        | done => exact nofun
    · cases tail with
      | done => exact nofun

/-- Every listed name is a subject, and those that cannot be adapters are passed over. -/
theorem heard_surveyAdapters {names : List String} {adapters : List Adapter}
    (dialogue : (Act.filterMap (surveyAdapter settings dir) (names.filter isAdapterEntry)).Dialogue before
      talk (some adapters) after) :
    ∃ heard : List (String × Option (Sighting UInt32)), heard.map Prod.fst = names ∧
      heard.filterMap Prod.snd = adapters.map Adapter.sighting ∧ InTurn (HeardAdapter dir) heard talk := by
  rw [Act.filterMap_filter] at dialogue
  refine Act.inTurn_of_filterMap (fun name => ?_) (fun name found talk said => ?_) dialogue
  · split
    · exact readOnly_surveyAdapter _ _ _
    · exact .done
  · split at said
    · exact heard_surveyAdapter said
    next hforeign =>
      obtain ⟨rfl, hfound, -⟩ := dialogue_done_iff.mp said
      obtain rfl := Option.some.inj hfound
      refine .foreign ?_ unasked_nil
      rw [isAdapterEntry, Bool.not_eq_true, Option.isSome_eq_false_iff, Option.isNone_iff_eq_none] at hforeign
      rw [adapterNr?, hforeign]
      rfl

/-- What a scan does once the adapters are known: it gives them their places, and then their chips. -/
def furnish (settings : Settings) (adapters : List Adapter) : Op σ Forest := do
  match Forest.construct adapters settings.orphans with
  | .error fault => throw (.topology fault)
  | .ok built =>
    Op.ofAct (Act.reportAll built.notices)
    let forest ← Op.ofAct (attachChips (built.forest.seats.map Seat.id) built.forest)
    Op.report .info .scan
      (s!"found {forest.size} adapters and {forest.chips.length} devices under " ++
        settings.sysfsRoot.text)
    return forest

theorem scan_eq (settings : Settings) : (scan settings : Op σ Forest) = (do
    checkMount settings.sysfsRoot settings.verifySysfs
    let dir := settings.devicesDir
    let names ← Op.ofFile s!"listing {dir.text}" (← Op.ofAct (Act.entries dir))
    let adapters ← Op.ofAct
      (Act.filterMap (surveyAdapter settings dir) (names.filter isAdapterEntry))
    furnish settings adapters) := rfl

theorem unasked_of_reportAll {notices : List Notice}
    (dialogue : (Act.reportAll notices).Dialogue before talk (some ()) after) : Unasked talk := by
  induction notices generalizing talk with
  | nil => cases dialogue with | done => exact unasked_nil
  | cons notice rest ih =>
    cases dialogue with
    | ask answer others => exact List.forall_mem_cons.mpr ⟨rfl, ih others⟩

theorem told_of_furnish {adapters : List Adapter}
    (dialogue : (furnish settings adapters).run.Dialogue before talk (some (.ok forest)) after) :
    (∃ reports chips closing, talk = reports ++ (chips ++ closing) ∧ Unasked reports ∧
      InTurn (Visited forest) (forest.seats.map Seat.id) chips ∧ Unasked closing) ∧
    forest.adapters.toList.map Adapter.sighting = adapters.map Adapter.sighting ∧
    (forest.seats.map Seat.id ++ forest.unplaced).Perm (List.range forest.adapters.size) := by
  unfold furnish at dialogue
  cases hconstruct : Forest.construct adapters settings.orphans with
  | error fault =>
    rw [hconstruct] at dialogue
    cases dialogue
  | ok built =>
    have hbuilt := Forest.builtFrom_of_construct hconstruct
    have hids := hbuilt.ids_perm
    rw [Forest.preorder_ids] at hids
    rw [hconstruct] at dialogue
    obtain ⟨_, _, reports, _, rfl, reported, furnished⟩ := Op.dialogue_bind_ok_iff.mp dialogue
    obtain ⟨final, _, chips, _, rfl, attached, closed⟩ := Op.dialogue_bind_ok_iff.mp furnished
    obtain ⟨_, _, closing, _, rfl, told, done⟩ := Op.dialogue_bind_ok_iff.mp closed
    obtain ⟨rfl, hfinal, -⟩ := dialogue_done_iff.mp done
    obtain rfl : forest = final := Except.ok.inj (Option.some.inj hfinal)
    have hnodup := (List.nodup_append.mp (hids.nodup_iff.mpr List.nodup_range)).1
    have hlt : ∀ id ∈ built.forest.seats.map Seat.id, id < built.forest.adapters.size := by
      intro id hid
      rw [hbuilt.adapters_eq, List.size_toArray]
      exact List.mem_range.mp (hids.subset (List.mem_append_left _ hid))
    obtain ⟨visits, hplain, -⟩ :=
      visits_of_attachChips (Op.dialogue_ofAct_ok_iff.mp attached) hnodup hlt
    have hseats := Forest.seats_eq_of_plain_eq hplain
    have hsightings := Forest.sightings_eq_of_plain_eq hplain
    rw [hbuilt.adapters_eq] at hsightings
    have hsize : forest.adapters.size = adapters.length := by
      simpa using congrArg List.length hsightings
    rw [hseats, Forest.unplaced_eq_of_plain_eq hplain, hsize]
    refine ⟨⟨reports, chips, _, rfl, ?_, visits, ?_⟩, hsightings, hids⟩
    · exact unasked_of_reportAll (Op.dialogue_ofAct_ok_iff.mp reported)
    · rw [Act.talk_of_query (Op.dialogue_ofAct_ok_iff.mp told)]
      exact unasked_notice _ _ _

/-- **Scans account for what they were told.**  Whatever is answered, and however the answers change, a scan
that succeeds has found

* one adapter for each entry of the directory of links that has the form `i2c-N` and whose link could be
  resolved and whose name could be read, and each of these adapters is either placed or not;
* on each placed adapter, by ascending address, one chip for each entry of the adapter's directory that has
  the form `N-AAAA` for the number of the adapter and whose link could be resolved and whose name could be
  read; each of these chips knows its adapter and the kind, the number and the path of that adapter;
* on an adapter that is not placed, no chips. -/
theorem accounts_of_scan
    (dialogue : (scan settings).run.Dialogue before talk (some (.ok forest)) after) :
    Accounts settings talk forest := by
  have hsits := ((ensures_scan settings).of_dialogue dialogue).1.chips
  rw [scan_eq] at dialogue
  obtain ⟨_, _, mount, _, rfl, checked, mounted⟩ := Op.dialogue_bind_ok_iff.mp dialogue
  obtain ⟨answer, _, first, _, rfl, listed, answered⟩ := Op.dialogue_bind_ok_iff.mp mounted
  obtain ⟨names, _, front, _, rfl, hnames, named⟩ := Op.dialogue_bind_ok_iff.mp answered
  obtain ⟨adapters, _, links, _, rfl, surveyed, furnished⟩ := Op.dialogue_bind_ok_iff.mp named
  obtain ⟨⟨reports, chips, closing, rfl, hreports, visits, hclosing⟩, hsightings, hids⟩ :=
    told_of_furnish furnished
  cases answer with
  | error failure => cases hnames
  | ok answer =>
    cases hnames
    obtain rfl := Act.talk_of_entries (Op.dialogue_ofAct_ok_iff.mp listed)
    obtain ⟨heard, rfl, hheard, turns⟩ := heard_surveyAdapters (Op.dialogue_ofAct_ok_iff.mp surveyed)
    rw [List.singleton_append, List.nil_append]
    refine ⟨.intro (mounted_of_checkMount checked) turns (hsightings.trans hheard.symm) hreports visits
      hclosing, hids, hsits, fun id hid => ?_⟩
    -- Chips sit on placed adapters only.
    apply List.eq_nil_iff_forall_not_mem.mpr
    intro chip hchip
    have hplaced := (hsits id chip hchip).placed
    rw [Forest.Placed, Forest.preorder_ids] at hplaced
    have hnodup := hids.nodup_iff.mpr List.nodup_range
    exact (List.nodup_append.mp hnodup).2.2 id hplaced id hid rfl

/-- The chips stand in the order of their addresses. -/
theorem Accounts.ordered (accounts : Accounts settings talk forest) : forest.Ordered := by
  intro id
  by_cases hid : id ∈ forest.seats.map Seat.id
  · have hvisited : ∃ part, Visited forest id part := by
      cases accounts.told with
      | intro _ _ _ _ visits => exact visits.exists_of_mem hid
    obtain ⟨part, visited⟩ := hvisited
    cases visited with
    | refused _ hnone => exact hnone ▸ .nil
    | listed _ _ hsorted => exact hsorted
  · -- Chips sit on placed adapters only.
    have hnone : (forest.adapter id).chips = [] := by
      apply List.eq_nil_iff_forall_not_mem.mpr
      intro chip hchip
      have hplaced := (accounts.sits id chip hchip).placed
      rw [Forest.Placed, Forest.preorder_ids] at hplaced
      exact hid hplaced
    exact hnone ▸ .nil

/-! ## Forests that are alike -/

theorem Visited.of_alike (alike : forest.Alike final) (visited : Visited forest id talk) :
    Visited final id talk := by
  have hsighting := Forest.sighting_eq_of_plain_eq alike.plain id
  have hnr : (forest.adapter id).nr = (final.adapter id).nr := congrArg Sighting.number hsighting
  have hlocation : (forest.adapter id).location = (final.adapter id).location :=
    congrArg Sighting.location hsighting
  have hchips := alike.chips id
  cases visited with
  | refused unasked hnone =>
    rw [hlocation]
    exact .refused unasked (hchips ▸ hnone)
  | listed turns hperm hsorted =>
    rw [hnr, hlocation] at turns
    rw [hlocation]
    exact .listed turns (hchips ▸ hperm) (hchips ▸ hsorted)

/-- Of forests that are alike, each accounts for what the other does. -/
theorem Accounts.of_alike (alike : forest.Alike final) (accounts : Accounts settings talk forest) :
    Accounts settings talk final := by
  obtain ⟨told, hids, hsits, hbare⟩ := accounts
  have hseats := Forest.seats_eq_of_plain_eq alike.plain
  have hunplaced := Forest.unplaced_eq_of_plain_eq alike.plain
  have hsightings := Forest.sightings_eq_of_plain_eq alike.plain
  have hsize : forest.adapters.size = final.adapters.size := by
    simpa using congrArg List.length hsightings
  refine ⟨?_, by rwa [hseats, hunplaced, hsize] at hids, fun id chip hchip => ?_, fun id hid => ?_⟩
  · cases told with
    | intro mounted turns hadapters hreports visits hclosing =>
      rw [hseats] at visits
      exact .intro mounted turns (hsightings ▸ hadapters) hreports
        (visits.imp fun _ _ => .of_alike alike) hclosing
  · rw [← alike.chips] at hchip
    exact Forest.sitsOn_of_plain_eq alike.plain (hsits id chip hchip)
  · rw [← hunplaced] at hid
    rw [← alike.chips]
    exact hbare id hid

end Scan
end I2cTopology
