import I2cTopology.Handle.Probe
import I2cTopology.Proofs.Dialogues

/-!
# Sessions with an open adapter

A session is what is done with one handle from when it is opened.  The handle keeps one thing from it, the
capabilities, and it has them exactly if a request for them was granted.  All requests of a session go to
the file that was opened.

* `requests`: the requests in a talk, with their answers.
* `queried_of_dialogue`: how the capabilities are looked up.
* `KeepsTrack`: every use of a handle notes what is learned, and nothing else.
* `Session.learns`: what a handle knows at any point of a session.
-/

namespace I2cTopology

/-! ## Requests and their answers -/

/-- A request to an open adapter with its answer. A request that brought the program down has none. -/
structure Asked where
  file : DeviceFile
  request : DeviceRequest
  answer : Option (Except ErrorNumber request.Reply)

namespace Asked

/-- The adapter did what it was asked. -/
def Granted (asked : Asked) : Prop :=
  ∃ reply, asked.answer = some (.ok reply)

/-- The adapter refused, for this reason. -/
def Refused (asked : Asked) (number : ErrorNumber) : Prop :=
  asked.answer = some (.error number)

/-- The address that a selection which was granted selects. -/
def selects? : Asked → Option UInt16
  | ⟨_, .select address _, some (.ok _)⟩ => some address
  | _ => none

end Asked

/-- The capabilities were told. -/
def Told (asked : List Asked) : Prop :=
  ∃ one ∈ asked, one.request = .capabilities ∧ one.Granted

/-- The address that the next transfer goes to: the one that was selected last. -/
def selected (asked : List Asked) : Option UInt16 :=
  (asked.filterMap Asked.selects?).getLast?

/-- A request with its answer, if the question is one. -/
def Exchange.asked? : Exchange → Option Asked
  | ⟨.request file request, answer⟩ => some ⟨file, request, answer⟩
  | _ => none

/-- The requests in a talk. -/
def requests (talk : List Exchange) : List Asked :=
  talk.filterMap Exchange.asked?

/-- An exchange with an open adapter. -/
def Exchange.request (file : DeviceFile) (request : DeviceRequest)
    (answer : Option (Except ErrorNumber request.Reply)) : Exchange :=
  ⟨.request file request, answer⟩

@[simp] theorem requests_nil : requests [] = [] := rfl

@[simp] theorem requests_append (first rest : List Exchange) :
    requests (first ++ rest) = requests first ++ requests rest :=
  List.filterMap_append

@[simp] theorem requests_cons_request (file : DeviceFile) (request : DeviceRequest)
    (answer : Option (Except ErrorNumber request.Reply)) (talk : List Exchange) :
    requests (.request file request answer :: talk) = ⟨file, request, answer⟩ :: requests talk := rfl

@[simp] theorem requests_cons_notice (level : Level) (area : Area) (message : String)
    (talk : List Exchange) : requests (.notice level area message :: talk) = requests talk := rfl

@[simp] theorem told_append {first rest : List Asked} : Told (first ++ rest) ↔ Told first ∨ Told rest := by
  simp only [Told, List.mem_append, or_and_right, exists_or]

namespace Handle

variable {α β : Type} {handle final : Handle} {talk : List Exchange} {request : DeviceRequest}

/-! ## One request -/

/-- A request is answered or brings the program down. -/
theorem dialogue_ask_bind_iff {f : Except ErrorNumber request.Reply → Act Handle α} {r : Option α} :
    ((ask request).bind f).Dialogue handle talk r final ↔
      (∃ answer rest, talk = .request handle.file request (some answer) :: rest ∧
        (f answer).Dialogue handle rest r final) ∨
      talk = [.request handle.file request none] ∧ r = none ∧ final = handle := by
  constructor
  · intro dialogue
    cases dialogue with
    | look said =>
      cases said with
      | ask answer rest => exact .inl ⟨answer, _, rfl, rest⟩
      | broken => exact .inr ⟨rfl, rfl, rfl⟩
  · rintro (⟨answer, rest, rfl, dialogue⟩ | ⟨rfl, rfl, rfl⟩)
    · exact .look (.ask (show (Query.request _ _).Answer from answer) dialogue)
    · exact .look (.broken rfl)

theorem run_require (request : DeviceRequest) :
    (require request).run = .look fun handle => (ask request).bind fun
      | .ok reply => .done (.ok reply)
      | .error number => .done (.error (.device request handle.nr number)) := rfl

theorem dialogue_require_bind_iff {f : request.Reply → Op Handle α} {r : Option (Except Failure α)} :
    (require request >>= f).run.Dialogue handle talk r final ↔
      (∃ reply rest, talk = .request handle.file request (some (.ok reply)) :: rest ∧
        (f reply).run.Dialogue handle rest r final) ∨
      (∃ number, talk = [.request handle.file request (some (.error number))] ∧
        r = some (.error (.device request handle.nr number)) ∧ final = handle) ∨
      talk = [.request handle.file request none] ∧ r = none ∧ final = handle := by
  rw [Op.run_bind, run_require, Act.bind, Act.dialogue_look_iff, Act.bind_assoc, dialogue_ask_bind_iff,
    ← or_assoc]
  refine or_congr_left ⟨?_, ?_⟩
  · rintro ⟨answer, rest, rfl, dialogue⟩
    cases answer with
    | ok reply => exact .inl ⟨reply, rest, rfl, dialogue⟩
    | error number =>
      obtain ⟨rfl, rfl, rfl⟩ := Act.dialogue_done_iff.mp dialogue
      exact .inr ⟨number, rfl, rfl, rfl⟩
  · rintro (⟨reply, rest, rfl, dialogue⟩ | ⟨number, rfl, rfl, rfl⟩)
    · exact ⟨.ok reply, rest, rfl, dialogue⟩
    · exact ⟨.error number, [], rfl, .done⟩

/-! ## Capabilities -/

/-- How the capabilities are looked up: what is said, what comes of it and the handle afterwards. -/
inductive Queried (handle : Handle) :
    List Exchange → Option (Except Failure Functionality) → Handle → Prop
  | known {capabilities : Functionality} (hknown : handle.capabilities = some capabilities) :
      Queried handle [] (some (.ok capabilities)) handle
  | lost (hunknown : handle.capabilities = none) :
      Queried handle [.request handle.file .capabilities none] none handle
  | refused (hunknown : handle.capabilities = none) (number : ErrorNumber) :
      Queried handle [.request handle.file .capabilities (some (.error number))]
        (some (.error (.device .capabilities handle.nr number))) handle
  | told (hunknown : handle.capabilities = none) (word : UInt64) :
      Queried handle [.request handle.file .capabilities (some (.ok word))]
        (some (.ok (.ofWord word))) { handle with capabilities := some (.ofWord word) }

theorem queried_of_dialogue {result : Option (Except Failure Functionality)}
    (dialogue : functionality.run.Dialogue handle talk result final) :
    Queried handle talk result final := by
  rw [functionality, Op.run_getState_bind, Act.dialogue_look_iff] at dialogue
  cases hcapabilities : handle.capabilities with
  | some capabilities =>
    rw [hcapabilities] at dialogue
    obtain ⟨rfl, rfl, rfl⟩ := Act.dialogue_done_iff.mp dialogue
    exact .known hcapabilities
  | none =>
    rw [hcapabilities] at dialogue
    obtain ⟨word, rest, rfl, told⟩ | ⟨number, rfl, rfl, rfl⟩ | ⟨rfl, rfl, rfl⟩ :=
      dialogue_require_bind_iff.mp dialogue
    · rw [Op.run_modifyState_bind, Act.dialogue_look_iff, Act.dialogue_store_iff] at told
      obtain ⟨rfl, rfl, rfl⟩ := Act.dialogue_done_iff.mp told
      exact .told hcapabilities word
    · exact .refused hcapabilities number
    · exact .lost hcapabilities

/-! ## Sessions -/

/-- The handles are for the same adapter and on the same file. -/
structure SameFile (handle other : Handle) : Prop where
  nr : other.nr = handle.nr
  file : other.file = handle.file

/-- What a use of a handle does to it: adapter and file stay, all requests go to the file, and the
capabilities are known afterwards if they were before or have been told. -/
structure Learns (handle : Handle) (asked : List Asked) (final : Handle) : Prop where
  same : handle.SameFile final
  file : ∀ one ∈ asked, one.file = handle.file
  knows : final.capabilities.isSome = true ↔ handle.capabilities.isSome = true ∨ Told asked

theorem Learns.nil (handle : Handle) : Learns handle [] handle where
  same := ⟨rfl, rfl⟩
  file one hone := absurd hone List.not_mem_nil
  knows := by simp [Told]

theorem Learns.trans {between : Handle} {first rest : List Asked} (head : Learns handle first between)
    (tail : Learns between rest final) : Learns handle (first ++ rest) final where
  same := ⟨tail.same.nr.trans head.same.nr, tail.same.file.trans head.same.file⟩
  file one hone := by
    obtain hfirst | hrest := List.mem_append.mp hone
    · exact head.file one hfirst
    · exact (tail.file one hrest).trans head.same.file
  knows := by rw [tail.knows, head.knows, told_append, or_assoc]

/-- A request that does not bring the capabilities teaches nothing. -/
theorem learns_request (answer : Option (Except ErrorNumber request.Reply))
    (hother : request = .capabilities → ¬ (⟨handle.file, request, answer⟩ : Asked).Granted) :
    Learns handle [⟨handle.file, request, answer⟩] handle where
  same := ⟨rfl, rfl⟩
  file one hone := by
    obtain rfl := List.mem_singleton.mp hone
    rfl
  knows := by
    refine (or_iff_left ?_).symm
    rintro ⟨one, hone, hcapabilities, hgranted⟩
    obtain rfl := List.mem_singleton.mp hone
    exact hother hcapabilities hgranted

theorem learns_of_queried {result : Option (Except Failure Functionality)}
    (queried : Queried handle talk result final) : Learns handle (requests talk) final := by
  cases queried with
  | known => exact .nil handle
  | lost => exact learns_request _ fun _ ⟨_, hreply⟩ => by cases hreply
  | refused => exact learns_request _ fun _ ⟨_, hreply⟩ => by cases hreply
  | told hunknown word =>
    refine ⟨⟨rfl, rfl⟩, fun one hone => ?_, iff_of_true rfl (.inr ⟨_, List.mem_singleton_self _, rfl, word, rfl⟩)⟩
    obtain rfl := List.mem_singleton.mp hone
    rfl

/-- Whatever is answered, the act does no more to a handle than to note what is learned. -/
def KeepsTrack (act : Act Handle α) : Prop :=
  ∀ handle talk result final, act.Dialogue handle talk result final → Learns handle (requests talk) final

namespace KeepsTrack

theorem done (a : α) : KeepsTrack (.done a) := by
  intro handle talk result final dialogue
  obtain ⟨rfl, -, rfl⟩ := Act.dialogue_done_iff.mp dialogue
  exact .nil final

theorem look {next : Handle → Act Handle α} (each : ∀ handle, KeepsTrack (next handle)) :
    KeepsTrack (.look next) :=
  fun handle talk result final dialogue =>
    each handle handle talk result final (Act.dialogue_look_iff.mp dialogue)

theorem bind {act : Act Handle α} {f : α → Act Handle β} (head : KeepsTrack act)
    (tail : ∀ a, KeepsTrack (f a)) : KeepsTrack (act.bind f) := by
  intro handle talk result final dialogue
  obtain ⟨a, between, first, rest, rfl, hhead, htail⟩ | ⟨rfl, hhead⟩ :=
    Act.dialogue_bind_iff.mp dialogue
  · rw [requests_append]
    exact (head _ _ _ _ hhead).trans (tail a _ _ _ _ htail)
  · exact head _ _ _ _ hhead

theorem andThen {op : Op Handle α} {f : α → Op Handle β} (head : KeepsTrack op.run)
    (tail : ∀ a, KeepsTrack (f a).run) : KeepsTrack (op >>= f).run := by
  rw [Op.run_bind]
  refine head.bind fun outcome => ?_
  cases outcome with
  | error failure => exact done _
  | ok a => exact tail a

theorem ofAct {act : Act Handle α} (head : KeepsTrack act) : KeepsTrack (Op.ofAct act).run :=
  head.bind fun _ => done _

theorem report (level : Level) (area : Area) (message : String) :
    KeepsTrack (Op.report level area message).run := by
  intro handle talk result final dialogue
  rw [Op.run_report] at dialogue
  obtain ⟨rest, rfl, closed⟩ := Act.dialogue_report_bind_iff.mp dialogue
  obtain ⟨rfl, -, rfl⟩ := Act.dialogue_done_iff.mp closed
  exact .nil final

/-- What is asked for besides the capabilities is not kept. -/
theorem ask (hother : request ≠ .capabilities) : KeepsTrack (ask request) := by
  intro handle talk result final dialogue
  rw [← Act.bind_done (Handle.ask request)] at dialogue
  obtain ⟨answer, rest, rfl, closed⟩ | ⟨rfl, -, rfl⟩ := dialogue_ask_bind_iff.mp dialogue
  · obtain ⟨rfl, -, rfl⟩ := Act.dialogue_done_iff.mp closed
    exact learns_request _ fun hcapabilities => absurd hcapabilities hother
  · exact learns_request _ fun hcapabilities => absurd hcapabilities hother

theorem require (hother : request ≠ .capabilities) : KeepsTrack (require request).run := by
  rw [run_require]
  refine .look fun handle => (KeepsTrack.ask hother).bind fun answer => ?_
  cases answer <;> exact done _

end KeepsTrack

theorem keepsTrack_functionality : KeepsTrack functionality.run :=
  fun _ _ _ _ dialogue => learns_of_queried (queried_of_dialogue dialogue)

theorem keepsTrack_setTimeout (milliseconds : UInt32) : KeepsTrack (setTimeout milliseconds).run := by
  unfold setTimeout
  split
  · exact .done _
  · exact (KeepsTrack.require (by simp)).andThen fun _ => .done _

theorem keepsTrack_setRetries (count : UInt32) : KeepsTrack (setRetries count).run := by
  unfold setRetries
  dsimp only
  split
  · exact (KeepsTrack.require (by simp)).andThen fun _ => .done _
  · exact .look fun _ => .done _

/-- What a probe does once the capabilities are known: it selects the chip and makes a transfer. -/
def contact (nr : UInt32) (address : UInt16) (mode : ProbeMode) : Op Handle ProbeOutcome := do
  match ← Op.ofAct (ask (.select address false)) with
  | .error number =>
    if number = .busy then return .busy
    else throw (.device (.select address false) nr number)
  | .ok _ =>
    let answer ← Op.ofAct (transfer mode)
    Op.report .debug .handle
      (s!"i2c-{nr}: probe 0x{Numeral.hexadecimal 2 address.toNat} with {mode.name}: " ++
        showAnswer answer)
    match answer with
    | .ok _ => return .present
    | .error _ => return .absent

theorem keepsTrack_contact (nr : UInt32) (address : UInt16) (mode : ProbeMode) :
    KeepsTrack (contact nr address mode).run := by
  refine (KeepsTrack.ask (by simp)).ofAct.andThen fun selected => ?_
  cases selected with
  | error number =>
    dsimp only
    split <;> exact .done _
  | ok _ =>
    have htransfer : mode.transfer ≠ .capabilities := by cases mode <;> simp [ProbeMode.transfer]
    refine KeepsTrack.andThen (.ofAct ((KeepsTrack.ask htransfer).bind fun answer => ?_)) fun answer =>
      (KeepsTrack.report _ _ _).andThen fun _ => ?_
    · cases answer <;> exact .done _
    · cases answer <;> exact .done _

theorem keepsTrack_probe (address : UInt16) (mode : ProbeMode) : KeepsTrack (probe address mode).run := by
  unfold probe
  split
  · exact .done _
  · refine keepsTrack_functionality.andThen fun capabilities =>
      KeepsTrack.andThen (.look fun _ => .done _) fun handle => ?_
    dsimp only
    split
    · exact (KeepsTrack.report _ _ _).andThen fun _ => keepsTrack_contact handle.nr address _
    · exact keepsTrack_contact handle.nr address _

theorem keepsTrack_probeAll (mode : ProbeMode) (addresses : List UInt16) :
    KeepsTrack (probeAll mode addresses).run := by
  induction addresses with
  | nil => exact .done _
  | cons address rest ih =>
    exact (keepsTrack_probe address mode).andThen fun _ => ih.andThen fun _ => .done _

/-- The ways to use an open adapter. -/
inductive Use where
  | functionality
  | setTimeout (milliseconds : UInt32)
  | setRetries (count : UInt32)
  | select (address : UInt16) (force : Bool)
  | writeQuick (bit : Bool)
  | readByte
  | probe (address : UInt16) (mode : ProbeMode)
  | probeAll (mode : ProbeMode) (addresses : List UInt16)

namespace Use

/-- What a use comes to. -/
def Result : Use → Type
  | functionality => Functionality
  | writeQuick _ => Except ErrorNumber Unit
  | readByte => Except ErrorNumber UInt8
  | probe _ _ => ProbeOutcome
  | probeAll _ _ => List (UInt16 × ProbeOutcome)
  | _ => Unit

/-- The operation of a use. -/
def op : (use : Use) → Op Handle use.Result
  | functionality => Handle.functionality
  | setTimeout milliseconds => Handle.setTimeout milliseconds
  | setRetries count => Handle.setRetries count
  | select address force => Handle.select address force
  | writeQuick bit => Op.ofAct (Handle.writeQuick bit)
  | readByte => Op.ofAct Handle.readByte
  | probe address mode => Handle.probe address mode
  | probeAll mode addresses => Handle.probeAll mode addresses

theorem keepsTrack (use : Use) : KeepsTrack use.op.run := by
  cases use with
  | functionality => exact keepsTrack_functionality
  | setTimeout milliseconds => exact keepsTrack_setTimeout milliseconds
  | setRetries count => exact keepsTrack_setRetries count
  | select address force => exact (KeepsTrack.require (by simp)).andThen fun _ => .done _
  | writeQuick bit => exact .ofAct (.ask (by simp))
  | readByte => exact .ofAct (.ask (by simp))
  | probe address mode => exact keepsTrack_probe address mode
  | probeAll mode addresses => exact keepsTrack_probeAll mode addresses

end Use

/-- The uses of a handle from when it is opened: what was said, and the handle afterwards. -/
inductive Session (nr : UInt32) (file : DeviceFile) : List Exchange → Handle → Prop
  | opened : Session nr file [] { nr := nr, file := file }
  | used {talk said : List Exchange} {handle final : Handle} (session : Session nr file talk handle)
      (use : Use) {result : Option (Except Failure use.Result)}
      (dialogue : use.op.run.Dialogue handle said result final) : Session nr file (talk ++ said) final

/-- A handle knows the capabilities exactly if they were told in the session. -/
theorem Session.learns {nr : UInt32} {file : DeviceFile} (session : Session nr file talk handle) :
    Learns { nr := nr, file := file } (requests talk) handle := by
  induction session with
  | opened => exact .nil _
  | used _ use dialogue ih =>
    rw [requests_append]
    exact ih.trans (use.keepsTrack _ _ _ _ dialogue)

end Handle
end I2cTopology
