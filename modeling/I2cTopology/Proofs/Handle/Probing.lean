import I2cTopology.Proofs.Handle.Session
import Mathlib.Data.Set.Basic

/-!
# Probing an address

A probe asks for the capabilities, selects the address and makes one transfer, each only if the request
before it was granted.  Which requests it makes depends on the session so far in one point only: whether the
capabilities have been told.

* `contacted_of_dialogue`, `probed_of_dialogue`: how a probe goes.
* `Careful`, `careful_of_probed`: its requests and its result, in terms of the session before it.
* `probe_of_session`: every probe of every session.
-/

namespace I2cTopology
namespace Handle

variable {handle final : Handle} {talk : List Exchange}

/-! ## Selection and transfer -/

/-- How a chip is contacted once the capabilities are known: the selection, the transfer and what comes of
them. -/
inductive Contacted (file : DeviceFile) (nr : UInt32) (address : UInt16) (request : DeviceRequest) :
    List Asked → List Asked → Option (Except Failure ProbeOutcome) → Prop
  | lost : Contacted file nr address request [⟨file, .select address false, none⟩] [] none
  | busy : Contacted file nr address request [⟨file, .select address false, some (.error .busy)⟩] []
      (some (.ok .busy))
  | refused {number : ErrorNumber} (hnumber : number ≠ .busy) :
      Contacted file nr address request [⟨file, .select address false, some (.error number)⟩] []
        (some (.error (.device (.select address false) nr number)))
  | transferLost : Contacted file nr address request [⟨file, .select address false, some (.ok ())⟩]
      [⟨file, request, none⟩] none
  | present (reply : request.Reply) :
      Contacted file nr address request [⟨file, .select address false, some (.ok ())⟩]
        [⟨file, request, some (.ok reply)⟩] (some (.ok .present))
  | absent (number : ErrorNumber) :
      Contacted file nr address request [⟨file, .select address false, some (.ok ())⟩]
        [⟨file, request, some (.error number)⟩] (some (.ok .absent))

theorem transfer_eq (mode : ProbeMode) :
    transfer mode = (ask mode.transfer).bind fun
      | .ok _ => .done (.ok ())
      | .error number => .done (.error number) := rfl

theorem contacted_of_dialogue {nr : UInt32} {address : UInt16} {mode : ProbeMode}
    {result : Option (Except Failure ProbeOutcome)}
    (dialogue : (contact nr address mode).run.Dialogue handle talk result final) :
    ∃ selection transfer, requests talk = selection ++ transfer ∧
      Contacted handle.file nr address mode.transfer selection transfer result := by
  rw [contact, Op.run_ofAct_bind] at dialogue
  obtain ⟨selected, rest, rfl, later⟩ | ⟨rfl, rfl, -⟩ := dialogue_ask_bind_iff.mp dialogue
  · cases selected with
    | error number =>
      dsimp only at later
      split at later
      next hbusy =>
        subst hbusy
        obtain ⟨rfl, rfl, -⟩ := Act.dialogue_done_iff.mp later
        exact ⟨_, _, rfl, .busy⟩
      next hother =>
        obtain ⟨rfl, rfl, -⟩ := Act.dialogue_done_iff.mp later
        exact ⟨_, _, rfl, .refused hother⟩
    | ok reply =>
      rw [Op.run_ofAct_bind, transfer_eq, Act.bind_assoc] at later
      obtain ⟨answer, rest, rfl, told⟩ | ⟨rfl, rfl, -⟩ := dialogue_ask_bind_iff.mp later
      · cases answer with
        | ok reply =>
          obtain ⟨closing, rfl, closed⟩ := Act.dialogue_report_bind_iff.mp told
          obtain ⟨rfl, rfl, -⟩ := Act.dialogue_done_iff.mp closed
          exact ⟨[_], _, rfl, .present reply⟩
        | error number =>
          obtain ⟨closing, rfl, closed⟩ := Act.dialogue_report_bind_iff.mp told
          obtain ⟨rfl, rfl, -⟩ := Act.dialogue_done_iff.mp closed
          exact ⟨[_], _, rfl, .absent number⟩
      · exact ⟨[_], _, rfl, .transferLost⟩
  · exact ⟨_, _, rfl, .lost⟩

/-! ## A probe -/

/-- The transfer that a probe is to make: a received byte if that is asked for, or if nothing is and the
address is one of a memory chip, and a quick command otherwise. -/
def probeTransfer (mode : ProbeMode) (address : UInt16) : DeviceRequest :=
  if mode = .readByte ∨ mode = .auto ∧
      (0x30 ≤ address ∧ address ≤ 0x37 ∨ 0x50 ≤ address ∧ address ≤ 0x5f) then
    .receiveByte
  else
    .quick false

theorem transfer_forAddress (mode : ProbeMode) (address : UInt16) :
    (mode.forAddress address).transfer = probeTransfer mode address := by
  cases mode with
  | auto =>
    rw [ProbeMode.forAddress, probeTransfer]
    by_cases hmemory : 0x30 ≤ address ∧ address ≤ 0x37 ∨ 0x50 ≤ address ∧ address ≤ 0x5f
    · simp [ProbeMode.isMemoryAddress, hmemory, ProbeMode.transfer]
    · simp [ProbeMode.isMemoryAddress, hmemory, ProbeMode.transfer]
  | quick => rfl
  | readByte => rfl

/-- How a probe goes: what is asked and what comes of it. -/
inductive Probed (handle : Handle) (address : UInt16) (mode : ProbeMode) :
    List Asked → Option (Except Failure ProbeOutcome) → Prop
  | lost {talk : List Exchange} {final : Handle} (queried : Queried handle talk none final) :
      Probed handle address mode (requests talk) none
  | refused {talk : List Exchange} {failure : Failure} {final : Handle}
      (queried : Queried handle talk (some (.error failure)) final) :
      Probed handle address mode (requests talk) (some (.error failure))
  | contacted {talk : List Exchange} {capabilities : Functionality} {between : Handle}
      {selection transfer : List Asked} {result : Option (Except Failure ProbeOutcome)}
      (queried : Queried handle talk (some (.ok capabilities)) between)
      (contacted : Contacted between.file between.nr address (probeTransfer mode address) selection
        transfer result) :
      Probed handle address mode (requests talk ++ selection ++ transfer) result

/-- Nothing is said about an address that no probe may target. -/
theorem dialogue_probe_invalid {address : UInt16} {mode : ProbeMode}
    {result : Option (Except Failure ProbeOutcome)} (hvalid : isProbeAddress address = false)
    (dialogue : (probe address mode).run.Dialogue handle talk result final) :
    talk = [] ∧ result = some (.error (.invalidAddress address)) := by
  have hprobe : (probe address mode).run = .done (.error (.invalidAddress address)) := by
    rw [probe, hvalid]
    rfl
  rw [hprobe] at dialogue
  obtain ⟨rfl, rfl, -⟩ := Act.dialogue_done_iff.mp dialogue
  exact ⟨rfl, rfl⟩

theorem probed_of_dialogue {address : UInt16} {mode : ProbeMode}
    {result : Option (Except Failure ProbeOutcome)} (hvalid : isProbeAddress address = true)
    (dialogue : (probe address mode).run.Dialogue handle talk result final) :
    Probed handle address mode (requests talk) result := by
  rw [probe, hvalid] at dialogue
  obtain ⟨capabilities, between, first, rest, rfl, queried, later⟩ | ⟨failure, queried, rfl⟩ |
    ⟨queried, rfl⟩ := Op.dialogue_bind_iff.mp dialogue
  · have contacted : ∃ selection transfer, requests rest = selection ++ transfer ∧
        Contacted between.file between.nr address (probeTransfer mode address) selection transfer
          result := by
      rw [Op.run_getState_bind, Act.dialogue_look_iff] at later
      dsimp only at later
      rw [← transfer_forAddress]
      split at later
      · -- The warning is no request.
        rw [Op.run_report_bind] at later
        obtain ⟨contacting, rfl, contacted⟩ := Act.dialogue_report_bind_iff.mp later
        rw [requests_cons_notice]
        exact contacted_of_dialogue contacted
      · exact contacted_of_dialogue later
    obtain ⟨selection, transfer, hrest, contacted⟩ := contacted
    rw [requests_append, hrest, ← List.append_assoc]
    exact .contacted (queried_of_dialogue queried) contacted
  · exact .refused (queried_of_dialogue queried)
  · exact .lost (queried_of_dialogue queried)

/-! ## Probes in a session -/

theorem selected_append_select (earlier : List Asked) (file : DeviceFile) (address : UInt16) (force : Bool) :
    selected (earlier ++ [⟨file, .select address force, some (.ok ())⟩]) = some address := by
  rw [selected, List.filterMap_append]
  exact List.getLast?_concat

/-- What comes of a probe, by the answers to its requests. -/
structure Ends (nr : UInt32) (address : UInt16) (query selection transfer : List Asked)
    (result : Option (Except Failure ProbeOutcome)) : Prop where
  present : result = some (.ok .present) ↔ ∃ one ∈ transfer, one.Granted
  absent : result = some (.ok .absent) ↔ ∃ one ∈ transfer, ∃ number, one.Refused number
  busy : result = some (.ok .busy) ↔ ∃ one ∈ selection, one.Refused .busy
  failed : ∀ failure, result = some (.error failure) ↔
    (∃ one ∈ query, ∃ number, one.Refused number ∧ failure = .device .capabilities nr number) ∨
    ∃ one ∈ selection, ∃ number, one.Refused number ∧ number ≠ .busy ∧
      failure = .device (.select address false) nr number
  lost : result = none ↔ ∃ one ∈ query ++ selection ++ transfer, one.answer = none

/-- The requests of a probe, by what was asked in the session before, and what comes of it. -/
structure Careful (nr : UInt32) (file : DeviceFile) (earlier : List Asked) (address : UInt16)
    (mode : ProbeMode) (query selection transfer : List Asked)
    (result : Option (Except Failure ProbeOutcome)) : Prop where
  /-- The capabilities are asked for if they have not been told. -/
  asks : Told earlier ∧ query = [] ∨ ¬ Told earlier ∧ ∃ answer, query = [⟨file, .capabilities, answer⟩]
  /-- Once the capabilities are told, the address is selected, without force. -/
  selects : ¬ Told (earlier ++ query) ∧ selection = [] ∨
    Told (earlier ++ query) ∧ ∃ answer, selection = [⟨file, .select address false, answer⟩]
  /-- If the selection is granted, there is one transfer, and it goes to the address. -/
  transfers : (∀ one ∈ selection, ¬ one.Granted) ∧ transfer = [] ∨
    (∃ one ∈ selection, one.Granted) ∧ selected (earlier ++ query ++ selection) = some address ∧
      ∃ answer, transfer = [⟨file, probeTransfer mode address, answer⟩]
  ends : Ends nr address query selection transfer result

section

variable {nr : UInt32} {file : DeviceFile} {earlier query selection transfer asked : List Asked}
  {address : UInt16} {mode : ProbeMode} {result : Option (Except Failure ProbeOutcome)}

/-- Requests for the capabilities that are granted do not decide what comes of a probe. -/
theorem Ends.of_granted (ends : Ends nr address [] selection transfer result)
    (hgranted : ∀ one ∈ query, one.Granted) : Ends nr address query selection transfer result where
  present := ends.present
  absent := ends.absent
  busy := ends.busy
  failed failure := by
    rw [ends.failed]
    refine or_congr_left (iff_of_false (by simp) ?_)
    rintro ⟨one, hone, number, hrefused, -⟩
    obtain ⟨reply, hreply⟩ := hgranted one hone
    cases hreply.symm.trans hrefused
  lost := by
    rw [ends.lost]
    simp only [List.append_assoc, List.nil_append, List.mem_append, or_and_right, exists_or]
    refine (or_iff_right ?_).symm
    rintro ⟨one, hone, hlost⟩
    obtain ⟨reply, hreply⟩ := hgranted one hone
    cases hreply.symm.trans hlost

theorem Contacted.ends {request : DeviceRequest}
    (contacted : Contacted file nr address request selection transfer result) :
    Ends nr address [] selection transfer result := by
  cases contacted with
  | lost => constructor <;> simp [Asked.Granted, Asked.Refused]
  | busy => constructor <;> simp [Asked.Granted, Asked.Refused]
  | refused hnumber => constructor <;> simp [Asked.Granted, Asked.Refused, hnumber, eq_comm]
  | transferLost => constructor <;> simp [Asked.Granted, Asked.Refused]
  | present reply => constructor <;> simp [Asked.Granted, Asked.Refused]
  | absent number => constructor <;> simp [Asked.Granted, Asked.Refused]

theorem Contacted.selects {request : DeviceRequest}
    (contacted : Contacted file nr address request selection transfer result) :
    ∃ answer, selection = [⟨file, .select address false, answer⟩] := by
  cases contacted <;> exact ⟨_, rfl⟩

/-- A transfer is made right after a selection that is granted. -/
theorem Contacted.transfers {request : DeviceRequest}
    (contacted : Contacted file nr address request selection transfer result) (earlier : List Asked) :
    (∀ one ∈ selection, ¬ one.Granted) ∧ transfer = [] ∨
      (∃ one ∈ selection, one.Granted) ∧ selected (earlier ++ selection) = some address ∧
        ∃ answer, transfer = [⟨file, request, answer⟩] := by
  have hgranted : ∃ one ∈ [(⟨file, .select address false, some (.ok ())⟩ : Asked)], one.Granted :=
    ⟨_, List.mem_singleton_self _, (), rfl⟩
  have hselected := selected_append_select earlier file address false
  cases contacted with
  | lost => exact .inl ⟨by simp [Asked.Granted], rfl⟩
  | busy => exact .inl ⟨by simp [Asked.Granted], rfl⟩
  | refused => exact .inl ⟨by simp [Asked.Granted], rfl⟩
  | transferLost => exact .inr ⟨hgranted, hselected, _, rfl⟩
  | present => exact .inr ⟨hgranted, hselected, _, rfl⟩
  | absent => exact .inr ⟨hgranted, hselected, _, rfl⟩

theorem Queried.isSome_iff {outcome : Option (Except Failure Functionality)}
    (queried : Queried handle talk outcome final) :
    final.capabilities.isSome = true ↔ ∃ capabilities, outcome = some (.ok capabilities) := by
  cases queried with
  | known hknown => simp [hknown]
  | lost hunknown => simp [hunknown]
  | refused hunknown => simp [hunknown]
  | told => simp

theorem Queried.granted {capabilities : Functionality}
    (queried : Queried handle talk (some (.ok capabilities)) final) : ∀ one ∈ requests talk, one.Granted := by
  cases queried with
  | known => exact fun one hone => absurd hone List.not_mem_nil
  | told hunknown word =>
    intro one hone
    obtain rfl := List.mem_singleton.mp hone
    exact ⟨word, rfl⟩

/-- The capabilities are asked for exactly if the session has not brought them. -/
theorem Queried.asks {outcome : Option (Except Failure Functionality)}
    (queried : Queried handle talk outcome final)
    (learns : Learns { nr := nr, file := file } earlier handle) :
    Told earlier ∧ requests talk = [] ∨
      ¬ Told earlier ∧ ∃ answer, requests talk = [⟨file, .capabilities, answer⟩] := by
  have hknows : handle.capabilities.isSome = true ↔ Told earlier := by
    rw [learns.knows]
    exact or_iff_right (by simp)
  have hfile : handle.file = file := learns.same.file
  rw [← hknows, ← hfile]
  cases queried with
  | known hknown => exact .inl ⟨by rw [hknown, Option.isSome_some], rfl⟩
  | lost hunknown => exact .inr ⟨by simp [hunknown], _, rfl⟩
  | refused hunknown => exact .inr ⟨by simp [hunknown], _, rfl⟩
  | told hunknown => exact .inr ⟨by simp [hunknown], _, rfl⟩

/-- Every probe of a valid address is careful. -/
theorem careful_of_probed (learns : Learns { nr := nr, file := file } earlier handle)
    (probed : Probed handle address mode asked result) :
    ∃ query selection transfer, asked = query ++ selection ++ transfer ∧
      Careful nr file earlier address mode query selection transfer result := by
  have hnr : handle.nr = nr := learns.same.nr
  -- After the query the capabilities are known exactly if they were told by then.
  have htold {talk : List Exchange} {outcome : Option (Except Failure Functionality)} {between : Handle}
      (queried : Queried handle talk outcome between) :
      Told (earlier ++ requests talk) ↔ ∃ capabilities, outcome = some (.ok capabilities) := by
    rw [← queried.isSome_iff, (learns.trans (learns_of_queried queried)).knows]
    exact (or_iff_right (by simp)).symm
  cases probed with
  | @lost talk between queried =>
    have huntold : ¬ Told (earlier ++ requests talk) := by simp [htold queried]
    refine ⟨requests talk, [], [], by simp, queried.asks learns, .inl ⟨huntold, rfl⟩, .inl ⟨by simp, rfl⟩, ?_⟩
    cases queried with
    | lost => constructor <;> simp [Asked.Refused]
  | @refused talk failure between queried =>
    have huntold : ¬ Told (earlier ++ requests talk) := by simp [htold queried]
    refine ⟨requests talk, [], [], by simp, queried.asks learns, .inl ⟨huntold, rfl⟩, .inl ⟨by simp, rfl⟩, ?_⟩
    cases queried with
    | refused => constructor <;> simp [Asked.Refused, hnr, eq_comm]
  | @contacted talk capabilities between selection transfer _ queried contacted =>
    obtain ⟨hnr, hfile⟩ := (learns.trans (learns_of_queried queried)).same
    rw [hnr, hfile] at contacted
    have hknown : Told (earlier ++ requests talk) := (htold queried).mpr ⟨capabilities, rfl⟩
    exact ⟨requests talk, selection, transfer, rfl, queried.asks learns, .inr ⟨hknown, contacted.selects⟩,
      contacted.transfers _, contacted.ends.of_granted queried.granted⟩

/-! ## What no probe does -/

/-- What may be requested, and a transfer only after a selection that is granted. -/
theorem Careful.request_cases
    (careful : Careful nr file earlier address mode query selection transfer result) {one : Asked}
    (hone : one ∈ query ++ selection ++ transfer) :
    one.request = .capabilities ∨ one.request = .select address false ∨
      one.request = probeTransfer mode address ∧ ∃ other ∈ selection, other.Granted := by
  rw [List.mem_append, List.mem_append] at hone
  obtain (hquery | hselection) | htransfer := hone
  · obtain ⟨-, rfl⟩ | ⟨-, _, rfl⟩ := careful.asks
    · exact absurd hquery List.not_mem_nil
    · obtain rfl := List.mem_singleton.mp hquery
      exact .inl rfl
  · obtain ⟨-, rfl⟩ | ⟨-, _, rfl⟩ := careful.selects
    · exact absurd hselection List.not_mem_nil
    · obtain rfl := List.mem_singleton.mp hselection
      exact .inr (.inl rfl)
  · obtain ⟨-, rfl⟩ | ⟨hgranted, -, _, rfl⟩ := careful.transfers
    · exact absurd htransfer List.not_mem_nil
    · obtain rfl := List.mem_singleton.mp htransfer
      exact .inr (.inr ⟨rfl, hgranted⟩)

theorem Careful.select_ne (careful : Careful nr file earlier address mode query selection transfer result) :
    ∀ one ∈ query ++ selection ++ transfer, ∀ forced, one.request ≠ .select forced true := by
  intro one hone forced hforced
  obtain h | h | ⟨h, -⟩ := careful.request_cases hone
  · cases hforced.symm.trans h
  · cases hforced.symm.trans h
  · rw [hforced, probeTransfer] at h
    split at h <;> cases h

/-- A transfer takes a selection of the address that is granted. -/
theorem Careful.isTransfer_eq_false
    (careful : Careful nr file earlier address mode query selection transfer result)
    (hspared : ∀ one ∈ selection, one.request = .select address false → ¬ one.Granted) :
    ∀ one ∈ query ++ selection ++ transfer, one.request.isTransfer = false := by
  intro one hone
  obtain h | h | ⟨-, other, hother, hgranted⟩ := careful.request_cases hone
  · rw [h]
    rfl
  · rw [h]
    rfl
  · obtain ⟨-, rfl⟩ | ⟨-, _, rfl⟩ := careful.selects
    · exact absurd hother List.not_mem_nil
    · refine absurd hgranted (hspared other hother ?_)
      obtain rfl := List.mem_singleton.mp hother
      rfl

theorem Careful.quick_ne (careful : Careful nr file earlier address .auto query selection transfer result)
    (hmemory : 0x30 ≤ address ∧ address ≤ 0x37 ∨ 0x50 ≤ address ∧ address ≤ 0x5f) :
    ∀ one ∈ query ++ selection ++ transfer, ∀ bit, one.request ≠ .quick bit := by
  intro one hone bit hquick
  obtain h | h | ⟨h, -⟩ := careful.request_cases hone
  · cases hquick.symm.trans h
  · cases hquick.symm.trans h
  · have htransfer : probeTransfer .auto address = .receiveByte := if_pos (.inr ⟨rfl, hmemory⟩)
    rw [hquick, htransfer] at h
    cases h

/-- **Probes do no harm.**  Take a probe at any point of a session, whatever was and is answered.

* About an address outside `0x01` to `0x7f` nothing is asked.
* About any other address, the capabilities are asked for exactly if the session has not brought them; once
  they are told, the address is selected, and once it is selected, there is one transfer to it: a received byte
  if that was chosen or if nothing was and the address is one of a memory chip, and a quick command otherwise.
  The result tells whether the transfer was acknowledged, whether the address is busy, or why the capabilities
  or the selection were refused, and there is one unless a request brought the program down.
* Nothing is selected by force.  So if the adapter refuses to select addresses that drivers own, nothing is
  transferred when the address is one of them, and unless a quick command is chosen, no memory chip gets
  one. -/
theorem probe_of_session {talk said : List Exchange} (session : Session nr file talk handle)
    (dialogue : (probe address mode).run.Dialogue handle said result final) :
    (¬ (0x01 ≤ address ∧ address ≤ 0x7f) →
      said = [] ∧ result = some (.error (.invalidAddress address))) ∧
    (0x01 ≤ address ∧ address ≤ 0x7f →
      ∃ query selection transfer, requests said = query ++ selection ++ transfer ∧
        Careful nr file (requests talk) address mode query selection transfer result) ∧
    (∀ one ∈ requests said, ∀ forced, one.request ≠ .select forced true) ∧
    (∀ owned : Set UInt16,
      (∀ one ∈ requests said, ∀ other ∈ owned, one.request = .select other false → ¬ one.Granted) →
      address ∈ owned → ∀ one ∈ requests said, one.request.isTransfer = false) ∧
    (mode = .auto → 0x30 ≤ address ∧ address ≤ 0x37 ∨ 0x50 ≤ address ∧ address ≤ 0x5f →
      ∀ one ∈ requests said, ∀ bit, one.request ≠ .quick bit) := by
  have hvalid : isProbeAddress address = true ↔ 0x01 ≤ address ∧ address ≤ 0x7f := by
    simp [isProbeAddress]
  by_cases h : 0x01 ≤ address ∧ address ≤ 0x7f
  · obtain ⟨query, selection, transfer, hsaid, careful⟩ :=
      careful_of_probed session.learns (probed_of_dialogue (hvalid.mpr h) dialogue)
    rw [hsaid]
    refine ⟨fun hinvalid => absurd h hinvalid, fun _ => ⟨query, selection, transfer, rfl, careful⟩,
      careful.select_ne, fun owned hrefuses howned => ?_, fun hauto hmemory => ?_⟩
    · refine careful.isTransfer_eq_false fun one hone => hrefuses one ?_ address howned
      exact List.mem_append_left _ (List.mem_append_right _ hone)
    · subst hauto
      exact careful.quick_ne hmemory
  · have hinvalid : isProbeAddress address = false := by
      rw [Bool.eq_false_iff, ne_eq, hvalid]
      exact h
    obtain ⟨rfl, hresult⟩ := dialogue_probe_invalid hinvalid dialogue
    exact ⟨fun _ => ⟨rfl, hresult⟩, fun hinside => absurd hinside h, by simp, by simp, by simp⟩

end

/-- A device file. -/
def busFile : DeviceFile := ⟨3, ⟨0, 1⟩⟩

theorem probe_of_session_memory :
    ∃ talk said : List Exchange, ∃ handle final,
      Session 0 busFile talk handle ∧
      (probe 0x50 .auto).run.Dialogue handle said (some (.ok .present)) final ∧
      ∀ one ∈ requests said, ∀ bit, one.request ≠ .quick bit := by
  let refusal : (Query.request busFile .capabilities).Answer := .error ⟨5⟩
  let told : (Query.request busFile .capabilities).Answer := .ok (0x20000 : UInt64)
  let granted : (Query.request busFile (.select 0x50 false)).Answer := .ok ()
  let received : (Query.request busFile .receiveByte).Answer := .ok (0x2a : UInt8)
  have refused : functionality.run.Dialogue { nr := 0, file := busFile }
      [⟨.request busFile .capabilities, some refusal⟩]
      (some (.error (.device .capabilities 0 ⟨5⟩))) { nr := 0, file := busFile } :=
    .look (.look (.look (.ask refusal .done)))
  have probed : ∃ said final, (probe 0x50 .auto).run.Dialogue { nr := 0, file := busFile } said
      (some (.ok .present)) final :=
    ⟨_, _, .look (.look (.look (.ask told (.look (.store (.look (.look (.ask granted
      (.look (.ask received (.ask (show (Query.report _).Answer from ()) .done)))))))))))⟩
  obtain ⟨said, final, dialogue⟩ := probed
  have session := Session.opened.used .functionality refused
  exact ⟨_, said, _, final, session, dialogue, (probe_of_session session dialogue).2.2.2.2 rfl (.inr (by decide))⟩

end Handle
end I2cTopology
