import VirtualCcid.Ccid.Calls

/-! The responses of the card: the ones in the data blocks of the bridge are those of the exchanges
that ended well, one for one. -/
namespace VirtualCcid.Ccid
open Rust Nfc Runs

/-- The APDU and the response of an exchange that ended well. -/
def DeviceCall.responded : DeviceCall → Option (List UInt8 × List UInt8)
  | .dynamic (.inDataExchange (_ :: apdu)) (.ok (status :: response)) =>
    if exchangeStatusKeepsTargetActive status then some (apdu, response) else none
  | _ => none

def responses (calls : List DeviceCall) : List (List UInt8 × List UInt8) :=
  calls.filterMap DeviceCall.responded

theorem responses_append (cs ds : List DeviceCall) :
    responses (cs ++ ds) = responses cs ++ responses ds := List.filterMap_append

theorem responses_of_no_exchange {cs : List DeviceCall} (h : ∀ c ∈ cs, c.isExchange = false) :
    responses cs = [] := by
  unfold responses
  rw [List.filterMap_eq_nil_iff]
  intro c hc
  have hno := h c hc
  unfold DeviceCall.responded
  split
  · cases hno
  · rfl

theorem responses_of_exchangesAmong_nil {cs : List DeviceCall} (h : ExchangesAmong [] cs) :
    responses cs = [] := by
  unfold responses
  rw [List.filterMap_eq_nil_iff]
  intro c hc
  unfold DeviceCall.responded
  split
  · obtain ⟨_, _, hapdu, -⟩ := h _ _ hc
    cases hapdu
  · rfl

variable {δ : Type*} [Pn532Device δ]

theorem exchangeApdu_responses (r : Pn532UartReader (RecordedDevice δ)) (apdu : List UInt8) :
    responses (r.exchangeApdu apdu).2.pn532.calls = responses r.pn532.calls ++
      ((r.exchangeApdu apdu).1.toOption.map (Prod.mk apdu)).toList := by
  by_cases hfit : apdu.length + 1 > pn532BufferSize - 9
  · simp [Pn532UartReader.exchangeApdu, hfit, Except.toOption]
  obtain ⟨cs, hcalls, hno⟩ := r.exchangeTarget_unexchanged
  have hnone := responses_of_no_exchange hno
  obtain ⟨found, r₁, hx⟩ : ∃ found r₁, r.exchangeTarget = (found, r₁) := ⟨_, _, rfl⟩
  have hfirst : responses r₁.pn532.calls = responses r.pn532.calls := by
    rw [hx] at hcalls
    rw [hcalls, responses_append, hnone, List.append_nil]
  unfold Pn532UartReader.exchangeApdu
  rw [if_neg hfit, hx, ← hfirst]
  cases found with
  | error error => exact (List.append_nil _).symm
  | ok target =>
    dsimp only [Pn532Device.processDynamicResponse, Recorder.call]
    generalize Pn532Device.processDynamicResponse r₁.pn532.inner
      (.inDataExchange (target :: apdu)) pn532ApduTimeoutMs = answer
    obtain ⟨result, inner⟩ := answer
    rcases result with error | ⟨_ | ⟨status, response⟩⟩
    · exact responses_append _ _
    · exact responses_append _ _
    · cases hkeeps : exchangeStatusKeepsTargetActive status with
      | true =>
        have hresponded : responses
            [.dynamic (.inDataExchange (target :: apdu)) (.ok (status :: response))] =
              [(apdu, response)] := by
          simp [responses, DeviceCall.responded, hkeeps]
        dsimp only
        rw [if_neg (by simp [hkeeps]), responses_append, hresponded]
        rfl
      | false =>
        have hresponded : responses
            [.dynamic (.inDataExchange (target :: apdu)) (.ok (status :: response))] = [] := by
          simp [responses, DeviceCall.responded, hkeeps]
        obtain ⟨ds, hf, hu, -⟩ := Pn532UartReader.deactivateTarget_recorded
          ({ r₁ with pn532 := ⟨inner, r₁.pn532.calls ++
            [.dynamic (.inDataExchange (target :: apdu)) (.ok (status :: response))]⟩ } :
              Pn532UartReader (RecordedDevice δ))
        dsimp only
        rw [if_pos (by simp [hkeeps])]
        dsimp only
        rw [hf.calls, responses_append, responses_append, hresponded,
          responses_of_no_exchange (Pn532UartReader.unread_not_exchange hu)]
        simp [Except.toOption]

namespace CcidBridge

/-- What an exchange sends of a block. -/
def sentApdu (payload : List UInt8) : List UInt8 :=
  if payload[1]? = some apduGetResponseIns then payload.set 0 0x00 else payload

end CcidBridge

/-- The APDU and the response of a block that was answered with one. -/
def blockResponse : CcidCommand × CcidResponse → Option (List UInt8 × List UInt8)
  | (.xfrBlock _ _ _ _ payload, .dataBlock _ _ _ _ _ response) =>
    some (CcidBridge.sentApdu payload, response)
  | _ => none

namespace CcidBridge
variable (b : CcidBridge (Pn532UartReader (RecordedDevice δ)))

variable {b} in
theorem responses_of_calls {b' : CcidBridge (Pn532UartReader (RecordedDevice δ))}
    {ops : List ReaderOp}
    (h : b'.reader = (backendMachine _).final b.reader ops)
    (hops : ops.flatMap ReaderOp.apdus = []) :
    responses b'.reader.pn532.calls = responses b.reader.pn532.calls := by
  obtain ⟨cs, hcalls, hamong⟩ := Pn532UartReader.final_notes b.reader ops
  rw [hops] at hamong
  rw [h, hcalls, responses_append, responses_of_exchangesAmong_nil hamong, List.append_nil]

theorem refreshCardPresence_responses :
    responses b.refreshCardPresence.2.reader.pn532.calls = responses b.reader.pn532.calls := by
  obtain ⟨ops, hops, hreader⟩ := b.refreshCardPresence_calls
  apply responses_of_calls hreader
  rcases hops with rfl | rfl
  · rfl
  · rfl

def responseOf : Except Panic CcidResponse → Option (List UInt8)
  | .ok (.dataBlock _ _ _ _ _ response) => some response
  | _ => none

theorem exchangeBlock_responses (slot seq : UInt8) (payload : List UInt8) :
    responses (b.exchangeBlock slot seq payload).2.reader.pn532.calls =
      responses b.reader.pn532.calls ++
        ((responseOf (b.exchangeBlock slot seq payload).1).map
          (Prod.mk (sentApdu payload))).toList := by
  unfold exchangeBlock
  split
  · exact (List.append_nil _).symm
  split
  · exact (List.append_nil _).symm
  split
  · exact (List.append_nil _).symm
  split
  · exact (List.append_nil _).symm
  next apdu hapdu =>
  have hsent : sentApdu payload = apdu := (normalizeApduForExchange_ok hapdu).symm
  have hresponses := exchangeApdu_responses b.reader apdu
  obtain ⟨result, r, hx⟩ : ∃ result r, NfcReader.exchangeApdu b.reader apdu = (result, r) :=
    ⟨_, _, rfl⟩
  have hx' : b.reader.exchangeApdu apdu = (result, r) := hx
  rw [hx'] at hresponses
  rw [hx, hsent]
  rcases result with error | response
  · cases error with
    | targetLost message => exact hresponses
    | configuration message | transport message | protocol message | unsupported message
    | io message => exact hresponses
  · exact hresponses

theorem xfrBlock_responses (slot seq : UInt8) (payload : List UInt8) :
    responses (b.xfrBlock slot seq payload).2.reader.pn532.calls =
      responses b.reader.pn532.calls ++
        ((responseOf (b.xfrBlock slot seq payload).1).map (Prod.mk (sentApdu payload))).toList := by
  unfold xfrBlock
  split
  · have hrefresh := b.refreshCardPresence_responses
    split
    · next refreshed heq =>
      rw [heq] at hrefresh
      rw [← hrefresh]
      exact refreshed.exchangeBlock_responses slot seq payload
    · next heq =>
      rw [heq] at hrefresh
      exact hrefresh.trans (List.append_nil _).symm
  · exact b.exchangeBlock_responses slot seq payload

/-- What a step of the bridge exchanges well is what it answers. -/
theorem handleCommand_responses (command : CcidCommand) :
    responses (b.handleCommand command).2.reader.pn532.calls =
      responses b.reader.pn532.calls ++
        (((b.handleCommand command).1.toOption.map (Prod.mk command)).bind blockResponse).toList := by
  have hother : (∀ slot seq bwi levelParameter payload,
      command ≠ .xfrBlock slot seq bwi levelParameter payload) →
      responses (b.handleCommand command).2.reader.pn532.calls = responses b.reader.pn532.calls ∧
        ∀ response, blockResponse (command, response) = none := by
    intro hno
    obtain ⟨ops, hcalls, hreader⟩ := (bridge_drives_reader _).step b (.command command)
    constructor
    · refine responses_of_calls hreader ?_
      rw [List.flatMap_eq_nil_iff]
      intro op hop
      cases op with
      | pollCard | powerOff => rfl
      | exchangeApdu apdu =>
        obtain ⟨slot, seq, bwi, levelParameter, payload, heq, -⟩ := hcalls.exchange hop
        exact absurd (BridgeInput.command.inj heq) (hno slot seq bwi levelParameter payload)
    · intro response
      cases command with
      | xfrBlock slot seq bwi levelParameter payload =>
        exact absurd rfl (hno slot seq bwi levelParameter payload)
      | _ => rfl
  have hnone : (∀ response, blockResponse (command, response) = none) →
      (((b.handleCommand command).1.toOption.map (Prod.mk command)).bind blockResponse).toList =
        [] := by
    intro hno
    cases (b.handleCommand command).1 with
    | error panic => rfl
    | ok response =>
      show (blockResponse (command, response)).toList = []
      rw [hno response]
      rfl
  cases command with
  | xfrBlock slot seq bwi levelParameter payload =>
    have hblock := b.xfrBlock_responses slot seq payload
    have hanswer : b.handleCommand (.xfrBlock slot seq bwi levelParameter payload) =
        b.xfrBlock slot seq payload := rfl
    rw [hanswer, hblock]
    congr 2
    cases (b.xfrBlock slot seq payload).1 with
    | error panic => rfl
    | ok response =>
      cases response with
      | dataBlock => rfl
      | _ => rfl
  | _ =>
    obtain ⟨hsame, hno⟩ := hother (fun _ _ _ _ _ h => by cases h)
    rw [hsame, hnone hno, List.append_nil]

end CcidBridge

end VirtualCcid.Ccid
