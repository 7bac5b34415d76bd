import VirtualCcid.Nfc.Reader
import VirtualCcid.Ccid.Protocol
import VirtualCcid.Runs.Machine

/-! The CCID bridge: slot state over a reader. Every command is answered from this state and
the results of the reader's methods. -/
namespace VirtualCcid.Ccid
open Rust Nfc Runs

def genericFailureError : UInt8 := 0xff
def t1ProtocolNum : UInt8 := 0x01
def defaultT1Parameters : Vector UInt8 7 := #v[0x11, 0x10, 0x00, 0x15, 0x00, 0xfe, 0x00]
def apduSelectIns : UInt8 := 0xa4
def apduSelectByDfNameP1 : UInt8 := 0x04
def apduGetResponseIns : UInt8 := 0xc0
def atrT0HistoricalBytesMask : UInt8 := 0x0f
def atrT0Td1Present : UInt8 := 0x80
def atrTdT0WithTd2 : UInt8 := 0x80
def atrTdT1 : UInt8 := 0x01

structure CcidBridge (ρ : Type*) where
  reader : ρ
  readerCapabilities : ReaderCapabilities
  currentCard : Option CardPresence
  slotPowered : Bool
  protocolNum : UInt8
  parameters : Vector UInt8 7

namespace CcidBridge

def buildPseudoAtr (card : CardPresence) : Except Panic (List UInt8) := do
  if card.historicalBytes.head? = some 0x3b ∨ card.historicalBytes.head? = some 0x3f then
    return card.historicalBytes
  let historicalBytes ←
    if card.historicalBytes.length > atrT0HistoricalBytesMask.toNat then
      slice card.historicalBytes 0 15
    else pure card.historicalBytes
  let atr := [0x3b, atrT0Td1Present ||| UInt8.ofNat historicalBytes.length, atrTdT0WithTd2,
    atrTdT1] ++ historicalBytes
  let checksum := (atr.drop 1).foldl (fun checksum byte => checksum ^^^ byte) 0
  return atr ++ [checksum]

def selectAid (apdu : List UInt8) : Except Panic (Option (List UInt8)) := do
  if apdu.length < 5 then return none
  if (← index apdu 1) ≠ apduSelectIns then return none
  if (← index apdu 2) ≠ apduSelectByDfNameP1 then return none
  let aidLen := (← index apdu 4).toNat
  let aidStart := 5
  let aidEnd := aidStart + aidLen
  -- `then_some` takes its argument by value: the slice is taken before the condition is read.
  let aid ← slice apdu aidStart aidEnd
  return if aidLen > 0 ∧ apdu.length ≥ aidEnd then some aid else none

def normalizeApduForExchange (apdu : List UInt8) : Except Panic (List UInt8) := do
  if apdu[1]? = some apduGetResponseIns then
    let _ ← index apdu 0
    return apdu.set 0 0x00
  return apdu

variable {ρ : Type*}

def cardPresent (b : CcidBridge ρ) : Bool := b.currentCard.isSome

def currentIccStatus (b : CcidBridge ρ) : IccStatus :=
  if b.currentCard.isNone then .notPresent
  else if b.slotPowered then .active
  else .inactive

def parametersResponse (b : CcidBridge ρ) (slot seq : UInt8) (failed : Bool) : CcidResponse :=
  .parameters slot seq
    (if failed then .failed b.currentIccStatus else .ok b.currentIccStatus)
    (if failed then genericFailureError else 0) b.protocolNum b.parameters.toList

theorem currentIccStatus_none {b : CcidBridge ρ} (h : b.currentCard = none) :
    b.currentIccStatus = .notPresent := by
  simp [currentIccStatus, h]

theorem currentIccStatus_unpowered {b : CcidBridge ρ} {card : CardPresence}
    (h : b.currentCard = some card) (hp : b.slotPowered = false) :
    b.currentIccStatus = .inactive := by
  simp [currentIccStatus, h, hp]

theorem currentIccStatus_powered {b : CcidBridge ρ} {card : CardPresence}
    (h : b.currentCard = some card) (hp : b.slotPowered = true) :
    b.currentIccStatus = .active := by
  simp [currentIccStatus, h, hp]

@[simp] theorem currentIccStatus_reader (b : CcidBridge ρ) (reader : ρ) :
    ({ b with reader } : CcidBridge ρ).currentIccStatus = b.currentIccStatus := rfl

variable [NfcReader ρ]

def new (reader : ρ) : CcidBridge ρ where
  reader := reader
  readerCapabilities := NfcReader.capabilities reader
  currentCard := none
  slotPowered := false
  protocolNum := t1ProtocolNum
  parameters := defaultT1Parameters

def refreshCardPresence (b : CcidBridge ρ) : Except ReaderError Bool × CcidBridge ρ :=
  if b.slotPowered ∧ b.currentCard.isSome then (.ok true, b)
  else
    match NfcReader.pollCard b.reader with
    | (.error error, reader) => (.error error, { b with reader })
    | (.ok none, reader) =>
      (.ok false, { b with reader, slotPowered := false, currentCard := none })
    | (.ok (some card), reader) => (.ok true, { b with reader, currentCard := some card })

def iccPowerOn (b : CcidBridge ρ) (slot seq : UInt8) :
    Except Panic CcidResponse × CcidBridge ρ :=
  match NfcReader.pollCard b.reader with
  | (.ok (some card), reader) =>
    match buildPseudoAtr card with
    | .error panic => (.error panic, { b with reader })
    | .ok atr =>
      (.ok (.dataBlock slot seq (.ok .active) 0 0 atr),
        { b with reader, currentCard := some card, slotPowered := true })
  | (.ok none, reader) =>
    (.ok (.slotStatus slot seq (.failed .notPresent) genericFailureError 0),
      { b with reader, currentCard := none, slotPowered := false })
  | (.error _, reader) =>
    (.ok (.slotStatus slot seq (.failed .inactive) genericFailureError 0),
      { b with reader, currentCard := none, slotPowered := false })

def iccPowerOff (b : CcidBridge ρ) (slot seq : UInt8) : CcidResponse × CcidBridge ρ :=
  match NfcReader.powerOff b.reader with
  | (.error _, reader) =>
    (.slotStatus slot seq (.failed .inactive) genericFailureError 0, { b with reader })
  | (.ok (), reader) =>
    let b := { b with reader, slotPowered := false }
    (.slotStatus slot seq (.ok b.currentIccStatus) 0 0, b)

def getSlotStatus (b : CcidBridge ρ) (slot seq : UInt8) : CcidResponse × CcidBridge ρ :=
  match b.refreshCardPresence with
  | (.ok _, b) =>
    let b := if b.currentCard.isSome ∧ b.readerCapabilities.name = "dummy" then
      { b with slotPowered := true } else b
    (.slotStatus slot seq (.ok b.currentIccStatus) 0 0, b)
  | (.error _, b) => (.slotStatus slot seq (.failed .inactive) genericFailureError 0, b)

def setParameters (b : CcidBridge ρ) (slot seq protocolNum : UInt8) (payload : List UInt8) :
    Except Panic CcidResponse × CcidBridge ρ :=
  if protocolNum ≠ t1ProtocolNum ∨ payload.length ≠ defaultT1Parameters.toList.length then
    (.ok (b.parametersResponse slot seq true), b)
  else
    let b := { b with protocolNum }
    match copyFromSlice b.parameters payload with
    | .error panic => (.error panic, b)
    | .ok parameters =>
      let b := { b with parameters }
      (.ok (b.parametersResponse slot seq false), b)

/-- `XfrBlock` once the presence of a card has been refreshed. -/
def exchangeBlock (b : CcidBridge ρ) (slot seq : UInt8) (payload : List UInt8) :
    Except Panic CcidResponse × CcidBridge ρ :=
  if b.currentCard.isNone then
    (.ok (.slotStatus slot seq (.failed .notPresent) genericFailureError 0), b)
  else if !b.slotPowered then
    (.ok (.slotStatus slot seq (.failed .inactive) genericFailureError 0), b)
  else
    match selectAid payload with
    | .error panic => (.error panic, b)
    | .ok _ =>
      match normalizeApduForExchange payload with
      | .error panic => (.error panic, b)
      | .ok apdu =>
        match NfcReader.exchangeApdu b.reader apdu with
        | (.ok response, reader) =>
          (.ok (.dataBlock slot seq (.ok .active) 0 0 response), { b with reader })
        | (.error (.targetLost _), reader) =>
          (.ok (.slotStatus slot seq (.failed .notPresent) genericFailureError 0),
            { b with reader, currentCard := none, slotPowered := false })
        | (.error _, reader) =>
          let b := { b with reader }
          (.ok (.slotStatus slot seq (.failed b.currentIccStatus) genericFailureError 0), b)

def xfrBlock (b : CcidBridge ρ) (slot seq : UInt8) (payload : List UInt8) :
    Except Panic CcidResponse × CcidBridge ρ :=
  if b.currentCard.isNone then
    match b.refreshCardPresence with
    | (.ok _, b) => b.exchangeBlock slot seq payload
    | (.error _, b) =>
      (.ok (.slotStatus slot seq (.failed .inactive) genericFailureError 0),
        { b with slotPowered := false })
  else b.exchangeBlock slot seq payload

def handleCommand (b : CcidBridge ρ) : CcidCommand → Except Panic CcidResponse × CcidBridge ρ
  | .iccPowerOn slot seq _ => b.iccPowerOn slot seq
  | .iccPowerOff slot seq =>
    let (response, b) := b.iccPowerOff slot seq
    (.ok response, b)
  | .getSlotStatus slot seq =>
    let (response, b) := b.getSlotStatus slot seq
    (.ok response, b)
  | .getParameters slot seq => (.ok (b.parametersResponse slot seq false), b)
  | .resetParameters slot seq =>
    let b := { b with protocolNum := t1ProtocolNum, parameters := defaultT1Parameters }
    (.ok (b.parametersResponse slot seq false), b)
  | .setParameters slot seq protocolNum payload => b.setParameters slot seq protocolNum payload
  | .xfrBlock slot seq _ _ payload => b.xfrBlock slot seq payload
  | .abort slot seq => (.ok (.slotStatus slot seq (.ok b.currentIccStatus) 0 0), b)
  | .unknown _ slot seq _ _ =>
    (.ok (.slotStatus slot seq ⟨b.currentIccStatus, .failed⟩ genericFailureError 0), b)

/-- What a reader and a card do not change: the capabilities and the parameters. -/
structure SameSettings (b b' : CcidBridge ρ) : Prop where
  capabilities : b'.readerCapabilities = b.readerCapabilities
  protocolNum : b'.protocolNum = b.protocolNum
  parameters : b'.parameters = b.parameters

theorem refreshCardPresence_settings (b : CcidBridge ρ) :
    b.SameSettings b.refreshCardPresence.2 := by
  unfold refreshCardPresence
  split
  · exact ⟨rfl, rfl, rfl⟩
  · split <;> exact ⟨rfl, rfl, rfl⟩

theorem refreshCardPresence_capabilities (b : CcidBridge ρ) :
    b.refreshCardPresence.2.readerCapabilities = b.readerCapabilities :=
  b.refreshCardPresence_settings.capabilities

theorem refreshCardPresence_ok {b b' : CcidBridge ρ} {present : Bool}
    (h : b.refreshCardPresence = (.ok present, b')) : b'.cardPresent = present := by
  unfold refreshCardPresence at h
  split at h
  · next hcard =>
    cases h
    exact hcard.2
  · split at h <;> cases h
    all_goals rfl

/-- A refresh fails only in a slot that is not both powered and filled, and changes no status. -/
theorem refreshCardPresence_error {b b' : CcidBridge ρ} {error : ReaderError}
    (h : b.refreshCardPresence = (.error error, b')) :
    (NfcReader.pollCard b.reader).1.isOk = false ∧
      ¬ (b.slotPowered = true ∧ b.currentCard.isSome = true) ∧
      b' = { b with reader := (NfcReader.pollCard b.reader).2 } := by
  unfold refreshCardPresence at h
  split at h
  · cases h
  next hc =>
  split at h
  · next heq =>
    cases h
    exact ⟨by rw [heq]; rfl, hc, by rw [heq]⟩
  · cases h
  · cases h

theorem iccPowerOn_reader (b : CcidBridge ρ) (slot seq : UInt8) :
    (b.iccPowerOn slot seq).2.reader = (NfcReader.pollCard b.reader).2 := by
  unfold iccPowerOn
  split
  · next heq =>
    rw [heq]
    split <;> rfl
  · next heq => rw [heq]
  · next heq => rw [heq]

theorem iccPowerOff_reader (b : CcidBridge ρ) (slot seq : UInt8) :
    (b.iccPowerOff slot seq).2.reader = (NfcReader.powerOff b.reader).2 := by
  unfold iccPowerOff
  split <;> (next heq => rw [heq])

theorem getSlotStatus_reader (b : CcidBridge ρ) (slot seq : UInt8) :
    (b.getSlotStatus slot seq).2.reader = b.refreshCardPresence.2.reader := by
  unfold getSlotStatus
  split
  · next heq =>
    rw [heq]
    split <;> rfl
  · next heq => rw [heq]

omit [NfcReader ρ] in
theorem setParameters_reader (b : CcidBridge ρ) (slot seq protocolNum : UInt8)
    (payload : List UInt8) : (b.setParameters slot seq protocolNum payload).2.reader = b.reader := by
  unfold setParameters
  dsimp only
  repeat' split
  all_goals rfl

omit [NfcReader ρ] in
theorem SameSettings.trans {b b' b'' : CcidBridge ρ} (h : b.SameSettings b')
    (h' : b'.SameSettings b'') : b.SameSettings b'' :=
  ⟨h'.capabilities.trans h.capabilities, h'.protocolNum.trans h.protocolNum,
    h'.parameters.trans h.parameters⟩

theorem exchangeBlock_settings (b : CcidBridge ρ) (slot seq : UInt8) (payload : List UInt8) :
    b.SameSettings (b.exchangeBlock slot seq payload).2 := by
  unfold exchangeBlock
  repeat' split
  all_goals exact ⟨rfl, rfl, rfl⟩

/-- Only two commands write the parameters, and none the capabilities. -/
theorem handleCommand_settings (b : CcidBridge ρ) {c : CcidCommand}
    (hc : c.writesParameters = false) : b.SameSettings (b.handleCommand c).2 := by
  have hr := b.refreshCardPresence_settings
  cases c with
  | iccPowerOn =>
    simp only [handleCommand, iccPowerOn]
    repeat' split
    all_goals exact ⟨rfl, rfl, rfl⟩
  | iccPowerOff =>
    simp only [handleCommand, iccPowerOff]
    split <;> exact ⟨rfl, rfl, rfl⟩
  | getSlotStatus =>
    simp only [handleCommand, getSlotStatus]
    split
    · next heq =>
      rw [heq] at hr
      split <;> exact hr.trans ⟨rfl, rfl, rfl⟩
    · next heq =>
      rw [heq] at hr
      exact hr
  | xfrBlock =>
    simp only [handleCommand, xfrBlock]
    split
    · split
      · next heq =>
        rw [heq] at hr
        exact hr.trans (exchangeBlock_settings ..)
      · next heq =>
        rw [heq] at hr
        exact hr.trans ⟨rfl, rfl, rfl⟩
    · exact exchangeBlock_settings ..
  | getParameters | abort | unknown => exact ⟨rfl, rfl, rfl⟩
  | setParameters | resetParameters => cases hc

theorem handleCommand_capabilities (b : CcidBridge ρ) (c : CcidCommand) :
    (b.handleCommand c).2.readerCapabilities = b.readerCapabilities := by
  cases hc : c.writesParameters with
  | false => exact (b.handleCommand_settings hc).capabilities
  | true =>
    cases c with
    | setParameters =>
      simp only [handleCommand, setParameters]
      repeat' split
      all_goals rfl
    | resetParameters => rfl
    | iccPowerOn | iccPowerOff | getSlotStatus | getParameters | xfrBlock | abort | unknown =>
      cases hc

theorem handleCommand_seq {b : CcidBridge ρ} {command : CcidCommand} {response : CcidResponse}
    (h : (b.handleCommand command).1 = .ok response) :
    response.seq = command.seq := by
  cases command with
  | iccPowerOn =>
    simp only [handleCommand, iccPowerOn] at h
    repeat' split at h
    all_goals cases h
    all_goals rfl
  | iccPowerOff =>
    simp only [handleCommand, iccPowerOff] at h
    split at h <;> (cases h; rfl)
  | getSlotStatus =>
    simp only [handleCommand, getSlotStatus] at h
    split at h <;> (cases h; rfl)
  | setParameters =>
    simp only [handleCommand, setParameters] at h
    repeat' split at h
    all_goals cases h
    all_goals rfl
  | xfrBlock =>
    simp only [handleCommand, xfrBlock, exchangeBlock] at h
    repeat' split at h
    all_goals cases h
    all_goals rfl
  | getParameters | resetParameters | abort | unknown =>
    cases h
    rfl

end CcidBridge

/-- The two ways the transport drives the bridge: a host command and the interrupt poll. -/
inductive BridgeInput where
  | command (command : CcidCommand)
  | refresh
  deriving DecidableEq, Repr

def BridgeInput.isPowerOn : BridgeInput → Bool
  | .command (.iccPowerOn ..) => true
  | _ => false

def BridgeInput.isPowerOff : BridgeInput → Bool
  | .command (.iccPowerOff ..) => true
  | _ => false

inductive BridgeOutput where
  | response (result : Except Panic CcidResponse)
  | presence (result : Except ReaderError Bool)

def bridgeMachine (ρ : Type*) [NfcReader ρ] :
    Machine (CcidBridge ρ) BridgeInput BridgeOutput where
  step
    | b, .command c => ((.response (b.handleCommand c).1), (b.handleCommand c).2)
    | b, .refresh => (.presence b.refreshCardPresence.1, b.refreshCardPresence.2)

theorem CcidBridge.step_capabilities {ρ : Type*} [NfcReader ρ] (b : CcidBridge ρ)
    (i : BridgeInput) :
    ((bridgeMachine ρ).step b i).2.readerCapabilities = b.readerCapabilities := by
  cases i with
  | command c => exact b.handleCommand_capabilities c
  | refresh => exact b.refreshCardPresence_capabilities

end VirtualCcid.Ccid
