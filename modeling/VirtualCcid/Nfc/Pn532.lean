import VirtualCcid.Nfc.Reader

/-! The PN532 backend. The device and the clock are an oracle: whatever they answer to a command
is an input of the reader. -/
namespace VirtualCcid.Nfc
open Rust

def pn532BufferSize : ℕ := 320
def pn532InitTimeoutMs : ℕ := 1000
def pn532PollTimeoutMs : ℕ := 500
def pn532ApduTimeoutMs : ℕ := 5000
def pn532PollIntervalMs : ℕ := 1000
def pn532AbsentPollIntervalMs : ℕ := 2000
def isoATargetSlot : UInt8 := 0x01
def rfFieldOn : List UInt8 := [0x01, 0x01]
def rfFieldOff : List UInt8 := [0x01, 0x00]
def atsT0TaPresent : UInt8 := 0x10
def atsT0TbPresent : UInt8 := 0x20
def atsT0TcPresent : UInt8 := 0x40

/-- The errors of the `pn532` crate over a serial port. -/
inductive Pn532Error where
  | badAck
  | badResponseFrame
  | syntaxError
  | crcError
  | bufTooSmall
  | timeoutAck
  | timeoutResponse
  | interfaceError (message : String)
  deriving DecidableEq, Repr

def mapPn532Error (action : String) : Pn532Error → ReaderError
  | .badAck => .protocol s!"failed to {action}: bad PN532 ACK"
  | .badResponseFrame => .protocol s!"failed to {action}: malformed PN532 response frame"
  | .syntaxError => .protocol s!"failed to {action}: PN532 syntax error frame"
  | .crcError => .protocol s!"failed to {action}: PN532 checksum error"
  | .bufTooSmall =>
    .protocol s!"failed to {action}: configured PN532 response buffer is too small"
  | .timeoutAck => .transport s!"failed to {action}: timeout waiting for PN532 ACK"
  | .timeoutResponse => .transport s!"failed to {action}: timeout waiting for PN532 response"
  | .interfaceError message => .io message

inductive Request where
  | rfConfiguration (data : List UInt8)
  | inListOneIsoATarget
  | inDataExchange (data : List UInt8)
  deriving DecidableEq, Repr

/-- A PN532 on a serial port, with the clock of the host. `process` sends a command whose answer
is not read; `processDynamicResponse` returns the payload of the answer. -/
class Pn532Device (δ : Type*) where
  now : δ → ℕ × δ
  process : δ → Request → (timeoutMs : ℕ) → Except Pn532Error Unit × δ
  processDynamicResponse : δ → Request → (timeoutMs : ℕ) → Except Pn532Error (List UInt8) × δ

def canReturnCachedPresence (cardCached targetActive recentlyPolled : Bool) : Bool :=
  recentlyPolled && (!cardCached || targetActive)

def exchangeStatusKeepsTargetActive (status : UInt8) : Bool := status == 0x00

/-- Where the historical bytes begin: past TL, T0 and the interface bytes T0 announces. -/
def atsHistoricalStart (t0 : UInt8) : ℕ :=
  2 + (if t0 &&& atsT0TaPresent ≠ 0 then 1 else 0)
    + (if t0 &&& atsT0TbPresent ≠ 0 then 1 else 0)
    + (if t0 &&& atsT0TcPresent ≠ 0 then 1 else 0)

def atsHistoricalBytes (ats : List UInt8) : Except Panic (Except ReaderError (List UInt8)) := do
  if ats.length < 2 then
    return .error (.protocol s!"ATS too short: {ats.length} bytes")
  let declaredLen := (← index ats 0).toNat
  if declaredLen ≠ ats.length then
    return .error (.protocol s!"ATS length mismatch: TL={declaredLen} actual={ats.length}")
  let t0 ← index ats 1
  let historicalStart := atsHistoricalStart t0
  if historicalStart > ats.length then
    return .error (.protocol
      s!"ATS optional interface bytes exceed TL: TL={declaredLen} T0=0x{hex02 t0}")
  return .ok (← sliceFrom ats historicalStart)

def targetHistoricalBytes (response : List UInt8) (uidEnd : ℕ) :
    Except Panic (Except ReaderError (List UInt8)) := do
  if response.length > uidEnd then
    let atsLen := (← index response uidEnd).toNat
    let atsStart := uidEnd
    let atsEnd := atsStart + atsLen
    if response.length ≥ atsEnd then
      atsHistoricalBytes (← slice response atsStart atsEnd)
    else
      return .error (.protocol
        s!"PN532 target response truncated before ATS: {response.length} bytes")
  else return .ok []

/-- The target number and the card of an `InListPassiveTarget` response that names a target. -/
def parseTarget (response : List UInt8) :
    Except Panic (Except ReaderError (UInt8 × CardPresence)) := do
  if response.length < 6 then
    return .error (.protocol s!"PN532 target response too short: {response.length} bytes")
  let target ← index response 1
  let uidLen := (← index response 5).toNat
  let uidStart := 6
  let uidEnd := uidStart + uidLen
  if response.length < uidEnd then
    return .error (.protocol
      s!"PN532 target response truncated before UID: {response.length} bytes")
  match ← targetHistoricalBytes response uidEnd with
  | .error error => return .error error
  | .ok historicalBytes =>
    let uid ← slice response uidStart uidEnd
    return .ok (target, ⟨uid, .isoDep, historicalBytes⟩)

theorem atsHistoricalBytes_returns (ats : List UInt8) :
    ∃ result, atsHistoricalBytes ats = .ok result := by
  unfold atsHistoricalBytes
  by_cases h : ats.length < 2
  · simp only [h, if_true]
    exact ⟨_, rfl⟩
  have h0 : index ats 0 = .ok ats[0] := index_eq_ok (by omega)
  have h1 : index ats 1 = .ok ats[1] := index_eq_ok (by omega)
  simp only [h, if_false, h0, h1, bind, Except.bind]
  split
  · exact ⟨_, rfl⟩
  split
  · exact ⟨_, rfl⟩
  rw [sliceFrom_eq_ok (by omega)]
  exact ⟨_, rfl⟩

theorem targetHistoricalBytes_returns (response : List UInt8) (uidEnd : ℕ) :
    ∃ result, targetHistoricalBytes response uidEnd = .ok result := by
  unfold targetHistoricalBytes
  by_cases h : response.length > uidEnd
  · simp only [h, if_true, index_eq_ok h, bind, Except.bind]
    split
    · rw [slice_eq_ok (by omega) (by omega)]
      exact atsHistoricalBytes_returns _
    · exact ⟨_, rfl⟩
  · simp only [h, if_false]
    exact ⟨_, rfl⟩

/-- Whatever the device answers, no index or slice of the parser is out of range. -/
theorem parseTarget_returns (response : List UInt8) :
    ∃ result, parseTarget response = .ok result := by
  unfold parseTarget
  by_cases h : response.length < 6
  · simp only [h, if_true]
    exact ⟨_, rfl⟩
  have h1 : index response 1 = .ok response[1] := index_eq_ok (by omega)
  have h5 : index response 5 = .ok response[5] := index_eq_ok (by omega)
  simp only [h, if_false, h1, h5, bind, Except.bind]
  split
  · exact ⟨_, rfl⟩
  obtain ⟨historicalBytes, hh⟩ :=
    targetHistoricalBytes_returns response (6 + response[5].toNat)
  simp only [hh]
  match historicalBytes with
  | .error error => exact ⟨_, rfl⟩
  | .ok historicalBytes =>
    simp only [slice_eq_ok (show 6 ≤ 6 + response[5].toNat by omega)
      (show 6 + response[5].toNat ≤ response.length by omega)]
    exact ⟨_, rfl⟩

structure Pn532UartReader (δ : Type*) where
  pn532 : δ
  activeTarget : Option UInt8
  cachedCard : Option CardPresence
  lastPoll : Option ℕ
  rfFieldEnabled : Bool

namespace Pn532UartReader
variable {δ : Type*} [Pn532Device δ]

/-- The state `open` builds around an initialised device. -/
def opened (pn532 : δ) : Pn532UartReader δ := ⟨pn532, none, none, none, false⟩

def setRfField (r : Pn532UartReader δ) (enabled : Bool) :
    Except ReaderError Unit × Pn532UartReader δ :=
  if r.rfFieldEnabled = enabled then (.ok (), r)
  else
    let data := if enabled then rfFieldOn else rfFieldOff
    match Pn532Device.process r.pn532 (.rfConfiguration data) pn532InitTimeoutMs with
    | (.error error, pn532) =>
      (.error (mapPn532Error "set PN532 RF field state" error), { r with pn532 })
    | (.ok (), pn532) => (.ok (), { r with pn532, rfFieldEnabled := enabled })

def deactivateTarget (r : Pn532UartReader δ) : Except ReaderError Unit × Pn532UartReader δ :=
  { r with activeTarget := none, cachedCard := none, lastPoll := none }.setRfField false

/-- `poll_card` once the device has answered. -/
def readTarget (r : Pn532UartReader δ) (response : List UInt8) :
    Except ReaderError (Option CardPresence) × Pn532UartReader δ :=
  if response = [] ∨ response.head? = some 0 then
    match { r with activeTarget := none, cachedCard := none }.setRfField false with
    | (.error error, r) => (.error error, r)
    | (.ok (), r) => (.ok none, r)
  else
    match returned (parseTarget response) (parseTarget_returns response) with
    | .error error => (.error error, r)
    | .ok (target, card) =>
      (.ok (some card), { r with activeTarget := some target, cachedCard := some card })

def recentlyPolled (r : Pn532UartReader δ) (now : ℕ) : Bool :=
  let pollInterval :=
    if r.cachedCard.isSome then fromMillis pn532PollIntervalMs
    else fromMillis pn532AbsentPollIntervalMs
  r.lastPoll.any fun lastPoll => now - lastPoll < pollInterval

/-- `poll_card` past its cache. -/
def pollDevice (r : Pn532UartReader δ) (now : ℕ) :
    Except ReaderError (Option CardPresence) × Pn532UartReader δ :=
  match r.setRfField true with
  | (.error error, r) => (.error error, r)
  | (.ok (), r) =>
    let r := { r with lastPoll := some now }
    match Pn532Device.processDynamicResponse r.pn532 .inListOneIsoATarget pn532PollTimeoutMs with
    | (.error error, pn532) =>
      (.error (mapPn532Error "poll for ISO14443A target" error), { r with pn532 })
    | (.ok response, pn532) => { r with pn532 }.readTarget response

def pollCard (r : Pn532UartReader δ) :
    Except ReaderError (Option CardPresence) × Pn532UartReader δ :=
  let (now, pn532) := Pn532Device.now r.pn532
  let r := { r with pn532 }
  if canReturnCachedPresence r.cachedCard.isSome r.activeTarget.isSome (r.recentlyPolled now) then
    (.ok r.cachedCard, r)
  else r.pollDevice now

def powerOff (r : Pn532UartReader δ) : Except ReaderError Unit × Pn532UartReader δ :=
  { r with activeTarget := none }.setRfField false

/-- The target of an exchange: the active one, or the one a fresh poll finds. -/
def exchangeTarget (r : Pn532UartReader δ) : Except ReaderError UInt8 × Pn532UartReader δ :=
  match r.activeTarget with
  | some target => (.ok target, r)
  | none =>
    match r.pollCard with
    | (.error error, r) => (.error error, r)
    | (.ok (some _), r) => (.ok (r.activeTarget.getD isoATargetSlot), r)
    | (.ok none, r) =>
      (.error (.targetLost "cannot exchange APDU because no NFC target is present"), r)

def exchangeApdu (r : Pn532UartReader δ) (apdu : List UInt8) :
    Except ReaderError (List UInt8) × Pn532UartReader δ :=
  if apdu.length + 1 > pn532BufferSize - 9 then
    (.error (.unsupported
      s!"APDU of {apdu.length} bytes exceeds current PN532 buffer budget"), r)
  else
    match r.exchangeTarget with
    | (.error error, r) => (.error error, r)
    | (.ok target, r) =>
      let requestData := target :: apdu
      match Pn532Device.processDynamicResponse r.pn532 (.inDataExchange requestData)
          pn532ApduTimeoutMs with
      | (.error error, pn532) =>
        (.error (mapPn532Error "exchange APDU with NFC target" error), { r with pn532 })
      | (.ok [], pn532) =>
        (.error (.protocol "PN532 returned an empty APDU exchange response"), { r with pn532 })
      | (.ok (status :: response), pn532) =>
        let r := { r with pn532 }
        if !exchangeStatusKeepsTargetActive status then
          -- A failing deactivation is logged only.
          let (_, r) := r.deactivateTarget
          (.error (.targetLost
            s!"PN532 reported APDU exchange status 0x{hex02 status}"), r)
        else (.ok response, r)

instance : NfcReader (Pn532UartReader δ) where
  capabilities _ := ⟨"pn532-uart", true, true⟩
  pollCard := pollCard
  powerOff := powerOff
  exchangeApdu := exchangeApdu

end Pn532UartReader

end VirtualCcid.Nfc
