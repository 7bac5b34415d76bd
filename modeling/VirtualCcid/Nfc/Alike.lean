import VirtualCcid.Nfc.Backend
import VirtualCcid.Runs.Simulation

/-! Readers over devices that answer alike: they give the same results, and their devices stay
related. -/
namespace VirtualCcid.Nfc
open Rust Ccid Runs

section Readers
variable {ρ ρ' : Type*} [NfcReader ρ] [NfcReader ρ'] {R : ρ → ρ' → Prop} {r : ρ} {r' : ρ'}

theorem pollCard_agree (l : Lockstep (backendMachine ρ) (backendMachine ρ') R) (h : R r r') :
    Agree R (NfcReader.pollCard r) (NfcReader.pollCard r') := by
  obtain ⟨hresult, hafter⟩ := l r r' .pollCard h
  exact ⟨ReaderResult.card.inj hresult, hafter⟩

theorem powerOff_agree (l : Lockstep (backendMachine ρ) (backendMachine ρ') R) (h : R r r') :
    Agree R (NfcReader.powerOff r) (NfcReader.powerOff r') := by
  obtain ⟨hresult, hafter⟩ := l r r' .powerOff h
  exact ⟨ReaderResult.off.inj hresult, hafter⟩

theorem exchangeApdu_agree (l : Lockstep (backendMachine ρ) (backendMachine ρ') R) (h : R r r')
    (apdu : List UInt8) :
    Agree R (NfcReader.exchangeApdu r apdu) (NfcReader.exchangeApdu r' apdu) := by
  obtain ⟨hresult, hafter⟩ := l r r' (.exchangeApdu apdu) h
  exact ⟨ReaderResult.response.inj hresult, hafter⟩

end Readers

variable {δ δ' : Type*} [Pn532Device δ] [Pn532Device δ']

def Request.timeoutMs : Request → ℕ
  | .rfConfiguration _ => pn532InitTimeoutMs
  | .inListOneIsoATarget => pn532PollTimeoutMs
  | .inDataExchange _ => pn532ApduTimeoutMs

/-- Related devices answer the reader alike and stay related, their clocks included. -/
structure DevicesAlike (R : δ → δ' → Prop) : Prop where
  now : ∀ d d', R d d' → Agree R (Pn532Device.now d) (Pn532Device.now d')
  process : ∀ d d' request, R d d' → Agree R (Pn532Device.process d request request.timeoutMs)
    (Pn532Device.process d' request request.timeoutMs)
  processDynamicResponse : ∀ d d' request, R d d' →
    Agree R (Pn532Device.processDynamicResponse d request request.timeoutMs)
      (Pn532Device.processDynamicResponse d' request request.timeoutMs)

omit [Pn532Device δ] [Pn532Device δ'] in
/-- Two readers whose copies of the device's state are the same. -/
inductive ReadersAlike (R : δ → δ' → Prop) : Pn532UartReader δ → Pn532UartReader δ' → Prop
  | mk {d : δ} {d' : δ'} (activeTarget : Option UInt8) (cachedCard : Option CardPresence)
      (lastPoll : Option ℕ) (rfFieldEnabled : Bool) : R d d' →
      ReadersAlike R ⟨d, activeTarget, cachedCard, lastPoll, rfFieldEnabled⟩
        ⟨d', activeTarget, cachedCard, lastPoll, rfFieldEnabled⟩

namespace DevicesAlike
variable {R : δ → δ' → Prop} {r : Pn532UartReader δ} {r' : Pn532UartReader δ'}

theorem setRfField (a : DevicesAlike R) (h : ReadersAlike R r r') (enabled : Bool) :
    Agree (ReadersAlike R) (r.setRfField enabled) (r'.setRfField enabled) := by
  cases h with
  | mk activeTarget cachedCard lastPoll rfFieldEnabled hd =>
    unfold Pn532UartReader.setRfField
    dsimp only
    split
    · exact ⟨rfl, .mk _ _ _ _ hd⟩
    · obtain ⟨result, d₁, d₁', h₁, h₁', hd₁⟩ := (a.process _ _
        (.rfConfiguration (if enabled then rfFieldOn else rfFieldOff)) hd).exists
      rw [Request.timeoutMs] at h₁ h₁'
      rw [h₁, h₁']
      cases result with
      | error error => exact ⟨rfl, .mk _ _ _ _ hd₁⟩
      | ok => exact ⟨rfl, .mk _ _ _ _ hd₁⟩

theorem readTarget (a : DevicesAlike R) (h : ReadersAlike R r r') (response : List UInt8) :
    Agree (ReadersAlike R) (r.readTarget response) (r'.readTarget response) := by
  cases h with
  | mk activeTarget cachedCard lastPoll rfFieldEnabled hd =>
    unfold Pn532UartReader.readTarget
    dsimp only
    split
    · obtain ⟨result, r₁, r₁', h₁, h₁', hr₁⟩ := (a.setRfField
        (.mk none none lastPoll rfFieldEnabled hd) false).exists
      rw [h₁, h₁']
      cases result with
      | error error => exact ⟨rfl, hr₁⟩
      | ok => exact ⟨rfl, hr₁⟩
    · cases returned (parseTarget response) (parseTarget_returns response) with
      | error error => exact ⟨rfl, .mk _ _ _ _ hd⟩
      | ok named => exact ⟨rfl, .mk _ _ _ _ hd⟩

theorem pollDevice (a : DevicesAlike R) (h : ReadersAlike R r r') (now : ℕ) :
    Agree (ReadersAlike R) (r.pollDevice now) (r'.pollDevice now) := by
  obtain ⟨result, r₁, r₁', h₁, h₁', hr₁⟩ := (a.setRfField h true).exists
  unfold Pn532UartReader.pollDevice
  rw [h₁, h₁']
  cases result with
  | error error => exact ⟨rfl, hr₁⟩
  | ok =>
    cases hr₁ with
    | mk activeTarget cachedCard lastPoll rfFieldEnabled hd =>
      dsimp only
      obtain ⟨answer, d₁, d₁', hl, hl', hd₁⟩ := (a.processDynamicResponse _ _
        .inListOneIsoATarget hd).exists
      rw [Request.timeoutMs] at hl hl'
      rw [hl, hl']
      cases answer with
      | error error => exact ⟨rfl, .mk _ _ _ _ hd₁⟩
      | ok response => exact a.readTarget (.mk _ _ _ _ hd₁) response

theorem pollCard (a : DevicesAlike R) (h : ReadersAlike R r r') :
    Agree (ReadersAlike R) r.pollCard r'.pollCard := by
  cases h with
  | mk activeTarget cachedCard lastPoll rfFieldEnabled hd =>
    unfold Pn532UartReader.pollCard
    dsimp only
    obtain ⟨now, d₁, d₁', h₁, h₁', hd₁⟩ := (a.now _ _ hd).exists
    rw [h₁, h₁']
    by_cases hcached : canReturnCachedPresence cachedCard.isSome activeTarget.isSome
        (Pn532UartReader.recentlyPolled ⟨d₁, activeTarget, cachedCard, lastPoll, rfFieldEnabled⟩ now)
    · have hcached' : canReturnCachedPresence cachedCard.isSome activeTarget.isSome
          (Pn532UartReader.recentlyPolled ⟨d₁', activeTarget, cachedCard, lastPoll, rfFieldEnabled⟩
            now) := hcached
      simp only [hcached, hcached', if_true]
      exact ⟨rfl, .mk _ _ _ _ hd₁⟩
    · have hcached' : ¬ canReturnCachedPresence cachedCard.isSome activeTarget.isSome
          (Pn532UartReader.recentlyPolled ⟨d₁', activeTarget, cachedCard, lastPoll, rfFieldEnabled⟩
            now) := hcached
      simp only [hcached, hcached']
      exact a.pollDevice (.mk _ _ _ _ hd₁) now

theorem powerOff (a : DevicesAlike R) (h : ReadersAlike R r r') :
    Agree (ReadersAlike R) r.powerOff r'.powerOff := by
  cases h with
  | mk activeTarget cachedCard lastPoll rfFieldEnabled hd =>
    exact a.setRfField (.mk none cachedCard lastPoll rfFieldEnabled hd) false

theorem deactivateTarget (a : DevicesAlike R) (h : ReadersAlike R r r') :
    Agree (ReadersAlike R) r.deactivateTarget r'.deactivateTarget := by
  cases h with
  | mk activeTarget cachedCard lastPoll rfFieldEnabled hd =>
    exact a.setRfField (.mk none none none rfFieldEnabled hd) false

theorem exchangeTarget (a : DevicesAlike R) (h : ReadersAlike R r r') :
    Agree (ReadersAlike R) r.exchangeTarget r'.exchangeTarget := by
  have htarget : r.activeTarget = r'.activeTarget := by cases h; rfl
  unfold Pn532UartReader.exchangeTarget
  rw [htarget]
  cases r'.activeTarget with
  | some target => exact ⟨rfl, h⟩
  | none =>
    obtain ⟨result, r₁, r₁', h₁, h₁', hr₁⟩ := (a.pollCard h).exists
    have htarget₁ : r₁.activeTarget = r₁'.activeTarget := by cases hr₁; rfl
    rw [h₁, h₁']
    rcases result with error | ⟨_ | card⟩
    · exact ⟨rfl, hr₁⟩
    · exact ⟨rfl, hr₁⟩
    · dsimp only
      rw [htarget₁]
      exact ⟨rfl, hr₁⟩

theorem exchangeApdu (a : DevicesAlike R) (h : ReadersAlike R r r') (apdu : List UInt8) :
    Agree (ReadersAlike R) (r.exchangeApdu apdu) (r'.exchangeApdu apdu) := by
  obtain ⟨found, r₁, r₁', h₁, h₁', hr₁⟩ := (a.exchangeTarget h).exists
  unfold Pn532UartReader.exchangeApdu
  split
  · exact ⟨rfl, h⟩
  rw [h₁, h₁']
  cases found with
  | error error => exact ⟨rfl, hr₁⟩
  | ok target =>
    cases hr₁ with
    | mk activeTarget cachedCard lastPoll rfFieldEnabled hd =>
      dsimp only
      obtain ⟨answer, d₁, d₁', hx, hx', hd₁⟩ := (a.processDynamicResponse _ _
        (.inDataExchange (target :: apdu)) hd).exists
      rw [Request.timeoutMs] at hx hx'
      rw [hx, hx']
      rcases answer with error | ⟨_ | ⟨status, response⟩⟩
      · exact ⟨rfl, .mk _ _ _ _ hd₁⟩
      · exact ⟨rfl, .mk _ _ _ _ hd₁⟩
      dsimp only
      split
      · have hoff := a.deactivateTarget
          (.mk activeTarget cachedCard lastPoll rfFieldEnabled hd₁)
        exact ⟨rfl, hoff.2⟩
      · exact ⟨rfl, .mk _ _ _ _ hd₁⟩

theorem backend (a : DevicesAlike R) :
    Lockstep (backendMachine (Pn532UartReader δ)) (backendMachine (Pn532UartReader δ'))
      (ReadersAlike R) := by
  intro r r' op h
  cases op with
  | pollCard =>
    obtain ⟨hresult, hafter⟩ := a.pollCard h
    exact ⟨congrArg ReaderResult.card hresult, hafter⟩
  | powerOff =>
    obtain ⟨hresult, hafter⟩ := a.powerOff h
    exact ⟨congrArg ReaderResult.off hresult, hafter⟩
  | exchangeApdu apdu =>
    obtain ⟨hresult, hafter⟩ := a.exchangeApdu h apdu
    exact ⟨congrArg ReaderResult.response hresult, hafter⟩

end DevicesAlike

theorem recorder_alike (δ : Type*) [Pn532Device δ] :
    DevicesAlike fun (d : RecordedDevice δ) (d' : δ) => d.inner = d' := by
  constructor
  · rintro d _ rfl
    exact ⟨rfl, rfl⟩
  · rintro d _ request rfl
    exact ⟨rfl, rfl⟩
  · rintro d _ request rfl
    exact ⟨rfl, rfl⟩

end VirtualCcid.Nfc
