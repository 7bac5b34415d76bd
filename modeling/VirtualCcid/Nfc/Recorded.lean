import VirtualCcid.Nfc.Pn532
import VirtualCcid.Runs.Monitor

/-! A PN532 that notes the commands it is sent, and what the reader's copy of the activation owes
to them. -/
namespace VirtualCcid.Ccid
open Rust Nfc Runs

/-- A command sent to the device, with its outcome. -/
inductive DeviceCall where
  | process (request : Request) (result : Except Pn532Error Unit)
  | dynamic (request : Request) (result : Except Pn532Error (List UInt8))

abbrev RecordedDevice (δ : Type*) := Recorder δ DeviceCall

variable {δ : Type*} [Pn532Device δ]

instance : Pn532Device (RecordedDevice δ) where
  now d := ((Pn532Device.now d.inner).1, { d with inner := (Pn532Device.now d.inner).2 })
  process d request timeoutMs :=
    d.call (fun s => Pn532Device.process s request timeoutMs) (.process request)
  processDynamicResponse d request timeoutMs :=
    d.call (fun s => Pn532Device.processDynamicResponse s request timeoutMs) (.dynamic request)

/-- A device that answers as scripted; its clock stands still. -/
structure ScriptedDevice where
  processResults : List (Except Pn532Error Unit)
  answers : List (Except Pn532Error (List UInt8))

instance : Pn532Device ScriptedDevice where
  now d := (0, d)
  process d _ _ :=
    (d.processResults.headD (.ok ()), { d with processResults := d.processResults.tail })
  processDynamicResponse d _ _ :=
    (d.answers.headD (.error .timeoutResponse), { d with answers := d.answers.tail })

def DeviceCall.isExchange : DeviceCall → Bool
  | .dynamic (.inDataExchange _) _ => true
  | _ => false

def DeviceCall.isListing : DeviceCall → Bool
  | .dynamic .inListOneIsoATarget _ => true
  | _ => false

/-- The target and the card that an answer to `InListPassiveTarget` leaves known: those it names,
none if it says there is no target, and the ones known before if it is no valid answer. -/
def namedTarget (known : Option (UInt8 × CardPresence)) :
    Except Pn532Error (List UInt8) → Option (UInt8 × CardPresence)
  | .error _ => known
  | .ok response =>
    if response = [] ∨ response.head? = some 0 then none
    else
      match returned (parseTarget response) (parseTarget_returns response) with
      | .error _ => known
      | .ok named => some named

def knownAfter (known : Option (UInt8 × CardPresence)) : List DeviceCall →
    Option (UInt8 × CardPresence)
  | [] => known
  | .dynamic .inListOneIsoATarget result :: calls => knownAfter (namedTarget known result) calls
  | _ :: calls => knownAfter known calls

theorem knownAfter_append (known : Option (UInt8 × CardPresence)) (cs ds : List DeviceCall) :
    knownAfter known (cs ++ ds) = knownAfter (knownAfter known cs) ds := by
  induction cs generalizing known with
  | nil => rfl
  | cons c cs ih =>
    match c with
    | .dynamic .inListOneIsoATarget result => exact ih _
    | .dynamic (.inDataExchange _) _ | .dynamic (.rfConfiguration _) _ | .process _ _ => exact ih _

end VirtualCcid.Ccid

namespace VirtualCcid.Nfc.Pn532UartReader
open Rust Ccid Runs
variable {δ : Type*}

/-- The reader's copy of an activation is the one the device last named. -/
def Agrees (r : Pn532UartReader δ) (known : Option (UInt8 × CardPresence)) : Prop :=
  ∀ target, r.activeTarget = some target →
    ∃ card, r.cachedCard = some card ∧ known = some (target, card)

/-- `r'` follows `r` by the commands `cs`: they are noted, and the agreement with the device is
carried along. -/
structure Follows (r r' : Pn532UartReader (RecordedDevice δ)) (cs : List DeviceCall) : Prop where
  calls : r'.pn532.calls = r.pn532.calls ++ cs
  agrees : ∀ known, r.Agrees known → r'.Agrees (knownAfter known cs)

theorem Follows.refl (r : Pn532UartReader (RecordedDevice δ)) : r.Follows r [] :=
  ⟨by simp, fun _ h => h⟩

theorem Follows.trans {r r' r'' : Pn532UartReader (RecordedDevice δ)} {cs ds : List DeviceCall}
    (h : r.Follows r' cs) (h' : r'.Follows r'' ds) : r.Follows r'' (cs ++ ds) := by
  refine ⟨by rw [h'.calls, h.calls, List.append_assoc], fun known hk => ?_⟩
  rw [knownAfter_append]
  exact h'.agrees _ (h.agrees _ hk)

theorem follows_of_inactive {r r' : Pn532UartReader (RecordedDevice δ)} {cs : List DeviceCall}
    (hc : r'.pn532.calls = r.pn532.calls ++ cs) (ht : r'.activeTarget = none) : r.Follows r' cs :=
  ⟨hc, fun _ _ target h => by simp [ht] at h⟩

variable [Pn532Device δ]

theorem setRfField_recorded (r : Pn532UartReader (RecordedDevice δ)) (enabled : Bool) :
    ∃ pn532 rfFieldEnabled cs, (r.setRfField enabled).2 = { r with pn532, rfFieldEnabled } ∧
      pn532.calls = r.pn532.calls ++ cs ∧
        ∀ c ∈ cs, ∃ request result, c = DeviceCall.process request result := by
  unfold setRfField
  split
  · exact ⟨r.pn532, r.rfFieldEnabled, [], rfl, by simp, by simp⟩
  · dsimp only [Pn532Device.process, Recorder.call]
    split
    all_goals
      next heq =>
      obtain ⟨_, rfl⟩ := Prod.mk.inj heq
      exact ⟨_, _, [_], rfl, rfl, by simp⟩

/-- Commands whose answer is not read: they name no target and exchange nothing. -/
def Unread (cs : List DeviceCall) : Prop := ∀ c ∈ cs, ∃ request result, c = .process request result

theorem knownAfter_unread {cs : List DeviceCall} (h : Unread cs)
    (known : Option (UInt8 × CardPresence)) : knownAfter known cs = known := by
  induction cs with
  | nil => rfl
  | cons c cs ih =>
    obtain ⟨request, result, rfl⟩ := h c (by simp)
    exact ih fun d hd => h d (by simp [hd])

theorem unread_not_exchange {cs : List DeviceCall} (h : Unread cs) :
    ∀ c ∈ cs, c.isExchange = false := by
  intro c hc
  obtain ⟨request, result, rfl⟩ := h c hc
  rfl

/-- An answer read into the reader is read into what is known; a card is reported only with the
target that the same answer names. -/
theorem readTarget_recorded (r : Pn532UartReader (RecordedDevice δ)) (response : List UInt8) :
    ∃ cs, (r.readTarget response).2.pn532.calls = r.pn532.calls ++ cs ∧ Unread cs ∧
      (∀ known, r.Agrees known →
        (r.readTarget response).2.Agrees (namedTarget known (.ok response))) ∧
      ∀ card, (r.readTarget response).1 = .ok (some card) →
        (∃ target, (r.readTarget response).2.activeTarget = some target) ∧
          (r.readTarget response).2.cachedCard = some card ∧
          ∀ known, (r.readTarget response).2.Agrees (namedTarget known (.ok response)) := by
  by_cases hn : response = [] ∨ response.head? = some 0
  · obtain ⟨pn532, rf, cs, hs, hcalls, hu⟩ := setRfField_recorded
      { r with activeTarget := none, cachedCard := none } false
    have hr : (r.readTarget response).2 =
        { r with activeTarget := none, cachedCard := none, pn532, rfFieldEnabled := rf } := by
      simp only [readTarget, hn, if_true]
      split <;> (next heq => rw [heq] at hs; exact hs)
    refine ⟨cs, by rw [hr]; exact hcalls, hu, ?_, ?_⟩
    · intro known _
      simp [hr, Agrees]
    · intro card hcard
      simp only [readTarget, hn, if_true] at hcard
      split at hcard <;> simp at hcard
  · refine ⟨[], ?_, by simp [Unread], ?_⟩
    all_goals
      simp only [readTarget, hn, if_false, namedTarget]
      cases returned (parseTarget response) (parseTarget_returns response) with
      | error error => simp
      | ok named => simp [Agrees]

theorem pollDevice_recorded (r : Pn532UartReader (RecordedDevice δ)) (now : ℕ) :
    ∃ cs, r.Follows (r.pollDevice now).2 cs ∧ (∀ c ∈ cs, c.isExchange = false) ∧
      ∀ card, (r.pollDevice now).1 = .ok (some card) →
        (∃ target, (r.pollDevice now).2.activeTarget = some target) ∧
          (r.pollDevice now).2.cachedCard = some card ∧
          ∀ known, (r.pollDevice now).2.Agrees (knownAfter known cs) := by
  obtain ⟨pn532, rf, cs, hs, hcalls, hu⟩ := setRfField_recorded r true
  have hx := unread_not_exchange hu
  unfold pollDevice
  split
  -- The field could not be switched on.
  · next heq =>
    rw [heq] at hs
    dsimp only at hs ⊢
    subst hs
    exact ⟨cs, ⟨hcalls, fun known h => by rwa [knownAfter_unread hu]⟩, hx, by simp⟩
  next heq =>
  rw [heq] at hs
  dsimp only at hs ⊢
  subst hs
  dsimp only [Pn532Device.processDynamicResponse, Recorder.call]
  split
  -- No valid answer.
  · next error _ heq =>
    obtain ⟨hres, rfl⟩ := Prod.mk.inj heq
    rw [hres]
    refine ⟨cs ++ [.dynamic .inListOneIsoATarget (.error error)], ⟨by simp [hcalls], ?_⟩, ?_,
      by simp⟩
    · intro known h
      rw [knownAfter_append, knownAfter_unread hu]
      exact h
    · simpa [or_imp, forall_and, DeviceCall.isExchange] using hx
  · next response _ heq =>
    obtain ⟨hres, rfl⟩ := Prod.mk.inj heq
    rw [hres]
    obtain ⟨ds, hds, hu', hagree, hcard⟩ := readTarget_recorded
      ({ r with
          pn532 := ⟨_, pn532.calls ++ [.dynamic .inListOneIsoATarget (.ok response)]⟩
          lastPoll := some now
          rfFieldEnabled := rf } : Pn532UartReader (RecordedDevice δ)) response
    refine ⟨cs ++ [.dynamic .inListOneIsoATarget (.ok response)] ++ ds, ⟨?_, ?_⟩, ?_, ?_⟩
    · rw [hds, hcalls]
      simp
    · intro known h
      rw [knownAfter_append, knownAfter_append, knownAfter_unread hu, knownAfter_unread hu']
      exact hagree known h
    · intro c hc
      simp only [List.append_assoc, List.mem_append, List.mem_singleton] at hc
      rcases hc with hc | rfl | hc
      · exact hx c hc
      · rfl
      · exact unread_not_exchange hu' c hc
    · intro card h
      obtain ⟨htarget, hcached, hknown⟩ := hcard card h
      refine ⟨htarget, hcached, fun known => ?_⟩
      rw [knownAfter_append, knownAfter_append, knownAfter_unread hu, knownAfter_unread hu']
      exact hknown known

/-- A poll keeps the reader in agreement with the device. A card it reports is cached with an
active target: the one it had, if no command was sent, or else one the device has just named. -/
theorem pollCard_recorded (r : Pn532UartReader (RecordedDevice δ)) :
    ∃ cs, r.Follows r.pollCard.2 cs ∧ (∀ c ∈ cs, c.isExchange = false) ∧
      ∀ card, r.pollCard.1 = .ok (some card) →
        (∃ target, r.pollCard.2.activeTarget = some target) ∧
          r.pollCard.2.cachedCard = some card ∧
          ((cs = [] ∧ r.pollCard.2.activeTarget = r.activeTarget) ∨
            ∀ known, r.pollCard.2.Agrees (knownAfter known cs)) := by
  unfold pollCard
  dsimp only [Pn532Device.now]
  split
  -- Answered from the cache: no command, and a reported card has its target.
  · next hcache =>
    refine ⟨[], ⟨by simp, fun _ h => h⟩, by simp, ?_⟩
    intro card hcard
    have hcard : r.cachedCard = some card := Except.ok.inj hcard
    have htarget : r.activeTarget.isSome = true := by
      simp only [canReturnCachedPresence, hcard] at hcache
      simpa using (Bool.and_eq_true_iff.mp hcache).2
    exact ⟨Option.isSome_iff_exists.mp htarget, hcard, .inl ⟨rfl, rfl⟩⟩
  · obtain ⟨cs, hf, hx, hcard⟩ := pollDevice_recorded
      { r with pn532 := { r.pn532 with inner := (Pn532Device.now r.pn532.inner).2 } }
      (Pn532Device.now r.pn532.inner).1
    refine ⟨cs, ⟨hf.calls, hf.agrees⟩, hx, fun card h => ?_⟩
    obtain ⟨htarget, hcached, hknown⟩ := hcard card h
    exact ⟨htarget, hcached, .inr hknown⟩

theorem powerOff_recorded (r : Pn532UartReader (RecordedDevice δ)) :
    ∃ cs, r.Follows r.powerOff.2 cs ∧ Unread cs ∧ r.powerOff.2.activeTarget = none := by
  obtain ⟨pn532, rf, cs, hs, hcalls, hu⟩ := setRfField_recorded { r with activeTarget := none } false
  have ht : r.powerOff.2.activeTarget = none := by rw [powerOff, hs]
  exact ⟨cs, follows_of_inactive (by rw [powerOff, hs]; exact hcalls) ht, hu, ht⟩

theorem deactivateTarget_recorded (r : Pn532UartReader (RecordedDevice δ)) :
    ∃ cs, r.Follows r.deactivateTarget.2 cs ∧ Unread cs ∧
      r.deactivateTarget.2.activeTarget = none := by
  obtain ⟨pn532, rf, cs, hs, hcalls, hu⟩ := setRfField_recorded
    { r with activeTarget := none, cachedCard := none, lastPoll := none } false
  have ht : r.deactivateTarget.2.activeTarget = none := by rw [deactivateTarget, hs]
  exact ⟨cs, follows_of_inactive (by rw [deactivateTarget, hs]; exact hcalls) ht, hu, ht⟩

theorem exchangeTarget_recorded (r : Pn532UartReader (RecordedDevice δ)) :
    ∃ cs, r.Follows r.exchangeTarget.2 cs := by
  unfold exchangeTarget
  split
  · exact ⟨[], .refl r⟩
  · obtain ⟨cs, hf, _⟩ := pollCard_recorded r
    split
    all_goals
      next heq =>
      rw [heq] at hf
      exact ⟨cs, hf⟩

/-- An APDU that fits is sent to the target found for it, and no other target is taken after. -/
theorem exchangeApdu_addressed {r r₁ : Pn532UartReader (RecordedDevice δ)} {target : UInt8}
    {apdu : List UInt8} (hfit : ¬ apdu.length + 1 > pn532BufferSize - 9)
    (ht : r.exchangeTarget = (.ok target, r₁)) :
    ∃ result cs, r₁.Follows (r.exchangeApdu apdu).2
        (.dynamic (.inDataExchange (target :: apdu)) result :: cs) ∧ Unread cs ∧
      ∀ t, (r.exchangeApdu apdu).2.activeTarget = some t → r₁.activeTarget = some t := by
  unfold exchangeApdu
  rw [if_neg hfit, ht]
  dsimp only [Pn532Device.processDynamicResponse, Recorder.call]
  generalize Pn532Device.processDynamicResponse r₁.pn532.inner
    (.inDataExchange (target :: apdu)) pn532ApduTimeoutMs = answer
  obtain ⟨result, inner⟩ := answer
  match result with
  | .error error => exact ⟨_, [], ⟨rfl, fun _ h => h⟩, by simp [Unread], fun _ h => h⟩
  | .ok [] => exact ⟨_, [], ⟨rfl, fun _ h => h⟩, by simp [Unread], fun _ h => h⟩
  | .ok (status :: response) =>
    dsimp only
    split
    · obtain ⟨cs, hf, hu, hnone⟩ := deactivateTarget_recorded
        ({ r₁ with pn532 := ⟨inner, r₁.pn532.calls ++
          [.dynamic (.inDataExchange (target :: apdu)) (.ok (status :: response))]⟩ } :
            Pn532UartReader (RecordedDevice δ))
      refine ⟨.ok (status :: response), cs, follows_of_inactive ?_ hnone, hu, ?_⟩
      · rw [hf.calls]
        simp
      · simp [hnone]
    · exact ⟨_, [], ⟨rfl, fun _ h => h⟩, by simp [Unread], fun _ h => h⟩

theorem exchangeApdu_recorded (r : Pn532UartReader (RecordedDevice δ)) (apdu : List UInt8) :
    ∃ cs, r.Follows (r.exchangeApdu apdu).2 cs := by
  by_cases hfit : apdu.length + 1 > pn532BufferSize - 9
  · exact ⟨[], by simpa [exchangeApdu, hfit] using Follows.refl r⟩
  obtain ⟨cs, hf⟩ := exchangeTarget_recorded r
  obtain ⟨found, r₁, hx⟩ : ∃ found r₁, r.exchangeTarget = (found, r₁) := ⟨_, _, rfl⟩
  rw [hx] at hf
  match found with
  | .error error => exact ⟨cs, by simpa [exchangeApdu, hfit, hx] using hf⟩
  | .ok target =>
    obtain ⟨result, ds, hf', _⟩ := exchangeApdu_addressed hfit hx
    exact ⟨_, hf.trans hf'⟩

end VirtualCcid.Nfc.Pn532UartReader
