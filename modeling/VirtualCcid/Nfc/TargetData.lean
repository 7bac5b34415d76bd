import VirtualCcid.Nfc.Recorded

/-! The data of an activated target: the bytes of a response to `InListPassiveTarget`, and that
`poll_card` reads from them the card they were made of. -/
namespace VirtualCcid.Nfc
open Rust Ccid

/-- How many interface bytes the bits of T0 for TA, TB and TC announce. -/
def announcedInterfaceBytes (t0 : UInt8) : ℕ := [4, 5, 6].countP fun bit => t0.toNat.testBit bit

/-- An answer to select. Its length byte TL counts itself. -/
structure Ats where
  t0 : UInt8
  interfaceBytes : List UInt8
  historicalBytes : List UInt8
  announced : interfaceBytes.length = announcedInterfaceBytes t0
  fits : 2 + interfaceBytes.length + historicalBytes.length ≤ 0xff

namespace Ats

def tl (a : Ats) : UInt8 := UInt8.ofNat (2 + a.interfaceBytes.length + a.historicalBytes.length)

def bytes (a : Ats) : List UInt8 := a.tl :: a.t0 :: (a.interfaceBytes ++ a.historicalBytes)

theorem length_bytes (a : Ats) :
    a.bytes.length = 2 + a.interfaceBytes.length + a.historicalBytes.length := by
  simp only [bytes, List.length_cons, List.length_append]
  omega

theorem toNat_tl (a : Ats) : a.tl.toNat = a.bytes.length := by
  have hfits := a.fits
  rw [tl, UInt8.toNat_ofNat', length_bytes]
  omega

end Ats

/-- A response that names a target: a card of layer 4 adds its ATS, which more bytes may follow. -/
structure TargetResponse where
  count : UInt8
  target : UInt8
  sensRes : UInt8 × UInt8
  selRes : UInt8
  uid : List UInt8
  ats : Option Ats
  further : List UInt8
  named : count ≠ 0
  uidFits : uid.length ≤ 0xff
  behindAts : ats = none → further = []

namespace TargetResponse

def header (d : TargetResponse) : List UInt8 :=
  [d.count, d.target, d.sensRes.1, d.sensRes.2, d.selRes, UInt8.ofNat d.uid.length]

def atsBytes (d : TargetResponse) : List UInt8 := (d.ats.map Ats.bytes).getD []

def bytes (d : TargetResponse) : List UInt8 := d.header ++ d.uid ++ d.atsBytes ++ d.further

def historicalBytes (d : TargetResponse) : List UInt8 := (d.ats.map Ats.historicalBytes).getD []

def card (d : TargetResponse) : CardPresence := ⟨d.uid, .isoDep, d.historicalBytes⟩

end TargetResponse

/-- The masks of the code are the bits of T0. -/
theorem atsHistoricalStart_eq (t0 : UInt8) :
    atsHistoricalStart t0 = 2 + announcedInterfaceBytes t0 := by
  have hall : ∀ n : Fin 256, atsHistoricalStart (UInt8.ofNat n.val) =
      2 + announcedInterfaceBytes (UInt8.ofNat n.val) := by decide +kernel
  have h := hall ⟨t0.toNat, t0.toNat_lt⟩
  simpa only [UInt8.ofNat_toNat] using h

theorem atsHistoricalBytes_bytes (a : Ats) :
    atsHistoricalBytes a.bytes = .ok (.ok a.historicalBytes) := by
  have hlen := a.length_bytes
  have hstart : atsHistoricalStart a.t0 = 2 + a.interfaceBytes.length := by
    rw [atsHistoricalStart_eq, a.announced]
  have htl : index a.bytes 0 = .ok a.tl := rfl
  have ht0 : index a.bytes 1 = .ok a.t0 := rfl
  have hdrop : a.bytes.drop (2 + a.interfaceBytes.length) = a.historicalBytes := by
    rw [Nat.add_comm]
    exact List.drop_left
  have hslice : sliceFrom a.bytes (2 + a.interfaceBytes.length) = .ok a.historicalBytes := by
    rw [sliceFrom_eq_ok (by omega), hdrop]
  unfold atsHistoricalBytes
  rw [if_neg (by omega), htl, ht0]
  simp only [bind, Except.bind, a.toNat_tl, hstart, hslice]
  rw [if_neg (by omega), if_neg (by omega)]
  rfl

theorem targetHistoricalBytes_ats (before : List UInt8) (a : Ats) (further : List UInt8) :
    targetHistoricalBytes (before ++ a.bytes ++ further) before.length =
      .ok (.ok a.historicalBytes) := by
  have hlen := a.length_bytes
  have hlong : (before ++ a.bytes ++ further).length =
      before.length + a.bytes.length + further.length := by
    simp only [List.length_append]
  have htl : index (before ++ a.bytes ++ further) before.length = .ok a.tl := by
    rw [index_eq_ok (by omega)]
    simp [Ats.bytes]
  have hslice : slice (before ++ a.bytes ++ further) before.length
      (before.length + a.bytes.length) = .ok a.bytes := by
    rw [slice_eq_ok (by omega) (by omega), ← List.length_append, List.take_left, List.drop_left]
  unfold targetHistoricalBytes
  rw [if_pos (by omega), htl]
  simp only [bind, Except.bind, a.toNat_tl, hslice]
  rw [if_pos (by omega)]
  exact atsHistoricalBytes_bytes a

/-- The parser inverts the format. -/
theorem parseTarget_bytes (d : TargetResponse) :
    parseTarget d.bytes = .ok (.ok (d.target, d.card)) := by
  have hheader : d.header.length = 6 := rfl
  have hlong : d.bytes.length =
      6 + d.uid.length + d.atsBytes.length + d.further.length := by
    simp only [TargetResponse.bytes, List.length_append, hheader]
  have huid : (UInt8.ofNat d.uid.length).toNat = d.uid.length := by
    have hfits := d.uidFits
    rw [UInt8.toNat_ofNat']
    omega
  have htarget : index d.bytes 1 = .ok d.target := rfl
  have huidLen : index d.bytes 5 = .ok (UInt8.ofNat d.uid.length) := rfl
  have hslice : slice d.bytes 6 (6 + d.uid.length) = .ok d.uid := by
    rw [slice_eq_ok (by omega) (by omega), ← hheader, ← List.length_append,
      TargetResponse.bytes, List.append_assoc, List.take_left, List.drop_left]
  have hhistorical : targetHistoricalBytes d.bytes (6 + d.uid.length) =
      .ok (.ok d.historicalBytes) := by
    rw [← hheader, ← List.length_append, TargetResponse.bytes]
    cases hats : d.ats with
    | some a =>
      have hat := targetHistoricalBytes_ats (d.header ++ d.uid) a d.further
      simpa [TargetResponse.atsBytes, TargetResponse.historicalBytes, hats] using hat
    | none =>
      have hfurther := d.behindAts hats
      simp [TargetResponse.atsBytes, TargetResponse.historicalBytes, hats, hfurther,
        targetHistoricalBytes, pure, Except.pure]
  unfold parseTarget
  rw [if_neg (by omega), htarget, huidLen]
  simp only [bind, Except.bind, huid, hhistorical, hslice]
  rw [if_neg (by omega)]
  rfl

def IsProtocolError (error : ReaderError) : Prop := ∃ message, error = .protocol message

theorem atsHistoricalBytes_error {ats : List UInt8} {error : ReaderError}
    (h : atsHistoricalBytes ats = .ok (.error error)) : IsProtocolError error := by
  unfold atsHistoricalBytes at h
  by_cases hlen : ats.length < 2
  · rw [if_pos hlen] at h
    cases h
    exact ⟨_, rfl⟩
  have htl : index ats 0 = .ok ats[0] := index_eq_ok (by omega)
  have ht0 : index ats 1 = .ok ats[1] := index_eq_ok (by omega)
  rw [if_neg hlen, htl, ht0] at h
  simp only [bind, Except.bind] at h
  split at h
  · cases h
    exact ⟨_, rfl⟩
  split at h
  · cases h
    exact ⟨_, rfl⟩
  · rw [sliceFrom_eq_ok (by omega)] at h
    cases h

theorem targetHistoricalBytes_error {response : List UInt8} {uidEnd : ℕ} {error : ReaderError}
    (h : targetHistoricalBytes response uidEnd = .ok (.error error)) : IsProtocolError error := by
  unfold targetHistoricalBytes at h
  by_cases hlen : response.length > uidEnd
  · rw [if_pos hlen, index_eq_ok hlen] at h
    simp only [bind, Except.bind] at h
    split at h
    · rw [slice_eq_ok (by omega) (by omega)] at h
      exact atsHistoricalBytes_error h
    · cases h
      exact ⟨_, rfl⟩
  · rw [if_neg hlen] at h
    cases h

/-- Whatever the parser refuses is refused as an error of the protocol. -/
theorem parseTarget_error {response : List UInt8} {error : ReaderError}
    (h : parseTarget response = .ok (.error error)) : IsProtocolError error := by
  unfold parseTarget at h
  by_cases hlen : response.length < 6
  · rw [if_pos hlen] at h
    cases h
    exact ⟨_, rfl⟩
  have htarget : index response 1 = .ok response[1] := index_eq_ok (by omega)
  have huidLen : index response 5 = .ok response[5] := index_eq_ok (by omega)
  rw [if_neg hlen, htarget, huidLen] at h
  simp only [bind, Except.bind] at h
  split at h
  · cases h
    exact ⟨_, rfl⟩
  obtain ⟨result, hats⟩ := targetHistoricalBytes_returns response (6 + response[5].toNat)
  rw [hats] at h
  cases result with
  | error error' =>
    obtain rfl : error' = error := by cases h; rfl
    exact targetHistoricalBytes_error hats
  | ok historicalBytes =>
    dsimp only at h
    rw [slice_eq_ok (by omega) (by omega)] at h
    cases h

namespace Pn532UartReader
variable {δ : Type*} [Pn532Device δ] {r r' : Pn532UartReader δ} {response : List UInt8}

/-- `poll_card` gets past its cache with the RF field set, and the device answers with `response`:
the reader is `r'` then. -/
def Lists (r : Pn532UartReader δ) (response : List UInt8) (r' : Pn532UartReader δ) : Prop :=
  ∃ now pn532 on answered, Pn532Device.now r.pn532 = (now, pn532) ∧
    canReturnCachedPresence r.cachedCard.isSome r.activeTarget.isSome (r.recentlyPolled now) = false ∧
    { r with pn532 }.setRfField true = (.ok (), on) ∧
    Pn532Device.processDynamicResponse on.pn532 .inListOneIsoATarget pn532PollTimeoutMs =
      (.ok response, answered) ∧
    r' = { on with pn532 := answered, lastPoll := some now }

theorem pollCard_of_lists (h : r.Lists response r') : r.pollCard = r'.readTarget response := by
  obtain ⟨now, pn532, on, answered, hnow, hcache, hfield, hanswer, rfl⟩ := h
  have hcache' : canReturnCachedPresence r.cachedCard.isSome r.activeTarget.isSome
    ({ r with pn532 }.recentlyPolled now) = false := hcache
  unfold pollCard
  rw [hnow]
  dsimp only
  rw [if_neg (by rw [hcache']; exact Bool.false_ne_true), pollDevice, hfield]
  dsimp only
  rw [hanswer]

def NamesNoTarget (response : List UInt8) : Prop := response = [] ∨ response.head? = some 0

/-- What follows on such a response: the card is forgotten and the RF field switched off. -/
def switchOff (r : Pn532UartReader δ) : Except ReaderError Unit × Pn532UartReader δ :=
  { r with activeTarget := none, cachedCard := none }.setRfField false

theorem readTarget_unnamed (h : NamesNoTarget response) :
    r.readTarget response =
      match r.switchOff with
      | (.error error, r) => (.error error, r)
      | (.ok (), r) => (.ok none, r) := by
  rw [NamesNoTarget] at h
  rw [readTarget, if_pos h]
  rfl

theorem readTarget_parsed (h : ¬ NamesNoTarget response)
    {result : Except ReaderError (UInt8 × CardPresence)} (hp : parseTarget response = .ok result) :
    r.readTarget response =
      match result with
      | .error error => (.error error, r)
      | .ok (target, card) =>
        (.ok (some card), { r with activeTarget := some target, cachedCard := some card }) := by
  rw [NamesNoTarget] at h
  have hreturned : ∀ hx, returned (parseTarget response) hx = result := by
    rw [hp]
    exact fun _ => rfl
  rw [readTarget, if_neg h, hreturned]
  cases result <;> rfl

end Pn532UartReader

variable {δ : Type*} [Pn532Device δ]

/-- A poll that reaches the device inverts the format of its response. Of no response is an index
or a slice out of range. One that names no target ends the poll with no card or with the error of
switching the RF field off, and any other with a card or with an error of the protocol. -/
theorem poll_inverts_target_format {r r' : Pn532UartReader δ} {response : List UInt8}
    (h : r.Lists response r') :
    (∀ d : TargetResponse, response = d.bytes →
      r.pollCard = (.ok (some d.card),
        { r' with activeTarget := some d.target, cachedCard := some d.card })) ∧
      (∃ result, parseTarget response = .ok result) ∧
      (∀ ats, ∃ result, atsHistoricalBytes ats = .ok result) ∧
      (Pn532UartReader.NamesNoTarget response →
        (r'.switchOff.1 = .ok () ∧ r.pollCard.1 = .ok none) ∨
          ∃ error, r'.switchOff.1 = .error error ∧ r.pollCard.1 = .error error) ∧
      (¬ Pn532UartReader.NamesNoTarget response →
        (∃ card, r.pollCard.1 = .ok (some card)) ∨
          ∃ error, IsProtocolError error ∧ r.pollCard.1 = .error error) := by
  obtain ⟨result, hp⟩ := parseTarget_returns response
  rw [Pn532UartReader.pollCard_of_lists h]
  refine ⟨?_, ⟨result, hp⟩, atsHistoricalBytes_returns, fun hnone => ?_, fun hnamed => ?_⟩
  · intro d hd
    have hnamed : ¬ Pn532UartReader.NamesNoTarget response := by
      rw [hd]
      simpa [Pn532UartReader.NamesNoTarget, TargetResponse.bytes, TargetResponse.header]
        using d.named
    rw [Pn532UartReader.readTarget_parsed hnamed (hd ▸ parseTarget_bytes d)]
  · rw [Pn532UartReader.readTarget_unnamed hnone]
    rcases hoff : r'.switchOff with ⟨error | ⟨⟩, r''⟩
    · exact Or.inr ⟨error, rfl, rfl⟩
    · exact Or.inl ⟨rfl, rfl⟩
  · rw [Pn532UartReader.readTarget_parsed hnamed hp]
    cases result with
    | error error => exact Or.inr ⟨error, parseTarget_error hp, rfl⟩
    | ok named => exact Or.inl ⟨named.2, rfl⟩

/-- A device that finds no target and does not acknowledge the command that switches the field
off. -/
def fieldStuck : Pn532UartReader ScriptedDevice := .opened ⟨[.ok (), .error .timeoutAck], [.ok []]⟩

theorem fieldStuck_lists : fieldStuck.Lists []
    ⟨⟨[.error .timeoutAck], []⟩, none, none, some 0, true⟩ :=
  ⟨0, _, _, _, rfl, rfl, rfl, rfl, rfl⟩

theorem stuck_field_ends_in_transport_error :
    ¬ ∀ (r r' : Pn532UartReader ScriptedDevice) response, r.Lists response r' →
      (∃ presence, r.pollCard.1 = .ok presence) ∨
        ∃ error, IsProtocolError error ∧ r.pollCard.1 = .error error := by
  intro hall
  obtain ⟨presence, hpoll⟩ | ⟨error, ⟨message, rfl⟩, hpoll⟩ := hall _ _ _ fieldStuck_lists
  · cases hpoll
  · cases hpoll

/-- A target with a four-byte UID and an ATS with all three interface bytes, and more bytes. -/
def listedTarget : TargetResponse where
  count := 1
  target := 1
  sensRes := (0x03, 0x44)
  selRes := 0x20
  uid := [0x04, 0x11, 0x22, 0x33]
  ats := some ⟨0x75, [0x77, 0x81, 0x02], [0x80, 0x01], rfl, by decide⟩
  further := [0xaa, 0xbb]
  named := by decide
  uidFits := by decide
  behindAts := by simp

theorem poll_inverts_listed_target :
    (Pn532UartReader.opened (⟨[], [.ok listedTarget.bytes]⟩ : ScriptedDevice)).pollCard.1 =
      .ok (some ⟨[0x04, 0x11, 0x22, 0x33], .isoDep, [0x80, 0x01]⟩) := by
  have hlists : (Pn532UartReader.opened (⟨[], [.ok listedTarget.bytes]⟩ : ScriptedDevice)).Lists
    listedTarget.bytes ⟨⟨[], []⟩, none, none, some 0, true⟩ := ⟨0, _, _, _, rfl, rfl, rfl, rfl, rfl⟩
  have hpoll := (poll_inverts_target_format hlists).1 listedTarget rfl
  rw [hpoll]
  rfl

end VirtualCcid.Nfc
