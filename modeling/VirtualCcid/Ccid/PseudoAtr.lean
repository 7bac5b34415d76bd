import VirtualCcid.Ccid.Bridge
import VirtualCcid.Nfc.Pn532

/-! The ATR the bridge makes up for a card of the PN532 backend. -/
namespace VirtualCcid.Ccid
open Rust Nfc

/-- The ATR of a contactless card in the form of ISO 7816-3: TS, T0 with the number of
historical bytes, TD1, TD2, the historical bytes and TCK. -/
def IsPseudoAtr (historicalBytes atr : List UInt8) : Prop :=
  let k := min 15 historicalBytes.length
  (∃ tck, atr =
    [0x3b, 0x80 ||| UInt8.ofNat k, 0x80, 0x01] ++ historicalBytes.take k ++ [tck]) ∧
  atr.length = 5 + k ∧ (atr.drop 1).foldl (fun sum byte => sum ^^^ byte) 0 = 0

/-- Historical bytes that `build_pseudo_atr` takes for a complete ATR. -/
def TakenForAtr (historicalBytes : List UInt8) : Prop :=
  historicalBytes.head? = some 0x3b ∨ historicalBytes.head? = some 0x3f

def xorSum (bytes : List UInt8) : UInt8 := bytes.foldl (fun sum byte => sum ^^^ byte) 0

/-- The ATR that is made up around the historical bytes kept. -/
def pseudoAtr (kept : List UInt8) : List UInt8 :=
  let atr := [0x3b, 0x80 ||| UInt8.ofNat kept.length, 0x80, 0x01] ++ kept
  atr ++ [xorSum (atr.drop 1)]

/-- The historical bytes that begin like an ATR and are their own pseudo ATR. -/
def selfAtr : List UInt8 :=
  [0x3b, 0x8f, 0x80, 0x01, 0x3b, 0x8f, 0x80, 0x01, 0x3b, 0x8f, 0x80, 0x01, 0x3b, 0x8f, 0x80, 0x01,
    0x3b, 0x8f, 0x80, 0x0f]

theorem xorSum_append_self (bytes : List UInt8) : xorSum (bytes ++ [xorSum bytes]) = 0 := by
  have h : xorSum (bytes ++ [xorSum bytes]) = xorSum bytes ^^^ xorSum bytes := by
    simp [xorSum]
  rw [h, UInt8.xor_self]

theorem pseudoAtr_isPseudoAtr (historicalBytes : List UInt8) :
    IsPseudoAtr historicalBytes (pseudoAtr (historicalBytes.take 15)) := by
  let tck := xorSum ([0x80 ||| UInt8.ofNat (historicalBytes.take 15).length, 0x80, 0x01] ++
    historicalBytes.take 15)
  refine ⟨⟨tck, ?_⟩, ?_, ?_⟩
  · rw [← List.take_eq_take_min, ← List.length_take]
    rfl
  · simp only [pseudoAtr, List.length_append, List.length_cons, List.length_nil,
      List.length_take]
    omega
  · exact xorSum_append_self _

namespace CcidBridge

theorem buildPseudoAtr_taken {card : CardPresence} (h : TakenForAtr card.historicalBytes) :
    buildPseudoAtr card = .ok card.historicalBytes := by
  unfold TakenForAtr at h
  unfold buildPseudoAtr
  rw [if_pos h]
  rfl

theorem buildPseudoAtr_built {card : CardPresence} (h : ¬ TakenForAtr card.historicalBytes) :
    buildPseudoAtr card = .ok (pseudoAtr (card.historicalBytes.take 15)) := by
  unfold TakenForAtr at h
  unfold buildPseudoAtr
  rw [if_neg h]
  by_cases hlen : card.historicalBytes.length > atrT0HistoricalBytesMask.toNat
  · have hslice : slice card.historicalBytes 0 15 = .ok (card.historicalBytes.take 15) :=
      slice_eq_ok (Nat.zero_le 15) (Nat.le_of_lt hlen)
    rw [if_pos hlen, hslice]
    rfl
  · have htake : card.historicalBytes.take 15 = card.historicalBytes :=
      List.take_of_length_le (Nat.le_of_not_lt hlen)
    rw [if_neg hlen, htake]
    rfl

end CcidBridge

theorem take_of_repeats {bytes block tail : List UInt8} {k n : ℕ} (hblock : block.length = 4)
    (h : bytes = block ++ bytes.take k ++ tail) (hn : n ≤ k) (hk : k ≤ bytes.length) :
    bytes.take (n + 4) = block ++ bytes.take n := by
  have hinner : (bytes.take k ++ tail).take n = bytes.take n := by
    rw [List.take_append_of_le_length (by rw [List.length_take]; omega), List.take_take]
    congr 1
    omega
  calc bytes.take (n + 4) = (block ++ (bytes.take k ++ tail)).take (block.length + n) := by
        rw [← List.append_assoc, ← h, hblock, Nat.add_comm]
    _ = block ++ (bytes.take k ++ tail).take n := List.take_length_add_append n
    _ = block ++ bytes.take n := by rw [hinner]

/-- Historical bytes taken for an ATR form one only if they are `selfAtr`. -/
theorem isPseudoAtr_self_iff {historicalBytes : List UInt8} :
    IsPseudoAtr historicalBytes historicalBytes ↔ historicalBytes = selfAtr := by
  constructor
  · intro ⟨⟨tck, hform⟩, hlen, hsum⟩
    have hk : min 15 historicalBytes.length = 15 := by omega
    rw [hk] at hform
    have hlong : 15 ≤ historicalBytes.length := by omega
    have hrepeat : ∀ n, n ≤ 15 → historicalBytes.take (n + 4) =
        [0x3b, 0x8f, 0x80, 0x01] ++ historicalBytes.take n :=
      fun n hn => take_of_repeats rfl hform hn hlong
    have h3 : historicalBytes.take 3 = [0x3b, 0x8f, 0x80] := by
      have h := congrArg (List.take 3) (hrepeat 0 (Nat.zero_le _))
      rwa [List.take_take] at h
    have h15 : historicalBytes.take 15 = selfAtr.take 15 := by
      rw [hrepeat 11 (by omega), hrepeat 7 (by omega), hrepeat 3 (by omega), h3]
      rfl
    rw [h15] at hform
    have htck : tck = 0x0f := by
      rw [hform] at hsum
      have hxor : 0x0f ^^^ tck = 0 := hsum
      exact (UInt8.xor_eq_zero_iff.mp hxor).symm
    rw [hform, htck]
    rfl
  · rintro rfl
    exact ⟨⟨0x0f, rfl⟩, rfl, rfl⟩

/-- The pseudo ATR has the form of a contactless ATR for every card but those whose historical
bytes are taken for a complete one. -/
theorem pseudo_atr_wellFormed_iff (card : CardPresence) :
    (∃ atr, CcidBridge.buildPseudoAtr card = .ok atr ∧ IsPseudoAtr card.historicalBytes atr) ↔
      ¬ TakenForAtr card.historicalBytes ∨ card.historicalBytes = selfAtr := by
  by_cases h : TakenForAtr card.historicalBytes
  · rw [CcidBridge.buildPseudoAtr_taken h]
    constructor
    · intro ⟨atr, hatr, hform⟩
      cases hatr
      exact Or.inr (isPseudoAtr_self_iff.mp hform)
    · intro hself
      have hform := isPseudoAtr_self_iff.mpr (hself.resolve_left (not_not.mpr h))
      exact ⟨_, rfl, hform⟩
  · rw [CcidBridge.buildPseudoAtr_built h]
    exact ⟨fun _ => Or.inl h, fun _ => ⟨_, rfl, pseudoAtr_isPseudoAtr _⟩⟩

theorem two_le_atsHistoricalStart (t0 : UInt8) : 2 ≤ atsHistoricalStart t0 := by
  unfold atsHistoricalStart
  omega

/-- Every string of at most 253 bytes, and no other, is the historical bytes of some ATS. -/
theorem atsHistoricalBytes_range (historicalBytes : List UInt8) :
    (∃ ats, atsHistoricalBytes ats = .ok (.ok historicalBytes)) ↔
      historicalBytes.length ≤ 253 := by
  constructor
  · intro ⟨ats, h⟩
    unfold atsHistoricalBytes at h
    by_cases hshort : ats.length < 2
    · rw [if_pos hshort] at h
      cases h
    have h0 : index ats 0 = .ok ats[0] := index_eq_ok (by omega)
    have h1 : index ats 1 = .ok ats[1] := index_eq_ok (by omega)
    simp only [hshort, if_false, h0, h1, bind, Except.bind] at h
    split at h
    · cases h
    split at h
    · cases h
    rename_i hdeclared hstart
    rw [sliceFrom_eq_ok (Nat.le_of_not_lt hstart)] at h
    cases h
    have htl := ats[0].toNat_lt
    have htwo := two_le_atsHistoricalStart ats[1]
    rw [List.length_drop]
    omega
  · intro hlen
    refine ⟨UInt8.ofNat (historicalBytes.length + 2) :: 0x00 :: historicalBytes, ?_⟩
    have hdeclared : ¬ 254 ≤ historicalBytes.length := by omega
    have hlong : ¬ historicalBytes.length + 1 + 1 < 2 := by omega
    have hstart : atsHistoricalStart 0x00 = 2 := by decide
    unfold atsHistoricalBytes
    simp [index, hdeclared, hlong, hstart, bind, Except.bind, sliceFrom, slice, pure, Except.pure]

theorem historical_bytes_taken_for_atr :
    atsHistoricalBytes [0x04, 0x00, 0x3b, 0x00] = .ok (.ok [0x3b, 0x00]) ∧
      ∃ atr, CcidBridge.buildPseudoAtr ⟨[0x01], .isoDep, [0x3b, 0x00]⟩ = .ok atr ∧
        ¬ IsPseudoAtr [0x3b, 0x00] atr := by
  refine ⟨rfl, _, rfl, ?_⟩
  intro ⟨_, hlen, _⟩
  exact absurd hlen (by decide)

end VirtualCcid.Ccid
