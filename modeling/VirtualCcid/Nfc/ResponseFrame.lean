import VirtualCcid.Rust.Read
import VirtualCcid.Nfc.Pn532

/-! The response frames of the PN532 and the parser that reads one from the serial port. -/
namespace VirtualCcid.Nfc
open Rust Reading

def preamble : List UInt8 := [0x00, 0x00, 0xff]
def pn532ToHost : UInt8 := 0xd5
def postamble : UInt8 := 0x00
def extendedFrameMarker : List UInt8 := [0xff, 0xff]

/-- What `read_exact` fails with at the end of the stream. -/
def unexpectedEof : Pn532Error := .interfaceError "failed to fill whole buffer"

def byteSum : List UInt8 → ℕ
  | [] => 0
  | byte :: bytes => byte.toNat + byteSum bytes

def checksum (bytes : List UInt8) : UInt8 := bytes.foldl (fun sum byte => sum + byte) 0

/-- The length the header announces; an extended one is read behind it. -/
def receiveFrameLen (header : List UInt8) : Reading Pn532Error ℕ := do
  if (← eval (slice header 3 5)) = extendedFrameMarker then
    let extendedHeader ← readExact unexpectedEof 3
    let high ← eval (index extendedHeader 0)
    let low ← eval (index extendedHeader 1)
    if high + low + (← eval (index extendedHeader 2)) ≠ 0 then fail .crcError
    else return u16FromBeBytes high low
  else
    let frameLen ← eval (index header 3)
    if frameLen + (← eval (index header 4)) ≠ 0 then fail .crcError
    else return frameLen.toNat

/-- The payload of a frame whose bytes behind the length field have been read. -/
def framePayload (frame : List UInt8) (expectedResponseCommand : UInt8) :
    Reading Pn532Error (List UInt8) := do
  if (← eval (index frame (frame.length - 1))) ≠ postamble then fail .badResponseFrame
  else if (← eval (index frame 0)) ≠ pn532ToHost ∨
      (← eval (index frame 1)) ≠ expectedResponseCommand then fail .badResponseFrame
  else if checksum (← eval (slice frame 0 (frame.length - 1))) ≠ 0 then fail .crcError
  else eval (slice frame 2 (frame.length - 2))

/-- What follows the length field. A length of one is that of the PN532's error frame. -/
def receiveFrame (expectedResponseCommand : UInt8) (frameLen : ℕ) :
    Reading Pn532Error (List UInt8) :=
  if frameLen = 0 then fail .badResponseFrame
  else if frameLen = 1 then fail .syntaxError
  else do
    let frame ← readExact unexpectedEof (frameLen + 2)
    framePayload frame expectedResponseCommand

def receiveDynamicResponseFrom (expectedResponseCommand : UInt8) :
    Reading Pn532Error (List UInt8) := do
  let header ← readExact unexpectedEof 5
  if (← eval (slice header 0 3)) ≠ preamble then fail .badResponseFrame
  else
    let frameLen ← receiveFrameLen header
    receiveFrame expectedResponseCommand frameLen

/-- The length fields and the lengths they announce. -/
inductive LengthField : ℕ → List UInt8 → Prop
  | normal {len lcs : UInt8} : (len.toNat + lcs.toNat) % 0x100 = 0 →
      ¬ (len = 0xff ∧ lcs = 0xff) → LengthField len.toNat [len, lcs]
  | extended {high low lcs : UInt8} : (high.toNat + low.toNat + lcs.toNat) % 0x100 = 0 →
      LengthField (0x100 * high.toNat + low.toNat) [0xff, 0xff, high, low, lcs]

/-- A complete frame around `content`, with intact length and data checksums. -/
def IsFrame (content frame : List UInt8) : Prop :=
  ∃ field dcs, LengthField content.length field ∧
    byteSum (content ++ [dcs]) % 0x100 = 0 ∧
    frame = preamble ++ field ++ content ++ [dcs, postamble]

/-- The frame that answers a command with `payload`. -/
def IsResponseFrame (responseCommand : UInt8) (payload frame : List UInt8) : Prop :=
  IsFrame (pn532ToHost :: responseCommand :: payload) frame

theorem checksum_toNat (bytes : List UInt8) :
    (checksum bytes).toNat = byteSum bytes % 0x100 := by
  have hfold : ∀ (bytes : List UInt8) (start : UInt8),
      (bytes.foldl (fun sum byte => sum + byte) start).toNat =
        (start.toNat + byteSum bytes) % 0x100 := by
    intro bytes
    induction bytes with
    | nil =>
      intro start
      have hs := start.toNat_lt
      simp only [List.foldl_nil, byteSum]
      omega
    | cons byte bytes ih =>
      intro start
      simp only [List.foldl_cons, ih, UInt8.toNat_add, byteSum]
      omega
  have h := hfold bytes 0
  rw [UInt8.toNat_zero, Nat.zero_add] at h
  exact h

theorem checksum_eq_zero_iff (bytes : List UInt8) :
    checksum bytes = 0 ↔ byteSum bytes % 0x100 = 0 := by
  rw [← UInt8.toNat_inj, checksum_toNat, UInt8.toNat_zero]

theorem add_eq_zero_iff_mod (a b : UInt8) : a + b = 0 ↔ (a.toNat + b.toNat) % 0x100 = 0 := by
  rw [← UInt8.toNat_inj, UInt8.toNat_add, UInt8.toNat_zero]

theorem add_add_eq_zero_iff_mod (a b c : UInt8) :
    a + b + c = 0 ↔ (a.toNat + b.toNat + c.toNat) % 0x100 = 0 := by
  rw [add_eq_zero_iff_mod, UInt8.toNat_add]
  omega

theorem receiveFrameLen_normal (a b c : UInt8) {len lcs : UInt8}
    (h : ¬ (len = 0xff ∧ lcs = 0xff)) :
    receiveFrameLen [a, b, c, len, lcs] =
      if len + lcs ≠ 0 then fail .crcError else pure len.toNat := by
  unfold receiveFrameLen
  simp [slice, index, extendedFrameMarker, h]

theorem receiveFrameLen_extended (a b c : UInt8) :
    receiveFrameLen [a, b, c, 0xff, 0xff] = do
      let extendedHeader ← readExact unexpectedEof 3
      let high ← eval (index extendedHeader 0)
      let low ← eval (index extendedHeader 1)
      if high + low + (← eval (index extendedHeader 2)) ≠ 0 then fail .crcError
      else return u16FromBeBytes high low := by
  unfold receiveFrameLen
  simp [slice, extendedFrameMarker]

/-- The header accepts the bytes that begin with a length field. -/
theorem receiveFrameLen_eq_ok_iff {a b c len lcs : UInt8} {s t : List UInt8} {n : ℕ} :
    (receiveFrameLen [a, b, c, len, lcs]).run s = (.ok n, t) ↔
      ∃ field, LengthField n field ∧ len :: lcs :: s = field ++ t := by
  by_cases h : len = 0xff ∧ lcs = 0xff
  · obtain ⟨rfl, rfl⟩ := h
    rw [receiveFrameLen_extended, run_bind_eq_ok_iff]
    constructor
    · rintro ⟨header, m, hread, hrest⟩
      obtain ⟨hlen, rfl⟩ := run_readExact_eq_ok_iff.mp hread
      obtain ⟨high, low, lcs, rfl⟩ := List.length_eq_three.mp hlen
      simp only [index, List.getElem?_cons_zero, List.getElem?_cons_succ, eval_ok, pure_then]
        at hrest
      by_cases hsum : high + low + lcs = 0
      · simp only [hsum, ne_eq, not_true, if_false, run_pure, Prod.mk.injEq, Except.ok.injEq]
          at hrest
        obtain ⟨rfl, rfl⟩ := hrest
        exact ⟨_, .extended ((add_add_eq_zero_iff_mod _ _ _).mp hsum), by simp⟩
      · simp [hsum] at hrest
    · rintro ⟨field, hfield, hs⟩
      cases hfield with
      | normal hsum hmark =>
        simp only [List.cons_append, List.cons.injEq] at hs
        exact absurd ⟨hs.1.symm, hs.2.1.symm⟩ hmark
      | @extended high low lcs hsum =>
        simp only [List.cons_append, List.nil_append, List.cons.injEq, true_and] at hs
        subst hs
        refine ⟨[high, low, lcs], t, run_readExact_append (s := [high, low, lcs]) _ rfl, ?_⟩
        simp [index, (add_add_eq_zero_iff_mod _ _ _).mpr hsum, u16FromBeBytes]
  · rw [receiveFrameLen_normal a b c h]
    constructor
    · intro hread
      by_cases hsum : len + lcs = 0
      · simp only [hsum, ne_eq, not_true, if_false, run_pure, Prod.mk.injEq, Except.ok.injEq]
          at hread
        obtain ⟨rfl, rfl⟩ := hread
        exact ⟨_, .normal ((add_eq_zero_iff_mod _ _).mp hsum) h, by simp⟩
      · simp [hsum] at hread
    · rintro ⟨field, hfield, hs⟩
      cases hfield with
      | normal hsum hmark =>
        simp only [List.cons_append, List.nil_append, List.cons.injEq] at hs
        obtain ⟨rfl, rfl, rfl⟩ := hs
        simp [(add_eq_zero_iff_mod _ _).mpr hsum]
      | extended hsum =>
        simp only [List.cons_append, List.cons.injEq] at hs
        exact absurd ⟨hs.1, hs.2.1⟩ h

theorem framePayload_eq (tfi code dcs post c : UInt8) (payload : List UInt8) :
    framePayload (tfi :: code :: (payload ++ [dcs, post])) c =
      if post ≠ postamble then fail .badResponseFrame
      else if tfi ≠ pn532ToHost ∨ code ≠ c then fail .badResponseFrame
      else if checksum (tfi :: code :: (payload ++ [dcs])) ≠ 0 then fail .crcError
      else pure payload := by
  have hlast : index (tfi :: code :: (payload ++ [dcs, post]))
      ((tfi :: code :: (payload ++ [dcs, post])).length - 1) = .ok post := by
    simp [index]
  have hsum : slice (tfi :: code :: (payload ++ [dcs, post])) 0
      ((tfi :: code :: (payload ++ [dcs, post])).length - 1) =
        .ok (tfi :: code :: (payload ++ [dcs])) := by
    have hsplit : tfi :: code :: (payload ++ [dcs, post]) =
        (tfi :: code :: (payload ++ [dcs])) ++ [post] := by simp
    rw [slice_eq_ok (Nat.zero_le _) (Nat.sub_le _ _), hsplit, List.drop_zero,
      List.take_left' (by simp)]
  have hpayload : slice (tfi :: code :: (payload ++ [dcs, post])) 2
      ((tfi :: code :: (payload ++ [dcs, post])).length - 2) = .ok payload := by
    rw [slice_eq_ok (by simp) (Nat.sub_le _ _)]
    simp
  unfold framePayload
  rw [hlast, hsum, hpayload]
  simp [index]

theorem frame_cases {frame : List UInt8} (h : 4 ≤ frame.length) :
    ∃ tfi code payload dcs post, frame = tfi :: code :: (payload ++ [dcs, post]) := by
  obtain _ | ⟨tfi, _ | ⟨code, rest⟩⟩ := frame
  · simp at h
  · simp at h
  rcases rest.eq_nil_or_concat with rfl | ⟨rest, post, rfl⟩
  · simp at h
  rcases rest.eq_nil_or_concat with rfl | ⟨payload, dcs, rfl⟩
  · simp at h
  · exact ⟨tfi, code, payload, dcs, post, by simp⟩

theorem receiveFrame_of_length {c : UInt8} {n : ℕ} (h : 2 ≤ n) :
    receiveFrame c n = (do
      let frame ← readExact unexpectedEof (n + 2)
      framePayload frame c) := by
  have h0 : n ≠ 0 := by omega
  have h1 : n ≠ 1 := by omega
  rw [receiveFrame, if_neg h0, if_neg h1]

theorem framePayload_eq_ok_iff {frame payload s t : List UInt8} {c : UInt8}
    (h : 4 ≤ frame.length) :
    (framePayload frame c).run s = (.ok payload, t) ↔
      s = t ∧ ∃ dcs, byteSum (pn532ToHost :: c :: payload ++ [dcs]) % 0x100 = 0 ∧
        frame = pn532ToHost :: c :: payload ++ [dcs, postamble] := by
  obtain ⟨tfi, code, payload', dcs, post, rfl⟩ := frame_cases h
  rw [framePayload_eq]
  constructor
  · intro hread
    split at hread
    · cases hread
    split at hread
    · cases hread
    split at hread
    · cases hread
    rename_i hpost hcode hsum
    rw [not_or, not_not, not_not] at hcode
    rw [not_not] at hpost hsum
    obtain ⟨rfl, rfl⟩ := hcode
    simp only [run_pure, Prod.mk.injEq, Except.ok.injEq] at hread
    obtain ⟨rfl, rfl⟩ := hread
    refine ⟨rfl, dcs, (checksum_eq_zero_iff _).mp hsum, ?_⟩
    rw [hpost, List.cons_append, List.cons_append]
  · intro ⟨hs, dcs', hsum, hframe⟩
    simp only [List.cons_append, List.cons.injEq] at hframe
    obtain ⟨rfl, rfl, htail⟩ := hframe
    obtain ⟨rfl, hends⟩ := List.append_inj' htail rfl
    obtain ⟨rfl, rfl⟩ : dcs = dcs' ∧ post = postamble := by simpa using hends
    have hzero := (checksum_eq_zero_iff _).mpr hsum
    rw [List.cons_append, List.cons_append] at hzero
    simp [hzero, hs]

theorem receiveFrame_eq_ok_iff {c : UInt8} {n : ℕ} {payload s t : List UInt8} :
    (receiveFrame c n).run s = (.ok payload, t) ↔
      n = payload.length + 2 ∧ ∃ dcs,
        byteSum (pn532ToHost :: c :: payload ++ [dcs]) % 0x100 = 0 ∧
        s = pn532ToHost :: c :: payload ++ [dcs, postamble] ++ t := by
  by_cases hn : 2 ≤ n
  · rw [receiveFrame_of_length hn, run_bind_eq_ok_iff]
    constructor
    · intro ⟨frame, m, hread, hpayload⟩
      obtain ⟨hlen, rfl⟩ := run_readExact_eq_ok_iff.mp hread
      obtain ⟨rfl, dcs, hsum, rfl⟩ := (framePayload_eq_ok_iff (by omega)).mp hpayload
      refine ⟨?_, dcs, hsum, rfl⟩
      simp only [List.length_append, List.length_cons, List.length_nil] at hlen
      omega
    · intro ⟨hlen, dcs, hsum, hs⟩
      have hframe : (pn532ToHost :: c :: payload ++ [dcs, postamble]).length = n + 2 := by
        simp [hlen]
      exact ⟨_, t, run_readExact_eq_ok_iff.mpr ⟨hframe, hs⟩,
        (framePayload_eq_ok_iff (by omega)).mpr ⟨rfl, dcs, hsum, rfl⟩⟩
  · constructor
    · intro h
      obtain rfl | rfl : n = 0 ∨ n = 1 := by omega
      · cases h
      · cases h
    · intro ⟨hlen, _⟩
      omega

theorem header_cases {header : List UInt8} (h : header.length = 5) :
    ∃ a b d len lcs, header = [a, b, d, len, lcs] := by
  obtain _ | ⟨a, _ | ⟨b, rest⟩⟩ := header
  · simp at h
  · simp at h
  obtain ⟨d, len, lcs, rfl⟩ := List.length_eq_three.mp (show rest.length = 3 by simpa using h)
  exact ⟨a, b, d, len, lcs, rfl⟩

theorem receiveDynamicResponseFrom_header (a b d len lcs c : UInt8) (s : List UInt8) :
    (receiveDynamicResponseFrom c).run ([a, b, d, len, lcs] ++ s) =
      (if [a, b, d] ≠ preamble then fail .badResponseFrame
      else receiveFrameLen [a, b, d, len, lcs] >>= receiveFrame c).run s := by
  have hread : (readExact unexpectedEof 5).run ([a, b, d, len, lcs] ++ s) =
      (.ok [a, b, d, len, lcs], s) := run_readExact_append unexpectedEof rfl
  unfold receiveDynamicResponseFrom
  rw [run_bind_of_ok hread]
  simp [slice]

/-- The parser reads the preamble and the length field before the frame of that length. -/
theorem receiveDynamicResponseFrom_of_length {n : ℕ} {field : List UInt8} (c : UInt8)
    (m : List UInt8) (h : LengthField n field) :
    (receiveDynamicResponseFrom c).run (preamble ++ field ++ m) = (receiveFrame c n).run m := by
  obtain ⟨len, lcs, rest, rfl⟩ : ∃ len lcs rest, field = len :: lcs :: rest := by
    cases h with
    | normal => exact ⟨_, _, _, rfl⟩
    | extended => exact ⟨_, _, _, rfl⟩
  have hsplit : preamble ++ len :: lcs :: rest ++ m =
      [0x00, 0x00, 0xff, len, lcs] ++ (rest ++ m) := by
    simp [preamble]
  have hpre : ¬ [0x00, 0x00, 0xff] ≠ preamble := not_not.mpr rfl
  rw [hsplit, receiveDynamicResponseFrom_header, if_neg hpre]
  exact run_bind_of_ok (receiveFrameLen_eq_ok_iff.mpr ⟨_, h, rfl⟩)

theorem receiveDynamicResponseFrom_eq_ok_iff {c : UInt8} {payload s t : List UInt8} :
    (receiveDynamicResponseFrom c).run s = (.ok payload, t) ↔
      ∃ n field m, LengthField n field ∧ s = preamble ++ field ++ m ∧
        (receiveFrame c n).run m = (.ok payload, t) := by
  constructor
  · intro h
    obtain ⟨header, m, hread, -⟩ := run_bind_eq_ok_iff.mp h
    obtain ⟨hlen, rfl⟩ := run_readExact_eq_ok_iff.mp hread
    obtain ⟨a, b, d, len, lcs, rfl⟩ := header_cases hlen
    rw [receiveDynamicResponseFrom_header] at h
    split at h
    · cases h
    · rename_i hpre
      obtain ⟨n, m', hn, hframe⟩ := run_bind_eq_ok_iff.mp h
      obtain ⟨field, hfield, hs⟩ := receiveFrameLen_eq_ok_iff.mp hn
      refine ⟨n, field, m', hfield, ?_, hframe⟩
      rw [← not_not.mp hpre, List.append_assoc, ← hs]
      rfl
  · intro ⟨n, field, m, hfield, hs, hframe⟩
    rw [hs, receiveDynamicResponseFrom_of_length c m hfield, hframe]

/-- The parser accepts the streams that begin with a response frame, and reads that frame. -/
theorem receiveDynamicResponseFrom_accepts_iff {c : UInt8} {payload s rest : List UInt8} :
    (receiveDynamicResponseFrom c).run s = (.ok payload, rest) ↔
      ∃ frame, IsResponseFrame c payload frame ∧ s = frame ++ rest := by
  rw [receiveDynamicResponseFrom_eq_ok_iff]
  constructor
  · intro ⟨n, field, m, hfield, hs, hframe⟩
    obtain ⟨hn, dcs, hsum, hm⟩ := receiveFrame_eq_ok_iff.mp hframe
    have hlen : (pn532ToHost :: c :: payload).length = n := hn.symm
    refine ⟨_, ⟨field, dcs, hlen ▸ hfield, hsum, rfl⟩, ?_⟩
    rw [hs, hm]
    simp
  · intro ⟨frame, ⟨field, dcs, hfield, hsum, hframe⟩, hs⟩
    refine ⟨_, field, _, hfield, ?_, receiveFrame_eq_ok_iff.mpr ⟨rfl, dcs, hsum, rfl⟩⟩
    rw [hs, hframe]
    simp

theorem receiveFrameLen_safe (a b d len lcs : UInt8) :
    (receiveFrameLen [a, b, d, len, lcs]).Safe := by
  by_cases h : len = 0xff ∧ lcs = 0xff
  · obtain ⟨rfl, rfl⟩ := h
    rw [receiveFrameLen_extended]
    refine (safe_readExact _ _).bind fun s t header hread => ?_
    obtain ⟨hlen, -⟩ := run_readExact_eq_ok_iff.mp hread
    obtain ⟨high, low, lcs, rfl⟩ := List.length_eq_three.mp hlen
    simp only [index, List.getElem?_cons_zero, List.getElem?_cons_succ, eval_ok, pure_then]
    exact (safe_fail _).ite (safe_pure _)
  · rw [receiveFrameLen_normal _ _ _ h]
    exact (safe_fail _).ite (safe_pure _)

theorem receiveFrame_safe (c : UInt8) (n : ℕ) : (receiveFrame c n).Safe := by
  by_cases hn : 2 ≤ n
  · rw [receiveFrame_of_length hn]
    refine (safe_readExact _ _).bind fun s t frame hread => ?_
    obtain ⟨hlen, -⟩ := run_readExact_eq_ok_iff.mp hread
    obtain ⟨tfi, code, payload, dcs, post, rfl⟩ := frame_cases (show 4 ≤ frame.length by omega)
    rw [framePayload_eq]
    exact (safe_fail _).ite ((safe_fail _).ite ((safe_fail _).ite (safe_pure _)))
  · obtain rfl | rfl : n = 0 ∨ n = 1 := by omega
    · exact safe_fail _
    · exact safe_fail _

theorem receiveDynamicResponseFrom_safe (c : UInt8) : (receiveDynamicResponseFrom c).Safe := by
  refine (safe_readExact _ _).bind fun s t header hread => ?_
  obtain ⟨hlen, -⟩ := run_readExact_eq_ok_iff.mp hread
  obtain ⟨a, b, d, len, lcs, rfl⟩ := header_cases hlen
  have hslice : slice [a, b, d, len, lcs] 0 3 = .ok [a, b, d] := by simp [slice]
  rw [hslice, eval_ok, pure_then]
  exact (safe_fail _).ite
    ((receiveFrameLen_safe a b d len lcs).bind fun _ _ n _ => receiveFrame_safe c n)

def encodeFrame (field content : List UInt8) : List UInt8 :=
  preamble ++ field ++ content ++ [0 - checksum content, postamble]

def normalLength (n : ℕ) : List UInt8 := [UInt8.ofNat n, 0 - UInt8.ofNat n]

def extendedLength (n : ℕ) : List UInt8 :=
  let high := UInt8.ofNat (n / 0x100)
  let low := UInt8.ofNat n
  extendedFrameMarker ++ [high, low, 0 - (high + low)]

/-- The response of the PN532 in a normal frame. -/
def encodeNormal (responseCommand : UInt8) (payload : List UInt8) : List UInt8 :=
  encodeFrame (normalLength (payload.length + 2)) (pn532ToHost :: responseCommand :: payload)

/-- The response of the PN532 in an extended frame, as the tests build it. -/
def encodeExtended (responseCommand : UInt8) (payload : List UInt8) : List UInt8 :=
  encodeFrame (extendedLength (payload.length + 2)) (pn532ToHost :: responseCommand :: payload)

theorem normalLength_isLengthField {n : ℕ} (h : n < 0x100) : LengthField n (normalLength n) := by
  have hn : (UInt8.ofNat n).toNat = n := UInt8.toNat_ofNat_of_lt' h
  have hsum : UInt8.ofNat n + (0 - UInt8.ofNat n) = 0 := by
    rw [UInt8.add_comm, UInt8.sub_add_cancel]
  have hmark : ¬ (UInt8.ofNat n = 0xff ∧ 0 - UInt8.ofNat n = 0xff) := by
    intro ⟨hlen, hlcs⟩
    rw [hlen] at hlcs
    exact absurd hlcs (by decide)
  have hfield := LengthField.normal ((add_eq_zero_iff_mod _ _).mp hsum) hmark
  rwa [hn] at hfield

theorem extendedLength_isLengthField {n : ℕ} (h : n < 0x10000) :
    LengthField n (extendedLength n) := by
  have hhigh : (UInt8.ofNat (n / 0x100)).toNat = n / 0x100 :=
    UInt8.toNat_ofNat_of_lt' (by show n / 0x100 < 0x100; omega)
  have hlow : (UInt8.ofNat n).toNat = n % 0x100 := UInt8.toNat_ofNat'
  have hsum : UInt8.ofNat (n / 0x100) + UInt8.ofNat n +
      (0 - (UInt8.ofNat (n / 0x100) + UInt8.ofNat n)) = 0 := by
    rw [UInt8.add_comm, UInt8.sub_add_cancel]
  have hfield := LengthField.extended ((add_add_eq_zero_iff_mod _ _ _).mp hsum)
  have hn : 0x100 * (n / 0x100) + n % 0x100 = n := by omega
  rwa [hhigh, hlow, hn] at hfield

theorem encodeFrame_isFrame {field content : List UInt8} (h : LengthField content.length field) :
    IsFrame content (encodeFrame field content) := by
  refine ⟨field, 0 - checksum content, h, ?_, rfl⟩
  rw [← checksum_eq_zero_iff]
  have hconcat : checksum (content ++ [0 - checksum content]) =
      checksum content + (0 - checksum content) := by
    simp [checksum]
  rw [hconcat, UInt8.add_comm, UInt8.sub_add_cancel]

theorem encodeNormal_isResponseFrame (c : UInt8) {payload : List UInt8}
    (h : payload.length ≤ 253) : IsResponseFrame c payload (encodeNormal c payload) := by
  have hfield := normalLength_isLengthField (show payload.length + 2 < 0x100 by omega)
  exact encodeFrame_isFrame hfield

theorem encodeExtended_isResponseFrame (c : UInt8) {payload : List UInt8}
    (h : payload.length ≤ 65533) : IsResponseFrame c payload (encodeExtended c payload) := by
  have hfield := extendedLength_isLengthField (show payload.length + 2 < 0x10000 by omega)
  exact encodeFrame_isFrame hfield

/-- The parser accepts exactly the response frames, reads no further, inverts both encoders of
the device and panics on no stream. -/
theorem response_frames_accepted :
    (∀ c s payload rest, (receiveDynamicResponseFrom c).run s = (.ok payload, rest) ↔
      ∃ frame, IsResponseFrame c payload frame ∧ s = frame ++ rest) ∧
    (∀ c payload rest, payload.length ≤ 253 →
      (receiveDynamicResponseFrom c).run (encodeNormal c payload ++ rest) = (.ok payload, rest)) ∧
    (∀ c payload rest, payload.length ≤ 65533 →
      (receiveDynamicResponseFrom c).run (encodeExtended c payload ++ rest) =
        (.ok payload, rest)) ∧
    ∀ c s panic, ((receiveDynamicResponseFrom c).run s).1 ≠ .error (.panic panic) := by
  refine ⟨fun c s payload rest => receiveDynamicResponseFrom_accepts_iff, ?_, ?_,
    receiveDynamicResponseFrom_safe⟩
  · intro c payload rest h
    have hframe := encodeNormal_isResponseFrame c h
    exact receiveDynamicResponseFrom_accepts_iff.mpr ⟨_, hframe, rfl⟩
  · intro c payload rest h
    have hframe := encodeExtended_isResponseFrame c h
    exact receiveDynamicResponseFrom_accepts_iff.mpr ⟨_, hframe, rfl⟩

theorem response_frames_accepted_of_long_payload :
    (List.replicate 260 (0xa5 : UInt8)).length ≤ 65533 ∧
      (receiveDynamicResponseFrom 0x41).run
        (encodeExtended 0x41 (List.replicate 260 0xa5) ++ [0x00]) =
          (.ok (List.replicate 260 0xa5), [0x00]) := by
  have h : (List.replicate 260 (0xa5 : UInt8)).length ≤ 65533 := by
    rw [List.length_replicate]
    omega
  exact ⟨h, response_frames_accepted.2.2.1 0x41 _ [0x00] h⟩

def applicationErrorFrame : List UInt8 := [0x00, 0x00, 0xff, 0x01, 0xff, 0x7f, 0x81, 0x00]

/-- The complete frames a PN532 sends: information frames, and the application error frame. -/
inductive DeviceFrame : List UInt8 → Prop
  | information {tfi code : UInt8} {payload frame : List UInt8} :
      IsFrame (tfi :: code :: payload) frame → DeviceFrame frame
  | applicationError : DeviceFrame applicationErrorFrame

theorem framePayload_reads_nothing (tfi code dcs post c : UInt8) (payload s : List UInt8) :
    ((framePayload (tfi :: code :: (payload ++ [dcs, post])) c).run s).2 = s := by
  rw [framePayload_eq]
  split
  · rfl
  split
  · rfl
  split
  · rfl
  · rfl

theorem information_frame_consumed {tfi code : UInt8} {payload frame : List UInt8} (c : UInt8)
    (rest : List UInt8) (h : IsFrame (tfi :: code :: payload) frame) :
    ((receiveDynamicResponseFrom c).run (frame ++ rest)).2 = rest := by
  obtain ⟨field, dcs, hfield, -, rfl⟩ := h
  have hsplit : preamble ++ field ++ tfi :: code :: payload ++ [dcs, postamble] ++ rest =
      preamble ++ field ++ (tfi :: code :: (payload ++ [dcs, postamble]) ++ rest) := by simp
  have hread : (readExact unexpectedEof ((tfi :: code :: payload).length + 2)).run
      (tfi :: code :: (payload ++ [dcs, postamble]) ++ rest) =
        (.ok (tfi :: code :: (payload ++ [dcs, postamble])), rest) :=
    run_readExact_append unexpectedEof (by simp)
  rw [hsplit, receiveDynamicResponseFrom_of_length c _ hfield,
    receiveFrame_of_length (by simp), run_bind_of_ok hread]
  exact framePayload_reads_nothing tfi code dcs postamble c payload rest

theorem error_frame_run (c : UInt8) (rest : List UInt8) :
    (receiveDynamicResponseFrom c).run (applicationErrorFrame ++ rest) =
      (.error (.error .syntaxError), [0x7f, 0x81, 0x00] ++ rest) := by
  have hfield : LengthField 1 [0x01, 0xff] := @LengthField.normal 0x01 0xff rfl (by decide)
  exact receiveDynamicResponseFrom_of_length c ([0x7f, 0x81, 0x00] ++ rest) hfield

theorem error_frame_left_unread :
    DeviceFrame applicationErrorFrame ∧
      ((receiveDynamicResponseFrom 0x4b).run (applicationErrorFrame ++ [0x00])).2 ≠ [0x00] := by
  refine ⟨.applicationError, ?_⟩
  rw [error_frame_run]
  decide

/-- The port stays in step behind every frame of the device but its error frame. -/
theorem stream_in_step_iff (c : UInt8) {frame : List UInt8} (rest : List UInt8)
    (h : DeviceFrame frame) :
    ((receiveDynamicResponseFrom c).run (frame ++ rest)).2 = rest ↔
      frame ≠ applicationErrorFrame := by
  have herror : ((receiveDynamicResponseFrom c).run (applicationErrorFrame ++ rest)).2 ≠ rest := by
    rw [error_frame_run]
    intro hrest
    have hlen := congrArg List.length hrest
    simp only [List.length_append, List.length_cons, List.length_nil] at hlen
    omega
  cases h with
  | information hframe =>
    have hconsumed := information_frame_consumed c rest hframe
    refine ⟨fun _ heq => ?_, fun _ => hconsumed⟩
    rw [heq] at hconsumed
    exact herror hconsumed
  | applicationError => exact ⟨fun hrest => absurd hrest herror, fun hne => absurd rfl hne⟩

theorem stream_in_step_of_other_response :
    DeviceFrame (encodeNormal 0x41 [0x00]) ∧
      (((receiveDynamicResponseFrom 0x4b).run (encodeNormal 0x41 [0x00] ++ [0x00])).2 = [0x00] ↔
        encodeNormal 0x41 [0x00] ≠ applicationErrorFrame) := by
  have hframe : DeviceFrame (encodeNormal 0x41 [0x00]) :=
    .information (encodeNormal_isResponseFrame 0x41 (by decide))
  exact ⟨hframe, stream_in_step_iff 0x4b [0x00] hframe⟩

end VirtualCcid.Nfc
