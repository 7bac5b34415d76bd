import Mathlib.Data.List.SplitLengths
import VirtualCcid.Ccid.Handed
import VirtualCcid.Nfc.Dummy

/-! Messages that are too long: what of their body, and of the messages behind them, is taken for
messages once their header has been refused. -/
namespace VirtualCcid.Ccid
open Rust Nfc Runs

/-- The bytes of one message, of a length the transport does not accept. -/
structure OversizedMessage where
  bytes : List UInt8
  hasHeader : ¬ bytes.length < 10
  whole : frameLength bytes hasHeader = bytes.length
  oversized : ccidMaxMessageLength + 10 < bytes.length

/-- An oversized message and others behind it, cut into packets. -/
structure Upload where
  first : OversizedMessage
  following : List BulkMessage
  packets : List (List UInt8)
  whole : packets.flatten = first.bytes ++ (following.map BulkMessage.bytes).flatten

/-- The commands of the messages that follow, without the bulk `Abort` ones. -/
def Upload.commands (u : Upload) : List CcidCommand :=
  (u.following.map BulkMessage.command).filter fun c => !c.isAbort

/-- The same lengths of messages and packets, whatever the bytes. -/
structure Upload.SameCut (u v : Upload) : Prop where
  first : v.first.bytes.length = u.first.bytes.length
  following : v.following.map (fun m => m.bytes.length) = u.following.map fun m => m.bytes.length
  packets : v.packets.map List.length = u.packets.map List.length

/-- The packets behind the one that completes a header, of which `buffered` bytes are there. -/
def packetsBehindHeader (buffered : ℕ) : List (List UInt8) → List (List UInt8)
  | [] => []
  | packet :: packets =>
    if 10 ≤ buffered + packet.length then packets
    else packetsBehindHeader (buffered + packet.length) packets

/-- The bytes behind the packet that completes the header of the oversized message. -/
def Upload.behindHeader (u : Upload) : List UInt8 := (packetsBehindHeader 0 u.packets).flatten

theorem packetsBehindHeader_suffix (buffered : ℕ) (packets : List (List UInt8)) :
    (packetsBehindHeader buffered packets).flatten <:+ packets.flatten := by
  induction packets generalizing buffered with
  | nil => exact List.suffix_refl _
  | cons packet packets ih =>
    rw [packetsBehindHeader, List.flatten_cons]
    split
    · exact List.suffix_append packet _
    · exact (ih _).trans (List.suffix_append packet _)

theorem length_packetsBehindHeader {buffered : ℕ} {packets : List (List UInt8)}
    (h : 10 ≤ buffered + packets.flatten.length) :
    (packetsBehindHeader buffered packets).flatten.length + 10 ≤
      buffered + packets.flatten.length := by
  induction packets generalizing buffered with
  | nil =>
    rw [packetsBehindHeader]
    simpa using h
  | cons packet packets ih =>
    rw [List.flatten_cons, List.length_append] at h ⊢
    rw [packetsBehindHeader]
    split
    · omega
    · have hleft : 10 ≤ buffered + packet.length + packets.flatten.length := by omega
      have hrest := ih hleft
      omega

theorem packetsBehindHeader_lengths {buffered : ℕ} {packets packets' : List (List UInt8)}
    (h : packets'.map List.length = packets.map List.length) :
    (packetsBehindHeader buffered packets').map List.length =
      (packetsBehindHeader buffered packets).map List.length := by
  induction packets generalizing packets' buffered with
  | nil =>
    obtain rfl := List.map_eq_nil_iff.mp h
    rfl
  | cons packet packets ih =>
    obtain ⟨packet', packets', rfl, hlen, hrest⟩ := List.map_eq_cons_iff.mp h
    rw [packetsBehindHeader, packetsBehindHeader, hlen]
    split
    · exact hrest
    · exact ih hrest

theorem OversizedMessage.ten_le (m : OversizedMessage) : 10 ≤ m.bytes.length :=
  Nat.not_lt.mp m.hasHeader

/-- An oversized message is refused as soon as its header is complete. -/
theorem scan_oversized (m : OversizedMessage) {buffer rest behind : List UInt8}
    (hlen : ¬ buffer.length < 10) (hstream : buffer ++ rest = m.bytes ++ behind) :
    scanFrame buffer = .refused m.bytes.length := by
  have hlong : ¬ (buffer ++ rest).length < 10 := by
    rw [List.length_append]
    omega
  have hlong' : ¬ (m.bytes ++ behind).length < 10 := by
    rw [← hstream]
    exact hlong
  have hframe : frameLength buffer hlen = m.bytes.length := by
    have hleft := frameLength_append hlen rest hlong
    have hright := frameLength_append m.hasHeader behind hlong'
    simp only [hstream] at hleft
    rw [← hleft, hright, m.whole]
  rw [scanFrame_long hlen, hframe, if_pos m.oversized]

theorem resume_behindHeader {σ : Type*} {react : σ → List UInt8 → Reaction σ} {s : σ}
    (m : OversizedMessage) {buffer behind : List UInt8} {packets : List (List UInt8)}
    (hbuffer : buffer.length < 10) (hstream : buffer ++ packets.flatten = m.bytes ++ behind) :
    ccidFraming.resume react s buffer packets =
      ccidFraming.resume react s [] (packetsBehindHeader buffer.length packets) := by
  induction packets generalizing buffer with
  | nil =>
    have hheader := m.ten_le
    have hlength := congrArg List.length hstream
    simp only [List.flatten_nil, List.append_nil, List.length_append] at hlength
    omega
  | cons packet packets ih =>
    rw [List.flatten_cons, ← List.append_assoc] at hstream
    have hlength : (buffer ++ packet).length = buffer.length + packet.length :=
      List.length_append
    rw [Framing.resume, packetsBehindHeader]
    by_cases hlen : (buffer ++ packet).length < 10
    · have hscan : ccidFraming.scan (buffer ++ packet) = .incomplete := by
        show scanFrame (buffer ++ packet) = _
        rw [scanFrame, dif_pos hlen]
      rw [Framing.drain_incomplete hscan, if_neg (by omega), ← hlength]
      exact ih hlen hstream
    · have hscan : ccidFraming.scan (buffer ++ packet) = .refused m.bytes.length :=
        scan_oversized m hlen hstream
      rw [Framing.drain_refused hscan, if_pos (by omega)]

theorem Upload.spelled_eq (u : Upload) :
    spelled u.packets = spelled (packetsBehindHeader 0 u.packets) := by
  have hresume : ccidFraming.resume note [] [] u.packets =
      ccidFraming.resume note [] [] (packetsBehindHeader 0 u.packets) :=
    resume_behindHeader u.first (by decide) u.whole
  exact congrArg Prod.fst hresume

theorem handedOf_bytes (m : BulkMessage) :
    handedOf m.bytes = [m.command].filter fun c => !c.isAbort := by
  rw [handedOf_eq m.decode_bytes]
  cases h : m.command.isAbort <;> simp [h]

theorem foldl_handedOf (log : List CcidCommand) (messages : List BulkMessage) :
    (messages.map BulkMessage.bytes).foldl (fun log frame => log ++ handedOf frame) log =
      log ++ (messages.map BulkMessage.command).filter fun c => !c.isAbort := by
  induction messages generalizing log with
  | nil => exact (List.append_nil log).symm
  | cons m messages ih =>
    rw [List.map_cons, List.foldl_cons, ih, handedOf_bytes, List.append_assoc, ← List.filter_append,
      List.singleton_append, ← List.map_cons]

theorem spelled_messages {messages : List BulkMessage} {packets : List (List UInt8)}
    (h : packets.flatten = (messages.map BulkMessage.bytes).flatten) :
    spelled packets = (messages.map BulkMessage.command).filter fun c => !c.isAbort := by
  have hscan : ∀ frame ∈ messages.map BulkMessage.bytes,
      ccidFraming.scan frame = .message frame [] := by
    intro frame hframe
    obtain ⟨m, -, rfl⟩ := List.mem_map.mp hframe
    exact m.scan_bytes
  have hdrain := note_keeps.drain_messages (s := []) trivial hscan []
  rw [List.append_nil, foldl_handedOf, List.nil_append,
    Framing.drain_incomplete ccidFraming.scan_nil] at hdrain
  have hfeed := note_keeps.feed_eq_drain ccidFraming.scan_nil (s := []) trivial packets
  rw [List.nil_append, h, hdrain] at hfeed
  rw [spelled, Framing.resume_of_feed hfeed]

theorem spelled_short {packets : List (List UInt8)} (h : packets.flatten.length < 10) :
    spelled packets = [] := by
  have hscan : ccidFraming.scan ([] ++ packets.flatten) = .incomplete := by
    show scanFrame packets.flatten = _
    rw [scanFrame, dif_pos h]
  rw [spelled, Framing.resume_incomplete hscan]

/-- Behind the packet that completes the header lie the messages that follow, or fewer than ten
bytes if none follows. -/
def Upload.EndsWithHeader (u : Upload) : Prop :=
  u.behindHeader.length = (u.following.map BulkMessage.bytes).flatten.length ∨
    (u.following = [] ∧ u.behindHeader.length < 10)

theorem Upload.behindHeader_suffix (u : Upload) :
    u.behindHeader <:+ u.first.bytes ++ (u.following.map BulkMessage.bytes).flatten := by
  rw [← u.whole]
  exact packetsBehindHeader_suffix 0 u.packets

theorem Upload.EndsWithHeader.spelled {u : Upload} (h : u.EndsWithHeader) :
    spelled u.packets = u.commands := by
  rw [u.spelled_eq]
  rcases h with hlength | ⟨hnone, hshort⟩
  · apply spelled_messages
    have hfollowing : (u.following.map BulkMessage.bytes).flatten <:+
        u.first.bytes ++ (u.following.map BulkMessage.bytes).flatten :=
      List.suffix_append u.first.bytes _
    have hsuffix := List.suffix_of_suffix_length_le u.behindHeader_suffix hfollowing hlength.le
    exact hsuffix.eq_of_length hlength
  · rw [spelled_short hshort, Upload.commands, hnone]
    rfl

end VirtualCcid.Ccid
