import VirtualCcid.Ccid.Oversize

/-! What becomes of an upload that is cut elsewhere: bytes of the refused body are taken for a
message, or the beginning of a message behind it is dropped with the body. -/
namespace VirtualCcid.Ccid
open Rust Nfc Runs

namespace CcidCommand

def messageTypes : List UInt8 :=
  [pcToRdrIccPowerOn, pcToRdrIccPowerOff, pcToRdrGetSlotStatus, pcToRdrSetParameters,
    pcToRdrGetParameters, pcToRdrResetParameters, pcToRdrXfrBlock, pcToRdrAbort]

theorem decode_unknown {frame : List UInt8} {command : CcidCommand} {messageType : UInt8}
    (hd : decode frame = .ok command) (ht : frame.head? = some messageType)
    (hunknown : messageType ∉ messageTypes) :
    ∃ slot seq parameters,
      command = .unknown messageType slot seq parameters (frame.drop 10) := by
  by_cases hlen : frame.length < 10
  · rw [decode, dif_pos hlen] at hd
    cases hd
  have htype : frame[0] = messageType := by
    have hhead := List.head?_eq_getElem? (l := frame)
    rw [ht, List.getElem?_eq_getElem (by omega)] at hhead
    exact (Option.some.inj hhead).symm
  obtain ⟨hon, hoff, hstatus, hset, hget, hreset, hblock, habort⟩ :
      messageType ≠ pcToRdrIccPowerOn ∧ messageType ≠ pcToRdrIccPowerOff ∧
        messageType ≠ pcToRdrGetSlotStatus ∧ messageType ≠ pcToRdrSetParameters ∧
        messageType ≠ pcToRdrGetParameters ∧ messageType ≠ pcToRdrResetParameters ∧
        messageType ≠ pcToRdrXfrBlock ∧ messageType ≠ pcToRdrAbort := by
    simpa only [messageTypes, List.mem_cons, List.not_mem_nil, or_false, not_or] using hunknown
  rw [decode, dif_neg hlen] at hd
  dsimp only at hd
  rcases ite_eq_iff.mp hd with ⟨-, hd⟩ | ⟨-, hd⟩
  · cases hd
  · obtain rfl := Except.ok.inj hd
    rw [htype, if_neg hon, if_neg hoff, if_neg hstatus, if_neg hget, if_neg hreset, if_neg hset,
      if_neg hblock, if_neg habort]
    exact ⟨_, _, _, rfl⟩

/-- The length of the message of a command of unknown type, which is kept with the command. -/
def unknownLength : CcidCommand → ℕ
  | unknown _ _ _ _ payload => 10 + payload.length
  | _ => 0

theorem unknownLength_le {frame : List UInt8} {command : CcidCommand}
    (hd : decode frame = .ok command) : command.unknownLength ≤ frame.length := by
  by_cases hlen : frame.length < 10
  · rw [decode, dif_pos hlen] at hd
    cases hd
  have hpayload : 10 + (frame.drop 10).length ≤ frame.length := by
    rw [List.length_drop]
    omega
  rw [decode, dif_neg hlen] at hd
  dsimp only at hd
  rcases ite_eq_iff.mp hd with ⟨-, hd⟩ | ⟨-, hd⟩
  · cases hd
  · obtain rfl := Except.ok.inj hd
    -- No branch but the last keeps the payload of an unknown command.
    iterate 8
      refine iteInduction (motive := fun c => unknownLength c ≤ frame.length)
        (fun _ => Nat.zero_le _) fun _ => ?_
    exact hpayload

end CcidCommand

/-- The bytes of the messages of unknown types among these. -/
def unknownBytes : List CcidCommand → ℕ
  | [] => 0
  | command :: commands => command.unknownLength + unknownBytes commands

theorem unknownBytes_append (commands commands' : List CcidCommand) :
    unknownBytes (commands ++ commands') = unknownBytes commands + unknownBytes commands' := by
  induction commands with
  | nil => exact (Nat.zero_add _).symm
  | cons command commands ih =>
    rw [List.cons_append, unknownBytes, unknownBytes, ih, Nat.add_assoc]

theorem unknownBytes_handedOf (frame : List UInt8) :
    unknownBytes (handedOf frame) ≤ frame.length := by
  unfold handedOf
  split
  · exact Nat.zero_le _
  · next hd =>
    split
    · exact Nat.zero_le _
    · exact CcidCommand.unknownLength_le hd

theorem unknownBytes_resume (log : List CcidCommand) (packets : List (List UInt8)) :
    unknownBytes (ccidFraming.resume note log [] packets).1 ≤
      unknownBytes log + packets.flatten.length := by
  induction hn : packets.flatten.length using Nat.strong_induction_on generalizing log packets with
  | _ n ih =>
    subst hn
    match hscan : ccidFraming.scan ([] ++ packets.flatten) with
    | .incomplete =>
      rw [Framing.resume_incomplete hscan]
      exact Nat.le_add_right _ _
    | .refused n =>
      obtain ⟨front, packets', hfront, hflatten, hresume⟩ :=
        Framing.resume_refused note log ccidFraming.scan_nil hscan
      obtain ⟨hheader, -⟩ := refused_of_scan hfront
      have hlength := congrArg List.length hflatten
      simp only [List.nil_append, List.length_append] at hlength
      have hrest := ih packets'.flatten.length (by omega) log packets' rfl
      rw [hresume]
      omega
    | .message frame rest =>
      obtain ⟨packets', rfl, hresume⟩ :=
        note_keeps.resume_message (s := log) trivial ccidFraming.scan_nil hscan
      have hlength := congrArg List.length (append_of_scan hscan)
      have hlt := ccidFraming.rest_lt hscan
      simp only [List.nil_append, List.length_append] at hlength hlt
      have hrest := ih packets'.flatten.length hlt (log ++ handedOf frame) packets' rfl
      have hhanded := unknownBytes_handedOf frame
      rw [unknownBytes_append] at hrest
      rw [hresume]
      omega

/-- A message in front is spelled first. -/
theorem spelled_message {frame rest : List UInt8} {packets : List (List UInt8)}
    (h : ccidFraming.scan packets.flatten = .message frame rest) :
    handedOf frame <+: spelled packets := by
  have hscan : ccidFraming.scan ([] ++ packets.flatten) = .message frame rest := h
  obtain ⟨packets', -, hresume⟩ :=
    note_keeps.resume_message (s := []) trivial ccidFraming.scan_nil hscan
  rw [spelled, hresume]
  exact resume_extends _ _ _

/-- Behind a byte that begins no known message come a message of this type, no message, or one
that is refused with its header. -/
theorem spelled_unknown {messageType : UInt8} {bytes : List UInt8} {packets : List (List UInt8)}
    (h : packets.flatten = messageType :: bytes)
    (hunknown : messageType ∉ CcidCommand.messageTypes) :
    spelled packets = [] ∨
      (∃ slot seq parameters payload,
        [.unknown messageType slot seq parameters payload] <+: spelled packets) ∨
      unknownBytes (spelled packets) + 10 ≤ packets.flatten.length := by
  match hscan : ccidFraming.scan ([] ++ packets.flatten) with
  | .incomplete =>
    left
    rw [spelled, Framing.resume_incomplete hscan]
  | .refused n =>
    right; right
    obtain ⟨front, packets', hfront, hflatten, hresume⟩ :=
      Framing.resume_refused note [] ccidFraming.scan_nil hscan
    obtain ⟨hheader, -⟩ := refused_of_scan hfront
    have hlength := congrArg List.length hflatten
    have hrest := unknownBytes_resume [] packets'
    rw [List.nil_append, List.length_append] at hlength
    rw [unknownBytes] at hrest
    rw [spelled, hresume]
    omega
  | .message frame rest =>
    right; left
    obtain ⟨command, hd⟩ := decode_of_scan hscan
    have hfront := append_of_scan hscan
    have hhead : frame.head? = some messageType := by
      cases frame with
      | nil => cases hd
      | cons byte frame =>
        rw [h] at hfront
        exact congrArg some (List.cons.inj hfront).1
    obtain ⟨slot, seq, parameters, rfl⟩ := CcidCommand.decode_unknown hd hhead hunknown
    have hspelled := spelled_message hscan
    rw [handedOf_eq hd] at hspelled
    exact ⟨slot, seq, parameters, _, hspelled⟩

/-- A message of type zero, which no command has. -/
def BulkMessage.Blank (m : BulkMessage) : Prop := m.bytes.head? = some 0

theorem BulkMessage.Blank.command {m : BulkMessage} (h : m.Blank) :
    ∃ slot seq parameters, m.command = .unknown 0 slot seq parameters (m.bytes.drop 10) :=
  CcidCommand.decode_unknown m.decode_bytes h (by decide)

theorem length_headed (messageType : UInt8) (payload : List UInt8) :
    (header messageType payload.length 0 0 #v[0, 0, 0] ++ payload).length =
      10 + payload.length := by
  rw [List.length_append, length_header]

theorem exists_blank (m : BulkMessage) :
    ∃ m' : BulkMessage, m'.bytes.length = m.bytes.length ∧ m'.Blank := by
  obtain ⟨payload, hpayload⟩ : ∃ payload : List UInt8, payload.length + 10 = m.bytes.length := by
    have hheader := m.hasHeader
    refine ⟨List.replicate (m.bytes.length - 10) 0, ?_⟩
    rw [List.length_replicate]
    omega
  have hfits := m.fits
  have hlength := length_headed 0 payload
  have hbound : payload.length < 0x100000000 := by
    rw [ccidMaxMessageLength] at hfits
    omega
  obtain ⟨hlen, hwhole⟩ := frameLength_header 0 0 0 #v[0, 0, 0] hbound
  exact ⟨⟨_, hlen, hwhole.trans hlength.symm, by omega⟩, hlength.trans (by omega), rfl⟩

theorem exists_blanks (messages : List BulkMessage) :
    ∃ blanks : List BulkMessage,
      blanks.map (fun m => m.bytes.length) = messages.map (fun m => m.bytes.length) ∧
        ∀ m ∈ blanks, m.Blank := by
  induction messages with
  | nil => exact ⟨[], rfl, nofun⟩
  | cons m messages ih =>
    obtain ⟨m', hlength, hblank⟩ := exists_blank m
    obtain ⟨blanks, hlengths, hblanks⟩ := ih
    refine ⟨m' :: blanks, ?_, List.forall_mem_cons.mpr ⟨hblank, hblanks⟩⟩
    rw [List.map_cons, List.map_cons, hlength, hlengths]

/-- A header and a body of the length it declares, which is too long. -/
def OversizedMessage.ofBody (messageType : UInt8) (body : List UInt8)
    (h : ccidMaxMessageLength < body.length) (hbound : body.length < 0x100000000) :
    OversizedMessage where
  bytes := header messageType body.length 0 0 #v[0, 0, 0] ++ body
  hasHeader := (frameLength_header messageType 0 0 #v[0, 0, 0] hbound).1
  whole := by
    obtain ⟨hlen, hwhole⟩ := frameLength_header messageType 0 0 #v[0, 0, 0] hbound
    exact hwhole.trans (length_headed messageType body).symm
  oversized := by
    rw [length_headed]
    omega

/-- An oversized message of the same length that ends with these bytes. -/
theorem OversizedMessage.exists_leaking (m : OversizedMessage) {leaked : List UInt8}
    (h : leaked.length + 10 ≤ m.bytes.length) :
    ∃ m' : OversizedMessage, m'.bytes.length = m.bytes.length ∧ leaked <:+ m'.bytes := by
  obtain ⟨body, hbody⟩ :
      ∃ body, body = List.replicate (m.bytes.length - 10 - leaked.length) 0 ++ leaked := ⟨_, rfl⟩
  have hpayload : 10 + body.length = m.bytes.length := by
    rw [hbody, List.length_append, List.length_replicate]
    omega
  have hdeclared := m.whole
  have hdeclared_lt := u32FromLeBytes_lt m.bytes[1] m.bytes[2] m.bytes[3] m.bytes[4]
  rw [frameLength] at hdeclared
  have hover := m.oversized
  have hsuffix : leaked <:+ body := by
    rw [hbody]
    exact List.suffix_append _ leaked
  refine ⟨.ofBody 0 body (by omega) (by omega), ?_, ?_⟩
  · exact (length_headed 0 body).trans hpayload
  · exact hsuffix.trans (List.suffix_append _ body)

theorem length_flatten_of_lengths {messages messages' : List BulkMessage}
    (h : messages'.map (fun m => m.bytes.length) = messages.map fun m => m.bytes.length) :
    (messages'.map BulkMessage.bytes).flatten.length =
      (messages.map BulkMessage.bytes).flatten.length := by
  have hsum := congrArg List.sum h
  rw [List.length_flatten, List.length_flatten, List.map_map, List.map_map]
  exact hsum

namespace Upload
variable {u v : Upload}

/-- The bytes of an upload can be replaced by others, in packets of the same lengths. -/
theorem exists_sameCut (u : Upload) {first : OversizedMessage} {following : List BulkMessage}
    (hfirst : first.bytes.length = u.first.bytes.length)
    (hfollowing : following.map (fun m => m.bytes.length) =
      u.following.map fun m => m.bytes.length) :
    ∃ v : Upload, u.SameCut v ∧ v.first = first ∧ v.following = following := by
  have hlength := congrArg List.length u.whole
  rw [List.length_append, ← hfirst, ← length_flatten_of_lengths hfollowing, ← List.length_append,
    List.length_flatten] at hlength
  have hpackets := List.map_splitLengths_length _ (u.packets.map List.length) hlength.le
  have hstream := List.flatten_splitLengths _ (u.packets.map List.length) hlength.ge
  exact ⟨⟨first, following, _, hstream⟩, ⟨hfirst, hfollowing, hpackets⟩, rfl, rfl⟩

theorem SameCut.length_following (h : u.SameCut v) :
    (v.following.map BulkMessage.bytes).flatten.length =
      (u.following.map BulkMessage.bytes).flatten.length :=
  length_flatten_of_lengths h.following

theorem SameCut.length_behindHeader (h : u.SameCut v) :
    v.behindHeader.length = u.behindHeader.length := by
  rw [behindHeader, behindHeader, List.length_flatten, List.length_flatten,
    packetsBehindHeader_lengths h.packets]

theorem SameCut.following_eq_nil (h : u.SameCut v) (hu : u.following = []) : v.following = [] := by
  have hlengths := h.following
  rw [hu] at hlengths
  exact List.map_eq_nil_iff.mp hlengths

theorem SameCut.symm (h : u.SameCut v) : v.SameCut u :=
  ⟨h.first.symm, h.following.symm, h.packets.symm⟩

theorem SameCut.endsWithHeader (h : u.SameCut v) (hu : u.EndsWithHeader) : v.EndsWithHeader := by
  rcases hu with hlength | ⟨hnone, hshort⟩
  · left
    rw [h.length_behindHeader, h.length_following, hlength]
  · right
    rw [h.length_behindHeader]
    exact ⟨h.following_eq_nil hnone, hshort⟩

theorem unknownBytes_blanks {messages : List BulkMessage} (h : ∀ m ∈ messages, m.Blank) :
    unknownBytes ((messages.map BulkMessage.command).filter fun c => !c.isAbort) =
      (messages.map BulkMessage.bytes).flatten.length := by
  induction messages with
  | nil => rfl
  | cons m messages ih =>
    obtain ⟨hm, hmessages⟩ := List.forall_mem_cons.mp h
    obtain ⟨slot, seq, parameters, hcommand⟩ := hm.command
    have hheader := m.hasHeader
    have hlength : m.command.unknownLength = m.bytes.length := by
      rw [hcommand, CcidCommand.unknownLength, List.length_drop]
      omega
    have habort : (!m.command.isAbort) = true := by
      rw [hcommand]
      rfl
    rw [List.map_cons, List.filter_cons, if_pos habort, unknownBytes, ih hmessages, hlength,
      List.map_cons, List.flatten_cons, List.length_append]

theorem commands_blanks (h : ∀ m ∈ u.following, m.Blank) {command : CcidCommand}
    (hc : command ∈ u.commands) :
    ∃ slot seq parameters payload, command = .unknown 0 slot seq parameters payload := by
  obtain ⟨m, hm, rfl⟩ := List.mem_map.mp (List.mem_filter.mp hc).1
  obtain ⟨slot, seq, parameters, hcommand⟩ := (h m hm).command
  exact ⟨slot, seq, parameters, _, hcommand⟩

/-- What the commands of blank messages cannot be: too few bytes, or a message of another type. -/
theorem spelled_ne_commands (h : ∀ m ∈ v.following, m.Blank)
    (hs : unknownBytes (spelled v.packets) < (v.following.map BulkMessage.bytes).flatten.length ∨
      ∃ slot seq parameters payload,
        [.unknown 0xee slot seq parameters payload] <+: spelled v.packets) :
    spelled v.packets ≠ v.commands := by
  intro heq
  rcases hs with hfew | ⟨slot, seq, parameters, payload, hprefix⟩
  · have hbytes : unknownBytes v.commands = (v.following.map BulkMessage.bytes).flatten.length :=
      unknownBytes_blanks h
    rw [heq] at hfew
    omega
  · rw [heq] at hprefix
    have hmem : CcidCommand.unknown 0xee slot seq parameters payload ∈ v.commands :=
      hprefix.subset (List.mem_singleton.mpr rfl)
    obtain ⟨slot', seq', parameters', payload', hcommand⟩ := commands_blanks h hmem
    have htype : (0xee : UInt8) = 0 := (CcidCommand.unknown.inj hcommand).1
    cases htype

theorem behindHeader_eq {leaked : List UInt8} (hleaked : leaked <:+ v.first.bytes)
    (hlength : v.behindHeader.length =
      leaked.length + (v.following.map BulkMessage.bytes).flatten.length) :
    v.behindHeader = leaked ++ (v.following.map BulkMessage.bytes).flatten := by
  obtain ⟨front, hfront⟩ := hleaked
  have hsuffix : leaked ++ (v.following.map BulkMessage.bytes).flatten <:+
      v.first.bytes ++ (v.following.map BulkMessage.bytes).flatten := by
    rw [← hfront, List.append_assoc]
    exact List.suffix_append front _
  rw [← List.length_append] at hlength
  exact (List.suffix_of_suffix_length_le v.behindHeader_suffix hsuffix hlength.le).eq_of_length
    hlength

/-- Bytes of the body that are left behind the header can spell a message, or take the first bytes
of the message behind them for theirs. -/
theorem leaked_spelled {count : ℕ}
    (hleaked : 0xee :: List.replicate count 0 <:+ v.first.bytes)
    (hlength : v.behindHeader.length =
      count + 1 + (v.following.map BulkMessage.bytes).flatten.length)
    (hmore : v.following ≠ [] ∨ 9 ≤ count) :
    unknownBytes (spelled v.packets) < (v.following.map BulkMessage.bytes).flatten.length ∨
      ∃ slot seq parameters payload,
        [.unknown 0xee slot seq parameters payload] <+: spelled v.packets := by
  have hbehind := behindHeader_eq hleaked (by rw [hlength, List.length_cons, List.length_replicate])
  have hunknown : (0xee : UInt8) ∉ CcidCommand.messageTypes := by decide
  rw [v.spelled_eq]
  by_cases hcount : 9 ≤ count
  · -- The leaked bytes begin with a whole message of their own.
    right
    have hmessage : ccidFraming.scan (0xee :: List.replicate 9 0) =
      .message (0xee :: List.replicate 9 0) [] := rfl
    have hsplit : List.replicate count (0 : UInt8) =
        List.replicate 9 0 ++ List.replicate (count - 9) 0 := by
      rw [List.replicate_append_replicate]
      congr 1
      omega
    have hscan := ccidFraming.message_append (List.replicate (count - 9) 0 ++
      (v.following.map BulkMessage.bytes).flatten) hmessage
    have hstream : v.behindHeader = 0xee :: List.replicate 9 0 ++
        (List.replicate (count - 9) 0 ++ (v.following.map BulkMessage.bytes).flatten) := by
      rw [hbehind, hsplit, List.cons_append, List.cons_append, List.append_assoc]
    rw [← hstream] at hscan
    exact ⟨0, 0, #v[0, 0, 0], [], spelled_message hscan⟩
  · -- They take the bytes they lack for a header from the message behind them.
    obtain ⟨m, messages, hfollowing⟩ := List.exists_cons_of_ne_nil (hmore.resolve_right hcount)
    have hheader := m.hasHeader
    have hten : 10 ≤ (v.following.map BulkMessage.bytes).flatten.length := by
      rw [hfollowing, List.map_cons, List.flatten_cons, List.length_append]
      omega
    rcases spelled_unknown hbehind hunknown with hnone | hfirst | hrefused
    · left
      rw [hnone, unknownBytes]
      omega
    · exact Or.inr hfirst
    · left
      rw [← behindHeader, hlength] at hrefused
      omega

theorem length_behindHeader_le (u : Upload) : u.behindHeader.length + 10 ≤
    u.first.bytes.length + (u.following.map BulkMessage.bytes).flatten.length := by
  have hstream := congrArg List.length u.whole
  have hten := u.first.ten_le
  rw [List.length_append] at hstream
  have hwhole : 10 ≤ 0 + u.packets.flatten.length := by omega
  have hpackets := length_packetsBehindHeader hwhole
  rw [Nat.zero_add, hstream] at hpackets
  exact hpackets

/-- Where part of the messages that follow came with the header, blank ones are not all spelled. -/
theorem exists_spelled_ne_of_lost
    (h : u.behindHeader.length < (u.following.map BulkMessage.bytes).flatten.length) :
    ∃ v, u.SameCut v ∧ (∀ m ∈ v.following, m.Blank) ∧ spelled v.packets ≠ v.commands := by
  obtain ⟨following, hfollowing, hblanks⟩ := exists_blanks u.following
  obtain ⟨v, hcut, -, rfl⟩ := u.exists_sameCut rfl hfollowing
  have hbound := unknownBytes_resume [] (packetsBehindHeader 0 v.packets)
  have hbehind := hcut.length_behindHeader
  rw [behindHeader] at hbehind
  rw [unknownBytes, Nat.zero_add, hbehind] at hbound
  have hfew : unknownBytes (spelled v.packets) <
      (v.following.map BulkMessage.bytes).flatten.length := by
    rw [v.spelled_eq, hcut.length_following]
    exact hbound.trans_lt h
  exact ⟨v, hcut, hblanks, spelled_ne_commands hblanks (Or.inl hfew)⟩

/-- Where part of the body came behind the packet of the header, it can be one that is spelled. -/
theorem exists_spelled_ne_of_leaked
    (h : (u.following.map BulkMessage.bytes).flatten.length < u.behindHeader.length)
    (hmore : u.following ≠ [] ∨ 10 ≤ u.behindHeader.length) :
    ∃ v, u.SameCut v ∧ (∀ m ∈ v.following, m.Blank) ∧ spelled v.packets ≠ v.commands := by
  obtain ⟨following, hfollowing, hblanks⟩ := exists_blanks u.following
  obtain ⟨count, hcount⟩ := Nat.exists_eq_add_of_lt h
  have hheader := u.length_behindHeader_le
  have hfits : (0xee :: List.replicate count (0 : UInt8)).length + 10 ≤ u.first.bytes.length := by
    rw [List.length_cons, List.length_replicate]
    omega
  obtain ⟨first, hfirst, hleaked⟩ := u.first.exists_leaking hfits
  obtain ⟨v, hcut, rfl, rfl⟩ := u.exists_sameCut hfirst hfollowing
  have hbehind : v.behindHeader.length =
      count + 1 + (v.following.map BulkMessage.bytes).flatten.length := by
    rw [hcut.length_behindHeader, hcut.length_following]
    omega
  have hcontinues : v.following ≠ [] ∨ 9 ≤ count := by
    by_cases hnone : u.following = []
    · right
      have hlong := hmore.resolve_left (not_not.mpr hnone)
      rw [hnone, List.map_nil, List.flatten_nil, List.length_nil] at hcount
      omega
    · left
      exact fun hv => hnone (hcut.symm.following_eq_nil hv)
  have hleak := leaked_spelled hleaked hbehind hcontinues
  exact ⟨v, hcut, hblanks, spelled_ne_commands hblanks hleak⟩

/-- A cut that does not end with the header has bytes with which the commands differ. -/
theorem exists_spelled_ne (h : ¬ u.EndsWithHeader) :
    ∃ v, u.SameCut v ∧ (∀ m ∈ v.following, m.Blank) ∧ spelled v.packets ≠ v.commands := by
  obtain ⟨hlength, hshort⟩ := not_or.mp h
  rcases Nat.lt_or_gt_of_ne hlength with hlost | hleaked
  · exact exists_spelled_ne_of_lost hlost
  · apply exists_spelled_ne_of_leaked hleaked
    by_cases hnone : u.following = []
    · right
      exact Nat.not_lt.mp fun hfew => hshort ⟨hnone, hfew⟩
    · exact Or.inl hnone

end Upload

section Skipped
variable {ρ : Type*} [NfcReader ρ] {reader : ρ}
  {t : CcidTransport (Recorder (CcidBridge ρ) CcidCommand)}

/-- From a state that a run of returning calls reaches, with an empty buffer and no abort pending:
whatever the bytes of an oversized message and of those behind it, the bridge is handed the
commands of those behind it and no others, exactly if the packet that completes the header of the
oversized message also ends it, or no message follows and too little of it for another is left. -/
theorem oversized_skipped_iff
    (ht : (transportMachine (Recorder (CcidBridge ρ) CcidCommand)).Reachable
      (fun e => e.output.Returns) (.new ⟨.new reader, []⟩) t)
    (hbuffer : t.pendingOutBuffer = []) (habort : t.controlAbort = none) (u : Upload) :
    (∀ v, u.SameCut v → t.HandedExactly v.packets v.commands) ↔ u.EndsWithHeader := by
  obtain ⟨e, buffer, rfl, -⟩ := reachable_waits ht
  obtain rfl : buffer = [] := hbuffer
  have he : e.controlAbort = none := habort
  constructor
  · intro h
    by_contra hcut
    obtain ⟨v, hv, hblanks, hne⟩ := Upload.exists_spelled_ne hcut
    have hsafe : ∀ command ∈ v.commands, ∀ bridge : CcidBridge ρ, ∃ response,
        (BridgeOps.handleCommand bridge command).1 = .ok response := by
      intro command hc bridge
      obtain ⟨slot, seq, parameters, payload, rfl⟩ := Upload.commands_blanks hblanks hc
      exact ⟨_, rfl⟩
    exact hne (CcidTransport.spelled_of_handedExactly he hsafe (h v hv))
  · intro hcut v hv
    rw [← (hv.endsWithHeader hcut).spelled]
    exact CcidTransport.handedExactly_spelled he v.packets

end Skipped

def fresh : CcidTransport (Recorder (CcidBridge DummyReader) CcidCommand) :=
  .new ⟨.new .opened, []⟩

theorem fresh_eq : fresh = CcidTransport.assemble (.new ⟨.new .opened, []⟩) [] := rfl

/-- `PC_to_RDR_IccPowerOn` and so many zeros. -/
def powerOnBody (count : ℕ) : List UInt8 :=
  [0x62, 0, 0, 0, 0, 0, 7, 0, 0, 0] ++ List.replicate count 0

theorem length_powerOnBody (count : ℕ) : (powerOnBody count).length = 10 + count := by
  rw [powerOnBody, List.length_append, List.length_replicate]
  rfl

/-- The shortest message that is too long, with a command in its body. -/
def oversizedPowerOn : OversizedMessage :=
  .ofBody 0x6f (powerOnBody 3063) (by rw [length_powerOnBody]; decide)
    (by rw [length_powerOnBody]; decide)

def headerFirst : Upload where
  first := oversizedPowerOn
  following := []
  packets := [header 0x6f (powerOnBody 3063).length 0 0 #v[0, 0, 0], powerOnBody 3063]
  whole := by
    rw [List.flatten_cons, List.flatten_cons]
    exact (List.append_assoc _ _ _).symm

theorem behindHeader_headerFirst : headerFirst.behindHeader = powerOnBody 3063 := by
  have hheader : 10 ≤ 0 + (header 0x6f (powerOnBody 3063).length 0 0 #v[0, 0, 0]).length := by
    rw [length_header]
  rw [Upload.behindHeader, headerFirst, packetsBehindHeader, if_pos hheader, List.flatten_cons,
    List.flatten_nil, List.append_nil]

/-- A body in a packet of its own is executed. -/
theorem oversized_body_executed :
    ¬ fresh.HandedExactly headerFirst.packets headerFirst.commands := by
  have hcommands : headerFirst.commands = [] := rfl
  rw [fresh_eq, hcommands]
  intro h
  have hnone := CcidTransport.spelled_nil_of_handedExactly_nil rfl h
  have hmessage : ccidFraming.scan [0x62, 0, 0, 0, 0, 0, 7, 0, 0, 0] =
    .message [0x62, 0, 0, 0, 0, 0, 7, 0, 0, 0] [] := rfl
  have hscan := ccidFraming.message_append (List.replicate 3063 0) hmessage
  rw [← powerOnBody, ← behindHeader_headerFirst, Upload.behindHeader] at hscan
  have hprefix := spelled_message hscan
  rw [← headerFirst.spelled_eq, hnone] at hprefix
  cases List.prefix_nil.mp hprefix

/-- The whole message in one packet, and a message behind it in another. -/
def messageFirst : Upload where
  first := oversizedPowerOn
  following := [slotStatusMessage]
  packets := [oversizedPowerOn.bytes, slotStatusMessage.bytes]
  whole := rfl

theorem messageFirst_endsWithHeader : messageFirst.EndsWithHeader := by
  have hheader : 10 ≤ 0 + oversizedPowerOn.bytes.length := by
    rw [Nat.zero_add]
    exact oversizedPowerOn.ten_le
  left
  rw [Upload.behindHeader, messageFirst, packetsBehindHeader, if_pos hheader]
  rfl

theorem oversized_skipped_of_one_packet :
    fresh.HandedExactly messageFirst.packets [.getSlotStatus 0 1] := by
  have hcommands : messageFirst.commands = [.getSlotStatus 0 1] := rfl
  have hcut : messageFirst.SameCut messageFirst := ⟨rfl, rfl, rfl⟩
  have hreach : (transportMachine (Recorder (CcidBridge DummyReader) CcidCommand)).Reachable
    (fun e => e.output.Returns) fresh fresh := ⟨[], .start, by simp⟩
  have hskipped := oversized_skipped_iff hreach rfl rfl messageFirst
  rw [← hcommands]
  exact hskipped.mpr messageFirst_endsWithHeader messageFirst hcut

end VirtualCcid.Ccid
