import VirtualCcid.Nfc.ReaderRuns

/-! Runs of a reader behind the bridge, and what the PN532 is sent over all of them: the commands
noted grow with every operation, and each exchange among them is one of an APDU that was handed to
the reader, sent with the field on to the target that the device last named. -/
namespace VirtualCcid.Nfc
open Rust Ccid Runs

/-- Any reader, with its methods as inputs. -/
def backendMachine (ρ : Type*) [NfcReader ρ] : Machine ρ ReaderOp ReaderResult where
  step
    | r, .pollCard => (.card (NfcReader.pollCard r).1, (NfcReader.pollCard r).2)
    | r, .powerOff => (.off (NfcReader.powerOff r).1, (NfcReader.powerOff r).2)
    | r, .exchangeApdu apdu =>
      (.response (NfcReader.exchangeApdu r apdu).1, (NfcReader.exchangeApdu r apdu).2)

def ReaderOp.apdus : ReaderOp → List (List UInt8)
  | .exchangeApdu apdu => [apdu]
  | .pollCard | .powerOff => []

/-- Every exchange is one of these APDUs, and fits the buffer with the target before it. -/
def ExchangesAmong (apdus : List (List UInt8)) (calls : List DeviceCall) : Prop :=
  ∀ data result, .dynamic (.inDataExchange data) result ∈ calls →
    ∃ target, ∃ apdu ∈ apdus, data = target :: apdu ∧ data.length ≤ pn532BufferSize - 9

theorem exchangesAmong_of_none (apdus : List (List UInt8)) {calls : List DeviceCall}
    (h : ∀ c ∈ calls, c.isExchange = false) : ExchangesAmong apdus calls := by
  intro data result hmem
  cases h _ hmem

theorem ExchangesAmong.append {apdus apdus' : List (List UInt8)} {calls calls' : List DeviceCall}
    (h : ExchangesAmong apdus calls) (h' : ExchangesAmong apdus' calls') :
    ExchangesAmong (apdus ++ apdus') (calls ++ calls') := by
  intro data result hmem
  rcases List.mem_append.mp hmem with hmem | hmem
  · obtain ⟨target, apdu, hapdu, hdata⟩ := h data result hmem
    exact ⟨target, apdu, List.mem_append_left _ hapdu, hdata⟩
  · obtain ⟨target, apdu, hapdu, hdata⟩ := h' data result hmem
    exact ⟨target, apdu, List.mem_append_right _ hapdu, hdata⟩

namespace Pn532UartReader
variable {δ : Type*} [Pn532Device δ]

theorem exchangeTarget_unexchanged (r : Pn532UartReader (RecordedDevice δ)) :
    ∃ cs, r.exchangeTarget.2.pn532.calls = r.pn532.calls ++ cs ∧
      ∀ c ∈ cs, c.isExchange = false := by
  unfold exchangeTarget
  split
  · exact ⟨[], by simp, by simp⟩
  · obtain ⟨cs, hf, hx, -⟩ := pollCard_recorded r
    have hcalls := hf.calls
    split
    all_goals
      next heq =>
      rw [heq] at hcalls
      exact ⟨cs, hcalls, hx⟩

theorem exchangeApdu_exchanges (r : Pn532UartReader (RecordedDevice δ)) (apdu : List UInt8) :
    ∃ cs, (r.exchangeApdu apdu).2.pn532.calls = r.pn532.calls ++ cs ∧ ExchangesAmong [apdu] cs := by
  by_cases hfit : apdu.length + 1 > pn532BufferSize - 9
  · exact ⟨[], by simp [exchangeApdu, hfit], exchangesAmong_of_none _ (by simp)⟩
  obtain ⟨cs, hcalls, hx⟩ := exchangeTarget_unexchanged r
  obtain ⟨found, r₁, htarget⟩ : ∃ found r₁, r.exchangeTarget = (found, r₁) := ⟨_, _, rfl⟩
  rw [htarget] at hcalls
  have hnone := exchangesAmong_of_none [] hx
  cases found with
  | error error =>
    have h : (r.exchangeApdu apdu).2 = r₁ := by simp [exchangeApdu, hfit, htarget]
    rw [h]
    exact ⟨cs, hcalls, exchangesAmong_of_none _ hx⟩
  | ok target =>
    obtain ⟨result, ds, hf, hu, -⟩ := exchangeApdu_addressed hfit htarget
    have hrest := exchangesAmong_of_none [] (unread_not_exchange hu)
    have hone : ExchangesAmong [apdu] [.dynamic (.inDataExchange (target :: apdu)) result] := by
      intro data result' hmem
      cases List.mem_singleton.mp hmem
      exact ⟨target, apdu, List.mem_singleton_self apdu, rfl, Nat.le_of_not_gt hfit⟩
    refine ⟨cs ++ .dynamic (.inDataExchange (target :: apdu)) result :: ds, ?_, ?_⟩
    · rw [hf.calls, hcalls, List.append_assoc]
    · exact hnone.append (hone.append hrest)

theorem serve_notes (r : Pn532UartReader (RecordedDevice δ)) (op : ReaderOp) :
    ∃ cs, ((backendMachine (Pn532UartReader (RecordedDevice δ))).step r op).2.pn532.calls =
        r.pn532.calls ++ cs ∧ ExchangesAmong op.apdus cs := by
  cases op with
  | pollCard =>
    obtain ⟨cs, hf, hx, -⟩ := r.pollCard_recorded
    exact ⟨cs, hf.calls, exchangesAmong_of_none _ hx⟩
  | powerOff =>
    obtain ⟨cs, hf, hu, -⟩ := r.powerOff_recorded
    exact ⟨cs, hf.calls, exchangesAmong_of_none _ (unread_not_exchange hu)⟩
  | exchangeApdu apdu => exact r.exchangeApdu_exchanges apdu

theorem final_notes (r : Pn532UartReader (RecordedDevice δ)) (ops : List ReaderOp) :
    ∃ cs, ((backendMachine (Pn532UartReader (RecordedDevice δ))).final r ops).pn532.calls =
        r.pn532.calls ++ cs ∧ ExchangesAmong (ops.flatMap ReaderOp.apdus) cs := by
  induction ops generalizing r with
  | nil => exact ⟨[], (List.append_nil _).symm, exchangesAmong_of_none _ nofun⟩
  | cons op ops ih =>
    obtain ⟨cs, hcalls, hamong⟩ := r.serve_notes op
    obtain ⟨ds, hcalls', hamong'⟩ := ih ((backendMachine _).step r op).2
    refine ⟨cs ++ ds, ?_, hamong.append hamong'⟩
    rw [← List.append_assoc, ← hcalls]
    exact hcalls'

/-- What an operation sends: the commands it notes carry the selection along, and exchange what the
operation is for. -/
theorem serve_sound {r : Pn532UartReader (RecordedDevice δ)} (hr : r.Consistent) (op : ReaderOp) :
    let r' := ((backendMachine (Pn532UartReader (RecordedDevice δ))).step r op).2
    ∃ cs, r'.pn532.calls = r.pn532.calls ++ cs ∧ r'.Consistent ∧
      selectionMonitor.Carries r.Mirrors (.started op :: cs.map .call) r'.Mirrors ∧
      ExchangesAmong op.apdus cs := by
  intro r'
  obtain ⟨ds, hnoted, hamong⟩ := r.serve_notes op
  have hstart : ∀ r₀ : Pn532UartReader (RecordedDevice δ),
      (∀ s, r.Mirrors s → r₀.Mirrors (selectionMonitor.next s (.started op))) →
        selectionMonitor.Carries r.Mirrors [.started op] r₀.Mirrors :=
    fun r₀ hr₀ => .single fun s hs => ⟨trivial, hr₀ s hs⟩
  refine ⟨ds, hnoted, ?_⟩
  cases op with
  | pollCard =>
    obtain ⟨cs, hm⟩ := r.pollCard_moves
    obtain rfl : cs = ds := List.append_cancel_left (hm.calls.symm.trans hnoted)
    exact ⟨(pollCard_consistent hr).1, (hstart r fun _ hs => hs).append hm.carries, hamong⟩
  | powerOff =>
    obtain ⟨cs, hm, hcons⟩ := r.powerOff_moves
    obtain rfl : cs = ds := List.append_cancel_left (hm.calls.symm.trans hnoted)
    exact ⟨hcons, (hstart { r with activeTarget := none } fun _ hs => ⟨rfl, hs.2⟩).append hm.carries,
      hamong⟩
  | exchangeApdu apdu =>
    obtain ⟨⟨cs, hm⟩, hcons⟩ := exchangeApdu_moves hr apdu
    obtain rfl : cs = ds := List.append_cancel_left (hm.calls.symm.trans hnoted)
    exact ⟨hcons, (hstart r fun _ hs => hs).append hm.carries, hamong⟩

end Pn532UartReader

def ReaderEvent.isCall : ReaderEvent → Bool
  | .started _ => false
  | .call _ => true

theorem filter_isCall_calls (cs : List DeviceCall) :
    (cs.map ReaderEvent.call).filter ReaderEvent.isCall = cs.map .call := by
  rw [List.filter_eq_self]
  intro e he
  obtain ⟨c, -, rfl⟩ := List.mem_map.mp he
  rfl

variable {δ : Type*} [Pn532Device δ]

/-- The operations of a run show events that the selection permits, with the commands noted as
their calls. -/
theorem backend_run_sound {device : δ} {r : Pn532UartReader (RecordedDevice δ)}
    {h : List (Event (Pn532UartReader (RecordedDevice δ)) ReaderOp ReaderResult)}
    (hr : Run (backendMachine (Pn532UartReader (RecordedDevice δ))) (.opened ⟨device, []⟩) h r) :
    r.Consistent ∧ ExchangesAmong ((h.map Event.input).flatMap ReaderOp.apdus) r.pn532.calls ∧
      ∃ events : List ReaderEvent, events.filter ReaderEvent.isCall = r.pn532.calls.map .call ∧
        selectionMonitor.Accepts selectionMonitor.start events ∧
        r.Mirrors (selectionMonitor.after selectionMonitor.start events) := by
  refine hr.invariant (A := fun _ => True)
    (P := fun h r => r.Consistent ∧
      ExchangesAmong ((h.map Event.input).flatMap ReaderOp.apdus) r.pn532.calls ∧
      ∃ events : List ReaderEvent, events.filter ReaderEvent.isCall = r.pn532.calls.map .call ∧
        selectionMonitor.Accepts selectionMonitor.start events ∧
        r.Mirrors (selectionMonitor.after selectionMonitor.start events)) ?_ ?_ fun _ _ => trivial
  · refine ⟨Pn532UartReader.consistent_of_none rfl, exchangesAmong_of_none _ nofun, [], rfl, trivial,
      rfl, ?_⟩
    simp [Pn532UartReader.opened, selectionMonitor]
  intro h r op hsofar _
  obtain ⟨hcons, hamong, events, hevents, haccepts, hmirrors⟩ := hsofar
  obtain ⟨cs, hcalls, hcons', hcarries, hamong'⟩ := Pn532UartReader.serve_sound hcons op
  obtain ⟨haccepts', hmirrors'⟩ := hcarries _ hmirrors
  have hshown : ((backendMachine _).event r op).after.pn532.calls = r.pn532.calls ++ cs := hcalls
  refine ⟨hcons', ?_, events ++ (.started op :: cs.map .call), ?_, ?_, ?_⟩
  · rw [hshown]
    simpa [Machine.event] using hamong.append hamong'
  · rw [hshown, List.filter_append, hevents, List.map_append]
    rw [List.filter_cons_of_neg (by simp [ReaderEvent.isCall]), filter_isCall_calls]
  · rw [selectionMonitor.accepts_append]
    exact ⟨haccepts, haccepts'⟩
  · rw [selectionMonitor.after_append]
    exact hmirrors'

/-- In the commands sent over a run, an exchange comes while the field is on by the device's last
word, is addressed to the target that the device named last, and is one of an APDU handed to the
reader. -/
theorem backend_exchanges {device : δ} {r : Pn532UartReader (RecordedDevice δ)}
    {h : List (Event (Pn532UartReader (RecordedDevice δ)) ReaderOp ReaderResult)}
    (hr : Run (backendMachine (Pn532UartReader (RecordedDevice δ))) (.opened ⟨device, []⟩) h r)
    {pre post : List DeviceCall} {data : List UInt8} {result : Except Pn532Error (List UInt8)}
    (hs : r.pn532.calls = pre ++ .dynamic (.inDataExchange data) result :: post) :
    FieldOn (pre.map .call) ∧
      ∃ target, Selected (pre.map .call) target ∧
        ∃ apdu, .exchangeApdu apdu ∈ h.map Event.input ∧ data = target :: apdu ∧
          data.length ≤ pn532BufferSize - 9 := by
  obtain ⟨-, hamong, events, hevents, haccepts, -⟩ := backend_run_sound hr
  rw [hs, List.map_append, List.map_cons, List.filter_eq_append_iff] at hevents
  obtain ⟨front, back, hsplit, hfront, hback⟩ := hevents
  obtain ⟨skipped, rest, rfl, hskipped, -, -⟩ := List.filter_eq_cons_iff.mp hback
  -- The events before the exchange, without the starts of operations, are the commands before it.
  have hbefore : (front ++ skipped).filter ReaderEvent.isCall = pre.map .call := by
    rw [List.filter_append, hfront, List.filter_eq_nil_iff.mpr hskipped, List.append_nil]
  rw [← List.append_assoc] at hsplit
  obtain ⟨hfield, target, htarget, hhead⟩ := selectionMonitor.permits_of_accepts haccepts hsplit
  have hstarts : ∀ e : ReaderEvent, e.isCall = false → e.names = none ∧ e.switches = none := by
    intro e he
    cases e with
    | started op => exact ⟨rfl, rfl⟩
    | call c => cases he
  have hon : FieldOn (front ++ skipped) := (fieldOn_iff _).mpr hfield
  have hselected : Selected (front ++ skipped) target := (selected_iff _ target).mpr htarget
  have hmem : DeviceCall.dynamic (.inDataExchange data) result ∈ r.pn532.calls := by
    rw [hs]
    exact List.mem_append_right _ List.mem_cons_self
  obtain ⟨target', apdu, hapdu, hdata, hlength⟩ := hamong data result hmem
  obtain rfl : target' = target := by
    rw [hdata] at hhead
    exact Option.some.inj hhead
  obtain ⟨op, hop, hapdu⟩ := List.mem_flatMap.mp hapdu
  have hop' : op = .exchangeApdu apdu := by
    cases op with
    | exchangeApdu apdu' => rw [List.mem_singleton.mp hapdu]
    | pollCard | powerOff => cases hapdu
  rw [← hbefore]
  refine ⟨hon.filter fun e he => (hstarts e he).2, target',
    hselected.filter fun e he => (hstarts e he).1, apdu, hop' ▸ hop, hdata, hlength⟩

end VirtualCcid.Nfc
