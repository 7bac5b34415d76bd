import VirtualCcid.Nfc.PollMemory

/-! The presence cache of the PN532 reader: what a poll that asks no device answers with, against
the last time a device was asked. -/
namespace VirtualCcid.Nfc
open Rust Ccid Runs

variable {δ : Type*}

/-- A call of `poll_card`: the reader it is made on, its clock reading, its commands, its result. -/
structure Poll (δ : Type*) where
  reader : Pn532UartReader (RecordedDevice δ)
  now : ℕ
  calls : List DeviceCall
  result : Except ReaderError (Option CardPresence)

/-- The result of the poll, if it asked the device for a target. -/
def Poll.outcome (p : Poll δ) : Option (Except ReaderError (Option CardPresence)) :=
  if p.calls.any DeviceCall.isListing then some p.result else none

/-- The last of the polls to ask for a target ended so. -/
def LastAttempt (ps : List (Poll δ)) (result : Except ReaderError (Option CardPresence)) : Prop :=
  Held Poll.outcome (fun _ => false) ps result

theorem LastAttempt.unique {ps : List (Poll δ)} {r r' : Except ReaderError (Option CardPresence)}
    (h : LastAttempt ps r) (h' : LastAttempt ps r') : r = r' := by
  have hr := latched_eq_some_iff.mpr h
  have hr' := latched_eq_some_iff.mpr h'
  exact Option.some.inj (hr.symm.trans hr')

namespace Pn532UartReader

def AnswersFromCache (r : Pn532UartReader δ) (now : ℕ) : Prop :=
  canReturnCachedPresence r.cachedCard.isSome r.activeTarget.isSome (r.recentlyPolled now) = true

instance (r : Pn532UartReader δ) (now : ℕ) : Decidable (r.AnswersFromCache now) :=
  inferInstanceAs (Decidable (_ = true))

/-- No poll from `start` on is answered from the cache. -/
def Expired (r : Pn532UartReader δ) (start : ℕ) : Prop :=
  ∀ now, start ≤ now → ¬ r.AnswersFromCache now

/-- `r'` remembers the same poll as `r`, if any, and no other target. -/
def Fades (r r' : Pn532UartReader δ) : Prop :=
  r'.lastPoll = none ∨
    r'.lastPoll = r.lastPoll ∧ r'.cachedCard = r.cachedCard ∧
      (r'.activeTarget = r.activeTarget ∨ r'.activeTarget = none)

theorem Fades.refl (r : Pn532UartReader δ) : r.Fades r := Or.inr ⟨rfl, rfl, Or.inl rfl⟩

theorem answersFromCache_iff (r : Pn532UartReader δ) (now : ℕ) :
    r.AnswersFromCache now ↔ r.recentlyPolled now = true ∧
      (r.cachedCard.isSome = true → r.activeTarget.isSome = true) := by
  unfold AnswersFromCache canReturnCachedPresence
  cases r.recentlyPolled now <;> cases r.cachedCard.isSome <;> simp

theorem answersFromCache_iff_stands {r : Pn532UartReader δ} (hr : r.Consistent) (now : ℕ) :
    r.AnswersFromCache now ↔ r.memory.Stands now := by
  have hcached := fun hactive => (hr hactive).2
  rw [answersFromCache_iff]
  unfold recentlyPolled memory Memory.Stands
  cases r.lastPoll with
  | none => simp
  | some lastPoll =>
    cases hcard : r.cachedCard.isSome with
    | true => simp [and_comm]
    | false =>
      have hinactive : r.activeTarget.isSome = false := by
        by_contra hactive
        rw [hcached (Bool.not_eq_false _ ▸ hactive)] at hcard
        cases hcard
      simp [hinactive]

theorem recentlyPolled_lastPoll {r : Pn532UartReader δ} {now : ℕ}
    (h : r.recentlyPolled now = true) : r.lastPoll.isSome = true := by
  unfold recentlyPolled at h
  cases hl : r.lastPoll with
  | none => simp [hl] at h
  | some lastPoll => rfl

theorem recentlyPolled_antitone {r : Pn532UartReader δ} {now later : ℕ} (hle : now ≤ later)
    (h : r.recentlyPolled later = true) : r.recentlyPolled now = true := by
  unfold recentlyPolled at h ⊢
  cases hl : r.lastPoll with
  | none => simp [hl] at h
  | some lastPoll =>
    simp only [hl, Option.any_some, decide_eq_true_eq] at h ⊢
    omega

theorem Fades.answers {r r' : Pn532UartReader δ} (h : r.Fades r') {now : ℕ}
    (ha : r'.AnswersFromCache now) : r.AnswersFromCache now := by
  rw [answersFromCache_iff] at ha ⊢
  rcases h with hnone | ⟨hlast, hcached, htarget⟩
  · have hsome := recentlyPolled_lastPoll ha.1
    rw [hnone] at hsome
    cases hsome
  · have hrecent : r.recentlyPolled now = true := by
      have h := ha.1
      unfold recentlyPolled at h ⊢
      rwa [hlast, hcached] at h
    refine ⟨hrecent, fun hsome => ?_⟩
    rw [← hcached] at hsome
    rcases htarget with htarget | htarget
    · rw [← htarget]
      exact ha.2 hsome
    · have hactive := ha.2 hsome
      rw [htarget] at hactive
      cases hactive

theorem Fades.expired {r r' : Pn532UartReader δ} (h : r.Fades r') {start : ℕ}
    (hr : r.Expired start) : r'.Expired start :=
  fun now hnow ha => hr now hnow (h.answers ha)

variable [Pn532Device δ]

def poll (r : Pn532UartReader (RecordedDevice δ)) : Poll δ where
  reader := r
  now := (Pn532Device.now r.pn532).1
  calls := r.silent.pollCard.2.pn532.calls
  result := r.silent.pollCard.1

theorem readTarget_cached {r : Pn532UartReader (RecordedDevice δ)} {response : List UInt8}
    {found : Option CardPresence} (h : (r.readTarget response).1 = .ok found) :
    (r.readTarget response).2.cachedCard = found := by
  by_cases hn : response = [] ∨ response.head? = some 0
  · obtain ⟨hstate, hfound⟩ := readTarget_none (r := r) hn
    obtain ⟨pn532, rf, cs, hrf, -⟩ := setRfField_moves
      { r with activeTarget := none, cachedCard := none } false
    rw [hstate, hrf, hfound found h]
  · rcases readTarget_named (r := r) hn with ⟨error, -, heq⟩ | ⟨target, card, -, heq⟩
    · rw [heq] at h
      cases h
    · rw [heq] at h ⊢
      exact Except.ok.inj h

theorem pollDevice_listing (r : Pn532UartReader (RecordedDevice δ)) (now : ℕ) :
    (r.rfFieldEnabled = false ∧
      (∃ inner call, call.isListing = false ∧ (r.pollDevice now).2 = r.noted inner call)) ∨
    (∃ cs call ds, (r.pollDevice now).2.pn532.calls = r.pn532.calls ++ cs ++ call :: ds ∧
      call.isListing = true) ∧
      ∀ found, (r.pollDevice now).1 = .ok found → (r.pollDevice now).2.cachedCard = found := by
  rcases pollDevice_cases r now with ⟨error, r₁, hrf, h⟩ | ⟨r₁, inner, hrf, h⟩
  · obtain ⟨hoff, inner, call, hcall, rfl, -⟩ := setRfField_error hrf
    rw [h]
    exact Or.inl ⟨Bool.eq_false_iff.mpr hoff, inner, call, hcall, rfl⟩
  obtain ⟨inner', cs, hr₁, -⟩ := setRfField_ok hrf
  have hcalls : r₁.pn532.calls = r.pn532.calls ++ cs := by rw [hr₁]
  right
  rcases h with ⟨error, readerError, h⟩ | ⟨response, h⟩
  · rw [h]
    refine ⟨⟨cs, .dynamic .inListOneIsoATarget (.error error), [], ?_, rfl⟩, ?_⟩
    · show r₁.pn532.calls ++ _ = _
      rw [hcalls]
    · intro found hfound
      cases hfound
  · obtain ⟨ds, hds, -⟩ := readTarget_recorded
      (noted { r₁ with lastPoll := some now } inner
        (.dynamic .inListOneIsoATarget (.ok response))) response
    rw [h]
    refine ⟨⟨cs, .dynamic .inListOneIsoATarget (.ok response), ds, ?_, rfl⟩,
      fun found hfound => readTarget_cached hfound⟩
    rw [hds]
    show r₁.pn532.calls ++ _ ++ ds = _
    rw [hcalls, List.append_assoc, List.singleton_append]

/-- A poll answers from the cache, stops at the field, or asks for a target and remembers what it
found. -/
theorem poll_cases (r : Pn532UartReader (RecordedDevice δ)) :
    (r.AnswersFromCache r.poll.now ∧ r.poll.calls = [] ∧ r.poll.result = .ok r.cachedCard ∧
      r.Fades r.silent.pollCard.2) ∨
    (¬ r.AnswersFromCache r.poll.now ∧ r.poll.calls ≠ [] ∧ r.poll.outcome = none ∧
      r.rfFieldEnabled = false ∧ r.Fades r.silent.pollCard.2) ∨
    ¬ r.AnswersFromCache r.poll.now ∧ r.poll.calls ≠ [] ∧ r.poll.outcome = some r.poll.result ∧
      ∀ found, r.poll.result = .ok found → r.silent.pollCard.2.cachedCard = found := by
  let r₀ : Pn532UartReader (RecordedDevice δ) :=
    { r with pn532 := ⟨(Pn532Device.now r.pn532.inner).2, []⟩ }
  by_cases ha : r.AnswersFromCache r.poll.now
  · have hpoll : r.silent.pollCard = (.ok r.cachedCard, r₀) := if_pos ha
    refine Or.inl ⟨ha, ?_, ?_, ?_⟩
    · show r.silent.pollCard.2.pn532.calls = []
      rw [hpoll]
    · show r.silent.pollCard.1 = .ok r.cachedCard
      rw [hpoll]
    · rw [hpoll]
      exact .refl r
  · have hpoll : r.silent.pollCard = r₀.pollDevice r.poll.now := if_neg ha
    have hcalls : r.poll.calls = (r₀.pollDevice r.poll.now).2.pn532.calls := by
      rw [← hpoll]
      rfl
    right
    rcases pollDevice_listing r₀ r.poll.now with
      ⟨hoff, inner, call, hcall, h⟩ | ⟨⟨cs, call, ds, h, hcall⟩, hfound⟩
    · have hone : r.poll.calls = [call] := by
        rw [hcalls, h]
        rfl
      refine Or.inl ⟨ha, by simp [hone], by simp [Poll.outcome, hone, hcall], hoff, ?_⟩
      rw [hpoll, h]
      exact .refl r
    · have hmany : r.poll.calls = cs ++ call :: ds := by
        rw [hcalls, h]
        rfl
      refine Or.inr ⟨ha, by simp [hmany], by simp [Poll.outcome, hmany, hcall], ?_⟩
      have hresult : r.poll.result = (r₀.pollDevice r.poll.now).1 := by
        rw [← hpoll]
        rfl
      rw [hresult, hpoll]
      exact hfound

theorem Fades.of_setRfField {r r' : Pn532UartReader (RecordedDevice δ)} (h : r.Fades r')
    (enabled : Bool) : r.Fades (r'.setRfField enabled).2 := by
  obtain ⟨pn532, rf, cs, hrf, -⟩ := setRfField_moves r' enabled
  rw [hrf]
  exact h

theorem exchangeApdu_fades {r : Pn532UartReader (RecordedDevice δ)} {apdu : List UInt8}
    (hfit : ¬ apdu.length + 1 > pn532BufferSize - 9) :
    r.exchangeTarget.2.Fades (r.exchangeApdu apdu).2 := by
  obtain ⟨found, r₁, hx⟩ : ∃ found r₁, r.exchangeTarget = (found, r₁) := ⟨_, _, rfl⟩
  cases found with
  | error error =>
    have h : (r.exchangeApdu apdu).2 = r₁ := by simp [exchangeApdu, hfit, hx]
    rw [h, hx]
    exact .refl r₁
  | ok target =>
    obtain ⟨inner, answer, ⟨-, h⟩ | ⟨-, h⟩⟩ := exchangeApdu_cases hfit hx
    · rw [h, hx]
      exact .refl r₁
    · rw [h, hx]
      exact Fades.of_setRfField (Or.inl rfl) false

end Pn532UartReader

/-- The call of `poll_card` in an operation: `poll_card` itself, or the one of an exchange that
fits the buffer and finds no active target. -/
def pollOf [Pn532Device δ] (e : ReaderStep δ) : Option (Poll δ) :=
  match e.input with
  | .pollCard => some e.before.poll
  | .powerOff => none
  | .exchangeApdu apdu =>
    if apdu.length + 1 > pn532BufferSize - 9 ∨ e.before.activeTarget.isSome then none
    else some e.before.poll

def polls [Pn532Device δ] (h : List (ReaderStep δ)) : List (Poll δ) := h.filterMap pollOf

/-- What an operation does to the memory of the reader: a poll, if it makes one, and then nothing
that adds to it. -/
theorem operation_memory [Pn532Device δ] (r : Pn532UartReader (RecordedDevice δ)) (op : ReaderOp) :
    let e := (readerMachine δ).event r op
    (pollOf e = none ∧ r.Fades e.after) ∨
      pollOf e = some r.poll ∧ r.silent.pollCard.2.Fades e.after := by
  cases op with
  | pollCard => exact Or.inr ⟨rfl, .refl _⟩
  | powerOff =>
    have h : r.Fades { r.silent with activeTarget := none } := Or.inr ⟨rfl, rfl, Or.inr rfl⟩
    exact Or.inl ⟨rfl, h.of_setRfField false⟩
  | exchangeApdu apdu =>
    by_cases hfit : apdu.length + 1 > pn532BufferSize - 9
    · have h : (r.silent.exchangeApdu apdu).2 = r.silent := by
        simp [Pn532UartReader.exchangeApdu, hfit]
      refine Or.inl ⟨if_pos (Or.inl hfit), ?_⟩
      show r.Fades (r.silent.exchangeApdu apdu).2
      rw [h]
      exact .refl r
    have hfades := Pn532UartReader.exchangeApdu_fades (r := r.silent) hfit
    rw [Pn532UartReader.exchangeTarget_state] at hfades
    by_cases hactive : r.silent.activeTarget = none
    · rw [if_pos hactive] at hfades
      refine Or.inr ⟨if_neg ?_, hfades⟩
      have hnone : ¬ r.activeTarget.isSome = true := by
        rw [show r.activeTarget = none from hactive]
        decide
      exact not_or.mpr ⟨hfit, hnone⟩
    · rw [if_neg hactive] at hfades
      have hsome : r.activeTarget.isSome = true := Option.isSome_iff_ne_none.mpr hactive
      exact Or.inl ⟨if_pos (Or.inr hsome), hfades⟩

/-- What the reader's memory owes to the polls so far: a remembered poll is the last one that
asked for a target, the card cached is what that one found, and behind a poll that failed before
it could ask, nothing is answered from the cache. -/
structure Owes (ps : List (Poll δ)) (r : Pn532UartReader (RecordedDevice δ)) : Prop where
  consistent : r.Consistent
  found : r.lastPoll.isSome = true →
    ∃ result, LastAttempt ps result ∧ ∀ card, result = .ok card → r.cachedCard = card
  expired : ∀ pre p mid error, ps = pre ++ p :: mid → p.result = .error error →
    (∀ d ∈ p :: mid, d.outcome = none) → r.Expired p.now

theorem Owes.fades {ps : List (Poll δ)} {r r' : Pn532UartReader (RecordedDevice δ)}
    (h : Owes ps r) (hf : r.Fades r') (hr : r'.Consistent) : Owes ps r' := by
  refine ⟨hr, fun hsome => ?_, fun pre p mid error hs hp hmid => ?_⟩
  · rcases hf with hnone | ⟨hlast, hcached, -⟩
    · rw [hnone] at hsome
      cases hsome
    · rw [hlast] at hsome
      rw [hcached]
      exact h.found hsome
  · exact hf.expired (h.expired pre p mid error hs hp hmid)

theorem lastAttempt_append {ps : List (Poll δ)} {p : Poll δ}
    {result : Except ReaderError (Option CardPresence)} :
    LastAttempt (ps ++ [p]) result ↔
      p.outcome = some result ∨ p.outcome = none ∧ LastAttempt ps result := by
  unfold LastAttempt
  rw [held_append_singleton]
  simp

theorem expired_of_field_off {r r' : Pn532UartReader (RecordedDevice δ)} {now : ℕ}
    (hr : r.Consistent) (hoff : r.rfFieldEnabled = false) (ha : ¬ r.AnswersFromCache now)
    (hf : r.Fades r') : r'.Expired now := by
  have hinactive : ¬ r.activeTarget.isSome = true := by
    intro hactive
    have hon := (hr hactive).1
    rw [hoff] at hon
    cases hon
  refine hf.expired fun later hle hlater => ha ?_
  rw [Pn532UartReader.answersFromCache_iff] at hlater ⊢
  exact ⟨Pn532UartReader.recentlyPolled_antitone hle hlater.1, hlater.2⟩

theorem Owes.poll [Pn532Device δ] {ps : List (Poll δ)} {r : Pn532UartReader (RecordedDevice δ)}
    (h : Owes ps r) : Owes (ps ++ [r.poll]) r.silent.pollCard.2 := by
  have hcons := (Pn532UartReader.pollCard_consistent (r := r.silent) h.consistent).1
  -- A failed poll that did not ask is either an older one or this one.
  have hexpired : ∀ pre p mid error, ps ++ [r.poll] = pre ++ p :: mid → p.result = .error error →
      (∀ d ∈ p :: mid, d.outcome = none) → r.Fades r.silent.pollCard.2 →
      (∀ error, r.poll.result = .error error → r.silent.pollCard.2.Expired r.poll.now) →
      r.silent.pollCard.2.Expired p.now := by
    intro pre p mid error hs hp hmid hf hnew
    rcases mid.eq_nil_or_concat with rfl | ⟨mid, last, rfl⟩
    · obtain ⟨-, rfl⟩ := List.append_singleton_inj.mp hs
      exact hnew error hp
    · rw [List.concat_eq_append, ← List.cons_append, ← List.append_assoc] at hs
      obtain ⟨hs, -⟩ := List.append_singleton_inj.mp hs
      refine hf.expired (h.expired pre p mid error hs hp fun d hd => hmid d ?_)
      simp only [List.concat_eq_append, List.mem_cons, List.mem_append] at hd ⊢
      tauto
  rcases r.poll_cases with ⟨ha, hcalls, hresult, hf⟩ | ⟨ha, hcalls, hout, hoff, hf⟩ |
    ⟨ha, hcalls, hout, hfound⟩
  · have hout : r.poll.outcome = none := by simp [Poll.outcome, hcalls]
    have hold := h.fades hf hcons
    refine ⟨hcons, fun hsome => ?_, fun pre p mid error hs hp hmid =>
      hexpired pre p mid error hs hp hmid hf fun error herror => ?_⟩
    · obtain ⟨result, hlast, hcached⟩ := hold.found hsome
      exact ⟨result, lastAttempt_append.mpr (Or.inr ⟨hout, hlast⟩), hcached⟩
    · rw [hresult] at herror
      cases herror
  · have hold := h.fades hf hcons
    refine ⟨hcons, fun hsome => ?_, fun pre p mid error hs hp hmid =>
      hexpired pre p mid error hs hp hmid hf fun error herror => ?_⟩
    · obtain ⟨result, hlast, hcached⟩ := hold.found hsome
      exact ⟨result, lastAttempt_append.mpr (Or.inr ⟨hout, hlast⟩), hcached⟩
    · exact expired_of_field_off h.consistent hoff ha hf
  · refine ⟨hcons, fun _ => ?_, fun pre p mid error hs hp hmid => ?_⟩
    · exact ⟨r.poll.result, lastAttempt_append.mpr (Or.inl hout), hfound⟩
    · have hmem : r.poll ∈ p :: mid := by
        have hlast := congrArg List.getLast? hs
        rw [List.getLast?_concat, List.getLast?_append_cons] at hlast
        exact List.mem_of_getLast? hlast.symm
      rw [hmid r.poll hmem] at hout
      cases hout

theorem run_owes [Pn532Device δ] {device : δ} {h : List (ReaderStep δ)}
    {r : Pn532UartReader (RecordedDevice δ)}
    (hr : Run (readerMachine δ) (.opened ⟨device, []⟩) h r) : Owes (polls h) r := by
  have hstart : Owes [] (Pn532UartReader.opened (⟨device, []⟩ : RecordedDevice δ)) := by
    refine ⟨Pn532UartReader.consistent_of_none rfl, fun hsome => ?_, fun pre p mid _ hs => ?_⟩
    · cases hsome
    · simp at hs
  refine hr.invariant (A := fun _ => True) (P := fun h r => Owes (polls h) r) hstart ?_
    fun _ _ => trivial
  intro h r op ho _
  have hcons := (step_sound ho.consistent op).1
  have happend : polls (h ++ [(readerMachine δ).event r op]) =
      polls h ++ (pollOf ((readerMachine δ).event r op)).toList := by
    cases hp : pollOf ((readerMachine δ).event r op) <;> simp [polls, hp]
  rw [happend]
  rcases operation_memory r op with ⟨hnone, hf⟩ | ⟨hsome, hf⟩
  · rw [hnone, Option.toList_none, List.append_nil]
    exact ho.fades hf hcons
  · rw [hsome, Option.toList_some]
    exact ho.poll.fades hf hcons

theorem poll_owes [Pn532Device δ] {device : δ} {h : List (ReaderStep δ)}
    {r : Pn532UartReader (RecordedDevice δ)}
    (hr : Run (readerMachine δ) (.opened ⟨device, []⟩) h r) {pre post : List (Poll δ)} {p : Poll δ}
    (hs : polls h = pre ++ p :: post) : p = p.reader.poll ∧ Owes pre p.reader := by
  obtain ⟨hpre, hrest, rfl, rfl, hcons⟩ := List.filterMap_eq_append_iff.mp hs
  obtain ⟨skipped, e, hpost, rfl, hskipped, hp, -⟩ := List.filterMap_eq_cons_iff.mp hcons
  rw [← List.append_assoc] at hr
  obtain ⟨hbefore, heq⟩ := hr.split rfl
  have howes := run_owes hbefore
  have hpolls : polls (hpre ++ skipped) = polls hpre := by
    have hnone : skipped.filterMap pollOf = [] := List.filterMap_eq_nil_iff.mpr hskipped
    rw [polls, List.filterMap_append, hnone, List.append_nil]
    rfl
  rw [hpolls] at howes
  have hmemory := operation_memory e.before e.input
  rw [← heq] at hmemory
  rcases hmemory with ⟨hnone, -⟩ | ⟨hsome, -⟩
  · rw [hp] at hnone
    cases hnone
  · rw [hp] at hsome
    cases hsome
    exact ⟨rfl, howes⟩

/-- Every answer from the cache is what the last poll to ask for a target found, and after a poll
that failed nothing is answered from the cache until one has found out anew. -/
structure CacheCurrent (ps : List (Poll δ)) : Prop where
  current : ∀ pre p post found, ps = pre ++ p :: post → p.calls = [] → p.result = .ok found →
    LastAttempt pre (.ok found)
  forgets : ∀ pre p mid q post error, ps = pre ++ p :: (mid ++ q :: post) →
    p.result = .error error → (∀ d ∈ mid, ∀ found, d.outcome ≠ some (.ok found)) → q.calls ≠ []

/-- No poll is made while the cache answers although the last poll to ask for a target failed. -/
def NoAnswerAfterFailure (ps : List (Poll δ)) : Prop :=
  ∀ pre p post error, ps = pre ++ p :: post → p.reader.AnswersFromCache p.now →
    ¬ LastAttempt pre (.error error)

/-- By the times and the outcomes of the operations: no poll comes, behind one whose attempt to list
a target failed, while what the commands before it have left still stands. -/
theorem noAnswerAfterFailure_iff [Pn532Device δ] {device : δ} {h : List (ReaderStep δ)}
    {r : Pn532UartReader (RecordedDevice δ)}
    (hr : Run (readerMachine δ) (.opened ⟨device, []⟩) h r) :
    NoAnswerAfterFailure (polls h) ↔
      ∀ pre e post p error, h = pre ++ e :: post → pollOf e = some p →
        LastAttempt (polls pre) (.error error) → ¬ (memoryAfter pre).Stands p.now := by
  have hstands : ∀ {pre e post p}, h = pre ++ e :: post → pollOf e = some p →
      (p.reader.AnswersFromCache p.now ↔ (memoryAfter pre).Stands p.now) := by
    intro pre e post p hs hp
    obtain ⟨hpre, heq⟩ := hr.split hs
    have hmemory := operation_memory e.before e.input
    rw [← heq] at hmemory
    rcases hmemory with ⟨hnone, -⟩ | ⟨hsome, -⟩
    · rw [hp] at hnone
      cases hnone
    · obtain rfl := Option.some.inj (hp.symm.trans hsome)
      rw [← run_memory hpre]
      exact Pn532UartReader.answersFromCache_iff_stands (run_owes hpre).consistent _
  constructor
  · intro hno pre e post p error hs hp hlast hstanding
    have hpolls : polls h = polls pre ++ p :: polls post := by
      rw [hs, polls, List.filterMap_append, List.filterMap_cons_some hp]
      rfl
    exact hno _ p _ error hpolls ((hstands hs hp).mpr hstanding) hlast
  · intro hno pre p post error hs ha hlast
    obtain ⟨hpre, hrest, rfl, rfl, hcons⟩ := List.filterMap_eq_append_iff.mp hs
    obtain ⟨skipped, e, hpost, rfl, hskipped, hp, -⟩ := List.filterMap_eq_cons_iff.mp hcons
    have hnone : polls (hpre ++ skipped) = polls hpre := by
      rw [polls, List.filterMap_append, List.filterMap_eq_nil_iff.mpr hskipped, List.append_nil]
      rfl
    have hsplit : hpre ++ (skipped ++ e :: hpost) = (hpre ++ skipped) ++ e :: hpost :=
      (List.append_assoc _ _ _).symm
    refine hno _ e hpost p error hsplit hp ?_ ((hstands hsplit hp).mp ha)
    rw [hnone]
    exact hlast

theorem Poll.outcome_cases (p : Poll δ) : p.outcome = none ∨ p.outcome = some p.result := by
  unfold Poll.outcome
  split
  · exact Or.inr rfl
  · exact Or.inl rfl

/-- When a poll fails and none has asked successfully since, either none of them asked, or the
last one to ask failed. -/
theorem lastAttempt_failed (pre : List (Poll δ)) {mid : List (Poll δ)} {p : Poll δ}
    {error : ReaderError} (hp : p.result = .error error)
    (hmid : ∀ d ∈ mid, ∀ found, d.outcome ≠ some (.ok found)) :
    (∀ d ∈ p :: mid, d.outcome = none) ∨ ∃ error, LastAttempt (pre ++ p :: mid) (.error error) := by
  induction mid using List.reverseRecOn with
  | nil =>
    rcases p.outcome_cases with hout | hout
    · exact Or.inl (by simpa using hout)
    · exact Or.inr ⟨error, lastAttempt_append.mpr (Or.inl (by rw [hout, hp]))⟩
  | append_singleton mid q ih =>
    have hsplit : pre ++ p :: (mid ++ [q]) = (pre ++ p :: mid) ++ [q] := by simp
    rw [hsplit]
    rcases q.outcome_cases with hout | hout
    · rcases ih fun d hd => hmid d (by simp [hd]) with hnone | ⟨error, hlast⟩
      · left
        intro d hd
        rw [← List.cons_append, List.mem_append, List.mem_singleton] at hd
        rcases hd with hd | rfl
        · exact hnone d hd
        · exact hout
      · exact Or.inr ⟨error, lastAttempt_append.mpr (Or.inr ⟨hout, hlast⟩)⟩
    · cases hresult : q.result with
      | ok found =>
        rw [hresult] at hout
        exact absurd hout (hmid q (by simp) found)
      | error error =>
        rw [hresult] at hout
        exact Or.inr ⟨error, lastAttempt_append.mpr (Or.inl hout)⟩

/-- With a clock that does not go back, the cache is current in exactly the runs in which no poll
meets an answering cache after a failed listing. -/
theorem cache_current_iff [Pn532Device δ] {device : δ} {h : List (ReaderStep δ)}
    {r : Pn532UartReader (RecordedDevice δ)}
    (hr : Run (readerMachine δ) (.opened ⟨device, []⟩) h r)
    (hclock : (polls h).Pairwise fun p q => p.now ≤ q.now) :
    CacheCurrent (polls h) ↔ NoAnswerAfterFailure (polls h) := by
  constructor
  · intro hcurrent pre p post error hs ha hlast
    obtain ⟨hp, howes⟩ := poll_owes hr hs
    rw [hp] at ha
    rcases p.reader.poll_cases with ⟨-, hcalls, hresult, -⟩ | ⟨hno, -⟩ | ⟨hno, -⟩
    · rw [← hp] at hcalls hresult
      have hfound := hcurrent.current pre p post _ hs hcalls hresult
      cases hfound.unique hlast
    · exact hno ha
    · exact hno ha
  · intro hno
    refine ⟨fun pre p post found hs hcalls hresult => ?_,
      fun pre p mid q post error hs hp hmid hcalls => ?_⟩
    · obtain ⟨hp, howes⟩ := poll_owes hr hs
      rw [hp] at hcalls hresult
      rcases p.reader.poll_cases with ⟨ha, -, hcached, -⟩ | ⟨-, hne, -⟩ | ⟨-, hne, -⟩
      · rw [← hp] at ha
        have hrecent := ((Pn532UartReader.answersFromCache_iff _ _).mp ha).1
        obtain ⟨result, hlast, hcard⟩ :=
          howes.found (Pn532UartReader.recentlyPolled_lastPoll hrecent)
        cases result with
        | error error => exact absurd hlast (hno pre p post error hs ha)
        | ok card =>
          rw [hcached] at hresult
          rw [← Except.ok.inj hresult, hcard card rfl]
          exact hlast
      · exact absurd hcalls hne
      · exact absurd hcalls hne
    · have hsq : polls h = (pre ++ p :: mid) ++ q :: post := by rw [hs]; simp
      obtain ⟨hq, howes⟩ := poll_owes hr hsq
      have ha : q.reader.AnswersFromCache q.now := by
        rw [hq] at hcalls ⊢
        rcases q.reader.poll_cases with ⟨ha, -⟩ | ⟨-, hne, -⟩ | ⟨-, hne, -⟩
        · exact ha
        · exact absurd hcalls hne
        · exact absurd hcalls hne
      rcases lastAttempt_failed pre hp hmid with hnone | ⟨error, hlast⟩
      · have hle : p.now ≤ q.now := by
          rw [hs, List.pairwise_append] at hclock
          have hlater := (List.pairwise_cons.mp hclock.2.1).1
          exact hlater q (by simp)
        exact howes.expired pre p mid error rfl hp hnone q.now hle ha
      · exact hno _ q post error hsq ha hlast

/-- A device whose clock and answers are scripted, and whose field never fails. -/
structure TimedDevice where
  times : List ℕ
  answers : List (Except Pn532Error (List UInt8))

instance : Pn532Device TimedDevice where
  now d := (d.times.headD 0, { d with times := d.times.tail })
  process d _ _ := (.ok (), d)
  processDynamicResponse d _ _ :=
    (d.answers.headD (.error .timeoutResponse), { d with answers := d.answers.tail })

/-- A card is listed at first, and two seconds later the device does not answer. -/
def silentDevice : TimedDevice where
  times := [0, fromMillis 2000, fromMillis 2500]
  answers := [.ok [1, 1, 0x00, 0x04, 0x20, 1, 0xaa], .error .timeoutResponse]

def silentDevicePolls : List (Poll TimedDevice) :=
  polls ((readerMachine TimedDevice).history (.opened ⟨silentDevice, []⟩)
    [.pollCard, .pollCard, .pollCard])

/-- Half a second after the failed poll the card of the first one is reported again. -/
theorem card_reported_after_failed_poll :
    (silentDevicePolls.Pairwise fun p q => p.now ≤ q.now) ∧ ¬ CacheCurrent silentDevicePolls := by
  refine ⟨by decide, fun hcurrent => ?_⟩
  let M := readerMachine TimedDevice
  let r₀ : Pn532UartReader (RecordedDevice TimedDevice) := .opened ⟨silentDevice, []⟩
  let r₁ := M.final r₀ [.pollCard]
  let r₂ := M.final r₁ [.pollCard]
  have hsplit : silentDevicePolls = [r₀.poll] ++ r₁.poll :: ([] ++ r₂.poll :: []) := rfl
  have hfailed : r₁.poll.result =
      .error (mapPn532Error "poll for ISO14443A target" .timeoutResponse) := rfl
  have ha : r₂.AnswersFromCache r₂.poll.now := by decide
  have hcalls : r₂.poll.calls = [] := by
    rcases r₂.poll_cases with ⟨-, hcalls, -⟩ | ⟨hno, -⟩ | ⟨hno, -⟩
    · exact hcalls
    · exact absurd ha hno
    · exact absurd ha hno
  exact hcurrent.forgets _ _ _ _ _ _ hsplit hfailed (by simp) hcalls

/-- The second poll is answered from the cache, with the card of the first. -/
theorem cache_current_of_standing_clock :
    let h := (readerMachine TimedDevice).history (.opened ⟨⟨[], silentDevice.answers⟩, []⟩)
      [.pollCard, .pollCard, .powerOff, .pollCard]
    (polls h).map (fun p => p.calls.length) = [2, 0, 2] ∧
      (CacheCurrent (polls h) ↔ NoAnswerAfterFailure (polls h)) := by
  intro h
  have hcalls : (polls h).map (fun p => p.calls.length) = [2, 0, 2] := rfl
  have hclock : (polls h).Pairwise fun p q => p.now ≤ q.now := by decide
  exact ⟨hcalls, cache_current_iff (Machine.run_of_inputs _ _ _) hclock⟩

end VirtualCcid.Nfc
