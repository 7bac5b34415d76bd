import Mathlib.Data.List.Basic

/-! Messages cut from a byte stream: draining a buffer message by message, and why the cuts of
the packets that fill it do not matter. -/
namespace VirtualCcid.Runs

/-- What the front of a buffer holds. -/
inductive Scan (α : Type*) where
  | incomplete
  | refused (length : ℕ)
  | message (frame rest : List α)

/-- A way to find the first message of a buffer, which more bytes behind it do not change. -/
structure Framing (α : Type*) where
  scan : List α → Scan α
  scan_nil : scan [] = .incomplete
  rest_lt {xs frame rest} : scan xs = .message frame rest → rest.length < xs.length
  message_append {xs frame rest} (ys : List α) :
    scan xs = .message frame rest → scan (xs ++ ys) = .message frame (rest ++ ys)
  refused_append {xs n} (ys : List α) : scan xs = .refused n → scan (xs ++ ys) = .refused n

/-- What a receiver does with a message: go on, go on with the rest of the buffer dropped, or
stop. -/
inductive Reaction (σ : Type*) where
  | next (s : σ)
  | flush (s : σ)
  | fail

inductive Drained (α : Type*) where
  | waiting (rest : List α)
  | refused (length : ℕ)
  | failed

namespace Framing
variable {α σ : Type*} (F : Framing α) (react : σ → List α → Reaction σ)

def drain (s : σ) (buffer : List α) : σ × Drained α :=
  match _h : F.scan buffer with
  | .incomplete => (s, .waiting buffer)
  | .refused n => (s, .refused n)
  | .message frame rest =>
    match react s frame with
    | .next s => drain s rest
    | .flush s => (s, .waiting [])
    | .fail => (s, .failed)
termination_by buffer.length
decreasing_by exact F.rest_lt ‹_›

variable {F react} {s s' : σ} {buffer frame rest : List α} {n : ℕ}

theorem drain_incomplete (h : F.scan buffer = .incomplete) :
    F.drain react s buffer = (s, .waiting buffer) := by
  rw [drain]
  split <;> simp_all

theorem drain_refused (h : F.scan buffer = .refused n) :
    F.drain react s buffer = (s, .refused n) := by
  rw [drain]
  split <;> simp_all

theorem drain_message (h : F.scan buffer = .message frame rest) :
    F.drain react s buffer =
      match react s frame with
      | .next s => F.drain react s rest
      | .flush s => (s, .waiting [])
      | .fail => (s, .failed) := by
  rw [drain]
  split <;> simp_all

theorem incomplete_of_waiting (h : F.drain react s buffer = (s', .waiting rest)) :
    F.scan rest = .incomplete := by
  induction s, buffer using drain.induct F react with
  | case1 s buffer hs =>
    rw [drain_incomplete hs] at h
    obtain ⟨rfl, hrest⟩ := Prod.mk.inj h
    exact Drained.waiting.inj hrest ▸ hs
  | case2 s buffer n hs =>
    rw [drain_refused hs] at h
    cases (Prod.mk.inj h).2
  | case3 s buffer frame rest' hs s₁ hreact ih =>
    rw [drain_message hs, hreact] at h
    exact ih h
  | case4 s buffer frame rest' hs s₁ hreact =>
    rw [drain_message hs, hreact] at h
    exact Drained.waiting.inj (Prod.mk.inj h).2 ▸ F.scan_nil
  | case5 s buffer frame rest' hs hreact =>
    rw [drain_message hs, hreact] at h
    cases (Prod.mk.inj h).2

/-- What every reaction to a message keeps holds after draining. -/
theorem drain_invariant {P : σ → Prop}
    (keep : ∀ {s buffer frame rest s'}, P s → F.scan buffer = .message frame rest →
      react s frame = .next s' ∨ react s frame = .flush s' → P s')
    (hs : P s) (buffer : List α) : P (F.drain react s buffer).1 := by
  induction s, buffer using drain.induct F react with
  | case1 s buffer hscan => rwa [drain_incomplete hscan]
  | case2 s buffer n hscan => rwa [drain_refused hscan]
  | case3 s buffer frame rest hscan s₁ hreact ih =>
    rw [drain_message hscan, hreact]
    exact ih (keep hs hscan (.inl hreact))
  | case4 s buffer frame rest hscan s₁ hreact =>
    rw [drain_message hscan, hreact]
    exact keep hs hscan (.inr hreact)
  | case5 s buffer frame rest hscan hreact =>
    rw [drain_message hscan, hreact]
    exact hs

/-- In states with `P` a receiver takes every message by `step`, and keeps its buffer and `P`. -/
structure Keeps (F : Framing α) (react : σ → List α → Reaction σ) (step : σ → List α → σ)
    (P : σ → Prop) : Prop where
  react_eq : ∀ {s buffer frame rest}, P s → F.scan buffer = .message frame rest →
    react s frame = .next (step s frame)
  keep : ∀ {s buffer frame rest}, P s → F.scan buffer = .message frame rest → P (step s frame)

variable {step : σ → List α → σ} {P : σ → Prop}

theorem Keeps.drain_message (k : Keeps F react step P) (hs : P s)
    (h : F.scan buffer = .message frame rest) :
    F.drain react s buffer = F.drain react (step s frame) rest := by
  rw [Framing.drain_message h, k.react_eq hs h]

theorem Keeps.drain (k : Keeps F react step P) (hs : P s) : P (F.drain react s buffer).1 := by
  refine drain_invariant (fun {s buffer frame rest s'} hs hscan hreact => ?_) hs buffer
  rw [k.react_eq hs hscan] at hreact
  rcases hreact with hreact | hreact
  · exact Reaction.next.inj hreact ▸ k.keep hs hscan
  · cases hreact

theorem Keeps.drain_ne_failed (k : Keeps F react step P) (hs : P s) (buffer : List α) :
    (F.drain react s buffer).2 ≠ .failed := by
  induction s, buffer using drain.induct F react with
  | case1 s buffer hscan =>
    rw [drain_incomplete hscan]
    nofun
  | case2 s buffer n hscan =>
    rw [drain_refused hscan]
    nofun
  | case3 s buffer frame rest hscan s₁ hreact ih =>
    obtain rfl : s₁ = step s frame :=
      Reaction.next.inj (hreact.symm.trans (k.react_eq hs hscan))
    rw [k.drain_message hs hscan]
    exact ih (k.keep hs hscan)
  | case4 s buffer frame rest hscan s₁ hreact | case5 s buffer frame rest hscan hreact =>
    rw [k.react_eq hs hscan] at hreact
    cases hreact

/-- Bytes that arrive later are drained from where the earlier ones left off. -/
theorem Keeps.drain_append (k : Keeps F react step P) (hs : P s) (ys : List α) :
    F.drain react s (buffer ++ ys) =
      match F.drain react s buffer with
      | (s', .waiting rest) => F.drain react s' (rest ++ ys)
      | stopped => stopped := by
  induction s, buffer using drain.induct F react with
  | case1 s buffer hscan => rw [drain_incomplete hscan]
  | case2 s buffer n hscan => rw [drain_refused hscan, drain_refused (F.refused_append ys hscan)]
  | case3 s buffer frame rest hscan s₁ hreact ih =>
    obtain rfl : s₁ = step s frame :=
      Reaction.next.inj (hreact.symm.trans (k.react_eq hs hscan))
    rw [k.drain_message hs hscan, k.drain_message hs (F.message_append ys hscan)]
    exact ih (k.keep hs hscan)
  | case4 s buffer frame rest hscan s₁ hreact | case5 s buffer frame rest hscan hreact =>
    rw [k.react_eq hs hscan] at hreact
    cases hreact

theorem drain_taken {Q : List α → Prop}
    (taken : ∀ s m, P s → Q m → react s m = .next (step s m) ∧ P (step s m)) (hs : P s)
    {messages : List (List α)} (hm : ∀ m ∈ messages, F.scan m = .message m [] ∧ Q m)
    (tail : List α) :
    F.drain react s (messages.flatten ++ tail) = F.drain react (messages.foldl step s) tail ∧
      P (messages.foldl step s) := by
  induction messages generalizing s with
  | nil => exact ⟨rfl, hs⟩
  | cons m messages ih =>
    obtain ⟨hself, hq⟩ := hm m (by simp)
    obtain ⟨hreact, hs'⟩ := taken s m hs hq
    have hscan := F.message_append (messages.flatten ++ tail) hself
    rw [List.flatten_cons, List.append_assoc, Framing.drain_message hscan, hreact]
    exact ih hs' fun n hn => hm n (by simp [hn])

theorem Keeps.drain_messages (k : Keeps F react step P) (hs : P s) {messages : List (List α)}
    (hm : ∀ m ∈ messages, F.scan m = .message m []) (tail : List α) :
    F.drain react s (messages.flatten ++ tail) =
      F.drain react (messages.foldl step s) tail := by
  have taken : ∀ s m, P s → F.scan m = .message m [] →
      react s m = .next (step s m) ∧ P (step s m) :=
    fun s m hs hm => ⟨k.react_eq hs hm, k.keep hs hm⟩
  exact (drain_taken taken hs (fun m h => ⟨hm m h, hm m h⟩) tail).1

variable (F react) in
/-- Drain the packets one after the other, each behind what the last one left waiting. -/
def feed (s : σ) (waiting : List α) : List (List α) → σ × Drained α
  | [] => (s, .waiting waiting)
  | packet :: packets =>
    match F.drain react s (waiting ++ packet) with
    | (s, .waiting waiting) => feed s waiting packets
    | stopped => stopped

/-- However the bytes are cut into packets, they are drained as one. -/
theorem Keeps.feed_eq_drain (k : Keeps F react step P) {waiting : List α}
    (hw : F.scan waiting = .incomplete) (hs : P s) (packets : List (List α)) :
    F.feed react s waiting packets = F.drain react s (waiting ++ packets.flatten) := by
  induction packets generalizing s waiting with
  | nil => simp [feed, drain_incomplete hw]
  | cons packet packets ih =>
    rw [List.flatten_cons, ← List.append_assoc, k.drain_append hs, feed]
    match h : F.drain react s (waiting ++ packet) with
    | (s', .waiting rest) =>
      have hk : P (F.drain react s (waiting ++ packet)).1 := k.drain hs
      have hs' : P s' := by rwa [h] at hk
      exact ih (incomplete_of_waiting h) hs'
    | (s', .refused n) | (s', .failed) => rfl

variable (F react) in
/-- Drain the packets one after the other and go on behind a refusal, for which everything that is
buffered is dropped. -/
def resume (s : σ) (waiting : List α) : List (List α) → σ × Drained α
  | [] => (s, .waiting waiting)
  | packet :: packets =>
    match F.drain react s (waiting ++ packet) with
    | (s, .waiting waiting) => resume s waiting packets
    | (s, .refused _) => resume s [] packets
    | (s, .failed) => (s, .failed)

/-- More packets are drained from where the earlier ones left off. -/
theorem resume_append {waiting : List α} (packets packets' : List (List α)) :
    F.resume react s waiting (packets ++ packets') =
      match F.resume react s waiting packets with
      | (s', .waiting rest) => F.resume react s' rest packets'
      | stopped => stopped := by
  induction packets generalizing s waiting with
  | nil => rfl
  | cons packet packets ih =>
    rw [List.cons_append, resume, resume]
    match F.drain react s (waiting ++ packet) with
    | (s₁, .waiting rest₁) => exact ih
    | (s₁, .refused n) => exact ih
    | (s₁, .failed) => rfl

/-- Where nothing is refused there is nothing to go on behind. -/
theorem resume_of_feed {waiting : List α} {packets : List (List α)}
    (h : F.feed react s waiting packets = (s', .waiting rest)) :
    F.resume react s waiting packets = (s', .waiting rest) := by
  induction packets generalizing s waiting with
  | nil => exact h
  | cons packet packets ih =>
    rw [feed] at h
    rw [resume]
    match hd : F.drain react s (waiting ++ packet) with
    | (s₁, .waiting rest₁) =>
      rw [hd] at h
      exact ih h
    | (s₁, .refused n) | (s₁, .failed) =>
      rw [hd] at h
      cases h

theorem incomplete_of_append {ys : List α} (h : F.scan (buffer ++ ys) = .incomplete) :
    F.scan buffer = .incomplete := by
  match hscan : F.scan buffer with
  | .incomplete => rfl
  | .refused n =>
    rw [F.refused_append ys hscan] at h
    cases h
  | .message frame rest =>
    rw [F.message_append ys hscan] at h
    cases h

theorem resume_incomplete {waiting : List α} {packets : List (List α)}
    (h : F.scan (waiting ++ packets.flatten) = .incomplete) :
    F.resume react s waiting packets = (s, .waiting (waiting ++ packets.flatten)) := by
  induction packets generalizing waiting with
  | nil => rw [resume, List.flatten_nil, List.append_nil]
  | cons packet packets ih =>
    rw [List.flatten_cons, ← List.append_assoc] at h ⊢
    rw [resume, drain_incomplete (incomplete_of_append h)]
    exact ih h

variable (react s) in
theorem resume_refused {waiting : List α} {packets : List (List α)}
    (hw : F.scan waiting = .incomplete) (h : F.scan (waiting ++ packets.flatten) = .refused n) :
    ∃ front packets', F.scan front = .refused n ∧
      front ++ packets'.flatten = waiting ++ packets.flatten ∧
      F.resume react s waiting packets = F.resume react s [] packets' := by
  induction packets generalizing waiting with
  | nil =>
    rw [List.flatten_nil, List.append_nil, hw] at h
    cases h
  | cons packet packets ih =>
    rw [List.flatten_cons, ← List.append_assoc] at h ⊢
    rw [resume]
    match hscan : F.scan (waiting ++ packet) with
    | .incomplete =>
      rw [drain_incomplete hscan]
      exact ih hscan h
    | .refused n' =>
      have hrefused := F.refused_append packets.flatten hscan
      obtain rfl := Scan.refused.inj (hrefused.symm.trans h)
      rw [drain_refused hscan]
      exact ⟨waiting ++ packet, packets, hscan, rfl, rfl⟩
    | .message frame rest =>
      rw [F.message_append packets.flatten hscan] at h
      cases h

theorem Keeps.resume_message (k : Keeps F react step P) (hs : P s) {waiting : List α}
    {packets : List (List α)} (hw : F.scan waiting = .incomplete)
    (h : F.scan (waiting ++ packets.flatten) = .message frame rest) :
    ∃ packets', packets'.flatten = rest ∧
      F.resume react s waiting packets = F.resume react (step s frame) [] packets' := by
  induction packets generalizing waiting with
  | nil =>
    rw [List.flatten_nil, List.append_nil, hw] at h
    cases h
  | cons packet packets ih =>
    rw [List.flatten_cons, ← List.append_assoc] at h
    match hscan : F.scan (waiting ++ packet) with
    | .incomplete =>
      rw [resume, drain_incomplete hscan]
      exact ih hscan h
    | .refused n =>
      rw [F.refused_append packets.flatten hscan] at h
      cases h
    | .message frame' rest' =>
      have hmessage := F.message_append packets.flatten hscan
      obtain ⟨rfl, rfl⟩ := Scan.message.inj (hmessage.symm.trans h)
      refine ⟨rest' :: packets, List.flatten_cons, ?_⟩
      rw [resume, resume, k.drain_message hs hscan, List.nil_append]

theorem resume_invariant {P : σ → Prop}
    (keep : ∀ {s buffer frame rest s'}, P s → F.scan buffer = .message frame rest →
      react s frame = .next s' ∨ react s frame = .flush s' → P s')
    (hs : P s) (waiting : List α) (packets : List (List α)) :
    P (F.resume react s waiting packets).1 := by
  induction packets generalizing s waiting with
  | nil => exact hs
  | cons packet packets ih =>
    have hd := drain_invariant keep hs (waiting ++ packet)
    rw [resume]
    match hdrain : F.drain react s (waiting ++ packet) with
    | (s₁, .waiting rest₁) =>
      rw [hdrain] at hd
      exact ih hd rest₁
    | (s₁, .refused n) =>
      rw [hdrain] at hd
      exact ih hd []
    | (s₁, .failed) =>
      rw [hdrain] at hd
      exact hd

end Framing
end VirtualCcid.Runs
