import VirtualCcid.Nfc.OnWire

/-! A PN532 at the other end of the serial port. If the line keeps its times and its frames whole,
the port answers the reader as the PN532 does. -/
namespace VirtualCcid.Nfc
open Rust Reading Ccid Runs

variable {π δ : Type*} [SerialPort π] [Pn532Device δ]

omit [Pn532Device δ] in
/-- The bytes waited for arrive two turns of the wait before its timeout, or earlier. -/
structure Expected (I : π → Prop) (turn : ℕ) (p : π) (timeoutMs : ℕ) : Prop where
  holds : I p
  arrives : ∃ arrival, Arriving I arrival turn ∧
    arrival + 2 * turn ≤ (SerialPort.now p).1 + fromMillis timeoutMs

theorem Expected.found {I : π → Prop} {turn : ℕ} {p : π} {timeoutMs : ℕ}
    (e : Expected I turn p timeoutMs) (hturn : 2 * turn < fromMillis timeoutMs) :
    ∃ q, waitSerialReady p timeoutMs = (.ok true, q) ∧ I q := by
  obtain ⟨arrival, a, harrival⟩ := e.arrives
  exact a.found e.holds hturn harrival

namespace Linked
variable {L : π → δ → Prop} {turn : ℕ}

end Linked

/-- A PN532 that answers every command, in the order of the payloads, on a clock that it does not
move. -/
structure PromptChip where
  answers : List (List UInt8)
  clock : ℕ

instance : Pn532Device PromptChip where
  now d := (d.clock, d)
  process d _ _ := (.ok (), d)
  processDynamicResponse d _ _ := (.ok (d.answers.headD [0x00]), { d with answers := d.answers.tail })

def ackFrame : List UInt8 := [0x00, 0x00, 0xff, 0x00, 0xff, 0x00]

/-- The port that it is on, with the bytes that are there to be read. -/
structure PromptPort where
  chip : PromptChip
  line : List UInt8

instance : SerialPort PromptPort where
  now p := (p.chip.clock, p)
  sleep p duration := { p with chip := { p.chip with clock := p.chip.clock + duration } }
  bytesToRead p := (.ok p.line.length, p)
  send p request :=
    (.ok (), ⟨{ p.chip with answers := p.chip.answers.tail },
      p.line ++ ackFrame ++ encodeNormal (request.command + 1) (p.chip.answers.headD [0x00])⟩)
  receiveAck p :=
    (if p.line.take 6 = ackFrame then .ok () else .error .badAck, { p with line := p.line.drop 6 })
  process p _ _ := (.ok (), p)
  incoming p := p.line
  readError _ := "Operation timed out"
  leave p unread := { p with line := unread }
  clock p := p.chip.clock
  clock_le_now _ := Nat.le_refl _
  now_le_clock _ := Nat.le_refl _
  clock_le_bytesToRead _ := Nat.le_refl _
  clock_le_sleep _ _ := Nat.le_refl _

end VirtualCcid.Nfc
