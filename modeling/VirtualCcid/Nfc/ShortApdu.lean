import VirtualCcid.Nfc.Dummy

/-! The short forms of a command APDU, and which byte strings the dummy card takes for one. -/
namespace VirtualCcid.Nfc

/-- The four short forms, by the header, the command data and the bytes. -/
inductive IsShortApdu (cla ins p1 p2 : UInt8) : List UInt8 → List UInt8 → Prop
  | bare : IsShortApdu cla ins p1 p2 [] [cla, ins, p1, p2]
  | expecting (le : UInt8) : IsShortApdu cla ins p1 p2 [] [cla, ins, p1, p2, le]
  | carrying {lc : UInt8} {data : List UInt8} : lc ≠ 0 → data.length = lc.toNat →
      IsShortApdu cla ins p1 p2 data (cla :: ins :: p1 :: p2 :: lc :: data)
  | exchanging {lc : UInt8} {data : List UInt8} (le : UInt8) : lc ≠ 0 → data.length = lc.toNat →
      IsShortApdu cla ins p1 p2 data (cla :: ins :: p1 :: p2 :: lc :: (data ++ [le]))

/-- More than Le follows the data that Lc announces, or anything follows an Lc of zero. -/
def HasSurplus : List UInt8 → Prop
  | _ :: _ :: _ :: _ :: lc :: rest => if lc = 0 then rest ≠ [] else lc.toNat + 1 < rest.length
  | _ => False

instance : DecidablePred HasSurplus
  | _ :: _ :: _ :: _ :: lc :: rest =>
    inferInstanceAs (Decidable (if lc = 0 then rest ≠ [] else lc.toNat + 1 < rest.length))
  | [] | [_] | [_, _] | [_, _, _] | [_, _, _, _] => isFalse id

namespace DummyReader
variable {cla ins p1 p2 : UInt8}

theorem parseShortApdu_body (cla ins p1 p2 lc : UInt8) {rest : List UInt8} (h : rest ≠ []) :
    parseShortApdu (cla :: ins :: p1 :: p2 :: lc :: rest) =
      if rest.length < lc.toNat then none else some (cla, ins, p1, p2, rest.take lc.toNat) := by
  obtain ⟨b, rest, rfl⟩ := List.exists_cons_of_ne_nil h
  have hlong : ¬ (cla :: ins :: p1 :: p2 :: lc :: b :: rest).length < 4 := by
    simp only [List.length_cons]
    omega
  have hcount : (lc :: b :: rest).length < 1 + lc.toNat ↔ (b :: rest).length < lc.toNat := by
    simp only [List.length_cons]
    omega
  unfold parseShortApdu
  rw [dif_neg hlong]
  show (if (lc :: b :: rest).length < 1 + lc.toNat then none else _) = _
  simp only [hcount]
  rfl

theorem toNat_pos_of_ne_zero {lc : UInt8} (h : lc ≠ 0) : 0 < lc.toNat := by
  have hne : lc.toNat ≠ 0 := fun h0 => h (UInt8.toNat_inj.mp h0)
  omega

theorem parseShortApdu_of_short {data a : List UInt8} (h : IsShortApdu cla ins p1 p2 data a) :
    parseShortApdu a = some (cla, ins, p1, p2, data) := by
  cases h with
  | bare => rfl
  | expecting le => rfl
  | @carrying lc _ hlc hlen =>
    have hpos := toNat_pos_of_ne_zero hlc
    have hne : data ≠ [] := List.ne_nil_of_length_pos (by omega)
    rw [parseShortApdu_body cla ins p1 p2 lc hne, if_neg (by omega),
      List.take_of_length_le (by omega)]
  | @exchanging lc _ le hlc hlen =>
    have hne : data ++ [le] ≠ [] := by simp
    have hlong : ¬ (data ++ [le]).length < lc.toNat := by
      rw [List.length_append]
      omega
    rw [parseShortApdu_body cla ins p1 p2 lc hne, if_neg hlong, ← hlen, List.take_left]

/-- Behind a header, Lc and at least one byte there is a short form exactly when the bytes are the
data and possibly Le. -/
theorem short_of_lengths {lc : UInt8} {rest : List UInt8} (hlc : lc ≠ 0)
    (hdata : lc.toNat ≤ rest.length) (hle : rest.length ≤ lc.toNat + 1) :
    IsShortApdu cla ins p1 p2 (rest.take lc.toNat) (cla :: ins :: p1 :: p2 :: lc :: rest) := by
  rcases Nat.lt_or_ge lc.toNat rest.length with hlong | hshort
  · obtain ⟨le, hdrop⟩ : ∃ le, rest.drop lc.toNat = [le] := by
      apply List.length_eq_one_iff.mp
      rw [List.length_drop]
      omega
    have hsplit : rest.take lc.toNat ++ [le] = rest := by
      rw [← hdrop]
      exact List.take_append_drop lc.toNat rest
    have hform : IsShortApdu cla ins p1 p2 (rest.take lc.toNat)
        (cla :: ins :: p1 :: p2 :: lc :: (rest.take lc.toNat ++ [le])) :=
      IsShortApdu.exchanging le hlc (List.length_take_of_le hdata)
    rwa [hsplit] at hform
  · rw [List.take_of_length_le hshort]
    exact IsShortApdu.carrying hlc (by omega)

theorem short_of_parseShortApdu {data a : List UInt8}
    (h : parseShortApdu a = some (cla, ins, p1, p2, data)) (hs : ¬ HasSurplus a) :
    IsShortApdu cla ins p1 p2 data a := by
  match a with
  | [] | [_] | [_, _] | [_, _, _] => cases h
  | [cla', ins', p1', p2'] =>
    cases h
    exact IsShortApdu.bare
  | [cla', ins', p1', p2', le] =>
    cases h
    exact IsShortApdu.expecting le
  | cla' :: ins' :: p1' :: p2' :: lc :: b :: rest =>
    rw [parseShortApdu_body cla' ins' p1' p2' lc (List.cons_ne_nil b rest)] at h
    split at h
    · cases h
    next hdata =>
    cases h
    have hlc : lc ≠ 0 := fun h0 => hs ((if_pos h0).mpr (List.cons_ne_nil b rest))
    have hle : ¬ lc.toNat + 1 < (b :: rest).length := fun hle => hs ((if_neg hlc).mpr hle)
    exact short_of_lengths hlc (by omega) (by omega)

theorem not_surplus_of_short {data a : List UInt8} (h : IsShortApdu cla ins p1 p2 data a) :
    ¬ HasSurplus a := by
  cases h with
  | bare => exact id
  | @expecting le =>
    by_cases hle : le = 0 <;> simp [HasSurplus, hle]
  | carrying hlc hlen =>
    intro hs
    have hlong := (if_neg hlc).mp hs
    omega
  | exchanging le hlc hlen =>
    intro hs
    have hlong := (if_neg hlc).mp hs
    rw [List.length_append] at hlong
    have hle : [le].length = 1 := rfl
    omega

theorem parseShortApdu_of_surplus {a : List UInt8} (h : HasSurplus a) :
    ∃ cla ins p1 p2 data, parseShortApdu a = some (cla, ins, p1, p2, data) := by
  match a with
  | [] | [_] | [_, _] | [_, _, _] | [_, _, _, _] => exact h.elim
  | cla :: ins :: p1 :: p2 :: lc :: rest =>
    have hrest : rest ≠ [] ∧ lc.toNat ≤ rest.length := by
      by_cases hlc : lc = 0
      · subst hlc
        have hne : rest ≠ [] := by simpa [HasSurplus] using h
        exact ⟨hne, Nat.zero_le _⟩
      · have hlong : lc.toNat + 1 < rest.length := (if_neg hlc).mp h
        exact ⟨List.ne_nil_of_length_pos (by omega), by omega⟩
    refine ⟨cla, ins, p1, p2, rest.take lc.toNat, ?_⟩
    rw [parseShortApdu_body cla ins p1 p2 lc hrest.1, if_neg (by omega)]

theorem handleApdu_unparsed {r : DummyReader} (hr : r.cardPresent = true) {a : List UInt8}
    (h : parseShortApdu a = none) : r.handleApdu a = (.ok swWrongLength, r) := by
  unfold handleApdu
  rw [hr, h]
  rfl

/-- A short APDU is parsed exactly, and other bytes are refused with the applet as it was. -/
def ParsesShortOnly (a : List UInt8) : Prop :=
  (∀ cla ins p1 p2 data,
      parseShortApdu a = some (cla, ins, p1, p2, data) ↔ IsShortApdu cla ins p1 p2 data a) ∧
    ((∀ cla ins p1 p2 data, ¬ IsShortApdu cla ins p1 p2 data a) →
      ∀ r : DummyReader, r.cardPresent = true → r.handleApdu a = (.ok swWrongLength, r))

/-- Only whether the data is there is checked, not where the APDU ends. -/
theorem parses_short_only_iff (a : List UInt8) : ParsesShortOnly a ↔ ¬ HasSurplus a := by
  constructor
  · intro ⟨hexact, _⟩ hs
    obtain ⟨cla, ins, p1, p2, data, hparsed⟩ := parseShortApdu_of_surplus hs
    have hshort := (hexact cla ins p1 p2 data).mp hparsed
    exact not_surplus_of_short hshort hs
  · intro hs
    refine ⟨fun cla ins p1 p2 data => ?_, fun hnone r hr => ?_⟩
    · exact ⟨fun h => short_of_parseShortApdu h hs, parseShortApdu_of_short⟩
    · apply handleApdu_unparsed hr
      rcases hparsed : parseShortApdu a with _ | ⟨cla, ins, p1, p2, data⟩
      · rfl
      · exact absurd (short_of_parseShortApdu hparsed hs) (hnone cla ins p1 p2 data)

/-- A SELECT of the applet with two bytes behind its data selects it. -/
theorem surplus_selects_applet :
    ¬ ∀ a, ParsesShortOnly a := by
  intro hall
  let a : List UInt8 := [0x00, 0xa4, 0x04, 0x00, 0x08] ++ fidoAid ++ [0x00, 0x00]
  have hs : HasSurplus a := by decide
  have hrefused := (hall a).2 fun _ _ _ _ _ hshort => not_surplus_of_short hshort hs
  have hselected : (opened.handleApdu a).2 = ⟨true, .fido⟩ := by decide
  rw [hrefused opened rfl] at hselected
  exact absurd hselected (by decide)

end DummyReader
end VirtualCcid.Nfc
