import Mathlib
import Telemetry.Base64

/-!
# Reading printable text gives the bytes back

`Base64.decode?` reads exactly what `Base64.encode` writes (`decode?_eq_some_iff`): the bytes behind a
printable form are those that were written, and no other text stands for them, neither one that is
filled up otherwise nor one with something in the bits that the filling hides.

Both directions go by groups. Four values below sixty-four are three bytes (`encodeChars_group`,
`decodeChars?_group`), and a last group of two or one bytes has its hidden bits at zero. Digits and
values correspond (`value?_digit`, `digit_of_value?`), and the sign that fills a group up is no digit.
-/

namespace Telemetry.Base64

/-! ### Digits -/

/-- The value of a digit is the number that it stands for. -/
theorem value?_digit {n : Nat} (h : n < 64) : value? (digit n) = some n := by
  revert n
  decide

/-- What has a value is the digit of that number, which is one of 64. The alphabet has five
stretches, which are gone through in turn. -/
theorem digit_of_value? {c : Char} {n : Nat} (h : value? c = some n) : n < 64 ∧ digit n = c := by
  have hle (a b : Char) : a ≤ b ↔ a.toNat ≤ b.toNat := Iff.rfl
  have hback {k : Nat} (hk : k ≤ c.toNat) : Char.ofNat (c.toNat - k + k) = c := by
    rw [Nat.sub_add_cancel hk, Char.ofNat_toNat]
  simp only [value?, hle, Char.reduceToNat] at h
  split_ifs at h with hupper hlower hnumber hplus hslash <;> obtain rfl := Option.some.inj h
  · refine ⟨by omega, ?_⟩
    rw [digit, if_pos (by omega)]
    exact hback hupper.1
  · refine ⟨by omega, ?_⟩
    rw [digit, if_neg (by omega), if_pos (by omega), Nat.add_sub_cancel]
    exact hback hlower.1
  · refine ⟨by omega, ?_⟩
    rw [digit, if_neg (by omega), if_neg (by omega), if_pos (by omega), Nat.add_sub_cancel]
    exact hback hnumber.1
  · exact ⟨by decide, hplus.symm⟩
  · exact ⟨by decide, hslash.symm⟩

/-- No digit is the sign that fills up. -/
theorem digit_ne_filling {n : Nat} (h : n < 64) : digit n ≠ '=' := by
  intro hfilling
  have hvalue := value?_digit h
  rw [hfilling] at hvalue
  contradiction

/-- Digits are printable. -/
theorem digit_visible {n : Nat} (h : n < 64) : '!' ≤ digit n ∧ digit n ≤ '~' := by
  revert n
  decide

/-! ### Groups -/

section Group

variable {x y z w : Nat}

/-- Three bytes are written as the values that they are made of. -/
theorem encodeChars_group (hx : x < 64) (hy : y < 64) (hz : z < 64) (hw : w < 64)
    (rest : List UInt8) :
    encodeChars ((x * 4 + y / 16).toUInt8 :: (y % 16 * 16 + z / 4).toUInt8 ::
        (z % 4 * 64 + w).toUInt8 :: rest) =
      digit x :: digit y :: digit z :: digit w :: encodeChars rest := by
  rw [encodeChars, UInt8.toNat_ofNat_of_lt' (show x * 4 + y / 16 < 256 by omega),
    UInt8.toNat_ofNat_of_lt' (show y % 16 * 16 + z / 4 < 256 by omega),
    UInt8.toNat_ofNat_of_lt' (show z % 4 * 64 + w < 256 by omega),
    show (x * 4 + y / 16) / 4 = x by omega,
    show (x * 4 + y / 16) % 4 * 16 + (y % 16 * 16 + z / 4) / 16 = y by omega,
    show (y % 16 * 16 + z / 4) % 16 * 4 + (z % 4 * 64 + w) / 64 = z by omega,
    show (z % 4 * 64 + w) % 64 = w by omega]

/-- Two bytes make three digits and one sign that fills up. -/
theorem encodeChars_two (hx : x < 64) (hy : y < 64) (hz : z < 64) (hhidden : z % 4 = 0) :
    encodeChars [(x * 4 + y / 16).toUInt8, (y % 16 * 16 + z / 4).toUInt8] =
      [digit x, digit y, digit z, '='] := by
  rw [encodeChars, UInt8.toNat_ofNat_of_lt' (show x * 4 + y / 16 < 256 by omega),
    UInt8.toNat_ofNat_of_lt' (show y % 16 * 16 + z / 4 < 256 by omega),
    show (x * 4 + y / 16) / 4 = x by omega,
    show (x * 4 + y / 16) % 4 * 16 + (y % 16 * 16 + z / 4) / 16 = y by omega,
    show (y % 16 * 16 + z / 4) % 16 * 4 = z by omega]

/-- One byte makes two digits and two such signs. -/
theorem encodeChars_one (hx : x < 64) (hy : y < 64) (hhidden : y % 16 = 0) :
    encodeChars [(x * 4 + y / 16).toUInt8] = [digit x, digit y, '=', '='] := by
  rw [encodeChars, UInt8.toNat_ofNat_of_lt' (show x * 4 + y / 16 < 256 by omega),
    show (x * 4 + y / 16) / 4 = x by omega, show (x * 4 + y / 16) % 4 * 16 = y by omega]

/-- Four digits are read as the bytes that their values make. -/
theorem decodeChars?_group (hx : x < 64) (hy : y < 64) (hz : z < 64) (hw : w < 64)
    (rest : List Char) :
    decodeChars? (digit x :: digit y :: digit z :: digit w :: rest) =
      (decodeChars? rest).map fun bytes ↦ (x * 4 + y / 16).toUInt8 ::
        (y % 16 * 16 + z / 4).toUInt8 :: (z % 4 * 64 + w).toUInt8 :: bytes := by
  have hfilling := digit_ne_filling hw
  rw [decodeChars?, value?_digit hx, value?_digit hy, value?_digit hz, value?_digit hw]
  · cases decodeChars? rest <;> rfl
  · exact fun _ h _ ↦ hfilling h
  · exact fun h _ ↦ hfilling h

/-- Three digits and a sign that fills up stand for two bytes, if no bit is hidden in the last
digit. -/
theorem decodeChars?_two (hx : x < 64) (hy : y < 64) (hz : z < 64) (hhidden : z % 4 = 0) :
    decodeChars? [digit x, digit y, digit z, '='] =
      some [(x * 4 + y / 16).toUInt8, (y % 16 * 16 + z / 4).toUInt8] := by
  rw [decodeChars?, value?_digit hx, value?_digit hy, value?_digit hz]
  · exact if_pos hhidden
  · exact digit_ne_filling hz

/-- Two digits and two such signs stand for one byte, likewise. -/
theorem decodeChars?_one (hx : x < 64) (hy : y < 64) (hhidden : y % 16 = 0) :
    decodeChars? [digit x, digit y, '=', '='] = some [(x * 4 + y / 16).toUInt8] := by
  rw [decodeChars?, value?_digit hx, value?_digit hy]
  exact if_pos hhidden

end Group

/-! ### All bytes -/

/-- **Bytes are read back from their digits.** Three bytes at a time make a group of four digits,
and what is left at the end is none, one or two bytes. -/
theorem decodeChars?_encodeChars (bytes : List UInt8) :
    decodeChars? (encodeChars bytes) = some bytes := by
  have hbyte {n : Nat} {a : UInt8} (h : n = a.toNat) : n.toUInt8 = a := by
    rw [h]
    exact UInt8.ofNat_toNat
  fun_induction encodeChars bytes with
  | case1 a b c rest ih =>
    have ha := a.toNat_lt
    have hb := b.toNat_lt
    have hc := c.toNat_lt
    rw [decodeChars?_group (by omega) (by omega) (by omega) (by omega), ih, Option.map_some,
      hbyte (a := a) (by omega), hbyte (a := b) (by omega), hbyte (a := c) (by omega)]
  | case2 a b =>
    have ha := a.toNat_lt
    have hb := b.toNat_lt
    rw [decodeChars?_two (by omega) (by omega) (by omega) (by omega), hbyte (a := a) (by omega),
      hbyte (a := b) (by omega)]
  | case3 a =>
    have ha := a.toNat_lt
    rw [decodeChars?_one (by omega) (by omega) (by omega), hbyte (a := a) (by omega)]
  | case4 => rfl

/-- The bytes that characters stand for are written as these characters. -/
theorem encodeChars_of_decodeChars? {cs : List Char} {bytes : List UInt8}
    (h : decodeChars? cs = some bytes) : encodeChars bytes = cs := by
  fun_induction decodeChars? cs generalizing bytes with
  | case1 => rw [← Option.some.inj h, encodeChars]
  | case2 a b =>
    simp only [Option.bind_eq_bind, Option.bind_eq_some_iff, Option.ite_none_right_eq_some] at h
    obtain ⟨x, ha, y, hb, hhidden, h⟩ := h
    obtain rfl := Option.some.inj h
    obtain ⟨hx, rfl⟩ := digit_of_value? ha
    obtain ⟨hy, rfl⟩ := digit_of_value? hb
    exact encodeChars_one hx hy hhidden
  | case3 a b c =>
    simp only [Option.bind_eq_bind, Option.bind_eq_some_iff, Option.ite_none_right_eq_some] at h
    obtain ⟨x, ha, y, hb, z, hc, hhidden, h⟩ := h
    obtain rfl := Option.some.inj h
    obtain ⟨hx, rfl⟩ := digit_of_value? ha
    obtain ⟨hy, rfl⟩ := digit_of_value? hb
    obtain ⟨hz, rfl⟩ := digit_of_value? hc
    exact encodeChars_two hx hy hz hhidden
  | case4 a b c d rest _ _ ih =>
    simp only [Option.bind_eq_bind, Option.bind_eq_some_iff] at h
    obtain ⟨x, ha, y, hb, z, hc, w, hd, bytes', hrest, h⟩ := h
    obtain rfl := Option.some.inj h
    obtain ⟨hx, rfl⟩ := digit_of_value? ha
    obtain ⟨hy, rfl⟩ := digit_of_value? hb
    obtain ⟨hz, rfl⟩ := digit_of_value? hc
    obtain ⟨hw, rfl⟩ := digit_of_value? hd
    rw [encodeChars_group hx hy hz hw, ih hrest]
  | case5 => cases h

/-- **A text is read as bytes if and only if it is what they are written as.** -/
theorem decode?_eq_some_iff {s : String} {bytes : List UInt8} :
    decode? s = some bytes ↔ s = encode bytes := by
  constructor
  · intro h
    rw [encode, encodeChars_of_decodeChars? h, String.ofList_toList]
  · rintro rfl
    rw [decode?, encode, String.toList_ofList, decodeChars?_encodeChars]

/-- Nothing but digits and filling is written. -/
theorem forall_mem_encodeChars {p : Char → Prop} (hdigit : ∀ n < 64, p (digit n))
    (hfilling : p '=') (bytes : List UInt8) : ∀ c ∈ encodeChars bytes, p c := by
  fun_induction encodeChars bytes with
  | case1 a b c rest ih =>
    have ha := a.toNat_lt
    have hb := b.toNat_lt
    have hc := c.toNat_lt
    simp only [List.forall_mem_cons]
    exact ⟨hdigit _ (by omega), hdigit _ (by omega), hdigit _ (by omega), hdigit _ (by omega), ih⟩
  | case2 a b =>
    have ha := a.toNat_lt
    have hb := b.toNat_lt
    simp only [List.forall_mem_cons]
    exact ⟨hdigit _ (by omega), hdigit _ (by omega), hdigit _ (by omega), hfilling, nofun⟩
  | case3 a =>
    have ha := a.toNat_lt
    simp only [List.forall_mem_cons]
    exact ⟨hdigit _ (by omega), hdigit _ (by omega), hfilling, hfilling, nofun⟩
  | case4 => exact nofun

/-- **A printable form is printable**: there are no blanks in it, no control characters and nothing
beyond ASCII. -/
theorem visible_of_mem_encode {bytes : List UInt8} {c : Char} (hc : c ∈ (encode bytes).toList) :
    '!' ≤ c ∧ c ≤ '~' := by
  rw [encode, String.toList_ofList] at hc
  exact forall_mem_encodeChars (p := fun c ↦ '!' ≤ c ∧ c ≤ '~') (fun _ ↦ digit_visible) (by decide)
    bytes c hc

end Telemetry.Base64
