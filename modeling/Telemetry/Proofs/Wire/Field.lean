import Mathlib
import Telemetry.Wire.Field

/-!
# Reading written fields back

`Field.parse?` undoes `Field.encodeAll` on the fields that messages are made of: those with a number
that keys can tell, and of one of the three forms that are written (`Field.IsPlain`). What bytes are
inside a field does not matter, but their length stands in a word, so the fields together must not
be longer than words can tell (`Fits`). Parts of fields that fit do so as well, nested fields
included (`Fits.left`, `Fits.right`, `Fits.nested`).

**Messages.** Reading a message takes one field after the other into a state, and a field that was
left out leaves the state as it is. `Carries merge fields a b` says that the fields are plain and,
if they fit, that reading them takes the state `a` to the state `b`. It is put together one group of
fields at a time, each by the lemma for its type (`Carries.word`, `Carries.double`, `Carries.name`
and so on), and ends in `Carries.merge_parse?`: the bytes of the fields take `a` to `b` as well.
-/

namespace Telemetry.Wire

/-! ### Numbers and their bytes -/

@[simp] theorem length_littleEndian (k n : Nat) : (littleEndian k n).length = k := by
  induction k generalizing n with
  | zero => rfl
  | succ k ih => rw [littleEndian, List.length_cons, ih]

/-- A number is read back from its bytes, the lowest first, if there are enough of them. -/
theorem ofLittleEndian_littleEndian (k : Nat) {n : Nat} (h : n < 256 ^ k) :
    ofLittleEndian (littleEndian k n) = n := by
  induction k generalizing n with
  | zero =>
    have hn : n = 0 := by simpa using h
    rw [hn]
    rfl
  | succ k ih =>
    have hlater : n / 256 < 256 ^ k := by
      rw [Nat.div_lt_iff_lt_mul (by decide)]
      rwa [pow_succ] at h
    have hbyte : n.toUInt8.toNat = n % 256 := rfl
    rw [littleEndian, ofLittleEndian, ih hlater, hbyte]
    omega

theorem takeBytes?_append (b rest : List UInt8) :
    takeBytes? b.length (b ++ rest) = some (b, rest) := by
  rw [takeBytes?, if_pos (by simp), List.take_left, List.drop_left]

theorem writeNat_ne_nil (n : Nat) : Varint.writeNat n ≠ [] := by
  rw [Varint.writeNat]
  split <;> exact List.cons_ne_nil _ _

/-- A number that is a word is read back. -/
theorem read?_writeNat {n : Nat} (h : n < 2 ^ 64) (rest : List UInt8) :
    Varint.read? (Varint.writeNat n ++ rest) = some (n.toUInt64, rest) := by
  rw [Varint.read?, Varint.readNat?_writeNat 9 n h rest]
  rfl

theorem toNat_toUInt64 {n : Nat} (h : n < 2 ^ 64) : n.toUInt64.toNat = n := by
  show n % 2 ^ 64 = n
  exact Nat.mod_eq_of_lt h

/-- **A key is read back**: the number of the field, and the form of its value. -/
theorem readKey?_writeKey {number : Nat} (hpos : 0 < number) (hlt : number < 2 ^ 29) (form : Form)
    (rest : List UInt8) : readKey? (writeKey number form ++ rest) = some (number, form, rest) := by
  have hform := form.code_lt
  have hkey : (number * 8 + form.code).toUInt64.toNat = number * 8 + form.code :=
    toNat_toUInt64 (by omega)
  have hcode : (number * 8 + form.code) % 8 = form.code := by omega
  have hnumber : (number * 8 + form.code) / 8 = number := by omega
  have hbound : number * 8 + form.code < Nat.pow 2 32 := by
    show number * 8 + form.code < 2 ^ 32
    omega
  rw [readKey?, writeKey, read?_writeNat (by omega)]
  simp only [Option.bind_eq_bind, Option.bind_some, hkey, hcode, hnumber, Form.ofCode?_code]
  rw [if_pos hbound, if_neg (by omega)]

theorem readBytes?_written {b : List UInt8} (h : b.length < 2 ^ 64) (rest : List UInt8) :
    readBytes? (Varint.writeNat b.length ++ b ++ rest) = some (b, rest) := by
  rw [readBytes?, List.append_assoc, read?_writeNat h]
  simp only [Option.bind_eq_bind, Option.bind_some, toNat_toUInt64 h]
  exact takeBytes?_append b rest

namespace Field

/-! ### One field -/

/-- A number that keys can tell. -/
def IsNumber (number : Nat) : Prop :=
  0 < number ∧ number < 2 ^ 29

instance (number : Nat) : Decidable (IsNumber number) :=
  inferInstanceAs (Decidable (_ ∧ _))

/-- The field has a number that keys can tell and one of the forms that messages use. -/
def IsPlain (f : Field) : Prop :=
  IsNumber f.number ∧
    match f.value with
    | .word _ | .eight _ | .bytes _ => True
    | .four _ | .group => False

/-- A plain field is not written as nothing. -/
theorem encode_ne_nil {f : Field} (h : f.IsPlain) : f.encode ≠ [] := by
  obtain ⟨number, value⟩ := f
  have hkey : ∀ (form : Form) (b : List UInt8), writeKey number form ++ b ≠ [] := fun form b ↦
    List.append_ne_nil_of_left_ne_nil (writeNat_ne_nil _) b
  cases value with
  | word n => exact hkey _ _
  | eight n => exact hkey _ _
  | bytes b =>
    show writeKey number .bytes ++ Varint.writeNat b.length ++ b ≠ []
    rw [List.append_assoc]
    exact hkey _ _
  | four b => exact h.2.elim
  | group => exact h.2.elim

/-- The bytes inside a field are fewer than those of the field. -/
theorem length_le_encode (number : Nat) (b : List UInt8) :
    b.length ≤ (encode ⟨number, .bytes b⟩).length := by
  simp only [encode, List.length_append]
  omega

/-- **A field is read back**, whatever follows. -/
theorem read_encode {f : Field} (h : f.IsPlain) (hlength : f.encode.length < 2 ^ 64) (limit : Nat)
    (rest : List UInt8) :
    ∃ form behind, readKey? (f.encode ++ rest) = some (f.number, form, behind) ∧
      readValue? limit f.number form behind = some (f.value, rest) := by
  obtain ⟨number, value⟩ := f
  obtain ⟨⟨hpos, hlt⟩, hvalue⟩ := h
  cases value with
  | word n =>
    refine ⟨.word, Varint.write n ++ rest, ?_, ?_⟩
    · rw [encode, List.append_assoc]
      exact readKey?_writeKey hpos hlt _ _
    · rw [readValue?, Varint.read?_write]
      rfl
  | eight n =>
    refine ⟨.eight, littleEndian 8 n.toNat ++ rest, ?_, ?_⟩
    · rw [encode, List.append_assoc]
      exact readKey?_writeKey hpos hlt _ _
    · have htake := takeBytes?_append (littleEndian 8 n.toNat) rest
      rw [length_littleEndian] at htake
      rw [readValue?, htake, Option.map_some, ofLittleEndian_littleEndian 8 n.toNat_lt]
      simp
  | bytes b =>
    have hb := Nat.lt_of_le_of_lt (length_le_encode number b) hlength
    refine ⟨.bytes, Varint.writeNat b.length ++ b ++ rest, ?_, ?_⟩
    · rw [encode, List.append_assoc, List.append_assoc, List.append_assoc]
      exact readKey?_writeKey hpos hlt _ _
    · rw [readValue?, readBytes?_written hb]
      rfl
  | four b => exact hvalue.elim
  | group => exact hvalue.elim

/-! ### Fields one after another -/

theorem encodeAll_cons (f : Field) (fields : List Field) :
    encodeAll (f :: fields) = f.encode ++ encodeAll fields :=
  List.flatMap_cons

/-- The fields are together no longer than a word can tell. -/
def Fits (fields : List Field) : Prop :=
  (encodeAll fields).length < 2 ^ 64

theorem encodeAll_append (fields more : List Field) :
    encodeAll (fields ++ more) = encodeAll fields ++ encodeAll more :=
  List.flatMap_append

theorem Fits.left {fields more : List Field} (h : Fits (fields ++ more)) : Fits fields := by
  rw [Fits, encodeAll_append, List.length_append] at h
  exact Nat.lt_of_le_of_lt (Nat.le_add_right _ _) h

theorem Fits.right {fields more : List Field} (h : Fits (fields ++ more)) : Fits more := by
  rw [Fits, encodeAll_append, List.length_append] at h
  exact Nat.lt_of_le_of_lt (Nat.le_add_left _ _) h

/-- The fields inside a field are shorter than it. -/
theorem Fits.nested {nested : List Field} {number : Nat} (h : Fits [ofMessage number nested]) :
    Fits nested := by
  have hle := length_le_encode number (encodeAll nested)
  rw [Fits, encodeAll_cons, List.length_append] at h
  exact Nat.lt_of_le_of_lt (hle.trans (Nat.le_add_right _ _)) h

/-- **Fields are read back**, to the end of the bytes. -/
theorem parse?_encodeAll {fields : List Field} (hplain : ∀ f ∈ fields, f.IsPlain)
    (hfits : Fits fields) (limit : Nat) : parse? limit (encodeAll fields) = some fields := by
  suffices h : ∀ fuel, (encodeAll fields).length ≤ fuel →
      parseFrom? limit fuel (encodeAll fields) = some fields from h _ le_rfl
  induction fields with
  | nil =>
    intro fuel _
    cases fuel <;> rfl
  | cons f fields ih =>
    intro fuel hfuel
    have hf := hplain f List.mem_cons_self
    obtain ⟨b, behind, hb⟩ := List.exists_cons_of_ne_nil (encode_ne_nil hf)
    rw [Fits] at hfits
    rw [encodeAll_cons, List.length_append] at hfuel hfits
    -- the field takes at least one byte, and so a unit of fuel
    have hpos : 0 < f.encode.length := by
      rw [hb]
      exact Nat.succ_pos _
    obtain ⟨fuel, rfl⟩ : ∃ k, fuel = k + 1 := ⟨fuel - 1, by omega⟩
    obtain ⟨form, value, hkey, hvalue⟩ :=
      read_encode hf (by omega) limit (encodeAll fields)
    have hrest := ih (fun g hg ↦ hplain g (List.mem_cons_of_mem _ hg)) (by rw [Fits]; omega) fuel
      (by omega)
    have hne : f.encode ++ encodeAll fields ≠ [] := by simp [hb]
    rw [encodeAll_cons, parseFrom?.eq_3 _ _ _ hne, hkey]
    simp only [Option.bind_eq_bind, Option.bind_some, hvalue, hrest]
    rfl

/-! ### Values in fields -/

@[simp] theorem text?_ofText (number : Nat) (s : String) : (ofText number s).text? = some s := by
  have hbytes : (ofText number s).bytes? = some s.toByteArray.data.toList := rfl
  rw [text?, hbytes, Option.bind_some, Array.toArray_toList]
  exact dif_pos s.isValidUTF8

/-- The lower half of a widened code is the code. -/
theorem toInt32_widened (n : Int32) : n.toInt64.toUInt64.toUInt32.toInt32 = n := by
  apply Int32.toBitVec_inj.1
  show (n.toBitVec.signExtend 64).setWidth 32 = n.toBitVec
  ext i hi
  have hwide : i < 64 := by omega
  simp [BitVec.getElem_signExtend, hi, hwide]

/-! ### Messages -/

/-- The fields are plain and, if they fit, reading them one after another takes the state `a` to
`b`. -/
structure Carries {α : Type} (merge : α → Field → Option α) (fields : List Field) (a b : α) :
    Prop where
  plain : ∀ f ∈ fields, f.IsPlain
  reads : Fits fields → fields.foldlM merge a = some b

namespace Carries

variable {α β : Type} {merge : α → Field → Option α} {fields : List Field} {a b c : α}

theorem nil (merge : α → Field → Option α) (a : α) : Carries merge [] a a :=
  ⟨fun _ hf ↦ absurd hf List.not_mem_nil, fun _ ↦ rfl⟩

/-- Fields that carry one thing and fields that carry on from there carry both. -/
theorem append {more : List Field} (h : Carries merge fields a b) (h' : Carries merge more b c) :
    Carries merge (fields ++ more) a c := by
  refine ⟨fun f hf ↦ ?_, fun hfits ↦ ?_⟩
  · rcases List.mem_append.1 hf with hf | hf
    · exact h.plain f hf
    · exact h'.plain f hf
  · rw [List.foldlM_append, h.reads hfits.left]
    exact h'.reads hfits.right

/-- A single field carries what merging it says. -/
theorem singleton {f : Field} (hf : f.IsPlain) (hmerge : Fits [f] → merge a f = some b) :
    Carries merge [f] a b := by
  refine ⟨fun g hg ↦ ?_, fun hfits ↦ ?_⟩
  · rw [List.mem_singleton.1 hg]
    exact hf
  · rw [List.foldlM_cons, hmerge hfits]
    rfl

/-- **Bytes of fields are read as the fields are.** -/
theorem merge_parse? (h : Carries merge fields a b) (hfits : Fits fields) (limit : Nat) :
    ((parse? limit (encodeAll fields)).bind fun fs ↦ fs.foldlM merge a) = some b := by
  rw [parse?_encodeAll h.plain hfits]
  exact h.reads hfits

/-! Each kind of field is put behind the fields before it. What a field does to the state is a
function `set` of what was read from it, as `hset` says, and `hskip` says that the value which is
left out is the one that the state has anyway. -/

section Kinds

variable {number : Nat}

/-- A word is carried by a field of its own, or by none if it is zero. -/
theorem word (h : Carries merge fields a b) (hnumber : IsNumber number) (n : UInt64)
    (set : α → UInt64 → α) (hskip : set b 0 = b)
    (hset : ∀ v, merge b ⟨number, v⟩ = (word? ⟨number, v⟩).map (set b)) :
    Carries merge (fields ++ ofWord number n) a (set b n) := by
  refine h.append ?_
  unfold ofWord
  split
  · next hn =>
    rw [hn, hskip]
    exact .nil _ _
  · exact .singleton ⟨hnumber, trivial⟩ fun _ ↦ hset _

/-- A code is carried by a field of its own, or by none if it is zero. -/
theorem code (h : Carries merge fields a b) (hnumber : IsNumber number) (n : Int32)
    (set : α → Int32 → α) (hskip : set b 0 = b)
    (hset : ∀ v, merge b ⟨number, v⟩ = (code? ⟨number, v⟩).map (set b)) :
    Carries merge (fields ++ ofCode number n) a (set b n) := by
  have hword := h.word hnumber n.toInt64.toUInt64 (fun s w ↦ set s w.toUInt32.toInt32) hskip
    fun v ↦ by
      rw [hset, code?, Option.map_map]
      rfl
  rwa [toInt32_widened] at hword

/-- A zero of either sign is left out, so that it comes back without a sign. -/
theorem double (h : Carries merge fields a b) (hnumber : IsNumber number) (d : Double)
    (set : α → Double → α) (hskip : set b {} = b)
    (hset : ∀ v, merge b ⟨number, v⟩ = (double? ⟨number, v⟩).map (set b)) :
    Carries merge (fields ++ ofDouble number d) a (set b d.unsignedZero) := by
  refine h.append ?_
  unfold ofDouble Double.unsignedZero
  split
  · rw [hskip]
    exact .nil _ _
  · exact .singleton ⟨hnumber, trivial⟩ fun _ ↦ hset _

/-- A text is carried by a field of its own, or by none if it is empty. -/
theorem name (h : Carries merge fields a b) (hnumber : IsNumber number) (s : String)
    (set : α → String → α) (hskip : set b "" = b)
    (hset : ∀ v, merge b ⟨number, v⟩ = (text? ⟨number, v⟩).map (set b)) :
    Carries merge (fields ++ ofName number s) a (set b s) := by
  refine h.append ?_
  unfold ofName
  split
  · next hs =>
    rw [String.isEmpty_iff.1 hs, hskip]
    exact .nil _ _
  · refine .singleton ⟨hnumber, trivial⟩ fun _ ↦ ?_
    have hread := text?_ofText number s
    rw [ofText, hset, ← ofText, hread, Option.map_some]

/-- What may be absent is written whenever it is present. -/
theorem optional (h : Carries merge fields a b) (o : Option β) (toField : β → Field)
    (set : α → Option β → α) (hskip : set b none = b)
    (hset : ∀ x, (toField x).IsPlain ∧
      (Fits [toField x] → merge b (toField x) = some (set b (some x)))) :
    Carries merge (fields ++ o.toList.map toField) a (set b o) := by
  refine h.append ?_
  cases o with
  | none =>
    rw [hskip]
    exact .nil _ _
  | some x =>
    obtain ⟨hplain, hmerge⟩ := hset x
    exact .singleton hplain hmerge

/-- A text that may be absent is carried by a field if it is there. -/
theorem text (h : Carries merge fields a b) (hnumber : IsNumber number) (o : Option String)
    (set : α → Option String → α) (hskip : set b none = b)
    (hset : ∀ v, merge b ⟨number, v⟩ = (text? ⟨number, v⟩).map fun s ↦ set b (some s)) :
    Carries merge (fields ++ ofText? number o) a (set b o) := by
  refine h.optional o (ofText number) set hskip fun s ↦ ⟨⟨hnumber, trivial⟩, fun _ ↦ ?_⟩
  have hread := text?_ofText number s
  rw [ofText, hset, ← ofText, hread, Option.map_some]

/-- A list is written element by element, and every element read is put behind those before. -/
theorem repeated (h : Carries merge fields a b) (l : List β) (toField : β → Field) (norm : β → β)
    (set : α → List β → α) (hskip : set b [] = b)
    (hset : ∀ x, (toField x).IsPlain ∧ (Fits [toField x] →
      ∀ done, merge (set b done) (toField x) = some (set b (done ++ [norm x])))) :
    Carries merge (fields ++ l.map toField) a (set b (l.map norm)) := by
  refine h.append ?_
  suffices hall : ∀ done, Carries merge (l.map toField) (set b done) (set b (done ++ l.map norm)) by
    have hfrom := hall []
    rwa [hskip] at hfrom
  induction l with
  | nil =>
    intro done
    rw [List.map_nil, List.map_nil, List.append_nil]
    exact .nil _ _
  | cons x l ih =>
    intro done
    obtain ⟨hplain, hmerge⟩ := hset x
    have hrest := ih (done ++ [norm x])
    rw [List.append_assoc] at hrest
    exact append (.singleton hplain fun hfits ↦ hmerge hfits done) hrest

end Kinds

end Carries

end Field

end Telemetry.Wire
