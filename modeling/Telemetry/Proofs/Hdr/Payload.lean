import Mathlib
import Telemetry.Hdr.Payload
import Telemetry.Proofs.Hdr.Sound

/-!
# Reading written counts back

`Payload.decode?` undoes `Payload.encode?`: what it reads from the written form of a sound histogram
are the digits of the layout and the count of every bin (`decode_encode`). The layers are undone
one by one:

* bytes of a number, the highest first (`ofBigEndian_bigEndian`);
* groups of seven bits and the sign in the last bit (`ungroup_group`, `unzigzag_zigzag`);
* the numbers, to the end of the bytes (`readNumbers_written`);
* runs of empty bins (`countsOf_numbers`).

**Why soundness is needed.** The length of the body stands in four bytes. The bins of a sound
histogram are those of words, so there are too few of them to overflow it (`length_body_lt`).
-/

namespace Telemetry.Hdr.Payload

/-! ### Numbers and their bytes -/

/-- A number takes as many bytes as it is given. -/
@[simp] theorem length_bigEndian (k n : Nat) : (bigEndian k n).length = k := by
  induction k with
  | zero => rfl
  | succ k ih => rw [bigEndian, List.length_cons, ih]

/-- Bytes in front of others count 256 times as much for each of these. -/
theorem ofBigEndian_append (a b : List UInt8) :
    ofBigEndian (a ++ b) = ofBigEndian a * 256 ^ b.length + ofBigEndian b := by
  have key : ∀ (b : List UInt8) (n : Nat), b.foldl (fun n b ↦ n * 256 + b.toNat) n =
      n * 256 ^ b.length + ofBigEndian b := by
    intro b
    induction b with
    | nil =>
      intro n
      simp [ofBigEndian]
    | cons x b ih =>
      intro n
      have hx : ofBigEndian (x :: b) = x.toNat * 256 ^ b.length + ofBigEndian b := by
        rw [ofBigEndian, List.foldl_cons, ih, Nat.zero_mul, Nat.zero_add]
      rw [List.foldl_cons, ih, hx, List.length_cons]
      ring
  rw [ofBigEndian, List.foldl_append, key]
  rfl

/-- **As many bytes hold a number, as far as it fits into them.** -/
theorem ofBigEndian_bigEndian (k n : Nat) : ofBigEndian (bigEndian k n) = n % 256 ^ k := by
  induction k with
  | zero => simp [bigEndian, ofBigEndian, Nat.mod_one]
  | succ k ih =>
    have hcons : bigEndian (k + 1) n = [(n / 256 ^ k).toUInt8] ++ bigEndian k n := rfl
    have hbyte : ofBigEndian [(n / 256 ^ k).toUInt8] = n / 256 ^ k % 256 := by
      simp [ofBigEndian]
    rw [hcons, ofBigEndian_append, ih, hbyte, length_bigEndian, pow_succ, Nat.mod_mul,
      Nat.mul_comm, Nat.add_comm]

/-- An integer is read back from the natural number that it is written as. -/
theorem unzigzag_zigzag (n : Int) : unzigzag (zigzag n) = n := by
  unfold unzigzag zigzag
  split <;> split <;> omega

/-- A number of 64 bits with a sign is written as one without. -/
theorem zigzag_lt {n : Int} (h₁ : -(2 ^ 63) ≤ n) (h₂ : n < 2 ^ 63) : zigzag n < 2 ^ 64 := by
  unfold zigzag
  split <;> omega

theorem toNat_toUInt8 {n : Nat} (h : n < 256) : n.toUInt8.toNat = n := by
  simp [Nat.mod_eq_of_lt h]

/-- **A number is read back from its groups**, and what follows them is left, if there may be enough
groups for it. The induction is on the groups that may still follow: each takes seven bits off the
number, and the last one has room for eight. -/
theorem ungroupFrom_groupFrom (left : Nat) {n : Nat} (h : n < 2 ^ (7 * left + 8))
    (rest : List UInt8) : ungroupFrom left (groupFrom left n ++ rest) = some (n, rest) := by
  induction left generalizing n with
  | zero =>
    have hn : n < 256 := by simpa using h
    simp [groupFrom, ungroupFrom, Nat.mod_eq_of_lt hn]
  | succ left ih =>
    rw [groupFrom]
    split
    · next hsmall =>
      have hbyte := toNat_toUInt8 (show n < 256 by omega)
      simp [ungroupFrom, hbyte, hsmall]
    · -- the top bit says that more follows, and the rest is smaller by seven bits
      have hbyte := toNat_toUInt8 (show n % 128 + 128 < 256 by omega)
      have hlater : n / 128 < 2 ^ (7 * left + 8) := by
        rw [Nat.div_lt_iff_lt_mul (by decide)]
        calc n < 2 ^ (7 * (left + 1) + 8) := h
          _ = 2 ^ (7 * left + 8) * 128 := by ring
      rw [List.cons_append, ungroupFrom, hbyte, if_neg (by omega), ih hlater, Option.map_some]
      simp only [Option.some.injEq, Prod.mk.injEq, and_true]
      omega

/-- **A word is read back from its groups.** -/
theorem ungroup_group {n : Nat} (h : n < 2 ^ 64) (rest : List UInt8) :
    ungroup (group n ++ rest) = some (n, rest) :=
  ungroupFrom_groupFrom 8 h rest

/-- There is at least one group, and no more than may be. -/
theorem length_groupFrom (left n : Nat) :
    0 < (groupFrom left n).length ∧ (groupFrom left n).length ≤ left + 1 := by
  induction left generalizing n with
  | zero => simp [groupFrom]
  | succ left ih =>
    rw [groupFrom]
    split
    · simp
    · have := ih (n / 128)
      simp only [List.length_cons]
      omega

/-! ### Lists of numbers -/

/-- The numbers whose sign and size fit into a word. -/
def IsWritable (n : Int) : Prop :=
  -(2 ^ 63) ≤ n ∧ n < 2 ^ 63

/-- The bytes of a list of numbers. -/
def written (ns : List Int) : List UInt8 :=
  ns.flatMap fun n ↦ group (zigzag n)

theorem written_cons (n : Int) (ns : List Int) :
    written (n :: ns) = group (zigzag n) ++ written ns :=
  List.flatMap_cons

/-- Each number takes one to nine bytes. -/
theorem length_written (ns : List Int) :
    ns.length ≤ (written ns).length ∧ (written ns).length ≤ 9 * ns.length := by
  induction ns with
  | nil => simp [written]
  | cons n ns ih =>
    have hgroup : 0 < (group (zigzag n)).length ∧ (group (zigzag n)).length ≤ 9 :=
      length_groupFrom 8 (zigzag n)
    rw [written_cons, List.length_append, List.length_cons]
    omega

/-- **Writable numbers are read back**, if the fuel is enough for them. -/
theorem readNumbers_written {ns : List Int} (h : ∀ n ∈ ns, IsWritable n) {fuel : Nat}
    (hfuel : ns.length ≤ fuel) : readNumbers fuel (written ns) = some ns := by
  induction ns generalizing fuel with
  | nil =>
    cases fuel <;> rfl
  | cons n ns ih =>
    obtain ⟨fuel, rfl⟩ : ∃ k, fuel = k + 1 := ⟨fuel - 1, by
      rw [List.length_cons] at hfuel
      omega⟩
    have hn := h n List.mem_cons_self
    have hread := ungroup_group (zigzag_lt hn.1 hn.2) (written ns)
    -- a group is never empty, so there is something to read and fuel is spent on it
    have hne : group (zigzag n) ++ written ns ≠ [] := by
      have hpos : 0 < (group (zigzag n)).length := (length_groupFrom 8 (zigzag n)).1
      exact List.append_ne_nil_of_left_ne_nil (List.ne_nil_of_length_pos hpos) _
    rw [written_cons, readNumbers.eq_3 _ _ hne, hread]
    simp only [Option.map_eq_some_iff, List.cons.injEq, unzigzag_zigzag, true_and, exists_eq_right]
    refine ih (fun m hm ↦ h m (List.mem_cons_of_mem _ hm)) ?_
    rw [List.length_cons] at hfuel
    omega

/-! ### Counts and gaps -/

/-- Numbers stand for counts one after the other. -/
theorem countsOf_append (a b : List Int) : countsOf (a ++ b) = countsOf a ++ countsOf b := by
  induction a with
  | nil => rfl
  | cons n a ih => rw [List.cons_append, countsOf, ih, countsOf, List.append_assoc]

/-- A gap stands for so many empty bins. -/
theorem countsOf_gap (n : Nat) : countsOf (gap n) = List.replicate n 0 := by
  match n with
  | 0 => rfl
  | 1 => rfl
  | n + 2 =>
    have hneg : ¬0 ≤ -((n + 2 : Nat) : Int) := by omega
    rw [gap, countsOf, countsOf, if_neg hneg, List.append_nil, Int.neg_neg, Int.toNat_natCast]

/-- The numbers for ascending bins give each bin the count that is listed for it, and none to the
others. The induction is on the listed bins: a gap and the number behind it stand for all bins up to
the first listed one. -/
theorem countsOf_numbersFrom {next : Nat} {bins : List (Nat × Nat)}
    (hsorted : bins.Pairwise fun a b ↦ a.1 < b.1) (hnext : ∀ e ∈ bins, next ≤ e.1)
    (i : Nat) : (countsOf (numbersFrom next bins)).getD i 0 = gain id bins (next + i) := by
  induction bins generalizing next i with
  | nil => simp [numbersFrom, countsOf]
  | cons e bins ih =>
    obtain ⟨j, c⟩ := e
    obtain ⟨hlater, hrest⟩ := List.pairwise_cons.1 hsorted
    have hj : next ≤ j := hnext _ List.mem_cons_self
    have ih := ih hrest fun e he ↦ show j + 1 ≤ e.1 from hlater e he
    have hc : countsOf ((c : Int) :: numbersFrom (j + 1) bins) =
        c :: countsOf (numbersFrom (j + 1) bins) := by
      rw [countsOf, if_pos (Int.natCast_nonneg c)]
      rfl
    have hnone : ∀ k ≤ j, gain id bins k = 0 := fun k hk ↦ gain_eq_zero fun e he ↦ by
      have := hlater e he
      simp only [id_eq]
      omega
    rw [numbersFrom, countsOf_append, countsOf_gap, hc, gain_cons, id_eq,
      List.getD_eq_getElem?_getD]
    -- the bin is in the gap, is the listed one, or comes later
    rcases Nat.lt_trichotomy (next + i) j with hlt | heq | hgt
    · rw [if_neg (by omega), hnone _ (by omega),
        List.getElem?_append_left (by rw [List.length_replicate]; omega),
        List.getElem?_replicate_of_lt (by omega)]
      rfl
    · rw [if_pos heq.symm, hnone _ (by omega),
        List.getElem?_append_right (by rw [List.length_replicate]; omega), List.length_replicate,
        show i - (j - next) = 0 by omega]
      rfl
    · rw [if_neg (by omega), Nat.zero_add,
        List.getElem?_append_right (by rw [List.length_replicate]; omega), List.length_replicate,
        show i - (j - next) = (i - (j - next) - 1) + 1 by omega, List.getElem?_cons_succ,
        ← List.getD_eq_getElem?_getD, ih]
      congr 1
      omega

/-- **The numbers of a tally stand for its counts.** -/
theorem countsOf_numbers (t : Tally) (i : Nat) : (countsOf (numbers t)).getD i 0 = t.count i := by
  have hfrom := countsOf_numbersFrom t.sorted (fun _ _ ↦ Nat.zero_le _) i
  rw [← t.gain_toList i]
  unfold numbers
  split
  · next hnil =>
    rw [hnil, gain_nil]
    rcases i with - | i <;> rfl
  · rwa [Nat.zero_add] at hfrom

/-- The numbers reach as far as the last bin with a count. -/
theorem length_countsOf_numbersFrom {next : Nat} {bins : List (Nat × Nat)}
    (hsorted : bins.Pairwise fun a b ↦ a.1 < b.1) (hnext : ∀ e ∈ bins, next ≤ e.1)
    (hne : bins ≠ []) :
    (countsOf (numbersFrom next bins)).length + next = (bins.getLast hne).1 + 1 := by
  induction bins generalizing next with
  | nil => exact absurd rfl hne
  | cons e bins ih =>
    obtain ⟨hlater, hrest⟩ := List.pairwise_cons.1 hsorted
    have he := hnext e List.mem_cons_self
    have hc : countsOf ((e.2 : Int) :: numbersFrom (e.1 + 1) bins) =
        e.2 :: countsOf (numbersFrom (e.1 + 1) bins) := by
      rw [countsOf, if_pos (Int.natCast_nonneg e.2)]
      rfl
    rw [numbersFrom, countsOf_append, countsOf_gap, hc, List.length_append, List.length_replicate,
      List.length_cons]
    by_cases hlast : bins = []
    · subst hlast
      show e.1 - next + (0 + 1) + next = e.1 + 1
      omega
    · have ih := ih hrest (fun e' he' ↦ show e.1 + 1 ≤ e'.1 from hlater e' he') hlast
      rw [List.getLast_cons hlast]
      omega

/-- A number for each bin up to the last one with a count is enough. -/
theorem length_numbersFrom {next : Nat} {bins : List (Nat × Nat)}
    (hsorted : bins.Pairwise fun a b ↦ a.1 < b.1) {n : Nat}
    (hbins : ∀ e ∈ bins, next ≤ e.1 ∧ e.1 < n) (hn : next ≤ n) :
    (numbersFrom next bins).length + next ≤ n := by
  have hgap : ∀ k, (gap k).length ≤ k := by
    rintro (- | - | k)
    · exact Nat.le_refl _
    · exact Nat.le_refl _
    · simp [gap]
  induction bins generalizing next with
  | nil => simpa [numbersFrom] using hn
  | cons e bins ih =>
    obtain ⟨hlater, hrest⟩ := List.pairwise_cons.1 hsorted
    have he := hbins e List.mem_cons_self
    have hrange : ∀ e' ∈ bins, e.1 + 1 ≤ e'.1 ∧ e'.1 < n := fun e' he' ↦
      ⟨hlater e' he', (hbins e' (List.mem_cons_of_mem _ he')).2⟩
    have ih := ih hrest hrange he.2
    have := hgap (e.1 - next)
    rw [numbersFrom, List.length_append, List.length_cons]
    omega

/-! ### The whole payload -/

/-- All numbers can be written, if the counts can and there are not too many bins: a number is a
count or, with a minus, the length of a gap. -/
theorem mem_numbersFrom {next : Nat} {bins : List (Nat × Nat)} {n : Nat}
    (hsorted : bins.Pairwise fun a b ↦ a.1 < b.1)
    (hbins : ∀ e ∈ bins, e.1 < n ∧ e.2 ≤ maxCount) (hn : n ≤ maxCount) {x : Int}
    (hx : x ∈ numbersFrom next bins) : IsWritable x := by
  have hmax : maxCount = 2 ^ 63 - 1 := rfl
  have hgap : ∀ k ≤ maxCount, ∀ x ∈ gap k, IsWritable x := by
    rintro (- | - | k) hk x hx
    · exact absurd hx List.not_mem_nil
    · rw [gap, List.mem_singleton] at hx
      subst hx
      exact ⟨by decide, by decide⟩
    · rw [gap, List.mem_singleton] at hx
      subst hx
      constructor <;> omega
  induction bins generalizing next with
  | nil => exact absurd hx List.not_mem_nil
  | cons e bins ih =>
    have he := hbins e List.mem_cons_self
    rw [numbersFrom, List.mem_append, List.mem_cons] at hx
    rcases hx with hx | rfl | hx
    · exact hgap _ (by omega) x hx
    · constructor <;> omega
    · exact ih (List.pairwise_cons.1 hsorted).2 (fun e' he' ↦ hbins e' (List.mem_cons_of_mem _ he'))
        hx

/-- The bins of words are few. -/
theorem end_le (l : Layout) : (l.stretches maxWord + 1) * l.half ≤ 2 ^ 24 := by
  have h₁ := l.unitBits_pos
  have h₂ := l.unitBits_le
  have hhalf : l.half ≤ 2 ^ 17 := Nat.pow_le_pow_right (by decide) (by omega)
  rw [l.stretches_maxWord]
  calc (65 - l.unitBits + 1) * l.half ≤ 2 ^ 7 * 2 ^ 17 := Nat.mul_le_mul (by omega) hhalf
    _ = 2 ^ 24 := by norm_num

variable {h : Hdr}

/-- A sound histogram has counts in few bins only. -/
theorem mem_toList_lt (hs : h.Sound) {e : Nat × Nat} (he : e ∈ h.counts.toList) : e.1 < 2 ^ 24 := by
  obtain ⟨hc, hpos⟩ := Tally.mem_toList_iff.1 (show (e.1, e.2) ∈ h.counts.toList from he)
  have hlt := hs.covered e.1 (by simp only [count]; omega)
  exact hlt.trans_le (hs.bins_le.trans (end_le h.layout))

/-- A sound histogram is written in few numbers. -/
theorem length_numbers (hs : h.Sound) : (numbers h.counts).length ≤ 2 ^ 24 := by
  unfold numbers
  split
  · simp [gap]
  · exact length_numbersFrom h.counts.sorted
      (fun e he ↦ ⟨Nat.zero_le _, mem_toList_lt hs he⟩) (Nat.zero_le _)

/-- Each of them can be written, if the counts can. -/
theorem isWritable_of_mem_numbers (hs : h.Sound) (hfits : fits h) {x : Int}
    (hx : x ∈ numbers h.counts) : IsWritable x := by
  unfold numbers at hx
  split at hx
  · rw [gap, List.mem_singleton] at hx
    subst hx
    exact ⟨by decide, by decide⟩
  · refine mem_numbersFrom h.counts.sorted (n := 2 ^ 24) (fun e he ↦ ⟨mem_toList_lt hs he, ?_⟩)
      (by decide) hx
    have := List.all_eq_true.1 hfits e he
    simpa using this

/-- The body of a sound histogram is short enough for its length to be written. -/
theorem length_body_lt (hs : h.Sound) : (body h).length < 256 ^ 4 := by
  have h₁ := (length_written (numbers h.counts)).2
  have h₂ := length_numbers hs
  show (written (numbers h.counts)).length < 256 ^ 4
  omega

/-- A number that stands among other bytes. -/
theorem ofBigEndian_field {bytes before behind : List UInt8} {start size n : Nat}
    (hbytes : bytes = before ++ bigEndian size n ++ behind) (hstart : before.length = start) :
    ofBigEndian ((bytes.drop start).take size) = n % 256 ^ size := by
  subst hbytes hstart
  rw [List.append_assoc, List.drop_left, List.take_left' (length_bigEndian size n),
    ofBigEndian_bigEndian]

/-- The fields of a header, whatever follows it. -/
theorem fields_header (h : Hdr) (n : Nat) (rest : List UInt8) :
    let field (start size : Nat) : Nat :=
      ofBigEndian (((header h n ++ rest).drop start).take size)
    field 0 4 = 0x1c849313 ∧ field 4 4 = n % 256 ^ 4 ∧ field 8 4 = 0 ∧
      field 12 4 = h.layout.digits % 256 ^ 4 ∧ field 16 8 = 1 ∧
      field 24 8 = h.ceiling % 256 ^ 8 ∧ field 32 8 = (1.0 : Float).toBits.toNat := by
  have hfield : ∀ (before behind : List UInt8) (start size k : Nat),
      header h n = before ++ bigEndian size k ++ behind → before.length = start →
      ofBigEndian (((header h n ++ rest).drop start).take size) = k % 256 ^ size := by
    intro before behind start size k hsplit hstart
    have hbytes : header h n ++ rest = before ++ bigEndian size k ++ (behind ++ rest) := by
      simp [hsplit]
    exact ofBigEndian_field hbytes hstart
  -- what stands before each field, one more field each time
  let fields₁ := bigEndian 4 0x1c849313
  let fields₂ := fields₁ ++ bigEndian 4 n
  let fields₃ := fields₂ ++ bigEndian 4 0
  let fields₄ := fields₃ ++ bigEndian 4 h.layout.digits
  let fields₅ := fields₄ ++ bigEndian 8 1
  let fields₆ := fields₅ ++ bigEndian 8 h.ceiling
  have hratio : (1.0 : Float).toBits.toNat < 256 ^ 8 := UInt64.toNat_lt _
  refine ⟨?_, ?_, ?_, ?_, ?_, ?_, ?_⟩
  · exact hfield [] _ 0 4 _ (by simp only [header, List.append_assoc]; rfl) rfl
  · exact hfield fields₁ _ 4 4 _ (by simp only [header, List.append_assoc]; rfl) (by simp [fields₁])
  · exact hfield fields₂ _ 8 4 0 (by simp only [header, List.append_assoc]; rfl) rfl
  · exact hfield fields₃ _ 12 4 _ (by simp only [header, List.append_assoc]; rfl) rfl
  · exact hfield fields₄ _ 16 8 1 (by simp only [header, List.append_assoc]; rfl) rfl
  · exact hfield fields₅ _ 24 8 _ (by simp only [header, List.append_assoc]; rfl) rfl
  · exact (hfield fields₆ [] 32 8 _ (by simp only [header, List.append_nil]; rfl) rfl).trans
      (Nat.mod_eq_of_lt hratio)

/-- **What is written can be read back**, and the header says how much follows it. -/
theorem decode_encode_eq (hs : h.Sound) {bytes : List UInt8} (he : encode? h = some bytes) :
    decode? bytes = some ⟨h.layout.digits, h.ceiling % 256 ^ 8, countsOf (numbers h.counts)⟩ ∧
      ofBigEndian ((bytes.drop 4).take 4) = (bytes.drop 40).length := by
  obtain ⟨hfits, rfl⟩ : fits h ∧ header h (body h).length ++ body h = bytes := by
    unfold encode? at he
    split at he
    · next hf => exact ⟨hf, Option.some.inj he⟩
    · simp at he
  have hheader : (header h (body h).length).length = 40 := by simp [header]
  have hrest : (header h (body h).length ++ body h).drop 40 = body h := by
    rw [← hheader, List.drop_left]
  obtain ⟨hcookie, hlength, hzero, hdigits, hone, hceiling, hratio⟩ :=
    fields_header h (body h).length (body h)
  rw [Nat.mod_eq_of_lt (length_body_lt hs)] at hlength
  have hread := readNumbers_written (fun x hx ↦ isWritable_of_mem_numbers hs hfits hx)
    (length_written (numbers h.counts)).1
  have hdigits_lt : h.layout.digits < 256 ^ 4 := by
    have := h.layout.digits_le
    omega
  rw [Nat.mod_eq_of_lt hdigits_lt] at hdigits
  refine ⟨?_, hlength.trans (congrArg List.length hrest.symm)⟩
  simp only [decode?, hrest, hcookie, hlength, hzero, hone, hratio, hdigits, hceiling]
  rw [if_neg (by simp [hheader])]
  exact congrArg (Option.map _) hread

/-- **What is written says the digits and every count.** -/
theorem decode_encode (hs : h.Sound) {bytes : List UInt8} (he : encode? h = some bytes) :
    ∃ c, decode? bytes = some c ∧ c.digits = h.layout.digits ∧
      ∀ i, c.counts.getD i 0 = h.count i :=
  ⟨_, (decode_encode_eq hs he).1, rfl, countsOf_numbers h.counts⟩

/-- **Counts have a written form unless one of them is too large.** -/
theorem encode?_eq_none_iff : encode? h = none ↔ ∃ i, maxCount < h.count i := by
  have hnone : encode? h = none ↔ fits h = false := by
    unfold encode?
    cases fits h <;> simp
  rw [hnone, fits, List.all_eq_false]
  constructor
  · rintro ⟨⟨i, c⟩, he, hc⟩
    obtain ⟨rfl, -⟩ := Tally.mem_toList_iff.1 he
    have hlt : maxCount < h.counts.count i := by simpa using hc
    exact ⟨i, hlt⟩
  · rintro ⟨i, hi⟩
    exact ⟨(i, h.count i), Tally.mem_toList_iff.2 ⟨rfl, Nat.zero_lt_of_lt hi⟩, by simpa using hi⟩

end Telemetry.Hdr.Payload
