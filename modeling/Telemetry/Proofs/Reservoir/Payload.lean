import Mathlib
import Telemetry.Digest
import Telemetry.Proofs.Reservoir.Steps
import Telemetry.Proofs.Hdr.Payload

/-!
# Readings in written form

A reading of a reservoir of bins goes into a report as the written form of one of its counts. What
is read from that form are the digits that the reservoir was created with and all counts up to the
bin of the greatest value; behind it there are none (`Tight.decode_encode`). It exists unless a
count exceeds `2 ^ 63 - 1`.

**Where the counts stop.** The written form ends at the last bin with a count, but a reader expects
the bin of the greatest value. That is kept beside the counts, and the two fit together because the
counts are tight (`Tight.length_written`).

`Reading.written?` says which counts a report asks for, and `Reading.payload_digest` that a report
has their written form and no other.
-/

namespace Telemetry

/-- The last bin listed has the greatest number of all bins with a count. -/
theorem Hdr.Tally.le_last (t : Tally) (hne : t.toList ≠ []) {i : Nat} (hi : t.count i ≠ 0) :
    i ≤ (t.toList.getLast hne).1 := by
  have hmem : (i, t.count i) ∈ t.toList := mem_toList_iff.2 ⟨rfl, Nat.pos_of_ne_zero hi⟩
  have hsorted : t.toList.Pairwise fun a b ↦ a.1 ≤ b.1 := t.sorted.imp Nat.le_of_lt
  have : Std.Refl fun a b : Nat × Nat ↦ a.1 ≤ b.1 := ⟨fun a ↦ le_refl a.1⟩
  exact hsorted.rel_getLast hmem

namespace Hdr.Tight

variable {h : Hdr}

/-- **The written counts stop at the bin of the greatest value.** -/
theorem length_written (ht : h.Tight) :
    (Payload.countsOf (Payload.numbers h.counts)).length = h.layout.index h.maxValue + 1 := by
  -- zero is the greatest value only if no other bin than the first has a count
  have hzero : h.maxValue = 0 → h.layout.index h.maxValue = 0 := h.layout.index_eq_zero.2
  unfold Payload.numbers
  split
  · next hnil =>
    have hmax : h.maxValue = 0 := by
      by_contra hne
      have hcount : h.count (h.layout.index h.maxValue) ≠ 0 := ht.shape.count_peak hne
      rw [count, ← Tally.gain_toList, hnil] at hcount
      exact hcount rfl
    rw [hzero hmax]
    rfl
  · next hne =>
    have hlength := Payload.length_countsOf_numbersFrom h.counts.sorted
      (fun _ _ ↦ Nat.zero_le _) hne
    have hlast : h.count (h.counts.toList.getLast hne).1 ≠ 0 := by
      obtain ⟨hc, hpos⟩ := Tally.mem_toList_iff.1 (List.getLast_mem hne)
      rw [count]
      omega
    have hle := ht.shape.le_index_peak _ hlast
    have hge : h.layout.index h.maxValue ≤ (h.counts.toList.getLast hne).1 := by
      by_cases hmax : h.maxValue = 0
      · rw [hzero hmax]
        exact Nat.zero_le _
      · exact h.counts.le_last hne (ht.shape.count_peak hmax)
    show (Payload.countsOf (Payload.numbersFrom 0 h.counts.toList)).length = _
    exact hlength.trans (congrArg (· + 1) (le_antisymm hle hge))

/-- **What is read from the written form** of tight counts. -/
theorem decode_encode (ht : h.Tight) {bytes : List UInt8} (he : Payload.encode? h = some bytes) :
    ∃ c, Payload.decode? bytes = some c ∧ c.digits = h.layout.digits ∧
      c.counts = (List.range (h.layout.index h.maxValue + 1)).map h.count ∧
      (∀ i, c.counts.length ≤ i → h.count i = 0) ∧
      Payload.ofBigEndian ((bytes.drop 4).take 4) = (bytes.drop 40).length := by
  obtain ⟨hdecode, hlength⟩ := Payload.decode_encode_eq ht.sound he
  have hcounts := Payload.countsOf_numbers h.counts
  refine ⟨_, hdecode, rfl, List.ext_getElem ?_ ?_, ?_, hlength⟩
  · rw [List.length_map, List.length_range, ht.length_written]
  · intro i h₁ h₂
    rw [List.getElem_map, List.getElem_range, count, ← hcounts i, List.getD_eq_getElem _ _ h₁]
  · intro i hi
    rw [count, ← hcounts i, List.getD_eq_default _ _ hi]

end Hdr.Tight

/-! ### What a report says of a reading -/

namespace Reading

/-- The counts of which a report is to have the written form. -/
def written? (mode : PayloadMode) : Reading → Option Hdr
  | .sampled _ => none
  | .binned total sinceLast =>
    match mode with
    | .none => none
    | .total => some total
    | .snapshot => some sinceLast

/-- **A report has the written form that is asked for, and no other.** If the counts asked for have
none, there is nothing to report at all. -/
theorem payload_digest (mode : PayloadMode) (scale : Float) (x : Reading) :
    (x.digest mode scale).map Digest.payload =
      match x.written? mode with
      | none => .ok none
      | some h =>
        match Hdr.Payload.encode? h with
        | none => .error .countTooLarge
        | some bytes => .ok (some bytes) := by
  cases x with
  | sampled values => rfl
  | binned total sinceLast =>
    cases mode with
    | none => rfl
    | total =>
      show Except.map _ (match Hdr.Payload.encode? total with | none => _ | some _ => _) = _
      cases h : Hdr.Payload.encode? total <;> simp [written?, h, Except.map]
    | snapshot =>
      show Except.map _ (match Hdr.Payload.encode? sinceLast with | none => _ | some _ => _) = _
      cases h : Hdr.Payload.encode? sinceLast <;> simp [written?, h, Except.map]

end Reading

namespace BinnedReservoir

/-- **Readings can be read back from what is written of them.** Whatever happened to a reservoir,
for either count of its reading,

* there is a written form unless a count exceeds `2 ^ 63 - 1`;
* the written form says the digits of the reservoir and the counts up to the bin of the greatest
  value, behind which there are none, and how many bytes follow its header.

A report has the written form of the counts over the whole life or since the last reading, as its
mode asks, or of none. -/
theorem written_reading {digits : Nat} {ceiling : UInt64} {r : BinnedReservoir}
    (hr : create digits ceiling.toNat = .ok r) {steps : List Step}
    (hsteps : ∀ x ∈ steps, x.Legal) :
    (∀ h : Hdr, h = (r.run steps).read.1.1 ∨ h = (r.run steps).read.1.2 →
      (Hdr.Payload.encode? h = none ↔ ∃ i, 2 ^ 63 - 1 < h.count i) ∧
      ∀ bytes, Hdr.Payload.encode? h = some bytes →
        ∃ c, Hdr.Payload.decode? bytes = some c ∧ c.digits = digits ∧
          c.counts = (List.range (h.layout.index h.maxValue + 1)).map h.count ∧
          (∀ i, c.counts.length ≤ i → h.count i = 0) ∧
          Hdr.Payload.ofBigEndian ((bytes.drop 4).take 4) = (bytes.drop 40).length) ∧
    ∀ (mode : PayloadMode) (scale : Float) (x : Reading),
      (x.digest mode scale).map Digest.payload =
        match x.written? mode with
        | none => .ok none
        | some h =>
          match Hdr.Payload.encode? h with
          | none => .error .countTooLarge
          | some bytes => .ok (some bytes) := by
  have htight := tightBy_create hr
  obtain ⟨hd, rfl⟩ := create_eq hr
  have hafter := (htight.run hsteps).refresh
  refine ⟨?_, Reading.payload_digest⟩
  intro h hh
  refine ⟨Hdr.Payload.encode?_eq_none_iff, ?_⟩
  intro bytes hbytes
  obtain ⟨ht, hlayout⟩ : h.Tight ∧ h.layout = ⟨digits, hd⟩ := by
    rcases hh with rfl | rfl
    · exact ⟨hafter.total, hafter.layout_total⟩
    · exact ⟨hafter.interval, hafter.layout_interval⟩
  have hdecode := ht.decode_encode hbytes
  rwa [hlayout] at hdecode ⊢

/-- The counts of a reservoir with two values in it, one of them given back to it. -/
theorem written_reading_small :
    let r := ofLayout defaultLayout 2
    let steps : List Step := [.update 2, .record 4, .read, .restore ((r.run [.update 4]).read.1.2)]
    create 3 (2 : UInt64).toNat = .ok r ∧ (∀ x ∈ steps, x.Legal) ∧
      ∃ bytes c, Hdr.Payload.encode? (r.run steps).read.1.2 = some bytes ∧
        Hdr.Payload.decode? bytes = some c ∧ c.digits = 3 ∧ c.counts = [0, 0, 0, 0, 1] := by
  intro r steps
  have hr : create 3 (2 : UInt64).toNat = .ok r := rfl
  have hother : (r.run [.update 4]).Made := .update (.create hr) 4
  have hsteps : ∀ x ∈ steps, x.Legal := by
    simp only [steps, List.forall_mem_cons]
    exact ⟨trivial, trivial, trivial, ⟨_, hother, rfl⟩, nofun⟩
  obtain ⟨hwritten, -⟩ := written_reading hr hsteps
  have hsome := (hwritten _ (.inr rfl)).2
  have hfits : Hdr.Payload.fits (r.run steps).read.1.2 = true := by decide +kernel
  have hbytes : ∃ bytes, Hdr.Payload.encode? (r.run steps).read.1.2 = some bytes :=
    ⟨_, if_pos hfits⟩
  obtain ⟨bytes, hbytes⟩ := hbytes
  obtain ⟨c, hdecode, hdigits, hcounts, -⟩ := hsome bytes hbytes
  exact ⟨hr, hsteps, bytes, c, hbytes, hdecode, hdigits, hcounts.trans (by decide +kernel)⟩

end BinnedReservoir

end Telemetry
