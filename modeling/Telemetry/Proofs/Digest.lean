import Mathlib
import Telemetry.Proofs.Shown

/-!
# When a reading has a digest

**A reading has no digest in one case only** (`Reading.digest_eq_error_iff`): the counts that the
mode selects are to be written, and one of them is too large for that (`Reading.Overflows`). The
scale has no part in it.

A reservoir that has just been read has nothing since then to show. What it shows is the reading
before, drained (`Reservoir.reading_read`), and reading it once more changes nothing, so only the
first of several readings in a row matters (`Reservoir.Reads.eq_or`). Draining shows in snapshot
mode only (`Reading.digest_drained`), and there the digest is one of empty counts, which always can
be written (`Reading.not_overflows_drained`).
-/

namespace Telemetry

namespace Reading

variable {r r' : Reading} {mode : PayloadMode} {scale : Float}

/-- Among the counts to be written is one that is too large. -/
def Overflows (mode : PayloadMode) : Reading → Prop
  | binned total sinceLast =>
    mode ≠ .none ∧ ∃ i, Hdr.Payload.maxCount < (projection mode total sinceLast).count i
  | sampled _ => False

/-- **A reading has no digest just if one of the counts to be written is too large.** -/
theorem digest_eq_error_iff {cause : DigestError} :
    r.digest mode scale = .error cause ↔ r.Overflows mode := by
  cases cause
  cases r with
  | sampled values => simp [digest, Overflows]
  | binned total sinceLast =>
    rw [Overflows, ← Hdr.Payload.encode?_eq_none_iff, digest]
    by_cases hmode : mode = .none
    · simp [hmode]
    · cases Hdr.Payload.encode? (projection mode total sinceLast) <;> simp [hmode]

/-- A reading with none of its counts too large has a digest. -/
theorem exists_digest (h : ¬r.Overflows mode) (scale : Float) :
    ∃ d, r.digest mode scale = .ok d := by
  rcases hd : r.digest mode scale with cause | d
  · exact absurd (digest_eq_error_iff.1 hd) h
  · exact ⟨d, rfl⟩

/-- Readings that are alike overflow alike. -/
theorem Alike.overflows_iff (h : r.Alike r') : r.Overflows mode ↔ r'.Overflows mode := by
  cases h with
  | sampled values => exact Iff.rfl
  | binned total h =>
    cases mode with
    | none | total => exact Iff.rfl
    | snapshot => simp only [Overflows, projection, Hdr.count, h.counts]

/-- The reading without the counts since the last one. -/
def drained : Reading → Reading
  | binned total sinceLast => binned total sinceLast.reset
  | sampled values => sampled values

@[simp] theorem drained_drained (r : Reading) : r.drained.drained = r.drained := by
  cases r <;> rfl

/-- Readings that are alike stay so when they are drained. -/
theorem Alike.drained (h : r.Alike r') : r.drained.Alike r'.drained := by
  cases h with
  | sampled values => exact .sampled values
  | binned total h => exact .binned total h.reset

/-- Draining shows in snapshot mode only. -/
theorem digest_drained (r : Reading) (scale : Float) (hmode : mode ≠ .snapshot) :
    r.drained.digest mode scale = r.digest mode scale := by
  cases r with
  | sampled values => rfl
  | binned total sinceLast =>
    cases mode with
    | none | total => rfl
    | snapshot => exact absurd rfl hmode

/-- Where nothing is counted no count is too large. -/
theorem not_overflows_drained (r : Reading) : ¬r.drained.Overflows .snapshot := by
  cases r with
  | sampled values => exact not_false
  | binned total sinceLast =>
    rintro ⟨-, i, hi⟩
    exact Nat.not_lt_zero _ hi

end Reading

namespace Reservoir

variable {ρ ρ' : Reservoir} {rs : List Reading}

/-- **A reservoir that has just been read shows the reading before, drained.** -/
theorem reading_read (ρ : Reservoir) : ρ.read.2.read.1 = ρ.read.1.drained := by
  cases ρ with
  | window w => rfl
  | binned r =>
    simp only [read]
    rw [BinnedReservoir.read, r.refresh_read]
    rfl

/-- Reading it once more changes nothing. -/
theorem read_read (ρ : Reservoir) : ρ.read.2.read.2 = ρ.read.2 := by
  cases ρ with
  | window w => rfl
  | binned r =>
    simp only [read]
    rw [BinnedReservoir.read, r.refresh_read]
    rfl

/-- **Readings leave a reservoir as the first of them does**, if there are any. -/
theorem Reads.eq_or (hr : ρ.Reads rs ρ') : rs = [] ∧ ρ' = ρ ∨ rs ≠ [] ∧ ρ' = ρ.read.2 := by
  induction hr with
  | done ρ => exact .inl ⟨rfl, rfl⟩
  | @read ρ ρ' rs hr ih =>
    refine .inr ⟨List.cons_ne_nil _ _, ?_⟩
    rcases ih with ⟨-, h⟩ | ⟨-, h⟩
    · exact h
    · exact h.trans ρ.read_read

end Reservoir

end Telemetry
