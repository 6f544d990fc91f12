import Mathlib
import Telemetry.Proofs.Hdr.Payload
import Telemetry.Proofs.Reservoir.Sound
import Telemetry.Draft

/-!
# What a report shows, ceilings aside

The ceiling of a histogram depends on how it came to its counts: a histogram that got its counts
back may say that it covers less, or more, than before. Nothing else of it does. A report shows the
ceiling in one place only, eight bytes of the header of written counts.

`trimmed` takes these bytes out, of written counts (`Payload.trimmed`), and of all records of a
report (`Report.trimmed`). What is left is the same for readings that are alike
(`Reading.Alike.digest`).
-/

namespace Telemetry

namespace Hdr

variable {a b : Hdr}

/-- Written counts without the eight bytes of the ceiling. -/
def Payload.trimmed (bytes : List UInt8) : List UInt8 :=
  bytes.take 24 ++ bytes.drop 32

/-- Trimming takes away the eight bytes of the ceiling, and leaves what stands before and behind. -/
theorem Payload.trimmed_header (h : Hdr) (n : Nat) (rest : List UInt8) :
    trimmed (header h n ++ rest) =
      (bigEndian 4 0x1c849313 ++ bigEndian 4 n ++ bigEndian 4 0 ++ bigEndian 4 h.layout.digits ++
        bigEndian 8 1) ++ (bigEndian 8 (1.0 : Float).toBits.toNat ++ rest) := by
  let before := bigEndian 4 0x1c849313 ++ bigEndian 4 n ++ bigEndian 4 0 ++
    bigEndian 4 h.layout.digits ++ bigEndian 8 1
  have hbefore : before.length = 24 := by simp [before]
  have hsplit : header h n ++ rest =
      before ++ (bigEndian 8 h.ceiling ++ (bigEndian 8 (1.0 : Float).toBits.toNat ++ rest)) := by
    rw [header, List.append_assoc, List.append_assoc]
  have hmiddle : (before ++ bigEndian 8 h.ceiling).length = 32 := by simp [hbefore]
  rw [hsplit, trimmed, ← hbefore, List.take_left, ← List.append_assoc before, ← hmiddle,
    List.drop_left]

/-- **Histograms that are alike are written alike**, the ceilings aside. -/
theorem Alike.encode (h : a.Alike b) :
    (Payload.encode? a).map Payload.trimmed = (Payload.encode? b).map Payload.trimmed := by
  have hbody : Payload.body a = Payload.body b := by rw [Payload.body, Payload.body, h.counts]
  have hfits : Payload.fits a = Payload.fits b := by rw [Payload.fits, Payload.fits, h.counts]
  rw [Payload.encode?, Payload.encode?, hfits]
  split
  · rw [Option.map_some, Option.map_some, Payload.trimmed_header, Payload.trimmed_header, hbody,
      h.layout]
  · rfl

/-- Histograms that are alike have the same number of values. -/
theorem Alike.len (h : a.Alike b) : a.len = b.len := by
  rw [Hdr.len, Hdr.len, h.counts]

theorem Alike.isEmpty (h : a.Alike b) : a.isEmpty = b.isEmpty := by
  rw [Hdr.isEmpty, Hdr.isEmpty, h.len]

theorem Alike.minValue (h : a.Alike b) : a.minValue = b.minValue := by
  rw [Hdr.minValue, Hdr.minValue, h.isEmpty, count, count, h.counts, h.leastPositive]

theorem Alike.mean (h : a.Alike b) : a.mean = b.mean := by
  rw [Hdr.mean, Hdr.mean, h.counts, h.layout, h.len]

theorem Alike.stdDev (h : a.Alike b) : a.stdDev = b.stdDev := by
  simp only [Hdr.stdDev, h.counts, h.layout, h.len, h.mean]

theorem Alike.valueAt (h : a.Alike b) (q : Float) : a.valueAt q = b.valueAt q := by
  simp only [Hdr.valueAt, rank, blocks, h.counts, h.layout, h.len, h.stretches]

/-- **Histograms that are alike have one summary.** -/
theorem Alike.summary (h : a.Alike b) (scale : Float) : Summary.of a scale = Summary.of b scale := by
  have hvalue : (Distribution.value a : Float → Float) = Distribution.value b := by
    funext q
    simp only [Distribution.value, h.isEmpty, h.valueAt]
  simp only [Summary.of, hvalue, Distribution.minValue, Distribution.maxValue, Distribution.mean,
    Distribution.stdDev, h.isEmpty, h.minValue, h.maxValue, h.mean, h.stdDev]

end Hdr

/-! ### Digests -/

/-- The digest without the ceiling. -/
def Digest.trimmed (d : Digest) : Digest :=
  { d with payload := d.payload.map Hdr.Payload.trimmed }

/-- **Readings that are alike have one digest**, the ceilings aside, or neither has one. -/
theorem Reading.Alike.digest {r r' : Reading} (h : r.Alike r') (mode : PayloadMode) (scale : Float) :
    (r.digest mode scale).map Digest.trimmed = (r'.digest mode scale).map Digest.trimmed := by
  cases h with
  | sampled values => rfl
  | @binned total a b hab =>
    have hproj : (projection mode total a).Alike (projection mode total b) := by
      cases mode with
      | none => exact .refl total
      | total => exact .refl total
      | snapshot => exact hab
    have hencode := hproj.encode
    simp only [Reading.digest, hproj.summary]
    split
    · rfl
    · rcases ha : Hdr.Payload.encode? (projection mode total a) with - | bytes <;>
        rw [ha] at hencode
      · rw [Option.map_eq_none_iff.1 hencode.symm]
      · obtain ⟨bytes', hb, htrimmed⟩ := Option.map_eq_some_iff.1 hencode.symm
        rw [hb]
        show Except.ok (Digest.mk _ (some _)) = Except.ok (Digest.mk _ (some _))
        rw [htrimmed]

/-! ### Records and reports -/

/-- The record without the ceiling. -/
def HistogramRecord.trimmed (r : HistogramRecord) : HistogramRecord :=
  { r with payload := r.payload.map Hdr.Payload.trimmed }

/-- The record without the ceiling. -/
def TimerRecord.trimmed (r : TimerRecord) : TimerRecord :=
  { r with payload := r.payload.map Hdr.Payload.trimmed }

/-- The report without ceilings. -/
def Report.trimmed (r : Report) : Report :=
  { r with
    histograms := r.histograms.map HistogramRecord.trimmed
    timers := r.timers.map TimerRecord.trimmed }

namespace Presentation

/-- The record without the ceiling. -/
def SourceRecord.trimmed : SourceRecord → SourceRecord
  | histogram r => histogram r.trimmed
  | timer r => timer r.trimmed

end Presentation

end Telemetry
