import Mathlib
import Telemetry.Report.Wire
import Telemetry.Proofs.Wire.Field

/-!
# Reports are read back as they were written

`Report.decode?` undoes `Report.encode`: all texts, codes, counts and payloads come back, lists in
their order, and what may be absent is absent or present as before. The one thing that is lost is
the sign of a zero in a rate or a summary, since a zero of either sign is left out
(`unsignedZeros`). A gauge is written whenever it has a value, and keeps even that sign.

Each message has its own theorem `carries_toFields`, which goes through its fields in the order in
which they are written. A message inside another is read back by `record?_ofMessage`, and the report
is put together from these.

**The length.** A length stands in a word. So the bytes of a report must not be more than a word can
tell, as all bytes in a memory are.
-/

namespace Telemetry

open Wire Wire.Field

/-- A message inside a field is put together as its fields say. -/
theorem record?_ofMessage {α : Type} [Inhabited α] {merge : α → Field → Option α}
    {fields : List Field} {b : α} (h : Carries merge fields default b) (hfits : Fits fields)
    (number : Nat) : record? merge (ofMessage number fields) = some b :=
  h.merge_parse? hfits (nestingLimit - 1)

/-- A list of messages, each in a field of its own. -/
theorem Wire.Field.Carries.messages {α β : Type} [Inhabited β] {merge : α → Field → Option α}
    {fields : List Field} {a b : α} {number : Nat} (h : Carries merge fields a b)
    (hnumber : IsNumber number) (l : List β) {mergeRecord : β → Field → Option β}
    {toFields : β → List Field} {norm : β → β}
    (hrecord : ∀ x, Carries mergeRecord (toFields x) default (norm x))
    (set : α → List β → α) (hskip : set b [] = b)
    (hset : ∀ done v, merge (set b done) ⟨number, v⟩ =
      (record? mergeRecord ⟨number, v⟩).map fun x ↦ set b (done ++ [x])) :
    Carries merge (fields ++ l.map fun x ↦ ofMessage number (toFields x)) a
      (set b (l.map norm)) := by
  refine h.repeated l (fun x ↦ ofMessage number (toFields x)) norm set hskip fun x ↦
    ⟨⟨hnumber, trivial⟩, fun hfits done ↦ ?_⟩
  have hread := record?_ofMessage (hrecord x) hfits.nested number
  rw [ofMessage, hset, ← ofMessage, hread, Option.map_some]

/-! ### Zeros without a sign -/

/-- The zero with a minus. -/
def Double.negativeZero : Double :=
  ⟨0x8000000000000000⟩

/-- Only a zero with a minus loses its sign. -/
theorem Double.unsignedZero_eq_iff (d : Double) : d.unsignedZero = d ↔ d ≠ negativeZero := by
  obtain ⟨bits⟩ := d
  simp only [unsignedZero, isZero, negativeZero, ne_eq, Double.mk.injEq, Bool.or_eq_true,
    beq_iff_eq]
  split
  · next h =>
    rcases h with rfl | rfl
    · simp
    · simp
  · next h =>
    simp only [not_or] at h
    simpa using h.2

namespace Rates

/-- The rates with zeros without a sign. -/
def unsignedZeros (r : Rates) : Rates where
  m1 := r.m1.unsignedZero
  m5 := r.m5.unsignedZero
  m15 := r.m15.unsignedZero
  mean := r.mean.unsignedZero

/-- The doubles of rates. -/
def doubles (r : Rates) : List Double :=
  [r.m1, r.m5, r.m15, r.mean]

theorem unsignedZeros_eq_iff (r : Rates) :
    r.unsignedZeros = r ↔ ∀ d ∈ r.doubles, d ≠ .negativeZero := by
  obtain ⟨m1, m5, m15, mean⟩ := r
  simp [unsignedZeros, doubles, Double.unsignedZero_eq_iff]

end Rates

namespace Summary

/-- The summary with zeros without a sign. -/
def unsignedZeros (s : Summary) : Summary where
  min := s.min.unsignedZero
  max := s.max.unsignedZero
  mean := s.mean.unsignedZero
  std := s.std.unsignedZero
  median := s.median.unsignedZero
  p75 := s.p75.unsignedZero
  p95 := s.p95.unsignedZero
  p98 := s.p98.unsignedZero
  p99 := s.p99.unsignedZero
  p999 := s.p999.unsignedZero

/-- The doubles of a summary. -/
def doubles (s : Summary) : List Double :=
  [s.min, s.max, s.mean, s.std, s.median, s.p75, s.p95, s.p98, s.p99, s.p999]

theorem unsignedZeros_eq_iff (s : Summary) :
    s.unsignedZeros = s ↔ ∀ d ∈ s.doubles, d ≠ .negativeZero := by
  obtain ⟨min, max, mean, std, median, p75, p95, p98, p99, p999⟩ := s
  simp [unsignedZeros, doubles, Double.unsignedZero_eq_iff]

/-- The summary as far as its first `k` fields. -/
def upTo (s : Summary) (k : Nat) : Summary where
  min := if 1 ≤ k then s.min else {}
  max := if 2 ≤ k then s.max else {}
  mean := if 3 ≤ k then s.mean else {}
  std := if 4 ≤ k then s.std else {}
  median := if 5 ≤ k then s.median else {}
  p75 := if 6 ≤ k then s.p75 else {}
  p95 := if 7 ≤ k then s.p95 else {}
  p98 := if 8 ≤ k then s.p98 else {}
  p99 := if 9 ≤ k then s.p99 else {}
  p999 := if 10 ≤ k then s.p999 else {}

/-- **The fields of a summary carry it**, one double each. -/
theorem carries_toFields (s : Summary) : Carries merge s.toFields {} s.unsignedZeros := by
  -- the numbers of the fields are their places, so field `k` takes what is read up to `k`
  let u := s.unsignedZeros.upTo
  have h : Carries merge [] {} (u 0) := .nil merge {}
  have h : Carries merge _ {} (u 1) :=
    h.double (by decide : IsNumber 1) s.min ({ · with min := · }) rfl fun _ ↦ rfl
  have h : Carries merge _ {} (u 2) :=
    h.double (by decide : IsNumber 2) s.max ({ · with max := · }) rfl fun _ ↦ rfl
  have h : Carries merge _ {} (u 3) :=
    h.double (by decide : IsNumber 3) s.mean ({ · with mean := · }) rfl fun _ ↦ rfl
  have h : Carries merge _ {} (u 4) :=
    h.double (by decide : IsNumber 4) s.std ({ · with std := · }) rfl fun _ ↦ rfl
  have h : Carries merge _ {} (u 5) :=
    h.double (by decide : IsNumber 5) s.median ({ · with median := · }) rfl fun _ ↦ rfl
  have h : Carries merge _ {} (u 6) :=
    h.double (by decide : IsNumber 6) s.p75 ({ · with p75 := · }) rfl fun _ ↦ rfl
  have h : Carries merge _ {} (u 7) :=
    h.double (by decide : IsNumber 7) s.p95 ({ · with p95 := · }) rfl fun _ ↦ rfl
  have h : Carries merge _ {} (u 8) :=
    h.double (by decide : IsNumber 8) s.p98 ({ · with p98 := · }) rfl fun _ ↦ rfl
  have h : Carries merge _ {} (u 9) :=
    h.double (by decide : IsNumber 9) s.p99 ({ · with p99 := · }) rfl fun _ ↦ rfl
  have h : Carries merge _ {} (u 10) :=
    h.double (by decide : IsNumber 10) s.p999 ({ · with p999 := · }) rfl fun _ ↦ rfl
  exact h

end Summary

/-- The summary of a record, read where there was none before. -/
theorem mergeSummary_ofMessage {s : Summary} (hfits : Fits s.toFields) (number : Nat) :
    mergeSummary none (ofMessage number s.toFields) = some (some s.unsignedZeros) := by
  have hread : s.toFields.foldlM Summary.merge {} = some s.unsignedZeros :=
    s.carries_toFields.reads hfits
  have hmessage : (ofMessage number s.toFields).message? (nestingLimit - 2) = some s.toFields :=
    parse?_encodeAll s.carries_toFields.plain hfits _
  rw [mergeSummary, hmessage]
  simp only [Option.bind_eq_bind, Option.bind_some, Option.getD_none, hread]
  rfl

/-! ### Records -/

/-- A gauge is carried by its name and, if it has a value, a number or a text. -/
theorem GaugeRecord.carries_toFields (g : GaugeRecord) : Carries merge g.toFields {} g := by
  have h := Carries.nil merge {}
  have h := h.name (by decide : IsNumber 1) g.name ({ · with name := · }) rfl fun _ ↦ rfl
  refine h.append ?_
  obtain ⟨name, value⟩ := g
  match value with
  | none => exact .nil _ _
  | some (.number d) => exact .singleton ⟨(by decide : IsNumber 2), trivial⟩ fun _ ↦ rfl
  | some (.text s) =>
    refine .singleton ⟨(by decide : IsNumber 3), trivial⟩ fun _ ↦ ?_
    show (text? (ofText 3 s)).map _ = _
    rw [text?_ofText]
    rfl

theorem CounterRecord.carries_toFields (c : CounterRecord) : Carries merge c.toFields {} c := by
  have h := Carries.nil merge {}
  have h := h.name (by decide : IsNumber 1) c.name ({ · with name := · }) rfl fun _ ↦ rfl
  exact h.word (by decide : IsNumber 2) c.count ({ · with count := · }) rfl fun _ ↦ rfl

namespace MeterRecord

/-- The meter with zeros without a sign. -/
def unsignedZeros (m : MeterRecord) : MeterRecord :=
  { m with rates := m.rates.unsignedZeros }

/-- The doubles of a meter. -/
def doubles (m : MeterRecord) : List Double :=
  m.rates.doubles

theorem unsignedZeros_eq_iff (m : MeterRecord) :
    m.unsignedZeros = m ↔ ∀ d ∈ m.doubles, d ≠ .negativeZero := by
  obtain ⟨name, count, rates⟩ := m
  simp [unsignedZeros, doubles, Rates.unsignedZeros_eq_iff]

/-- A meter is carried by its name, its count and four rates. -/
theorem carries_toFields (m : MeterRecord) : Carries merge m.toFields {} m.unsignedZeros := by
  have h := Carries.nil merge {}
  have h := h.name (by decide : IsNumber 1) m.name ({ · with name := · }) rfl fun _ ↦ rfl
  have h := h.word (by decide : IsNumber 2) m.count ({ · with count := · }) rfl fun _ ↦ rfl
  have h := h.double (by decide : IsNumber 3) m.rates.m1 ({ · with rates.m1 := · }) rfl fun _ ↦ rfl
  have h := h.double (by decide : IsNumber 4) m.rates.m5 ({ · with rates.m5 := · }) rfl fun _ ↦ rfl
  have h := h.double (by decide : IsNumber 5) m.rates.m15 ({ · with rates.m15 := · }) rfl
    fun _ ↦ rfl
  have h := h.double (by decide : IsNumber 6) m.rates.mean ({ · with rates.mean := · }) rfl
    fun _ ↦ rfl
  simp only [List.nil_append, List.append_assoc] at h
  simp only [toFields, Rates.toFields, List.append_assoc]
  exact h

end MeterRecord

namespace HistogramRecord

/-- The histogram with zeros without a sign. -/
def unsignedZeros (h : HistogramRecord) : HistogramRecord :=
  { h with summary := h.summary.map Summary.unsignedZeros }

/-- The doubles of a histogram. -/
def doubles (h : HistogramRecord) : List Double :=
  h.summary.toList.flatMap Summary.doubles

theorem unsignedZeros_eq_iff (h : HistogramRecord) :
    h.unsignedZeros = h ↔ ∀ d ∈ h.doubles, d ≠ .negativeZero := by
  obtain ⟨name, count, summary, payload⟩ := h
  cases summary <;> simp [unsignedZeros, doubles, Summary.unsignedZeros_eq_iff]

/-- A histogram is carried by its name and its count, and by the summary and the payload that it may
have. -/
theorem carries_toFields (r : HistogramRecord) : Carries merge r.toFields {} r.unsignedZeros := by
  have h := Carries.nil merge {}
  have h := h.name (by decide : IsNumber 1) r.name ({ · with name := · }) rfl fun _ ↦ rfl
  have h := h.word (by decide : IsNumber 2) r.count ({ · with count := · }) rfl fun _ ↦ rfl
  have h := h.optional r.summary (fun s ↦ .ofMessage 3 s.toFields)
    (fun r s ↦ { r with summary := s.map Summary.unsignedZeros }) rfl fun s ↦ by
      refine ⟨⟨(by decide : IsNumber 3), trivial⟩, fun hfits ↦ ?_⟩
      show (mergeSummary none (ofMessage 3 s.toFields)).map _ = _
      rw [mergeSummary_ofMessage hfits.nested]
      rfl
  exact h.optional r.payload (fun b ↦ ⟨4, .bytes b⟩) ({ · with payload := · }) rfl
    fun _ ↦ ⟨⟨(by decide : IsNumber 4), trivial⟩, fun _ ↦ rfl⟩

end HistogramRecord

namespace TimerRecord

/-- The timer with zeros without a sign. -/
def unsignedZeros (t : TimerRecord) : TimerRecord :=
  { t with
    rates := t.rates.unsignedZeros
    summary := t.summary.map Summary.unsignedZeros }

/-- The doubles of a timer. -/
def doubles (t : TimerRecord) : List Double :=
  t.rates.doubles ++ t.summary.toList.flatMap Summary.doubles

theorem unsignedZeros_eq_iff (t : TimerRecord) :
    t.unsignedZeros = t ↔ ∀ d ∈ t.doubles, d ≠ .negativeZero := by
  obtain ⟨name, count, rates, summary, payload⟩ := t
  cases summary <;>
    simp [unsignedZeros, doubles, Rates.unsignedZeros_eq_iff, Summary.unsignedZeros_eq_iff,
      or_imp, forall_and]

/-- A timer is carried by all that carries a meter and a histogram. -/
theorem carries_toFields (r : TimerRecord) : Carries merge r.toFields {} r.unsignedZeros := by
  have h := Carries.nil merge {}
  have h := h.name (by decide : IsNumber 1) r.name ({ · with name := · }) rfl fun _ ↦ rfl
  have h := h.word (by decide : IsNumber 2) r.count ({ · with count := · }) rfl fun _ ↦ rfl
  have h := h.double (by decide : IsNumber 3) r.rates.m1 ({ · with rates.m1 := · }) rfl fun _ ↦ rfl
  have h := h.double (by decide : IsNumber 4) r.rates.m5 ({ · with rates.m5 := · }) rfl fun _ ↦ rfl
  have h := h.double (by decide : IsNumber 5) r.rates.m15 ({ · with rates.m15 := · }) rfl
    fun _ ↦ rfl
  have h : Carries merge _ {}
      { name := r.name, count := r.count, rates := r.rates.unsignedZeros } :=
    h.double (by decide : IsNumber 6) r.rates.mean ({ · with rates.mean := · }) rfl fun _ ↦ rfl
  have h := h.optional r.summary (fun s ↦ .ofMessage 7 s.toFields)
    (fun r s ↦ { r with summary := s.map Summary.unsignedZeros }) rfl fun s ↦ by
      refine ⟨⟨(by decide : IsNumber 7), trivial⟩, fun hfits ↦ ?_⟩
      show (mergeSummary none (ofMessage 7 s.toFields)).map _ = _
      rw [mergeSummary_ofMessage hfits.nested]
      rfl
  have h := h.optional r.payload (fun b ↦ ⟨8, .bytes b⟩) ({ · with payload := · }) rfl
    fun _ ↦ ⟨⟨(by decide : IsNumber 8), trivial⟩, fun _ ↦ rfl⟩
  simp only [List.nil_append, List.append_assoc] at h
  simp only [toFields, Rates.toFields, List.append_assoc]
  exact h

end TimerRecord

theorem Alert.carries_toFields (a : Alert) : Carries merge a.toFields {} a := by
  have h := Carries.nil merge {}
  have h := h.name (by decide : IsNumber 1) a.name ({ · with name := · }) rfl fun _ ↦ rfl
  have h := h.code (by decide : IsNumber 2) a.severity ({ · with severity := · }) rfl fun _ ↦ rfl
  exact h.name (by decide : IsNumber 3) a.message ({ · with message := · }) rfl fun _ ↦ rfl

/-! ### Reports -/

namespace Report

/-- The report with zeros without a sign, except in gauges. -/
def unsignedZeros (r : Report) : Report :=
  { r with
    meters := r.meters.map MeterRecord.unsignedZeros
    histograms := r.histograms.map HistogramRecord.unsignedZeros
    timers := r.timers.map TimerRecord.unsignedZeros }

/-- The report as far as its first `k` fields. -/
def upTo (r : Report) (k : Nat) : Report where
  version := if 1 ≤ k then r.version else 0
  timestamp := if 2 ≤ k then r.timestamp else 0
  rateUnit := if 3 ≤ k then r.rateUnit else 0
  durationUnit := if 4 ≤ k then r.durationUnit else 0
  application := if 5 ≤ k then r.application else none
  host := if 6 ≤ k then r.host else none
  instanceName := if 7 ≤ k then r.instanceName else none
  role := if 8 ≤ k then r.role else none
  description := if 9 ≤ k then r.description else none
  status := if 10 ≤ k then r.status else none
  gauges := if 11 ≤ k then r.gauges else []
  counters := if 12 ≤ k then r.counters else []
  meters := if 13 ≤ k then r.meters else []
  histograms := if 14 ≤ k then r.histograms else []
  timers := if 15 ≤ k then r.timers else []
  alerts := if 16 ≤ k then r.alerts else []

/-- **The fields of a report carry it**: the frame in ten fields, and each record and alert in a
field of its own. -/
theorem carries_toFields (r : Report) : Carries merge r.toFields {} r.unsignedZeros := by
  -- again the numbers of the fields are their places
  let u := r.unsignedZeros.upTo
  have hversion : r.version.toUInt64.toUInt32 = r.version := UInt32.toUInt32_toUInt64 _
  have htimestamp : r.timestamp.toUInt64.toInt64 = r.timestamp := Int64.toInt64_toUInt64 _
  have h : Carries merge [] {} (u 0) := .nil merge {}
  have h := h.word (by decide : IsNumber 1) r.version.toUInt64
    (fun r n ↦ { r with version := n.toUInt32 }) rfl fun _ ↦ rfl
  rw [hversion] at h
  have h := h.word (by decide : IsNumber 2) r.timestamp.toUInt64
    (fun r n ↦ { r with timestamp := n.toInt64 }) rfl fun _ ↦ rfl
  rw [htimestamp] at h
  have h : Carries merge _ {} (u 2) := h
  have h : Carries merge _ {} (u 3) :=
    h.code (by decide : IsNumber 3) r.rateUnit ({ · with rateUnit := · }) rfl fun _ ↦ rfl
  have h : Carries merge _ {} (u 4) :=
    h.code (by decide : IsNumber 4) r.durationUnit ({ · with durationUnit := · }) rfl fun _ ↦ rfl
  have h : Carries merge _ {} (u 5) :=
    h.text (by decide : IsNumber 5) r.application ({ · with application := · }) rfl fun _ ↦ rfl
  have h : Carries merge _ {} (u 6) :=
    h.text (by decide : IsNumber 6) r.host ({ · with host := · }) rfl fun _ ↦ rfl
  have h : Carries merge _ {} (u 7) :=
    h.text (by decide : IsNumber 7) r.instanceName ({ · with instanceName := · }) rfl fun _ ↦ rfl
  have h : Carries merge _ {} (u 8) :=
    h.text (by decide : IsNumber 8) r.role ({ · with role := · }) rfl fun _ ↦ rfl
  have h : Carries merge _ {} (u 9) :=
    h.text (by decide : IsNumber 9) r.description ({ · with description := · }) rfl fun _ ↦ rfl
  have h : Carries merge _ {} (u 10) :=
    h.text (by decide : IsNumber 10) r.status ({ · with status := · }) rfl fun _ ↦ rfl
  have h := h.messages (by decide : IsNumber 11) r.gauges GaugeRecord.carries_toFields
    ({ · with gauges := · }) rfl fun _ _ ↦ rfl
  rw [List.map_id'] at h
  have h := h.messages (by decide : IsNumber 12) r.counters CounterRecord.carries_toFields
    ({ · with counters := · }) rfl fun _ _ ↦ rfl
  rw [List.map_id'] at h
  have h : Carries merge _ {} (u 12) := h
  have h : Carries merge _ {} (u 13) :=
    h.messages (by decide : IsNumber 13) r.meters MeterRecord.carries_toFields
      ({ · with meters := · }) rfl fun _ _ ↦ rfl
  have h : Carries merge _ {} (u 14) :=
    h.messages (by decide : IsNumber 14) r.histograms HistogramRecord.carries_toFields
      ({ · with histograms := · }) rfl fun _ _ ↦ rfl
  have h : Carries merge _ {} (u 15) :=
    h.messages (by decide : IsNumber 15) r.timers TimerRecord.carries_toFields
      ({ · with timers := · }) rfl fun _ _ ↦ rfl
  have h := h.messages (by decide : IsNumber 16) r.alerts Alert.carries_toFields
    ({ · with alerts := · }) rfl fun _ _ ↦ rfl
  rw [List.map_id'] at h
  exact h

/-- The doubles of a report that are left out when they are zero: the rates and the summaries. -/
def plainDoubles (r : Report) : List Double :=
  r.meters.flatMap MeterRecord.doubles ++ r.histograms.flatMap HistogramRecord.doubles ++
    r.timers.flatMap TimerRecord.doubles

/-- Nothing is lost if and only if there is no zero with a minus among the plain doubles. -/
theorem unsignedZeros_eq_iff (r : Report) :
    r.unsignedZeros = r ↔ ∀ d ∈ r.plainDoubles, d ≠ .negativeZero := by
  have hlist : ∀ {α : Type} {f : α → α} {doubles : α → List Double} (l : List α),
      (∀ x, f x = x ↔ ∀ d ∈ doubles x, d ≠ .negativeZero) →
        (l.map f = l ↔ ∀ d ∈ l.flatMap doubles, d ≠ .negativeZero) := by
    intro α f doubles l hf
    have hmap := List.map_inj_left (f := f) (g := id) (l := l)
    rw [List.map_id] at hmap
    simp only [hmap, id_eq, hf, List.mem_flatMap]
    exact ⟨fun h d ⟨x, hx, hd⟩ ↦ h x hx d hd, fun h x hx d hd ↦ h d ⟨x, hx, hd⟩⟩
  have hmeters := hlist r.meters MeterRecord.unsignedZeros_eq_iff
  have hhistograms := hlist r.histograms HistogramRecord.unsignedZeros_eq_iff
  have htimers := hlist r.timers TimerRecord.unsignedZeros_eq_iff
  have hparts : r.unsignedZeros = r ↔ r.meters.map MeterRecord.unsignedZeros = r.meters ∧
      r.histograms.map HistogramRecord.unsignedZeros = r.histograms ∧
      r.timers.map TimerRecord.unsignedZeros = r.timers := by
    obtain ⟨⟩ := r
    simp [unsignedZeros]
  rw [hparts, hmeters, hhistograms, htimers, plainDoubles]
  simp only [List.mem_append, or_imp, forall_and, and_assoc]

/-- **A report is read back as it was written**, but for the signs of zeros among its rates and
summaries, and so bit for bit if and only if no such zero has a minus. This goes for any report,
drafted or not, as long as its bytes can be counted by a word, as they are in memory. -/
theorem decode?_encode (r : Report) (hlength : r.encode.length < 2 ^ 64) :
    decode? r.encode = some r.unsignedZeros ∧
      (decode? r.encode = some r ↔ ∀ d ∈ r.plainDoubles, d ≠ .negativeZero) := by
  have hread : decode? r.encode = some r.unsignedZeros :=
    r.carries_toFields.merge_parse? hlength nestingLimit
  refine ⟨hread, ?_⟩
  rw [hread, Option.some.injEq, unsignedZeros_eq_iff]

/-- A gauge and a meter with the same zero, and a code without a meaning. -/
theorem decode?_encode_small :
    let r : Report :=
      { rateUnit := -1
        role := some ""
        gauges := [⟨"g", some (.number .negativeZero)⟩]
        meters := [⟨"m", 7, { m5 := .negativeZero }⟩] }
    r.encode.length < 2 ^ 64 ∧
      decode? r.encode = some { r with meters := [⟨"m", 7, {}⟩] } ∧ decode? r.encode ≠ some r := by
  intro r
  have hlength : r.encode.length < 2 ^ 64 := by
    decide +kernel
  obtain ⟨hread, hexact⟩ := decode?_encode r hlength
  refine ⟨hlength, hread, fun h ↦ ?_⟩
  exact hexact.1 h .negativeZero (by decide) rfl

end Report

end Telemetry
