import Mathlib
import Telemetry.Proofs.Meter
import Telemetry.Proofs.Reservoir.Rotation
import Telemetry.Proofs.Store

/-!
# What going through a catalogue does

A walk changes the store while it goes, and each metric sees what was done before it. The changes
are of three kinds, which are kept apart here.

* **Reservoirs are read.** For each source, the readings among those taken are successive readings
  of its reservoir as it was before, and the walk leaves what they leave (`walkSources_reads`).
* **Metrics left out are counted**, in one counter, which may itself be met on the way. The counts
  that a walk meets are `seen`, and records are made for those of them that changed
  (`counts_walkCounters`, `counts_walkMeters`, `entries_walkSources`).
* **Meters catch up.** Nothing else happens to the store, and giving readings back does less than
  that (`Store.Kept`).

Records show metrics as they were before the walk (`records_meters`, `records_sources`). Those of
sources and the readings taken come in pairs (`walkSources_pairs`), so a record can be traced to the
source that it was read from.
-/

namespace Telemetry

/-! ### What is kept -/

/-- Reservoirs and the metrics of a set aside, one store shows what another one shows at a time:
meters may have caught up. -/
structure Store.Kept (P : Handle → Prop) (now : Span) (s s' : Store) : Prop where
  gauge : ∀ id, ¬P (.gauge id) → s'.gauge id = s.gauge id
  counter : ∀ id, ¬P (.counter id) → s'.counter id = s.counter id
  meter : ∀ id, ¬P (.meter id) → (s'.meter id).catchUp now = (s.meter id).catchUp now
  timer : ∀ id, ¬P (.timer id) →
    (s'.timer id).meter.catchUp now = (s.timer id).meter.catchUp now
  count : ∀ x : Source, ¬P x.handle → x.count s' = x.count s

namespace Store.Kept

variable {P : Handle → Prop} {now : Span} {s s' s'' : Store}

theorem refl (s : Store) : s.Kept P now s :=
  ⟨fun _ _ ↦ rfl, fun _ _ ↦ rfl, fun _ _ ↦ rfl, fun _ _ ↦ rfl, fun _ _ ↦ rfl⟩

theorem symm (h : s.Kept P now s') : s'.Kept P now s where
  gauge id hid := (h.gauge id hid).symm
  counter id hid := (h.counter id hid).symm
  meter id hid := (h.meter id hid).symm
  timer id hid := (h.timer id hid).symm
  count x hx := (h.count x hx).symm

theorem trans (h₁ : s.Kept P now s') (h₂ : s'.Kept P now s'') : s.Kept P now s'' where
  gauge id hid := (h₂.gauge id hid).trans (h₁.gauge id hid)
  counter id hid := (h₂.counter id hid).trans (h₁.counter id hid)
  meter id hid := (h₂.meter id hid).trans (h₁.meter id hid)
  timer id hid := (h₂.timer id hid).trans (h₁.timer id hid)
  count x hx := (h₂.count x hx).trans (h₁.count x hx)

/-- What is kept outside a set is kept outside a larger one. -/
theorem mono {Q : Handle → Prop} (h : s.Kept P now s') (hP : ∀ x, P x → Q x) : s.Kept Q now s' where
  gauge id hid := h.gauge id fun hp ↦ hid (hP _ hp)
  counter id hid := h.counter id fun hp ↦ hid (hP _ hp)
  meter id hid := h.meter id fun hp ↦ hid (hP _ hp)
  timer id hid := h.timer id fun hp ↦ hid (hP _ hp)
  count x hx := h.count x fun hp ↦ hx (hP _ hp)

theorem meter_count (h : s.Kept P now s') {id : MetricId Meter} (hid : ¬P (.meter id)) :
    (s'.meter id).count = (s.meter id).count := by
  rw [← Meter.count_catchUp _ now, h.meter id hid, Meter.count_catchUp]

/-- Setting a gauge of the set keeps the rest. -/
theorem setGauge (s : Store) {id : MetricId Gauge} (hid : P (.gauge id)) (g : Gauge) :
    s.Kept P now (s.setGauge id g) where
  gauge j hj := by
    rw [gauge_setGauge, if_neg]
    rintro rfl
    exact hj hid
  counter _ _ := rfl
  meter _ _ := rfl
  timer _ _ := rfl
  count x _ := by rw [Source.count_eq, Source.count_eq, Source.held_setGauge]

/-- Setting a counter of the set keeps the rest. -/
theorem setCounter (s : Store) {id : MetricId Counter} (hid : P (.counter id)) (c : Counter) :
    s.Kept P now (s.setCounter id c) where
  gauge _ _ := rfl
  counter j hj := by
    rw [counter_setCounter, if_neg]
    rintro rfl
    exact hj hid
  meter _ _ := rfl
  timer _ _ := rfl
  count x _ := by rw [Source.count_eq, Source.count_eq, Source.held_setCounter]

/-- A meter that has caught up, or one of the set. -/
theorem setMeter (s : Store) {id : MetricId Meter} {m : Meter}
    (hm : ¬P (.meter id) → m.catchUp now = (s.meter id).catchUp now) :
    s.Kept P now (s.setMeter id m) where
  gauge _ _ := rfl
  counter _ _ := rfl
  meter j hj := by
    rw [meter_setMeter]
    split
    · next h =>
      rw [h] at hj ⊢
      exact hm hj
    · rfl
  timer _ _ := rfl
  count x _ := by rw [Source.count_eq, Source.count_eq, Source.held_setMeter]

/-- A histogram of the same count, or one of the set. -/
theorem setHistogram (s : Store) {id : MetricId Histogram} {h : Histogram}
    (hcount : ¬P (.histogram id) → h.count = (s.histogram id).count) :
    s.Kept P now (s.setHistogram id h) where
  gauge _ _ := rfl
  counter _ _ := rfl
  meter _ _ := rfl
  timer _ _ := rfl
  count x hx := by
    rw [Source.count_eq, Source.count_eq, Source.held_setHistogram]
    split
    · next h =>
      rw [h] at hx ⊢
      exact hcount hx
    · rfl

/-- A timer of the same count that has caught up, or one of the set. -/
theorem setTimer (s : Store) {id : MetricId Timer} {t : Timer}
    (ht : ¬P (.timer id) → t.count = (s.timer id).count ∧
      t.meter.catchUp now = (s.timer id).meter.catchUp now) :
    s.Kept P now (s.setTimer id t) where
  gauge _ _ := rfl
  counter _ _ := rfl
  meter _ _ := rfl
  timer j hj := by
    rw [timer_setTimer]
    split
    · next h =>
      rw [h] at hj ⊢
      exact (ht hj).2
    · rfl
  count x hx := by
    rw [Source.count_eq, Source.count_eq, Source.held_setTimer]
    split
    · next h =>
      rw [h] at hx ⊢
      exact (ht hx).1
    · rfl

/-- Reading a source changes its reservoir only. -/
theorem read (x : Source) (s : Store) : s.Kept P now (x.read s).2 := by
  cases x with
  | histogram id => exact setHistogram s fun _ ↦ rfl
  | timer id => exact setTimer s fun _ ↦ ⟨rfl, rfl⟩

/-- Reading the rates of a meter lets it catch up. -/
theorem readMeter (s : Store) {id : MetricId Meter} {rates : PerSecond} {m : Meter}
    (h : (s.meter id).read now = (rates, m)) : s.Kept P now (s.setMeter id m) :=
  have hm : (s.meter id).catchUp now = m := congrArg Prod.snd h
  setMeter s fun _ ↦ hm ▸ Meter.catchUp_catchUp _ _

/-- Giving a reading back changes the reservoir of its source only. -/
theorem restore (x : Source) (s : Store) (r : Reading) : s.Kept P now (x.restore s r) := by
  cases x with
  | histogram id => exact setHistogram s fun _ ↦ rfl
  | timer id => exact setTimer s fun _ ↦ ⟨rfl, rfl⟩

/-- Giving readings back keeps everything but reservoirs. -/
theorem restoreAll (taken : List (Source × Reading)) (s : Store) :
    s.Kept P now (restoreAll taken s) := by
  induction taken generalizing s with
  | nil => exact refl s
  | cons t taken ih => exact (restore t.1 s t.2).trans (ih _)

/-- Making a record lets the meter of a timer catch up at most. -/
theorem record (p : Presentation) (name : String) (count : UInt64) (d : Digest) (x : Source)
    (s : Store) : s.Kept P now (p.record now name count d s x).2 := by
  cases x with
  | histogram id => exact refl s
  | timer id => exact setTimer s fun _ ↦ ⟨rfl, Meter.catchUp_catchUp _ now⟩

end Store.Kept

namespace Presentation

variable (p : Presentation) (e : Setting) (s : Store)

/-- Making a record leaves all reservoirs as they are. -/
theorem held_record (now : Span) (name : String) (count : UInt64) (d : Digest) (x y : Source) :
    y.held (p.record now name count d s x).2 = y.held s := by
  cases x with
  | histogram id => rfl
  | timer id =>
    show y.held (s.setTimer id ((s.timer id).readRates now).2) = y.held s
    rw [Source.held_setTimer]
    split
    · next h =>
      rw [h]
      rfl
    · rfl

/-- Making a record of a source keeps everything but its reservoir. -/
theorem kept_recorded (name : String) (count : UInt64) (d : Digest) (x : Source) :
    s.Kept (fun _ ↦ False) e.now (p.record e.now name count d (x.read s).2 x).2 :=
  (Store.Kept.read x s).trans (.record p name count d x _)

variable {P : Handle → Prop}

/-- A walk over counters changes the counter of metrics left out. -/
theorem walkCounters_kept (he : P (.counter e.skipped)) (l : List (String × MetricId Counter)) :
    s.Kept P e.now (walkCounters e s l).store := by
  fun_induction walkCounters e s l with
  | case1 s => exact .refl s
  | case2 s name id rest count hsame ih => exact (Store.Kept.setCounter s he _).trans ih
  | case3 s name id rest count hchanged ih => exact ih

/-- A walk over meters lets these catch up besides. -/
theorem walkMeters_kept (he : P (.counter e.skipped)) (l : List (String × MetricId Meter)) :
    s.Kept P e.now (walkMeters p e s l).store := by
  fun_induction walkMeters p e s l with
  | case1 s => exact .refl s
  | case2 s name id rest count hsame ih => exact (Store.Kept.setCounter s he _).trans ih
  | case3 s name id rest count hchanged rates m hread ih =>
    exact (Store.Kept.readMeter s hread).trans ih

/-- A walk over sources takes readings besides. All that each step changes is a reservoir, a meter that
catches up, or the counter of metrics left out. -/
theorem walkSources_kept (he : P (.counter e.skipped)) (l : List (String × Source)) :
    s.Kept P e.now (walkSources p e s l).walk.store := by
  fun_induction walkSources p e s l with
  | case1 s => exact .refl s
  | case2 s name x rest count hsame ih => exact (Store.Kept.setCounter s he _).trans ih
  | case3 s name x rest count hchanged reading s₁ hread cause hdigest =>
    have hs₁ : s₁ = (x.read s).2 := (congrArg Prod.snd hread).symm
    rw [hs₁]
    exact .read x s
  | case4 s name x rest count hchanged reading s₁ hread d hdigest record s₂ hrecord w ih =>
    have hs₁ : s₁ = (x.read s).2 := (congrArg Prod.snd hread).symm
    have hs₂ : s₂ = (p.record e.now name count d s₁ x).2 := (congrArg Prod.snd hrecord).symm
    have hkept : s.Kept P e.now s₂ := by
      rw [hs₂, hs₁]
      exact (Store.Kept.read x s).trans (.record p name count d x _)
    exact hkept.trans ih

/-- What a walk does with the first source that it meets. -/
theorem walkSources_cons (p : Presentation) (e : Setting) (s : Store) (name : String) (x : Source)
    (rest : List (String × Source)) :
    p.walkSources e s ((name, x) :: rest) =
      if e.ledger.unchanged name (x.count s) then p.walkSources e (e.skip s) rest
      else match (x.read s).1.digest p.mode (p.scale x) with
      | .error cause =>
        ⟨⟨[], [(name, x.count s)], (x.read s).2⟩, [(x, (x.read s).1)], some (.digest name cause)⟩
      | .ok d =>
        let record := p.record e.now name (x.count s) d (x.read s).2 x
        let w := p.walkSources e record.2 rest
        ⟨w.walk.cons record.1 name (x.count s), (x, (x.read s).1) :: w.taken, w.stopped⟩ :=
  rfl

/-! ### Reservoirs -/

@[simp] theorem held_skip (x : Source) : x.held (e.skip s) = x.held s :=
  x.held_setCounter s _ _

/-- A walk over counters leaves what sources hold. -/
theorem held_walkCounters (x : Source) (l : List (String × MetricId Counter)) :
    x.held (walkCounters e s l).store = x.held s := by
  fun_induction walkCounters e s l with
  | case1 s => rfl
  | case2 s name id rest count hsame ih => rw [ih, held_skip]
  | case3 s name id rest count hchanged ih => exact ih

/-- A walk over meters leaves what sources hold. -/
theorem held_walkMeters (x : Source) (l : List (String × MetricId Meter)) :
    x.held (walkMeters p e s l).store = x.held s := by
  fun_induction walkMeters p e s l with
  | case1 s => rfl
  | case2 s name id rest count hsame ih => rw [ih, held_skip]
  | case3 s name id rest count hchanged rates m hread ih =>
    exact ih.trans (x.held_setMeter s id m)

/-- **The readings of each source are successive readings of its reservoir**, and the walk leaves
what they leave. -/
theorem walkSources_reads (x : Source) (l : List (String × Source)) :
    (x.held s).reservoir.Reads (x.readings (walkSources p e s l).taken)
      (x.held (walkSources p e s l).walk.store).reservoir := by
  fun_induction walkSources p e s l with
  | case1 s => exact .done _
  | case2 s name y rest count hsame ih => rwa [held_skip] at ih
  | case3 s name y rest count hchanged reading s₁ hread cause hdigest =>
    have hr : reading = (y.held s).reservoir.read.1 :=
      (congrArg Prod.fst hread).symm.trans (y.reading_eq s)
    have hs₁ : s₁ = (y.read s).2 := (congrArg Prod.snd hread).symm
    dsimp only
    rw [hs₁, Source.held_read, Source.readings_cons, Source.readings_nil]
    by_cases h : x = y
    · rw [if_pos h, if_pos h.symm, hr, h]
      exact .read (.done _)
    · rw [if_neg h, if_neg (Ne.symm h)]
      exact .done _
  | case4 s name y rest count hchanged reading s₁ hread d hdigest record s₂ hrecord w ih =>
    have hr : reading = (y.held s).reservoir.read.1 :=
      (congrArg Prod.fst hread).symm.trans (y.reading_eq s)
    have hs₁ : s₁ = (y.read s).2 := (congrArg Prod.snd hread).symm
    have hs₂ : s₂ = (p.record e.now name count d s₁ y).2 := (congrArg Prod.snd hrecord).symm
    rw [hs₂, held_record, hs₁, Source.held_read, ← hs₁, ← hs₂] at ih
    rw [Source.readings_cons]
    by_cases h : x = y
    · rw [if_pos h] at ih
      rw [if_pos h.symm, hr, ← h]
      exact .read ih
    · rw [if_neg h] at ih
      rw [if_neg (Ne.symm h)]
      exact ih

/-! ### Counts -/

/-- Whether a count is not the one last delivered under its name. -/
def Setting.changed (e : Setting) (v : String × UInt64) : Bool :=
  !e.ledger.unchanged v.1 v.2

/-- The counts of counters as a walk meets them. Leaving one out moves the counter of metrics left
out, which may be among those that follow. -/
def countersSeen (e : Setting) (s : Store) :
    List (String × MetricId Counter) → List (String × UInt64)
  | [] => []
  | (name, id) :: rest =>
    let count := (s.counter id).count
    (name, count) ::
      countersSeen e (if e.ledger.unchanged name count then e.skip s else s) rest

/-- Counters are seen under their names, in their order. -/
theorem names_countersSeen (l : List (String × MetricId Counter)) :
    (countersSeen e s l).map (·.1) = l.map (·.1) := by
  induction l generalizing s with
  | nil => rfl
  | cons c l ih => exact congrArg (c.1 :: ·) (ih _)

@[simp] theorem length_countersSeen (l : List (String × MetricId Counter)) :
    (countersSeen e s l).length = l.length := by
  rw [← List.length_map (·.1), names_countersSeen, List.length_map]

/-- The counts of meters. -/
def metersSeen (s : Store) (l : List (String × MetricId Meter)) : List (String × UInt64) :=
  l.map fun m ↦ (m.1, (s.meter m.2).count)

/-- The counts of histograms. -/
def histogramsSeen (s : Store) (l : List (String × MetricId Histogram)) : List (String × UInt64) :=
  l.map fun h ↦ (h.1, (s.histogram h.2).count)

/-- The counts of timers. -/
def timersSeen (s : Store) (l : List (String × MetricId Timer)) : List (String × UInt64) :=
  l.map fun t ↦ (t.1, (s.timer t.2).count)

/-- Sources are seen with their counts, histograms first. -/
theorem seen_sources (s : Store) (c : Catalogue) :
    histogramsSeen s c.histograms ++ timersSeen s c.timers =
      (sources c).map fun x ↦ (x.1, x.2.count s) := by
  rw [sources, List.map_append, List.map_map, List.map_map]
  rfl

/-- The counts of all metrics but gauges, in the order in which a report asks for them. -/
def seen (e : Setting) (s : Store) (c : Catalogue) : List (String × UInt64) :=
  countersSeen e s c.counters ++ metersSeen s c.meters ++
    (histogramsSeen s c.histograms ++ timersSeen s c.timers)

/-- A walk over counters keeps the counts that changed. -/
theorem counts_walkCounters (l : List (String × MetricId Counter)) :
    (walkCounters e s l).counts = (countersSeen e s l).filter e.changed := by
  fun_induction walkCounters e s l with
  | case1 s => rfl
  | case2 s name id rest count hsame ih =>
    rw [countersSeen, if_pos hsame,
      List.filter_cons_of_neg (by simpa [Setting.changed] using hsame), ih]
  | case3 s name id rest count hchanged ih =>
    rw [countersSeen, if_neg hchanged,
      List.filter_cons_of_pos (by simpa [Setting.changed] using hchanged), ← ih]
    rfl

/-- Meters are seen with the same counts in a store that keeps them. -/
theorem metersSeen_of_kept {now : Span} {s s' : Store} (h : s.Kept P now s')
    {l : List (String × MetricId Meter)} (hl : ∀ m ∈ l, ¬P (.meter m.2)) :
    metersSeen s' l = metersSeen s l :=
  List.map_congr_left fun m hm ↦ by rw [h.meter_count (hl m hm)]

/-- Leaving a metric out moves no meter. -/
theorem metersSeen_skip (l : List (String × MetricId Meter)) :
    metersSeen (e.skip s) l = metersSeen s l :=
  rfl

/-! ### Records -/

/-- The kind of metric that a record is about. -/
def SourceRecord.kind : SourceRecord → Kind
  | histogram _ => .histogram
  | timer _ => .timer

/-- The name of a record. -/
def SourceRecord.name : SourceRecord → String
  | histogram r => r.name
  | timer r => r.name

/-- The count of a record. -/
def SourceRecord.count : SourceRecord → UInt64
  | histogram r => r.count
  | timer r => r.count

/-- The written counts of a record. -/
def SourceRecord.payload : SourceRecord → Option (List UInt8)
  | histogram r => r.payload
  | timer r => r.payload

/-- What a record is about: its kind, name and count. -/
def SourceRecord.entry (r : SourceRecord) : Kind × String × UInt64 :=
  (r.kind, r.name, r.count)

/-- **What a record says of its source**: kind, name, count and payload. -/
theorem record_spec (now : Span) (name : String) (count : UInt64) (d : Digest) (x : Source) :
    (p.record now name count d s x).1.kind = x.handle.kind ∧
      (p.record now name count d s x).1.name = name ∧
      (p.record now name count d s x).1.count = count ∧
      (p.record now name count d s x).1.payload = d.payload := by
  cases x <;> exact ⟨rfl, rfl, rfl, rfl⟩

/-- There is a record for each count that is kept. -/
theorem records_walkCounters (l : List (String × MetricId Counter)) :
    (walkCounters e s l).records.map (fun r ↦ (r.name, r.count)) = (walkCounters e s l).counts := by
  fun_induction walkCounters e s l with
  | case1 s => rfl
  | case2 s name id rest count hsame ih => exact ih
  | case3 s name id rest count hchanged ih => exact congrArg _ ih

/-- There is a record for each count of a meter that is kept. -/
theorem records_walkMeters (l : List (String × MetricId Meter)) :
    (walkMeters p e s l).records.map (fun r ↦ (r.name, r.count)) =
      (walkMeters p e s l).counts := by
  fun_induction walkMeters p e s l with
  | case1 s => rfl
  | case2 s name id rest count hsame ih => exact ih
  | case3 s name id rest count hchanged rates m hread ih => exact congrArg _ ih

/-- The record of a meter as it is in a store. -/
def meterRecord (now : Span) (m : String × MetricId Meter) : MeterRecord :=
  ⟨m.1, (s.meter m.2).count, ((s.meter m.2).read now).1.toRates p.converter⟩

/-- Meters that have caught up at most have the same records. -/
theorem meterRecord_of_kept {now : Span} {s' : Store} (h : s.Kept P now s')
    {m : String × MetricId Meter} (hm : ¬P (.meter m.2)) :
    p.meterRecord s' now m = p.meterRecord s now m := by
  rw [meterRecord, meterRecord, h.meter_count hm, Meter.read_eq_of_catchUp_eq (h.meter m.2 hm)]

/-- **Meters are shown as they were before the walk.** -/
theorem records_meters (l : List (String × MetricId Meter)) :
    (walkMeters p e s l).records =
      (l.filter fun m ↦ e.changed (m.1, (s.meter m.2).count)).map (p.meterRecord s e.now) := by
  fun_induction walkMeters p e s l with
  | case1 s => rfl
  | case2 s name id rest count hsame ih =>
    rw [List.filter_cons_of_neg (by simpa [Setting.changed] using hsame), ih]
    rfl
  | case3 s name id rest count hchanged rates m hread ih =>
    have hkept : s.Kept (fun _ ↦ False) e.now (s.setMeter id m) := .readMeter s hread
    have hrates : ((s.meter id).read e.now).1 = rates := congrArg Prod.fst hread
    rw [List.filter_cons_of_pos (by simpa [Setting.changed] using hchanged), List.map_cons,
      meterRecord, hrates]
    refine congrArg _ (ih.trans ?_)
    simp only [hkept.meter_count not_false]
    exact List.map_congr_left fun x _ ↦ p.meterRecord_of_kept s hkept not_false

/-- A walk over meters keeps the counts that changed. -/
theorem counts_walkMeters (l : List (String × MetricId Meter)) :
    (walkMeters p e s l).counts = (metersSeen s l).filter e.changed := by
  rw [← records_walkMeters, records_meters, List.map_map, metersSeen, List.filter_map]
  rfl

/-- What ties a record to the reading that it was made from. -/
structure IsRecordOf (p : Presentation) (l : List (String × Source)) (r : SourceRecord)
    (t : Source × Reading) : Prop where
  mem : (r.name, t.1) ∈ l
  kind : r.kind = t.1.handle.kind
  digest : ∃ d, t.2.digest p.mode (p.scale t.1) = .ok d ∧ r.payload = d.payload

/-- The record of a source as it is in a store, made of a reading of its reservoir. -/
structure ShowsSource (now : Span) (l : List (String × Source)) (r : SourceRecord)
    (t : Source × Reading) : Prop where
  mem : (r.name, t.1) ∈ l
  record : ∃ d, t.2.digest p.mode (p.scale t.1) = .ok d ∧
    r = (p.record now r.name (t.1.count s) d s t.1).1

/-- Sources of the same count whose rates have caught up at most have the same records. -/
theorem record_of_kept {now : Span} {s' : Store} (h : s.Kept P now s') {x : Source}
    (hx : ¬P x.handle) (name : String) (count : UInt64) (d : Digest) :
    (p.record now name count d s' x).1 = (p.record now name count d s x).1 := by
  cases x with
  | histogram id => rfl
  | timer id =>
    have hrates := congrArg Prod.fst (Meter.read_eq_of_catchUp_eq (h.timer id hx))
    exact congrArg (fun rates : PerSecond ↦
      SourceRecord.timer ⟨name, count, rates.toRates p.converter, some d.summary, d.payload⟩) hrates

/-- A record shows a source as it was before, in a store that kept it. -/
theorem ShowsSource.of_kept {now : Span} {s' : Store} {l l' : List (String × Source)}
    {r : SourceRecord} {t : Source × Reading} (hr : p.ShowsSource s' now l r t)
    (h : s.Kept P now s') (ht : ¬P t.1.handle) (hl : l ⊆ l') : p.ShowsSource s now l' r t := by
  obtain ⟨d, hdigest, hrecord⟩ := hr.record
  rw [h.count t.1 ht, p.record_of_kept s h ht] at hrecord
  exact ⟨hl hr.mem, d, hdigest, hrecord⟩

/-- **Sources are shown as they were before the walk**, but for the readings of those that are met
again. -/
theorem records_sources {l : List (String × Source)} (h : (walkSources p e s l).stopped = none) :
    List.Forall₂ (p.ShowsSource s e.now l) (walkSources p e s l).walk.records
      (walkSources p e s l).taken := by
  induction l generalizing s with
  | nil => exact .nil
  | cons x l ih =>
    obtain ⟨name, x⟩ := x
    have hl : l ⊆ (name, x) :: l := List.subset_cons_self _ _
    rw [walkSources_cons] at h ⊢
    split at h
    · next hsame =>
      have hkept : s.Kept (· = .counter e.skipped) e.now (e.skip s) :=
        .setCounter (P := (· = .counter e.skipped)) s rfl _
      rw [if_pos hsame]
      exact (ih (e.skip s) h).imp fun r t hrt ↦
        hrt.of_kept p s hkept (t.1.handle_ne_counter _) hl
    · next hchanged =>
      rw [if_neg hchanged]
      cases hdigest : (x.read s).1.digest p.mode (p.scale x) with
      | error cause =>
        rw [hdigest] at h
        cases h
      | ok d =>
        rw [hdigest] at h
        have hread : s.Kept (fun _ ↦ False) e.now (x.read s).2 := .read x s
        have hkept := kept_recorded p e s name (x.count s) d x
        have hname := (p.record_spec (x.read s).2 e.now name (x.count s) d x).2.1
        refine .cons ⟨?_, d, hdigest, ?_⟩
          ((ih _ h).imp fun r t hrt ↦ hrt.of_kept p s hkept not_false hl)
        · rw [hname]
          exact List.mem_cons_self
        · rw [hname, p.record_of_kept s hread not_false]

/-- A record that shows a source with a reading is the record of that reading. -/
theorem ShowsSource.isRecordOf {now : Span} {l : List (String × Source)} {r : SourceRecord}
    {t : Source × Reading} (h : p.ShowsSource s now l r t) : p.IsRecordOf l r t := by
  obtain ⟨d, hdigest, hrecord⟩ := h.record
  obtain ⟨hkind, -, -, hpayload⟩ := p.record_spec s now r.name (t.1.count s) d t.1
  rw [← hrecord] at hkind hpayload
  exact ⟨h.mem, hkind, d, hdigest, hpayload⟩

/-- A walk over sources that is not stopped has a record for each count that it keeps. -/
theorem records_walkSources {l : List (String × Source)}
    (h : (walkSources p e s l).stopped = none) :
    (walkSources p e s l).walk.records.map (fun r ↦ (r.name, r.count)) =
      (walkSources p e s l).walk.counts := by
  fun_induction walkSources p e s l with
  | case1 s => rfl
  | case2 s name x rest count hsame ih => exact ih h
  | case3 s name x rest count hchanged reading s₁ hread cause hdigest => simp at h
  | case4 s name x rest count hchanged reading s₁ hread d hdigest record s₂ hrecord w ih =>
    have hr : record = (p.record e.now name count d s₁ x).1 := (congrArg Prod.fst hrecord).symm
    obtain ⟨-, hname, hcount, -⟩ := p.record_spec s₁ e.now name count d x
    rw [← hr] at hname hcount
    exact congrArg₂ (· :: ·) (congrArg₂ Prod.mk hname hcount) (ih h)

/-- **A walk that was not stopped made one record of each reading.** -/
theorem walkSources_pairs {l : List (String × Source)} (h : (walkSources p e s l).stopped = none) :
    List.Forall₂ (p.IsRecordOf l) (walkSources p e s l).walk.records (walkSources p e s l).taken :=
  (records_sources p e s h).imp fun _ _ ↦ ShowsSource.isRecordOf p s

/-- What the records of sources would be about if all counts had changed. -/
def sourceEntries (s : Store) (l : List (String × Source)) : List (Kind × String × UInt64) :=
  l.map fun x ↦ (x.2.handle.kind, x.1, x.2.count s)

/-- The counts kept of sources depend on their counts only. -/
theorem sourceEntries_congr {s s' : Store} (h : ∀ x : Source, x.count s' = x.count s)
    (l : List (String × Source)) : sourceEntries s' l = sourceEntries s l :=
  List.map_congr_left fun x _ ↦ by rw [h]

/-- **A walk that was not stopped has a record for just those sources whose counts changed.** -/
theorem entries_walkSources {l : List (String × Source)}
    (h : (walkSources p e s l).stopped = none) :
    (walkSources p e s l).walk.records.map SourceRecord.entry =
      (sourceEntries s l).filter fun v ↦ e.changed v.2 := by
  fun_induction walkSources p e s l with
  | case1 s => rfl
  | case2 s name x rest count hsame ih =>
    rw [ih h, sourceEntries_congr (s := s) fun x ↦ by cases x <;> rfl]
    exact (List.filter_cons_of_neg (by simpa [Setting.changed] using hsame)).symm
  | case3 s name x rest count hchanged reading s₁ hread cause hdigest => simp at h
  | case4 s name x rest count hchanged reading s₁ hread d hdigest record s₂ hrecord w ih =>
    have hs₁ : s₁ = (x.read s).2 := (congrArg Prod.snd hread).symm
    have hs₂ : s₂ = (p.record e.now name count d s₁ x).2 := (congrArg Prod.snd hrecord).symm
    have hr : record = (p.record e.now name count d s₁ x).1 := (congrArg Prod.fst hrecord).symm
    obtain ⟨hkind, hname, hcount, -⟩ := p.record_spec s₁ e.now name count d x
    have hkept : s.Kept (fun _ ↦ False) e.now s₂ := by
      rw [hs₂, hs₁]
      exact (Store.Kept.read x s).trans (.record p name count d x _)
    have hentry : record.entry = (x.handle.kind, name, x.count s) := by
      rw [SourceRecord.entry, hr, hkind, hname, hcount]
    have ih := ih h
    rw [sourceEntries_congr fun x ↦ hkept.count x not_false] at ih
    exact (congrArg₂ _ hentry ih).trans
      (List.filter_cons_of_pos (by simpa [Setting.changed] using hchanged)).symm

end Presentation

end Telemetry
