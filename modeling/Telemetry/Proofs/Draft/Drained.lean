import Mathlib
import Telemetry.Proofs.Digest
import Telemetry.Proofs.Draft.Outcome
import Telemetry.Proofs.Writes

/-!
# Drafts after sources were drained

One store may come from another by what a report does to it: meters have caught up, and some sources
were drained, that is, their reservoirs were read and nothing was given back. `Store.Drained` says
that this is all there is to be seen at a time, the metrics of a set aside: a source shows what it
did, or, if it was drained, what a reading leaves of it.

A walk over both stores keeps them so, since reading a source twice is reading it once. Counters and
meters have the same records. In snapshot mode a source that was drained has the digest of what is
left of it, and every other record is the same (`SourceRecord.Drained`). There it may also have a
digest where it had none before, and then the walk goes on where it was stopped
(`walkSources_drained`).

**So drafts agree but for what drained sources no longer show** (`Presentation.draft_drained`).
Names, counts and rates in their reports are the same (`Report.Drained.plain_eq`), and where draining
does not show all is the same, ceilings aside (`Presentation.Drained.trimmed_eq`).
-/

namespace Telemetry

/-- What the reading of a source is once it was drained. -/
def Source.drained (s : Store) (x : Source) : Reading :=
  (x.held s).reservoir.read.1.drained

/-- Reading any source does not change what is left of one after a reading. -/
theorem Source.drained_read (s : Store) (x y : Source) : x.drained (y.read s).2 = x.drained s := by
  rw [drained, held_read]
  split
  · exact (congrArg Reading.drained (Reservoir.reading_read _)).trans (Reading.drained_drained _)
  · rfl

/-- One store shows what another one shows at a time, but for sources that were drained and the
metrics of a set. -/
structure Store.Drained (D : Source → Prop) (P : Handle → Prop) (now : Span) (s s' : Store) :
    Prop where
  kept : s.Kept P now s'
  spared : ∀ x : Source, ¬P x.handle → ¬D x → (x.held s').reservoir.Alike (x.held s).reservoir
  drained : ∀ x : Source, ¬P x.handle → D x →
    (x.held s').reservoir.Alike (x.held s).reservoir.read.2

variable {D : Source → Prop} {P : Handle → Prop} {now : Span} {s s' t t' : Store}

/-- Two stores that kept what they show go on showing the same. -/
theorem Store.Kept.both (h : s.Kept P now s') (ht : s.Kept P now t) (ht' : s'.Kept P now t') :
    t.Kept P now t' :=
  ht.symm.trans (h.trans ht')

namespace Store.Drained

/-- What does not touch reservoirs keeps stores so. -/
theorem of_held (h : s.Drained D P now s') (ht : s.Kept P now t) (ht' : s'.Kept P now t')
    (hheld : ∀ x : Source, x.held t = x.held s ∧ x.held t' = x.held s') : t.Drained D P now t' where
  kept := h.kept.both ht ht'
  spared x hx hD := by
    rw [(hheld x).1, (hheld x).2]
    exact h.spared x hx hD
  drained x hx hD := by
    rw [(hheld x).1, (hheld x).2]
    exact h.drained x hx hD

/-- Reading a source of both keeps them so, since what is read more than once is left alike. -/
theorem read (h : s.Drained D P now s') (x : Source) :
    (x.read s).2.Drained D P now (x.read s').2 where
  kept := h.kept.both (.read x s) (.read x s')
  spared y hy hD := by
    rw [Source.held_read, Source.held_read]
    split
    · exact (h.spared y hy hD).read.2
    · exact h.spared y hy hD
  drained y hy hD := by
    rw [Source.held_read, Source.held_read]
    split
    · exact (h.drained y hy hD).read.2
    · exact h.drained y hy hD

/-- Where draining does not show, the digests of both readings are the same, ceilings aside. -/
theorem digest_spared (h : s.Drained D P now s') {x : Source} (hx : ¬P x.handle)
    {mode : PayloadMode} (hD : ¬(D x ∧ mode = .snapshot)) (scale : Float) :
    ((x.read s').1.digest mode scale).map Digest.trimmed =
      ((x.read s).1.digest mode scale).map Digest.trimmed := by
  rw [x.reading_eq, x.reading_eq]
  by_cases hx' : D x
  · have hread := (h.drained x hx hx').read.1.digest mode scale
    rwa [Reservoir.reading_read, Reading.digest_drained _ _ fun hmode ↦ hD ⟨hx', hmode⟩] at hread
  · exact (h.spared x hx hx').read.1.digest mode scale

/-- Where it shows, there is a digest: that of what is left. -/
theorem digest_drained (h : s.Drained D P now s') {x : Source} (hx : ¬P x.handle) (hD : D x)
    (scale : Float) :
    ∃ d d', (x.read s').1.digest .snapshot scale = .ok d' ∧
      (x.drained s).digest .snapshot scale = .ok d ∧ d'.trimmed = d.trimmed := by
  have hread := (h.drained x hx hD).read.1.digest .snapshot scale
  obtain ⟨d, hd⟩ := Reading.exists_digest (x.held s).reservoir.read.1.not_overflows_drained scale
  rw [Reservoir.reading_read, hd] at hread
  rw [x.reading_eq]
  rcases hd' : (x.held s').reservoir.read.1.digest .snapshot scale with cause | d' <;>
    rw [hd'] at hread
  · cases hread
  · exact ⟨d, d', rfl, hd, Except.ok.inj hread⟩

/-- Where the first reading has no digest, the second one has none either unless draining shows. -/
theorem digest_of_error (h : s.Drained D P now s') {x : Source} (hx : ¬P x.handle)
    {mode : PayloadMode} {scale : Float} {cause : DigestError}
    (hd : (x.read s).1.digest mode scale = .error cause) :
    (x.read s').1.digest mode scale = .error cause ∨ D x ∧ mode = .snapshot := by
  by_cases hD : D x ∧ mode = .snapshot
  · exact .inr hD
  · have hsame := h.digest_spared hx hD scale
    rw [hd] at hsame
    rcases hd' : (x.read s').1.digest mode scale with cause' | d' <;> rw [hd'] at hsame
    · exact .inl (congrArg Except.error (Except.error.inj hsame))
    · cases hsame

/-- **What the digests of both readings have to do with each other**, if the first reading has
one. -/
theorem exists_digest (h : s.Drained D P now s') {x : Source} (hx : ¬P x.handle)
    {mode : PayloadMode} {scale : Float} {d : Digest}
    (hd : (x.read s).1.digest mode scale = .ok d) :
    ∃ d', (x.read s').1.digest mode scale = .ok d' ∧
      (¬(D x ∧ mode = .snapshot) ∧ d'.trimmed = d.trimmed ∨ D x ∧ mode = .snapshot ∧
        ∃ d₀, (x.drained s).digest mode scale = .ok d₀ ∧ d'.trimmed = d₀.trimmed) := by
  by_cases hD : D x ∧ mode = .snapshot
  · obtain ⟨hx', rfl⟩ := hD
    obtain ⟨d₀, d', hd', hd₀, htrimmed⟩ := h.digest_drained hx hx' scale
    exact ⟨d', hd', .inr ⟨hx', rfl, d₀, hd₀, htrimmed⟩⟩
  · have hsame := h.digest_spared hx hD scale
    rw [hd] at hsame
    rcases hd' : (x.read s').1.digest mode scale with cause | d' <;> rw [hd'] at hsame
    · cases hsame
    · exact ⟨d', rfl, .inl ⟨hD, Except.ok.inj hsame⟩⟩

end Store.Drained

/-! ### Records of sources -/

/-- The record without its digest. -/
def HistogramRecord.plain (r : HistogramRecord) : HistogramRecord :=
  { r with summary := none, payload := none }

/-- The record without its digest. -/
def TimerRecord.plain (r : TimerRecord) : TimerRecord :=
  { r with summary := none, payload := none }

namespace Presentation

variable {p : Presentation} {e : Setting} {c : Catalogue}

namespace SourceRecord

/-- The record with another digest. -/
def withDigest (d : Digest) : SourceRecord → SourceRecord
  | histogram r => histogram { r with summary := some d.summary, payload := d.payload }
  | timer r => timer { r with summary := some d.summary, payload := d.payload }

/-- Two digests that are the same but for ceilings make such records. -/
theorem withDigest_trimmed {d d' : Digest} (h : d'.trimmed = d.trimmed) (r : SourceRecord) :
    (r.withDigest d').trimmed = (r.withDigest d).trimmed := by
  obtain ⟨hsummary, hpayload⟩ : d'.summary = d.summary ∧
      d'.payload.map Hdr.Payload.trimmed = d.payload.map Hdr.Payload.trimmed := Digest.mk.inj h
  cases r <;>
    simp only [withDigest, trimmed, HistogramRecord.trimmed, TimerRecord.trimmed, hsummary,
      hpayload]

/-- One record is as another one, ceilings aside, unless it is about a source that was drained and
the mode is one that shows it; then it has the digest of what is left of that source. -/
inductive Drained (p : Presentation) (D : Source → Prop) (s : Store) (l : List (String × Source))
    (r r' : SourceRecord) : Prop where
  | same {x : Source} (hmem : (r.name, x) ∈ l) (hkind : r.kind = x.handle.kind)
      (hx : ¬(D x ∧ p.mode = .snapshot)) (h : r'.trimmed = r.trimmed)
  | drained {x : Source} {d : Digest} (hmem : (r.name, x) ∈ l) (hkind : r.kind = x.handle.kind)
      (hx : D x) (hmode : p.mode = .snapshot)
      (hd : (x.drained s).digest p.mode (p.scale x) = .ok d)
      (h : r'.trimmed = (r.withDigest d).trimmed)

/-- What is left of a source may be told from another store, and its names from a longer list. -/
theorem Drained.mono {l l' : List (String × Source)} {r r' : SourceRecord}
    (h : Drained p D t l r r') (ht : ∀ x : Source, x.drained t = x.drained s) (hl : l ⊆ l') :
    Drained p D s l' r r' := by
  cases h with
  | same hmem hkind hx h => exact .same (hl hmem) hkind hx h
  | drained hmem hkind hx hmode hd h => exact .drained (hl hmem) hkind hx hmode (ht _ ▸ hd) h

/-- The record without its digest: name, count and rates. -/
def plain : SourceRecord → SourceRecord
  | histogram r => histogram r.plain
  | timer r => timer r.plain

theorem plain_trimmed (r : SourceRecord) : r.trimmed.plain = r.plain := by
  cases r <;> rfl

theorem plain_withDigest (d : Digest) (r : SourceRecord) : (r.withDigest d).plain = r.plain := by
  cases r <;> rfl

/-- Digests aside, the records are the same in any case. -/
theorem Drained.plain_eq {l : List (String × Source)} {r r' : SourceRecord}
    (h : Drained p D s l r r') : r'.plain = r.plain := by
  cases h with
  | same _ _ _ h => rw [← plain_trimmed r', h, plain_trimmed]
  | drained _ _ _ _ _ h => rw [← plain_trimmed r', h, plain_trimmed, plain_withDigest]

end SourceRecord

/-- With another digest, a record is the same but for that digest. -/
theorem record_withDigest (p : Presentation) (s : Store) (now : Span) (name : String)
    (count : UInt64) (d d' : Digest) (x : Source) :
    (p.record now name count d' s x).1 = (p.record now name count d s x).1.withDigest d' := by
  cases x <;> rfl

/-! ### Walks -/

/-- Two walks over counters that the stores agree on make the same records. -/
theorem records_walkCounters_of_kept (h : s.Kept P e.now s') (he : P (.counter e.skipped))
    {l : List (String × MetricId Counter)} (hl : ∀ m ∈ l, ¬P (.counter m.2)) :
    (walkCounters e s' l).records = (walkCounters e s l).records := by
  induction l generalizing s s' with
  | nil => rfl
  | cons m l ih =>
    have hrest : ∀ m ∈ l, ¬P (.counter m.2) := fun m' hm' ↦ hl m' (List.mem_cons_of_mem _ hm')
    rw [walkCounters, walkCounters, h.counter m.2 (hl m List.mem_cons_self)]
    split
    · exact ih (h.both (.setCounter s he _) (.setCounter s' he _)) hrest
    · exact congrArg (_ :: ·) (ih h hrest)

/-- Two walks over meters that the stores agree on make the same records. -/
theorem records_walkMeters_of_kept (h : s.Kept P e.now s') {l : List (String × MetricId Meter)}
    (hl : ∀ m ∈ l, ¬P (.meter m.2)) :
    (walkMeters p e s' l).records = (walkMeters p e s l).records := by
  have hfilter : (l.filter fun m ↦ e.changed (m.1, (s'.meter m.2).count)) =
      l.filter fun m ↦ e.changed (m.1, (s.meter m.2).count) :=
    List.filter_congr fun m hm ↦ by rw [h.meter_count (hl m hm)]
  rw [records_meters, records_meters, hfilter]
  exact List.map_congr_left fun m hm ↦
    p.meterRecord_of_kept s h (hl m (List.mem_of_mem_filter hm))

/-- What a walk over sources of one store has to do with one over those of the other. -/
structure SourceWalk.Drained (p : Presentation) (D : Source → Prop) (s : Store)
    (l : List (String × Source)) (w w' : SourceWalk) : Prop where
  records : w.stopped = none → w'.stopped = none ∧
    List.Forall₂ (SourceRecord.Drained p D s l) w.walk.records w'.walk.records
  stopped : ∀ cause, w.stopped = some cause → w'.stopped = some cause ∨
    p.mode = .snapshot ∧ ∃ y ∈ l, D y.2 ∧ cause = .digest y.1 .countTooLarge

/-- Walks over more sources, from a store of which the readings are the same. -/
theorem SourceWalk.Drained.mono {l l' : List (String × Source)} {w w' : SourceWalk}
    (h : SourceWalk.Drained p D t l w w') (ht : ∀ x : Source, x.drained t = x.drained s)
    (hl : l ⊆ l') : SourceWalk.Drained p D s l' w w' where
  records hw := ⟨(h.records hw).1, (h.records hw).2.imp fun _ _ hr ↦ hr.mono ht hl⟩
  stopped cause hw := (h.stopped cause hw).imp_right fun ⟨hmode, y, hy, hdrained⟩ ↦
    ⟨hmode, y, hl hy, hdrained⟩

/-- Records made of the readings of one source, the first of which has the given digest. -/
theorem record_drained (h : s.Drained D P e.now s') {name : String} {x : Source}
    {l : List (String × Source)} (hmem : (name, x) ∈ l) (hx : ¬P x.handle) (count : UInt64)
    {d d' : Digest}
    (hdigests : ¬(D x ∧ p.mode = .snapshot) ∧ d'.trimmed = d.trimmed ∨
      D x ∧ p.mode = .snapshot ∧
        ∃ d₀, (x.drained s).digest p.mode (p.scale x) = .ok d₀ ∧ d'.trimmed = d₀.trimmed) :
    SourceRecord.Drained p D s l (p.record e.now name count d (x.read s).2 x).1
      (p.record e.now name count d' (x.read s').2 x).1 := by
  obtain ⟨hkind, hname, -, -⟩ := p.record_spec (x.read s).2 e.now name count d x
  have hrecord : (p.record e.now name count d' (x.read s').2 x).1 =
      (p.record e.now name count d (x.read s).2 x).1.withDigest d' := by
    rw [p.record_of_kept _ (h.read x).kept hx, p.record_withDigest _ _ _ _ d d']
  have hmem' : ((p.record e.now name count d (x.read s).2 x).1.name, x) ∈ l := by
    rwa [hname]
  rcases hdigests with ⟨hD, htrimmed⟩ | ⟨hD, hmode, d₀, hd₀, htrimmed⟩
  · refine .same hmem' hkind hD ?_
    rw [hrecord, SourceRecord.withDigest_trimmed htrimmed, ← p.record_withDigest]
  · refine .drained hmem' hkind hD hmode hd₀ ?_
    rw [hrecord, SourceRecord.withDigest_trimmed htrimmed]

/-- **Two walks over sources agree**, but for what a source that was drained no longer shows. -/
theorem walkSources_drained (h : s.Drained D P e.now s') (he : P (.counter e.skipped))
    {l : List (String × Source)} (hl : ∀ y ∈ l, ¬P y.2.handle) :
    SourceWalk.Drained p D s l (walkSources p e s l) (walkSources p e s' l) := by
  induction l generalizing s s' with
  | nil => exact ⟨fun _ ↦ ⟨rfl, .nil⟩, nofun⟩
  | cons y l ih =>
    obtain ⟨name, x⟩ := y
    have hx : ¬P x.handle := hl _ List.mem_cons_self
    have hrest : ∀ y ∈ l, ¬P y.2.handle := fun y hy ↦ hl y (List.mem_cons_of_mem _ hy)
    have hsub : l ⊆ (name, x) :: l := List.subset_cons_self _ _
    rw [walkSources_cons, walkSources_cons, h.kept.count x hx]
    split
    · refine (ih ?_ hrest).mono (fun y ↦ ?_) hsub
      · exact h.of_held (.setCounter s he _) (.setCounter s' he _) fun y ↦
          ⟨held_skip e s y, held_skip e s' y⟩
      · rw [Source.drained, held_skip, Source.drained]
    rcases hd : (x.read s).1.digest p.mode (p.scale x) with ⟨⟨⟩⟩ | d
    · -- the walk was stopped here, and goes on only if the source was drained
      refine ⟨nofun, fun cause hcause ↦ ?_⟩
      rcases h.digest_of_error hx hd with hd' | ⟨hD, hmode⟩
      · rw [hd']
        exact .inl hcause
      · exact .inr ⟨hmode, (name, x), List.mem_cons_self, hD, (Option.some.inj hcause).symm⟩
    -- both walks make a record here
    obtain ⟨d', hd', hdigests⟩ := h.exists_digest hx hd
    rw [hd']
    have hrecord := record_drained h (List.mem_cons_self (a := (name, x)) (l := l)) hx (x.count s)
      hdigests
    have htail := (ih ((h.read x).of_held (.record p name (x.count s) d x (x.read s).2)
      (.record p name (x.count s) d' x (x.read s').2)
      fun y ↦ ⟨held_record p _ e.now name _ d x y, held_record p _ e.now name _ d' x y⟩)
      hrest).mono (s := s) (fun y ↦ by
        rw [Source.drained, held_record]
        exact y.drained_read s x) hsub
    exact ⟨fun hw ↦ ⟨(htail.records hw).1, .cons hrecord (htail.records hw).2⟩, htail.stopped⟩

end Presentation

/-! ### Reports and drafts -/

namespace Report

variable {p : Presentation} {c : Catalogue} {r r' : Report}

theorem histograms_sourceRecords (r : Report) :
    r.sourceRecords.filterMap Presentation.SourceRecord.histogram? = r.histograms := by
  rw [sourceRecords, List.filterMap_append, List.filterMap_map, List.filterMap_map]
  simp [Function.comp_def, Presentation.SourceRecord.histogram?]

theorem timers_sourceRecords (r : Report) :
    r.sourceRecords.filterMap Presentation.SourceRecord.timer? = r.timers := by
  rw [sourceRecords, List.filterMap_append, List.filterMap_map, List.filterMap_map]
  simp [Function.comp_def, Presentation.SourceRecord.timer?]

/-- The report without the records of histograms and timers. -/
def unsampled (r : Report) : Report :=
  { r with histograms := [], timers := [] }

/-- A report is its records of sources and the rest. -/
theorem eq_of_sourceRecords (hrest : r'.unsampled = r.unsampled)
    (h : r'.sourceRecords = r.sourceRecords) : r' = r := by
  have hhistograms : r'.histograms = r.histograms := by
    rw [← r'.histograms_sourceRecords, h, r.histograms_sourceRecords]
  have htimers : r'.timers = r.timers := by
    rw [← r'.timers_sourceRecords, h, r.timers_sourceRecords]
  cases r
  cases r'
  simp_all [unsampled]

/-- The report without digests. -/
def plain (r : Report) : Report :=
  { r with
    histograms := r.histograms.map HistogramRecord.plain
    timers := r.timers.map TimerRecord.plain }

theorem sourceRecords_plain (r : Report) :
    r.plain.sourceRecords = r.sourceRecords.map Presentation.SourceRecord.plain := by
  simp only [sourceRecords, plain, List.map_append, List.map_map]
  rfl

theorem sourceRecords_trimmed (r : Report) :
    r.trimmed.sourceRecords = r.sourceRecords.map Presentation.SourceRecord.trimmed := by
  simp only [sourceRecords, trimmed, List.map_append, List.map_map]
  rfl

/-- One report is as another one, ceilings aside, but for the digests of sources that were
drained. -/
structure Drained (p : Presentation) (D : Source → Prop) (s : Store) (c : Catalogue)
    (r r' : Report) : Prop where
  unsampled : r'.unsampled = r.unsampled
  sources : List.Forall₂ (Presentation.SourceRecord.Drained p D s (Presentation.sources c))
    r.sourceRecords r'.sourceRecords

/-- What is the same of all records is the same of the lists of records. -/
theorem Drained.map_eq {α : Type} {f : Presentation.SourceRecord → α} (h : r.Drained p D s c r')
    (hf : ∀ a a', Presentation.SourceRecord.Drained p D s (Presentation.sources c) a a' →
      f a' = f a) : r'.sourceRecords.map f = r.sourceRecords.map f := by
  have hmaps : List.Forall₂ (· = ·) (r.sourceRecords.map f) (r'.sourceRecords.map f) :=
    List.forall₂_map_left_iff.2 (List.forall₂_map_right_iff.2 (h.sources.imp fun a a' haa' ↦
      (hf a a' haa').symm))
  exact (List.forall₂_eq_eq_eq ▸ hmaps).symm

/-- **Names, counts and rates are the same in any case.** -/
theorem Drained.plain_eq (h : r.Drained p D s c r') : r'.plain = r.plain := by
  refine eq_of_sourceRecords h.unsampled ?_
  rw [sourceRecords_plain, sourceRecords_plain]
  exact h.map_eq fun _ _ ↦ Presentation.SourceRecord.Drained.plain_eq

/-- If draining is not to be seen, the reports are the same, ceilings aside. -/
theorem Drained.trimmed_eq (h : r.Drained p D s c r') (hnone : ∀ x, D x → p.mode ≠ .snapshot) :
    r'.trimmed = r.trimmed := by
  refine eq_of_sourceRecords h.unsampled ?_
  rw [sourceRecords_trimmed, sourceRecords_trimmed]
  refine h.map_eq fun a a' haa' ↦ ?_
  cases haa' with
  | same _ _ _ h => exact h
  | drained _ _ hx hmode => exact absurd hmode (hnone _ hx)

end Report

namespace Presentation

variable {p : Presentation} {e : Setting} {c : Catalogue}

/-- What one draft has to do with another one if sources were drained in between. -/
structure Drained (p : Presentation) (D : Source → Prop) (s : Store) (c : Catalogue)
    (a a' : Except DraftError Report) : Prop where
  report : ∀ r, a = .ok r → ∃ r', a' = .ok r' ∧ r.Drained p D s c r'
  /-- Where one draft was stopped by a source that was drained, the other one may have been made. -/
  error : ∀ cause, a = .error cause → a' = .error cause ∨
    p.mode = .snapshot ∧ ∃ y ∈ sources c, D y.2 ∧ cause = .digest y.1 .countTooLarge

/-- Where draining is not to be seen, drafts are the same, ceilings aside. -/
theorem Drained.trimmed_eq {a a' : Except DraftError Report}
    (h : p.Drained D s c a a') (hnone : ∀ x, D x → p.mode ≠ .snapshot) :
    a'.map Report.trimmed = a.map Report.trimmed := by
  cases a with
  | error cause =>
    rcases h.error cause rfl with rfl | ⟨hmode, y, -, hy, -⟩
    · rfl
    · exact absurd hmode (hnone y.2 hy)
  | ok r =>
    obtain ⟨r', rfl, hr⟩ := h.report r rfl
    exact congrArg Except.ok (hr.trimmed_eq hnone)

/-- The first walks of two drafts keep stores as they are related. -/
theorem walked_drained (h : s.Drained D P e.now s') (he : P (.counter e.skipped))
    (counters : List (String × MetricId Counter)) :
    (walkCounters e s counters).store.Drained D P e.now (walkCounters e s' counters).store :=
  h.of_held (walkCounters_kept e s he counters) (walkCounters_kept e s' he counters)
    fun x ↦ ⟨held_walkCounters e s x _, held_walkCounters e s' x _⟩

/-- **Two surveys agree**, but for what a source that was drained no longer shows. -/
theorem survey_drained (h : s.Drained D P e.now s') (he : P (.counter e.skipped))
    (hc : ∀ x ∈ c.handles, ¬P x) :
    SourceWalk.Drained p D s (sources c) (p.survey e c s) (p.survey e c s') := by
  obtain ⟨-, -, -, hsource⟩ := Catalogue.forall_handles.1 hc
  have hwalked := (walked_drained h he c.counters).of_held (walkMeters_kept p e _ he c.meters)
    (walkMeters_kept p e _ he c.meters)
    fun x ↦ ⟨held_walkMeters p e _ x _, held_walkMeters p e _ x _⟩
  refine (walkSources_drained (p := p) hwalked he hsource).mono (fun x ↦ ?_) (List.Subset.refl _)
  rw [Source.drained, held_walkMeters, held_walkCounters, Source.drained]

/-- What is compiled is the same, records of sources aside. -/
theorem unsampled_compiled (h : s.Drained D P e.now s') (he : P (.counter e.skipped))
    (hc : ∀ x ∈ c.handles, ¬P x) (timestamp : Int64) (status : Option String)
    (alerts : List Alert) :
    (p.compiled e c s' timestamp status alerts).unsampled =
      (p.compiled e c s timestamp status alerts).unsampled := by
  obtain ⟨hgauge, hcounter, hmeter, -⟩ := Catalogue.forall_handles.1 hc
  have hgauges : gaugeRecords s' c.gauges = gaugeRecords s c.gauges :=
    List.map_congr_left fun g hg ↦ by rw [h.kept.gauge g.2 (hgauge g hg)]
  have hcounters := records_walkCounters_of_kept h.kept he hcounter
  have hmeters := records_walkMeters_of_kept (p := p) (walked_drained h he c.counters).kept hmeter
  simp only [compiled, Report.unsampled, hgauges, hcounters, hmeters]

/-- **Drafts agree but for what drained sources no longer show.** -/
theorem draft_drained (h : s.Drained D P e.now s') (he : P (.counter e.skipped))
    (hc : ∀ x ∈ c.handles, ¬P x) (timestamp : Int64) (status : Option String)
    (alerts : List Alert) :
    p.Drained D s c ((p.draft e timestamp status alerts c s).1.map (·.report))
      ((p.draft e timestamp status alerts c s').1.map (·.report)) := by
  have hwalks : SourceWalk.Drained p D s (sources c) (p.survey e c s) (p.survey e c s') :=
    survey_drained h he hc
  obtain ⟨cause, hstopped, hdraft⟩ | ⟨d, hmade, hdraft, -⟩ :=
    p.draft_cases e c s timestamp status alerts
  · rw [hdraft]
    refine ⟨nofun, fun cause' hcause ↦ ?_⟩
    obtain rfl : cause = cause' := Except.error.inj hcause
    refine (hwalks.stopped cause hstopped).imp_left fun hstopped' ↦ ?_
    obtain ⟨cause', hcause', hdraft'⟩ | ⟨d', hmade', -⟩ :=
      p.draft_cases e c s' timestamp status alerts
    · rw [hdraft', Option.some.inj (hstopped'.symm.trans hcause')]
      rfl
    · cases hstopped'.symm.trans hmade'
  · obtain ⟨hmade', hrecords⟩ := hwalks.records hmade
    obtain ⟨cause', hstopped', -⟩ | ⟨d', -, hdraft', -⟩ :=
      p.draft_cases e c s' timestamp status alerts
    · cases hmade'.symm.trans hstopped'
    rw [hdraft, hdraft']
    refine ⟨fun r hr ↦ ⟨d'.report, rfl, ?_⟩, nofun⟩
    obtain rfl : d.report = r := Except.ok.inj hr
    rw [p.report_eq e c s hdraft, p.report_eq e c s' hdraft']
    refine ⟨unsampled_compiled h he hc timestamp status alerts, ?_⟩
    rw [p.sourceRecords_compiled e c s hmade, p.sourceRecords_compiled e c s' hmade']
    exact hrecords

end Presentation

end Telemetry
