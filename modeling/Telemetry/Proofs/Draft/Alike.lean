import Mathlib
import Telemetry.Proofs.Draft.Drained

/-!
# Drafts on stores that are alike

Two stores are alike at a time if nothing that is shown then tells them apart, the metrics of a set
aside: gauges and counts are the same, meters are the same once they have caught up, and reservoirs
are alike (`Store.Alike`).

Such stores are ones between which no source was drained (`Store.Alike.drained`). So the same draft
comes of both, if it is not about metrics of the set (`Presentation.draft_alike`).
-/

namespace Telemetry

/-- Outside a set of metrics nothing that is shown at a time tells the stores apart. -/
structure Store.Alike (P : Handle → Prop) (now : Span) (s s' : Store) : Prop where
  kept : s.Kept P now s'
  reservoir : ∀ x : Source, ¬P x.handle → (x.held s').reservoir.Alike (x.held s).reservoir

variable {P : Handle → Prop} {now : Span} {s s' s'' : Store}

namespace Store.Alike

theorem refl (s : Store) : s.Alike P now s :=
  ⟨.refl s, fun _ _ ↦ .refl _⟩

theorem trans (h₁ : s.Alike P now s') (h₂ : s'.Alike P now s'') : s.Alike P now s'' :=
  ⟨h₁.kept.trans h₂.kept, fun x hx ↦ (h₂.reservoir x hx).trans (h₁.reservoir x hx)⟩

/-- No source was drained. -/
theorem drained (h : s.Alike P now s') : s.Drained (fun _ ↦ False) P now s' :=
  ⟨h.kept, fun x hx _ ↦ h.reservoir x hx, fun _ _ ↦ False.elim⟩

end Store.Alike

namespace Presentation

variable {p : Presentation} {e : Setting} {c : Catalogue}

/-- **The same draft comes of stores that are alike**, the ceilings in its report aside. -/
theorem draft_alike (h : s.Alike P e.now s') (he : P (.counter e.skipped))
    (hc : ∀ x ∈ c.handles, ¬P x) (timestamp : Int64) (status : Option String)
    (alerts : List Alert) :
    ((p.draft e timestamp status alerts c s').1.map (·.report)).map Report.trimmed =
      ((p.draft e timestamp status alerts c s).1.map (·.report)).map Report.trimmed :=
  (draft_drained h.drained he hc timestamp status alerts).trimmed_eq fun _ ↦ False.elim

end Presentation

end Telemetry
