import MarcHarvest.Batch
import MarcHarvest.Proofs.Extractor.Compilation

/-!
# Loading a batch

A batch is compiled as a whole: it holds one extractor for each configuration, or the first
configuration that does not compile makes all of it fail (`ofConfigs_all_or_nothing`). Within a
configuration the field spec comes before the filter and the filter before the function. A part that
is not given cannot be wrong, and an empty filter or function is none.
-/

namespace MarcHarvest

namespace Config

variable {c : Config} {e : SpecError}

/-! ## Faults of a configuration -/

end Config

/-! ## Batches -/

namespace Batch

theorem mapM_compile {configs : List Config} {es : List Extractor}
    (h : List.Forall₂ (fun c e => c.compile = .ok e) configs es) :
    configs.mapM Config.compile = .ok es := by
  induction h with
  | nil => rfl
  | cons hc _ ih =>
    rw [List.mapM_cons, hc, ih]
    rfl

/-- The second configuration has a fault in its field spec and one in its function, the third one
in its function alone. -/
example :
    ofConfigs [{ name := "title", fieldSpec := some "245a", filter := some "" },
      { name := "bad", fieldSpec := some "24", function := some "titleCaser" },
      { name := "worse", function := some "titleCaser" }] =
        .error (.malformedComponent "24" (.tagTooShort "24")) := by rfl

end Batch

end MarcHarvest
