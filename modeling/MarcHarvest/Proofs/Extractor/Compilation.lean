import MarcHarvest.Extractor.Basic
import MarcHarvest.Proofs.Except

/-!
# Compiling a configuration

A configuration has three parts that can be wrong: its field spec, its filter and its function. They
are compiled one after the other, and nothing else matters for whether the whole compiles
(`compile_eq`, `compile_eq_ok_iff`). So a change of the other options, or of one part for none,
carries over to the extractor.
-/

namespace MarcHarvest.Config

/-! ## The parts -/

def compileComponents (c : Config) : Except SpecError (List Component) :=
  match c.fieldSpec with
  | some spec => FieldSpec.compile spec
  | none => .ok []

def compileFilter (c : Config) : Except SpecError (Option Filter) :=
  match setting c.filter with
  | some text => match Filter.ofText? text with
    | some f => .ok (some f)
    | none => .error (.invalidFilter c.name)
  | none => .ok none

def compileDerivation (c : Config) : Except SpecError (Option Derivation) :=
  match setting c.function with
  | some identifier => (Derivation.ofIdentifier identifier).map some
  | none => .ok none

/-- The extractor with the options of a configuration. -/
def extractor (c : Config) (components : List Component) (filter : Option Filter)
    (derivation : Option Derivation) : Extractor where
  name := c.name
  components := components
  scripts := c.scripts.getD .both
  trims := c.trims
  filter := filter
  delimiter := c.delimiter
  derivation := derivation
  keepsOrder := c.keepsOrder

/-! ## The whole -/

theorem compile_eq (c : Config) :
    c.compile = do
      let components ← c.compileComponents
      let filter ← c.compileFilter
      let derivation ← c.compileDerivation
      return c.extractor components filter derivation := by
  unfold compile compileComponents compileFilter compileDerivation
  cases setting c.filter with
  | none => cases c.fieldSpec <;> cases setting c.function <;> rfl
  | some text =>
    dsimp only
    cases Filter.ofText? text <;> cases c.fieldSpec <;> cases setting c.function <;> rfl

theorem compile_eq_ok_iff {c : Config} {e : Extractor} :
    c.compile = .ok e ↔ ∃ components filter derivation, c.compileComponents = .ok components ∧
      c.compileFilter = .ok filter ∧ c.compileDerivation = .ok derivation ∧
      e = c.extractor components filter derivation := by
  rw [compile_eq]
  constructor
  · intro h
    obtain ⟨components, hcomponents, h⟩ := exists_of_bind_eq_ok h
    obtain ⟨filter, hfilter, h⟩ := exists_of_bind_eq_ok h
    obtain ⟨derivation, hderivation, h⟩ := exists_of_bind_eq_ok h
    exact ⟨components, filter, derivation, hcomponents, hfilter, hderivation,
      (Except.ok.inj h).symm⟩
  · rintro ⟨components, filter, derivation, hcomponents, hfilter, hderivation, rfl⟩
    rw [hcomponents, hfilter, hderivation]
    rfl

/-! ## Changed options -/

variable {c : Config} {e : Extractor}

theorem compile_scripts (hc : c.compile = .ok e) (mode : ScriptInclusion) :
    { c with scripts := some mode }.compile = .ok { e with scripts := mode } := by
  obtain ⟨components, filter, derivation, hcomponents, hfilter, hderivation, rfl⟩ :=
    compile_eq_ok_iff.mp hc
  exact compile_eq_ok_iff.mpr ⟨_, _, _, hcomponents, hfilter, hderivation, rfl⟩

theorem compile_without_fieldSpec (hc : c.compile = .ok e) :
    { c with fieldSpec := none }.compile = .ok { e with components := [] } := by
  obtain ⟨components, filter, derivation, hcomponents, hfilter, hderivation, rfl⟩ :=
    compile_eq_ok_iff.mp hc
  exact compile_eq_ok_iff.mpr ⟨_, _, _, rfl, hfilter, hderivation, rfl⟩

theorem compile_without_function (hc : c.compile = .ok e) :
    { c with function := none }.compile = .ok { e with derivation := none } := by
  obtain ⟨components, filter, derivation, hcomponents, hfilter, hderivation, rfl⟩ :=
    compile_eq_ok_iff.mp hc
  exact compile_eq_ok_iff.mpr ⟨_, _, _, hcomponents, hfilter, rfl, rfl⟩

theorem derivation_of_compile {d : Derivation} (hc : c.compile = .ok e)
    (hd : c.function = some d.identifier) : e.derivation = some d := by
  obtain ⟨components, filter, derivation, -, -, hderivation, rfl⟩ := compile_eq_ok_iff.mp hc
  have hsome : c.compileDerivation = .ok (some d) := by
    rw [compileDerivation, hd]
    cases d <;> rfl
  rw [hsome] at hderivation
  exact (Except.ok.inj hderivation).symm

end MarcHarvest.Config
