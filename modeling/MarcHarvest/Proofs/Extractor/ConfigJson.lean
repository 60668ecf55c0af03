import Mathlib.Logic.Relation
import MarcHarvest.Extractor.Config
import MarcHarvest.Proofs.Json.Structure

/-!
# Configurations in JSON

A configuration is read back from the object that it is written to, and from the array of the values
of that object. An object that holds a configuration may also be written differently: with other
keys besides, in another order, without what is the default anyway (`Restates`). Each of these
changes keeps what is read under each of the eight keys, so any number of them keeps the
configuration (`ofJson?_restated`).
-/

namespace MarcHarvest.Config

open Json

/-! ## Key by key -/

/-- What the eight keys of an object have to hold. -/
structure Reads (members : List (String × Json)) (c : Config) : Prop where
  name : member? "name" (required text?) members = some c.name
  fieldSpec : member? "fieldSpec" (withDefault none (nullable text?)) members = some c.fieldSpec
  scripts : member? "scriptInclusion" (withDefault none (nullable ScriptInclusion.ofJson?))
    members = some c.scripts
  trims : member? "trimPunctuation" (withDefault true bool?) members = some c.trims
  filter : member? "filter" (withDefault none (nullable text?)) members = some c.filter
  delimiter : member? "delimiter" (withDefault " " text?) members = some c.delimiter
  function : member? "extractFunction" (withDefault none (nullable text?)) members =
    some c.function
  keepsOrder : member? "keepSubfieldOrder" (withDefault false bool?) members = some c.keepsOrder

theorem ofJson?_object_eq_some_iff {members : List (String × Json)} {c : Config} :
    ofJson? (.object members) = some c ↔ Reads members c := by
  constructor
  · intro h
    obtain ⟨parts, hparts, h⟩ := Option.bind_eq_some_iff.mp h
    obtain _ | ⟨hname, _ | ⟨hfieldSpec, _ | ⟨hscripts, _ | ⟨htrims, _ | ⟨hfilter, _ | ⟨hdelimiter,
      _ | ⟨hfunction, _ | ⟨hkeepsOrder, _ | _⟩⟩⟩⟩⟩⟩⟩⟩ := forall₂_of_parts? hparts
    obtain ⟨_, hname', h⟩ := Option.bind_eq_some_iff.mp h
    obtain ⟨_, hfieldSpec', h⟩ := Option.bind_eq_some_iff.mp h
    obtain ⟨_, hscripts', h⟩ := Option.bind_eq_some_iff.mp h
    obtain ⟨_, htrims', h⟩ := Option.bind_eq_some_iff.mp h
    obtain ⟨_, hfilter', h⟩ := Option.bind_eq_some_iff.mp h
    obtain ⟨_, hdelimiter', h⟩ := Option.bind_eq_some_iff.mp h
    obtain ⟨_, hfunction', h⟩ := Option.bind_eq_some_iff.mp h
    obtain ⟨_, hkeepsOrder', h⟩ := Option.bind_eq_some_iff.mp h
    obtain rfl := Option.some.inj h
    exact {
      name := Option.bind_eq_some_iff.mpr ⟨_, hname, hname'⟩
      fieldSpec := Option.bind_eq_some_iff.mpr ⟨_, hfieldSpec, hfieldSpec'⟩
      scripts := Option.bind_eq_some_iff.mpr ⟨_, hscripts, hscripts'⟩
      trims := Option.bind_eq_some_iff.mpr ⟨_, htrims, htrims'⟩
      filter := Option.bind_eq_some_iff.mpr ⟨_, hfilter, hfilter'⟩
      delimiter := Option.bind_eq_some_iff.mpr ⟨_, hdelimiter, hdelimiter'⟩
      function := Option.bind_eq_some_iff.mpr ⟨_, hfunction, hfunction'⟩
      keepsOrder := Option.bind_eq_some_iff.mpr ⟨_, hkeepsOrder, hkeepsOrder'⟩ }
  · rintro ⟨hname, hfieldSpec, hscripts, htrims, hfilter, hdelimiter, hfunction, hkeepsOrder⟩
    obtain ⟨_, hname, hname'⟩ := Option.bind_eq_some_iff.mp hname
    obtain ⟨_, hfieldSpec, hfieldSpec'⟩ := Option.bind_eq_some_iff.mp hfieldSpec
    obtain ⟨_, hscripts, hscripts'⟩ := Option.bind_eq_some_iff.mp hscripts
    obtain ⟨_, htrims, htrims'⟩ := Option.bind_eq_some_iff.mp htrims
    obtain ⟨_, hfilter, hfilter'⟩ := Option.bind_eq_some_iff.mp hfilter
    obtain ⟨_, hdelimiter, hdelimiter'⟩ := Option.bind_eq_some_iff.mp hdelimiter
    obtain ⟨_, hfunction, hfunction'⟩ := Option.bind_eq_some_iff.mp hfunction
    obtain ⟨_, hkeepsOrder, hkeepsOrder'⟩ := Option.bind_eq_some_iff.mp hkeepsOrder
    simp only [ofJson?, parts?, keys, List.mapM_cons, List.mapM_nil, Option.bind_eq_bind,
      Option.pure_def, Option.bind_some, hname, hfieldSpec, hscripts, htrims, hfilter, hdelimiter,
      hfunction, hkeepsOrder, hname', hfieldSpec', hscripts', htrims', hfilter', hdelimiter',
      hfunction', hkeepsOrder']

/-! ## What is written -/

theorem nullable_ofText? (s : Option String) : nullable text? (.ofText? s) = some s := by
  cases s <;> rfl

theorem nullable_identifier (mode : Option ScriptInclusion) :
    nullable ScriptInclusion.ofJson? (.ofText? (mode.map ScriptInclusion.identifier)) =
      some mode := by
  cases mode with
  | none => rfl
  | some mode => cases mode <;> rfl

def valuesOf : Json → Json
  | .object members => .array (members.map Prod.snd)
  | j => j

theorem ofJson?_toJson (c : Config) : ofJson? c.toJson = some c := by
  refine ofJson?_object_eq_some_iff.mpr ?_
  constructor <;> simp [member?, soleMember?, required, withDefault, text?, bool?,
    nullable_ofText?, nullable_identifier]

theorem ofJson?_valuesOf_toJson (c : Config) : ofJson? (valuesOf c.toJson) = some c := by
  simp [ofJson?, valuesOf, toJson, parts?, keys, required, withDefault, text?, bool?,
    nullable_ofText?, nullable_identifier]

/-! ## What can be written differently -/

/-- The members that hold what is read without them. -/
def defaults : List (String × Json) :=
  [("fieldSpec", .null), ("scriptInclusion", .null), ("trimPunctuation", .bool true),
    ("filter", .null), ("delimiter", .text " "), ("extractFunction", .null),
    ("keepSubfieldOrder", .bool false)]

example (name : String) : toJson { name } = .object (("name", .text name) :: defaults) := rfl

/-- One change of an object that keeps the configuration in it. -/
inductive Restates : List (String × Json) → List (String × Json) → Prop
  | insert (before : List (String × Json)) {after : List (String × Json)}
      {m : String × Json} (h : m.1 ∉ keys) :
      Restates (before ++ after) (before ++ m :: after)
  | remove (before : List (String × Json)) {after : List (String × Json)}
      {m : String × Json} (h : m.1 ∉ keys) :
      Restates (before ++ m :: after) (before ++ after)
  | permute {members members' : List (String × Json)} (h : members.Perm members') :
      Restates members members'
  | leave (before : List (String × Json)) {after : List (String × Json)}
      {m : String × Json} (h : m ∈ defaults) :
      Restates (before ++ m :: after) (before ++ after)

variable {members members' before after : List (String × Json)} {m : String × Json} {c : Config}

theorem Reads.congr (hr : Reads members c)
    (h : ∀ key ∈ keys, soleMember? key members = soleMember? key members') : Reads members' c where
  name := by rw [member?, ← h _ (by decide)]; exact hr.name
  fieldSpec := by rw [member?, ← h _ (by decide)]; exact hr.fieldSpec
  scripts := by rw [member?, ← h _ (by decide)]; exact hr.scripts
  trims := by rw [member?, ← h _ (by decide)]; exact hr.trims
  filter := by rw [member?, ← h _ (by decide)]; exact hr.filter
  delimiter := by rw [member?, ← h _ (by decide)]; exact hr.delimiter
  function := by rw [member?, ← h _ (by decide)]; exact hr.function
  keepsOrder := by rw [member?, ← h _ (by decide)]; exact hr.keepsOrder

theorem Reads.leave (hr : Reads (before ++ m :: after) c) (hm : m ∈ defaults) :
    Reads (before ++ after) c := by
  obtain ⟨hname, hfieldSpec, hscripts, htrims, hfilter, hdelimiter, hfunction, hkeepsOrder⟩ := hr
  simp only [defaults, List.mem_cons, List.not_mem_nil, or_false] at hm
  rcases hm with rfl | rfl | rfl | rfl | rfl | rfl | rfl
  -- a member is either read under the key, and then it holds the default, or not at all
  all_goals
    refine ⟨member?_leave ?_ hname, member?_leave ?_ hfieldSpec, member?_leave ?_ hscripts,
      member?_leave ?_ htrims, member?_leave ?_ hfilter, member?_leave ?_ hdelimiter,
      member?_leave ?_ hfunction, member?_leave ?_ hkeepsOrder⟩
    all_goals
      intro hkey
      first
        | rfl
        | exact absurd hkey (by decide)

theorem Reads.restates (hr : Reads members c) (h : Restates members members') :
    Reads members' c := by
  have hne : ∀ {m : String × Json}, m.1 ∉ keys → ∀ key ∈ keys, m.1 ≠ key := by
    rintro m hm key hkey rfl
    exact hm hkey
  cases h with
  | insert _ hm => exact hr.congr fun key hkey => (soleMember?_of_ne (hne hm key hkey)).symm
  | remove _ hm => exact hr.congr fun key hkey => soleMember?_of_ne (hne hm key hkey)
  | permute hperm => exact hr.congr fun key _ => soleMember?_perm hperm
  | leave _ hm => exact hr.leave hm

/-- **Configurations survive JSON and are read leniently.** Every configuration is read back from
its object, which has the eight keys, and from the array of its values; and however the object of a
configuration is written differently, it holds the same configuration. -/
theorem ofJson?_restated :
    (∀ c : Config, c.toJson.members?.map (List.map Prod.fst) = some keys ∧
      ofJson? c.toJson = some c ∧ ofJson? (valuesOf c.toJson) = some c) ∧
    ∀ members members' c, ofJson? (.object members) = some c →
      Relation.ReflTransGen Restates members members' → ofJson? (.object members') = some c := by
  refine ⟨fun c => ⟨rfl, ofJson?_toJson c, ofJson?_valuesOf_toJson c⟩, ?_⟩
  intro members members' c h hsteps
  induction hsteps with
  | refl => exact h
  | tail _ hstep ih =>
    have hreads := ofJson?_object_eq_some_iff.mp ih
    exact ofJson?_object_eq_some_iff.mpr (hreads.restates hstep)

/-- A configuration with the direct fields alone, with keys of others and a default written out. -/
def annotated : List (String × Json) :=
  [("comment", .array []), ("scriptInclusion", .object [("NONE", .null)]), ("filter", .null),
    ("comment", .broken), ("name", .text "title")]

theorem ofJson?_restated_annotated :
    ofJson? (.object annotated) = some { name := "title", scripts := some .none } ∧
    Relation.ReflTransGen Restates annotated
      [("name", .text "title"), ("note", .null), ("scriptInclusion", .object [("NONE", .null)])] ∧
    ofJson? (.object
      [("name", .text "title"), ("note", .null), ("scriptInclusion", .object [("NONE", .null)])]) =
        some { name := "title", scripts := some .none } := by
  have hread : ofJson? (.object annotated) = some { name := "title", scripts := some .none } := by
    decide
  have hsteps : Relation.ReflTransGen Restates annotated
      [("name", .text "title"), ("note", .null),
        ("scriptInclusion", .object [("NONE", .null)])] := by
    let mode : String × Json := ("scriptInclusion", .object [("NONE", .null)])
    let name : String × Json := ("name", .text "title")
    have hfirst : Restates annotated [mode, ("filter", .null), ("comment", .broken), name] :=
      .remove [] (by decide)
    have hsecond : Restates [mode, ("filter", .null), ("comment", .broken), name]
        [mode, ("filter", .null), name] := .remove [mode, _] (by decide)
    have hdefault : Restates [mode, ("filter", .null), name] [mode, name] :=
      .leave [mode] (by simp [defaults])
    have hswap : Restates [mode, name] [name, mode] := .permute (.swap ..)
    have hnote : Restates [name, mode] [name, ("note", .null), mode] :=
      .insert [name] (by decide)
    exact ((((Relation.ReflTransGen.single hfirst).tail hsecond).tail hdefault).tail hswap).tail
      hnote
  exact ⟨hread, hsteps, ofJson?_restated.2 _ _ _ hread hsteps⟩

end MarcHarvest.Config
