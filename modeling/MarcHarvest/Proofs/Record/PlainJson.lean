import Mathlib.Logic.Relation
import MarcHarvest.Proofs.Json.Printing
import MarcHarvest.Proofs.Json.Rewriting
import MarcHarvest.Record.PlainJson

/-!
# Stored records

A record is read back from the value that it is written to and from the text of that value. Each
structure in it, the record, a field or a subfield, can also be written differently, with other keys
besides, in another order or as an array (`Record.Restates`): a subfield reads the same because its
parts are the same, a field because its parts are the same or hold subfields that read the same, and
a record because its parts are the same or hold fields that read the same. So any number of such
changes keeps the record (`Record.ofJson?_lossless`).
-/

namespace MarcHarvest

open Json

/-! ## Written parts -/

namespace Json

variable {α : Type}

theorem char?_singleton (c : Char) : char? (.text (.singleton c)) = some c := by
  simp [char?, text?]

theorem listOf?_map {read : Json → Option α} {write : α → Json}
    (h : ∀ a, read (write a) = some a) (l : List α) :
    listOf? read (.array (l.map write)) = some l := mapM_map_eq_some h l

theorem textMembers?_map (l : List (String × String)) :
    textMembers? (.object (l.map fun e => (e.1, .text e.2))) = some l := by
  refine mapM_map_eq_some (fun _ => ?_) l
  rfl

end Json

/-! ## Subfields -/

namespace Subfield

def keys : List String := ["code", "value"]

/-- One change of a value that keeps the subfield in it. -/
def Restates : Json → Json → Prop := Rewrites keys

theorem unseen_ofJson? : Unseen Restates ofJson? := unseen_of_rewrites (by decide) _

theorem ofJson?_toJson (s : Subfield) : ofJson? s.toJson = some s := by
  simp [ofJson?, toJson, parts?, soleMember?, required, char?_singleton, text?]

end Subfield

/-! ## Fields -/

namespace Field

def keys : List String := ["tag", "indicator1", "indicator2", "subfields"]

/-- One change of a value that keeps the field in it: of the structure itself or of one item in one
of its parts, a subfield. -/
def Restates (j j' : Json) : Prop :=
  Rewrites keys j j' ∨ Inside (Inside Subfield.Restates) j j'

theorem unseen_text? : Unseen Restates text? := by
  rintro j j' (h | h)
  · exact unseen_text?_of_rewrites _ _ h
  · exact unseen_text?_of_inside _ _ h

theorem unseen_ofJson? : Unseen Restates ofJson? := by
  rintro j j' (h | h)
  · exact unseen_of_rewrites (by decide) _ _ _ h
  · refine unseen_of_inside keys (fun parts parts' hparts => ?_) j j' h
    obtain _ | ⟨htag, _ | ⟨hind1, _ | ⟨hind2, _ | ⟨hsubfields, _ | _⟩⟩⟩⟩ := hparts
    case cons.cons.cons.cons.nil =>
      simp only [unseen_text?_of_inside.required htag,
        unseen_text?_of_inside.char?.required hind1, unseen_text?_of_inside.char?.required hind2,
        Subfield.unseen_ofJson?.listOf?.required hsubfields]
    all_goals rfl

theorem ofJson?_toJson (f : Field) : ofJson? f.toJson = some f := by
  simp [ofJson?, toJson, parts?, soleMember?, required, char?_singleton, text?,
    listOf?_map Subfield.ofJson?_toJson]

end Field

/-! ## Records -/

namespace Record

def keys : List String := ["leader", "control_fields", "fields"]

/-- One change of a value that keeps the record in it: of the structure itself or of one item in one
of its parts, a field. -/
def Restates (j j' : Json) : Prop :=
  Rewrites keys j j' ∨ Inside (Inside Field.Restates) j j'

theorem unseen_ofJson? : Unseen Restates ofJson? := by
  rintro j j' (h | h)
  · exact unseen_of_rewrites (by decide) _ _ _ h
  · refine unseen_of_inside keys (fun parts parts' hparts => ?_) j j' h
    obtain _ | ⟨hleader, _ | ⟨hcontrol, _ | ⟨hfields, _ | _⟩⟩⟩ := hparts
    case cons.cons.cons.nil =>
      -- what could change a control field would leave it no text
      simp only [unseen_text?_of_inside.required hleader,
        Field.unseen_text?.textMembers?.required hcontrol,
        Field.unseen_ofJson?.listOf?.required hfields]
    all_goals rfl

theorem ofJson?_toJson (r : Record) : ofJson? r.toJson = some r := by
  simp [ofJson?, toJson, parts?, soleMember?, required, text?, textMembers?_map,
    listOf?_map Field.ofJson?_toJson, ofParts, OrderedMap.ofList_entries]

/-- **Stored records are read back and read leniently.** Every record is read back from its value
and from the text of its value; and however a value is written differently, with other keys, in
another order or as an array at any level, it holds the same record or none as before, and so do the
texts that write it. -/
theorem ofJson?_lossless :
    (∀ r : Record, ofJson? r.toJson = some r ∧ ofJsonText? r.toJson.toText = some r) ∧
    ∀ j j', Relation.EqvGen Restates j j' → ofJson? j = ofJson? j' ∧
      ∀ text text', parse? text = some j → parse? text' = some j' →
        ofJsonText? text = ofJsonText? text' := by
  refine ⟨fun r => ⟨ofJson?_toJson r, ?_⟩, fun j j' hsteps => ?_⟩
  · rw [ofJsonText?, parse?_toText, Option.bind_some, ofJson?_toJson]
  · have hsame := unseen_ofJson?.eqvGen j j' hsteps
    refine ⟨hsame, fun text text' htext htext' => ?_⟩
    rw [ofJsonText?, ofJsonText?, htext, htext', Option.bind_some, Option.bind_some, hsame]

def titled : Record where
  leader := defaultLeader
  control := .ofList [("001", "b17"), ("008", "2024")]
  fields := [⟨"245", '1', '0', [⟨'a', "Emma"⟩]⟩]

/-- The same record with arrays for its field and its subfield, another key and another order. -/
def retold : Json :=
  .object [
    ("source", .broken),
    ("control_fields", .object [("001", .text "b17"), ("008", .text "2024")]),
    ("fields", .array [.array [.text "245", .text "1", .text "0",
      .array [.array [.text "a", .text "Emma"]]]]),
    ("leader", .text defaultLeader)]

theorem ofJson?_lossless_titled :
    ofJson? titled.toJson = some titled ∧ Relation.EqvGen Restates titled.toJson retold ∧
      ofJson? retold = some titled ∧ ofJsonText? retold.toText = some titled := by
  have hsteps : Relation.EqvGen Restates titled.toJson retold := by
    let leader : String × Json := ("leader", .text defaultLeader)
    let control : String × Json :=
      ("control_fields", .object [("001", .text "b17"), ("008", .text "2024")])
    let fields (field : Json) : String × Json := ("fields", .array [field])
    let title (subfield : Json) : Json := .object [("tag", .text "245"), ("indicator1", .text "1"),
      ("indicator2", .text "0"), ("subfields", .array [subfield])]
    let subfield : Json := .array [.text "a", .text "Emma"]
    let field : Json := .array [.text "245", .text "1", .text "0", .array [subfield]]
    have hsubfield : Restates titled.toJson (.object [leader, control, fields (title subfield)]) :=
      .inr (.member [leader, control] "fields" (.item []
        (.inr (.member [_, _, _] "subfields" (.item [] (.values [_, _] rfl))))))
    have hfield : Restates (.object [leader, control, fields (title subfield)])
        (.object [leader, control, fields field]) :=
      .inr (.member [leader, control] "fields" (.item [] (.inl (.values [_, _, _, _] rfl))))
    have hsource : Restates (.object [leader, control, fields field])
        (.object [leader, ("source", .broken), control, fields field]) :=
      .inl (.insert [leader] (by decide))
    have horder : Restates (.object [leader, ("source", .broken), control, fields field]) retold :=
      .inl (.permute (List.perm_append_comm_assoc [leader] [_, _, _] []))
    exact (((Relation.EqvGen.rel _ _ hsubfield).trans _ _ _ (.rel _ _ hfield)).trans _ _ _
      (.rel _ _ hsource)).trans _ _ _ (.rel _ _ horder)
  obtain ⟨hread, -⟩ := ofJson?_lossless.1 titled
  obtain ⟨hsame, htexts⟩ := ofJson?_lossless.2 _ _ hsteps
  refine ⟨hread, hsteps, hsame.symm.trans hread, ?_⟩
  rw [← htexts _ _ (parse?_toText _) (parse?_toText _)]
  exact (ofJson?_lossless.1 titled).2

end Record

end MarcHarvest
