import Mathlib.Data.List.Forall2
import Mathlib.Logic.Relation
import MarcHarvest.Proofs.Json.Structure
import MarcHarvest.Proofs.StableSort

/-!
# Structures written differently

The object of a structure can also be written with keys besides its own, with its members in another
order, or as the array of its values; the parts of the structure stay the same
(`Rewrites.parts?_eq`). A change inside one of the parts is up to the reader of that part: what it
does not see (`Unseen`), a reader of a list or of a structure around it does not see either
(`Unseen.listOf?`, `unseen_of_inside`).
-/

namespace MarcHarvest.Json

variable {α : Type} {keys : List String} {key : String} {m : String × Json} {j j' : Json}
  {R : Json → Json → Prop}

/-! ## Around the parts -/

/-- One change of a structure with these keys that keeps its parts. -/
inductive Rewrites (keys : List String) : Json → Json → Prop
  /-- Some other key comes in. -/
  | insert (before : List (String × Json)) {after : List (String × Json)} {m : String × Json}
      (h : m.1 ∉ keys) : Rewrites keys (.object (before ++ after)) (.object (before ++ m :: after))
  /-- The members change places. -/
  | permute {members members' : List (String × Json)} (h : members.Perm members') :
      Rewrites keys (.object members) (.object members')
  /-- Only the values stay, in the order of the keys. -/
  | values (values : List Json) (h : values.length = keys.length) :
      Rewrites keys (.object (keys.zip values)) (.array values)

theorem parts?_object_congr {members members' : List (String × Json)}
    (h : ∀ key ∈ keys, soleMember? key members = soleMember? key members') :
    parts? keys (.object members) = parts? keys (.object members') := by
  have hmap := List.map_congr_left h
  have hmapM := congrArg (List.mapM (m := Option) id) hmap
  rwa [List.mapM_map, List.mapM_map] at hmapM

theorem soleMember?_of_mem {members : List (String × Json)} (h : (members.map Prod.fst).Nodup)
    (hm : m ∈ members) : soleMember? m.1 members = some (some m.2) := by
  rw [soleMember?, StableSort.filter_eq_singleton Prod.fst h hm]

theorem parts?_zip (hkeys : keys.Nodup) {values : List Json} (h : values.length = keys.length) :
    parts? keys (.object (keys.zip values)) = some (values.map some) := by
  have hfst : (keys.zip values).map Prod.fst = keys := List.map_fst_zip (by omega)
  refine parts?_of_forall₂ ?_
  rw [List.forall₂_map_right_iff, List.forall₂_iff_zip]
  exact ⟨h.symm, fun hm => soleMember?_of_mem (hfst.symm ▸ hkeys) hm⟩

theorem Rewrites.parts?_eq (hkeys : keys.Nodup) (h : Rewrites keys j j') :
    parts? keys j = parts? keys j' := by
  cases h with
  | insert before hm =>
    refine parts?_object_congr fun key hkey => (soleMember?_of_ne ?_).symm
    rintro rfl
    exact hm hkey
  | permute hperm => exact parts?_object_congr fun key _ => soleMember?_perm hperm
  | values values hlength =>
    rw [parts?_zip hkeys hlength, parts?, if_pos (by omega), hlength, Nat.sub_self,
      List.replicate_zero, List.append_nil]

/-! ## Inside the parts -/

/-- A change of one item of an array or of the value of one member of an object. -/
inductive Inside (R : Json → Json → Prop) : Json → Json → Prop
  | item (before : List Json) {after : List Json} {j j' : Json} (h : R j j') :
      Inside R (.array (before ++ j :: after)) (.array (before ++ j' :: after))
  | member (before : List (String × Json)) {after : List (String × Json)} (key : String)
      {j j' : Json} (h : R j j') :
      Inside R (.object (before ++ (key, j) :: after)) (.object (before ++ (key, j') :: after))

/-- Both parts are there or neither is, the same or changed. -/
abbrev PartChange (R : Json → Json → Prop) : Option Json → Option Json → Prop :=
  Option.Rel (Relation.ReflGen R)

theorem PartChange.refl : ∀ part : Option Json, PartChange R part part
  | none => .none
  | some _ => .some .refl

theorem soleMember?_inside (before : List (String × Json)) {after : List (String × Json)}
    (h : R j j') (key' : String) :
    Option.Rel (PartChange R) (soleMember? key' (before ++ (key, j) :: after))
      (soleMember? key' (before ++ (key, j') :: after)) := by
  have hrefl : ∀ found, Option.Rel (PartChange R) found found
    | none => .none
    | some part => .some (.refl part)
  by_cases hkey : key = key'
  · unfold soleMember?
    rw [List.filter_append, List.filter_append, List.filter_cons_of_pos (by simpa using hkey),
      List.filter_cons_of_pos (by simpa using hkey)]
    generalize before.filter (fun m => m.1 = key') = l
    generalize after.filter (fun m => m.1 = key') = l'
    match l, l' with
    | [], [] => exact .some (.some (.single h))
    | [], _ :: _ => exact .none
    | [_], _ => exact .none
    | _ :: _ :: _, _ => exact .none
  · rw [soleMember?_of_ne hkey, soleMember?_of_ne hkey]
    exact hrefl _

theorem rel_mapM {β γ : Type} {S : β → β → Prop} {f g : γ → Option β}
    (h : ∀ a, Option.Rel S (f a) (g a)) (l : List γ) :
    Option.Rel (List.Forall₂ S) (l.mapM f) (l.mapM g) := by
  induction l with
  | nil => exact .some .nil
  | cons a l ih =>
    have ha := h a
    rw [List.mapM_cons, List.mapM_cons]
    generalize f a = x, g a = y at ha
    generalize l.mapM f = xs, l.mapM g = ys at ih
    cases ha with
    | none => exact .none
    | some hxy =>
      cases ih with
      | none => exact .none
      | some hl => exact .some (.cons hxy hl)

/-- A change inside a structure changes its parts one by one. -/
theorem rel_parts? (keys : List String) (h : Inside R j j') :
    Option.Rel (List.Forall₂ (PartChange R)) (parts? keys j) (parts? keys j') := by
  cases h with
  | @item before after j j' hitem =>
    have hlength : (before ++ j :: after).length = (before ++ j' :: after).length := by simp
    have hrefl : ∀ parts, List.Forall₂ (PartChange R) parts parts :=
      fun parts => List.forall₂_same.mpr fun part _ => .refl part
    rw [parts?, parts?, hlength]
    split
    · rw [List.map_append, List.map_append, List.map_cons, List.map_cons]
      exact .some (List.rel_append (List.rel_append (hrefl _) (.cons (.some (.single hitem))
        (hrefl _))) (hrefl _))
    · exact .none
  | member before key hvalue => exact rel_mapM (soleMember?_inside before hvalue) keys

/-! ## What a reader does not see -/

/-- A reader does not see some changes of a value. -/
def Unseen (R : Json → Json → Prop) (read : Json → Option α) : Prop :=
  ∀ j j', R j j' → read j = read j'

variable {read : Json → Option α}

theorem Unseen.required (h : Unseen R read) {part part' : Option Json}
    (hpart : PartChange R part part') : Json.required read part = Json.required read part' := by
  cases hpart with
  | none => rfl
  | some hchange =>
    cases hchange with
    | refl => rfl
    | single hR => exact h _ _ hR

theorem unseen_of_rewrites (hkeys : keys.Nodup) (f : List (Option Json) → Option α) :
    Unseen (Rewrites keys) fun j => (parts? keys j).bind f := by
  intro j j' h
  dsimp only
  rw [h.parts?_eq hkeys]

theorem unseen_of_inside (keys : List String) {f : List (Option Json) → Option α}
    (hf : ∀ parts parts', List.Forall₂ (PartChange R) parts parts' → f parts = f parts') :
    Unseen (Inside R) fun j => (parts? keys j).bind f := by
  intro j j' h
  have hparts := rel_parts? keys h
  dsimp only
  generalize parts? keys j = parts, parts? keys j' = parts' at hparts
  cases hparts with
  | none => rfl
  | some hparts => exact hf _ _ hparts

theorem unseen_text?_of_rewrites : Unseen (Rewrites keys) text? := by
  rintro _ _ (_ | _ | _) <;> rfl

theorem unseen_text?_of_inside : Unseen (Inside R) text? := by
  rintro _ _ (_ | _) <;> rfl

theorem Unseen.char? (h : Unseen R text?) : Unseen R char? := by
  intro j j' hR
  rw [Json.char?, Json.char?, h _ _ hR]

theorem Unseen.listOf? (h : Unseen R read) : Unseen (Inside R) (listOf? read) := by
  rintro _ _ (⟨before, hR⟩ | _)
  · simp only [Json.listOf?, items?, Option.bind_some, List.mapM_append, List.mapM_cons, h _ _ hR]
  · rfl

theorem Unseen.textMembers? (h : Unseen R text?) : Unseen (Inside R) textMembers? := by
  rintro _ _ (_ | ⟨before, key, hR⟩)
  · rfl
  · simp only [Json.textMembers?, members?, Option.bind_some, List.mapM_append, List.mapM_cons,
      h _ _ hR]

/-- What is unseen step by step is unseen after any number of steps, there and back. -/
theorem Unseen.eqvGen (h : Unseen R read) : Unseen (Relation.EqvGen R) read := by
  intro j j' hsteps
  induction hsteps with
  | rel _ _ hR => exact h _ _ hR
  | refl => rfl
  | symm _ _ _ ih => exact ih.symm
  | trans _ _ _ _ _ ih ih' => exact ih.trans ih'

end MarcHarvest.Json
