import Mathlib.Data.List.Perm.Basic
import MarcHarvest.Json.Shape

/-!
# Reading structures

A structure is read from an object key by key (`member?`), so neither the order of the members nor a
member with another key matters, and a member that holds what is read in its absence can be left
out.
-/

namespace MarcHarvest.Json

variable {α : Type} {key : String} {m : String × Json} {before after : List (String × Json)}

theorem mapM_map_eq_some {β : Type} {read : β → Option α} {write : α → β}
    (h : ∀ a, read (write a) = some a) (l : List α) : (l.map write).mapM read = some l := by
  have hpure : read ∘ write = fun a => pure (id a) := funext h
  rw [List.mapM_map, hpure, List.mapM_pure, List.map_id]
  rfl

theorem forall₂_of_parts? {keys : List String} {members : List (String × Json)}
    {parts : List (Option Json)} (h : parts? keys (.object members) = some parts) :
    List.Forall₂ (fun key part => soleMember? key members = some part) keys parts := by
  rw [parts?] at h
  induction keys generalizing parts with
  | nil =>
    cases h
    exact .nil
  | cons key keys ih =>
    rw [List.mapM_cons] at h
    obtain ⟨part, hpart, h⟩ := Option.bind_eq_some_iff.mp h
    obtain ⟨rest, hrest, h⟩ := Option.bind_eq_some_iff.mp h
    cases h
    exact .cons hpart (ih hrest)

theorem parts?_of_forall₂ {keys : List String} {members : List (String × Json)}
    {parts : List (Option Json)}
    (h : List.Forall₂ (fun key part => soleMember? key members = some part) keys parts) :
    parts? keys (.object members) = some parts := by
  rw [parts?]
  induction h with
  | nil => rfl
  | cons hpart _ ih =>
    rw [List.mapM_cons, hpart, ih]
    rfl

def member? (key : String) (read : Option Json → Option α) (members : List (String × Json)) :
    Option α :=
  (soleMember? key members).bind read

theorem soleMember?_congr {members members' : List (String × Json)}
    (h : (members.filter fun m => m.1 = key).Perm (members'.filter fun m => m.1 = key)) :
    soleMember? key members = soleMember? key members' := by
  unfold soleMember?
  generalize members.filter (fun m => m.1 = key) = l at h
  generalize members'.filter (fun m => m.1 = key) = l' at h
  match l, l' with
  | [], l' => rw [h.nil_eq]
  | [m], l' => rw [h.singleton_eq]
  | m :: n :: rest, [] => exact absurd h.length_eq (by simp)
  | m :: n :: rest, [_] => exact absurd h.length_eq (by simp)
  | _ :: _ :: _, _ :: _ :: _ => rfl

theorem soleMember?_perm {members members' : List (String × Json)} (h : members.Perm members') :
    soleMember? key members = soleMember? key members' :=
  soleMember?_congr (h.filter _)

theorem soleMember?_of_ne (h : m.1 ≠ key) :
    soleMember? key (before ++ m :: after) = soleMember? key (before ++ after) := by
  refine soleMember?_congr ?_
  rw [List.filter_append, List.filter_append, List.filter_cons_of_neg (by simpa using h)]

theorem soleMember?_of_eq (h : m.1 = key) {part : Option Json}
    (hpart : soleMember? key (before ++ m :: after) = some part) :
    part = some m.2 ∧ soleMember? key (before ++ after) = some none := by
  unfold soleMember? at hpart ⊢
  rw [List.filter_append, List.filter_cons_of_pos (by simpa using h)] at hpart
  rw [List.filter_append]
  generalize before.filter (fun m => m.1 = key) = l at hpart ⊢
  generalize after.filter (fun m => m.1 = key) = l' at hpart ⊢
  match l, l' with
  | [], [] => exact ⟨(Option.some.inj hpart).symm, rfl⟩
  | [], _ :: _ => exact absurd hpart (by simp)
  | [_], _ => exact absurd hpart (by simp)
  | _ :: _ :: _, _ => exact absurd hpart (by simp)

theorem member?_leave {read : Option Json → Option α} {a : α}
    (hm : m.1 = key → read (some m.2) = read none)
    (h : member? key read (before ++ m :: after) = some a) :
    member? key read (before ++ after) = some a := by
  by_cases hkey : m.1 = key
  · obtain ⟨part, hpart, hread⟩ := Option.bind_eq_some_iff.mp h
    obtain ⟨rfl, hnone⟩ := soleMember?_of_eq hkey hpart
    rw [member?, hnone, Option.bind_some, ← hm hkey, hread]
  · rwa [member?, soleMember?_of_ne hkey] at h

end MarcHarvest.Json
