import MarcHarvest.Index.Basic

/-!
# Questions to an index

An `Inquiry` is a computation that sees no index. It asks one question after the other, and what it
asks next, or whether it asks at all, depends on the answers so far. Run on an index it gives a
value (`run`) and leaves behind what it asked there (`asked`).

The answers to these questions are all that a run takes from the index: another index that gives
the same ones leads to the same value (`run_congr`). So if an inquiry gives the values of a function
on every index, its questions are the look-ups of the function. `AsksOnly` bounds them for all
indexes at once; it passes through the constructions from which inquiries are put together.
-/

namespace MarcHarvest

/-! ## Questions -/

/-- A question to an index. -/
inductive Query where
  /-- The control field with a tag. -/
  | control (tag : String)
  /-- The direct fields with a tag. -/
  | direct (tag : String)
  /-- The fields in an alternate script that link to a tag. -/
  | linked (tag : String)
  /-- The direct fields whose tag satisfies `p`. -/
  | directWhere (p : String → Bool)

namespace Query

/-- What can be answered to a question. -/
def Answer : Query → Type
  | control _ => Option PlacedControl
  | direct _ | linked _ | directWhere _ => List PlacedField

def answer (index : Index) : (q : Query) → q.Answer
  | control t => index.controlField? t
  | direct t => index.directFields t
  | linked t => index.linkedFields t
  | directWhere p => index.directFieldsWhere p

end Query

/-- Whether an interest includes every tag that a question looks up among the data fields, or
control fields if it looks up one of these. -/
def Interest.Covers (i : Interest) : Query → Prop
  | .control _ => i.control
  | .direct t | .linked t => i.contains t
  | .directWhere p => ∀ t, p t → i.contains t

/-! ## Inquiries -/

/-- A computation that learns of an index only by questions. -/
inductive Inquiry (α : Type) : Type where
  | done (a : α)
  | ask (q : Query) (next : q.Answer → Inquiry α)

namespace Inquiry

variable {α β : Type} {index : Index}

protected def bind : Inquiry α → (α → Inquiry β) → Inquiry β
  | done a, f => f a
  | ask q next, f => ask q fun answer => (next answer).bind f

instance : Monad Inquiry where
  pure := done
  bind := Inquiry.bind

theorem ask_bind (q : Query) (next : q.Answer → Inquiry α) (f : α → Inquiry β) :
    ask q next >>= f = ask q fun answer => next answer >>= f := rfl

instance : LawfulMonad Inquiry :=
  LawfulMonad.mk' Inquiry
    (fun x => by
      induction x with
      | done a => rfl
      | ask q next ih => exact congrArg (ask q) (funext ih))
    (fun _ _ => rfl)
    (fun x f g => by
      induction x with
      | done a => rfl
      | ask q next ih =>
        rw [ask_bind, ask_bind, ask_bind]
        exact congrArg (ask q) (funext ih))

def control (tag : String) : Inquiry (Option PlacedControl) := ask (.control tag) done

def direct (tag : String) : Inquiry (List PlacedField) := ask (.direct tag) done

def linked (tag : String) : Inquiry (List PlacedField) := ask (.linked tag) done

def directWhere (p : String → Bool) : Inquiry (List PlacedField) := ask (.directWhere p) done

/-! ## Runs -/

/-- What an inquiry gives on an index. -/
def run (index : Index) : Inquiry α → α
  | done a => a
  | ask q next => (next (q.answer index)).run index

/-- The questions of a run, in their order. -/
def asked (index : Index) : Inquiry α → List Query
  | done _ => []
  | ask q next => q :: (next (q.answer index)).asked index

/-- An index that answers the questions of a run in the same way leads to the same run. -/
theorem run_congr {x : Inquiry α} {a b : Index} (h : ∀ q ∈ x.asked a, q.answer a = q.answer b) :
    x.run a = x.run b ∧ x.asked a = x.asked b := by
  induction x with
  | done _ => exact ⟨rfl, rfl⟩
  | ask q next ih =>
    have hq : q.answer a = q.answer b := h q List.mem_cons_self
    obtain ⟨hrun, hasked⟩ := ih (q.answer a) fun r hr => h r (List.mem_cons_of_mem q hr)
    rw [run, run, asked, asked, ← hq, hrun, hasked]
    exact ⟨rfl, rfl⟩

@[simp] theorem run_pure (a : α) : (pure a : Inquiry α).run index = a := rfl

@[simp] theorem run_control (t : String) : (control t).run index = index.controlField? t := rfl

@[simp] theorem run_direct (t : String) : (direct t).run index = index.directFields t := rfl

@[simp] theorem run_linked (t : String) : (linked t).run index = index.linkedFields t := rfl

@[simp] theorem run_directWhere (p : String → Bool) :
    (directWhere p).run index = index.directFieldsWhere p := rfl

@[simp] theorem run_bind (x : Inquiry α) (f : α → Inquiry β) :
    (x >>= f).run index = (f (x.run index)).run index := by
  induction x with
  | done _ => rfl
  | ask q next ih => exact ih (q.answer index)

@[simp] theorem run_mapM (f : α → Inquiry β) (l : List α) :
    (l.mapM f).run index = l.map fun a => (f a).run index := by
  induction l with
  | nil => rfl
  | cons a rest ih => rw [List.mapM_cons, run_bind, run_bind, ih, run_pure, List.map_cons]

@[simp] theorem run_findSomeM? (f : α → Inquiry (Option β)) (l : List α) :
    (l.findSomeM? f).run index = l.findSome? fun a => (f a).run index := by
  induction l with
  | nil => rfl
  | cons a rest ih =>
    rw [List.findSomeM?, run_bind, List.findSome?_cons]
    cases (f a).run index with
    | some b => rfl
    | none => exact ih

/-! ## What is asked under any answers -/

/-- Whether an inquiry asks only questions that satisfy `P`, however they are answered. -/
def AsksOnly (P : Query → Prop) : Inquiry α → Prop
  | done _ => True
  | ask q next => P q ∧ ∀ answer, (next answer).AsksOnly P

namespace AsksOnly

variable {P : Query → Prop}

theorem of_mem_asked {x : Inquiry α} (h : x.AsksOnly P) {q : Query} (hq : q ∈ x.asked index) :
    P q := by
  induction x with
  | done _ => exact absurd hq List.not_mem_nil
  | ask r next ih =>
    rcases List.mem_cons.mp hq with rfl | hq
    · exact h.1
    · exact ih _ (h.2 _) hq

theorem pure (a : α) : (pure a : Inquiry α).AsksOnly P := trivial

theorem control {t : String} (h : P (.control t)) : (control t).AsksOnly P := ⟨h, fun _ => trivial⟩

theorem direct {t : String} (h : P (.direct t)) : (direct t).AsksOnly P := ⟨h, fun _ => trivial⟩

theorem linked {t : String} (h : P (.linked t)) : (linked t).AsksOnly P := ⟨h, fun _ => trivial⟩

theorem directWhere {p : String → Bool} (h : P (.directWhere p)) : (directWhere p).AsksOnly P :=
  ⟨h, fun _ => trivial⟩

theorem bind {x : Inquiry α} {f : α → Inquiry β} (hx : x.AsksOnly P) (hf : ∀ a, (f a).AsksOnly P) :
    (x >>= f).AsksOnly P := by
  induction x with
  | done a => exact hf a
  | ask q next ih => exact ⟨hx.1, fun answer => ih answer (hx.2 answer)⟩

theorem mapM {f : α → Inquiry β} {l : List α} (h : ∀ a ∈ l, (f a).AsksOnly P) :
    (l.mapM f).AsksOnly P := by
  induction l with
  | nil => exact .pure []
  | cons a rest ih =>
    rw [List.mapM_cons]
    refine (h a List.mem_cons_self).bind fun b => ?_
    exact (ih fun c hc => h c (List.mem_cons_of_mem a hc)).bind fun bs => .pure (b :: bs)

theorem findSomeM? {f : α → Inquiry (Option β)} {l : List α} (h : ∀ a ∈ l, (f a).AsksOnly P) :
    (l.findSomeM? f).AsksOnly P := by
  induction l with
  | nil => exact .pure none
  | cons a rest ih =>
    rw [List.findSomeM?]
    refine (h a List.mem_cons_self).bind fun found => ?_
    cases found with
    | some b => exact .pure (some b)
    | none => exact ih fun c hc => h c (List.mem_cons_of_mem a hc)

end AsksOnly

end Inquiry

end MarcHarvest
