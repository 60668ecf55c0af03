import MarcHarvest.Proofs.Pattern.Backtracking
import MarcHarvest.Proofs.Pattern.Outcomes

/-!
# Compiled patterns

The steps of a pattern take a thread to the outcomes of the pattern, in their order of preference
(`reaches_compile`). So a search with a compiled pattern gives the first outcome at the first place
that has one (`searchFrom?_compile`).
-/

namespace MarcHarvest.Pattern

/-! ## Steps in a program -/

/-- Whether the steps of a part stand in a program from a number on. -/
def Segment (program : Array Step) (base : Nat) (steps : List Step) : Prop :=
  ∀ i < steps.length, program[base + i]? = steps[i]?

section Segment

variable {program : Array Step} {base : Nat} {first second : List Step} {step : Step}

theorem Segment.append (h : Segment program base (first ++ second)) :
    Segment program base first ∧ Segment program (base + first.length) second := by
  refine ⟨fun i hi => ?_, fun i hi => ?_⟩
  · rw [h i (by rw [List.length_append]; omega), List.getElem?_append_left hi]
  · rw [Nat.add_assoc, h _ (by rw [List.length_append]; omega),
      List.getElem?_append_right (Nat.le_add_right ..), Nat.add_sub_cancel_left]

theorem Segment.head (h : Segment program base (step :: second)) : program[base]? = some step :=
  h 0 (by simp)

theorem Segment.tail (h : Segment program base (step :: second)) :
    Segment program (base + 1) second := by
  have hone : Segment program base ([step] ++ second) := h
  exact hone.append.2

end Segment

/-! ## Where threads lead -/

/-- Whether backtracking from some threads is backtracking from some others. -/
def Leads (program : Array Step) (todo more : List Thread) : Prop :=
  ∀ rest n r, Backtracks program (more ++ rest) n r → ∃ k, Backtracks program (todo ++ rest) k r

namespace Leads

variable {program : Array Step} {todo todo' more more' other : List Thread} {t : Thread}

theorem refl (program : Array Step) (todo : List Thread) : Leads program todo todo :=
  fun _ n _ h => ⟨n, h⟩

theorem trans (h : Leads program todo more) (h' : Leads program more other) :
    Leads program todo other := by
  intro rest n r hr
  obtain ⟨k, hk⟩ := h' rest n r hr
  exact h rest k r hk

theorem append (h : Leads program todo more) (h' : Leads program todo' more') :
    Leads program (todo ++ todo') (more ++ more') := by
  intro rest n r hr
  rw [List.append_assoc] at hr
  obtain ⟨k, hk⟩ := h _ n r hr
  rw [List.append_assoc]
  rcases hk.split with ⟨i, j, rfl, hfail, hmore⟩ | ⟨hne, hfirst⟩
  · obtain ⟨l, hl⟩ := h' rest j r hmore
    exact ⟨i + l, hfail.append_none hl⟩
  · obtain ⟨m, rfl⟩ := Option.ne_none_iff_exists'.mp hne
    exact ⟨k, hfirst.append_some _⟩

theorem flatMap {f g : Stage → List Thread} {l : List Stage}
    (h : ∀ s ∈ l, Leads program (f s) (g s)) : Leads program (l.flatMap f) (l.flatMap g) := by
  induction l with
  | nil => exact refl program []
  | cons s l ih =>
    rw [List.flatMap_cons, List.flatMap_cons]
    exact (h s List.mem_cons_self).append (ih fun u hu => h u (List.mem_cons_of_mem _ hu))

theorem step {s : Step} (h : program[t.step]? = some s) : Leads program [t] (t.next s) :=
  fun _ n _ hr => ⟨n + 1, .step h hr⟩

end Leads

def Stage.thread (s : Stage) (start : List Char) (step : Nat) : Thread :=
  ⟨step, s.place, start, s.opened, s.group⟩

/-- Whether the steps from `base` on take a thread to all of `us`, in this order, at step `stop`. -/
def Reaches (program : Array Step) (base stop : Nat) (s : Stage) (us : List Stage) : Prop :=
  ∀ start, Leads program [s.thread start base] (us.map fun u => u.thread start stop)

namespace Reaches

variable {program : Array Step} {base mid stop : Nat} {s : Stage} {us vs : List Stage}

theorem refl (program : Array Step) (base : Nat) (s : Stage) : Reaches program base base s [s] :=
  fun _ => Leads.refl program _

theorem flatMap {g : Stage → List Stage} (h : Reaches program base mid s us)
    (h' : ∀ u ∈ us, Reaches program mid stop u (g u)) :
    Reaches program base stop s (us.flatMap g) := by
  intro start
  refine (h start).trans ?_
  rw [List.map_flatMap, List.map_eq_flatMap]
  exact Leads.flatMap fun u hu => h' u hu start

theorem choose (greedy : Bool) {inside outside : Nat}
    (hstep : program[base]? = some (Step.choose greedy inside outside))
    (hin : Reaches program inside stop s us) (hout : Reaches program outside stop s vs) :
    Reaches program base stop s (prefer greedy us vs) := by
  intro start
  refine (Leads.step hstep).trans ?_
  cases greedy
  · rw [prefer, if_neg Bool.false_ne_true, List.map_append]
    exact (hout start).append (hin start)
  · rw [prefer, if_pos rfl, List.map_append]
    exact (hin start).append (hout start)

theorem jump (hstep : program[base]? = some (.jump mid)) (h : Reaches program mid stop s us) :
    Reaches program base stop s us := by
  intro start
  have hnext := Leads.step (t := s.thread start base) hstep
  exact hnext.trans (h start)

theorem jumped (h : Reaches program base mid s us) (hstep : program[mid]? = some (.jump stop)) :
    Reaches program base stop s us := by
  have hrest : ∀ u ∈ us, Reaches program mid stop u [u] := fun u _ =>
    Reaches.jump hstep (Reaches.refl program stop u)
  simpa using h.flatMap hrest

end Reaches

/-! ## Repetitions -/

section Repetition

variable {program : Array Step} {part : Nat → List Step} {f : Stage → List Stage}
  {greedy : Bool} {base length : Nat}

/-- Whether the steps of a part do what `f` says, wherever they stand. -/
def CarriesOut (program : Array Step) (part : Nat → List Step) (f : Stage → List Stage) :
    Prop :=
  ∀ base s, Segment program base (part base) →
    Reaches program base (base + (part base).length) s (f s)

theorem reaches_copies (hpart : CarriesOut program part f) (n : Nat) :
    CarriesOut program (copies part n) (exactly f n) := by
  induction n with
  | zero => exact fun base s _ => Reaches.refl program base s
  | succ n ih =>
    intro base s hseg
    obtain ⟨hfirst, hrest⟩ := Segment.append hseg
    rw [copies, List.length_append, ← Nat.add_assoc]
    exact (hpart base s hfirst).flatMap fun u _ => ih _ u hrest

theorem reaches_optionalCopies (hpart : CarriesOut program part f)
    (hlength : ∀ base, (part base).length = length) {stop n : Nat} {s : Stage}
    (hseg : Segment program base (optionalCopies part greedy stop n base))
    (hstop : stop = base + n * (length + 1)) :
    Reaches program base stop s (upTo f greedy n s) := by
  induction n generalizing base s with
  | zero =>
    obtain rfl : stop = base := by omega
    exact Reaches.refl program stop s
  | succ n ih =>
    obtain ⟨hcopy, hrest⟩ := Segment.append hseg
    refine Reaches.choose greedy hcopy.head ?_ (Reaches.refl program stop s)
    refine (hpart _ s hcopy.tail).flatMap fun u _ => ?_
    rw [List.length_cons, Nat.add_comm _ 1, ← Nat.add_assoc] at hrest
    refine ih hrest ?_
    rw [hlength, hstop, Nat.succ_mul]
    omega

theorem reaches_anyNumber (hpart : CarriesOut program part f)
    (htakes : ∀ s, ∀ u ∈ f s, u.left < s.left)
    (hlength : ∀ base, (part base).length = length) :
    CarriesOut program (anyNumber part greedy) (anyTimes f greedy) := by
  intro base s hseg
  obtain ⟨hcopy, hback⟩ := Segment.append hseg
  have hstop : base + (anyNumber part greedy base).length = base + (part base).length + 2 := by
    rw [anyNumber, List.length_append, List.length_cons, List.length_singleton, hlength, hlength]
    omega
  rw [hstop]
  clear hstop
  induction hn : s.left using Nat.strong_induction_on generalizing s with
  | _ n ih =>
    rw [anyTimes_eq htakes]
    have hfork := hcopy.head
    rw [hlength] at hfork
    rw [hlength]
    refine Reaches.choose greedy hfork ?_ (Reaches.refl program _ s)
    refine (hpart _ s hcopy.tail).flatMap fun u hu => ?_
    have hjump := hback.head
    rw [List.length_cons, Nat.add_comm _ 1, ← Nat.add_assoc] at hjump
    refine Reaches.jump hjump ?_
    have hu := htakes s u hu
    have hagain := ih u.left (by omega) u rfl
    rwa [hlength] at hagain

theorem reaches_oneOrMore (hpart : CarriesOut program part f)
    (htakes : ∀ s, ∀ u ∈ f s, u.left < s.left) :
    CarriesOut program (oneOrMore part greedy) fun s => (f s).flatMap (anyTimes f greedy) := by
  intro base s hseg
  obtain ⟨hcopy, hback⟩ := Segment.append hseg
  have hstop : base + (oneOrMore part greedy base).length = base + (part base).length + 1 := by
    rw [oneOrMore, List.length_append, List.length_singleton]
    omega
  rw [hstop]
  clear hstop
  induction hn : s.left using Nat.strong_induction_on generalizing s with
  | _ n ih =>
    refine (hpart base s hcopy).flatMap fun u hu => ?_
    rw [anyTimes_eq htakes]
    have hu := htakes s u hu
    exact Reaches.choose greedy hback.head (ih u.left (by omega) u rfl) (Reaches.refl program _ u)

theorem length_copies (hlength : ∀ base, (part base).length = length) (n base : Nat) :
    (copies part n base).length = n * length := by
  induction n generalizing base with
  | zero => simp [copies]
  | succ n ih =>
    rw [copies, List.length_append, hlength, ih, Nat.succ_mul]
    omega

theorem length_optionalCopies (hlength : ∀ base, (part base).length = length)
    (stop n base : Nat) :
    (optionalCopies part greedy stop n base).length = n * (length + 1) := by
  induction n generalizing base with
  | zero => simp [optionalCopies]
  | succ n ih =>
    rw [optionalCopies, List.length_append, List.length_cons, hlength, ih, Nat.succ_mul]
    omega

theorem length_repetition (hlength : ∀ base, (part base).length = length) (canBeEmpty : Bool)
    (least : Nat) (most : Option Nat) (greedy : Bool) (base : Nat) :
    (repetition part canBeEmpty least most greedy base).length =
      (repetition part canBeEmpty least most greedy 0).length := by
  cases most with
  | some most => simp [repetition, length_copies hlength, length_optionalCopies hlength]
  | none =>
    cases least with
    | zero =>
      cases canBeEmpty
      · simp [repetition, anyNumber, hlength]
      · simp [repetition, oneOrNone, oneOrMore, hlength]
    | succ least => simp [repetition, oneOrMore, length_copies hlength, hlength]

theorem reaches_repetition (hpart : CarriesOut program part f)
    (hlength : ∀ base, (part base).length = length) {canBeEmpty : Bool} {least : Nat}
    {most : Option Nat}
    (htakes : most = none → canBeEmpty = false ∧ ∀ s, ∀ u ∈ f s, u.left < s.left) :
    CarriesOut program (repetition part canBeEmpty least most greedy) fun s =>
      (exactly f least s).flatMap
        (most.elim (anyTimes f greedy) fun most => upTo f greedy (most - least)) := by
  intro base s hseg
  dsimp only
  cases most with
  | some most =>
    obtain ⟨hfixed, hfree⟩ := Segment.append hseg
    have hstop : base + (repetition part canBeEmpty least (some most) greedy base).length =
        base + (copies part least base).length + (most - least) * ((part base).length + 1) := by
      rw [repetition, List.length_append, length_optionalCopies hlength, hlength, Nat.add_assoc]
    rw [hstop]
    refine (reaches_copies hpart least base s hfixed).flatMap fun u _ => ?_
    exact reaches_optionalCopies hpart hlength hfree (by rw [hlength])
  | none =>
    obtain ⟨rfl, hless⟩ := htakes rfl
    cases least with
    | zero =>
      have hany : (exactly f 0 s).flatMap (anyTimes f greedy) = anyTimes f greedy s := by
        simp [exactly]
      rw [Option.elim, hany]
      exact reaches_anyNumber hpart hless hlength base s hseg
    | succ least =>
      obtain ⟨hfixed, hmore⟩ := Segment.append hseg
      have hstop : base + (repetition part false (least + 1) none greedy base).length =
          base + (copies part least base).length +
            (oneOrMore part greedy (base + (copies part least base).length)).length := by
        rw [repetition, List.length_append, Nat.add_assoc]
      rw [hstop, exactly_succ, List.flatMap_assoc]
      exact (reaches_copies hpart least base s hfixed).flatMap fun u _ =>
        reaches_oneOrMore hpart hless _ u hmore

end Repetition

/-! ## Compiled patterns -/

theorem length_compile (p : Pattern) (base : Nat) :
    (p.compile base).length = (p.compile 0).length := by
  induction p generalizing base with
  | empty => rfl
  | one set => rfl
  | assertion a => rfl
  | seq a b iha ihb =>
    simp only [compile, List.length_append]
    rw [iha base, ihb (base + _), ihb (0 + _)]
  | alt a b iha ihb =>
    simp only [compile, List.length_append, List.length_cons]
    rw [iha (base + 1), iha (0 + 1), ihb (base + _ + 2), ihb (0 + _ + 2)]
  | group number p ih =>
    simp only [compile]
    split
    · simp only [List.length_append, List.length_cons]
      rw [ih (base + 1), ih (0 + 1)]
    · exact ih base
  | times p least most greedy ih =>
    exact length_repetition (fun base => ih base) p.canBeEmpty least most greedy base

theorem reaches_alternative {program : Array Step} {base : Nat} {first second : List Step}
    {s : Stage} {us vs : List Stage}
    (hseg : Segment program base (.fork (base + 1) (base + first.length + 2) :: first ++
      .jump (base + first.length + second.length + 2) :: second))
    (hfirst : Segment program (base + 1) first →
      Reaches program (base + 1) (base + 1 + first.length) s us)
    (hsecond : Segment program (base + first.length + 2) second →
      Reaches program (base + first.length + 2) (base + first.length + 2 + second.length) s vs) :
    Reaches program base (base + first.length + second.length + 2) s (us ++ vs) := by
  obtain ⟨hinside, hrest⟩ := Segment.append hseg
  rw [List.length_cons] at hrest
  have hjump := hrest.head
  rw [show base + (first.length + 1) = base + 1 + first.length by omega] at hjump
  have houtside := hsecond hrest.tail
  rw [Nat.add_right_comm _ 2] at houtside
  exact Reaches.choose true hinside.head ((hfirst hinside.tail).jumped hjump) houtside

theorem reaches_group {program : Array Step} {base : Nat} {steps : List Step} {s : Stage}
    {us : List Stage} (hseg : Segment program base (.openGroup :: steps ++ [.closeGroup]))
    (h : Segment program (base + 1) steps → Reaches program (base + 1) (base + 1 + steps.length)
      s.openGroup us) :
    Reaches program base (base + (steps.length + 2)) s (us.map Stage.closeGroup) := by
  obtain ⟨hopen, hclose⟩ := Segment.append hseg
  rw [List.length_cons] at hclose
  have hlast := hclose.head
  rw [show base + (steps.length + 1) = base + 1 + steps.length by omega] at hlast
  rw [List.map_eq_flatMap, show base + (steps.length + 2) = base + 1 + steps.length + 1 by omega]
  have hinside : Reaches program base (base + 1 + steps.length) s us := fun start =>
    (Leads.step (t := s.thread start base) hopen.head).trans (h hopen.tail start)
  exact hinside.flatMap fun u _ start => Leads.step (t := u.thread start _) hlast

theorem reaches_compile {program : Array Step} {p : Pattern} (h : p.ends = true) :
    CarriesOut program p.compile p.outcomes := by
  induction p with
  | empty => exact fun base s _ => Reaches.refl program base s
  | one set =>
    rintro base ⟨⟨before, after⟩, opened, group⟩ hseg start
    refine (Leads.step hseg.head).trans ?_
    cases after with
    | nil => exact Leads.refl program []
    | cons c rest =>
      dsimp only [Stage.thread, Thread.next]
      rw [outcomes, takeOne_cons]
      split
      · exact Leads.refl program _
      · exact Leads.refl program []
  | assertion a =>
    intro base s hseg start
    have hnext : (s.thread start base).next (.check a) =
        if a.holds s.place.before.head? s.place.after.head? then [s.thread start (base + 1)]
        else [] := rfl
    refine (Leads.step hseg.head).trans ?_
    rw [hnext, outcomes]
    split
    · exact Leads.refl program _
    · exact Leads.refl program []
  | seq a b iha ihb =>
    intro base s hseg
    obtain ⟨ha, hb⟩ := Bool.and_eq_true_iff.mp h
    obtain ⟨hfirst, hsecond⟩ := Segment.append hseg
    rw [compile, List.length_append, ← Nat.add_assoc]
    exact (iha ha base s hfirst).flatMap fun u _ => ihb hb _ u hsecond
  | alt a b iha ihb =>
    intro base s hseg
    obtain ⟨ha, hb⟩ := Bool.and_eq_true_iff.mp h
    have hlength : ((alt a b).compile base).length = (a.compile (base + 1)).length +
        (b.compile (base + (a.compile (base + 1)).length + 2)).length + 2 := by
      rw [compile, List.length_append, List.length_cons, List.length_cons]
      omega
    rw [hlength, ← Nat.add_assoc, ← Nat.add_assoc]
    exact reaches_alternative hseg (iha ha _ s) (ihb hb _ s)
  | group number p ih =>
    intro base s hseg
    by_cases hnumber : number = some 1
    · simp only [compile, if_pos hnumber] at hseg ⊢
      simp only [outcomes, if_pos hnumber]
      rw [List.length_append, List.length_cons]
      exact reaches_group hseg (ih h _ _)
    · simp only [compile, if_neg hnumber] at hseg ⊢
      simp only [outcomes, if_neg hnumber]
      exact ih h base s hseg
  | times p least most greedy ih =>
    obtain ⟨hp, hmost⟩ := Bool.and_eq_true_iff.mp h
    refine reaches_repetition (ih hp) (length_compile p) fun hnone => ?_
    have hempty : p.canBeEmpty = false := by simpa [hnone] using hmost
    exact ⟨hempty, fun s u hu => (left_outcomes p s u hu).2 hempty⟩

/-- **A search finds what the pattern says.** With a compiled pattern, it gives the first outcome at
the first place that has one. -/
theorem searchFrom?_compile {p : Pattern} (h : p.ends = true) (before after : List Char) :
    searchFrom? (p.compile 0).toArray before after =
      (Place.onwards before after).findSome? p.matchAt? := by
  refine searchFrom?_eq_findSome? fun place _ => ?_
  have hseg : Segment (p.compile 0).toArray 0 (p.compile 0) := fun i _ => by simp
  have hreach := reaches_compile h 0 ⟨place, 0, none⟩ hseg place.before
  have hend : ∀ us : List Stage, ∃ n, Backtracks (p.compile 0).toArray
      (us.map (fun u => u.thread place.before (0 + (p.compile 0).length)) ++ []) n
      (us.head?.map fun u => ⟨place.before.reverse, u.group, u.place.after⟩) := by
    intro us
    cases us with
    | nil => exact ⟨0, .nil⟩
    | cons u us => exact ⟨1, .accept (by simp [Stage.thread])⟩
  obtain ⟨n, hn⟩ := hend (p.outcomes ⟨place, 0, none⟩)
  exact hreach [] n _ hn

theorem search?_compile {p : Pattern} (h : p.ends = true) (text : List Char) :
    search? (p.compile 0).toArray text = (Place.onwards [] text).findSome? p.matchAt? := by
  rw [search?_eq_searchFrom?, searchFrom?_compile h]

end MarcHarvest.Pattern
