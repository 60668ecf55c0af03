import MarcHarvest.Proofs.Derivation.YearPatterns
import MarcHarvest.Proofs.Derivation.YearReadings
import MarcHarvest.Proofs.Text.Pieces

/-!
# Years in texts by words

A description of the years in a text without patterns. Every mark that follows a decade becomes `x`
(`markAfter`), where a decade is three digits at the start of a word, and of the words that result
those of three or four digits are the years (`yearsIn`).

The pass that marks decades looks ahead and leaps over what it has marked, while the description
looks back from every mark. They agree because no decade that begins at an earlier place reaches
beyond the place where the pass goes on (`Settled`). A year is found at the start of a word, and there
it is all of the word or nothing (`yearAt?_append`).
-/

namespace MarcHarvest.PublicationDate

open Text Unicode

/-! ## Marks after decades -/

/-- Whether three digits that begin a word stand before a place. The nearest character comes
first. -/
def afterDecade : List Char → Bool
  | c :: b :: a :: earlier => [a, b, c].all Char.isDigit && !meetsWord earlier
  | _ => false

/-- A text with `x` for each unknown mark after a decade. What stands before the text is `before`,
the nearest character first. -/
def markAfter (before : List Char) : List Char → List Char
  | [] => []
  | c :: rest =>
    (if isUnknownMark c && afterDecade before then 'x' else c) :: markAfter (c :: before) rest

/-- No decade that begins within the last three characters before a place has its mark after it. -/
def Settled (before after : List Char) : Prop :=
  ∀ passed earlier, before = passed ++ earlier → passed ≠ [] → passed.length ≤ 3 →
    ¬ opensDecade (meetsWord earlier) (passed.reverse ++ after)

theorem settled_nil (after : List Char) : Settled [] after := by
  intro passed earlier heq hne
  exact absurd (List.append_eq_nil_iff.mp heq.symm).1 hne

theorem Settled.cons {before rest : List Char} {c : Char} (h : Settled before (c :: rest))
    (hopens : ¬ opensDecade (meetsWord before) (c :: rest)) : Settled (c :: before) rest := by
  intro passed earlier heq hne hlength
  obtain ⟨d, more, rfl⟩ := List.exists_cons_of_ne_nil hne
  obtain ⟨rfl, rfl⟩ := List.cons.inj heq
  rw [List.reverse_cons, List.append_assoc, List.singleton_append]
  by_cases hmore : more = []
  · subst hmore
    exact hopens
  · exact h more earlier rfl hmore (Nat.le_of_succ_le hlength)

theorem settled_of_isUnknownMark {m : Char} (hm : isUnknownMark m) (before rest : List Char) :
    Settled (m :: before) rest := by
  intro passed earlier heq hne hlength hopens
  obtain ⟨d, more, rfl⟩ := List.exists_cons_of_ne_nil hne
  obtain ⟨rfl, -⟩ := List.cons.inj heq
  obtain ⟨a, b, c, m', rest', hshape, -, hdigits, -⟩ := exists_of_opensDecade hopens
  -- the mark would be one of the three digits
  have hmem : m ∈ ((m :: more).reverse ++ rest).take 3 := by
    rw [List.take_append, List.take_of_length_le (by rwa [List.length_reverse]), List.reverse_cons]
    exact List.mem_append_left _ (List.mem_append_right _ List.mem_cons_self)
  rw [hshape] at hmem
  rw [Checked.isUnknownMark_eq_false (List.all_eq_true.mp hdigits m hmem)] at hm
  cases hm

theorem markAfter_of_opensDecade {a b c m : Char} {before rest : List Char}
    (h : opensDecade (meetsWord before) (a :: b :: c :: m :: rest)) :
    markAfter before (a :: b :: c :: m :: rest) =
      a :: b :: c :: 'x' :: markAfter (m :: c :: b :: a :: before) rest := by
  obtain ⟨a', b', c', m', rest', heq, hbefore, hdigits, hm⟩ := exists_of_opensDecade h
  cases heq
  have hdigit : ∀ d ∈ [a, b, c], isUnknownMark d = false := fun d hd =>
    Checked.isUnknownMark_eq_false (List.all_eq_true.mp hdigits d hd)
  have hdecade : afterDecade (c :: b :: a :: before) := by
    rw [afterDecade, hdigits, hbefore]
    rfl
  simp only [markAfter, hdigit a (by simp), hdigit b (by simp), hdigit c (by simp), hm, hdecade,
    Bool.false_and, Bool.true_and, Bool.false_eq_true, if_false, if_true]

theorem markAfter_cons_of_settled {before rest : List Char} {c : Char}
    (h : Settled before (c :: rest)) :
    markAfter before (c :: rest) = c :: markAfter (c :: before) rest := by
  rw [markAfter, if_neg]
  intro hmark
  obtain ⟨hm, hdecade⟩ := Bool.and_eq_true_iff.mp hmark
  unfold afterDecade at hdecade
  split at hdecade
  · next c' b a earlier =>
    refine h [c', b, a] earlier rfl (List.cons_ne_nil _ _) le_rfl ?_
    rw [Bool.and_eq_true, Bool.not_eq_true'] at hdecade
    exact Bool.and_eq_true_iff.mpr ⟨by rw [hdecade.1, hdecade.2]; rfl, hm⟩
  · cases hdecade

theorem markUnknown_eq_markAfter {before after : List Char} (h : Settled before after) :
    markUnknown (meetsWord before) after = markAfter before after := by
  by_cases hopens : opensDecade (meetsWord before) after
  · obtain ⟨a, b, c, m, rest, rfl, -, -, hm⟩ := exists_of_opensDecade hopens
    -- the pass leaps over the decade, and in the mark's place nothing is open any more
    have hrest := settled_of_isUnknownMark hm (c :: b :: a :: before) rest
    rw [markUnknown_of_opensDecade hopens, markAfter_of_opensDecade hopens, ← meetsWord_cons m,
      markUnknown_eq_markAfter hrest]
  · cases after with
    | nil => rfl
    | cons c rest =>
      rw [markUnknown_cons_of_not hopens, markAfter_cons_of_settled h, ← meetsWord_cons c,
        markUnknown_eq_markAfter (h.cons hopens)]
termination_by after.length

/-! ## Years as words -/

/-- The words in a text: what is left of it between the characters that belong to no word. -/
def words (l : List Char) : List (List Char) :=
  (l.splitOnP fun c => !isWord .v16 c).filter fun w => !w.isEmpty

/-- The years in a text: the words that are years, once decades are marked. -/
def yearsIn (text : List Char) : List (List Char) := (words (markAfter [] text)).filter isYear

theorem filter_isYear_words (l : List Char) :
    (words l).filter isYear = (l.splitOnP fun c => !isWord .v16 c).filter isYear := by
  rw [words, List.filter_filter]
  refine List.filter_congr fun w _ => ?_
  cases w with
  | nil => rfl
  | cons c w => exact Bool.and_true _

theorem yearAt?_eq (l : List Char) :
    yearAt? l =
      if isYear (l.takeWhile (isWord .v16)) then some (l.takeWhile (isWord .v16)) else none := by
  by_cases hword : isYear (l.takeWhile (isWord .v16))
  · rw [if_pos hword]
    exact yearAt?_eq_some_iff.mpr ⟨hword, l.dropWhile (isWord .v16),
      List.takeWhile_append_dropWhile.symm, any_head?_dropWhile _ l⟩
  · rw [if_neg hword, Option.eq_none_iff_forall_ne_some]
    intro run hrun
    obtain ⟨hyear, rest, rfl, hrest⟩ := yearAt?_eq_some_iff.mp hrun
    rw [takeWhile_append (isWord_of_isYear hyear) hrest] at hword
    exact hword hyear

/-- The pass that finds years goes through the words. What is left of the word that it is in does not
count. -/
theorem yearRuns_eq_filter (inWord : Bool) (l : List Char) :
    yearRuns inWord l =
      let ws := l.splitOnP fun c => !isWord .v16 c
      (if inWord then ws.tail else ws).filter isYear := by
  induction l generalizing inWord with
  | nil => cases inWord <;> rfl
  | cons c rest ih =>
    dsimp only
    rw [yearRuns, yearAt?_eq, ih, List.splitOnP_cons_eq_if_modifyHead, List.takeWhile_cons]
    cases hc : isWord .v16 c with
    | true =>
      rw [splitOnP_eq_cons_tail (isWord .v16) rest]
      cases inWord with
      | true => rfl
      | false =>
        by_cases hyear : isYear (c :: rest.takeWhile (isWord .v16)) <;>
          simp [hyear]
    | false => cases inWord <;> rfl

theorem yearRuns_markUnknown (text : List Char) :
    yearRuns false (markUnknown false text) = yearsIn text := by
  have hmark : markUnknown false text = markAfter [] text :=
    markUnknown_eq_markAfter (settled_nil text)
  rw [hmark, yearRuns_eq_filter, yearsIn, filter_isYear_words]
  rfl

/-! ## Dates from years -/

/-- The number that a year writes, with `digit` for what is not known. -/
def valueWith (digit : Char) (year : List Char) : Int :=
  (Nat.ofDigitChars 10 (fillIn 'x' digit year) 0 : Nat)

/-- The types of date for which only the first date counts. -/
def singleTypes : List Char := ['t', 'p', 'r', 's', 'e', 'T', 'P', 'R', 'S', 'E']

/-- The date from the years in a text: from the first one as early as it can be, up to the same one or
to a later last one as late as it can be. -/
def dateOf (years : List (List Char)) (type : Option Char) : Option String :=
  match years with
  | [] => none
  | first :: more =>
    let stop :=
      if type.any singleTypes.contains then valueWith '9' first
      else match more.getLast? with
        | some last => valueWith '9' last
        | none => 0
    resolve? (valueWith '0' first) stop type

theorem isSingleType_toLower (c : Char) : isSingleType c.toLower = singleTypes.contains c := by
  rw [Bool.eq_iff_iff]
  constructor
  · intro h
    have hcases : ['p', 'r', 's', 'e', 't'].all fun d =>
        singleTypes.contains d && singleTypes.contains d.toUpper := by decide
    have hc := List.all_eq_true.mp hcases c.toLower (List.contains_iff_mem.mp h)
    rw [Bool.and_eq_true] at hc
    rcases @eq_of_toLower_eq c _ rfl with heq | heq
    · exact heq ▸ hc.1
    · exact heq ▸ hc.2
  · intro h
    have hcases : singleTypes.all fun d => isSingleType d.toLower := by decide
    exact List.all_eq_true.mp hcases c (List.contains_iff_mem.mp h)

theorem isYearDigit_of_isDigit {c : Char} (h : c.isDigit) : isYearDigit c :=
  Bool.or_eq_true_iff.mpr (Or.inl h)

theorem isDigit_of_isYearDigit {c : Char} (h : isYearDigit c) (hx : c ≠ 'x') : c.isDigit :=
  (Bool.or_eq_true_iff.mp h).resolve_right fun heq => hx (beq_iff_eq.mp heq)

theorem isDigit_of_mem_fillIn {year : List Char} (h : isYear year) {digit : Char}
    (hdigit : digit.isDigit) : ∀ c ∈ fillIn 'x' digit year, c.isDigit := by
  rw [fillIn, List.forall_mem_map]
  intro c hc
  by_cases hx : c = 'x'
  · rwa [if_pos hx]
  · rw [if_neg hx]
    exact isDigit_of_isYearDigit ((isYear_iff.mp h).2 c hc) hx

theorem readYear_fillIn {year : List Char} (h : isYear year) {digit : Char}
    (hdigit : digit.isDigit) : readYear (fillIn 'x' digit year) = valueWith digit year := by
  have hne : fillIn 'x' digit year ≠ [] := by
    rw [fillIn, Ne, List.map_eq_nil_iff]
    rintro rfl
    cases h
  exact readYear_of_isDigit hne (isDigit_of_mem_fillIn h hdigit)

theorem ofText?_eq_dateOf (text : String) (type : Option Char) :
    ofText? text type = dateOf (yearsIn text.toList) type := by
  have hyears : ∀ year ∈ yearsIn text.toList, isYear year := fun _ => List.of_mem_filter
  rw [ofText?, yearRuns_markUnknown]
  cases hruns : yearsIn text.toList with
  | nil => rfl
  | cons first more =>
    rw [hruns] at hyears
    have htype : (type.map Char.toLower).any isSingleType = type.any singleTypes.contains := by
      rw [Option.any_map]
      exact congrArg type.any (funext isSingleType_toLower)
    have hfirst := hyears first List.mem_cons_self
    rw [dateOf]
    dsimp only
    rw [htype, earliestYear, readYear_fillIn hfirst (by decide)]
    congr 1
    split
    · exact readYear_fillIn hfirst (by decide)
    · cases hlast : more.getLast? with
      | none => rfl
      | some last =>
        have hmem := List.mem_cons_of_mem first (List.mem_of_getLast? hlast)
        exact readYear_fillIn (hyears last hmem) (by decide)

/-- **Years in texts without patterns.** On every text the two patterns find the words of three or four
digits, known or not, in the text with its decades marked. The date of the text starts with the first
of them and ends as the type of date asks. -/
theorem ofText?_by_words (text : String) (type : Option Char) :
    yearsByPatterns? text.toList = some (yearsIn text.toList) ∧
    ofText? text type = dateOf (yearsIn text.toList) type := by
  rw [yearsByPatterns?_eq, yearRuns_markUnknown]
  exact ⟨rfl, ofText?_eq_dateOf text type⟩

/-- A mark after a decade joins the words on both sides of it. -/
example : yearsIn "195-, 1955-1960 or 195-1960".toList =
    ["195x".toList, "1955".toList, "1960".toList] := by decide

end MarcHarvest.PublicationDate
