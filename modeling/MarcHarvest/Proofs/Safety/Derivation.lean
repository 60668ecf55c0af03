import Mathlib.Algebra.Ring.Nat
import MarcHarvest.Derivation.Basic
import MarcHarvest.Proofs.Safety.Index
import MarcHarvest.Proofs.Text.Trim

/-!
# Derivations with checks

Sort keys cut titles at byte offsets, dates slice the payload of the control field 008 and subtract
years of 32 bits. With every such step checked the derivations give what they give without
(`apply_eq_ok`).

A year is read from at most four characters, the characters of a slot or of a run in a text. So it
lies between −999 and 9999 (`readYear_bounds`), every one has 32 bits, and so has the difference of
any two.
-/

namespace MarcHarvest.Checked

open Text Unicode

/-! ## Sort keys -/

section SortKey

open SortKey

/-- A title without its first `count` characters; a count past its end drops none. -/
def dropArticle (count : Nat) (title : String) : Except Fault String := do
  match charOffset? title count with
  | some start =>
    let (_, rest) ← cut title start
    return rest
  | none => return if title.toList.length = count then "" else title

/-- A title without the article that the second indicator of its field counts. -/
def withoutArticle (f : Field) (title : String) : Except Fault String :=
  if f.ind2.isDigit then dropArticle (digitValue f.ind2) title else .ok title

/-- The first text that `text` finds in the fields, without its article. -/
def firstTitle? (text : Field → String) (fields : List PlacedField) :
    Except Fault (Option String) :=
  match fields.find? fun e => !(text e.field).isEmpty with
  | some e => (withoutArticle e.field (text e.field)).map some
  | none => .ok none

def title? (index : Index) : Except Fault (Option String) := do
  let fields := index.directFields titleTag
  let title ← match ← firstTitle? titleProper fields with
    | some title => .ok (some title)
    | none => firstTitle? formTitle fields
  return title.bind ofText?

/-- A title that follows the author, empty if the field has no text. An indicator that counts no
character is not looked at. -/
def authorTitle (f : Field) : Except Fault String :=
  let title := joinWords f.values
  if title.isEmpty then .ok ""
  else if f.ind2.isDigit && 0 < digitValue f.ind2 then dropArticle (digitValue f.ind2) title
  else .ok title

def authorTitles (index : Index) : Except Fault (List String) := do
  let titles ← (authorTitleTags.flatMap index.directFields).mapM fun e => authorTitle e.field
  return titles.filter fun t => !t.isEmpty

def author? (index : Index) : Except Fault (Option String) := do
  let titles := (← authorTitles index).map fun t => "     " ++ t
  let text := authorName index ++ String.join titles
  return ofText? (String.ofList (trimBlanks text.toList))

theorem dropArticle_eq_ok (count : Nat) (title : String) :
    dropArticle count title = .ok (SortKey.dropArticle count title) := by
  rw [dropArticle, charOffset?_eq, SortKey.dropArticle]
  by_cases hlt : count < title.toList.length
  · rw [if_pos hlt, if_pos (Nat.le_of_lt hlt)]
    dsimp only
    rw [cut_take, ok_bind]
    rfl
  · rw [if_neg hlt]
    by_cases heq : title.toList.length = count
    · dsimp only
      rw [if_pos heq, if_pos (Nat.le_of_eq heq.symm), ← heq, List.drop_length]
      rfl
    · dsimp only
      rw [if_neg heq, if_neg (by omega)]
      rfl

theorem withoutArticle_eq_ok (f : Field) (title : String) :
    withoutArticle f title = .ok (SortKey.withoutArticle f title) := by
  rw [withoutArticle, SortKey.withoutArticle]
  split
  · exact dropArticle_eq_ok ..
  · rfl

theorem firstTitle?_eq_ok (text : Field → String) (fields : List PlacedField) :
    firstTitle? text fields = .ok (SortKey.firstTitle? text fields) := by
  rw [firstTitle?, SortKey.firstTitle?]
  split
  · next e he =>
    rw [he, withoutArticle_eq_ok]
    rfl
  · next hnone =>
    rw [hnone]
    rfl

theorem title?_eq_ok (index : Index) : title? index = .ok (SortKey.title? index) := by
  rw [title?, SortKey.title?]
  dsimp only
  rw [firstTitle?_eq_ok, ok_bind]
  cases SortKey.firstTitle? titleProper (index.directFields titleTag) with
  | some title =>
    rw [Option.orElse_eq_orElse, Option.orElse_some]
    rfl
  | none =>
    dsimp only
    rw [firstTitle?_eq_ok, ok_bind, Option.orElse_eq_orElse, Option.orElse_none]
    rfl

theorem authorTitle_eq_ok (f : Field) :
    authorTitle f = .ok (SortKey.withoutArticle f (joinWords f.values)) := by
  have hzero : ∀ title, SortKey.dropArticle 0 title = title := fun title => by
    rw [SortKey.dropArticle, if_pos (Nat.zero_le _), List.drop_zero, String.ofList_toList]
  have hempty : ∀ count, SortKey.dropArticle count "" = "" := fun count => by
    rw [SortKey.dropArticle]
    split <;> simp
  rw [authorTitle, SortKey.withoutArticle]
  split
  · next htitle =>
    rw [String.isEmpty_iff.mp htitle, hempty, ite_self]
  · split
    · next hcount =>
      rw [Bool.and_eq_true] at hcount
      rw [if_pos hcount.1, dropArticle_eq_ok]
    · next hcount =>
      rw [Bool.and_eq_true, not_and, decide_eq_true_iff, Nat.not_lt, Nat.le_zero] at hcount
      split
      · next hdigit => rw [hcount hdigit, hzero]
      · rfl

theorem authorTitles_eq_ok (index : Index) :
    authorTitles index = .ok (SortKey.authorTitles index) := by
  have htitles := mapM_eq_ok fun e : PlacedField => authorTitle_eq_ok e.field
  rw [authorTitles, htitles, ok_bind, SortKey.authorTitles, List.map_flatMap]
  rfl

theorem author?_eq_ok (index : Index) : author? index = .ok (SortKey.author? index) := by
  rw [author?, authorTitles_eq_ok, ok_bind, SortKey.author?]
  rfl

end SortKey

/-! ## Publication dates -/

section PublicationDate

open PublicationDate

/-- The year of 32 bits that a text writes; 0 if it writes none. -/
def readYear (l : List Char) : Int :=
  let year := PublicationDate.readYear l
  if IsInt32 year then year else 0

def earliestYear (unknown : Char) (l : List Char) : Int := readYear (fillIn unknown '0' l)

def latestYear (unknown : Char) (l : List Char) : Int := readYear (fillIn unknown '9' l)

/-- The date for a start and an end year. The years are subtracted only if they ascend. -/
def resolve? (start stop : Int) (type : Option Char) : Except Fault (Option String) :=
  let type := type.map Char.toLower
  if start = 0 then .ok none
  else if type = some 'q' then
    if stop = 0 ∨ stop = start then .ok (some (single start))
    else if start < stop then do
      let years ← subtract stop start
      return if years ≤ questionableSpan then some (span start stop) else none
    else .ok none
  else if start < stop then .ok (some (span start stop))
  else if stop = 0 ∧ type = some 'c' then .ok (some (span start openEnd))
  else .ok (some (single start))

def firstSlot? (payload : List Char) : Except Fault (Option (List Char)) :=
  (slice payload 7 11).map slot?

/-- The second coded date, which counts only if the payload goes on after it. -/
def secondSlot? (payload : List Char) : Except Fault (Option (List Char)) :=
  if 15 < payload.length then (slice payload 11 15).map slot? else .ok none

def coded? (payload : List Char) (type : Char) : Except Fault (Option String) := do
  if payload.length < 11 then return none
  let first ← firstSlot? payload
  let second ← secondSlot? payload
  let start := (first.map (earliestYear 'u')).getD 0
  if isSpanType type then resolve? start ((second.map (latestYear 'u')).getD 0) (some type)
  else if isSingleType type then resolve? start ((first.map (latestYear 'u')).getD 0) (some type)
  else resolve? 0 0 (some type)

/-- Writes `x` for each unknown mark after three digits that begin a word. What is found is the
first of the groups of its match. -/
def markUnknown (inWord : Bool) : List Char → Except Fault (List Char)
  | a :: b :: c :: m :: rest => do
    if !inWord && [a, b, c].all Char.isDigit && isUnknownMark m then
      let groups := [[a, b, c, m]]
      let found ← element groups 0
      let marked := found.map fun c => if isUnknownMark c then 'x' else c
      return marked ++ (← markUnknown (isWord .v16 m) rest)
    return a :: (← markUnknown (isWord .v16 a) (b :: c :: m :: rest))
  | l => .ok l

def ofText? (text : String) (type : Option Char) : Except Fault (Option String) := do
  match yearRuns false (← markUnknown false text.toList) with
  | [] => return none
  | first :: more =>
    let stop :=
      if (type.map Char.toLower).any isSingleType then some first else more.getLast?
    resolve? (earliestYear 'x' first) ((stop.map (latestYear 'x')).getD 0) type

def described? (index : Index) (type : Option Char) : Except Fault (Option String) :=
  statementTags.findSomeM? fun tag =>
    (statements index tag).findSomeM? fun text => ofText? text type

def publicationDate? (index : Index) : Except Fault (Option String) := do
  let payload := ((index.controlField? codedTag).map fun c => c.value.toList).getD []
  let type := type? payload
  let coded ← match type with
    | some type => coded? payload type
    | none => .ok none
  match coded with
  | some date => return some date
  | none => described? index type

/-! ### Years have 32 bits -/

/-- What four characters can write. -/
def IsYear (n : Int) : Prop := -9999 ≤ n ∧ n ≤ 9999

theorem IsYear.isInt32 {n : Int} (h : IsYear n) : IsInt32 n := by
  obtain ⟨hlow, hhigh⟩ := h
  exact ⟨by omega, by omega⟩

theorem IsYear.isInt32_sub {m n : Int} (hm : IsYear m) (hn : IsYear n) : IsInt32 (m - n) := by
  obtain ⟨hmlow, hmhigh⟩ := hm
  obtain ⟨hnlow, hnhigh⟩ := hn
  exact ⟨by omega, by omega⟩

theorem digitValue_lt {c : Char} (hc : c.isDigit) : digitValue c < 10 := by
  obtain ⟨n, hn, rfl⟩ := exists_digitChar_eq hc
  have hvalue : ∀ n, n < 10 → digitValue (Nat.digitChar n) < 10 := by decide
  exact hvalue n hn

theorem foldl_digitValue_lt {l : List Char} (h : ∀ c ∈ l, c.isDigit) (n : Nat) :
    l.foldl (fun n c => 10 * n + digitValue c) n < (n + 1) * 10 ^ l.length := by
  induction l generalizing n with
  | nil => simp
  | cons c l ih =>
    have hc := digitValue_lt (h c List.mem_cons_self)
    calc (c :: l).foldl (fun n c => 10 * n + digitValue c) n
        < (10 * n + digitValue c + 1) * 10 ^ l.length :=
          ih (fun d hd => h d (List.mem_cons_of_mem c hd)) _
      _ ≤ ((n + 1) * 10) * 10 ^ l.length := Nat.mul_le_mul_right _ (by omega)
      _ = (n + 1) * 10 ^ (c :: l).length := by
          rw [List.length_cons, Nat.pow_succ, Nat.mul_assoc, Nat.mul_comm 10]

theorem naturalYear_lt (l : List Char) : naturalYear l < 10 ^ l.length := by
  rw [naturalYear]
  split
  · next h =>
    rw [Bool.and_eq_true, List.all_eq_true] at h
    have hlt := foldl_digitValue_lt h.2 0
    rwa [Nat.zero_add, Nat.one_mul] at hlt
  · exact Nat.pow_pos (by decide)

theorem readYear_bounds {l : List Char} (hl : l.length ≤ 4) :
    -999 ≤ PublicationDate.readYear l ∧ PublicationDate.readYear l ≤ 9999 := by
  have hnatural : ∀ (n : Nat) (l : List Char), l.length ≤ n → naturalYear l < 10 ^ n :=
    fun n l hl => Nat.lt_of_lt_of_le (naturalYear_lt l) (Nat.pow_le_pow_right (by decide) hl)
  have htrim := Nat.le_trans (infix_trimBlanks l).length_le hl
  rw [PublicationDate.readYear]
  split
  · next rest heq =>
    rw [heq, List.length_cons] at htrim
    have hrest := hnatural 3 rest (by omega)
    omega
  · next rest heq =>
    rw [heq, List.length_cons] at htrim
    have hrest := hnatural 3 rest (by omega)
    omega
  · have hrest := hnatural 4 _ htrim
    omega

theorem isYear_readYear {l : List Char} (hl : l.length ≤ 4) :
    IsYear (PublicationDate.readYear l) := by
  obtain ⟨hlow, hhigh⟩ := readYear_bounds hl
  exact ⟨by omega, by omega⟩

theorem readYear_eq {l : List Char} (hl : l.length ≤ 4) :
    readYear l = PublicationDate.readYear l :=
  if_pos (isYear_readYear hl).isInt32

theorem getD_readYear {l? : Option (List Char)} (h : ∀ l, l? = some l → l.length ≤ 4)
    (unknown digit : Char) :
    (l?.map fun l => readYear (fillIn unknown digit l)).getD 0 =
        (l?.map fun l => PublicationDate.readYear (fillIn unknown digit l)).getD 0 ∧
      IsYear ((l?.map fun l => PublicationDate.readYear (fillIn unknown digit l)).getD 0) := by
  cases l? with
  | none =>
    have hzero : IsYear 0 := ⟨by decide, by decide⟩
    exact ⟨rfl, hzero⟩
  | some l =>
    have hl : (fillIn unknown digit l).length ≤ 4 := by
      rw [fillIn, List.length_map]
      exact h l rfl
    exact ⟨readYear_eq hl, isYear_readYear hl⟩

theorem getD_earliestYear {l? : Option (List Char)} (h : ∀ l, l? = some l → l.length ≤ 4)
    (unknown : Char) :
    (l?.map (earliestYear unknown)).getD 0 =
        (l?.map (PublicationDate.earliestYear unknown)).getD 0 ∧
      IsYear ((l?.map (PublicationDate.earliestYear unknown)).getD 0) :=
  getD_readYear h unknown '0'

theorem getD_latestYear {l? : Option (List Char)} (h : ∀ l, l? = some l → l.length ≤ 4)
    (unknown : Char) :
    (l?.map (latestYear unknown)).getD 0 = (l?.map (PublicationDate.latestYear unknown)).getD 0 ∧
      IsYear ((l?.map (PublicationDate.latestYear unknown)).getD 0) :=
  getD_readYear h unknown '9'

theorem resolve?_eq_ok {start stop : Int} (hstart : IsYear start) (hstop : IsYear stop)
    (type : Option Char) :
    resolve? start stop type = .ok (PublicationDate.resolve? start stop type) := by
  rw [resolve?, PublicationDate.resolve?]
  split
  · rfl
  split
  · split
    · rfl
    split
    · next hlt =>
      rw [subtract_of_isInt32 (hstop.isInt32_sub hstart), ok_bind]
      by_cases hspan : stop - start ≤ questionableSpan
      · rw [if_pos hspan, if_pos ⟨hlt, hspan⟩]
        rfl
      · rw [if_neg hspan, if_neg fun h => hspan h.2]
        rfl
    · next hlt => rw [if_neg fun h => hlt h.1]
  · split
    · rfl
    split
    · rfl
    · rfl

/-! ### Dates -/

theorem length_of_slot?_eq_some {l l' : List Char} (h : slot? l = some l') :
    l'.length = l.length := by
  rw [slot?] at h
  split at h
  · cases h
  · cases h
    rw [fillIn, List.length_map]

theorem length_firstSlot?_le {payload l : List Char}
    (h : PublicationDate.firstSlot? payload = some l) : l.length ≤ 4 := by
  rw [length_of_slot?_eq_some h]
  exact List.length_take_le ..

theorem length_secondSlot?_le {payload l : List Char}
    (h : PublicationDate.secondSlot? payload = some l) : l.length ≤ 4 := by
  rw [PublicationDate.secondSlot?] at h
  split at h
  · rw [length_of_slot?_eq_some h]
    exact List.length_take_le ..
  · cases h

theorem firstSlot?_eq_ok {payload : List Char} (h : 11 ≤ payload.length) :
    firstSlot? payload = .ok (PublicationDate.firstSlot? payload) := by
  rw [firstSlot?, slice_of_le (by omega) h]
  rfl

theorem secondSlot?_eq_ok (payload : List Char) :
    secondSlot? payload = .ok (PublicationDate.secondSlot? payload) := by
  rw [secondSlot?, PublicationDate.secondSlot?]
  split
  · rw [slice_of_le (by omega) (by omega)]
    rfl
  · rfl

theorem coded?_eq_ok (payload : List Char) (type : Char) :
    coded? payload type = .ok (PublicationDate.coded? payload type) := by
  have hlength : ∀ l, PublicationDate.firstSlot? payload = some l → l.length ≤ 4 := fun _ =>
    length_firstSlot?_le
  have hlength' : ∀ l, PublicationDate.secondSlot? payload = some l → l.length ≤ 4 := fun _ =>
    length_secondSlot?_le
  obtain ⟨hstart, hstartYear⟩ := getD_earliestYear hlength 'u'
  obtain ⟨hsame, hsameYear⟩ := getD_latestYear hlength 'u'
  obtain ⟨hstop, hstopYear⟩ := getD_latestYear hlength' 'u'
  rw [coded?, PublicationDate.coded?]
  split
  · rfl
  rw [firstSlot?_eq_ok (by omega), ok_bind, secondSlot?_eq_ok, ok_bind]
  dsimp only
  rw [hstart, hsame, hstop]
  by_cases hspan : isSpanType type
  · rw [if_pos hspan, if_pos hspan, resolve?_eq_ok hstartYear hstopYear,
      if_pos (by rw [hspan, Bool.true_or])]
  rw [if_neg hspan, if_neg hspan]
  by_cases hsingle : isSingleType type
  · rw [if_pos hsingle, resolve?_eq_ok hstartYear hsameYear,
      if_pos (by rw [hsingle, Bool.or_true])]
  · rw [if_neg hsingle, if_neg (by simp [hspan, hsingle])]
    rfl

theorem isUnknownMark_eq_false {c : Char} (hc : c.isDigit) : isUnknownMark c = false := by
  obtain ⟨n, hn, rfl⟩ := exists_digitChar_eq hc
  have hmark : ∀ n, n < 10 → isUnknownMark (Nat.digitChar n) = false := by decide
  exact hmark n hn

theorem map_isUnknownMark {a b c m : Char} (h : [a, b, c].all Char.isDigit)
    (hm : isUnknownMark m) :
    [a, b, c, m].map (fun c => if isUnknownMark c then 'x' else c) = [a, b, c, 'x'] := by
  have hdigit : ∀ d ∈ [a, b, c], isUnknownMark d = false := fun d hd =>
    isUnknownMark_eq_false (List.all_eq_true.mp h d hd)
  simp [hdigit, hm]

theorem markUnknown_eq_ok (inWord : Bool) (l : List Char) :
    markUnknown inWord l = .ok (PublicationDate.markUnknown inWord l) := by
  induction inWord, l using PublicationDate.markUnknown.induct with
  | case1 inWord a b c m rest h ih =>
    have hfound : element [[a, b, c, m]] 0 = .ok [a, b, c, m] := rfl
    rw [markUnknown, PublicationDate.markUnknown, if_pos h, if_pos h]
    dsimp only
    rw [Bool.and_eq_true, Bool.and_eq_true] at h
    rw [hfound, ok_bind, map_isUnknownMark h.1.2 h.2, ih, ok_bind]
    rfl
  | case2 inWord a b c m rest h ih =>
    rw [markUnknown, PublicationDate.markUnknown, if_neg h, if_neg h, ih, ok_bind]
    rfl
  | case3 inWord l h =>
    rw [markUnknown, PublicationDate.markUnknown]
    · exact h
    · exact h

theorem length_of_yearAt?_eq_some {l run : List Char} (h : yearAt? l = some run) :
    run.length ≤ 4 := by
  rw [yearAt?] at h
  split at h
  · cases h
    exact List.length_take_le ..
  · split at h
    · cases h
      exact Nat.le_trans (List.length_take_le ..) (by decide)
    · cases h

theorem exists_yearAt?_of_mem_yearRuns {inWord : Bool} {l run : List Char}
    (h : run ∈ yearRuns inWord l) : ∃ l', yearAt? l' = some run := by
  induction l generalizing inWord with
  | nil => cases h
  | cons c l ih =>
    rw [yearRuns, List.mem_append] at h
    obtain h | h := h
    · cases inWord with
      | true => cases h
      | false => exact ⟨c :: l, Option.mem_toList.mp h⟩
    · exact ih h

theorem length_of_mem_yearRuns {inWord : Bool} {l run : List Char} (h : run ∈ yearRuns inWord l) :
    run.length ≤ 4 := by
  obtain ⟨l', hl'⟩ := exists_yearAt?_of_mem_yearRuns h
  exact length_of_yearAt?_eq_some hl'

theorem ofText?_eq_ok (text : String) (type : Option Char) :
    ofText? text type = .ok (PublicationDate.ofText? text type) := by
  rw [ofText?, PublicationDate.ofText?, markUnknown_eq_ok, ok_bind]
  cases hruns : yearRuns false (PublicationDate.markUnknown false text.toList) with
  | nil => rfl
  | cons first more =>
    have hlength : ∀ run ∈ first :: more, run.length ≤ 4 := fun run hrun =>
      length_of_mem_yearRuns (hruns ▸ hrun)
    have hfirst := hlength first List.mem_cons_self
    have hstop : ∀ run, (if (type.map Char.toLower).any isSingleType then some first
        else more.getLast?) = some run → run.length ≤ 4 := by
      intro run hrun
      split at hrun
      · cases hrun
        exact hfirst
      · exact hlength run (List.mem_cons_of_mem first (List.mem_of_getLast? hrun))
    have hsome : ∀ run, some first = some run → run.length ≤ 4 := fun run hrun =>
      Option.some.inj hrun ▸ hfirst
    obtain ⟨hstart, hstartYear⟩ := getD_earliestYear hsome 'x'
    obtain ⟨hstop, hstopYear⟩ := getD_latestYear hstop 'x'
    have hstart' : earliestYear 'x' first = PublicationDate.earliestYear 'x' first := hstart
    dsimp only
    rw [hstart', hstop]
    exact resolve?_eq_ok hstartYear hstopYear type

theorem findSomeM?_eq_ok {α β : Type} {f : α → Except Fault (Option β)} {g : α → Option β}
    (h : ∀ a, f a = .ok (g a)) (l : List α) : l.findSomeM? f = .ok (l.findSome? g) := by
  obtain rfl : f = fun a => pure (g a) := funext h
  exact List.findSomeM?_pure

theorem described?_eq_ok (index : Index) (type : Option Char) :
    described? index type = .ok (PublicationDate.described? index type) :=
  findSomeM?_eq_ok (fun _ => findSomeM?_eq_ok (fun text => ofText?_eq_ok text type) _) _

theorem publicationDate?_eq_ok (index : Index) :
    publicationDate? index = .ok (PublicationDate.publicationDate? index) := by
  rw [publicationDate?, PublicationDate.publicationDate?]
  cases type? (((index.controlField? codedTag).map fun c => c.value.toList).getD []) with
  | none =>
    dsimp only
    rw [ok_bind, Option.bind_none, Option.orElse_eq_orElse, Option.orElse_none, described?_eq_ok]
  | some type =>
    dsimp only
    rw [coded?_eq_ok, ok_bind, Option.bind_some, Option.orElse_eq_orElse]
    cases PublicationDate.coded? _ type with
    | some date => rfl
    | none => exact described?_eq_ok index (some type)

end PublicationDate

/-! ## All derivations -/

def addHeadings (index : Index) (values : List String) : Except Fault (List String) := do
  let fields ← directFieldsWhere index isSubject
  return addAllDistinct values (fields.filterMap fun e => SubjectHeading.heading? e.field)

def apply (d : Derivation) (index : Index) (languages : LanguageTable) (values : List String) :
    Except Fault (List String) :=
  match d with
  | .sortTitle => (title? index).map fun key => values ++ key.toList
  | .sortAuthor => (author? index).map fun key => values ++ key.toList
  | .publicationDate => (publicationDate? index).map fun date => values ++ date.toList
  | .languageNames => .ok (languages.namesIn values)
  | .subjectHeadings => addHeadings index values

theorem apply_eq_ok (d : Derivation) (index : Index) (languages : LanguageTable)
    (values : List String) :
    apply d index languages values = .ok (d.apply index languages values) := by
  cases d with
  | sortTitle => exact congrArg (Except.map _) (title?_eq_ok index)
  | sortAuthor => exact congrArg (Except.map _) (author?_eq_ok index)
  | publicationDate => exact congrArg (Except.map _) (publicationDate?_eq_ok index)
  | languageNames => rfl
  | subjectHeadings =>
    rw [apply, addHeadings, directFieldsWhere_eq_ok index isSubject_eq_ok]
    rfl

end MarcHarvest.Checked
