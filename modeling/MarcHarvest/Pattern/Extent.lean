import Std.Data.HashSet
import MarcHarvest.Pattern.CharSet
import MarcHarvest.Unicode.Span

/-!
# Extent of sets

The code points of a set of characters as spans, and how many steps an automaton takes that reads
the characters of the set byte by byte.
-/

namespace MarcHarvest

open Unicode

/-- The code points of a table in version 16.0. -/
def tableSpans (s : CodeSet) : List Span :=
  Span.inter s.spans (Span.complement addedInV17.spans)

/-- The code points of some general categories. -/
def categorySpans (gs : List GeneralCategory) : List Span :=
  let assigned := fun (gs : List GeneralCategory) =>
    tableSpans ⟨gs.flatMap fun g => g.table.ranges, gs.flatMap fun g => g.table.alternating⟩
  if gs.contains .unassigned then
    Span.union (assigned gs) (Span.complement (assigned GeneralCategory.assigned))
  else assigned gs

/-- The code points with a property. -/
def CharProperty.spans : CharProperty → List Span
  | category gs => categorySpans gs
  | script codes => tableSpans codes
  | alphabetic => alphabeticSpans
  | lowercase => lowercaseSpans
  | uppercase => uppercaseSpans
  | cased => Span.union (Span.union lowercaseSpans uppercaseSpans) (categorySpans [.titlecaseLetter])
  | caseIgnorable =>
    Span.union (tableSpans otherCaseIgnorable) (categorySpans
      [.nonspacingMark, .enclosingMark, .format, .modifierLetter, .modifierSymbol])
  | graphemeExtend =>
    Span.union (tableSpans otherGraphemeExtend) (categorySpans [.nonspacingMark, .enclosingMark])
  | joinControl => Unicode.joinControl.spans
  | whiteSpace => Unicode.whiteSpace.spans
  | decimalDigit => categorySpans [.decimalNumber]
  | word =>
    Span.union (Span.union alphabeticSpans Unicode.joinControl.spans)
      (categorySpans (.decimalNumber :: .connectorPunctuation :: GeneralCategory.marks))
  | ascii => [(0, 0x7f)]
  | any => [(0, Span.top)]
  | assigned => categorySpans GeneralCategory.assigned
where
  alphabeticSpans := Span.union (tableSpans otherAlphabetic)
    (categorySpans (.letterNumber :: GeneralCategory.letters))
  lowercaseSpans := Span.union (tableSpans otherLowercase) (categorySpans [.lowercaseLetter])
  uppercaseSpans := Span.union (tableSpans otherUppercase) (categorySpans [.uppercaseLetter])

namespace CharSet

/-- Sets with more members are taken to be closed under case folding. -/
def maxFolded : Nat := 4096

/-- A set with everything that `variants` gives for its members. -/
def closeSpans (variants : Char → List Char) (l : List Span) : List Span :=
  if Span.total l ≤ maxFolded then
    Span.union l (((Span.members l).flatMap fun n => variants (Char.ofNat n)).map fun c =>
      (c.toNat, c.toNat))
  else l

/-- The code points of a set. -/
def spans : CharSet → List Span
  | none => []
  | range first last => if first ≤ last then [(first.toNat, last.toNat)] else []
  | property p => p.spans
  | union a b => Span.union a.spans b.spans
  | inter a b => Span.inter a.spans b.spans
  | diff a b => Span.inter a.spans (Span.complement b.spans)
  | compl a => Span.complement a.spans
  | fold a => closeSpans foldClass a.spans
  | foldAscii a => closeSpans (fun c => [c.toLower, c.toUpper]) a.spans

end CharSet

/-! ## Bytes -/

/-- The code points that take the same number of bytes: the number of bytes after the first one,
and what the first byte holds besides its share of the code point. Surrogates take none. -/
def byteLengths : List (Span × Nat × Nat) :=
  [((0, 0x7f), 0, 0), ((0x80, 0x7ff), 1, 0xc0), ((0x800, 0xd7ff), 2, 0xe0),
    ((0xe000, 0xffff), 2, 0xe0), ((0x10000, Span.top), 3, 0xf0)]

/-- The numbers from `a` to `b` as products of spans of digits, one of any size and `k` of six
bits. -/
def digitSpans : (k : Nat) → (a b : Nat) → List (List Span)
  | 0, a, b => [[(a, b)]]
  | k + 1, a, b =>
    let unit := Nat.pow 64 (k + 1)
    if a / unit = b / unit then (digitSpans k (a % unit) (b % unit)).map ((a / unit, a / unit) :: ·)
    else
      let first := if a % unit = 0 then a / unit else a / unit + 1
      let stop := if b % unit = unit - 1 then b / unit + 1 else b / unit
      (if first = a / unit then []
        else (digitSpans k (a % unit) (unit - 1)).map ((a / unit, a / unit) :: ·))
      ++ (if first < stop then [(first, stop - 1) :: List.replicate (k + 1) (0, 63)] else [])
      ++ (if stop = b / unit then (digitSpans k 0 (b % unit)).map ((b / unit, b / unit) :: ·)
        else [])

/-- The code points of a span as products of spans of bytes. -/
def byteSpans (s : Span) : List (List Span) :=
  byteLengths.flatMap fun (window, more, lead) =>
    let a := max s.1 window.1
    let b := min s.2 window.2
    if a ≤ b then
      (digitSpans more a b).map fun digits => match digits with
        | [] => []
        | (x, y) :: rest => (x + lead, y + lead) :: rest
    else []

/-- The number of different beginnings of some sequences, the empty one not counted. -/
def countBeginnings (l : List (List Span)) : Nat :=
  (l.foldl (fun seen sequence =>
    (List.range sequence.length).foldl (fun seen n => seen.insert (sequence.take (n + 1))) seen)
    (∅ : Std.HashSet (List Span))).size

end MarcHarvest
