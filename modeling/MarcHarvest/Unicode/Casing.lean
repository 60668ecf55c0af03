import MarcHarvest.Unicode.CaseRuns
import MarcHarvest.Unicode.Property

/-!
# Case of single characters

Lower case of version 17.0 (`lowerChar`), simple case folding of version 16.0 (`simpleFold`) and the
set of characters that fold to one and the same character (`foldClass`).
-/

namespace MarcHarvest.Unicode

/-- The image of a code point under the first run that covers it, itself if none does. -/
def CaseRun.mapFirst (runs : List CaseRun) (n : Nat) : Nat :=
  match runs.find? fun r => r.covers n with
  | some r => r.image n
  | none => n

/-- Lower case of one character. Only the dotted capital I becomes two characters. -/
def lowerChar (c : Char) : List Char :=
  if isAscii c then [c.toLower]
  else if c = '\u0130' then ['i', '\u0307']
  else [Char.ofNat (CaseRun.mapFirst lowercaseRuns c.toNat)]

/-- Simple case folding: one character for all that differ in case only. -/
def simpleFold (c : Char) : Char :=
  if isAscii c then c.toLower
  else if !Version.v16.knows c then c
  else if foldRuns.any fun r => r.covers c.toNat then
    Char.ofNat (CaseRun.mapFirst foldRuns c.toNat)
  else Char.ofNat (CaseRun.mapFirst lowercaseRuns c.toNat)

/-- All characters with the fold of `c`, `c` itself first. -/
def foldClass (c : Char) : List Char :=
  let t := simpleFold c
  let candidates := t :: ((foldRuns ++ lowercaseRuns).filterMap fun r =>
    (r.preimage? t.toNat).map Char.ofNat)
  c :: candidates.filter fun d => simpleFold d == t

end MarcHarvest.Unicode
