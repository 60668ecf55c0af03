import MarcHarvest.Record.Basic

/-!
# Components of field specs

A field spec lists components, `TAG[|I1I2|][CODES | [N] | [N-M]]`, separated by colons. A component
names a tag and selects by indicators, and then either subfields of a data field or characters of
a control field.
-/

namespace MarcHarvest

/-- A condition on one indicator. -/
inductive IndicatorCondition where
  | any
  | exact (value : Char)
  deriving Repr, DecidableEq

namespace IndicatorCondition

/-- The asterisk stands for any indicator. -/
def ofChar (c : Char) : IndicatorCondition := if c = '*' then any else exact c

/-- Whether an indicator fulfils the condition. -/
def accepts : IndicatorCondition → Char → Bool
  | any, _ => true
  | exact c, i => c == i

end IndicatorCondition

/-- Which subfields of a data field are read. -/
inductive Selection where
  /-- All subfields with an alphabetic code, joined. -/
  | all
  /-- The subfields of one code, each a value of its own. -/
  | each (code : Char)
  /-- The subfields of several codes, joined. -/
  | joined (codes : String)
  deriving Repr, DecidableEq

/-- No code selects all, one code each of its subfields, more codes the join of theirs. -/
def Selection.ofCodes : List Char → Selection
  | [] => .all
  | [c] => .each c
  | codes => .joined (String.ofList codes)

/-- Which characters of a control field are read; the first has offset 0. -/
inductive Offset where
  | position (n : Nat)
  /-- From the first offset to the second, ends included. -/
  | range (first last : Nat)
  deriving Repr, DecidableEq

/-- One component, its tag without wildcards. -/
structure Component where
  tag : String
  ind1 : IndicatorCondition
  ind2 : IndicatorCondition
  selection : Selection
  offset : Option Offset
  deriving Repr, DecidableEq

namespace Component

/-- Whether a tag is one of a control field: it begins with two zeros. -/
def isControlTag (tag : String) : Bool := tag.toList.take 2 == ['0', '0']

/-- Whether the component reads a control field. -/
def isControl (c : Component) : Bool := isControlTag c.tag

/-- Whether the field has the indicators that the component asks for. -/
def acceptsIndicators (c : Component) (f : Field) : Bool :=
  c.ind1.accepts f.ind1 && c.ind2.accepts f.ind2

end Component

end MarcHarvest
