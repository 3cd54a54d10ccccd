import LoginRehearsal.Text.Composite
import LoginRehearsal.Text.Mark

/-!
# Composed text

The one spelling of a text in which every base and mark that have a composite stand as that composite. Texts
that differ only in how their accents are written have the same composed spelling: it is found by taking
all composites apart, putting the marks on each base in order, and composing anew.

* `composed`: the composed spelling.
-/
namespace LoginRehearsal

/-- A character as its base and its marks. `depth` bounds how deep composites are nested. -/
def takenApart : (depth : Nat) → Char → List Char
  | 0, c => [c]
  | depth + 1, c =>
    match compositeParts? c with
    | none => [c]
    | some (base, mark) => takenApart depth base ++ takenApart depth mark

/-- No composite is nested deeper than this. -/
def compositeDepth : Nat := 4

/-- Puts a character in front of marks in order: a mark goes behind those of a lower class. -/
def insertMark (c : Char) : List Char → List Char
  | [] => [c]
  | d :: rest =>
    if combiningClass d ≠ 0 ∧ combiningClass d < combiningClass c then d :: insertMark c rest
    else c :: d :: rest

/-- A text with the marks on each base in the order of their classes. -/
def inMarkOrder (cs : List Char) : List Char := cs.foldr insertMark []

/-- Composes characters with the base in front of them. Between the base and what follows stand the marks
`between`, in reverse, that did not compose with it; they keep a mark of no higher class than the last of
them from the base. -/
def compose (base : Char) (between : List Char) : List Char → List Char
  | [] => base :: between.reverse
  | c :: rest =>
    let reaches := match between with
      | [] => true
      | last :: _ => decide (combiningClass last < combiningClass c)
    match if reaches then composite? base c else none with
    | some composite => compose composite between rest
    | none =>
      if combiningClass c = 0 then base :: between.reverse ++ compose c [] rest
      else compose base (c :: between) rest

/-- The composed spelling of a text. -/
def composed (cs : List Char) : List Char :=
  if cs.all fun c => c.toNat < 0x80 then cs
  else match inMarkOrder (cs.flatMap (takenApart compositeDepth)) with
    | [] => []
    | c :: rest => compose c [] rest

end LoginRehearsal
