import LoginRehearsal.Text.Numeral
import LoginRehearsal.Text.Split

/-!
# Tables of code points

Properties of characters, kept as runs of code points that share a value. A table is written down as text:
words between blanks, each a code point or the first and the last one of a run in hexadecimal, with a
value behind a colon where there is one.

* `CodeTable.ofText`: the table that lines of text spell.
* `CodeTable.get?`: the value of a character.
-/
namespace LoginRehearsal

/-- The code points from `first` to `last`, with what holds of each of them. -/
structure CodeRun (α : Type) where
  first : Nat
  last : Nat
  value : α

/-- Runs that rise and do not overlap. -/
abbrev CodeTable (α : Type) := Array (CodeRun α)

namespace CodeTable

/-! ## Looking up -/

/-- The value of a code point, looked for in the runs from place `low` up to place `high`. -/
def search {α : Type} (t : CodeTable α) (code low high : Nat) : Option α :=
  if low < high then
    match t[(low + high) / 2]? with
    | none => none
    | some run =>
      if code < run.first then search t code low ((low + high) / 2)
      else if run.last < code then search t code ((low + high) / 2 + 1) high
      else some run.value
  else none
termination_by high - low

/-- The value of a character. -/
def get? {α : Type} (t : CodeTable α) (c : Char) : Option α := t.search c.toNat 0 t.size

/-- Whether a character stands in a table. -/
def holds {α : Type} (t : CodeTable α) (c : Char) : Bool := (t.get? c).isSome

/-! ## Reading -/

/-- The number that hexadecimal digits spell. -/
def hexNumber (digits : List Char) : Nat :=
  digits.foldl (fun n c => n * 16 + (hexDigitValue? c).getD 0) 0

/-- The parts before and behind the first of a character; the second is empty without one. -/
def halves (mark : Char) (cs : List Char) : List Char × List Char :=
  (splitFirst? (· == mark) cs).getD (cs, [])

/-- The run that a word spells. -/
def readRun {α : Type} (value : List Char → α) (word : List Char) : CodeRun α :=
  let (range, behind) := halves ':' word
  let (first, last) := halves '-' range
  ⟨hexNumber first, hexNumber (if last.isEmpty then first else last), value behind⟩

/-- The words of lines of text. -/
def words (lines : List String) : List (List Char) :=
  lines.flatMap fun line => (splitOn (· == ' ') line.toList).filter (!·.isEmpty)

/-- The table that lines of text spell, where `value` reads what stands behind a colon. -/
def ofText {α : Type} (value : List Char → α) (lines : List String) : CodeTable α :=
  ((words lines).map (readRun value)).toArray

/-- The table of a class of characters. -/
def ofRuns (lines : List String) : CodeTable Unit := ofText (fun _ => ()) lines

end CodeTable
end LoginRehearsal
