import LoginRehearsal.Text.Split
import LoginRehearsal.Text.Utf8

/-!
# Styled text

Text for a terminal, where escape sequences switch styles. Output that goes elsewhere is taken through an
automaton that drops the sequences and the control characters that print nothing. It cannot tell sequences
of the program from those in what a user wrote, so a user's sequence that is not complete takes on until the
next escape character.

* `styled`: a text between two switches of style.
* `plain`: the characters that print.
* `textLines`: a text in lines.
-/
namespace LoginRehearsal

/-- A text in a style of its own. -/
def styled (s : String) : String := "\x1b[1m" ++ s ++ "\x1b[0m"

/-- Where a terminal stands between two characters. -/
inductive TerminalState where
  | ground
  /-- Behind an escape character. -/
  | escape
  | intermediate
  /-- In a sequence that a bracket began, up to its final character. -/
  | sequence
  /-- In a command to the system, up to the bell. -/
  | command
  /-- In a string for the terminal itself. -/
  | string
deriving DecidableEq, Repr

namespace TerminalState

/-- Control characters that are printed for the room they take. -/
def isLayout (c : Char) : Bool := ['\t', '\n', '\x0c', '\r'].contains c

/-- Whether a character ends a string for the terminal. That is told by its bytes one by one. -/
def endsString (c : Char) : Bool :=
  decide (0x80 ≤ c.toNat) && (Utf8.encode (String.singleton c)).contains 0x9C

/-- Where a printable ASCII character leads to inside a sequence. -/
def inside (s : TerminalState) (c : Char) : TerminalState :=
  let n := c.toNat
  match s with
  | .escape =>
    if n ≤ 0x2F then .intermediate
    else if c = '[' then .sequence
    else if c = ']' then .command
    else if ['P', 'X', '^', '_'].contains c then .string
    else .ground
  | .intermediate => if n ≤ 0x2F then .intermediate else .ground
  | .sequence => if n ≤ 0x3F then .sequence else .ground
  | s => s

/-- Where a character leads to, and whether it is printed. -/
def next (s : TerminalState) (c : Char) : TerminalState × Bool :=
  let n := c.toNat
  if n = 0x18 ∨ n = 0x1A then (.ground, false)
  else if n = 0x1B then (.escape, false)
  else match s with
    | .ground => (.ground, isLayout c || decide (0x20 ≤ n ∧ n ≠ 0x7F))
    | .command => (if n = 0x07 then .ground else .command, false)
    | .string => (if endsString c then .ground else .string, false)
    | s =>
      if isLayout c then (.ground, true)
      else if n < 0x20 ∨ 0x7F ≤ n then (s, false)
      else (s.inside c, false)

/-- The characters that are printed from a state on. -/
def printed (s : TerminalState) : List Char → List Char
  | [] => []
  | c :: rest =>
    let (s, shown) := s.next c
    if shown then c :: s.printed rest else s.printed rest

end TerminalState

/-- The characters of a text that print. -/
def plain (s : String) : String := String.ofList (TerminalState.ground.printed s.toList)

/-- A text in lines, cut at its line ends. -/
def textLines (s : String) : List String := (splitOn (· == '\n') s.toList).map String.ofList

/-- Lines in one text. -/
def ofLines (lines : List String) : String := "\n".intercalate lines

end LoginRehearsal
