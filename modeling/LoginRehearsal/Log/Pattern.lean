import LoginRehearsal.Text.Alphanumeric
import LoginRehearsal.Text.Blank
import LoginRehearsal.Text.Numeral
import LoginRehearsal.Text.Split

/-!
# Patterns

The regular expressions that a log filter may hold a field against. No record is ever held against one, so
all that is told here is which texts are patterns. Braces for counts never close, because a filter ends a
field at the first closing brace; and without tables of Unicode there are no classes such as `\d`, no word
boundaries and no letters in any case, unless Unicode is switched off.

* `Pattern.isWellFormed`: whether a text is a pattern.
-/
namespace LoginRehearsal
namespace Pattern

/-- What the flags in force say. -/
structure Mode where
  caseless : Bool
  unicode : Bool
  /-- Blanks and comments count for nothing. -/
  spaced : Bool
deriving DecidableEq, Repr

/-- The mode in which a pattern begins. -/
def Mode.initial : Mode := ⟨false, true, false⟩

/-- A text behind its blanks and comments. -/
def behindComments (inComment : Bool) : List Char → List Char
  | [] => []
  | c :: rest =>
    if inComment then behindComments (c != '\n') rest
    else if isBlank c then behindComments false rest
    else if c = '#' then behindComments true rest
    else c :: rest

/-- A text behind what counts for nothing in a mode. -/
def Mode.skip (m : Mode) (cs : List Char) : List Char :=
  if m.spaced then behindComments false cs else cs

/-! ## Single characters and their like -/

/-- What a pattern is made of, apart from brackets and groups. -/
inductive Atom where
  | literal (c : Char)
  /-- A character by two hexadecimal digits, a byte where Unicode is off. -/
  | byte (n : Nat)
  | class (negated : Bool)
  | anything
  | edge
  | wordEdge
deriving DecidableEq, Repr

namespace Atom

/-- Whether an atom may stand in a mode. -/
def fits (m : Mode) : Atom → Bool
  | .literal _ => !(m.caseless && m.unicode)
  | .byte n => if m.unicode then !m.caseless else n < 0x80
  | .class negated => !m.unicode && !negated
  | .anything => m.unicode
  | .edge => true
  | .wordEdge => !m.unicode

/-- Whether an atom may stand between brackets. -/
def fitsInBrackets (m : Mode) : Atom → Bool
  | .literal c => m.unicode || c.toNat < 0x80
  | .byte n => m.unicode || n < 0x80
  | .class negated => !m.unicode && !negated
  | _ => false

/-- The number of the character that an atom stands for. -/
def code? : Atom → Option Nat
  | .literal c => some c.toNat
  | .byte n => some n
  | _ => none

end Atom

/-- A number of so many hexadecimal digits, read onto `value`. -/
def readHex (m : Mode) (value : Nat) : Nat → List Char → Option (Nat × List Char)
  | 0, cs => some (value, cs)
  | digits + 1, cs =>
    match m.skip cs with
    | [] => none
    | c :: rest => do readHex m (value * 16 + (← hexDigitValue? c)) digits rest

/-- The character of a number of so many hexadecimal digits. -/
def readCharacter (m : Mode) (digits : Nat) (cs : List Char) : Option (Atom × List Char) := do
  let (value, rest) ← readHex m 0 digits cs
  if !decide (value.isValidChar) then none
  else pure (if digits = 2 then .byte value else .literal (Char.ofNat value), rest)

/-- The atom behind a backslash. -/
def readEscape (m : Mode) : List Char → Option (Atom × List Char)
  | [] => none
  | 'x' :: rest => readCharacter m 2 rest
  | 'u' :: rest => readCharacter m 4 rest
  | 'U' :: rest => readCharacter m 8 rest
  | c :: rest =>
    if ['d', 's', 'w'].contains c then some (.class false, rest)
    else if ['D', 'S', 'W'].contains c then some (.class true, rest)
    else if ['A', 'z'].contains c then some (.edge, rest)
    else if ['b', 'B', '<', '>'].contains c then some (.wordEdge, rest)
    else match c with
      | 'a' => some (.byte 0x07, rest)
      | 'f' => some (.byte 0x0C, rest)
      | 't' => some (.byte 0x09, rest)
      | 'n' => some (.byte 0x0A, rest)
      | 'r' => some (.byte 0x0D, rest)
      | 'v' => some (.byte 0x0B, rest)
      | _ => if c.toNat < 0x80 ∧ !c.isAlphanum then some (.literal c, rest) else none

/-! ## Brackets -/

/-- The names between `[:` and `:]`. -/
def namedClasses : List String :=
  ["alnum", "alpha", "ascii", "blank", "cntrl", "digit", "graph", "lower", "print", "punct", "space",
    "upper", "word", "xdigit"]

/-- Whether a named class is negated, and the text behind it, from behind its opening bracket. -/
def readNamed? : List Char → Option (Bool × List Char)
  | ':' :: cs =>
    let negated := cs.head? == some '^'
    let cs := if negated then cs.drop 1 else cs
    match cs.dropWhile (· != ':') with
    | ':' :: ']' :: rest =>
      if namedClasses.contains (String.ofList (cs.takeWhile (· != ':'))) then some (negated, rest)
      else none
    | _ => none
  | _ => none

/-- The text behind an opening bracket and what belongs to it: a caret, dashes, and a closing bracket that
stands first. A caret needs Unicode. -/
def readOpening (m : Mode) (cs : List Char) : Option (List Char) :=
  let cs := m.skip cs
  let negated := cs.head? == some '^'
  let cs := if negated then m.skip (cs.drop 1) else cs
  let behind := m.skip (cs.dropWhile fun c => c == '-' || m.spaced && isBlank c)
  if negated && !m.unicode then none
  else if cs.head? == some ']' then some (cs.drop 1)
  else some behind

/-- An atom between brackets. -/
def readBracketed (m : Mode) (cs : List Char) : Option (Atom × List Char) := do
  let (atom, rest) ← match cs with
    | [] => none
    | '\\' :: rest => readEscape m rest
    | c :: rest => some (.literal c, rest)
  if atom.fitsInBrackets m then pure (atom, rest) else none

/-- An atom between brackets, or a range of them. A dash in front of a closing bracket or of another dash
makes no range. -/
def readRange (m : Mode) (cs : List Char) : Option (List Char) := do
  let (first, rest) ← readBracketed m cs
  match m.skip rest with
  | '-' :: behind =>
    match m.skip behind with
    | ']' :: _ => pure ('-' :: behind)
    | '-' :: _ => pure ('-' :: behind)
    | next =>
      let (last, rest) ← readBracketed m next
      if (← first.code?) ≤ (← last.code?) then pure rest else none
  | rest => pure rest

/-- The text behind as many closing brackets as are open. Each step takes a character at least. -/
def readBrackets (m : Mode) : Nat → Nat → List Char → Option (List Char)
  | 0, _, _ => none
  | fuel + 1, opened, cs =>
    match m.skip cs with
    | [] => none
    | '[' :: rest =>
      match readNamed? rest with
      | some (negated, rest) =>
        if negated && !m.unicode then none else readBrackets m fuel opened rest
      | none => (readOpening m rest).bind (readBrackets m fuel (opened + 1))
    | ']' :: rest => if opened ≤ 1 then some rest else readBrackets m fuel (opened - 1) rest
    | '&' :: '&' :: rest => readBrackets m fuel opened rest
    | '-' :: '-' :: rest => readBrackets m fuel opened rest
    | '~' :: '~' :: rest => readBrackets m fuel opened rest
    | cs => (readRange m cs).bind (readBrackets m fuel opened)

/-- The text behind a class in brackets, from behind its opening bracket. -/
def readClass (m : Mode) (cs : List Char) : Option (List Char) :=
  if m.caseless && m.unicode then none
  else (readOpening m cs).bind fun rest => readBrackets m (rest.length + 1) 1 rest

/-! ## Groups -/

/-- What an opening parenthesis begins: a group with the mode inside it and perhaps a name, or a change of
mode. -/
inductive Opening where
  | group (inside : Mode) (name : Option (List Char))
  | change (m : Mode)
deriving DecidableEq, Repr

/-- The name of a group, up to its closing bracket. -/
def readName (m : Mode) (cs : List Char) : Option (Opening × List Char) :=
  let name := cs.takeWhile (· != '>')
  let begins := fun c => c == '_' || if c.toNat < 0x80 then c.isAlpha else isLetterOrNumber c
  let continues := fun c => ['_', '.', '[', ']'].contains c || isLetterOrNumber c
  match cs.drop name.length with
  | '>' :: rest =>
    if name.head?.any begins && name.all continues then some (.group m (some name), rest) else none
  | _ => none

/-- The mode after a flag is switched on or off. -/
def Mode.switched (m : Mode) (flag : Char) (on : Bool) : Mode :=
  match flag with
  | 'i' => { m with caseless := on }
  | 'u' => { m with unicode := on }
  | 'x' => { m with spaced := on }
  | _ => m

/-- Reads flags, those in front of a dash to be switched on and those behind it off. -/
def readFlags (m : Mode) (cs : List Char) : Option (Opening × List Char) :=
  let isEnd := fun c => c == ':' || c == ')'
  let flags := cs.takeWhile fun c => !isEnd c
  let on := flags.takeWhile (· != '-')
  let off := flags.dropWhile (· != '-')
  let known := flags.all "imsUuRx-".toList.contains
  if !known || decide (¬ flags.Nodup) || flags.getLast? == some '-' then none
  else
    let inside := off.foldl (fun m c => m.switched c false) (on.foldl (fun m c => m.switched c true) m)
    match cs.drop flags.length with
    | ':' :: rest => some (.group inside none, rest)
    | ')' :: rest => if flags.isEmpty then none else some (.change inside, rest)
    | _ => none

/-- What an opening parenthesis begins. There is no looking ahead or behind. -/
def readGroup (m : Mode) (cs : List Char) : Option (Opening × List Char) :=
  match m.skip cs with
  | '?' :: 'P' :: '<' :: rest => readName m rest
  | '?' :: '<' :: rest => readName m rest
  | '?' :: rest => readFlags m rest
  | rest => some (.group m none, rest)

/-! ## Whole patterns -/

/-- What has been read of a pattern. -/
structure Progress where
  mode : Mode
  /-- The modes outside the groups that are open. -/
  outside : List Mode
  /-- The names of groups so far. -/
  names : List (List Char)
  /-- Whether there is something that can be repeated. -/
  repeatable : Bool

namespace Progress

def initial : Progress := ⟨.initial, [], [], false⟩

/-- Enters a group or changes the mode. -/
def opened (p : Progress) : Opening → Option Progress
  | .change m => some { p with mode := m, repeatable := false }
  | .group m name =>
    if name.any p.names.contains then none
    else some ⟨m, p.mode :: p.outside, name.toList ++ p.names, false⟩

/-- Takes in an atom. -/
def withAtom (p : Progress) (atom : Atom) : Option Progress :=
  if atom.fits p.mode then some { p with repeatable := true } else none

/-- Reads the next piece of a pattern, from its first character on. -/
def advance (p : Progress) (c : Char) (rest : List Char) : Option (Progress × List Char) := do
  match c with
  | '(' =>
    let (opening, rest) ← readGroup p.mode rest
    pure (← p.opened opening, rest)
  | ')' =>
    match p.outside with
    | [] => none
    | m :: outside => pure ({ p with mode := m, outside, repeatable := true }, rest)
  | '|' => pure ({ p with repeatable := false }, rest)
  | '[' => pure ({ p with repeatable := true }, ← readClass p.mode rest)
  | '\x7b' => none
  | '\\' =>
    let (atom, rest) ← readEscape p.mode rest
    pure (← p.withAtom atom, rest)
  | '.' => pure (← p.withAtom .anything, rest)
  | '^' => pure (← p.withAtom .edge, rest)
  | '$' => pure (← p.withAtom .edge, rest)
  | _ =>
    if ['?', '*', '+'].contains c then
      if p.repeatable then pure (p, if rest.head? == some '?' then rest.drop 1 else rest) else none
    else pure (← p.withAtom (.literal c), rest)

/-- Whether the rest of a text ends the pattern. Each step takes a character at least. -/
def finishes (p : Progress) : Nat → List Char → Bool
  | 0, _ => false
  | fuel + 1, cs =>
    match p.mode.skip cs with
    | [] => p.outside.isEmpty
    | c :: rest =>
      match p.advance c rest with
      | none => false
      | some (p, rest) => p.finishes fuel rest

end Progress

/-- Whether a text is a pattern. -/
def isWellFormed (cs : List Char) : Bool := Progress.initial.finishes (cs.length + 1) cs

end Pattern
end LoginRehearsal
