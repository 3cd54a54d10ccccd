import LoginRehearsal.Log.Pattern

/-!
# Log filters

Which log records are written. A filter is a list of directives, separated by commas: a level for
everything, or a target, a span or a field with the level for it. Of the directives that concern a record the
most specific one decides; without one the record is dropped. No span is ever entered, so a directive for a
span, or for a field of some value, concerns no record.

* `Level`: how important a record is.
* `LogFilter.ofText?`, `LogFilter.ofTextSkipping`: the filter that a text spells.
* `LogFilter.enables`: what is written.
-/
namespace LoginRehearsal

/-- Levels of importance, the most important first. -/
inductive Level where
  | error
  | warn
  | info
  | debug
  | trace
deriving DecidableEq, Repr

namespace Level

def name : Level → String
  | .error => "ERROR"
  | .warn => "WARN"
  | .info => "INFO"
  | .debug => "DEBUG"
  | .trace => "TRACE"

/-- How many levels are written when this is the last of them. -/
def rank : Level → Nat
  | .error => 1
  | .warn => 2
  | .info => 3
  | .debug => 4
  | .trace => 5

end Level

/-- A rule for the records whose target begins with `target`, if there is one, and that have the field, if
there is one: those up to some rank are written. -/
structure Directive where
  target : Option String
  /-- The name of the span that the rule is for. -/
  span : Option String
  field : Option String
  /-- Whether the rule is for some value of its field only. -/
  hasValue : Bool
  rank : Nat
deriving DecidableEq, Repr

/-- Why a text is no directive. -/
inductive DirectiveFault where
  | malformed
  | noLevel
  | noPattern
deriving DecidableEq, Repr

/-- The wording of a fault. -/
def DirectiveFault.message : DirectiveFault → String
  | .malformed => "invalid filter directive"
  | .noLevel =>
    "error parsing level filter: expected one of \"off\", \"error\", \"warn\", \"info\", " ++
      "\"debug\", \"trace\", or a number 0-5"
  | .noPattern => "invalid field filter: error building NFA"

namespace Directive

/-- The rule that lets everything through. -/
def everything : Directive := ⟨none, none, none, false, Level.trace.rank⟩

/-- The rule that is in force when there is no other. -/
def errorsOnly : Directive := { everything with rank := Level.error.rank }

/-! ## Levels -/

/-- The rank that a level's name stands for, in any letter case. -/
def rankOfName? (s : String) : Option Nat :=
  match String.ofList (s.toList.map Char.toLower) with
  | "off" => some 0
  | "error" => some 1
  | "warn" => some 2
  | "info" => some 3
  | "debug" => some 4
  | "trace" => some 5
  | _ => none

/-- The rank that a level's number or name stands for. -/
def rankOf? (s : String) : Option Nat :=
  match Numeral.readNat Numeral.maxU64 s with
  | .ok n => if n ≤ 5 then some n else none
  | .error _ => rankOfName? s

/-- The directive with the level behind an equals sign; a missing one stands for everything. -/
def withLevel (d : Directive) (s : String) : Except DirectiveFault Directive :=
  if s.isEmpty then .ok d
  else match rankOf? s with
    | some rank => .ok { d with rank }
    | none => .error .noLevel

/-- The directive of a text without an equals sign: a level if it can be one, and else a target. -/
def ofLevelOrTarget (s : String) : Directive :=
  match rankOf? s with
  | some rank => { everything with rank }
  | none => { everything with target := some s }

/-! ## Fields -/

/-- Whether a text is a decimal number without a sign. -/
def isDecimal (cs : List Char) : Bool :=
  let whole := cs.takeWhile Char.isDigit
  let behind := cs.drop whole.length
  let part := if behind.head? == some '.' then (behind.drop 1).takeWhile Char.isDigit else []
  let behind := if behind.head? == some '.' then behind.drop (part.length + 1) else behind
  let exponent := match behind with
    | [] => true
    | e :: sign :: digits =>
      (e == 'e' || e == 'E') && (sign.isDigit || (sign == '+' || sign == '-') && !digits.isEmpty) &&
        digits.all Char.isDigit
    | _ => false
  ["inf", "infinity", "nan"].contains (String.ofList (cs.map Char.toLower)) ||
    !(whole.isEmpty && part.isEmpty) && exponent

/-- Whether a text is the value of a field: a truth value, a number or a pattern. All but the numbers with a
plus sign are patterns. -/
def isFieldValue : List Char → Bool
  | '+' :: number => isDecimal number
  | cs => Pattern.isWellFormed cs

/-- The directive with a field, perhaps with its value behind an equals sign. -/
def withField (d : Directive) (s : String) : Except DirectiveFault Directive :=
  if s.isEmpty then .error .malformed
  else match splitOn (· == '=') s.toList with
    | name :: value :: _ =>
      if isFieldValue value then .ok { d with field := some (String.ofList name), hasValue := true }
      else .error .noPattern
    | _ => .ok { d with field := some s }

/-! ## Texts -/

/-- Where the reading of a directive stands. A piece under way is known by where it starts. -/
inductive Place where
  | beginning
  | levelOrTarget
  | span (start : Nat)
  | field (start : Nat)
  | behindField
  | behindSpan
  | level (start : Nat)
deriving DecidableEq, Repr

/-- The characters of a text between two places, which count bytes; `offset` is that of the first. -/
def between (start stop : Nat) (offset : Nat) : List Char → List Char
  | [] => []
  | c :: rest =>
    let behind := between start stop (offset + c.utf8Size) rest
    if start ≤ offset ∧ offset < stop then c :: behind else behind

/-- Characters that a directive may begin with, other than an opening bracket. -/
def isOpening (c : Char) : Bool := ['-', ':', '_'].contains c || isLetterOrNumber c

/-- One character further. `piece` gives what stands from some place up to here. -/
def advance (piece : Nat → String) (d : Directive) (place : Place) (offset : Nat) (c : Char) :
    Except DirectiveFault (Directive × Place) :=
  match place, c with
  | .beginning, '[' => .ok (d, .span (offset + 1))
  | .beginning, c => if isOpening c then .ok (d, .levelOrTarget) else .error .malformed
  | .levelOrTarget, '=' => .ok ({ d with target := some (piece 0) }, .level (offset + 1))
  | .levelOrTarget, '[' => .ok ({ d with target := some (piece 0) }, .span (offset + 1))
  | .span start, ']' => .ok ({ d with span := some (piece start) }, .behindSpan)
  | .span start, '\x7b' =>
    .ok ({ d with span := if (piece start).isEmpty then none else some (piece start) },
      .field (offset + 1))
  | .field start, '\x7d' => (d.withField (piece start)).map fun d => (d, .behindField)
  | .behindField, ']' => .ok (d, .behindSpan)
  | .behindField, _ => .error .malformed
  | .behindSpan, '=' => .ok (d, .level (offset + 1))
  | .behindSpan, _ => .error .malformed
  | place, _ => .ok (d, place)

/-- The directive at the end of a text; `piece` gives what stands from some place up to the end. -/
def finish (piece : Nat → String) (d : Directive) : Place → Except DirectiveFault Directive
  | .levelOrTarget => .ok (ofLevelOrTarget (piece 0))
  | .level start => d.withLevel (piece start)
  | .behindSpan => .ok d
  | _ => .error .malformed

/-- Reads on from a place. What is read has no blanks around it, but its pieces are taken at the same places
of the `whole` text, which may begin with blanks. -/
def readFrom (whole : List Char) (d : Directive) (place : Place) (offset : Nat) :
    List Char → Except DirectiveFault Directive
  | [] =>
    d.finish (fun start => String.ofList (between start (String.ofList whole).utf8ByteSize 0 whole))
      place
  | c :: rest => do
    let piece := fun start => String.ofList (between start offset 0 whole)
    let (d, place) ← d.advance piece place offset c
    readFrom whole d place (offset + c.utf8Size) rest

/-- The directive that a text spells. -/
def read (cs : List Char) : Except DirectiveFault Directive :=
  readFrom cs everything .beginning 0 (trimBlank cs)

/-! ## Records -/

/-- Whether a directive concerns a record of a target with fields of the given names. -/
def concerns (d : Directive) (target : String) (fields : List String) : Bool :=
  d.span.isNone && !d.hasValue && d.target.all (·.toList.isPrefixOf target.toList) &&
    d.field.all fields.contains

/-- How specific a directive is: first by the length of its target, then by whether it is for a field. -/
def weight (d : Directive) : Nat × Nat :=
  ((d.target.map fun t => t.utf8ByteSize + 1).getD 0, if d.field.isSome then 1 else 0)

/-- The texts that decide between directives of one weight. -/
def spelling (d : Directive) : String × String := (d.target.getD "", d.field.getD "")

/-- Whether a directive is less specific than another. -/
def yieldsTo (a b : Directive) : Bool :=
  let (t, f) := a.weight
  let (u, g) := b.weight
  if t ≠ u then t < u
  else if f ≠ g then f < g
  else if a.spelling.1 ≠ b.spelling.1 then a.spelling.1 < b.spelling.1
  else a.spelling.2 < b.spelling.2

end Directive

/-- A list of directives, a later one standing for an equally specific earlier one. -/
structure LogFilter where
  directives : List Directive
deriving DecidableEq, Repr

namespace LogFilter

/-- The directives in force: without any, errors are written. -/
def ofDirectives (ds : List Directive) : LogFilter :=
  ⟨if ds.isEmpty then [.errorsOnly] else ds⟩

/-- The pieces of a filter text. -/
def pieces (s : String) : List (List Char) := (splitOn (· == ',') s.toList).filter (!·.isEmpty)

/-- The filter that a text spells, if all its directives are well formed. -/
def ofText? (s : String) : Option LogFilter :=
  ((pieces s).mapM fun piece => (Directive.read piece).toOption).map ofDirectives

/-- A note on a piece that is no directive. -/
def note? (piece : List Char) : Option String :=
  match Directive.read piece with
  | .ok _ => none
  | .error fault => some ("ignoring \x60" ++ String.ofList piece ++ "\x60: " ++ fault.message)

/-- The filter that the well-formed directives of a text spell, and a note on each of the others. -/
def ofTextSkipping (s : String) : LogFilter × List String :=
  (ofDirectives ((pieces s).filterMap fun piece => (Directive.read piece).toOption),
    (pieces s).filterMap note?)

/-- The rule for a record: the most specific of the directives that concern it, and of equally specific ones
the last. -/
def ruleFor? (f : LogFilter) (target : String) (fields : List String) : Option Directive :=
  (f.directives.filter (·.concerns target fields)).foldl (fun best d =>
    match best with
    | none => some d
    | some b => if d.yieldsTo b then some b else some d) none

/-- Whether a record of a level and target, with fields of the given names, is written. -/
def enables (f : LogFilter) (level : Level) (target : String) (fields : List String) : Bool :=
  match f.ruleFor? target fields with
  | some d => decide (level.rank ≤ d.rank)
  | none => false

end LogFilter
end LoginRehearsal
