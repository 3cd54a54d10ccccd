import LoginRehearsal.Text.Blank
import LoginRehearsal.Text.Composition
import LoginRehearsal.Text.Direction
import LoginRehearsal.Text.Joining
import LoginRehearsal.Web.DomainMapping
import LoginRehearsal.Web.Punycode

/-!
# Domain names

The ASCII form of a domain name. The name is brought to plain, composed characters; each of its labels is
taken in the script that it is written in, Punycode being read for that; the labels are checked; and those
beyond ASCII are spelled in Punycode.

* `Domain.labels?`: the labels of a name, for names that are in order.
* `Domain.toAscii?`: the ASCII form.
-/
namespace LoginRehearsal
namespace Domain

def isAscii (cs : List Char) : Bool := cs.all fun c => c.toNat < 0x80

/-! ## Characters -/

/-- A character as it stands in a mapped name, if it may stand in one. -/
def mappedCharacter? (c : Char) : Option (List Char) :=
  match domainCharacter c with
  | .kept => some [c]
  | .replaced target => if target.any isForbiddenInDomain then none else some target
  | .ignored => some []
  | .excluded => none

/-- A name in plain, composed characters. -/
def mapped? (cs : List Char) : Option (List Char) :=
  (cs.mapM mappedCharacter?).map fun parts => composed parts.flatten

/-- Whether a text is in plain, composed characters already. -/
def isMapped (cs : List Char) : Bool :=
  cs.all (fun c => domainCharacter c == .kept) && composed cs == cs

/-! ## Labels -/

/-- The prefix that marks a label in Punycode. -/
def punycodeMark : List Char := ['x', 'n', '-', '-']

/-- The longest spelling that is read as Punycode. -/
def longestSpelling : Nat := 2000

/-- The longest label that is spelled in Punycode. -/
def longestLabel : Nat := 1000

/-- The label that Punycode spells. It has to need that spelling, and to be in its mapped form. -/
def readSpelling? (spelling : List Char) : Option (List Char) :=
  if spelling.isEmpty || spelling.getLast? == some '-' || longestSpelling < spelling.length ||
      !isAscii spelling then none
  else (Punycode.decode? spelling).filter isMapped

/-- A label of a mapped name in the script that it is written in. -/
def readLabel? (label : List Char) : Option (List Char) :=
  if punycodeMark.isPrefixOf label then readSpelling? (label.drop punycodeMark.length)
  else some label

/-- Whether the nearest character that is not joined across can be joined on a side. -/
def joinsOn (side : Joining) (cs : List Char) : Bool :=
  match cs.dropWhile fun c => joining c == .transparent with
  | [] => false
  | c :: _ => joining c == side || joining c == .both

/-- Whether the joiners in a label are meaningful. Each stands behind a sign that takes the vowel from a
consonant; or it keeps apart two letters that would be joined. `before` is the label in front, in
reverse. -/
def joinersFit (before : List Char) : List Char → Bool
  | [] => true
  | c :: rest =>
    let behindKiller := match before with
      | [] => false
      | d :: _ => combiningClass d == vowelKillerClass
    let fits :=
      if c.toNat = 0x200D then behindKiller
      else if c.toNat = 0x200C then
        behindKiller || (!before.isEmpty && joinsOn .behind before && joinsOn .before rest)
      else true
    fits && joinersFit (c :: before) rest

/-- Whether a character may stand in a mapped label. Of ASCII that is what mapping leaves as it is. -/
def isLabelCharacter (c : Char) : Bool := 0x80 ≤ c.toNat || (!isForbiddenInDomain c && !c.isUpper)

/-- Whether a label is in order by itself: it holds no character that mapping takes away, does not begin with
a mark, its joiners are meaningful, and it is not too long. -/
def isSound (label : List Char) : Bool :=
  label.all isLabelCharacter && (isAscii label ||
    (!label.head?.any isMark && joinersFit [] label && decide (label.length ≤ longestLabel)))

/-! ## Directions -/

/-- Characters that make a name one of mixed directions. -/
def turnsLeft (c : Char) : Bool :=
  0x590 ≤ c.toNat && [Direction.leftward, .arabic, .arabicDigit].contains (direction c)

/-- Classes that may stand in a label of either direction. -/
def isNeutral (d : Direction) : Bool :=
  [Direction.europeanDigit, .sign, .separator, .unit, .neutral, .invisible, .mark].contains d

/-- Whether the classes of a label that begins with a letter to the right are in order. -/
def fitsRightward (ds : List Direction) : Bool :=
  ds.all (fun d => d == .rightward || isNeutral d) &&
    (dropRight (· == .mark) ds).getLast?.any fun d => d == .rightward || d == .europeanDigit

/-- Whether the classes of a label that begins with a letter to the left are in order. Digits of both kinds
do not go together. -/
def fitsLeftward (ds : List Direction) : Bool :=
  let strong := [Direction.leftward, .arabic, .arabicDigit]
  ds.all (fun d => strong.contains d || isNeutral d) &&
    ((dropRight (· == .mark) ds).getLast?.any fun d => strong.contains d || d == .europeanDigit) &&
    !(ds.contains .europeanDigit && ds.contains .arabicDigit)

/-- Whether a label is in order inside a name of mixed directions. -/
def fitsDirection (label : List Char) : Bool :=
  match label.map direction with
  | [] => true
  | .rightward :: ds => fitsRightward (.rightward :: ds)
  | .leftward :: ds => fitsLeftward (.leftward :: ds)
  | .arabic :: ds => fitsLeftward (.arabic :: ds)
  | _ => false

/-! ## Names -/

/-- The labels of a name in the scripts that they are written in, if they are in order. -/
def labels? (cs : List Char) : Option (List (List Char)) := do
  let labels ← (splitOn (· == '.') (← mapped? cs)).mapM readLabel?
  if labels.all isSound && (!(labels.any (·.any turnsLeft)) || labels.all fitsDirection) then
    some labels
  else none

/-- The ASCII form of a label. -/
def labelToAscii (label : List Char) : List Char :=
  if isAscii label then label else punycodeMark ++ Punycode.encode label

/-- The ASCII form of a name. -/
def toAscii? (cs : List Char) : Option (List Char) :=
  (labels? cs).map fun labels => joinWith '.' (labels.map labelToAscii)

end Domain
end LoginRehearsal
