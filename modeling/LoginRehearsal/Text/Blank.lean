/-!
# Blanks

The white space of Unicode, and trimming by a character class. Header fields, command lines and
settings files all cut blanks in this sense.

* `isBlank`: the class.
* `trimBoth`, `trimBlank`: a text without its members at both ends.
-/
namespace LoginRehearsal

/-- White space in the sense of the Unicode property of that name. -/
def isBlank (c : Char) : Bool :=
  let n := c.toNat
  (0x09 ≤ n && n ≤ 0x0D) || n == 0x20 || n == 0x85 || n == 0xA0 || n == 0x1680 ||
    (0x2000 ≤ n && n ≤ 0x200A) || n == 0x2028 || n == 0x2029 || n == 0x202F || n == 0x205F ||
    n == 0x3000

/-- A list without the members of class `p` at its end. -/
def dropRight {α : Type} (p : α → Bool) (xs : List α) : List α := (xs.reverse.dropWhile p).reverse

/-- A list of characters without those of class `p` at both ends. -/
def trimBoth (p : Char → Bool) (cs : List Char) : List Char :=
  dropRight p (cs.dropWhile p)

/-- A list of characters without blanks at both ends. -/
def trimBlank (cs : List Char) : List Char := trimBoth isBlank cs

end LoginRehearsal
