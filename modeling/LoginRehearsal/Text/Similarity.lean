/-!
# Similarity of words

How alike two words are, as a number between zero and one: the measure of Jaro, which counts the letters
that both have at about the same place and how many of them are out of order. It is used to guess what a
mistyped word was meant to be.

* `similarity`: the measure.
* `mostSimilar?`: the guess.
-/
namespace LoginRehearsal
namespace Similarity

/-- The first free place of a letter within the window from `low` to below `high`; `index` is the place
of the head of the list. -/
def findFree (c : Char) (low high index : Nat) : List (Char × Bool) → Option Nat
  | [] => none
  | (d, taken) :: rest =>
    if high ≤ index then none
    else if low ≤ index ∧ c = d ∧ taken = false then some index
    else findFree c low high (index + 1) rest

/-- Marks a place as taken. -/
def take (index : Nat) (places : List (Char × Bool)) : List (Char × Bool) :=
  places.modify index fun p => (p.1, true)

/-- Pairs off the letters of the first word from the one at place `index` on: the letters that found a
partner, in order, and the second word with the partners marked. -/
def pairOff (range index : Nat) (places : List (Char × Bool)) :
    List Char → List Char × List (Char × Bool)
  | [] => ([], places)
  | c :: rest =>
    match findFree c (index - range) (index + range + 1) 0 places with
    | none => pairOff range (index + 1) places rest
    | some i =>
      let (matched, places) := pairOff range (index + 1) (take i places) rest
      (c :: matched, places)

/-- Half the number of paired letters that stand in another order, rounded down. -/
def transpositions (a b : List Char) : Nat :=
  ((a.zip b).filter fun p => p.1 != p.2).length / 2

end Similarity

/-- The similarity of two words. -/
def similarity (a b : String) : Float :=
  let as := a.toList
  let bs := b.toList
  if as.isEmpty && bs.isEmpty then 1
  else
    let range := max as.length bs.length / 2 - 1
    let (matchedA, places) := Similarity.pairOff range 0 (bs.map (·, false)) as
    let matchedB := (places.filter (·.2)).map (·.1)
    let m := matchedA.length
    if m = 0 then 0
    else
      let whole := Float.ofNat m
      (whole / Float.ofNat as.length + whole / Float.ofNat bs.length +
        Float.ofNat (m - Similarity.transpositions matchedA matchedB) / whole) / 3

/-- The candidate most similar to a word, if any is similar enough; of equally similar ones the last. -/
def mostSimilar? (word : String) (candidates : List String) : Option String :=
  (candidates.foldl (fun best candidate =>
    let s := similarity word candidate
    if s > 0.7 && best.all (fun (other : String × Float) => other.2 ≤ s) then some (candidate, s)
    else best) none).map (·.1)

end LoginRehearsal
