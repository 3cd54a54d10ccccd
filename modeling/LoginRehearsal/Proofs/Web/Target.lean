import LoginRehearsal.Proofs.Text.Blank
import LoginRehearsal.Proofs.Text.Split
import LoginRehearsal.Proofs.Web.Address

/-!
# Path and query behind a host

An address `http://` with a host and a target behind it is read from its text alone, so the host ends at the first
separator, whoever wrote it: a slash of either kind, a question mark or a number sign. A host without one leaves path
and query to the target.

* `Url.unbroken_withFewBreaks`, `Url.cutAt_withoutBreaks`: tabs and line ends make no difference to the parts.
* `Url.parse_http`: path and query of every such address.
* `Url.parse_behind_host`: where the host ends in front of the target, they are those of the target. Only a host
  that is not there at all is looked for in the target.
-/
namespace LoginRehearsal

namespace Url

/-! ## Tabs and line ends -/

/-- A text without tabs and line ends. -/
def unbroken (cs : List Char) : List Char := cs.filter fun c => c != '\t' && c != '\n' && c != '\r'

/-- Of the breaks that reading spares, none is left in the end. -/
theorem unbroken_withFewBreaks (behindColon : Bool) (cs : List Char) :
    withoutBreaks (withFewBreaks behindColon cs) = unbroken cs := by
  induction cs generalizing behindColon with
  | nil => rfl
  | cons c cs ih =>
    rw [withFewBreaks]
    split
    · next hc =>
      have hu : unbroken (c :: cs) = unbroken cs := List.filter_cons_of_neg (by rcases hc with rfl | rfl | rfl <;> decide)
      rw [hu]
      split
      · exact (List.filter_cons_of_neg (by decide)).trans (ih false)
      · exact ih false
    · next hc =>
      rw [not_or, not_or] at hc
      have hu : unbroken (c :: cs) = c :: unbroken cs := List.filter_cons_of_pos (by simp [hc])
      rw [hu, ← ih (c == ':')]
      exact List.filter_cons_of_pos (by simp [hc.1])

/-! ## Parts at marks -/

section

variable {mark : Char} {front behind cs : List Char}

theorem cutAt_append (h : mark ∉ front) : cutAt mark (front ++ mark :: behind) = (front, some behind) := by
  rw [cutAt, splitFirst?_append_of_not_mem h]

theorem cutAt_mark : cutAt mark (mark :: behind) = ([], some behind) :=
  have h : mark ∉ [] := List.not_mem_nil
  cutAt_append h

theorem cutAt_of_not_mem (h : mark ∉ cs) : cutAt mark cs = (cs, none) := by
  rw [cutAt, splitFirst?_of_not_mem h]

theorem not_mem_cutAt (cs : List Char) : mark ∉ (cutAt mark cs).1 := by
  by_cases hm : mark ∈ cs
  · obtain ⟨front, behind, rfl, hfront⟩ := List.eq_append_cons_of_mem hm
    rwa [cutAt_append hfront]
  · rwa [cutAt_of_not_mem hm]

theorem mem_of_mem_behind (h : (cutAt mark cs).2 = some behind) : ∀ c ∈ behind, c ∈ cs := by
  by_cases hm : mark ∈ cs
  · obtain ⟨front, rest, rfl, hfront⟩ := List.eq_append_cons_of_mem hm
    rw [cutAt_append hfront] at h
    cases h
    exact fun c hc => List.mem_append_right _ (List.mem_cons_of_mem _ hc)
  · rw [cutAt_of_not_mem hm] at h
    cases h

/-- What stands in front of a mark is all there is only if there is none. -/
theorem cutAt_eq_self_iff : (cutAt mark cs).1 = cs ↔ mark ∉ cs := by
  constructor
  · intro h
    rw [← h]
    exact not_mem_cutAt cs
  · intro h
    rw [cutAt_of_not_mem h]

theorem isPrefix_cutAt (mark : Char) (cs : List Char) : (cutAt mark cs).1 <+: cs := by
  by_cases hm : mark ∈ cs
  · obtain ⟨front, behind, rfl, hfront⟩ := List.eq_append_cons_of_mem hm
    rw [cutAt_append hfront]
    exact List.prefix_append _ _
  · exact ⟨[], by rw [List.append_nil, cutAt_eq_self_iff.mpr hm]⟩

/-- A text is cut where it would be cut without its front, if the front holds no mark. -/
theorem cutAt_front (h : mark ∉ front) (cs : List Char) :
    cutAt mark (front ++ cs) = (front ++ (cutAt mark cs).1, (cutAt mark cs).2) := by
  by_cases hm : mark ∈ cs
  · obtain ⟨a, b, rfl, ha⟩ := List.eq_append_cons_of_mem hm
    rw [← List.append_assoc, cutAt_append ha, cutAt_append (by simp [h, ha])]
  · rw [cutAt_of_not_mem hm, cutAt_of_not_mem (by simp [h, hm])]

/-- It makes no difference whether breaks are taken out before a cut or from both parts behind it. -/
theorem cutAt_withoutBreaks (h : mark ≠ '\t') (cs : List Char) :
    cutAt mark (withoutBreaks cs) = (withoutBreaks (cutAt mark cs).1, (cutAt mark cs).2.map withoutBreaks) := by
  have hmem : ∀ {cs : List Char}, mark ∉ cs → mark ∉ withoutBreaks cs := fun hn hm => hn (List.mem_filter.mp hm).1
  by_cases hm : mark ∈ cs
  · obtain ⟨a, b, rfl, ha⟩ := List.eq_append_cons_of_mem hm
    have hw : withoutBreaks (a ++ mark :: b) = withoutBreaks a ++ mark :: withoutBreaks b := by
      rw [withoutBreaks, List.filter_append, List.filter_cons_of_pos (by simpa using h)]
      rfl
    rw [hw, cutAt_append ha, cutAt_append (hmem ha)]
    rfl
  · rw [cutAt_of_not_mem hm, cutAt_of_not_mem (hmem hm)]
    rfl

end

/-! ## What stands behind the scheme -/

/-- A text as it is read: without blanks and controls at its end, and without breaks. -/
def readable (cs : List Char) : List Char := unbroken (dropRight (·.toNat ≤ 0x20) cs)

/-- What stands in front of query and fragment. -/
def pathPart (cs : List Char) : List Char := (cutAt '?' (cutAt '#' cs).1).1

/-- What stands between the question mark and the fragment. -/
def queryPart (cs : List Char) : Option (List Char) := (cutAt '?' (cutAt '#' cs).1).2

section

variable {front : List Char} (h : '#' ∉ front ∧ '?' ∉ front) (cs : List Char)
include h

theorem pathPart_front : pathPart (front ++ cs) = front ++ pathPart cs := by
  rw [pathPart, cutAt_front h.1, cutAt_front h.2, pathPart]

theorem queryPart_front : queryPart (front ++ cs) = queryPart cs := by
  rw [queryPart, cutAt_front h.1, cutAt_front h.2, queryPart]

end

theorem pathPart_withoutBreaks (cs : List Char) : pathPart (withoutBreaks cs) = withoutBreaks (pathPart cs) := by
  rw [pathPart, cutAt_withoutBreaks (by decide), cutAt_withoutBreaks (by decide), pathPart]

theorem queryPart_withoutBreaks (cs : List Char) :
    queryPart (withoutBreaks cs) = (queryPart cs).map withoutBreaks := by
  rw [queryPart, cutAt_withoutBreaks (by decide), cutAt_withoutBreaks (by decide), queryPart]

/-! ## Reading -/

theorem tidied_http (cs : List Char) :
    tidied (String.ofList (['h', 't', 't', 'p', ':', '/', '/'] ++ cs)) =
      ['h', 't', 't', 'p', ':', '/', '/'] ++ withFewBreaks false (dropRight (·.toNat ≤ 0x20) cs) := by
  have ht : trimBoth (·.toNat ≤ 0x20) (['h', 't', 't', 'p', ':', '/'] ++ '/' :: cs) =
      ['h', 't', 't', 'p', ':', '/'] ++ '/' :: dropRight (·.toNat ≤ 0x20) cs := trimBoth_append_mark (by decide)
  have hs : ['h', 't', 't', 'p', ':', '/', '/'] ++ cs = ['h', 't', 't', 'p', ':', '/'] ++ '/' :: cs := rfl
  rw [tidied, String.toList_ofList, hs, ht]
  simp [withFewBreaks]

theorem splitScheme?_http (cs : List Char) :
    splitScheme? (['h', 't', 't', 'p', ':', '/', '/'] ++ cs) = some ("http", '/' :: '/' :: cs) := rfl

/-- The path of a web address stands behind the first run of characters that are no slashes. -/
theorem readHierarchy_path {followed : Bool} {cs : List Char} {authority : Option Authority} {path : UrlPath}
    (h : readHierarchy "http" followed cs = .ok (authority, path)) :
    path = specialPath ((cs.dropWhile (isSlash true)).dropWhile (!isSlash true ·)) := by
  unfold readHierarchy at h
  rw [if_neg (by decide), if_pos (by decide)] at h
  obtain ⟨⟨a, rest⟩, -, h⟩ := eq_ok_of_bind h
  cases h
  rfl

theorem parse_eq {s : String} {rest : List Char} (h : splitScheme? (tidied s) = some ("http", rest)) :
    parse s = (do
      let (authority, path) ← readHierarchy "http" ((queryPart rest).isSome || (cutAt '#' rest).2.isSome)
        (withoutBreaks (pathPart rest))
      pure ⟨"http", authority, path,
        (queryPart rest).map fun cs => escaped (plainInQuery true) (withoutBreaks cs),
        (cutAt '#' rest).2.map fun cs => escaped plainInFragment (withoutBreaks cs)⟩) := by
  rw [parse, h]
  rfl

/-- The path of a target. -/
def targetPath (target : List Char) : UrlPath := specialPath (pathPart (readable target))

/-- The query of a target. -/
def targetQuery (target : List Char) : Option String :=
  (queryPart (readable target)).map (escaped (plainInQuery true))

/-- The path of a text that has a host in front of it, behind any slashes. -/
def pathBehindHost (cs : List Char) : UrlPath :=
  specialPath (((pathPart (readable cs)).dropWhile (isSlash true)).dropWhile (!isSlash true ·))

/-- Path and query of an address, whatever stands behind its scheme. -/
theorem parse_http {cs : List Char} {u : Url}
    (h : parse (String.ofList (['h', 't', 't', 'p', ':', '/', '/'] ++ cs)) = .ok u) :
    u.path = pathBehindHost cs ∧ u.query = targetQuery cs := by
  have hfront : '#' ∉ ['/', '/'] ∧ '?' ∉ ['/', '/'] := by decide
  have hread : withoutBreaks ('/' :: '/' :: withFewBreaks false (dropRight (·.toNat ≤ 0x20) cs)) =
      ['/', '/'] ++ readable cs := by
    rw [readable, ← unbroken_withFewBreaks false]
    rfl
  have hpath := pathPart_withoutBreaks ('/' :: '/' :: withFewBreaks false (dropRight (·.toNat ≤ 0x20) cs))
  have hquery := queryPart_withoutBreaks ('/' :: '/' :: withFewBreaks false (dropRight (·.toNat ≤ 0x20) cs))
  rw [hread, pathPart_front hfront] at hpath
  rw [hread, queryPart_front hfront] at hquery
  have hscheme := splitScheme?_http (withFewBreaks false (dropRight (·.toNat ≤ 0x20) cs))
  rw [← tidied_http] at hscheme
  rw [parse_eq hscheme, ← hpath] at h
  obtain ⟨⟨authority, path⟩, hh, h⟩ := eq_ok_of_bind h
  cases h
  constructor
  · have hslashes : ∀ t : List Char, (['/', '/'] ++ t).dropWhile (isSlash true) = t.dropWhile (isSlash true) :=
      fun t => (List.dropWhile_cons_of_pos (by decide)).trans (List.dropWhile_cons_of_pos (by decide))
    rw [readHierarchy_path hh, hslashes, pathBehindHost]
  · rw [targetQuery, hquery, Option.map_map]
    rfl

/-! ## Hosts that end in front of the target -/

/-- Whether a character ends the host of a web address. -/
def isHostEnd (c : Char) : Bool := c == '/' || c == '\\' || c == '?' || c == '#'

theorem isSlash_of_not_end {c : Char} (h : isHostEnd c = false) : isSlash true c = false := by
  simp only [isHostEnd, Bool.or_eq_false_iff] at h
  simp only [isSlash, h.1.1.1, h.1.1.2, Bool.and_false, Bool.or_false]

section

variable {c : Char} (hc : isHostEnd c = true)
include hc

theorem end_visible : decide (c.toNat ≤ 0x20) = false := by
  simp only [isHostEnd, Bool.or_eq_true, beq_iff_eq] at hc
  rcases hc with ((rfl | rfl) | rfl) | rfl <;> decide

theorem readable_append (host rest : List Char) :
    readable (host ++ c :: rest) = unbroken host ++ readable (c :: rest) := by
  have hrest : dropRight (·.toNat ≤ 0x20) (c :: rest) = c :: dropRight (·.toNat ≤ 0x20) rest :=
    dropRight_append_mark (a := []) (end_visible hc)
  rw [readable, readable, dropRight_append_mark (end_visible hc), hrest, unbroken, List.filter_append]
  rfl

theorem readable_cons (rest : List Char) : readable (c :: rest) = c :: readable rest := by
  have hrest : dropRight (·.toNat ≤ 0x20) (c :: rest) = c :: dropRight (·.toNat ≤ 0x20) rest :=
    dropRight_append_mark (a := []) (end_visible hc)
  rw [readable, hrest, unbroken, List.filter_cons_of_pos]
  · rfl
  · simp only [isHostEnd, Bool.or_eq_true, beq_iff_eq] at hc
    rcases hc with ((rfl | rfl) | rfl) | rfl <;> decide

/-- Behind a host there is a path, or none at all. -/
theorem pathPart_cons (rest : List Char) :
    pathPart (c :: rest) = [] ∨ ∃ more, pathPart (c :: rest) = c :: more ∧ isSlash true c = true := by
  by_cases hs : isSlash true c = true
  · have hm : '#' ∉ [c] ∧ '?' ∉ [c] := by
      constructor
      all_goals
        rw [List.mem_singleton]
        rintro rfl
        exact absurd hs (by decide)
    exact .inr ⟨pathPart rest, pathPart_front hm rest, hs⟩
  · simp only [isHostEnd, Bool.or_eq_true, beq_iff_eq] at hc
    rcases hc with ((rfl | rfl) | rfl) | rfl
    · exact absurd rfl hs
    · exact absurd rfl hs
    · left
      rw [pathPart, ← List.singleton_append, cutAt_front (by decide)]
      exact congrArg Prod.fst cutAt_mark
    · left
      rw [pathPart, cutAt_mark]
      rfl

end

/-- In front of a target that a separator begins, all that a host decides is whether there is one. -/
theorem parse_behind_host {host target : List Char} {u : Url} (hh : ∀ c ∈ host, isHostEnd c = false)
    (ht : ∃ c rest, target = c :: rest ∧ isHostEnd c = true)
    (h : parse (String.ofList (['h', 't', 't', 'p', ':', '/', '/'] ++ (host ++ target))) = .ok u) :
    u.path = (if unbroken host = [] then pathBehindHost target else targetPath target) ∧
      u.query = targetQuery target := by
  obtain ⟨c, rest, rfl, hc⟩ := ht
  have hu : ∀ d ∈ unbroken host, isHostEnd d = false := fun d hd => hh d (List.mem_filter.mp hd).1
  have hmark : ∀ {m : Char}, isHostEnd m = true → m ∉ unbroken host := fun hm hmem => by
    rw [hu _ hmem] at hm
    cases hm
  have hfront : '#' ∉ unbroken host ∧ '?' ∉ unbroken host := ⟨hmark (by decide), hmark (by decide)⟩
  obtain ⟨hpath, hquery⟩ := parse_http h
  rw [pathBehindHost, readable_append hc, pathPart_front hfront] at hpath
  rw [targetQuery, readable_append hc, queryPart_front hfront] at hquery
  refine ⟨hpath.trans ?_, hquery⟩
  split
  · next hnone => rw [hnone, List.nil_append, pathBehindHost]
  · next hsome =>
    have hslash : ∀ d ∈ unbroken host, (!isSlash true d) = true := fun d hd => by
      rw [isSlash_of_not_end (hu d hd)]
      rfl
    have hfirst : ∀ cs, (unbroken host ++ cs).dropWhile (isSlash true) = unbroken host ++ cs := fun cs => by
      obtain ⟨d, more, hd⟩ := List.exists_cons_of_ne_nil hsome
      have hs : isSlash true d = false := isSlash_of_not_end (hu d (hd ▸ List.mem_cons_self))
      rw [hd, List.cons_append, List.dropWhile_cons_of_neg (by simp [hs])]
    rw [hfirst, List.dropWhile_append_of_pos hslash, targetPath, readable_cons hc]
    rcases pathPart_cons hc (readable rest) with hp | ⟨more, hp, hs⟩
    · rw [hp]
      rfl
    · rw [hp, List.dropWhile_cons_of_neg (by simp [hs])]

end Url
end LoginRehearsal
