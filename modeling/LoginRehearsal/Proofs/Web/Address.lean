import LoginRehearsal.Proofs.Except
import LoginRehearsal.Web.UrlReader

/-!
# Addresses of the web

What reading makes of an address with the scheme `http` or `https`. Its host is a name in its ASCII form, or an
IP address, IPv6 between brackets. It is never empty and holds no slash, no capital letter, and no colon but
between brackets. The path begins with a slash, and a port stands there only where it is not the usual one.

* `Url.IsWeb`: such an address.
* `Host.plainHost_parse`: hosts as they are read.
* `Url.isWeb_of_parse`: every address of these schemes that is read is one.
-/
namespace LoginRehearsal

/-- Whether every colon of a host stands between brackets, and every bracket is closed. -/
def colonsEnclosed (inside : Bool) : List Char → Bool
  | [] => !inside
  | c :: rest =>
    if c = '[' then colonsEnclosed true rest
    else if c = ']' then colonsEnclosed false rest
    else (inside || c != ':') && colonsEnclosed inside rest

/-- The text of a host in front of which a scheme and behind which a port and a path can stand. -/
structure PlainHost (text : String) : Prop where
  ne : text ≠ ""
  lower : text.toLower = text
  slash : '/' ∉ text.toList
  colon : colonsEnclosed false text.toList = true

/-- The address of a web server, as reading leaves it: a host in lower case in front of a path, and a port
only where it is not the usual one. -/
structure Url.IsWeb (u : Url) : Prop where
  scheme : u.scheme = "http" ∨ u.scheme = "https"
  host : PlainHost u.hostText
  path_slash : ∃ rest, u.pathText.toList = '/' :: rest
  port_unusual : u.port ≠ defaultPort? u.scheme

/-- The port that an address leads to: the one that it names, or the usual one of its scheme. -/
def Url.effectivePort (u : Url) : Option Nat := u.port.or (defaultPort? u.scheme)

/-! ## Characters of hosts -/

/-- Whether a character may stand in a host outside brackets, and in lower case. -/
def isHostCharacter (c : Char) : Bool :=
  c.toLower == c && c != '/' && c != ':' && c != '[' && c != ']' && c != '?' && c != '#'

theorem isHostCharacter_iff {c : Char} :
    isHostCharacter c = true ↔
      c.toLower = c ∧ c ≠ '/' ∧ c ≠ ':' ∧ c ≠ '[' ∧ c ≠ ']' ∧ c ≠ '?' ∧ c ≠ '#' := by
  simp [isHostCharacter, and_assoc]

theorem toLower_of_forall {s : String} (h : ∀ c ∈ s.toList, c.toLower = c) : s.toLower = s := by
  have hm : (s.map Char.toLower).toList = s.toList := by
    rw [String.toList_map]
    exact (List.map_congr_left h).trans (List.map_id _)
  exact String.toList_inj.mp hm

theorem colonsEnclosed_of_forall {cs : List Char} (h : ∀ c ∈ cs, isHostCharacter c = true) :
    colonsEnclosed false cs = true := by
  induction cs with
  | nil => rfl
  | cons c cs ih =>
    obtain ⟨-, -, hcolon, hopen, hclose, -⟩ := isHostCharacter_iff.mp (h c List.mem_cons_self)
    rw [colonsEnclosed, if_neg hopen, if_neg hclose, ih fun d hd => h d (List.mem_cons_of_mem _ hd)]
    simpa using hcolon

theorem colonsEnclosed_bracketed {cs : List Char} (h : ∀ c ∈ cs, c ≠ '[' ∧ c ≠ ']') :
    colonsEnclosed false ('[' :: (cs ++ [']'])) = true := by
  have hi : colonsEnclosed true (cs ++ [']']) = true := by
    induction cs with
    | nil => rfl
    | cons c cs ih =>
      obtain ⟨hopen, hclose⟩ := h c List.mem_cons_self
      rw [List.cons_append, colonsEnclosed, if_neg hopen, if_neg hclose,
        ih fun d hd => h d (List.mem_cons_of_mem _ hd)]
      rfl
  rw [colonsEnclosed, if_pos rfl, hi]

/-- A host outside brackets. -/
theorem plainHost_of_forall {text : String} (hne : text ≠ "")
    (h : ∀ c ∈ text.toList, isHostCharacter c = true) : PlainHost text where
  ne := hne
  lower := toLower_of_forall fun c hc => (isHostCharacter_iff.mp (h c hc)).1
  slash := fun hc => (isHostCharacter_iff.mp (h _ hc)).2.1 rfl
  colon := colonsEnclosed_of_forall h

/-! ## Names -/

namespace Punycode

theorem isHostCharacter_digit : ∀ n, n < 36 → isHostCharacter (digit n) = true := by decide

theorem isHostCharacter_numberDigits {bias k q : Nat} :
    ∀ c ∈ numberDigits bias k q, isHostCharacter c = true := by
  induction k, q using numberDigits.induct bias with
  | case1 k q t h =>
    have ht : t ≤ 26 := (threshold_bounds k bias).2
    intro c hc
    rw [numberDigits, if_pos h, List.mem_singleton] at hc
    rw [hc]
    exact isHostCharacter_digit q (by omega)
  | case2 k q t h ih =>
    have ht : t ≤ 26 := (threshold_bounds k bias).2
    have hr : (q - t) % (36 - t) < 36 - t := Nat.mod_lt _ (by omega)
    intro c hc
    rw [numberDigits, if_neg h, List.mem_cons] at hc
    rcases hc with rfl | hc
    · exact isHostCharacter_digit (t + (q - t) % (36 - t)) (by omega)
    · exact ih c hc

theorem isHostCharacter_pass {basic point : Nat} {w : Writer} {c : Char}
    (h : ∀ d ∈ w.digits, isHostCharacter d = true) :
    ∀ d ∈ (w.pass basic point c).digits, isHostCharacter d = true := by
  unfold Writer.pass
  split
  · exact h
  · split
    · intro d hd
      rw [List.mem_append, List.mem_reverse] at hd
      rcases hd with hd | hd
      · exact isHostCharacter_numberDigits d hd
      · exact h d hd
    · exact h

theorem isHostCharacter_foldl {basic point : Nat} {label : List Char} {w : Writer}
    (h : ∀ d ∈ w.digits, isHostCharacter d = true) :
    ∀ d ∈ (label.foldl (Writer.pass basic point) w).digits, isHostCharacter d = true := by
  induction label generalizing w with
  | nil => exact h
  | cons c label ih => exact ih (isHostCharacter_pass h)

theorem isHostCharacter_placeAll {label : List Char} {basic next : Nat} {w : Writer} {points : List Nat}
    (h : ∀ d ∈ w.digits, isHostCharacter d = true) :
    ∀ d ∈ (w.placeAll label basic next points).digits, isHostCharacter d = true := by
  induction points generalizing next w with
  | nil => exact h
  | cons point points ih =>
    rw [Writer.placeAll]
    exact ih (isHostCharacter_foldl h)

/-- Punycode adds hyphens, small letters and digits to the ASCII characters of a label. -/
theorem isHostCharacter_encode {label : List Char}
    (h : ∀ c ∈ label, c.toNat < 0x80 → isHostCharacter c = true) :
    ∀ c ∈ encode label, isHostCharacter c = true := by
  intro c hc
  simp only [encode, List.mem_append, List.mem_filter, List.mem_reverse, decide_eq_true_eq] at hc
  rcases hc with (⟨hc, hlt⟩ | hc) | hc
  · exact h c hc hlt
  · split at hc
    · cases hc
    · rw [List.mem_singleton] at hc
      subst hc
      decide
  · exact isHostCharacter_placeAll (fun d hd => by cases hd) c hc

end Punycode

namespace Domain

theorem isHostCharacter_ascii : ∀ n, n < 0x80 → isLabelCharacter (Char.ofNat n) = true →
    isHostCharacter (Char.ofNat n) = true := by decide

theorem isHostCharacter_of_isLabelCharacter {c : Char} (hlt : c.toNat < 0x80)
    (h : isLabelCharacter c = true) : isHostCharacter c = true := by
  have ha := isHostCharacter_ascii c.toNat hlt
  rw [Char.ofNat_toNat] at ha
  exact ha h

theorem isHostCharacter_labelToAscii {label : List Char} (h : isSound label = true) :
    ∀ c ∈ labelToAscii label, isHostCharacter c = true := by
  rw [isSound, Bool.and_eq_true, List.all_eq_true] at h
  have hascii : ∀ c ∈ label, c.toNat < 0x80 → isHostCharacter c = true := fun c hc hlt =>
    isHostCharacter_of_isLabelCharacter hlt (h.1 c hc)
  unfold labelToAscii
  split
  · next ha =>
    rw [isAscii, List.all_eq_true] at ha
    exact fun c hc => hascii c hc (by simpa using ha c hc)
  · intro c hc
    rw [List.mem_append] at hc
    rcases hc with hc | hc
    · have hm : punycodeMark.all isHostCharacter = true := by decide
      exact List.all_eq_true.mp hm c hc
    · exact Punycode.isHostCharacter_encode hascii c hc

theorem isHostCharacter_joinWith {parts : List (List Char)}
    (h : ∀ part ∈ parts, ∀ c ∈ part, isHostCharacter c = true) :
    ∀ c ∈ joinWith '.' parts, isHostCharacter c = true := by
  cases parts with
  | nil => exact fun c hc => by cases hc
  | cons part parts =>
    intro c hc
    rw [joinWith, List.mem_append, List.mem_flatMap] at hc
    rcases hc with hc | ⟨other, ho, hc⟩
    · exact h part List.mem_cons_self c hc
    · rw [List.mem_cons] at hc
      rcases hc with rfl | hc
      · decide
      · exact h other (List.mem_cons_of_mem _ ho) c hc

theorem isSound_of_labels? {cs : List Char} {labels : List (List Char)} (h : labels? cs = some labels) :
    ∀ label ∈ labels, isSound label = true := by
  unfold labels? at h
  rw [Option.bind_eq_bind, Option.bind_eq_some_iff] at h
  obtain ⟨mapped, -, h⟩ := h
  rw [Option.bind_eq_bind, Option.bind_eq_some_iff] at h
  obtain ⟨found, -, h⟩ := h
  split at h
  · next hs =>
    cases h
    rw [Bool.and_eq_true, List.all_eq_true] at hs
    exact hs.1
  · cases h

/-- The ASCII form of a name, whatever the name was. -/
theorem isHostCharacter_toAscii? {cs ascii : List Char} (h : toAscii? cs = some ascii) :
    ∀ c ∈ ascii, isHostCharacter c = true := by
  unfold toAscii? at h
  rw [Option.map_eq_some_iff] at h
  obtain ⟨labels, hl, rfl⟩ := h
  refine isHostCharacter_joinWith fun part hpart => ?_
  rw [List.mem_map] at hpart
  obtain ⟨label, hlabel, rfl⟩ := hpart
  exact isHostCharacter_labelToAscii (isSound_of_labels? hl label hlabel)

end Domain

/-! ## Internet addresses -/

theorem isHostCharacter_digitChar : ∀ d, d < 16 → isHostCharacter (Nat.digitChar d) = true := by decide

theorem isHostCharacter_toDigits {b : Nat} (hb : 1 < b) (hb' : b ≤ 16) (n : Nat) :
    ∀ c ∈ Nat.toDigits b n, isHostCharacter c = true := by
  induction n using Nat.strongRecOn with
  | _ n ih =>
    intro c hc
    rw [Nat.toDigits_eq_if hb] at hc
    split at hc
    · rw [List.mem_singleton] at hc
      rw [hc]
      exact isHostCharacter_digitChar n (by omega)
    · rw [List.mem_append, List.mem_singleton] at hc
      rcases hc with hc | rfl
      · exact ih (n / b) (Nat.div_lt_self (by omega) hb) c hc
      · have := Nat.mod_lt n (show b > 0 by omega)
        exact isHostCharacter_digitChar (n % b) (by omega)

theorem isHostCharacter_ipv4 (ip : Ipv4) : ∀ c ∈ ip.text.toList, isHostCharacter c = true := by
  have hd : ∀ n, ∀ c ∈ (decimal n).toList, isHostCharacter c = true := by
    intro n
    rw [decimal, String.toList_ofList]
    exact isHostCharacter_toDigits (by decide) (by decide) n
  have hdot : isHostCharacter '.' = true := by decide
  intro c hc
  simp only [Ipv4.text, String.toList_append, List.mem_append, String.reduceToList, List.mem_singleton]
    at hc
  rcases hc with (((((hc | rfl) | hc) | rfl) | hc) | rfl) | hc
  · exact hd _ c hc
  · exact hdot
  · exact hd _ c hc
  · exact hdot
  · exact hd _ c hc
  · exact hdot
  · exact hd _ c hc

theorem plainHost_ipv4 (ip : Ipv4) : PlainHost ip.text := by
  refine plainHost_of_forall (fun h => ?_) (isHostCharacter_ipv4 ip)
  have := congrArg String.toList h
  simp [Ipv4.text] at this

/-- The characters between the brackets of an IPv6 address. -/
theorem mem_colonGroups {groups : List Nat} :
    ∀ c ∈ (colonGroups groups).toList, c = ':' ∨ isHostCharacter c = true := by
  have hh : ∀ n, ∀ c ∈ (hexadecimal n).toList, isHostCharacter c = true := by
    intro n
    rw [hexadecimal, String.toList_ofList]
    exact isHostCharacter_toDigits (by decide) (by decide) n
  unfold colonGroups
  induction groups with
  | nil => exact fun c hc => by cases hc
  | cons g groups ih =>
    cases groups with
    | nil =>
      intro c hc
      rw [List.map_singleton, String.intercalate_singleton] at hc
      exact .inr (hh g c hc)
    | cons g' groups =>
      intro c hc
      rw [List.map_cons, List.map_cons, String.intercalate_cons_cons, String.toList_append,
        String.toList_append, List.mem_append, List.mem_append] at hc
      rcases hc with (hc | hc) | hc
      · exact .inr (hh g c hc)
      · exact .inl (List.mem_singleton.mp hc)
      · exact ih c hc

theorem mem_compressed {ip : Ipv6} :
    ∀ c ∈ ip.compressed.toList, c = ':' ∨ isHostCharacter c = true := by
  intro c hc
  simp only [Ipv6.compressed] at hc
  split at hc
  · exact mem_colonGroups c hc
  · rw [String.toList_append, String.toList_append, List.mem_append, List.mem_append] at hc
    rcases hc with (hc | hc) | hc
    · exact mem_colonGroups c hc
    · exact .inl (by simpa using hc)
    · exact mem_colonGroups c hc

theorem plainHost_ipv6 (ip : Ipv6) : PlainHost ("[" ++ ip.compressed ++ "]") := by
  have ht : (("[" ++ ip.compressed ++ "]") : String).toList = '[' :: (ip.compressed.toList ++ [']']) := by simp
  have hm : ∀ c ∈ ip.compressed.toList, c.toLower = c ∧ c ≠ '/' ∧ c ≠ '[' ∧ c ≠ ']' := by
    intro c hc
    rcases mem_compressed c hc with rfl | hc
    · decide
    · obtain ⟨hlower, hslash, -, hopen, hclose, -⟩ := isHostCharacter_iff.mp hc
      exact ⟨hlower, hslash, hopen, hclose⟩
  have hall : ∀ c ∈ (("[" ++ ip.compressed ++ "]") : String).toList, c.toLower = c ∧ c ≠ '/' := by
    intro c hc
    rw [ht, List.mem_cons, List.mem_append, List.mem_singleton] at hc
    rcases hc with rfl | hc | rfl
    · decide
    · exact ⟨(hm c hc).1, (hm c hc).2.1⟩
    · decide
  constructor
  · intro h
    rw [h] at ht
    cases ht
  · exact toLower_of_forall fun c hc => (hall c hc).1
  · exact fun hc => (hall _ hc).2 rfl
  · rw [ht]
    exact colonsEnclosed_bracketed fun c hc => (hm c hc).2.2

namespace Host

theorem parseBracketed_eq_ok {cs : List Char} {h : Host} (hp : parseBracketed cs = .ok h) : ∃ ip, h = .ipv6 ip := by
  unfold parseBracketed parseIpv6 at hp
  split at hp
  · simp only at hp
    split at hp
    · cases hp
      exact ⟨_, rfl⟩
    · cases hp
  · cases hp

/-- What a host of a web address can be: an IP address, or a name of plain characters. -/
theorem parse_eq_ok {cs : List Char} {h : Host} (hp : parse cs = .ok h) :
    (∃ ip, h = .ipv6 ip) ∨ (∃ ip, h = .ipv4 ip) ∨
      ∃ ascii, ascii ≠ [] ∧ (∀ c ∈ ascii, isHostCharacter c = true) ∧ h = .name (String.ofList ascii) := by
  unfold parse at hp
  split at hp
  · exact .inl (parseBracketed_eq_ok hp)
  · split at hp
    · cases hp
    · split at hp
      · cases hp
      · cases hp
      · next ascii hne ha =>
        split at hp
        · cases hi : parseIpv4 ascii with
          | error e =>
            rw [hi] at hp
            cases hp
          | ok ip =>
            rw [hi] at hp
            cases hp
            exact .inr (.inl ⟨ip, rfl⟩)
        · cases hp
          exact .inr (.inr ⟨ascii, hne, Domain.isHostCharacter_toAscii? ha, rfl⟩)

/-- Every host that is read for a web address is plain. -/
theorem plainHost_parse {cs : List Char} {h : Host} (hp : parse cs = .ok h) : PlainHost h.text := by
  rcases parse_eq_ok hp with ⟨ip, rfl⟩ | ⟨ip, rfl⟩ | ⟨ascii, hne, hall, rfl⟩
  · exact plainHost_ipv6 ip
  · exact plainHost_ipv4 ip
  · have ht : (text (.name (String.ofList ascii))).toList = ascii := String.toList_ofList
    refine plainHost_of_forall (fun h => hne ?_) (ht.symm ▸ hall)
    rw [← ht, h]
    rfl

end Host

/-! ## Paths and ports -/

namespace Url

theorem push_kept_ne_nil {d : PathDraft} {segment : List Char} : (d.push false segment).kept ≠ [] := by
  simp [PathDraft.push]

/-- The last segment is always kept, if only as an empty one. -/
theorem resolve_kept_ne_nil {d : PathDraft} {segments : List (List Char)} (h : segments ≠ []) :
    (d.resolve false segments).kept ≠ [] := by
  induction segments generalizing d with
  | nil => exact absurd rfl h
  | cons segment rest ih =>
    rw [PathDraft.resolve]
    cases rest with
    | nil =>
      rw [PathDraft.resolve]
      split
      · simp
      · exact push_kept_ne_nil
    | cons next rest => exact ih (List.cons_ne_nil _ _)

theorem splitOn_ne_nil {α : Type} (p : α → Bool) (xs : List α) : splitOn p xs ≠ [] := by
  cases xs with
  | nil => simp
  | cons x xs =>
    cases hx : p x with
    | true => simp [splitOn_cons_sep p x xs hx]
    | false =>
      obtain ⟨piece, others, -, hs⟩ := splitOn_cons_other p x xs hx
      simp [hs]

theorem specialPath_slash (cs : List Char) : ∃ rest, (specialPath cs).text.toList = '/' :: rest := by
  have hne : segmentsOf true (behindSlash true cs) ≠ [] := by
    rw [segmentsOf, Ne, List.reverse_eq_nil_iff]
    exact resolve_kept_ne_nil (splitOn_ne_nil _ _)
  unfold specialPath UrlPath.text
  cases hs : segmentsOf true (behindSlash true cs) with
  | nil => exact absurd hs hne
  | cons part parts =>
    refine ⟨part.toList ++ (String.join (parts.map ("/" ++ ·))).toList, ?_⟩
    simp [String.join_cons]

/-- What stands before the last `@` of an authority, and what stands behind it. -/
def userAndHost (cs : List Char) : List Char × List Char := (splitUser cs).getD ([], cs)

/-- Where each part of an authority that was read comes from. -/
theorem readAuthority_eq_ok {scheme : String} {followed : Bool} {cs rest : List Char} {a : Authority}
    (h : readAuthority scheme followed cs = .ok (a, rest)) :
    readUser (userAndHost cs).1 = (a.user, a.password) ∧
    (if isSpecialScheme scheme then Host.parse (splitPort false [] (userAndHost cs).2).1
      else Host.parseOpaque (splitPort false [] (userAndHost cs).2).1) = .ok a.host ∧
    ∃ port, a.port = (if port = defaultPort? scheme then none else port) ∧
      ((splitPort false [] (userAndHost cs).2).2 = none ∧ port = none ∧ rest = [] ∨
        ∃ digits, (splitPort false [] (userAndHost cs).2).2 = some digits ∧ readPort digits = .ok (port, rest)) := by
  unfold readAuthority at h
  unfold userAndHost
  rcases hu : splitUser cs with _ | ⟨user, hostPart⟩
  all_goals
    simp only [hu, Option.getD_some, Option.getD_none] at h ⊢
    have h := eq_ok_of_guard (eq_ok_of_guard h)
    split at h
    all_goals
      next hs =>
      obtain ⟨host, hhost, h⟩ := eq_ok_of_bind h
      have h := eq_ok_of_guard h
      split at h
      all_goals
        next hp =>
        obtain ⟨⟨port, behind⟩, hport, h⟩ := eq_ok_of_bind h
        cases eq_ok_of_guard h
        refine ⟨rfl, ?_, port, rfl, ?_⟩
        · simp only [hs, if_true, if_false, Bool.false_eq_true]
          exact hhost
        · first
          | exact .inr ⟨_, hp, hport⟩
          | cases hport; exact .inl ⟨hp, rfl, rfl⟩
/-- The host behind a special scheme, and a port that is not the usual one. -/
theorem readAuthority_special {scheme : String} {followed : Bool} {cs rest : List Char} {a : Authority}
    (hs : isSpecialScheme scheme = true) (h : readAuthority scheme followed cs = .ok (a, rest)) :
    PlainHost a.host.text ∧ (a.port = none ∨ a.port ≠ defaultPort? scheme) := by
  obtain ⟨-, hhost, port, hport, -⟩ := readAuthority_eq_ok h
  rw [if_pos hs] at hhost
  refine ⟨Host.plainHost_parse hhost, ?_⟩
  by_cases hp : port = defaultPort? scheme
  · exact .inl (hport.trans (if_pos hp))
  · rw [hport, if_neg hp]
    exact .inr hp

theorem readHierarchy_web {scheme : String} (hs : scheme = "http" ∨ scheme = "https") {followed : Bool}
    {cs : List Char} {authority : Option Authority} {path : UrlPath}
    (h : readHierarchy scheme followed cs = .ok (authority, path)) :
    ∃ a rest, authority = some a ∧ path = specialPath rest ∧ PlainHost a.host.text ∧
      (a.port = none ∨ a.port ≠ defaultPort? scheme) := by
  have hspecial : isSpecialScheme scheme = true := by rcases hs with rfl | rfl <;> decide
  have hfile : scheme ≠ "file" := by rcases hs with rfl | rfl <;> decide
  unfold readHierarchy at h
  rw [if_neg hfile, if_pos hspecial] at h
  obtain ⟨⟨a, rest⟩, ha, h⟩ := eq_ok_of_bind h
  obtain ⟨hhost, hport⟩ := readAuthority_special hspecial ha
  cases h
  exact ⟨a, _, rfl, rfl, hhost, hport⟩

/-- Every address that is read with one of the schemes of the web is a web address. -/
theorem isWeb_of_parse {text : String} {u : Url} (h : parse text = .ok u)
    (hs : u.scheme = "http" ∨ u.scheme = "https") : u.IsWeb := by
  unfold parse at h
  split at h
  · cases h
  · next scheme rest _ =>
    obtain ⟨⟨authority, path⟩, hh, h⟩ := eq_ok_of_bind h
    cases h
    obtain ⟨a, behind, rfl, rfl, hhost, hport⟩ := readHierarchy_web hs hh
    have hdefault : defaultPort? scheme ≠ none := by rcases hs with rfl | rfl <;> decide
    refine ⟨hs, hhost, specialPath_slash behind, ?_⟩
    rcases hport with hport | hport
    · intro hp
      exact hdefault (hp.symm.trans hport)
    · exact hport

end Url

end LoginRehearsal
