import LoginRehearsal.Proofs.Text.Form
import LoginRehearsal.Proofs.Text.Numeral
import LoginRehearsal.Proofs.Web.Target

/-!
# The query in a serialized address

Whoever is given an address as text finds its query between the first question mark and the next number sign. In the
serialization of an address that was read, that is where the query is: reading leaves neither mark in what stands in
front of it, and no number sign in the query. The parts come from pieces of the text that hold no mark, and what is
escaped on the way becomes `%` and digits.

* `Url.queryOf?`, `Url.parametersOf`: the query of a text and its form fields.
* `Url.separated_of_parse`: no mark stands where it would cut a part in two.
* `Url.Separated.addParameter`: nor does one after a field was added.
* `Url.parametersOf_append`: the fields of a text with more text behind it.
* `Url.queryOf?_text`, `Url.frontOf_text`, `Url.behindQuery_text`: so the three parts are found in the text.
-/
namespace LoginRehearsal

namespace Url

/-! ## Texts without marks -/

/-- Neither a query nor a fragment begins in a text. -/
def Unmarked (cs : List Char) : Prop := ∀ c ∈ cs, c ≠ '?' ∧ c ≠ '#'

section

variable {a b cs : List Char}

theorem Unmarked.append (ha : Unmarked a) (hb : Unmarked b) : Unmarked (a ++ b) := by
  intro c hc
  rcases List.mem_append.mp hc with hc | hc
  · exact ha c hc
  · exact hb c hc

theorem Unmarked.mono (hb : Unmarked b) (h : ∀ c ∈ a, c ∈ b) : Unmarked a := fun c hc => hb c (h c hc)

theorem Unmarked.not_mem (h : Unmarked cs) : '?' ∉ cs ∧ '#' ∉ cs :=
  ⟨fun hc => (h _ hc).1 rfl, fun hc => (h _ hc).2 rfl⟩

theorem unmarked_iff : Unmarked cs ↔ '?' ∉ cs ∧ '#' ∉ cs := by
  refine ⟨Unmarked.not_mem, fun h c hc => ⟨?_, ?_⟩⟩
  · rintro rfl
    exact h.1 hc
  · rintro rfl
    exact h.2 hc

end

theorem printableBut_ascii {others : String} : ∀ b, printableBut others b = true → b.toNat < 0x80 := by
  intro b h
  simp only [printableBut, Host.isPrintable, Bool.and_eq_true, decide_eq_true_eq] at h
  omega

theorem isPrintable_ascii : ∀ b, Host.isPrintable b = true → b.toNat < 0x80 := by
  intro b h
  simp only [Host.isPrintable, Bool.and_eq_true, decide_eq_true_eq] at h
  omega

/-- Escaping puts no mark into a text. -/
theorem Unmarked.escaped {plain : UInt8 → Bool} (hplain : ∀ b, plain b = true → b.toNat < 0x80) {cs : List Char}
    (h : Unmarked cs) : Unmarked (escaped plain cs).toList := by
  rw [Url.escaped, String.toList_ofList, unmarked_iff]
  exact ⟨fun hc => h.not_mem.1 (Percent.mem_of_mem_encodeChars hplain hc (by decide)),
    fun hc => h.not_mem.2 (Percent.mem_of_mem_encodeChars hplain hc (by decide))⟩

theorem unmarked_decimal (n : Nat) : Unmarked (decimal n).toList := by
  intro c hc
  obtain ⟨hlow, hhigh⟩ := Numeral.digit_of_mem_decimal hc
  constructor
  all_goals
    rintro rfl
    revert hlow hhigh
    decide

/-! ## Paths -/

/-- No segment of a path under way has a mark in it. -/
def PathDraft.Unmarked (d : PathDraft) : Prop := ∀ part ∈ d.kept, Url.Unmarked part.toList

theorem unmarked_withoutBreaks {cs : List Char} (h : Unmarked cs) : Unmarked (withoutBreaks cs) :=
  h.mono fun _ hc => (List.mem_filter.mp hc).1

theorem unmarked_segment {cs : List Char} (h : Unmarked cs) :
    Unmarked (escaped plainInPath (withoutBreaks cs)).toList := (unmarked_withoutBreaks h).escaped printableBut_ascii

theorem mem_shorten {parts : List String} : ∀ part ∈ shorten parts, part ∈ parts := by
  intro part hp
  cases parts with
  | nil => exact hp
  | cons first parts =>
    rw [shorten] at hp
    split at hp
    · exact hp
    · exact List.mem_cons_of_mem _ hp

theorem unmarked_drive {letter : Char} (h : letter ≠ '?' ∧ letter ≠ '#') :
    Unmarked (String.ofList [letter, ':']).toList := by
  rw [String.toList_ofList]
  exact List.forall_mem_cons.mpr ⟨h, List.forall_mem_singleton.mpr (by decide)⟩

theorem PathDraft.Unmarked.push {d : PathDraft} (hd : d.Unmarked) (file : Bool) {segment : List Char}
    (hs : Url.Unmarked segment) : (d.push file segment).Unmarked := by
  have hone : ∀ drive, (PathDraft.mk [escaped plainInPath (withoutBreaks segment)] drive).Unmarked := fun _ =>
    List.forall_mem_singleton.mpr (unmarked_segment hs)
  unfold PathDraft.push
  dsimp only
  split
  · split
    · next letter c more =>
      split
      · have hbehind : Url.Unmarked (c :: more) := hs.mono fun x hx =>
          List.mem_cons_of_mem _ (List.mem_cons_of_mem _ (List.mem_cons_of_mem _ hx))
        exact List.forall_mem_cons.mpr ⟨unmarked_segment hbehind,
          List.forall_mem_singleton.mpr (unmarked_drive (hs letter List.mem_cons_self))⟩
      · exact hone _
    · split
      · next letter more _ _ => exact List.forall_mem_singleton.mpr (unmarked_drive (hs letter List.mem_cons_self))
      · exact hone _
  · exact List.forall_mem_cons.mpr ⟨unmarked_segment hs, hd⟩

theorem PathDraft.Unmarked.resolve {d : PathDraft} (hd : d.Unmarked) (file : Bool) {segments : List (List Char)}
    (hs : ∀ segment ∈ segments, Url.Unmarked segment) : (d.resolve file segments).Unmarked := by
  induction segments generalizing d with
  | nil => exact hd
  | cons segment rest ih =>
    obtain ⟨hfirst, hrest⟩ := List.forall_mem_cons.mp hs
    rw [PathDraft.resolve]
    have hup : (if isDotDot (withoutBreaks segment) then { d with kept := shorten d.kept } else d).Unmarked := by
      split
      · exact fun part hp => hd part (mem_shorten part hp)
      · exact hd
    refine ih ?_ hrest
    split
    · split
      · exact List.forall_mem_cons.mpr ⟨by simp [Url.Unmarked], hup⟩
      · exact hup
    · exact hd.push file hfirst

theorem unmarked_draftOf (special file : Bool) {cs : List Char} (h : Unmarked cs) :
    (draftOf special file cs).Unmarked := by
  have hstart : (PathDraft.mk [] false).Unmarked := fun part hp => by cases hp
  exact hstart.resolve file fun segment hs => h.mono (mem_of_mem_splitOn segment hs)

theorem unmarked_segments {parts : List String} (h : ∀ part ∈ parts, Unmarked part.toList) :
    Unmarked (UrlPath.segments parts).text.toList := by
  rw [UrlPath.text]
  induction parts with
  | nil => simp [Unmarked, String.join_nil]
  | cons part parts ih =>
    obtain ⟨hfirst, hrest⟩ := List.forall_mem_cons.mp h
    rw [List.map_cons, String.join_cons, String.toList_append, String.toList_append]
    have hslash : Unmarked "/".toList := by simp [Unmarked]
    exact (hslash.append hfirst).append (ih hrest)

theorem unmarked_segmentsOf (special : Bool) {cs : List Char} (h : Unmarked cs) :
    Unmarked (UrlPath.segments (segmentsOf special cs)).text.toList :=
  unmarked_segments fun part hp => unmarked_draftOf special false h part (List.mem_reverse.mp hp)

theorem unmarked_behindSlash (special : Bool) {cs : List Char} (h : Unmarked cs) :
    Unmarked (behindSlash special cs) := by
  unfold behindSlash
  split
  · exact h
  · split
    · exact h.mono fun _ hc => List.mem_cons_of_mem _ hc
    · exact h

theorem unmarked_filePath {d : PathDraft} (h : d.Unmarked) : Unmarked (filePath d).text.toList := by
  unfold filePath
  split
  · exact unmarked_segments (by simp [Unmarked])
  · refine unmarked_segments fun part hp => h part ?_
    exact List.mem_reverse.mp ((List.dropWhile_sublist _).mem hp)

theorem unmarked_plainPath {cs : List Char} (h : Unmarked cs) : Unmarked (plainPath cs).text.toList := by
  unfold plainPath
  split
  · exact unmarked_segments (by simp)
  · exact unmarked_segmentsOf false (h.mono fun _ hc => List.mem_cons_of_mem _ hc)
  · exact unmarked_segmentsOf false h

/-! ## Authorities -/

theorem mem_splitPort {inside : Bool} {front cs : List Char} :
    (∀ c ∈ (splitPort inside front cs).1, c ∈ front ∨ c ∈ cs) ∧
      ∀ digits, (splitPort inside front cs).2 = some digits → ∀ c ∈ digits, c ∈ cs := by
  induction inside, front, cs using splitPort.induct with
  | case1 inside front =>
    rw [splitPort]
    exact ⟨fun c hc => .inl (List.mem_reverse.mp hc), fun _ h => by cases h⟩
  | case2 front rest ih =>
    rw [splitPort, if_pos rfl]
    refine ⟨fun c hc => ?_, fun digits hd c hc => List.mem_cons_of_mem _ (ih.2 digits hd c hc)⟩
    have := ih.1 c hc
    simp only [List.mem_cons] at this ⊢
    tauto
  | case3 inside front rest hinside =>
    rw [splitPort, if_neg hinside]
    refine ⟨fun c hc => .inl (List.mem_reverse.mp hc), fun digits hd c hc => ?_⟩
    cases hd
    exact List.mem_cons_of_mem _ hc
  | case4 inside front c rest hcolon ih =>
    rw [splitPort]
    · refine ⟨fun d hd => ?_, fun digits hd d hm => List.mem_cons_of_mem _ (ih.2 digits hd d hm)⟩
      have := ih.1 d hd
      simp only [List.mem_cons] at this ⊢
      tauto
    · exact hcolon

theorem unmarked_userAndHost {cs : List Char} (h : Unmarked cs) :
    Unmarked (userAndHost cs).1 ∧ Unmarked (userAndHost cs).2 := by
  unfold userAndHost splitUser
  split
  · refine ⟨h.mono fun c hc => ?_, h.mono fun c hc => ?_⟩
    · have hd := List.mem_of_mem_drop (List.mem_reverse.mp hc)
      exact List.mem_reverse.mp ((List.dropWhile_sublist _).mem hd)
    · exact List.mem_reverse.mp ((List.takeWhile_sublist _).mem (List.mem_reverse.mp hc))
  · exact ⟨fun _ hc => absurd hc List.not_mem_nil, h⟩

theorem unmarked_userText {a : Authority} {cs : List Char} (h : Unmarked cs)
    (hu : readUser cs = (a.user, a.password)) : Unmarked a.userText.toList := by
  have hescaped : ∀ {cs : List Char}, Unmarked cs → Unmarked (escaped plainInUser cs).toList := fun h =>
    h.escaped printableBut_ascii
  have hat : Unmarked "@".toList := by simp [Unmarked]
  have hcolon : Unmarked ":".toList := by simp [Unmarked]
  have hparts : Unmarked a.user.toList ∧ ∀ password, a.password = some password → Unmarked password.toList := by
    unfold readUser at hu
    split at hu
    · obtain ⟨hname, hpass⟩ := Prod.mk.inj hu
      rw [← hname, ← hpass]
      exact ⟨hescaped h, fun _ hp => by cases hp⟩
    · next user hs =>
      obtain ⟨c, hcs, -⟩ := eq_of_splitFirst? hs
      obtain ⟨hname, hpass⟩ := Prod.mk.inj hu
      rw [← hname, ← hpass]
      exact ⟨hescaped (h.mono fun d hd => by simp [hcs, hd]), fun _ hp => by cases hp⟩
    · next user password _ hs =>
      obtain ⟨c, hcs, -⟩ := eq_of_splitFirst? hs
      obtain ⟨hname, hpass⟩ := Prod.mk.inj hu
      rw [← hname, ← hpass]
      refine ⟨hescaped (h.mono fun d hd => by simp [hcs, hd]), fun _ hp => ?_⟩
      cases hp
      exact hescaped (h.mono fun d hd => by simp [hcs, hd])
  unfold Authority.userText
  split
  · next password hp =>
    simp only [String.toList_append]
    exact ((hparts.1.append hcolon).append (hparts.2 password hp)).append hat
  · split
    · simp [Unmarked]
    · rw [String.toList_append]
      exact hparts.1.append hat

theorem unmarked_of_isHostCharacter {cs : List Char} (h : ∀ c ∈ cs, isHostCharacter c = true) : Unmarked cs :=
  fun c hc => (isHostCharacter_iff.mp (h c hc)).2.2.2.2.2

theorem unmarked_ipv6 (ip : Ipv6) : Unmarked (Host.ipv6 ip).text.toList := by
  have hinner : Unmarked ip.compressed.toList := by
    intro c hc
    rcases mem_compressed c hc with rfl | hc
    · decide
    · exact (isHostCharacter_iff.mp hc).2.2.2.2.2
  have hopen : Unmarked "[".toList := by simp [Unmarked]
  have hclose : Unmarked "]".toList := by simp [Unmarked]
  rw [Host.text, String.toList_append, String.toList_append]
  exact (hopen.append hinner).append hclose

/-- No host has a mark in it, whatever its text was. -/
theorem unmarked_host {host : Host} {cs : List Char} {special : Bool}
    (h : (if special then Host.parse cs else Host.parseOpaque cs) = .ok host) : Unmarked host.text.toList := by
  cases special with
  | true =>
    rcases Host.parse_eq_ok h with ⟨ip, rfl⟩ | ⟨ip, rfl⟩ | ⟨ascii, -, hall, rfl⟩
    · exact unmarked_ipv6 ip
    · exact unmarked_of_isHostCharacter (isHostCharacter_ipv4 ip)
    · rw [Host.text, String.toList_ofList]
      exact unmarked_of_isHostCharacter hall
  | false =>
    rw [if_neg Bool.false_ne_true] at h
    unfold Host.parseOpaque at h
    split at h
    · obtain ⟨ip, rfl⟩ := Host.parseBracketed_eq_ok h
      exact unmarked_ipv6 ip
    · split at h
      · cases h
      · next hno =>
        cases h
        have hcs : Unmarked cs := unmarked_iff.mpr ⟨fun hc => hno (List.any_eq_true.mpr ⟨_, hc, by decide⟩),
          fun hc => hno (List.any_eq_true.mpr ⟨_, hc, by decide⟩)⟩
        exact hcs.escaped isPrintable_ascii

theorem unmarked_readPort {cs rest : List Char} {port : Option Nat} (h : Unmarked cs)
    (hp : readPort cs = .ok (port, rest)) : Unmarked rest := by
  unfold readPort at hp
  dsimp only at hp
  split at hp
  · cases hp
    simp [Unmarked]
  · split at hp
    · cases hp
    · split at hp
      · cases hp
        exact h.mono fun c hc => (List.dropWhile_sublist _).mem hc
      · cases hp

/-- Nor has an authority, or what it leaves to the path. -/
theorem unmarked_readAuthority {scheme : String} {followed : Bool} {cs rest : List Char} {a : Authority}
    (hcs : Unmarked cs) (h : readAuthority scheme followed cs = .ok (a, rest)) :
    Unmarked a.text.toList ∧ Unmarked rest := by
  obtain ⟨huser, hhost, port, -, hport⟩ := readAuthority_eq_ok h
  obtain ⟨hfront, hbehind⟩ := unmarked_userAndHost hcs
  have hrest : Unmarked rest := by
    rcases hport with ⟨-, -, rfl⟩ | ⟨digits, hd, hp⟩
    · simp [Unmarked]
    · exact unmarked_readPort (hbehind.mono (mem_splitPort.2 digits hd)) hp
  have hnumber : Unmarked a.portText.toList := by
    unfold Authority.portText
    split
    · have hcolon : Unmarked ":".toList := by simp [Unmarked]
      rw [String.toList_append]
      exact hcolon.append (unmarked_decimal _)
    · simp [Unmarked]
  refine ⟨?_, hrest⟩
  rw [Authority.text, String.toList_append, String.toList_append]
  exact ((unmarked_userText hfront huser).append (unmarked_host hhost)).append hnumber

/-! ## Addresses -/

/-- No mark stands in authority or path of an address that was read. -/
def UnmarkedHierarchy (found : Option Authority × UrlPath) : Prop :=
  (∀ a, found.1 = some a → Unmarked a.text.toList) ∧ Unmarked found.2.text.toList

theorem unmarked_named {host : Host} (h : Unmarked host.text.toList) :
    Unmarked (Authority.text { noHost with host }).toList := by
  have htext : Authority.text { noHost with host } = host.text := by
    simp [Authority.text, Authority.userText, Authority.portText, noHost]
  rwa [htext]

theorem unmarked_readFile {cs : List Char} {found : Option Authority × UrlPath} (hcs : Unmarked cs)
    (h : readFile cs = .ok found) : UnmarkedHierarchy found := by
  have hnone : ∀ a, some noHost = some a → Unmarked a.text.toList := fun a ha => by
    cases ha
    have hempty : Unmarked (Host.name "").text.toList := by simp [Unmarked, Host.text]
    exact unmarked_named hempty
  have hpath : ∀ {cs : List Char}, Unmarked cs → Unmarked (filePath (draftOf true true cs)).text.toList := fun h =>
    unmarked_filePath (unmarked_draftOf true true h)
  unfold readFile at h
  split at h
  · next a b rest =>
    have hrest : Unmarked rest := hcs.mono fun c hc => List.mem_cons_of_mem _ (List.mem_cons_of_mem _ hc)
    have hbehind : Unmarked (rest.dropWhile (!isSlash true ·)) := hrest.mono fun c hc =>
      (List.dropWhile_sublist _).mem hc
    split at h
    · dsimp only at h
      split at h
      · cases h
        exact ⟨hnone, hpath hrest⟩
      · obtain ⟨host, hhost, h⟩ := eq_ok_of_bind h
        split at h
        · cases h
          exact ⟨hnone, hpath hbehind⟩
        · cases h
          refine ⟨fun a ha => ?_, hpath (unmarked_behindSlash true hbehind)⟩
          cases ha
          split
          · exact hnone _ rfl
          · exact unmarked_named (@unmarked_host host _ true hhost)
    · cases h
      exact ⟨hnone, hpath (unmarked_behindSlash true hcs)⟩
  · cases h
    exact ⟨hnone, hpath (unmarked_behindSlash true hcs)⟩

theorem unmarked_readHierarchy {scheme : String} {followed : Bool} {cs : List Char}
    {found : Option Authority × UrlPath} (hcs : Unmarked cs) (h : readHierarchy scheme followed cs = .ok found) :
    UnmarkedHierarchy found := by
  have hdrop : ∀ {p : Char → Bool} {cs : List Char}, Unmarked cs → Unmarked (cs.dropWhile p) := fun h =>
    h.mono fun c hc => (List.dropWhile_sublist _).mem hc
  have htake : ∀ {p : Char → Bool} {cs : List Char}, Unmarked cs → Unmarked (cs.takeWhile p) := fun h =>
    h.mono fun c hc => (List.takeWhile_sublist _).mem hc
  unfold readHierarchy at h
  split at h
  · exact unmarked_readFile (hdrop hcs) h
  · split at h
    · obtain ⟨⟨a, more⟩, ha, h⟩ := eq_ok_of_bind h
      cases h
      refine ⟨fun b hb => ?_, unmarked_segmentsOf true (unmarked_behindSlash true (hdrop (hdrop hcs)))⟩
      cases hb
      exact (unmarked_readAuthority (htake (hdrop hcs)) ha).1
    · split at h
      · next rest =>
        have hrest : Unmarked rest := hcs.mono fun c hc => List.mem_cons_of_mem _ (List.mem_cons_of_mem _ hc)
        obtain ⟨⟨a, more⟩, ha, h⟩ := eq_ok_of_bind h
        cases h
        obtain ⟨hauthority, hmore⟩ := unmarked_readAuthority (htake hrest) ha
        refine ⟨fun b hb => ?_, unmarked_plainPath (hmore.append (hdrop hrest))⟩
        cases hb
        exact hauthority
      · cases h
        exact ⟨fun _ ha => (nomatch ha), unmarked_segmentsOf false (hcs.mono fun c hc => List.mem_cons_of_mem _ hc)⟩
      · cases h
        exact ⟨fun _ ha => (nomatch ha), hcs.escaped isPrintable_ascii⟩

theorem schemeChar_ascii : ∀ n, n < 0x80 → isSchemeChar (Char.ofNat n) = true →
    (Char.ofNat n).toLower ≠ '?' ∧ (Char.ofNat n).toLower ≠ '#' := by decide

theorem lt_of_isSchemeChar {c : Char} (h : isSchemeChar c = true) : c.toNat < 0x80 := by
  simp only [isSchemeChar, Bool.or_eq_true, beq_iff_eq] at h
  rcases h with ((h | rfl) | rfl) | rfl
  · have hclass : (('A'.val ≤ c.val ∧ c.val ≤ 'Z'.val : Bool) || ('a'.val ≤ c.val && c.val ≤ 'z'.val) ||
        ('0'.val ≤ c.val && c.val ≤ '9'.val)) = true := h
    simp only [Bool.or_eq_true, Bool.and_eq_true, decide_eq_true_eq, UInt32.le_iff_toNat_le] at hclass
    change c.val.toNat < 0x80
    rcases hclass with (h | h) | h
    all_goals exact Nat.lt_of_le_of_lt h.2 (by decide)
  all_goals decide

theorem unmarked_scheme {cs rest : List Char} {scheme : String} (h : splitScheme? cs = some (scheme, rest)) :
    Unmarked scheme.toList := by
  unfold splitScheme? at h
  split at h
  · cases h
  · split at h
    · split at h
      · cases h
        intro c hc
        rw [String.toList_ofList, List.mem_map] at hc
        obtain ⟨d, hd, rfl⟩ := hc
        have hscheme : isSchemeChar d = true := List.mem_takeWhile_imp hd
        have hd := schemeChar_ascii d.toNat (lt_of_isSchemeChar hscheme)
        rw [Char.ofNat_toNat] at hd
        exact hd hscheme
      · cases h
    · cases h

/-- The serialization up to the query. -/
def frontText (u : Url) : String := u.scheme ++ ":" ++ u.authorityText ++ u.pathText

/-- The marks of an address stand only where its query and its fragment begin. -/
structure Separated (u : Url) : Prop where
  front : Unmarked u.frontText.toList
  query : ∀ q, u.query = some q → '#' ∉ q.toList

theorem unmarked_authorityText {u : Url} (h : UnmarkedHierarchy (u.authority, u.path)) :
    Unmarked u.authorityText.toList := by
  unfold authorityText
  split
  · next a ha =>
    have hslashes : Unmarked "//".toList := by simp [Unmarked]
    rw [String.toList_append]
    exact hslashes.append (h.1 a ha)
  · split
    · simp [Unmarked]
    · simp [Unmarked]

/-- In an address that was read, a mark stands only where a part begins. -/
theorem separated_of_parse {s : String} {u : Url} (h : parse s = .ok u) : u.Separated := by
  unfold parse at h
  split at h
  · cases h
  · next scheme rest hscheme =>
    dsimp only at h
    obtain ⟨⟨authority, path⟩, hread, h⟩ := eq_ok_of_bind h
    cases h
    have hpieces : Unmarked (cutAt '?' (cutAt '#' rest).1).1 :=
      unmarked_iff.mpr ⟨not_mem_cutAt _, fun hm => not_mem_cutAt rest ((isPrefix_cutAt '?' _).mem hm)⟩
    have hfound : UnmarkedHierarchy (authority, path) := by
      refine unmarked_readHierarchy ?_ hread
      split
      · exact hpieces
      · exact unmarked_withoutBreaks hpieces
    constructor
    · have hcolon : Unmarked ":".toList := by simp [Unmarked]
      simp only [frontText, String.toList_append]
      exact (((unmarked_scheme hscheme).append hcolon).append (unmarked_authorityText hfound)).append hfound.2
    · intro q hq hm
      obtain ⟨behind, hbehind, rfl⟩ := Option.map_eq_some_iff.mp hq
      rw [escaped, String.toList_ofList] at hm
      have hin := Percent.mem_of_mem_encodeChars printableBut_ascii hm (by decide)
      exact not_mem_cutAt rest (mem_of_mem_behind hbehind _ (List.mem_filter.mp hin).1)

/-- Nor is it otherwise once a field was added: its name and its value are escaped. -/
theorem Separated.addParameter {u : Url} (h : u.Separated) (name value : String) :
    (u.addParameter name value).Separated := by
  refine ⟨h.front, fun q hq => ?_⟩
  have hfield : '#' ∉ (Form.render [(name, value)]).toList := Form.not_mem_render (by decide) (by decide) _
  obtain rfl := Option.some.inj hq
  split
  · exact hfield
  · next old hold =>
    split
    · exact hfield
    · simp only [String.toList_append, List.mem_append, not_or]
      exact ⟨⟨h.query old hold, by decide⟩, hfield⟩

/-! ## The query in a text -/

/-- What stands in a text between the first question mark and the next number sign. -/
def queryOf? (text : String) : Option String :=
  (cutAt '?' text.toList).2.map fun behind => String.ofList (cutAt '#' behind).1

/-- The form fields in the query of a text. -/
def parametersOf (text : String) : List (String × String) := Form.readText ((queryOf? text).getD "")

theorem parametersOf_of_not_mem {text : String} (h : '?' ∉ text.toList) : parametersOf text = [] := by
  rw [parametersOf, queryOf?, cutAt_of_not_mem h]
  rfl

theorem parametersOf_question {text : String} {front behind : List Char} (ht : text.toList = front ++ '?' :: behind)
    (h : '?' ∉ front) : parametersOf text = Form.readText (String.ofList (cutAt '#' behind).1) := by
  rw [parametersOf, queryOf?, ht, cutAt_append h]
  rfl

/-- More text goes behind the query of a text, or makes one, unless the query ends at a fragment. -/
theorem parametersOf_append (text more : String) :
    parametersOf (text ++ (if '?' ∈ text.toList then "&" else "?") ++ more) =
      parametersOf text ++
        if '#' ∈ text.toList.dropWhile (· != '?') then []
        else Form.readText (String.ofList (cutAt '#' more.toList).1) := by
  by_cases hquestion : '?' ∈ text.toList
  · obtain ⟨front, behind, ht, hfront⟩ := List.eq_append_cons_of_mem hquestion
    have hlong : (text ++ "&" ++ more).toList = front ++ '?' :: (behind ++ '&' :: more.toList) := by
      simp [ht]
    have hdrop : text.toList.dropWhile (· != '?') = '?' :: behind := by
      rw [ht, List.dropWhile_append_of_pos fun c hm => by simpa using fun h : c = '?' => hfront (h ▸ hm),
        List.dropWhile_cons_of_neg (by decide)]
    rw [if_pos hquestion, parametersOf_question hlong hfront, parametersOf_question ht hfront, hdrop]
    by_cases hmark : '#' ∈ behind
    · obtain ⟨query, fragment, rfl, hquery⟩ := List.eq_append_cons_of_mem hmark
      rw [if_pos (List.mem_cons_of_mem _ hmark), List.append_assoc, List.cons_append, cutAt_append hquery,
        cutAt_append hquery, List.append_nil]
    · have hcut : (cutAt '#' (behind ++ '&' :: more.toList)).1 = behind ++ '&' :: (cutAt '#' more.toList).1 := by
        have hamp : '#' ∉ ['&'] := by decide
        rw [cutAt_front hmark, ← List.singleton_append, cutAt_front hamp]
        rfl
      have hjoin : String.ofList (behind ++ '&' :: (cutAt '#' more.toList).1) =
          String.ofList behind ++ "&" ++ String.ofList (cutAt '#' more.toList).1 := by
        rw [← String.toList_inj]
        simp
      have hno : '#' ∉ '?' :: behind := by simp [hmark]
      rw [if_neg hno, hcut, hjoin, Form.readText_append, cutAt_of_not_mem hmark]
  · have hlong : (text ++ "?" ++ more).toList = text.toList ++ '?' :: more.toList := by
      simp
    have hdrop : text.toList.dropWhile (· != '?') = [] :=
      List.dropWhile_eq_nil_iff.mpr fun c hm => by simpa using fun h : c = '?' => hquestion (h ▸ hm)
    rw [if_neg hquestion, parametersOf_question hlong hquestion, parametersOf_of_not_mem hquestion, hdrop,
      if_neg List.not_mem_nil, List.nil_append]

/-- What stands in a text behind its query. -/
def behindQuery (text : String) : Option String :=
  (cutAt '?' text.toList).2.bind fun behind => (cutAt '#' behind).2.map String.ofList

/-- What stands in a text in front of its query. -/
def frontOf (text : String) : String := String.ofList (cutAt '?' text.toList).1

section

variable {u : Url} {q : String} (h : u.Separated) (hq : u.query = some q)
include h hq

/-- The first question mark is the one in front of the query, and the next number sign ends it. -/
theorem cutAt_text :
    ∃ behind, cutAt '?' u.text.toList = (u.frontText.toList, some behind) ∧
      cutAt '#' behind = (q.toList, u.fragment.map String.toList) := by
  have hfront := h.front.not_mem.1
  cases hf : u.fragment with
  | none =>
    refine ⟨q.toList, ?_, cutAt_of_not_mem (h.query q hq)⟩
    have htext : u.text.toList = u.frontText.toList ++ '?' :: q.toList := by
      simp [text, frontText, hq, hf]
    rw [htext, cutAt_append hfront]
  | some f =>
    refine ⟨q.toList ++ '#' :: f.toList, ?_, cutAt_append (h.query q hq)⟩
    have htext : u.text.toList = u.frontText.toList ++ '?' :: (q.toList ++ '#' :: f.toList) := by
      simp [text, frontText, hq, hf]
    rw [htext, cutAt_append hfront]

theorem frontOf_text : frontOf u.text = u.frontText := by
  obtain ⟨behind, hcut, -⟩ := cutAt_text h hq
  rw [frontOf, hcut, String.ofList_toList]

theorem queryOf?_text : queryOf? u.text = some q := by
  obtain ⟨behind, hcut, hquery⟩ := cutAt_text h hq
  rw [queryOf?, hcut, Option.map_some, hquery, String.ofList_toList]

theorem behindQuery_text : behindQuery u.text = u.fragment := by
  obtain ⟨behind, hcut, hquery⟩ := cutAt_text h hq
  rw [behindQuery, hcut, Option.bind_some, hquery, Option.map_map]
  cases u.fragment with
  | none => rfl
  | some f => rw [Option.map_some, Function.comp_apply, String.ofList_toList]

end

end Url
end LoginRehearsal
