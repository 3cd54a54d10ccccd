import LoginRehearsal.Proofs.OAuth1.Parameters
import LoginRehearsal.Proofs.Text.Numeral
import LoginRehearsal.Proofs.Web.Address

/-!
# What a base string covers

The base string of a signature joins method, address and parameters by `&`, each of them escaped, and the
address joins scheme, host, port and path. Nothing can move from one part to another: an escaped part
holds no `&`, and in the address of a web server (`Url.IsWeb`) a host holds no slash and no colon outside its
brackets, and a path begins with a slash.

* `normalizeUrl_eq_iff`: the address that is signed tells scheme, host, port and path.
* `baseString_eq_iff`: the base string tells method, address and parameters.
-/
namespace LoginRehearsal

namespace Signature

/-! ## The parts of an address -/

/-- The port as it stands in the address that is signed. -/
def portChars : Option Nat → List Char
  | some port => ':' :: (decimal port).toList
  | none => []

/-- Host and port as they stand in the address that is signed. -/
def hostChars (u : Url) : List Char := u.hostText.toList ++ portChars u.port

theorem toList_normalizeUrl {u : Url} (h : u.IsWeb) :
    (normalizeUrl u).toList = u.scheme.toList ++ ':' :: '/' :: '/' :: (hostChars u ++ u.pathText.toList) := by
  have hs : u.scheme.toLower = u.scheme := by
    rcases h.scheme with hs | hs <;> rw [hs] <;> exact toLower_of_forall (by simp)
  rw [normalizeUrl, hs, h.host.lower, hostChars]
  cases u.port <;> simp [portChars]

theorem no_slash_portChars (port : Option Nat) : '/' ∉ portChars port := by
  cases port with
  | none => simp [portChars]
  | some port =>
    rw [portChars, decimal, String.toList_ofList, List.mem_cons]
    rintro (h | h)
    · exact absurd h (by decide)
    · exact absurd (Nat.isDigit_of_mem_toDigits (by decide) (by decide) h) (by decide)

theorem portChars_injective {p q : Option Nat} (h : portChars p = portChars q) : p = q := by
  cases p with
  | none => cases q with
    | none => rfl
    | some n => cases h
  | some m => cases q with
    | none => cases h
    | some n => rw [Numeral.decimal_injective (String.toList_inj.mp (List.cons.inj h).2)]

/-- What follows a host is told from it, be it empty or begun by a colon. -/
theorem host_unique {inside : Bool} {a b s t : List Char} (ha : colonsEnclosed inside a = true)
    (hb : colonsEnclosed inside b = true) (hs : s = [] ∨ ∃ r, s = ':' :: r)
    (ht : t = [] ∨ ∃ r, t = ':' :: r) (h : a ++ s = b ++ t) : a = b ∧ s = t := by
  induction a generalizing inside b with
  | nil =>
    cases b with
    | nil => exact ⟨rfl, h⟩
    | cons c b =>
      -- the next character is the colon in front of a port on one side, part of a host on the other
      rcases hs with rfl | ⟨r, rfl⟩
      · cases h
      · obtain ⟨rfl, -⟩ := List.cons.inj h
        cases inside <;> simp [colonsEnclosed] at ha hb
  | cons c a ih =>
    cases b with
    | nil =>
      rcases ht with rfl | ⟨r, rfl⟩
      · cases h
      · obtain ⟨rfl, -⟩ := List.cons.inj h
        cases inside <;> simp [colonsEnclosed] at ha hb
    | cons d b =>
      obtain ⟨rfl, hr⟩ := List.cons.inj h
      simp only [colonsEnclosed] at ha hb
      split at ha
      · next hc =>
        rw [if_pos hc] at hb
        obtain ⟨rfl, rfl⟩ := ih ha hb hr
        exact ⟨rfl, rfl⟩
      · next hc =>
        rw [if_neg hc] at hb
        split at ha
        · next hc' =>
          rw [if_pos hc'] at hb
          obtain ⟨rfl, rfl⟩ := ih ha hb hr
          exact ⟨rfl, rfl⟩
        · next hc' =>
          rw [if_neg hc', Bool.and_eq_true] at hb
          rw [Bool.and_eq_true] at ha
          obtain ⟨rfl, rfl⟩ := ih ha.2 hb.2 hr
          exact ⟨rfl, rfl⟩

theorem portChars_begins (port : Option Nat) : portChars port = [] ∨ ∃ r, portChars port = ':' :: r := by
  cases port with
  | none => exact .inl rfl
  | some port => exact .inr ⟨_, rfl⟩

theorem hostChars_inj {u v : Url} (hu : u.IsWeb) (hv : v.IsWeb) (h : hostChars u = hostChars v) :
    u.hostText = v.hostText ∧ u.port = v.port := by
  obtain ⟨hh, hp⟩ := host_unique hu.host.colon hv.host.colon (portChars_begins _) (portChars_begins _) h
  exact ⟨String.toList_inj.mp hh, portChars_injective hp⟩

theorem no_slash_hostChars {u : Url} (h : u.IsWeb) : '/' ∉ hostChars u := by
  rw [hostChars, List.mem_append]
  rintro (hm | hm)
  · exact h.host.slash hm
  · exact no_slash_portChars _ hm

theorem no_colon_scheme {u : Url} (h : u.IsWeb) : ':' ∉ u.scheme.toList := by
  rcases h.scheme with hs | hs <;> rw [hs] <;> decide

/-- Where schemes agree, the port that an address leads to tells the port that it names. -/
theorem port_eq_iff {u v : Url} (hu : u.IsWeb) (hv : v.IsWeb) (hs : u.scheme = v.scheme) :
    u.port = v.port ↔ u.effectivePort = v.effectivePort := by
  have hd := hu.port_unusual
  have hd' := hv.port_unusual
  rw [← hs] at hd'
  unfold Url.effectivePort
  rw [← hs]
  constructor
  · intro h
    rw [h]
  · intro h
    cases hp : u.port with
    | none => cases hq : v.port with
      | none => rfl
      | some q =>
        rw [hp, hq] at h
        exact absurd (hq.trans h.symm) hd'
    | some p => cases hq : v.port with
      | none =>
        rw [hp, hq] at h
        exact absurd (hp.trans h) hd
      | some q =>
        rw [hp, hq] at h
        exact h

/-- The address that is signed tells scheme, host, port and path. -/
theorem normalizeUrl_eq_iff {u v : Url} (hu : u.IsWeb) (hv : v.IsWeb) :
    normalizeUrl u = normalizeUrl v ↔
      u.scheme = v.scheme ∧ u.hostText = v.hostText ∧ u.effectivePort = v.effectivePort ∧
        u.pathText = v.pathText := by
  rw [← String.toList_inj, toList_normalizeUrl hu, toList_normalizeUrl hv]
  constructor
  · intro h
    obtain ⟨hs, h⟩ := append_cons_inj (no_colon_scheme hu) (no_colon_scheme hv) h
    have hs := String.toList_inj.mp hs
    obtain ⟨pu, hpu⟩ := hu.path_slash
    obtain ⟨pv, hpv⟩ := hv.path_slash
    rw [hpu, hpv] at h
    obtain ⟨hh, hp⟩ := append_cons_inj (no_slash_hostChars hu) (no_slash_hostChars hv)
      (List.cons.inj (List.cons.inj h).2).2
    obtain ⟨hh, hport⟩ := hostChars_inj hu hv hh
    refine ⟨hs, hh, (port_eq_iff hu hv hs).mp hport, String.toList_inj.mp ?_⟩
    rw [hpu, hpv, hp]
  · rintro ⟨hs, hh, hport, hp⟩
    rw [hostChars, hostChars, hs, hh, hp, (port_eq_iff hu hv hs).mpr hport]

/-! ## The base string -/

theorem toList_baseString (httpMethod : String) (u : Url) (params : Parameters) :
    (baseString httpMethod u params).toList =
      (Percent.encode httpMethod.toUpper).toList ++ '&' :: ((Percent.encode (normalizeUrl u)).toList ++
        '&' :: (Percent.encode (normalizeParameters params)).toList) := by
  simp [baseString]

/-- The three parts of a base string are told by it. -/
theorem baseString_parts {m n : String} {u v : Url} {p q : Parameters} :
    baseString m u p = baseString n v q ↔
      m.toUpper = n.toUpper ∧ normalizeUrl u = normalizeUrl v ∧
        normalizeParameters p = normalizeParameters q := by
  constructor
  · intro h
    rw [← String.toList_inj, toList_baseString, toList_baseString] at h
    obtain ⟨hm, h⟩ := append_cons_inj (no_ampersand_encode _) (no_ampersand_encode _) h
    obtain ⟨hu, hp⟩ := append_cons_inj (no_ampersand_encode _) (no_ampersand_encode _) h
    exact ⟨Percent.encode_injective (String.toList_inj.mp hm),
      Percent.encode_injective (String.toList_inj.mp hu),
      Percent.encode_injective (String.toList_inj.mp hp)⟩
  · rintro ⟨hm, hu, hp⟩
    rw [baseString, baseString, hm, hu, hp]

/-- The base string covers exactly the request: the method in any letter case, the address but for its
query, and the parameters but for signatures, in any order and each as often as it is given. -/
theorem baseString_eq_iff {m n : String} {u v : Url} {p q : Parameters} (hu : u.IsWeb) (hv : v.IsWeb) :
    baseString m u p = baseString n v q ↔
      m.toUpper = n.toUpper ∧
      (u.scheme = v.scheme ∧ u.hostText = v.hostText ∧ u.effectivePort = v.effectivePort ∧
        u.pathText = v.pathText) ∧
      (p.filter fun a => a.1 != "oauth_signature").Perm (q.filter fun a => a.1 != "oauth_signature") := by
  rw [baseString_parts, normalizeUrl_eq_iff hu hv, normalizeParameters_eq_iff]
  rfl

/-- A second parameter cannot hide in the value of the first, while order, letter case of the method and
signatures do not count. -/
theorem baseString_of_hidden_parameter :
    let u : Url := ⟨"http", some ⟨"", none, .ipv6 ⟨[0, 0, 0, 0, 0, 0, 0, 1]⟩, some 5121⟩,
      .segments ["oauth1"], none, none⟩
    Url.parse "http://[::1]:5121/oauth1" = .ok u ∧ u.IsWeb ∧
      baseString "GET" u [("a", "1&b=2")] ≠ baseString "GET" u [("a", "1"), ("b", "2")] ∧
      baseString "get" u [("b", ""), ("oauth_signature", "x"), ("a", "1")] =
        baseString "GET" u [("a", "1"), ("b", "")] := by
  intro u
  have hp : Url.parse "http://[::1]:5121/oauth1" = .ok u := rfl
  have hu : u.IsWeb := Url.isWeb_of_parse hp (.inl rfl)
  have hm : ("get".map Char.toUpper).toList = ("GET".map Char.toUpper).toList := by
    rw [String.toList_map, String.toList_map]
    decide
  refine ⟨hp, hu, fun h => ?_,
    (baseString_eq_iff hu hu).mpr ⟨String.toList_inj.mp hm, ⟨rfl, rfl, rfl, rfl⟩, by decide⟩⟩
  exact absurd ((baseString_eq_iff hu hu).mp h).2.2 (by decide)

end Signature
end LoginRehearsal
