import LoginRehearsal.OAuth1.Signature
import LoginRehearsal.Proofs.Text.Percent
import LoginRehearsal.Proofs.Text.Split
import Mathlib.Data.List.Perm.Basic

/-!
# The parameters of a signature

Parameters are escaped, put in order and written as one text. The order is total, so the list in order is
the same for the same parameters wherever they stood; and the marks `&` and `=` are never part of an escaped
name or value, so the text is taken apart in one way only.

* `sortedParameters_of_sorted`: a list in order that has the escaped parameters is the list in order.
* `sortedParameters_eq_iff`: two lists in order are equal just if the parameters are the same, each as
  often.
* `pairsOf_normalizeParameters`: the text taken apart gives the list in order.
* `normalizeParameters_eq_iff`: both together.
-/
namespace LoginRehearsal
namespace Signature

/-- The parameters that a signature covers: all but the signatures. -/
def covered (params : Parameters) : Parameters := params.filter fun p => p.1 != "oauth_signature"

/-- Nothing is covered just if there are only signatures. -/
theorem covered_eq_nil_iff {params : Parameters} :
    covered params = [] ↔ ∀ p ∈ params, p.1 = "oauth_signature" := by
  rw [covered, List.filter_eq_nil_iff]
  simp

/-- A parameter with name and value escaped. -/
def coded (p : String × String) : String × String := (Percent.encode p.1, Percent.encode p.2)

theorem coded_injective : Function.Injective coded := by
  intro p q h
  obtain ⟨hn, hv⟩ := Prod.mk.inj h
  exact Prod.ext (Percent.encode_injective hn) (Percent.encode_injective hv)

/-! ## The order -/

theorem precedes_iff {a b : String × String} :
    precedes a b = true ↔ a.1 < b.1 ∨ (a.1 = b.1 ∧ a.2 ≤ b.2) := by
  simp only [precedes, Bool.or_eq_true, Bool.and_eq_true, decide_eq_true_eq, beq_iff_eq]

theorem precedes_trans (a b c : String × String) (hab : precedes a b = true)
    (hbc : precedes b c = true) : precedes a c = true := by
  rw [precedes_iff] at hab hbc ⊢
  rcases hab with h | ⟨h, hv⟩ <;> rcases hbc with h' | ⟨h', hv'⟩
  · exact .inl (String.lt_trans h h')
  · exact .inl (h' ▸ h)
  · exact .inl (h ▸ h')
  · exact .inr ⟨h.trans h', String.le_trans hv hv'⟩

theorem precedes_total (a b : String × String) : (precedes a b || precedes b a) = true := by
  rw [Bool.or_eq_true, precedes_iff, precedes_iff]
  by_cases hab : a.1 < b.1
  · exact .inl (.inl hab)
  · by_cases hba : b.1 < a.1
    · exact .inr (.inl hba)
    · have he : a.1 = b.1 := String.le_antisymm (String.not_lt.mp hba) (String.not_lt.mp hab)
      rcases String.le_total a.2 b.2 with hv | hv
      · exact .inl (.inr ⟨he, hv⟩)
      · exact .inr (.inr ⟨he.symm, hv⟩)

theorem precedes_antisymm {a b : String × String} (hab : precedes a b = true)
    (hba : precedes b a = true) : a = b := by
  rw [precedes_iff] at hab hba
  rcases hab with h | ⟨h, hv⟩ <;> rcases hba with h' | ⟨h', hv'⟩
  · exact absurd h' (String.lt_asymm h)
  · exact absurd h'.symm (String.ne_of_lt h)
  · exact absurd h.symm (String.ne_of_lt h')
  · exact Prod.ext h (String.le_antisymm hv hv')

theorem pairwise_sortedParameters (params : Parameters) :
    (sortedParameters params).Pairwise fun a b => precedes a b = true :=
  List.pairwise_mergeSort precedes_trans precedes_total _

theorem sortedParameters_perm (params : Parameters) :
    (sortedParameters params).Perm ((covered params).map coded) := List.mergeSort_perm _ _

/-- There is only one order for the same parameters. -/
theorem sortedParameters_of_sorted {params sorted : Parameters} (hp : sorted.Perm ((covered params).map coded))
    (hs : sorted.Pairwise fun a b => precedes a b = true) : sortedParameters params = sorted :=
  ((sortedParameters_perm params).trans hp.symm).eq_of_pairwise (fun _ _ _ _ => precedes_antisymm)
    (pairwise_sortedParameters params) hs

/-- The list in order tells which parameters there are and how often, and nothing else. -/
theorem sortedParameters_eq_iff (p q : Parameters) :
    sortedParameters p = sortedParameters q ↔ (covered p).Perm (covered q) := by
  constructor
  · intro h
    have hp := sortedParameters_perm p
    rw [h] at hp
    exact (List.map_perm_map_iff coded_injective).mp (hp.symm.trans (sortedParameters_perm q))
  · intro h
    exact sortedParameters_of_sorted ((sortedParameters_perm q).trans (h.map coded).symm)
      (pairwise_sortedParameters q)

/-! ## The text -/

/-- The base string holds the parameters in their one order. -/
theorem baseString_of_sorted {params sorted : Parameters} (h : sortedParameters params = sorted)
    (httpMethod : String) (u : Url) : baseString httpMethod u params =
      Percent.encode httpMethod.toUpper ++ "&" ++ Percent.encode (normalizeUrl u) ++ "&" ++
        Percent.encode ("&".intercalate (sorted.map fun p => p.1 ++ "=" ++ p.2)) := by
  rw [baseString, normalizeParameters, h]

theorem exists_coded_of_mem {params : Parameters} {p : String × String}
    (h : p ∈ sortedParameters params) : ∃ q, p = coded q := by
  have h' := (sortedParameters_perm params).mem_iff.mp h
  rw [List.mem_map] at h'
  obtain ⟨q, -, rfl⟩ := h'
  exact ⟨q, rfl⟩

theorem no_ampersand_encode (s : String) : '&' ∉ (Percent.encode s).toList :=
  Percent.not_mem_encode (by decide) s

/-- One parameter as it stands in the text. -/
def piece (p : String × String) : List Char := p.1.toList ++ '=' :: p.2.toList

theorem toList_normalizeParameters (params : Parameters) :
    (normalizeParameters params).toList = ['&'].intercalate ((sortedParameters params).map piece) := by
  rw [normalizeParameters, String.toList_intercalate, List.map_map]
  congr 1
  refine List.map_congr_left fun p _ => ?_
  simp [piece]

theorem no_ampersand_piece (q : String × String) : ∀ c ∈ piece (coded q), (c == '&') = false := by
  intro c hc
  rw [beq_eq_false_iff_ne]
  rintro rfl
  rw [piece, List.mem_append, List.mem_cons] at hc
  rcases hc with hc | hc | hc
  · exact no_ampersand_encode q.1 hc
  · exact absurd hc (by decide)
  · exact no_ampersand_encode q.2 hc

theorem splitFirst?_piece (q : String × String) :
    splitFirst? (· == '=') (piece (coded q)) = some ((coded q).1.toList, (coded q).2.toList) :=
  splitFirst?_append_of_not_mem (Percent.not_mem_encode (by decide) q.1)

/-- The names and values of a text, cut at every `&` and there at the first `=`. The empty text has
none. -/
def pairsOf (cs : List Char) : List (List Char × List Char) :=
  (splitOn (· == '&') cs).filterMap (splitFirst? (· == '='))

/-- Cut at every `&`, the text of some parameters gives each of them in order. -/
theorem splitOn_normalizeParameters {params : Parameters} (h : sortedParameters params ≠ []) :
    splitOn (· == '&') (normalizeParameters params).toList = (sortedParameters params).map piece := by
  have hno : ∀ cs ∈ (sortedParameters params).map piece, ∀ c ∈ cs, (c == '&') = false := by
    intro cs hcs
    rw [List.mem_map] at hcs
    obtain ⟨a, ha, rfl⟩ := hcs
    obtain ⟨q, rfl⟩ := exists_coded_of_mem ha
    exact no_ampersand_piece q
  rw [toList_normalizeParameters]
  generalize sortedParameters params = sorted at h hno ⊢
  obtain ⟨p, ps, rfl⟩ := List.exists_cons_of_ne_nil h
  rw [List.map_cons] at hno ⊢
  rw [splitOn_intercalate (p := (· == '&')) (x := '&') (t := []) rfl (by simp) hno]
  simp only [List.nil_append, List.map_id']

/-- The text can be taken apart again. -/
theorem pairsOf_normalizeParameters (params : Parameters) :
    pairsOf (normalizeParameters params).toList =
      (sortedParameters params).map fun p => (p.1.toList, p.2.toList) := by
  by_cases h : sortedParameters params = []
  · rw [toList_normalizeParameters, h]
    rfl
  · rw [pairsOf, splitOn_normalizeParameters h, List.filterMap_map, ← List.filterMap_eq_map]
    refine List.filterMap_congr fun a ha => ?_
    obtain ⟨q, rfl⟩ := exists_coded_of_mem ha
    rw [Function.comp_apply, Function.comp_apply, splitFirst?_piece]

/-- Two texts are equal just if they stand for the same parameters, each as often. -/
theorem normalizeParameters_eq_iff (p q : Parameters) :
    normalizeParameters p = normalizeParameters q ↔ (covered p).Perm (covered q) := by
  rw [← sortedParameters_eq_iff]
  constructor
  · intro h
    have hp := pairsOf_normalizeParameters p
    rw [h, pairsOf_normalizeParameters] at hp
    refine (List.map_injective_iff.mpr ?_ hp).symm
    intro a b hab
    obtain ⟨hn, hv⟩ := Prod.mk.inj hab
    exact Prod.ext (String.toList_inj.mp hn) (String.toList_inj.mp hv)
  · intro h
    rw [normalizeParameters, normalizeParameters, h]

end Signature
end LoginRehearsal
