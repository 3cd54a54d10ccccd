import LoginRehearsal.Proofs.OAuth1.Parameters

/-!
# The parameters in normal form

The text of the parameters that is signed is a normal form (RFC 5849 §3.4.1.3.2): the pieces between the `&` are
the parameters, each escaped and as often as it is given, in the order of their bytes. The order is that of
pairs, and is not the order of the pieces as texts: the `=` behind a name does not count. The codes are ASCII,
so that the order of characters by which they are sorted is the order of bytes.

* `pieces_normalizeParameters`: each piece is a parameter.
* `bytesOrdered_of_precedes`: the order of escaped parameters is that of their bytes.
* `normalizeParameters_normal_form`: the text, taken apart and decoded.
-/
namespace LoginRehearsal
namespace Signature

/-- The pieces of a text between its `&`. The empty text has none. -/
def pieces (text : String) : List (List Char) :=
  if text.isEmpty then [] else splitOn (· == '&') text.toList

/-- The order of two texts by their bytes. -/
def BytesBefore (s t : String) : Prop := List.Lex (· < ·) (Utf8.encode s) (Utf8.encode t)

/-- The order by the bytes of the name, and for equal names by the bytes of the value. -/
def BytesOrdered (a b : String × String) : Prop :=
  BytesBefore a.1 b.1 ∨ (a.1 = b.1 ∧ (BytesBefore a.2 b.2 ∨ a.2 = b.2))

/-! ## The pieces -/

theorem normalizeParameters_isEmpty {params : Parameters} :
    (normalizeParameters params).isEmpty = true ↔ sortedParameters params = [] := by
  rw [String.isEmpty_iff, ← String.toList_eq_nil_iff]
  constructor
  · intro hempty
    by_contra hsome
    have hcut := splitOn_normalizeParameters hsome
    obtain ⟨p, ps, hsorted⟩ := List.exists_cons_of_ne_nil hsome
    -- a piece has an equals sign at least, and the empty text has no such piece
    rw [hempty, hsorted, splitOn_nil, List.map_cons] at hcut
    simp [piece] at hcut
  · intro hnone
    rw [toList_normalizeParameters, hnone]
    rfl

theorem pieces_normalizeParameters (params : Parameters) :
    pieces (normalizeParameters params) = (sortedParameters params).map piece := by
  unfold pieces
  by_cases h : sortedParameters params = []
  · rw [if_pos (normalizeParameters_isEmpty.mpr h), h]
    rfl
  · rw [if_neg (mt normalizeParameters_isEmpty.mp h), splitOn_normalizeParameters h]

/-- Cut at the first `=`, each piece gives name and value of one parameter. -/
theorem splitFirst?_pieces (params : Parameters) :
    (pieces (normalizeParameters params)).map (splitFirst? (· == '=')) =
      (sortedParameters params).map fun p => some (p.1.toList, p.2.toList) := by
  rw [pieces_normalizeParameters, List.map_map]
  refine List.map_congr_left fun a ha => ?_
  obtain ⟨q, rfl⟩ := exists_coded_of_mem ha
  rw [Function.comp_apply, splitFirst?_piece]

/-! ## The order -/

/-- The code of a text is in the order of its bytes. -/
theorem bytesBefore_encode_iff (s t : String) :
    BytesBefore (Percent.encode s) (Percent.encode t) ↔ Percent.encode s < Percent.encode t := by
  rw [String.lt_iff]
  exact Utf8.lex_encodeChars_iff (Percent.ascii_encode s) (Percent.ascii_encode t)

theorem bytesOrdered_of_precedes {p q : String × String} (h : precedes (coded p) (coded q) = true) :
    BytesOrdered (coded p) (coded q) := by
  rw [precedes_iff] at h
  rcases h with hname | ⟨hname, hvalue⟩
  · left
    exact (bytesBefore_encode_iff p.1 q.1).mpr hname
  · right
    refine ⟨hname, ?_⟩
    by_cases hlt : (coded p).2 < (coded q).2
    · exact .inl ((bytesBefore_encode_iff p.2 q.2).mpr hlt)
    · exact .inr (String.le_antisymm hvalue (String.not_lt.mp hlt))

/-- A name does not stand behind a longer one that begins with it. -/
theorem eq_of_precedes_of_prefix {a b : String × String} (h : precedes a b = true)
    (hbegin : b.1.toList <+: a.1.toList) : a.1 = b.1 := by
  rw [precedes_iff] at h
  rcases h with hlt | ⟨heq, -⟩
  · exact absurd (String.lt_iff.mp hlt) hbegin.le
  · exact heq

/-! ## Decoding -/

/-- A parameter as it is read from its code. -/
def decoded (p : String × String) : Except Utf8.DecodeError String × Except Utf8.DecodeError String :=
  (Percent.decode? p.1.toList, Percent.decode? p.2.toList)

theorem decoded_coded (p : String × String) : decoded (coded p) = (.ok p.1, .ok p.2) := by
  simp only [decoded, coded, Percent.decode?_encode]

/-- The text of the parameters, cut at every `&` and each piece at its first `=`, gives a pair for each parameter
but the signatures: its code, as often as it is given, in the order of bytes, first of the name and then of the
value. So a name comes before the longer ones that begin with it. Decoded, the pairs are the parameters again. -/
theorem normalizeParameters_normal_form (params : Parameters) :
    ∃ pairs : Parameters,
      (pieces (normalizeParameters params)).map (splitFirst? (· == '=')) =
        pairs.map (fun p => some (p.1.toList, p.2.toList)) ∧
      pairs.Perm ((params.filter fun p => p.1 != "oauth_signature").map fun p =>
        (Percent.encode p.1, Percent.encode p.2)) ∧
      pairs.Pairwise BytesOrdered ∧
      (pairs.Pairwise fun a b => b.1.toList <+: a.1.toList → a.1 = b.1) ∧
      (pairs.map decoded).Perm ((params.filter fun p => p.1 != "oauth_signature").map fun p =>
        (.ok p.1, .ok p.2)) := by
  have hperm : (sortedParameters params).Perm ((covered params).map coded) := sortedParameters_perm params
  have hsorted := pairwise_sortedParameters params
  refine ⟨sortedParameters params, splitFirst?_pieces params, hperm, ?_, ?_, ?_⟩
  · refine hsorted.imp_of_mem fun {a b} ha hb hab => ?_
    obtain ⟨p, rfl⟩ := exists_coded_of_mem ha
    obtain ⟨q, rfl⟩ := exists_coded_of_mem hb
    exact bytesOrdered_of_precedes hab
  · exact hsorted.imp fun hab hbegin => eq_of_precedes_of_prefix hab hbegin
  · have hdecoded : ((covered params).map coded).map decoded = (covered params).map fun p => (.ok p.1, .ok p.2) := by
      rw [List.map_map]
      exact List.map_congr_left fun p _ => decoded_coded p
    rw [← covered, ← hdecoded]
    exact hperm.map decoded

/-- By the texts of the pieces it would be the other way round. -/
example : normalizeParameters [("a-", "1"), ("a", "2")] = "a=2&a-=1" := by cbv

end Signature
end LoginRehearsal
