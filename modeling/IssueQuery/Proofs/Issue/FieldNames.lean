import IssueQuery.Issue.Field
import IssueQuery.Proofs.Text.Words

namespace IssueQuery

namespace Text

theorem asciiLower_of_isBlank {c : Char} (h : isBlank c = true) : asciiLower c = c := by
  have hmem := mem_blanks_of_isBlank h
  have hno : ¬(0x41 ≤ c.toNat ∧ c.toNat ≤ 0x5a) := by
    simp only [blanks, List.mem_cons, List.not_mem_nil, or_false] at hmem
    omega
  simp [asciiLower, hno]

theorem stripEnd_append {p : Char → Bool} {after : List Char} (h : ∀ c ∈ after, p c = true) (cs : List Char) :
    stripEnd p (cs ++ after) = stripEnd p cs := by
  have hreverse : ∀ c ∈ after.reverse, p c = true := fun c hc => h c (List.mem_reverse.mp hc)
  rw [stripEnd, List.reverse_append, List.dropWhile_append_of_pos hreverse, stripEnd]

theorem stripChars_padded {before cs after : List Char} (hbefore : ∀ c ∈ before, isBlank c = true)
    (hafter : ∀ c ∈ after, isBlank c = true) (hne : cs ≠ []) (hcs : ∀ c ∈ cs, isBlank c = false) :
    stripChars (before ++ cs ++ after) = cs := by
  have hhead : ∀ c ∈ (cs ++ after).head?, isBlank c = false := by
    intro c hc
    obtain ⟨d, rest, rfl⟩ := List.exists_cons_of_ne_nil hne
    obtain rfl : d = c := Option.some.inj hc
    exact hcs d List.mem_cons_self
  rw [stripChars, List.append_assoc, List.dropWhile_append_of_pos hbefore, dropWhile_of_head? hhead,
    stripEnd_append hafter, stripEnd_of_forall hcs]

theorem fold_of_ascii {cs : List Char} (h : ∀ c ∈ cs, c.toNat < 0x80) :
    fold (String.ofList cs) = String.ofList (cs.map asciiLower) := by
  rw [fold, String.toList_ofList]
  congr 1
  induction cs with
  | nil => rfl
  | cons c cs ih =>
    rw [List.forall_mem_cons] at h
    rw [List.flatMap_cons, ih h.2, foldChar, if_pos h.1]
    rfl

end Text

namespace Field

open Text

def Spells (name path : String) : Prop :=
  ∃ before cs after, path = String.ofList (before ++ cs ++ after) ∧ (∀ c ∈ before ++ after, isBlank c = true) ∧
    (∀ c ∈ cs, c.toNat < 0x80) ∧ cs.map asciiLower = name.toList

theorem normalize_of_spells {name path : String} (hne : name ≠ "") (hname : ∀ c ∈ name.toList, isBlank c = false)
    (h : Spells name path) : normalize path = name := by
  obtain ⟨before, cs, after, rfl, hblank, hascii, hlower⟩ := h
  rw [List.forall_mem_append] at hblank
  have hcs : ∀ c ∈ cs, isBlank c = false := by
    intro c hc
    refine Bool.eq_false_iff.mpr fun hb => ?_
    have hmem : asciiLower c ∈ name.toList := hlower ▸ List.mem_map_of_mem hc
    rw [asciiLower_of_isBlank hb] at hmem
    exact Bool.eq_false_iff.mp (hname c hmem) hb
  have hnil : cs ≠ [] := by
    rintro rfl
    exact hne (String.toList_eq_nil_iff.mp hlower.symm)
  rw [normalize, strip, String.toList_ofList, stripChars_padded hblank.1 hblank.2 hnil hcs, fold_of_ascii hascii,
    hlower, String.ofList_toList]

end Field

end IssueQuery
