import IssueQuery.Proofs.Intent.Absence

namespace IssueQuery

def Json.Unstated (v : Json) : Prop :=
  v = .null ∨ v = .text ""

namespace Payload

open Json (member)

def boundNames : List (String × String) :=
  [("from", "after"), ("to", "before")]

/-- No bound is stated, neither by name nor in an object of its own. -/
structure NothingStated (members : OrderedMap Json) : Prop where
  named : ∀ names ∈ boundNames, (member members names.1).Unstated ∧ (member members names.2).Unstated
  between : member members "between" = .null ∨ ∃ inner, member members "between" = .object inner ∧
    (member inner "start").Unstated ∧ (member inner "end").Unstated

def NothingFound (members : OrderedMap Json) : Prop :=
  (bounds members).1.Unstated ∧ (bounds members).2.Unstated

inductive PassesOver (members : OrderedMap Json) : Prop
  /-- An object of bounds stands before the named ones, also if it has none. -/
  | named {inner : OrderedMap Json} : member members "between" = .object inner →
      (∃ names ∈ boundNames, ¬((member members names.1).Unstated ∧ (member members names.2).Unstated)) →
      PassesOver members
  | between : member members "between" ≠ .null → members? (member members "between") = none →
      PassesOver members
  /-- A name that is given without a value stands before the other one. -/
  | other {names : String × String} {v : Json} : names ∈ boundNames →
      members.get? names.1 = some v → v.Unstated → ¬(member members names.2).Unstated →
      PassesOver members

variable {r : Calendar.Reader} {members : OrderedMap Json}

theorem day_eq_none_iff {v : Json} : day r v = .ok none ↔ v.Unstated := by
  cases v with
  | text s =>
    by_cases hs : s = ""
    · simp [day, Json.Unstated, hs]
    · have hne : s.isEmpty = false := by simpa using hs
      have hday : day r (.text s) ≠ .ok none := by
        simp only [day, hne, Bool.false_eq_true, if_false]
        split
        · simp
        · simp
        · split <;> simp
      simp [hday, Json.Unstated, hs]
  | _ => simp [day, Json.Unstated]

theorem windowBetween_eq_none_iff {b : Json × Json} :
    windowBetween r b = .ok none ↔ b.1.Unstated ∧ b.2.Unstated := by
  rw [← day_eq_none_iff (r := r), ← day_eq_none_iff (r := r)]
  constructor
  · intro h
    obtain ⟨start, hstart, h⟩ := Outcome.of_bind h
    obtain ⟨stop, hstop, h⟩ := Outcome.of_bind h
    have hnone := Except.ok.inj h
    cases start <;> cases stop <;> simp_all
  · rintro ⟨hstart, hstop⟩
    rw [windowBetween, hstart, hstop]
    rfl

theorem window_eq_none_iff (h : member members "lastDays" = .null) :
    window r (.object members) = .ok none ↔ NothingFound members := by
  rw [window_object, h]
  exact windowBetween_eq_none_iff

theorem unstated_either_iff {key other : String} :
    (either members key other).Unstated ↔
      ((member members key).Unstated ∧ (member members other).Unstated) ∨
        ∃ v, members.get? key = some v ∧ v.Unstated ∧ ¬(member members other).Unstated := by
  cases hk : members.get? key with
  | none =>
    have hkey : (member members key).Unstated := .inl (by rw [member, hk]; rfl)
    have heither : either members key other = member members other := by
      rw [either, hk]
      rfl
    simp [heither, hkey]
  | some v =>
    have hkey : member members key = v := by
      rw [member, hk]
      rfl
    have heither : either members key other = v := by
      rw [either, hk]
      rfl
    rw [heither, hkey]
    simp only [Option.some.injEq, exists_eq_left']
    rw [← and_or_left]
    exact (and_iff_left (Classical.em _)).symm

theorem nothingFound_of_object {inner : OrderedMap Json} (h : member members "between" = .object inner) :
    NothingFound members ↔ (member inner "start").Unstated ∧ (member inner "end").Unstated := by
  rw [NothingFound, bounds, h]
  rfl

theorem nothingFound_of_none (h : members? (member members "between") = none) :
    NothingFound members ↔ ∀ names ∈ boundNames, (either members names.1 names.2).Unstated := by
  rw [NothingFound, (bounds_of_none h).1]
  simp [boundNames]

theorem object_of_members? {v : Json} {inner : OrderedMap Json} (h : members? v = some inner) :
    v = .object inner := by
  cases v <;> simp_all [members?]

theorem NothingStated.found (h : NothingStated members) : NothingFound members := by
  rcases h.between with hnull | ⟨inner, hobject, hstated⟩
  · rw [nothingFound_of_none (by rw [hnull]; rfl)]
    exact fun names hnames => unstated_either_iff.mpr (.inl (h.named names hnames))
  · exact (nothingFound_of_object hobject).mpr hstated

theorem NothingStated.not_passesOver (h : NothingStated members) : ¬PassesOver members := by
  rintro (⟨hobject, names, hnames, hstated⟩ | ⟨hnull, hnone⟩ | ⟨hnames, hv, hunstated, hstated⟩)
  · exact hstated (h.named names hnames)
  · rcases h.between with hb | ⟨inner, hobject, -⟩
    · exact hnull hb
    · rw [hobject] at hnone
      cases hnone
  · exact hstated (h.named _ hnames).2

theorem NothingFound.stated (h : NothingFound members) (hpasses : ¬PassesOver members) :
    NothingStated members := by
  cases hb : members? (member members "between") with
  | some inner =>
    have hobject := object_of_members? hb
    refine ⟨fun names hnames => ?_, .inr ⟨inner, hobject, (nothingFound_of_object hobject).mp h⟩⟩
    by_contra hstated
    exact hpasses (.named hobject ⟨names, hnames, hstated⟩)
  | none =>
    refine ⟨fun names hnames => ?_, .inl ?_⟩
    · rcases unstated_either_iff.mp ((nothingFound_of_none hb).mp h names hnames) with hboth | ⟨v, hv, hu, ho⟩
      · exact hboth
      · exact absurd (.other hnames hv hu ho) hpasses
    · by_contra hnull
      exact hpasses (.between hnull hb)

theorem window_without_between (h : members? (member members "between") = none) :
    window r (.object (members.filter fun e => e.1 != "between")) = window r (.object members) := by
  have hget (key : String) (hkey : key ≠ "between") :
      OrderedMap.get? (members.filter fun e => e.1 != "between") key = members.get? key := by
    rw [OrderedMap.get?_filter members (· != "between"), if_pos (by simpa using hkey)]
  have hbetween : members? (member (members.filter fun e => e.1 != "between") "between") = none := by
    rw [member, OrderedMap.get?_filter members (· != "between")]
    rfl
  have hmember (key : String) (hkey : key ≠ "between") :
      member (members.filter fun e => e.1 != "between") key = member members key := by
    rw [member, hget key hkey, member]
  have heither (key other : String) (hkey : key ≠ "between") (hother : other ≠ "between") :
      either (members.filter fun e => e.1 != "between") key other = either members key other := by
    rw [either, hget key hkey, hget other hother, either]
  rw [window_object, window_object, hmember _ (by decide), (bounds_of_none h).1, (bounds_of_none hbetween).1,
    heither _ _ (by decide) (by decide), heither _ _ (by decide) (by decide)]

/-- There is no window exactly when nothing is found where bounds are looked up. Then nothing was stated
either, unless it was passed over; in particular nothing under "between" but an object is looked at. -/
theorem window_missing_iff (r : Calendar.Reader) (h : member members "lastDays" = .null) :
    (window r (.object members) = .ok none ↔ NothingFound members) ∧
      (NothingStated members ↔ NothingFound members ∧ ¬PassesOver members) ∧
      (members? (member members "between") = none →
        window r (.object members) = window r (.object (members.filter fun e => e.1 != "between"))) :=
  ⟨window_eq_none_iff h, ⟨fun hs => ⟨hs.found, hs.not_passesOver⟩, fun hf => hf.1.stated hf.2⟩,
    fun hb => (window_without_between hb).symm⟩

def listedBounds : OrderedMap Json :=
  [("between", .list [.text "2024-01-01", .text "2024-01-31"])]

theorem window_missing_iff_listedBounds :
    member listedBounds "lastDays" = .null ∧ window .standard (.object listedBounds) = .ok none ∧
      PassesOver listedBounds ∧ ¬NothingStated listedBounds := by
  have hlast : member listedBounds "lastDays" = .null := rfl
  obtain ⟨hmissing, hstated, -⟩ := window_missing_iff .standard hlast
  have hpasses : PassesOver listedBounds := .between (by simp [listedBounds, member, OrderedMap.get?]) rfl
  exact ⟨hlast, hmissing.mpr ⟨.inl rfl, .inl rfl⟩, hpasses, fun h => (hstated.mp h).2 hpasses⟩

def shadowedBound : OrderedMap Json :=
  [("from", .null), ("after", .text "2024-01-31")]

theorem stated_bounds_dropped :
    window .standard (.object listedBounds) = .ok none ∧ window .standard (.object shadowedBound) = .ok none ∧
      ¬∀ members, member members "lastDays" = .null → window .standard (.object members) = .ok none →
        NothingStated members := by
  refine ⟨rfl, rfl, fun h => ?_⟩
  have hstated := h shadowedBound rfl rfl
  have hafter := (hstated.named ("from", "after") (by simp [boundNames])).2
  simp [Json.Unstated, shadowedBound, member, OrderedMap.get?] at hafter

end Payload

end IssueQuery
