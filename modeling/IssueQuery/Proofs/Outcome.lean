import IssueQuery.Fault
import Mathlib.Data.List.Forall2

namespace IssueQuery.Outcome

variable {α β : Type} {x : Outcome α} {f : α → Outcome β}

theorem of_bind {b : β} (h : x >>= f = .ok b) : ∃ a, x = .ok a ∧ f a = .ok b := by
  cases x with
  | error fault => cases h
  | ok a => exact ⟨a, rfl, h⟩

theorem bind_eq_error_iff {fault : Fault} :
    x >>= f = .error fault ↔ x = .error fault ∨ ∃ a, x = .ok a ∧ f a = .error fault := by
  cases x with
  | error g =>
    constructor
    · intro h
      obtain rfl := Except.error.inj h
      exact .inl rfl
    · rintro (h | ⟨a, h, -⟩)
      · obtain rfl := Except.error.inj h
        rfl
      · cases h
  | ok a =>
    constructor
    · intro h
      exact .inr ⟨a, rfl, h⟩
    · rintro (h | ⟨b, h, hb⟩)
      · cases h
      · obtain rfl := Except.ok.inj h
        exact hb

theorem mapM_eq_ok_iff {g : α → Outcome β} {xs : List α} {ys : List β} :
    xs.mapM g = .ok ys ↔ List.Forall₂ (fun a b => g a = .ok b) xs ys := by
  induction xs generalizing ys with
  | nil =>
    rw [List.forall₂_nil_left_iff, List.mapM_nil]
    constructor
    · intro h
      exact (Except.ok.inj h).symm
    · rintro rfl
      rfl
  | cons a xs ih =>
    rw [List.mapM_cons]
    constructor
    · intro h
      obtain ⟨b, hb, h⟩ := of_bind h
      obtain ⟨bs, hbs, h⟩ := of_bind h
      obtain rfl := Except.ok.inj h
      exact .cons hb (ih.mp hbs)
    · intro h
      cases h with
      | cons hb hbs =>
        rw [hb, ih.mpr hbs]
        rfl

theorem exists_mapM_iff {g : α → Outcome β} {xs : List α} :
    (∃ ys, xs.mapM g = .ok ys) ↔ ∀ x ∈ xs, ∃ y, g x = .ok y := by
  simp only [mapM_eq_ok_iff]
  induction xs with
  | nil => simp
  | cons x xs ih =>
    rw [List.forall_mem_cons, ← ih]
    constructor
    · rintro ⟨_, hy | ⟨hy, hys⟩⟩
      exact ⟨⟨_, hy⟩, _, hys⟩
    · rintro ⟨⟨y, hy⟩, ys, hys⟩
      exact ⟨y :: ys, .cons hy hys⟩

theorem mapM_eq_error_iff {g : α → Outcome β} {xs : List α} {fault : Fault} :
    xs.mapM g = .error fault ↔
      ∃ before x after, xs = before ++ x :: after ∧ (∀ y ∈ before, ∃ b, g y = .ok b) ∧ g x = .error fault := by
  induction xs with
  | nil =>
    constructor
    · intro h
      cases h
    · rintro ⟨before, x, after, h, -⟩
      cases before <;> cases h
  | cons a xs ih =>
    rw [List.mapM_cons, bind_eq_error_iff]
    constructor
    · rintro (h | ⟨b, hb, h⟩)
      · exact ⟨[], a, xs, rfl, by simp, h⟩
      · rcases bind_eq_error_iff.mp h with h | ⟨bs, -, h⟩
        · obtain ⟨before, x, after, rfl, hbefore, hx⟩ := ih.mp h
          exact ⟨a :: before, x, after, rfl, List.forall_mem_cons.mpr ⟨⟨b, hb⟩, hbefore⟩, hx⟩
        · cases h
    · rintro ⟨before, x, after, h, hbefore, hx⟩
      cases before with
      | nil =>
        obtain ⟨rfl, -⟩ := List.cons.inj h
        exact .inl hx
      | cons y before =>
        obtain ⟨rfl, rfl⟩ := List.cons.inj h
        obtain ⟨⟨b, hb⟩, hbefore⟩ := List.forall_mem_cons.mp hbefore
        exact .inr ⟨b, hb, bind_eq_error_iff.mpr (.inl (ih.mpr ⟨before, x, after, rfl, hbefore, hx⟩))⟩

theorem foldlM_map {γ : Type} (f : α → Outcome β) (g : γ → α → β → γ) (xs : List α) (start : γ) :
    xs.foldlM (fun acc x => (f x).map (g acc x)) start =
      (xs.mapM f).map fun ys => (xs.zip ys).foldl (fun acc e => g acc e.1 e.2) start := by
  induction xs generalizing start with
  | nil => rfl
  | cons x xs ih =>
    rw [List.foldlM_cons, List.mapM_cons]
    cases hx : f x with
    | error fault => rfl
    | ok y =>
      refine (ih (g start x y)).trans ?_
      cases hxs : xs.mapM f <;> rfl

/-- Both operations succeed, with the same result. -/
def Agree (x y : Outcome α) : Prop :=
  ∃ a, x = .ok a ∧ y = .ok a

theorem Agree.map {y : Outcome α} (h : Agree x y) (f : α → β) : Agree (x.map f) (y.map f) := by
  obtain ⟨a, rfl, rfl⟩ := h
  exact ⟨f a, rfl, rfl⟩

theorem Agree.mapM {γ : Type} {R : α → β → Prop} {f : α → Outcome γ} {g : β → Outcome γ}
    (hfg : ∀ a b, R a b → Agree (f a) (g b)) {xs : List α} {ys : List β} (h : List.Forall₂ R xs ys) :
    Agree (xs.mapM f) (ys.mapM g) := by
  induction h with
  | nil => exact ⟨[], rfl, rfl⟩
  | cons hab _ ih =>
    obtain ⟨c, hf, hg⟩ := hfg _ _ hab
    obtain ⟨cs, hfs, hgs⟩ := ih
    exact ⟨c :: cs, by rw [List.mapM_cons, hf, hfs]; rfl, by rw [List.mapM_cons, hg, hgs]; rfl⟩

def FailsBy (P : Fault → Prop) (x : Outcome α) : Prop :=
  ∀ fault, x = .error fault → P fault

variable {P Q : Fault → Prop}

theorem FailsBy.ok (a : α) : FailsBy P (.ok a : Outcome α) := by
  intro fault h
  cases h

theorem FailsBy.error {fault : Fault} (h : P fault) : FailsBy P (.error fault : Outcome α) := by
  intro f hf
  obtain rfl := Except.error.inj hf
  exact h

theorem FailsBy.imp (h : ∀ fault, P fault → Q fault) (hx : FailsBy P x) : FailsBy Q x :=
  fun fault hf => h fault (hx fault hf)

theorem FailsBy.bind (hx : FailsBy P x) (hf : ∀ a, FailsBy P (f a)) : FailsBy P (x >>= f) := by
  intro fault h
  rcases bind_eq_error_iff.mp h with h | ⟨a, -, h⟩
  · exact hx fault h
  · exact hf a fault h

theorem FailsBy.map (g : α → β) (hx : FailsBy P x) : FailsBy P (x.map g) := by
  cases x with
  | error fault => exact .error (hx fault rfl)
  | ok a => exact .ok (g a)

theorem FailsBy.mapM {g : α → Outcome β} (hg : ∀ a, FailsBy P (g a)) (xs : List α) : FailsBy P (xs.mapM g) := by
  induction xs with
  | nil => exact .ok []
  | cons a xs ih =>
    rw [List.mapM_cons]
    exact (hg a).bind fun b => ih.bind fun bs => .ok (b :: bs)

end IssueQuery.Outcome
