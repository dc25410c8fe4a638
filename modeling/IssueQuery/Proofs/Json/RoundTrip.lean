import IssueQuery.Proofs.Json.Scalars

namespace IssueQuery.Json

inductive Plain : Json → Prop
  | null : Plain .null
  | bool (b : Bool) : Plain (.bool b)
  | int (n : Int) : Plain (.int n)
  | text (s : String) : Plain (.text s)
  | list {items : List Json} : (∀ v ∈ items, Plain v) → Plain (.list items)
  | object {members : OrderedMap Json} : members.keys.Nodup → (∀ e ∈ members, Plain e.2) →
      Plain (.object members)

namespace Limits

instance : LE Limits :=
  ⟨fun a b => a.depth ≤ b.depth ∧ a.digits ≤ b.digits⟩

instance (a b : Limits) : Decidable (a ≤ b) :=
  inferInstanceAs (Decidable (a.depth ≤ b.depth ∧ a.digits ≤ b.digits))

def join (a b : Limits) : Limits :=
  ⟨max a.depth b.depth, max a.digits b.digits⟩

theorem join_le {a b c : Limits} : a.join b ≤ c ↔ a ≤ c ∧ b ≤ c := by
  change max _ _ ≤ _ ∧ max _ _ ≤ _ ↔ (_ ∧ _) ∧ (_ ∧ _)
  omega

end Limits

mutual

/-- How deep a value is, and how many digits the longest integer in it has. -/
def needs : Json → Limits
  | .int n => ⟨0, (toString n.natAbs).toList.length⟩
  | .list items => ⟨(needsItems items).depth + 1, (needsItems items).digits⟩
  | .object members => ⟨(needsMembers members).depth + 1, (needsMembers members).digits⟩
  | _ => ⟨0, 0⟩

def needsItems : List Json → Limits
  | [] => ⟨0, 0⟩
  | v :: vs => (needs v).join (needsItems vs)

def needsMembers : List (String × Json) → Limits
  | [] => ⟨0, 0⟩
  | (_, v) :: rest => (needs v).join (needsMembers rest)

end

section Needs

variable {v : Json} {vs : List Json} {members : List (String × Json)} {limits : Limits}

theorem needs_of_mem_items (h : needsItems vs ≤ limits) : ∀ v ∈ vs, needs v ≤ limits := by
  induction vs with
  | nil => simp
  | cons v vs ih =>
    rw [needsItems, Limits.join_le] at h
    exact List.forall_mem_cons.mpr ⟨h.1, ih h.2⟩

theorem needs_of_mem_members (h : needsMembers members ≤ limits) : ∀ e ∈ members, needs e.2 ≤ limits := by
  induction members with
  | nil => simp
  | cons e members ih =>
    rw [needsMembers, Limits.join_le] at h
    exact List.forall_mem_cons.mpr ⟨h.1, ih h.2⟩

end Needs

section Layout

variable {v : Json}

def isOuter (c : Char) : Bool :=
  isSpace c || c == ']' || c == '}' || c == '\ufeff'

theorem isOuter_of_isAsciiDigit {c : Char} (hc : Text.isAsciiDigit c = true) : isOuter c = false := by
  have hne (d : Char) (hd : Text.isAsciiDigit d = false) : (c == d) = false :=
    beq_eq_false_iff_ne.mpr (ne_of_isAsciiDigit hc hd)
  simp only [isOuter, isSpace, hne ' ' rfl, hne '\t' rfl, hne '\n' rfl, hne '\r' rfl, hne ']' rfl, hne '}' rfl,
    hne '\ufeff' rfl, Bool.or_self]

theorem toList_quote (s : String) (rest : List Char) :
    (quote s).toList ++ rest = '"' :: (s.toList.flatMap escapedChar ++ '"' :: rest) := by
  simp [quote]

theorem head?_toString (n : Int) :
    ∃ c, (toString n).toList.head? = some c ∧ (c = '-' ∨ Text.isAsciiDigit c = true) := by
  cases n with
  | ofNat n =>
    obtain ⟨c, cs, hcs⟩ := List.exists_cons_of_ne_nil (Number.toString_ne_nil n)
    exact ⟨c, congrArg List.head? hcs, .inr (isAsciiDigit_of_mem_toString (hcs ▸ List.mem_cons_self))⟩
  | negSucc n => exact ⟨'-', congrArg List.head? (Number.toList_toString_negSucc n), .inl rfl⟩

theorem head?_pretty (hv : Plain v) (level : Nat) :
    ∃ c, (pretty level v).toList.head? = some c ∧ isOuter c = false := by
  cases hv with
  | null => exact ⟨'n', by simp [pretty, scalar], rfl⟩
  | bool b =>
    cases b
    · exact ⟨'f', by simp [pretty, scalar], rfl⟩
    · exact ⟨'t', by simp [pretty, scalar], rfl⟩
  | int n =>
    obtain ⟨c, hhead, rfl | hc⟩ := head?_toString n
    · exact ⟨'-', hhead, rfl⟩
    · exact ⟨c, hhead, isOuter_of_isAsciiDigit hc⟩
  | text s => exact ⟨'"', by simp [pretty, scalar, quote], rfl⟩
  | @list items _ => exact ⟨'[', by cases items <;> simp [pretty, scalar], rfl⟩
  | @object members _ _ => exact ⟨'{', by cases members <;> simp [pretty, scalar], rfl⟩

theorem skipSpace_pretty (hv : Plain v) (level : Nat) (rest : List Char) :
    skipSpace ((pretty level v).toList ++ rest) = (pretty level v).toList ++ rest := by
  obtain ⟨c, hc, houter⟩ := head?_pretty hv level
  obtain ⟨cs, hcs⟩ := List.head?_eq_some_iff.mp hc
  simp only [isOuter, Bool.or_eq_false_iff] at houter
  rw [hcs]
  simp [skipSpace, houter.1.1.1]

theorem toList_breakLine (level : Nat) (cs : List Char) :
    (breakLine level).toList ++ cs = '\n' :: (List.replicate (2 * level) ' ' ++ cs) := by
  simp [breakLine]

theorem skipSpace_breakLine (level : Nat) (cs : List Char) :
    skipSpace ((breakLine level).toList ++ cs) = skipSpace cs := by
  rw [toList_breakLine]
  exact Text.dropWhile_replicate_append _ rfl cs

theorem ends_breakLine (level : Nat) (cs : List Char) : Ends ((breakLine level).toList ++ cs) := by
  rw [toList_breakLine]
  rintro c hc
  exact .inr (Option.some.inj hc).symm

theorem ends_comma (cs : List Char) : Ends (',' :: cs) := by
  rintro c hc
  exact .inl (Option.some.inj hc).symm

end Layout

/-- However the value is indented and whatever follows it, it is read back from its text. -/
def ReadsBack (digits depth : Nat) (v : Json) : Prop :=
  ∀ level fuel rest, (pretty level v).toList.length ≤ fuel → Ends rest →
    readValue digits depth fuel ((pretty level v).toList ++ rest) = .ok (v, rest)

section Parts

variable {digits depth : Nat}

theorem toList_prettyItems_cons (level : Nat) (v : Json) (vs : List Json) (rest : List Char) :
    (prettyItems level (v :: vs)).toList ++ rest = ',' :: ((breakLine level).toList ++
      ((pretty level v).toList ++ ((prettyItems level vs).toList ++ rest))) := by
  simp [prettyItems]

theorem readItems_pretty {v : Json} {vs : List Json} (hp : ∀ w ∈ v :: vs, Plain w)
    (hr : ∀ w ∈ v :: vs, ReadsBack digits depth w) (level outer fuel : Nat) (rest : List Char)
    (hf : (pretty level v).toList.length + (prettyItems level vs).toList.length < fuel) :
    readItems digits depth fuel ((pretty level v).toList ++ ((prettyItems level vs).toList ++
      ((breakLine outer).toList ++ ']' :: rest))) = .ok (v :: vs, rest) := by
  -- On the further items; each takes one unit of the fuel and at least one character of the text, the comma.
  obtain ⟨f, rfl⟩ : ∃ f, fuel = f + 1 := ⟨fuel - 1, by omega⟩
  induction vs generalizing v f with
  | nil =>
    have hv := hr v List.mem_cons_self level f _ (by omega) (ends_breakLine outer (']' :: rest))
    rw [prettyItems, String.toList_empty, List.nil_append, readItems, hv]
    simp only [skipSpace_breakLine]
    rfl
  | cons w ws ih =>
    rw [List.forall_mem_cons] at hp hr
    have hlength := congrArg List.length (toList_prettyItems_cons level w ws [])
    simp only [List.length_append, List.length_cons, List.length_nil] at hlength
    obtain ⟨g, rfl⟩ : ∃ g, f = g + 1 := ⟨f - 1, by omega⟩
    rw [toList_prettyItems_cons, readItems, hr.1 level (g + 1) _ (by omega) (ends_comma _)]
    change (readItems digits depth (g + 1) (skipSpace _)).map _ = _
    rw [skipSpace_breakLine, skipSpace_pretty (hp.2 w List.mem_cons_self), ih hp.2 hr.2 g (by omega)]
    rfl

theorem toList_prettyMembers_cons (level : Nat) (k : String) (v : Json) (members : List (String × Json))
    (rest : List Char) :
    (prettyMembers level ((k, v) :: members)).toList ++ rest = ',' :: ((breakLine level).toList ++
      ((quote k).toList ++ (':' :: ' ' :: ((pretty level v).toList ++
        ((prettyMembers level members).toList ++ rest))))) := by
  simp [prettyMembers]

def readAfter (digits depth fuel : Nat) (acc : OrderedMap Json) : List Char → Step (OrderedMap Json)
  | '}' :: r => .ok (acc, r)
  | ',' :: r => readMembers digits depth fuel (skipSpace r) acc
  | r => .error (.problem .comma r.length)

theorem readMembers_entry {v : Json} (hp : Plain v) (hr : ReadsBack digits depth v) (k : String) (level fuel : Nat)
    (hf : (pretty level v).toList.length ≤ fuel) {tail : List Char} (ht : Ends tail) (acc : OrderedMap Json) :
    readMembers digits depth (fuel + 1) ((quote k).toList ++ (':' :: ' ' :: ((pretty level v).toList ++ tail))) acc =
      readAfter digits depth fuel (acc.put k v) (skipSpace tail) := by
  have hv := hr level fuel tail hf ht
  have hcolon (cs : List Char) : skipSpace (':' :: cs) = ':' :: cs := rfl
  have hgap : skipSpace (' ' :: ((pretty level v).toList ++ tail)) = (pretty level v).toList ++ tail :=
    skipSpace_pretty hp level tail
  rw [toList_quote, readMembers, readText_quoted]
  simp only [hcolon, hgap, hv]
  rfl

theorem put_of_nodup {k : String} {v : Json} {members acc : OrderedMap Json}
    (hk : (OrderedMap.keys (acc ++ (k, v) :: members)).Nodup) : acc.put k v = acc ++ [(k, v)] := by
  apply OrderedMap.put_of_not_mem
  intro hmem
  rw [OrderedMap.keys, List.map_append, List.nodup_append] at hk
  exact hk.2.2 k hmem k List.mem_cons_self rfl

theorem readMembers_pretty {k : String} {v : Json} {members acc : OrderedMap Json}
    (hk : (OrderedMap.keys (acc ++ (k, v) :: members)).Nodup) (hp : ∀ e ∈ (k, v) :: members, Plain e.2)
    (hr : ∀ e ∈ (k, v) :: members, ReadsBack digits depth e.2) (level outer fuel : Nat) (rest : List Char)
    (hf : (pretty level v).toList.length + (prettyMembers level members).toList.length < fuel) :
    readMembers digits depth fuel ((quote k).toList ++ (':' :: ' ' :: ((pretty level v).toList ++
      ((prettyMembers level members).toList ++ ((breakLine outer).toList ++ '}' :: rest))))) acc =
      .ok (acc ++ (k, v) :: members, rest) := by
  -- On the further members, with any members read before: under a new name a member goes to the end of them.
  obtain ⟨f, rfl⟩ : ∃ f, fuel = f + 1 := ⟨fuel - 1, by omega⟩
  induction members generalizing k v acc f with
  | nil =>
    have hv : Plain v := hp _ List.mem_cons_self
    have hback : ReadsBack digits depth v := hr _ List.mem_cons_self
    rw [prettyMembers, String.toList_empty, List.nil_append,
      readMembers_entry hv hback k level f (by omega) (ends_breakLine outer _) acc, skipSpace_breakLine,
      put_of_nodup hk]
    rfl
  | cons e members ih =>
    obtain ⟨l, w⟩ := e
    obtain ⟨hv, hp⟩ : Plain v ∧ ∀ e ∈ (l, w) :: members, Plain e.2 := List.forall_mem_cons.mp hp
    obtain ⟨hback, hr⟩ : ReadsBack digits depth v ∧ ∀ e ∈ (l, w) :: members, ReadsBack digits depth e.2 :=
      List.forall_mem_cons.mp hr
    have hlength := congrArg List.length (toList_prettyMembers_cons level l w members [])
    simp only [List.length_append, List.length_cons, List.length_nil] at hlength
    obtain ⟨g, rfl⟩ : ∃ g, f = g + 1 := ⟨f - 1, by omega⟩
    have hkeys : (OrderedMap.keys ((acc ++ [(k, v)]) ++ (l, w) :: members)).Nodup := by simpa using hk
    rw [toList_prettyMembers_cons, readMembers_entry hv hback k level (g + 1) (by omega) (ends_comma _) acc,
      put_of_nodup hk]
    change readMembers digits depth (g + 1) (skipSpace _) _ = _
    rw [skipSpace_breakLine, toList_quote]
    change readMembers digits depth (g + 1) ('"' :: _) _ = _
    rw [← toList_quote, ih hkeys hp hr g (by omega), List.append_assoc]
    rfl

end Parts

section Values

variable {digits depth fuel : Nat} {c : Char}

theorem readValue_scalar (hq : c ≠ '"') (hl : c ≠ '[') (ho : c ≠ '{') (cs : List Char) :
    readValue digits depth (fuel + 1) (c :: cs) = readScalar digits (c :: cs) := by
  rw [readValue]
  all_goals simp [hq, hl, ho]

theorem readValue_items {cs rest : List Char} (hrest : skipSpace rest = c :: cs) (hc : c ≠ ']') :
    readValue digits (depth + 1) (fuel + 1) ('[' :: rest) =
      (readItems digits depth fuel (c :: cs)).map fun (items, r) => (.list items, r) := by
  rw [readValue, hrest]
  split
  · rename_i h
    exact absurd (List.cons.inj h).1 hc
  · rfl

theorem readValue_members {cs rest : List Char} (hrest : skipSpace rest = '"' :: cs) :
    readValue digits (depth + 1) (fuel + 1) ('{' :: rest) =
      (readMembers digits depth fuel ('"' :: cs) []).map fun (members, r) => (.object members, r) := by
  rw [readValue, hrest]
  rfl

theorem readsBack_of_plain {v : Json} (hv : Plain v)
    (hr : ∀ level fuel rest, (pretty level v).toList.length ≤ fuel + 1 → Ends rest →
      readValue digits depth (fuel + 1) ((pretty level v).toList ++ rest) = .ok (v, rest)) :
    ReadsBack digits depth v := by
  -- No value has an empty text, so that there is fuel to begin with.
  intro level fuel rest hf hrest
  obtain ⟨c, hc, -⟩ := head?_pretty hv level
  obtain ⟨cs, hcs⟩ := List.head?_eq_some_iff.mp hc
  have hpos : 0 < (pretty level v).toList.length := by
    rw [hcs]
    exact Nat.succ_pos _
  obtain ⟨f, rfl⟩ : ∃ f, fuel = f + 1 := ⟨fuel - 1, by omega⟩
  exact hr level f rest hf hrest

theorem readsBack_of_scalar {v : Json} (hv : Plain v)
    (hhead : ∀ level, ∃ c, (pretty level v).toList.head? = some c ∧ c ≠ '"' ∧ c ≠ '[' ∧ c ≠ '{')
    (hr : ∀ level rest, Ends rest → readScalar digits ((pretty level v).toList ++ rest) = .ok (v, rest)) :
    ReadsBack digits depth v := by
  apply readsBack_of_plain hv
  intro level fuel rest _ hrest
  have hscalar := hr level rest hrest
  obtain ⟨c, hc, hq, hl, ho⟩ := hhead level
  obtain ⟨cs, hcs⟩ := List.head?_eq_some_iff.mp hc
  rw [hcs, List.cons_append] at hscalar ⊢
  rw [readValue_scalar hq hl ho]
  exact hscalar

theorem readsBack_null : ReadsBack digits depth .null := by
  apply readsBack_of_scalar .null
  · exact fun level => ⟨'n', by simp [pretty, scalar], by decide⟩
  · exact fun level rest _ => readScalar_null rest

theorem readsBack_bool (b : Bool) : ReadsBack digits depth (.bool b) := by
  apply readsBack_of_scalar (.bool b)
  · intro level
    cases b
    · exact ⟨'f', by simp [pretty, scalar], by decide⟩
    · exact ⟨'t', by simp [pretty, scalar], by decide⟩
  · exact fun level rest _ => readScalar_bool b rest

theorem readsBack_int {n : Int} (hd : (toString n.natAbs).toList.length ≤ digits) :
    ReadsBack digits depth (.int n) := by
  apply readsBack_of_scalar (.int n)
  · intro level
    obtain ⟨c, hhead, rfl | hc⟩ := head?_toString n
    · exact ⟨'-', hhead, by decide⟩
    · exact ⟨c, hhead, ne_of_isAsciiDigit hc rfl, ne_of_isAsciiDigit hc rfl, ne_of_isAsciiDigit hc rfl⟩
  · exact fun level rest hrest => readScalar_toString n hd hrest

theorem readsBack_text (s : String) : ReadsBack digits depth (.text s) := by
  apply readsBack_of_plain (.text s)
  intro level fuel rest _ _
  have htext : (pretty level (.text s)).toList ++ rest = '"' :: (s.toList.flatMap escapedChar ++ '"' :: rest) :=
    toList_quote s rest
  rw [htext, readValue, readText_quoted]
  rfl

theorem readsBack_list {items : List Json} (hp : ∀ v ∈ items, Plain v)
    (hr : ∀ v ∈ items, ReadsBack digits depth v) : ReadsBack digits (depth + 1) (.list items) := by
  apply readsBack_of_plain (.list hp)
  intro level fuel rest hf _
  cases items with
  | nil =>
    have htext : (pretty level (.list [])).toList ++ rest = '[' :: ']' :: rest := by
      simp [pretty, scalar]
    rw [htext, readValue]
    rfl
  | cons v vs =>
    have htext : (pretty level (.list (v :: vs))).toList ++ rest = '[' :: ((breakLine (level + 1)).toList ++
        ((pretty (level + 1) v).toList ++ ((prettyItems (level + 1) vs).toList ++
          ((breakLine level).toList ++ ']' :: rest)))) := by
      simp [pretty]
    have hlength := congrArg List.length htext
    simp only [List.length_append, List.length_cons] at hlength
    have hitems := readItems_pretty hp hr (level + 1) level fuel rest (by omega)
    have hv : Plain v := hp v List.mem_cons_self
    have hskip := (skipSpace_breakLine (level + 1) _).trans (skipSpace_pretty hv (level + 1)
      ((prettyItems (level + 1) vs).toList ++ ((breakLine level).toList ++ ']' :: rest)))
    obtain ⟨c, hhead, houter⟩ := head?_pretty hv (level + 1)
    obtain ⟨cs, hcs⟩ := List.head?_eq_some_iff.mp hhead
    -- The first item does not look like the end of the list.
    have hc : c ≠ ']' := by
      rintro rfl
      cases houter
    rw [hcs, List.cons_append] at hskip hitems
    rw [htext, hcs, List.cons_append, readValue_items hskip hc, hitems]
    rfl

theorem readsBack_object {members : OrderedMap Json} (hk : members.keys.Nodup) (hp : ∀ e ∈ members, Plain e.2)
    (hr : ∀ e ∈ members, ReadsBack digits depth e.2) : ReadsBack digits (depth + 1) (.object members) := by
  apply readsBack_of_plain (.object hk hp)
  intro level fuel rest hf _
  cases members with
  | nil =>
    have htext : (pretty level (.object [])).toList ++ rest = '{' :: '}' :: rest := by
      simp [pretty, scalar]
    rw [htext, readValue]
    rfl
  | cons e members =>
    obtain ⟨k, v⟩ := e
    have htext : (pretty level (.object ((k, v) :: members))).toList ++ rest = '{' ::
        ((breakLine (level + 1)).toList ++ ((quote k).toList ++ (':' :: ' ' :: ((pretty (level + 1) v).toList ++
          ((prettyMembers (level + 1) members).toList ++ ((breakLine level).toList ++ '}' :: rest)))))) := by
      simp [pretty]
    have hlength := congrArg List.length htext
    simp only [List.length_append, List.length_cons] at hlength
    have hkeys : (OrderedMap.keys ([] ++ (k, v) :: members)).Nodup := hk
    have hmembers := readMembers_pretty hkeys hp hr (level + 1) level fuel rest (by omega)
    rw [toList_quote] at htext hmembers
    rw [htext, readValue_members (skipSpace_breakLine (level + 1) _), hmembers]
    rfl

end Values

theorem readsBack {v : Json} (hp : Plain v) {digits depth : Nat} (hn : needs v ≤ ⟨depth, digits⟩) :
    ReadsBack digits depth v := by
  induction hp generalizing depth with
  | null => exact readsBack_null
  | bool b => exact readsBack_bool b
  | int n => exact readsBack_int hn.2
  | text s => exact readsBack_text s
  | @list items hitems ih =>
    obtain ⟨hdepth, hdigits⟩ : (needsItems items).depth + 1 ≤ depth ∧ (needsItems items).digits ≤ digits := hn
    obtain ⟨inner, rfl⟩ : ∃ inner, depth = inner + 1 := ⟨depth - 1, by omega⟩
    have hinner : needsItems items ≤ ⟨inner, digits⟩ := ⟨Nat.le_of_succ_le_succ hdepth, hdigits⟩
    exact readsBack_list hitems fun v hv => ih v hv (needs_of_mem_items hinner v hv)
  | @object members hkeys hmembers ih =>
    obtain ⟨hdepth, hdigits⟩ : (needsMembers members).depth + 1 ≤ depth ∧ (needsMembers members).digits ≤ digits := hn
    obtain ⟨inner, rfl⟩ : ∃ inner, depth = inner + 1 := ⟨depth - 1, by omega⟩
    have hinner : needsMembers members ≤ ⟨inner, digits⟩ := ⟨Nat.le_of_succ_le_succ hdepth, hdigits⟩
    exact readsBack_object hkeys hmembers fun e he => ih e he (needs_of_mem_members hinner e he)

theorem readWithin_pretty {v : Json} {limits : Limits} (hp : Plain v) (hn : needs v ≤ limits) :
    readWithin limits (pretty 0 v) = .ok v := by
  have hv := readsBack hp hn 0 (2 * (pretty 0 v).toList.length + 2) [] (by omega) (fun _ h => by cases h)
  have hskip := skipSpace_pretty hp 0 []
  rw [List.append_nil] at hv hskip
  obtain ⟨c, hhead, houter⟩ := head?_pretty hp 0
  have hall : readAll limits (pretty 0 v).toList = .ok v := by
    unfold readAll
    split
    · rename_i hmark
      rw [hmark] at hhead
      obtain rfl := Option.some.inj hhead
      cases houter
    · rw [hskip, hv]
      rfl
  rw [readWithin, hall]
  rfl

end IssueQuery.Json
