import IssueQuery.Proofs.Tracker.Guarded

namespace IssueQuery.Condition

open Text

def signed? (names : List String) (sign : String) (make : String → String → Condition) (cs : List Char) :
    Option (Condition × List Char) := do
  let (name, rest) ← anyKeyword? names cs
  let (value, rest) ← quotedAfter? sign rest
  return (make name value, rest)

theorem signed?_guarded {names : List String} {sign : String} (make : String → String → Condition) {s : Char}
    {ss : List Char} (hq : ∀ name ∈ names, '"' ∉ name.toList)
    (hd : ∀ name ∈ names, name.toList.head?.any (!·.isDigit) = true) (hs : sign.toList = s :: ss)
    (hp : isPlain s = false) (hne : s ≠ '"') (ha : ∀ u, anyKeyword? names ("AND ".toList ++ u) = none) :
    Guarded (signed? names sign make) where
  value v hv t ht u := by
    rcases anyKeyword?_value (hv.plain.suffix ht) hq u with h | ⟨name, t', ht', h⟩
    · simp only [signed?, h, Option.bind_eq_bind, Option.bind_none]
    · simp only [signed?, h, quotedAfter?_value ht' hs hp hne, Option.bind_eq_bind, Option.bind_some,
        Option.bind_none]
  digit c hc u := by
    rw [signed?, anyKeyword?_digit hc hd]
    rfl
  conjunction u := by
    rw [signed?, ha]
    rfl

theorem signed?_found {names : List String} {name sign : String} {make : String → String → Condition}
    {v u : List Char} (hv : '"' ∉ v) (hs : ∀ x, dropSign? sign (' ' :: (sign.toList ++ x)) = some x)
    (hn : ∀ x, anyKeyword? names (name.toList ++ ' ' :: x) = some (name, ' ' :: x)) :
    signed? names sign make (name.toList ++ ' ' :: (sign.toList ++ " \"".toList ++ (v ++ '"' :: u))) =
      some (make name (String.ofList v), u) := by
  have hb (x : List Char) : dropPrefix? ['"'] (skipBlanks (" \"".toList ++ x)) = some x := rfl
  simp only [signed?, hn, quotedAfter?, List.append_assoc, hs, hb, upTo?_append hv, Option.bind_eq_bind,
    Option.bind_some]
  rfl

theorem signed?_word (word sign : String) (make : String → Condition) (cs : List Char) :
    signed? [word] sign (fun _ => make) cs = (do
      let (value, rest) ← quotedAfter? sign (← dropKeyword? word.toList cs)
      return (make value, rest)) := by
  cases h : dropKeyword? word.toList cs <;> simp [signed?, anyKeyword?, h]

theorem assignment?_eq : assignment? = signed? ["assignee"] "=" fun _ => assignedTo :=
  funext fun cs => (signed?_word "assignee" "=" assignedTo cs).symm

theorem equation?_eq : equation? = signed? MatchField.names "=" fun name => equals (.ofName name) := rfl

theorem mention?_eq : mention? = signed? ["text"] "~" fun _ => mentions :=
  funext fun cs => (signed?_word "text" "~" mentions cs).symm

def assignmentOf : Comparison → Option Condition
  | .assignedTo name => some (assignedTo name)
  | _ => none

theorem assignment?_guarded : Guarded assignment? := by
  rw [assignment?_eq]
  exact signed?_guarded _ (by decide) (by decide) (s := '=') rfl (by decide) (by decide) fun _ => rfl

theorem assignment?_reads : Reads (wordMatches assignment? false 0) Comparison.Plain
    fun c found => (assignmentOf c).toList ++ found := by
  apply assignment?_guarded.reads assignmentOf
  · intro c a hf hc u
    cases c with
    | assignedTo name =>
      obtain rfl : assignedTo name = a := by simpa [assignmentOf] using hf
      have ht : (Comparison.assignedTo name).text.toList ++ u = "assignee".toList ++ ' ' ::
          ("=".toList ++ " \"".toList ++ (name.toList ++ '"' :: u)) := by simp [Comparison.text, Clause.quote]
      have hn (x : List Char) :
          anyKeyword? ["assignee"] ("assignee".toList ++ ' ' :: x) = some ("assignee", ' ' :: x) :=
        anyKeyword?_name (by simp) rfl (by simp)
      rw [ht, assignment?_eq, signed?_found hc.not_quote (fun _ => rfl) hn, String.ofList_toList]
    | _ => simp [assignmentOf] at hf
  · intro c hf u hs
    cases c with
    | assignedTo name => simp [assignmentOf] at hf
    | unassigned => exact wordMatches_of_stops (hs rfl) true
    | mine | mentions => simp only [Comparison.start]; rfl
    | equals f | oneOf f => cases f <;> simp only [Comparison.start, MatchField.name] <;> rfl
    | lastDays f | notBefore f | notAfter f =>
      cases f <;> simp only [Comparison.start, TimeField.name] <;> rfl

def equationOf : Comparison → Option Condition
  | .equals f v => some (equals f v)
  | _ => none

theorem names_noQuote : ∀ name ∈ MatchField.names, '"' ∉ name.toList := by
  decide

theorem names_letters : ∀ name ∈ MatchField.names, name.toList.head?.any (!·.isDigit) = true := by
  decide

theorem equation?_guarded : Guarded equation? := by
  rw [equation?_eq]
  exact signed?_guarded _ names_noQuote names_letters (s := '=') rfl (by decide) (by decide) fun _ => rfl

theorem equation?_reads : Reads (wordMatches equation? false 0) Comparison.Plain
    fun c found => (equationOf c).toList ++ found := by
  apply equation?_guarded.reads equationOf
  · intro c a hf hc u
    cases c with
    | equals f v =>
      obtain rfl : equals f v = a := by simpa [equationOf] using hf
      have ht : (Comparison.equals f v).text.toList ++ u = f.name.toList ++ ' ' ::
          ("=".toList ++ " \"".toList ++ (v.toList ++ '"' :: u)) := by simp [Comparison.text, Clause.quote]
      rw [ht, equation?_eq, signed?_found hc.not_quote (fun _ => rfl) (anyKeyword?_matchField f), ofName_name,
        String.ofList_toList]
    | _ => simp [equationOf] at hf
  · intro c hf u hs
    cases c with
    | equals f v => simp [equationOf] at hf
    | unassigned => exact wordMatches_of_stops (hs rfl) true
    | mine | assignedTo | mentions => simp only [Comparison.start]; rfl
    | oneOf f => cases f <;> simp only [Comparison.start, MatchField.name] <;> rfl
    | lastDays f | notBefore f | notAfter f =>
      cases f <;> simp only [Comparison.start, TimeField.name] <;> rfl

def mentionOf : Comparison → Option Condition
  | .mentions s => some (mentions s)
  | _ => none

theorem mention?_guarded : Guarded mention? := by
  rw [mention?_eq]
  exact signed?_guarded _ (by decide) (by decide) (s := '~') rfl (by decide) (by decide) fun _ => rfl

theorem mention?_reads : Reads (wordMatches mention? false 0) Comparison.Plain
    fun c found => (mentionOf c).toList ++ found := by
  apply mention?_guarded.reads mentionOf
  · intro c a hf hc u
    cases c with
    | mentions s =>
      obtain rfl : mentions s = a := by simpa [mentionOf] using hf
      have ht : (Comparison.mentions s).text.toList ++ u = "text".toList ++ ' ' ::
          ("~".toList ++ " \"".toList ++ (s.toList ++ '"' :: u)) := by simp [Comparison.text, Clause.quote]
      have hn (x : List Char) : anyKeyword? ["text"] ("text".toList ++ ' ' :: x) = some ("text", ' ' :: x) :=
        anyKeyword?_name (by simp) rfl (by simp)
      rw [ht, mention?_eq, signed?_found hc.not_quote (fun _ => rfl) hn, String.ofList_toList]
    | _ => simp [mentionOf] at hf
  · intro c hf u hs
    cases c with
    | mentions s => simp [mentionOf] at hf
    | unassigned => exact wordMatches_of_stops (hs rfl) true
    | mine | assignedTo => simp only [Comparison.start]; rfl
    | equals f | oneOf f => cases f <;> simp only [Comparison.start, MatchField.name] <;> rfl
    | lastDays f | notBefore f | notAfter f =>
      cases f <;> simp only [Comparison.start, TimeField.name] <;> rfl

def membershipOf : Comparison → Option Condition
  | .oneOf f vs => some (oneOf f vs)
  | _ => none

theorem run?_isBlank {t u rest taken : List Char} (h : run? isBlank (t ++ '"' :: u) = some (taken, rest)) :
    rest = skipBlanks t ++ '"' :: u := by
  have hr : rest = skipBlanks (t ++ '"' :: u) := by
    simp only [run?] at h
    split at h
    · cases h
    · exact (congrArg Prod.snd (Option.some.inj h)).symm
  rw [hr, skipBlanks_before_quote]

theorem dropPrefix?_parenthesis {t : List Char} (ht : Plain t) (u : List Char) :
    dropPrefix? ['('] (skipBlanks (t ++ '"' :: u)) = none := by
  rw [skipBlanks_before_quote, dropPrefix?_before (by decide), Option.map_eq_none_iff]
  cases hd : dropPrefix? ['('] (skipBlanks t) with
  | none => rfl
  | some rest =>
    have hm : '(' ∈ skipBlanks t := by simp [eq_append_of_dropPrefix? hd]
    exact absurd (ht _ ((suffix_skipBlanks t).subset hm)) (by decide)

theorem membership?_guarded : Guarded membership? where
  value v hv t ht u := by
    rcases anyKeyword?_value (hv.plain.suffix ht) names_noQuote u with h | ⟨name, t', ht', h⟩
    · rw [membership?, h]
      rfl
    · cases hr : run? isBlank (t' ++ '"' :: u) with
      | none => simp only [membership?, h, hr, Option.bind_eq_bind, Option.bind_some, Option.bind_none]
      | some read =>
        obtain ⟨taken, rest⟩ := read
        obtain rfl := run?_isBlank hr
        -- The word may still be found within the value, but no parenthesis follows it there.
        have hw : '"' ∉ "in".toList := by decide
        rcases dropKeyword?_value (ht'.suffix (suffix_skipBlanks t')) hw u with hk | ⟨t'', ht'', hk⟩
        · simp only [membership?, h, hr, hk, Option.bind_eq_bind, Option.bind_some, Option.bind_none]
        · simp only [membership?, h, hr, hk, dropPrefix?_parenthesis ht'', Option.bind_eq_bind,
            Option.bind_some, Option.bind_none]
  digit c hc u := by
    rw [membership?, anyKeyword?_digit hc names_letters]
    rfl
  conjunction _ := rfl

theorem stripEnd_quote {v : List Char} (hv : '"' ∉ v) : stripEnd (· == '"') (v ++ ['"']) = v := by
  have hr : v.reverse.dropWhile (· == '"') = v.reverse := by
    cases hc : v.reverse with
    | nil => rfl
    | cons c cs =>
      have hm : c ∈ v := by rw [← List.mem_reverse, hc]; exact List.mem_cons_self
      have hne : (c == '"') = false := by
        rw [beq_eq_false_iff_ne]
        rintro rfl
        exact hv hm
      simp [hne]
  simp [stripEnd, hr]

theorem stripChars_quoted (v : List Char) : stripChars ('"' :: (v ++ ['"'])) = '"' :: (v ++ ['"']) := by
  have hq : isBlank '"' = false := by decide
  simp [stripChars, stripEnd, hq]

theorem listedValue_quoted {v : List Char} (hv : '"' ∉ v) :
    listedValue ('"' :: (v ++ ['"'])) = String.ofList v := by
  rw [listedValue, stripChars_quoted]
  cases v with
  | nil => rfl
  | cons c v =>
    have hne : (c == '"') = false := by
      rw [beq_eq_false_iff_ne]
      rintro rfl
      exact hv (by simp)
    have hd : ('"' :: (c :: v ++ ['"'])).dropWhile (· == '"') = c :: v ++ ['"'] := by simp [hne]
    rw [hd, stripEnd_quote hv]

theorem listedValue_blank (cs : List Char) : listedValue (' ' :: cs) = listedValue cs := by
  have hb : isBlank ' ' = true := by decide
  simp [listedValue, stripChars, hb]

theorem splitOnChar_join {vs : List String} (hne : vs ≠ []) (hv : ∀ v ∈ vs, Harmless v) :
    (splitOnChar ',' (join ", " (vs.map Clause.quote)).toList).map listedValue = vs := by
  obtain ⟨v, vs, rfl⟩ := List.exists_cons_of_ne_nil hne
  have hcomma : ∀ w ∈ v :: vs, ',' ∉ (Clause.quote w).toList := by
    intro w hw hm
    have hm : ',' ∈ w.toList := by simpa [Clause.quote] using hm
    exact absurd ((hv w hw).plain _ hm) (by decide)
  have hvalue : ∀ w ∈ v :: vs, listedValue (Clause.quote w).toList = w := by
    intro w hw
    have hq := listedValue_quoted (hv w hw).not_quote
    rw [String.ofList_toList] at hq
    simpa [Clause.quote] using hq
  have hs := @splitOnChar_intercalate ',' [' '] (Clause.quote v).toList
    (vs.map fun w => (Clause.quote w).toList) (hcomma v (by simp)) (by simp) ?_
  · have hj : (join ", " ((v :: vs).map Clause.quote)).toList =
        [',', ' '].intercalate ((Clause.quote v).toList :: vs.map fun w => (Clause.quote w).toList) := by
      simp [join, String.toList_intercalate, Function.comp_def]
    have hmore : vs.map (fun w => listedValue (' ' :: (Clause.quote w).toList)) = vs.map id :=
      List.map_congr_left fun w hw => by
        rw [listedValue_blank, hvalue w (List.mem_cons_of_mem v hw)]
        rfl
    rw [hj, hs, List.map_cons, hvalue v (by simp), List.map_map, List.map_map]
    exact congrArg (v :: ·) (hmore.trans (List.map_id vs))
  · intro p hp
    obtain ⟨w, hw, rfl⟩ := List.mem_map.mp hp
    exact hcomma w (List.mem_cons_of_mem v hw)

theorem not_mem_join {vs : List String} (hv : ∀ v ∈ vs, Harmless v) :
    ')' ∉ (join ", " (vs.map Clause.quote)).toList := by
  have hq : ∀ v ∈ vs, ')' ∉ (Clause.quote v).toList := by
    intro v hm h
    have h : ')' ∈ v.toList := by simpa [Clause.quote] using h
    exact absurd ((hv v hm).plain _ h) (by decide)
  cases vs with
  | nil => simp [join]
  | cons v vs =>
    rw [List.map_cons, toList_join_cons, List.mem_append, not_or]
    refine ⟨hq v (by simp), fun h => ?_⟩
    obtain ⟨w, hw, h⟩ := List.mem_flatMap.mp h
    obtain ⟨x, hx, rfl⟩ := List.mem_map.mp hw
    have h : ')' ∈ (Clause.quote x).toList := by simpa using h
    exact hq x (List.mem_cons_of_mem v hx) h

theorem membership?_reads : Reads (wordMatches membership? false 0) Comparison.Plain
    fun c found => (membershipOf c).toList ++ found := by
  apply membership?_guarded.reads membershipOf
  · intro c a hf hc u
    cases c with
    | oneOf f vs =>
      obtain rfl : oneOf f vs = a := by simpa [membershipOf] using hf
      have ht : (Comparison.oneOf f vs).text.toList ++ u = f.name.toList ++ ' ' :: ("IN (".toList ++
          ((join ", " (vs.map Clause.quote)).toList ++ ')' :: u)) := by simp [Comparison.text]
      have hr (x : List Char) :
          run? isBlank (' ' :: ("IN (".toList ++ x)) = some ([' '], "IN (".toList ++ x) := rfl
      have hk (x : List Char) : dropKeyword? "in".toList ("IN (".toList ++ x) = some (" (".toList ++ x) := rfl
      have hp (x : List Char) : dropPrefix? ['('] (skipBlanks (" (".toList ++ x)) = some x := rfl
      rw [ht]
      simp only [membership?, anyKeyword?_matchField, hr, hk, hp, upTo?_append (not_mem_join hc.2),
        Option.bind_eq_bind, Option.bind_some, splitOnChar_join hc.1 hc.2, ofName_name]
      rfl
    | _ => simp [membershipOf] at hf
  · intro c hf u hs
    cases c with
    | oneOf f vs => simp [membershipOf] at hf
    | unassigned => exact wordMatches_of_stops (hs rfl) true
    | mine | assignedTo | mentions => simp only [Comparison.start]; rfl
    | equals f => cases f <;> simp only [Comparison.start, MatchField.name] <;> rfl
    | lastDays f | notBefore f | notAfter f =>
      cases f <;> simp only [Comparison.start, TimeField.name] <;> rfl

def periodOf : Comparison → Option Condition
  | .lastDays f n => some (within f (toString n).toList)
  | _ => none

theorem period?_guarded : Guarded period? where
  value v hv t ht u := by
    have hn : ∀ name ∈ ["updated", "created"], '"' ∉ name.toList := by decide
    rcases anyKeyword?_value (hv.plain.suffix ht) hn u with h | ⟨name, t', ht', h⟩
    · rw [period?, h]
      rfl
    · simp only [period?, h, dropSign?_value ht' (show ">=".toList = '>' :: ['='] from rfl) (by decide) (by decide),
        Option.bind_eq_bind, Option.bind_some, Option.bind_none]
  digit c hc u := by
    rw [period?, anyKeyword?_digit hc (by decide)]
    rfl
  conjunction _ := rfl

theorem run?_digits (n : Nat) (u : List Char) :
    run? isDigit ((toString n).toList ++ 'd' :: u) = some ((toString n).toList, 'd' :: u) := by
  have hd : ∀ c ∈ (toString n).toList, isDigit c = true := by
    intro c hc
    exact Number.isDigit_of_ascii (Number.isDigit_of_mem_toString hc)
  have hne := Number.toString_ne_nil n
  have hstop : isDigit 'd' = false := by decide
  simp only [run?, List.takeWhile_append_of_pos hd, List.dropWhile_append_of_pos hd,
    List.takeWhile_cons, List.dropWhile_cons, hstop, Bool.false_eq_true, if_false, List.append_nil,
    List.isEmpty_iff, hne]

theorem period?_reads : Reads (wordMatches period? false 0) Comparison.Plain
    fun c found => (periodOf c).toList ++ found := by
  apply period?_guarded.reads periodOf
  · intro c a hf hc u
    cases c with
    | lastDays f n =>
      obtain rfl : within f (toString n).toList = a := by simpa [periodOf] using hf
      obtain ⟨n, rfl⟩ := Int.eq_ofNat_of_zero_le hc
      have ht : (Comparison.lastDays f n).text.toList ++ u =
          f.name.toList ++ ' ' :: (">= -".toList ++ ((toString n).toList ++ 'd' :: u)) := by
        show (f.name ++ " >= -" ++ toString n ++ "d").toList ++ u = _
        simp
      have hge (x : List Char) : dropSign? ">=" (' ' :: (">= -".toList ++ x)) = some (" -".toList ++ x) := rfl
      have hminus (x : List Char) : dropSign? "-" (" -".toList ++ x) = some x := rfl
      have hd : dropKeyword? ['d'] ('d' :: u) = some u := rfl
      have hf : (if f.name == "updated" then TimeField.updated else .created) = f := by cases f <;> decide
      rw [ht]
      simp only [period?, anyKeyword?_timeField, hge, hminus, run?_digits, hd, hf, Option.bind_eq_bind,
        Option.bind_some]
      rfl
    | _ => simp [periodOf] at hf
  · intro c hf u hs
    cases c with
    | lastDays f n => simp [periodOf] at hf
    | unassigned => exact wordMatches_of_stops (hs rfl) true
    | mine | assignedTo | mentions => simp only [Comparison.start]; rfl
    | equals f | oneOf f => cases f <;> simp only [Comparison.start, MatchField.name] <;> rfl
    | notBefore f | notAfter f => cases f <;> simp only [Comparison.start, TimeField.name] <;> rfl

end IssueQuery.Condition
