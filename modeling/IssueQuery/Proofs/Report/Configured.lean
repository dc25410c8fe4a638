import IssueQuery.Proofs.Outcome
import IssueQuery.Report.Columns
import IssueQuery.Yaml.Loading

namespace IssueQuery

namespace Yaml

/-- The texts of the items of a value, as far as they can be shown. -/
inductive HasItems (d : Document) : Item → List (Except ReadFault String) → Prop
  | characters (s : String) : HasItems d (.scalar (.text s)) (s.toList.map fun c => .ok c.toString)
  | bytes (bs : List Nat) : HasItems d (.scalar (.bytes bs)) (bs.map fun b => .ok (toString b))
  | list {id : Nat} {items : List Item} (h : d.collection id = .list items) :
    HasItems d (.collection id) (items.map d.asText)
  | keys {id : Nat} {entries : List (Scalar × Item)} (h : d.collection id = .map entries) :
    HasItems d (.collection id) (entries.map (·.1.asText))
  | pairs {id : Nat} {items : List (Item × Item)} (h : d.collection id = .pairs items) :
    HasItems d (.collection id) (items.zipIdx.map fun (pair, n) => d.quotedPair [] (d.partCount + 1) id n pair)
  | members {id : Nat} {members : List Scalar} (h : d.collection id = .set members) :
    HasItems d (.collection id) (members.map Scalar.asText)

variable {d : Document} {v : Item} {texts : List (Except ReadFault String)}

theorem HasItems.isTruthy_iff (h : HasItems d v texts) : d.isTruthy v = true ↔ texts ≠ [] := by
  cases h with
  | characters s => simp [Document.isTruthy, Scalar.isTruthy]
  | bytes bs => simp [Document.isTruthy, Scalar.isTruthy]
  | list h => simp [Document.isTruthy, h, Collection.isEmpty]
  | keys h => simp [Document.isTruthy, h, Collection.isEmpty]
  | pairs h => simp [Document.isTruthy, h, Collection.isEmpty]
  | members h => simp [Document.isTruthy, h, Collection.isEmpty]

theorem mapM_map_ok {α : Type} (f : α → String) (xs : List α) :
    (xs.map fun x => (.ok (f x) : Except ReadFault String)).mapM id = .ok (xs.map f) := by
  induction xs with
  | nil => rfl
  | cons x xs ih =>
    rw [List.map_cons, List.mapM_cons, ih]
    rfl

theorem HasItems.itemTexts? (h : HasItems d v texts) : d.itemTexts? v = some (texts.mapM id) := by
  cases h with
  | characters s => rw [mapM_map_ok]; rfl
  | bytes bs => rw [mapM_map_ok]; rfl
  | list h => simp [Document.itemTexts?, h, List.mapM_map]
  | keys h => simp [Document.itemTexts?, h, List.mapM_map]
  | pairs h => simp [Document.itemTexts?, h, List.mapM_map]
  | members h => simp [Document.itemTexts?, h, List.mapM_map]

theorem exists_hasItems_or (d : Document) (v : Item) :
    (∃ texts, HasItems d v texts) ∨ d.itemTexts? v = none ∧ ∀ texts, ¬HasItems d v texts := by
  cases v with
  | scalar s =>
    cases s with
    | text s => exact .inl ⟨_, .characters s⟩
    | bytes bs => exact .inl ⟨_, .bytes bs⟩
    | _ => exact .inr ⟨rfl, nofun⟩
  | collection id =>
    cases h : d.collection id with
    | list items => exact .inl ⟨_, .list h⟩
    | map entries => exact .inl ⟨_, .keys h⟩
    | pairs items => exact .inl ⟨_, .pairs h⟩
    | set members => exact .inl ⟨_, .members h⟩

theorem mapError_mapM (texts : List (Except ReadFault String)) :
    (texts.mapM id).mapError Fault.yaml = texts.mapM fun t => t.mapError Fault.yaml := by
  induction texts with
  | nil => rfl
  | cons t texts ih =>
    rw [List.mapM_cons, List.mapM_cons, ← ih]
    cases t with
    | error fault => rfl
    | ok s => cases texts.mapM id <;> rfl

end Yaml

namespace ColumnSets

open Yaml (Document Item Scalar HasItems)

inductive Gives (d : Document) (usual : List String) : Option Item → List String → Prop
  | absent : Gives d usual none usual
  | falsy {v : Item} (h : d.isTruthy v = false) : Gives d usual (some v) usual
  | items {v : Item} {texts : List (Except Yaml.ReadFault String)} {columns : List String} (h : HasItems d v texts)
    (hne : texts ≠ []) (hc : List.Forall₂ (fun t c => t = .ok c) texts columns) : Gives d usual (some v) columns

/-- A value makes no columns: it has no items, or the first of them that cannot be shown has the fault. -/
inductive Refuses (d : Document) : Option Item → Fault → Prop
  | noItems {v : Item} (ht : d.isTruthy v = true) (h : ∀ texts, ¬HasItems d v texts) :
    Refuses d (some v) (.noItems (d.kind v))
  | item {v : Item} {before after : List (Except Yaml.ReadFault String)} {fault : Yaml.ReadFault}
    (h : HasItems d v (before ++ .error fault :: after)) (hb : ∀ t ∈ before, ∃ c, t = .ok c) :
    Refuses d (some v) (.yaml fault)

variable {d : Document} {usual columns : List String} {value : Option Item} {fault : Fault}

theorem Gives.ne_nil (h : Gives d usual value columns) (hu : usual ≠ []) : columns ≠ [] := by
  cases h with
  | absent => exact hu
  | falsy _ => exact hu
  | items h hne hc =>
    rintro rfl
    exact hne (List.forall₂_nil_right_iff.mp hc)

theorem configured_falsy {v : Item} (h : d.isTruthy v = false) : configured d usual (some v) = .ok usual := by
  rw [configured, h]
  rfl

theorem configured_of_hasItems {v : Item} {texts : List (Except Yaml.ReadFault String)} (h : HasItems d v texts)
    (hne : texts ≠ []) : configured d usual (some v) = texts.mapM fun t => t.mapError Fault.yaml := by
  rw [configured, if_pos (h.isTruthy_iff.mpr hne), h.itemTexts?]
  exact Yaml.mapError_mapM texts

theorem configured_of_not_hasItems {v : Item} (ht : d.isTruthy v = true) (h : ∀ texts, ¬HasItems d v texts) :
    configured d usual (some v) = .error (.noItems (d.kind v)) := by
  rcases Yaml.exists_hasItems_or d v with ⟨texts, hitems⟩ | ⟨hnone, -⟩
  · exact absurd hitems (h texts)
  · rw [configured, if_pos ht, hnone]

theorem mapError_eq_ok_iff {t : Except Yaml.ReadFault String} {c : String} :
    t.mapError Fault.yaml = .ok c ↔ t = .ok c := by
  cases t <;> simp [Except.mapError]

theorem mapError_eq_error_iff {t : Except Yaml.ReadFault String} :
    t.mapError Fault.yaml = .error fault ↔ ∃ f, t = .error f ∧ fault = .yaml f := by
  cases t <;> simp [Except.mapError, eq_comm]

theorem configured_eq_ok_iff : configured d usual value = .ok columns ↔ Gives d usual value columns := by
  constructor
  · intro h
    cases value with
    | none =>
      obtain rfl := Except.ok.inj h
      exact .absent
    | some v =>
      cases ht : d.isTruthy v with
      | false =>
        rw [configured_falsy ht] at h
        obtain rfl := Except.ok.inj h
        exact .falsy ht
      | true =>
        rcases Yaml.exists_hasItems_or d v with ⟨texts, hitems⟩ | ⟨-, hnone⟩
        · have hne := hitems.isTruthy_iff.mp ht
          rw [configured_of_hasItems hitems hne, Outcome.mapM_eq_ok_iff] at h
          exact .items hitems hne (h.imp fun _ _ => mapError_eq_ok_iff.mp)
        · rw [configured_of_not_hasItems ht hnone] at h
          cases h
  · intro h
    cases h with
    | absent => rfl
    | falsy ht => exact configured_falsy ht
    | items hitems hne hc =>
      rw [configured_of_hasItems hitems hne, Outcome.mapM_eq_ok_iff]
      exact hc.imp fun _ _ => mapError_eq_ok_iff.mpr

theorem configured_eq_error_iff (usual : List String) :
    configured d usual value = .error fault ↔ Refuses d value fault := by
  constructor
  · intro h
    cases value with
    | none => cases h
    | some v =>
      cases ht : d.isTruthy v with
      | false =>
        rw [configured_falsy ht] at h
        cases h
      | true =>
        rcases Yaml.exists_hasItems_or d v with ⟨texts, hitems⟩ | ⟨-, hnone⟩
        · rw [configured_of_hasItems hitems (hitems.isTruthy_iff.mp ht), Outcome.mapM_eq_error_iff] at h
          obtain ⟨before, t, after, rfl, hbefore, ht⟩ := h
          obtain ⟨f, rfl, rfl⟩ := mapError_eq_error_iff.mp ht
          exact .item hitems fun u hu => (hbefore u hu).imp fun _ => mapError_eq_ok_iff.mp
        · rw [configured_of_not_hasItems ht hnone] at h
          obtain rfl := Except.error.inj h
          exact .noItems ht hnone
  · intro h
    cases h with
    | noItems ht hnone => exact configured_of_not_hasItems ht hnone
    | item hitems hb =>
      rw [configured_of_hasItems hitems (by simp), Outcome.mapM_eq_error_iff]
      exact ⟨_, _, _, rfl, fun t ht => (hb t ht).imp fun _ => mapError_eq_ok_iff.mpr, rfl⟩

def document : Option (Except Failure Document) → Except Failure Document
  | none => .ok .empty
  | some (.ok d) => .ok d
  | some (.error failure) => if failure.isA .markup then .ok .empty else .error failure

theorem load_eq (file : Option (Except Failure Document)) :
    load file = (document file).mapError Fault.foreign >>= ofDocument := by
  match file with
  | none => rfl
  | some (.ok d) => rfl
  | some (.error failure) =>
    rw [load, document]
    split <;> rfl

theorem ofDocument_of_entries {v : Item} {entries : List (Scalar × Item)} (hv : setsOf? d = some v)
    (he : d.entries? v = some entries) : ofDocument d =
      (configured d standard.table (Document.member? entries "table") >>= fun table =>
        configured d standard.detail (Document.member? entries "detail") >>= fun detail => .ok ⟨table, detail⟩) := by
  rw [ofDocument, hv]
  simp only [he]
  rfl

theorem ofDocument_eq_ok_iff {v : Item} {entries : List (Scalar × Item)} {sets : ColumnSets}
    (hv : setsOf? d = some v) (he : d.entries? v = some entries) : ofDocument d = .ok sets ↔
      Gives d standard.table (Document.member? entries "table") sets.table ∧
        Gives d standard.detail (Document.member? entries "detail") sets.detail := by
  rw [ofDocument_of_entries hv he, ← configured_eq_ok_iff, ← configured_eq_ok_iff]
  constructor
  · intro h
    obtain ⟨table, htable, h⟩ := Outcome.of_bind h
    obtain ⟨detail, hdetail, h⟩ := Outcome.of_bind h
    obtain rfl := Except.ok.inj h
    exact ⟨htable, hdetail⟩
  · rintro ⟨htable, hdetail⟩
    rw [htable, hdetail]
    rfl

theorem ofDocument_eq_error_iff {v : Item} {entries : List (Scalar × Item)} (hv : setsOf? d = some v)
    (he : d.entries? v = some entries) : ofDocument d = .error fault ↔
      Refuses d (Document.member? entries "table") fault ∨
        (∃ columns, Gives d standard.table (Document.member? entries "table") columns) ∧
          Refuses d (Document.member? entries "detail") fault := by
  rw [ofDocument_of_entries hv he, Outcome.bind_eq_error_iff, configured_eq_error_iff]
  refine or_congr_right ?_
  simp only [← configured_eq_ok_iff, ← configured_eq_error_iff standard.detail]
  constructor
  · rintro ⟨table, htable, h⟩
    rcases Outcome.bind_eq_error_iff.mp h with hdetail | ⟨detail, -, h⟩
    · exact ⟨⟨table, htable⟩, hdetail⟩
    · cases h
  · rintro ⟨⟨table, htable⟩, hdetail⟩
    exact ⟨table, htable, Outcome.bind_eq_error_iff.mpr (.inl hdetail)⟩

theorem ofDocument_of_setsOf?_none (hv : setsOf? d = none) : ofDocument d = .ok standard := by
  rw [ofDocument, hv]

theorem ofDocument_of_not_map {v : Item} (hv : setsOf? d = some v) (he : d.entries? v = none) :
    ofDocument d = .error (.noMembers (d.kind v)) := by
  rw [ofDocument, hv]
  simp only [he]

theorem ofDocument_ne_nil {sets : ColumnSets} (h : ofDocument d = .ok sets) : sets.table ≠ [] ∧ sets.detail ≠ [] := by
  have hstandard : standard.table ≠ [] ∧ standard.detail ≠ [] := ⟨List.cons_ne_nil _ _, List.cons_ne_nil _ _⟩
  cases hv : setsOf? d with
  | none =>
    rw [ofDocument_of_setsOf?_none hv] at h
    exact Except.ok.inj h ▸ hstandard
  | some v =>
    cases he : d.entries? v with
    | none =>
      rw [ofDocument_of_not_map hv he] at h
      cases h
    | some entries =>
      obtain ⟨htable, hdetail⟩ := (ofDocument_eq_ok_iff hv he).mp h
      exact ⟨htable.ne_nil hstandard.1, hdetail.ne_nil hstandard.2⟩

/-- The sets of columns of a file are never empty. They are the usual ones if the file has none, and each is made by
its own value if there is a map of sets; what stands in place of this map, and what makes no columns in it, is the
fault with which loading the file fails. -/
theorem load_iff (file : Option (Except Failure Document)) :
    (∀ sets, load file = .ok sets → sets.table ≠ [] ∧ sets.detail ≠ []) ∧
    (∀ failure, document file = .error failure → load file = .error (.foreign failure)) ∧
    ∀ d, document file = .ok d →
      (setsOf? d = none → load file = .ok standard) ∧
      (∀ v, setsOf? d = some v → d.entries? v = none → load file = .error (.noMembers (d.kind v))) ∧
      ∀ v entries, setsOf? d = some v → d.entries? v = some entries →
        (∀ sets, load file = .ok sets ↔ Gives d standard.table (Document.member? entries "table") sets.table ∧
          Gives d standard.detail (Document.member? entries "detail") sets.detail) ∧
        ∀ fault, load file = .error fault ↔ Refuses d (Document.member? entries "table") fault ∨
          (∃ columns, Gives d standard.table (Document.member? entries "table") columns) ∧
            Refuses d (Document.member? entries "detail") fault := by
  have hload {d : Document} (hd : document file = .ok d) : load file = ofDocument d := by
    rw [load_eq, hd]
    rfl
  refine ⟨fun sets h => ?_, fun failure hf => ?_, fun d hd => ?_⟩
  · rw [load_eq] at h
    obtain ⟨d, -, hd⟩ := Outcome.of_bind h
    exact ofDocument_ne_nil hd
  · rw [load_eq, hf]
    rfl
  · rw [hload hd]
    exact ⟨ofDocument_of_setsOf?_none, fun v => ofDocument_of_not_map, fun v entries hv he =>
      ⟨fun sets => ofDocument_eq_ok_iff hv he, fun fault => ofDocument_eq_error_iff hv he⟩⟩

def fileOf (text : String) : Option (Except Failure Document) :=
  some ((Document.ofText text).mapError Yaml.ReadFault.failure)

def keyColumn : Document where
  collections := #[.map [(.text "sets", .collection 2)], .list [], .map [(.text "table", .collection 4)], .list [],
    .list [.scalar (.text "key")], .list []]
  root := .collection 0

theorem load_keyColumn : document (fileOf "sets:\n  table: [key]\n") = .ok keyColumn ∧
    setsOf? keyColumn = some (.collection 2) ∧
    keyColumn.entries? (.collection 2) = some [(.text "table", .collection 4)] ∧
    load (fileOf "sets:\n  table: [key]\n") = .ok ⟨["key"], standard.detail⟩ := by
  have hread : Document.ofText "sets:\n  table: [key]\n" = .ok keyColumn := by decide +kernel
  have hdocument : document (fileOf "sets:\n  table: [key]\n") = .ok keyColumn := by
    rw [fileOf, hread]
    rfl
  have hsets : setsOf? keyColumn = some (.collection 2) := by decide +kernel
  have hentries : keyColumn.entries? (.collection 2) = some [(.text "table", .collection 4)] := rfl
  have htable : Document.member? [(.text "table", .collection 4)] "table" = some (.collection 4) := by decide +kernel
  have hdetail : Document.member? [(.text "table", .collection 4)] "detail" = none := by decide +kernel
  obtain ⟨-, -, hload⟩ := load_iff (fileOf "sets:\n  table: [key]\n")
  obtain ⟨-, -, hmap⟩ := hload keyColumn hdocument
  refine ⟨hdocument, hsets, hentries, ((hmap _ _ hsets hentries).1 _).mpr ?_⟩
  rw [htable, hdetail]
  have hlist : keyColumn.collection 4 = .list [.scalar (.text "key")] := rfl
  have hitems : HasItems keyColumn (.collection 4) [.ok "key"] := .list hlist
  exact ⟨.items hitems (List.cons_ne_nil _ _) (.cons rfl .nil), .absent⟩

def fiveSets : Document where
  collections := #[.map [(.text "sets", .scalar (.int 5))], .list [], .list []]
  root := .collection 0

def textTable : Document where
  collections := #[.map [(.text "sets", .collection 2)], .list [], .map [(.text "table", .scalar (.text "abc"))],
    .list [], .list []]
  root := .collection 0

theorem load_not_usual : load (fileOf "sets: 5\n") = .error (.noMembers "int") ∧
    load (fileOf "sets:\n  table: abc\n") = .ok ⟨["a", "b", "c"], standard.detail⟩ := by
  constructor
  · have hread : Document.ofText "sets: 5\n" = .ok fiveSets := by decide +kernel
    have hsets : setsOf? fiveSets = some (.scalar (.int 5)) := by decide +kernel
    rw [fileOf, hread]
    exact ofDocument_of_not_map hsets rfl
  · have hread : Document.ofText "sets:\n  table: abc\n" = .ok textTable := by decide +kernel
    have hsets : setsOf? textTable = some (.collection 2) := by decide +kernel
    have htable : Document.member? [(.text "table", .scalar (.text "abc"))] "table" = some (.scalar (.text "abc")) := by
      decide +kernel
    have hdetail : Document.member? [(.text "table", .scalar (.text "abc"))] "detail" = none := by decide +kernel
    rw [fileOf, hread]
    refine (ofDocument_eq_ok_iff hsets rfl).mpr ?_
    rw [htable, hdetail]
    have habc : "abc".toList = ['a', 'b', 'c'] := rfl
    exact ⟨.items (.characters "abc") (by simp [habc]) (by simp [habc]), .absent⟩

end ColumnSets

end IssueQuery
