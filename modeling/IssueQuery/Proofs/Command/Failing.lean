import IssueQuery.Calendar.StandardReader
import IssueQuery.Command.Run
import IssueQuery.Proofs.Text.Lines
import Mathlib.Data.List.Basic

namespace IssueQuery

open Text (OneLine oneLine_append oneLine_join)

namespace Fault

/-- The kind of a failure from elsewhere is a name, without blanks. -/
def IsNamed : Fault → Prop
  | .foreign failure => ∀ c ∈ failure.kind.toList, Text.isBlank c = false
  | _ => True

theorem oneLine_yamlKind (f : Yaml.ReadFault) : OneLine f.kind := by
  unfold Yaml.ReadFault.kind
  split <;> first | decide | split <;> decide

theorem oneLine_kind {f : Fault} (h : f.IsNamed) : OneLine f.kind := by
  unfold kind
  split
  all_goals first
    | decide
    | exact oneLine_yamlKind _
    | exact fun c hc => Text.isLineEnd_eq_false_of_not_blank (h c hc)

end Fault

def Token.texts : Token → List String
  | .word text | .unknown text => [text]
  | .mark => ["--"]
  | .flag .. | .cluster _ => []

namespace ArgumentFault

def repeated : ArgumentFault → List String
  | .ambiguous argument _ => [argument]
  | .unrecognized arguments => arguments
  | .valueExpected _ | .valueIgnored .. => []

/-- What a report names is found among the arguments and the spellings of flags. -/
structure Concerns (arguments : List String) (f : ArgumentFault) : Prop where
  repeated : f.repeated ⊆ arguments
  spellings : ∀ argument spellings, f = .ambiguous argument spellings → spellings ⊆ Flag.spellings.keys

namespace Concerns

theorem unrecognized {arguments extra : List String} (h : extra ⊆ arguments) :
    Concerns arguments (.unrecognized extra) :=
  ⟨h, fun _ _ hf => by cases hf⟩

theorem valueExpected {arguments : List String} (f : Flag) : Concerns arguments (.valueExpected f) :=
  ⟨List.nil_subset _, fun _ _ hf => by cases hf⟩

theorem valueIgnored {arguments : List String} (f : Flag) (value : String) :
    Concerns arguments (.valueIgnored f value) :=
  ⟨List.nil_subset _, fun _ _ hf => by cases hf⟩

theorem mono {arguments others : List String} {f : ArgumentFault} (h : f.Concerns arguments)
    (hsub : arguments ⊆ others) : f.Concerns others :=
  ⟨List.Subset.trans h.repeated hsub, h.spellings⟩

end Concerns

theorem oneLine_title (f : Flag) : OneLine f.title := by
  cases f <;> decide

theorem oneLine_message_iff {arguments : List String} {f : ArgumentFault} (h : f.Concerns arguments) :
    OneLine f.message ↔ ∀ argument ∈ f.repeated, OneLine argument := by
  cases f with
  | ambiguous argument spellings =>
    have hfixed : OneLine "ambiguous option: " ∧ OneLine " could match " := by decide +kernel
    have hkeys : ∀ spelling ∈ Flag.spellings.keys, OneLine spelling := by decide +kernel
    have hjoin : OneLine (Text.join ", " spellings) :=
      (oneLine_join (by decide)).mpr fun s hs => hkeys s (h.spellings argument spellings rfl hs)
    change OneLine ("ambiguous option: " ++ argument ++ " could match " ++ Text.join ", " spellings) ↔ _
    simp only [oneLine_append, hfixed, hjoin, repeated, List.forall_mem_singleton, true_and, and_true]
  | valueExpected flag =>
    have hfixed : OneLine "argument " ∧ OneLine ": expected one argument" := by decide +kernel
    change OneLine ("argument " ++ flag.title ++ ": expected one argument") ↔ _
    simp only [oneLine_append, hfixed, oneLine_title, repeated, List.not_mem_nil, false_imp_iff,
      implies_true, and_true]
  | valueIgnored flag value =>
    have hfixed : OneLine "argument " ∧ OneLine ": ignored explicit argument " := by decide +kernel
    change OneLine ("argument " ++ flag.title ++ ": ignored explicit argument " ++ Text.quoted value) ↔ _
    simp only [oneLine_append, hfixed, oneLine_title, Text.oneLine_quoted, repeated, List.not_mem_nil,
      false_imp_iff, implies_true, and_true]
  | unrecognized arguments =>
    have hfixed : OneLine "unrecognized arguments: " ∧ OneLine " " := by decide +kernel
    change OneLine ("unrecognized arguments: " ++ Text.join " " arguments) ↔ _
    simp only [oneLine_append, hfixed, oneLine_join hfixed.2, repeated, true_and]

end ArgumentFault

namespace Token

variable {text : String} {arguments : List String} {token : Token} {tokens : List Token} {fault : ArgumentFault}

theorem keys_beginning_subset (cs : List Char) : (Flag.beginning cs).keys ⊆ Flag.spellings.keys :=
  List.map_subset _ (List.filter_subset_self Flag.spellings)

theorem ofText_error (h : ofText text = .error fault) : fault.Concerns [text] := by
  have hlong : ofLong text = .error fault := by
    unfold ofText at h
    split at h
    · exact h
    · cases h
    · cases h
  unfold ofLong at hlong
  dsimp only at hlong
  split at hlong
  case h_4 =>
    obtain rfl := Except.error.inj hlong
    refine ⟨List.Subset.refl _, ?_⟩
    rintro argument spellings h
    obtain ⟨-, rfl⟩ := ArgumentFault.ambiguous.inj h
    exact keys_beginning_subset _
  all_goals cases hlong

theorem texts_other (text : String) : (other text).texts = [text] := by
  unfold other
  split <;> rfl

theorem ofText_texts (h : ofText text = .ok token) : token.texts ⊆ [text] := by
  unfold ofText at h
  split at h
  · unfold ofLong at h
    dsimp only at h
    split at h
    case h_4 => cases h
    case h_2 =>
      obtain rfl := Except.ok.inj h
      rw [texts_other]
      exact List.Subset.refl _
    all_goals
      obtain rfl := Except.ok.inj h
      exact List.nil_subset _
  · obtain rfl := Except.ok.inj h
    unfold ofShort
    split
    case h_4 =>
      rw [texts_other]
      exact List.Subset.refl _
    all_goals exact List.nil_subset _
  · obtain rfl := Except.ok.inj h
    exact List.Subset.refl _

theorem ofTexts_error (h : ofTexts arguments = .error fault) : fault.Concerns arguments := by
  induction arguments with
  | nil => cases h
  | cons text rest ih =>
    rw [ofTexts] at h
    split at h
    · cases h
    · cases ht : ofText text with
      | error f =>
        rw [ht] at h
        obtain rfl := Except.error.inj h
        exact (ofText_error ht).mono (by simp)
      | ok token =>
        rw [ht] at h
        cases hr : ofTexts rest with
        | error f =>
          rw [hr] at h
          obtain rfl := Except.error.inj h
          exact (ih hr).mono (List.subset_cons_self _ _)
        | ok tokens =>
          rw [hr] at h
          cases h

theorem ofTexts_texts (h : ofTexts arguments = .ok tokens) : tokens.flatMap texts ⊆ arguments := by
  induction arguments generalizing tokens with
  | nil =>
    obtain rfl := Except.ok.inj h
    exact List.nil_subset _
  | cons text rest ih =>
    rw [ofTexts] at h
    split at h
    case isTrue hmark =>
      obtain rfl := Except.ok.inj h
      rw [eq_of_beq hmark]
      simp [texts, List.flatMap_map]
    case isFalse hmark =>
      cases ht : ofText text with
      | error f =>
        rw [ht] at h
        cases h
      | ok token =>
        rw [ht] at h
        cases hr : ofTexts rest with
        | error f =>
          rw [hr] at h
          cases h
        | ok later =>
          rw [hr] at h
          obtain rfl := Except.ok.inj h
          rw [List.flatMap_cons]
          have htext : token.texts ⊆ text :: rest := List.Subset.trans (ofText_texts ht) (by simp)
          exact List.append_subset.mpr ⟨htext, List.Subset.trans (ih hr) (List.subset_cons_self _ _)⟩

end Token

namespace Arguments

theorem readCluster_error {attached : List Char} {fault : ArgumentFault} {arguments : List String}
    (h : readCluster attached = .error fault) : fault.Concerns arguments := by
  fun_induction readCluster attached with
  | case1 => cases h
  | case2 rest ih => exact ih h
  | case3 rest =>
    obtain rfl := Except.error.inj h
    exact .valueIgnored .help (String.ofList rest)

theorem read_error {a : Arguments} {phase : Phase} {extra : List String} {tokens : List Token}
    {fault : ArgumentFault} (h : read a phase extra tokens = .error fault) :
    fault.Concerns (extra ++ tokens.flatMap Token.texts) := by
  -- A token is set aside, dropped or taken as a word or value; what is set aside was an argument.
  fun_induction read a phase extra tokens with
  | case1 a phase extra => cases h
  | case2 a phase extra =>
    obtain rfl := Except.error.inj h
    exact .unrecognized (List.subset_append_left _ _)
  | case3 a phase extra text rest _ ih => exact (ih h).mono (by simp [Token.texts])
  | case4 a phase extra text rest _ ih => exact (ih h).mono (by simp [Token.texts])
  | case5 a phase extra rest _ ih => exact (ih h).mono (by simp [Token.texts])
  | case6 a phase extra rest _ ih => exact (ih h).mono (by simp [Token.texts])
  | case7 a phase extra text rest ih => exact (ih h).mono (by simp [Token.texts])
  | case8 a phase extra attached => exact readCluster_error h
  | case9 a phase extra f value rest _ ih => exact (ih h).mono (by simp [Token.texts])
  | case10 a phase extra f value =>
    obtain rfl := Except.error.inj h
    exact .valueIgnored f value
  | case11 a phase extra => cases h
  | case12 a phase extra f _ _ value rest ih => exact (ih h).mono (by simp [Token.texts])
  | case13 a phase extra f =>
    obtain rfl := Except.error.inj h
    exact .valueExpected f
  | case14 a phase extra f rest _ _ ih => exact (ih h).mono (by simp [Token.texts])

theorem ofTexts_error {arguments : List String} {fault : ArgumentFault} (h : ofTexts arguments = .error fault) :
    fault.Concerns arguments := by
  unfold ofTexts at h
  cases ht : Token.ofTexts arguments with
  | error f =>
    rw [ht] at h
    obtain rfl := Except.error.inj h
    exact Token.ofTexts_error ht
  | ok tokens =>
    rw [ht] at h
    exact (read_error h).mono (Token.ofTexts_texts ht)

end Arguments

namespace Command

def RepeatsLineEnd (arguments : List String) : Prop :=
  ∃ fault, Arguments.ofTexts arguments = .error fault ∧ ∃ argument ∈ fault.repeated, ¬OneLine argument

/-- The output of a run that reports its failures: the usage where there is no question, otherwise one line,
except where it repeats a line end that stands among the arguments. -/
structure Reported (arguments : List String) (output : Output) : Prop where
  exit : output.exit = 0 ∨ output.exit = 1
  out : output.out ≠ "" → output.exit = 0
  err : output.exit = 1 →
    (∃ a, Arguments.ofTexts arguments = .ok (.arguments a) ∧ Text.strip (Text.join " " a.words) = "" ∧
      output.err = usage) ∨
    ∃ message, output.err = "Error: " ++ message ++ "\n" ∧
      (Text.lines output.err = ["Error: " ++ message] ↔ ¬RepeatsLineEnd arguments)
  repeats : RepeatsLineEnd arguments → ∃ argument ∈ arguments, ¬OneLine argument

theorem oneLine_faultText {f : Fault} (h : f.IsNamed) : OneLine (faultText f) := by
  unfold faultText
  dsimp only
  split
  · exact Fault.oneLine_kind h
  · exact Text.oneLine_join_words f.message

theorem lines_failure_iff (message : String) :
    Text.lines (failure message).err = ["Error: " ++ message] ↔ OneLine message := by
  have hfixed : OneLine "Error: " := by decide +kernel
  change Text.lines ("Error: " ++ message ++ "\n") = _ ↔ _
  rw [Text.lines_append_newline_iff, oneLine_append]
  exact and_iff_right hfixed

theorem repeatsLineEnd_iff {arguments : List String} {fault : ArgumentFault}
    (h : Arguments.ofTexts arguments = .error fault) : RepeatsLineEnd arguments ↔ ¬OneLine fault.message := by
  rw [ArgumentFault.oneLine_message_iff (Arguments.ofTexts_error h)]
  simp [RepeatsLineEnd, h]

theorem exists_of_repeatsLineEnd {arguments : List String} (h : RepeatsLineEnd arguments) :
    ∃ argument ∈ arguments, ¬OneLine argument := by
  obtain ⟨fault, hfault, argument, hargument, hline⟩ := h
  exact ⟨argument, (Arguments.ofTexts_error hfault).repeated hargument, hline⟩

namespace Reported

variable {arguments : List String}

theorem of_report (text : String) : Reported arguments ⟨0, text, ""⟩ :=
  ⟨.inl rfl, fun _ => rfl, fun h => absurd h Nat.zero_ne_one, exists_of_repeatsLineEnd⟩

theorem of_usage {a : Arguments} (h : Arguments.ofTexts arguments = .ok (.arguments a))
    (hblank : Text.strip (Text.join " " a.words) = "") : Reported arguments ⟨1, "", usage⟩ :=
  ⟨.inr rfl, fun hout => absurd rfl hout, fun _ => .inl ⟨a, h, hblank, rfl⟩, exists_of_repeatsLineEnd⟩

theorem of_failure {message : String} (h : OneLine message ↔ ¬RepeatsLineEnd arguments) :
    Reported arguments (failure message) :=
  ⟨.inr rfl, fun hout => absurd rfl hout, fun _ => .inr ⟨message, rfl, (lines_failure_iff message).trans h⟩,
    exists_of_repeatsLineEnd⟩

end Reported

theorem respond_reported (reporter : Reporter) (env : Environment) (arguments : List String)
    (h : ∀ settings question a fault, reporter settings question a = .error fault → fault.IsNamed) :
    Reported arguments (respond reporter env arguments) := by
  unfold respond
  cases hargs : Arguments.ofTexts arguments with
  | error fault =>
    exact .of_failure (by rw [repeatsLineEnd_iff hargs, not_not])
  | ok reading =>
    cases reading with
    | help => exact .of_report help
    | arguments a =>
      have hread : ¬RepeatsLineEnd arguments := by
        rintro ⟨fault, hfault, -⟩
        rw [hargs] at hfault
        cases hfault
      dsimp only [answer]
      split
      case isTrue hblank => exact .of_usage hargs (by simpa using hblank)
      case isFalse =>
        cases hreport : reporter (Settings.ofEnvironment env) (Text.strip (Text.join " " a.words)) a with
        | ok text => exact .of_report (text ++ "\n")
        | error fault =>
          exact .of_failure (iff_of_true (oneLine_faultText (h _ _ _ _ hreport)) hread)

theorem respond_reported_foreign :
    let reporter : Reporter := fun _ _ _ => .error (.foreign ⟨"ValueError", "two\r\nlines", [.value]⟩)
    Reported ["open", "bugs"] (respond reporter [] ["open", "bugs"]) ∧
      respond reporter [] ["open", "bugs"] = ⟨1, "", "Error: two lines\n"⟩ := by
  intro reporter
  refine ⟨respond_reported reporter [] ["open", "bugs"] ?_, by decide +kernel⟩
  rintro settings question a fault hfault
  obtain rfl := Except.error.inj hfault
  have hname : ∀ c ∈ "ValueError".toList, Text.isBlank c = false := by simp [Text.isBlank]
  exact hname

theorem run_reports_two_lines :
    let output := run (Surroundings.offline .standard ⟨0, some 0⟩) ColumnSets.standard [] ["open issues", "--no\nflag"]
    output.exit = 1 ∧ output.err = "Error: unrecognized arguments: --no\nflag\n" ∧
      Text.lines output.err = ["Error: unrecognized arguments: --no", "flag"] := by
  decide +kernel

end Command

end IssueQuery
