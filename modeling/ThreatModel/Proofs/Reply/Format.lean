import ThreatModel.Prompt.Template
import ThreatModel.Proofs.Reply.WellFormed

/-!
# What the prompt asks for is understood

The form of a threat is written twice: for a model, in the last part of the prompt, and for the
reading of its reply, as the names that are looked up in an element. `format_understood` shows that
the two agree: an element of the form that the prompt describes is read as exactly what it says.

What the prompt describes is taken from its text: `Prompt.keys` are the keys of an element, and
`Prompt.choices` and `Prompt.factorKeys` are the names that it lists for the value of a key. An
element follows the format for a draft if it holds what is `asked` under each key. Every key of the
format is the first name that is looked up for its field, so an element may also hold other members,
in any order. Only a factor has a name that goes first, which is its own in the other spelling, with
underscores (`underscored`).
-/

namespace ThreatModel

open Text (Nonblank)

/-! ### The text of the prompt -/

namespace Prompt

/-- Every second one of some parts, from the second on. -/
def secondParts : List (List Char) → List (List Char)
  | _ :: q :: r => q :: secondParts r
  | _ => []

/-- The texts in quotation marks in a line. -/
def quotations (line : List Char) : List (List Char) := secondParts (Text.splitOn '"' line)

/-- The lines that describe the value of a key. -/
def keyLines : List (List Char) :=
  (formatLines.map String.toList).filter fun line => "- ".toList.isPrefixOf line

/-- The keys of an element. -/
def keys : List String := keyLines.filterMap fun line => (quotations line).head?.map String.ofList

/-- The line that describes the value of a key. -/
def keyLine (key : String) : List Char :=
  (keyLines.find? fun line => (quotations line).head? == some key.toList).getD []

/-- The texts in quotation marks that describe the value of a key. -/
def choices (key : String) : List String := (quotations (keyLine key)).tail.map String.ofList

/-- The names of the factors in the object under a key. -/
def factorKeys (key : String) : List String :=
  let names := ((Text.splitAt? "for ".toList (keyLine key)).map fun p => p.2.drop 4).getD []
  (Text.splitOn ',' names).map fun s => String.ofList (Text.trim s)

/-- What the lines of the prompt say. -/
theorem eval_formatLines :
    keys = ["title", "strideCategory", "threatSource", "prerequisites", "threatAction",
        "threatImpact", "impactedAssets", "trustBoundary", "assumptions", "mitigations", "cve",
        "likelihood", "impact"] ∧
      choices "strideCategory" = Stride.all.map Stride.name ∧
      choices "mitigations" = ["file", "original", "fixed"] ∧
      factorKeys "likelihood" = ["skillLevel", "motive", "opportunity", "size", "easeOfDiscovery",
        "easeOfExploit", "awareness", "intrusionDetection"] ∧
      factorKeys "impact" = ["lossOfConfidentiality", "lossOfIntegrity", "lossOfAvailability",
        "lossOfAccountability"] := by
  simp only [keys, choices, factorKeys, keyLine, keyLines, formatLines, List.map_cons,
    List.map_nil, String.toList_append]
  -- The characters of a literal, without going through its bytes.
  repeat rw [String.toList_ofList]
  exact ⟨rfl, rfl, rfl, rfl, rfl⟩

theorem choices_strideCategory : choices "strideCategory" = Stride.all.map Stride.name :=
  eval_formatLines.2.1

theorem choices_mitigations : choices "mitigations" = ["file", "original", "fixed"] :=
  eval_formatLines.2.2.1

theorem factorKeys_likelihood :
    factorKeys "likelihood" = ["skillLevel", "motive", "opportunity", "size", "easeOfDiscovery",
      "easeOfExploit", "awareness", "intrusionDetection"] :=
  eval_formatLines.2.2.2.1

theorem factorKeys_impact :
    factorKeys "impact" = ["lossOfConfidentiality", "lossOfIntegrity", "lossOfAvailability",
      "lossOfAccountability"] :=
  eval_formatLines.2.2.2.2

end Prompt

namespace Reply

/-! ### Elements of the format -/

/-- A text that is not blank and has no blanks around it. -/
def IsText (s : String) (y : Json) : Prop :=
  y = .string s ∧ Nonblank s ∧ Text.trimmed s = s

/-- An array of values of one kind. -/
def IsArray {α : Type} (item : α → Json → Prop) (xs : List α) (y : Json) : Prop :=
  ∃ ys, y = .array ys ∧ List.Forall₂ item xs ys

/-- A text, or an object with the texts of a change of code. -/
def IsMitigation : Mitigation → Json → Prop
  | .prose s, y => IsText s y
  | .code file before after, y =>
    List.Forall₂ (fun s key => ∃ z, y.field? key = some z ∧ IsText s z) [file, before, after]
      (Prompt.choices "mitigations")

/-- A text that is no word for having no entry, or `null`. -/
def IsEntry : Option String → Json → Prop
  | some s, y => IsText s y ∧ Text.asciiLower s ∉ noneMarkers
  | none, y => y = .null

/-- The other spelling of a name: an underscore and a small letter for a capital letter. -/
def underscored (key : String) : String :=
  String.ofList (key.toList.flatMap fun c => if c.isUpper then ['_', c.toLower] else [c])

/-- An object of factors from 0 to 9. -/
structure HasFactors (keys : List String) (ns : List Nat) (y : Json) : Prop where
  numbers : List.Forall₂ (fun n key => y.field? key = some (.nat n) ∧ n ≤ 9) ns keys
  /-- No factor is there in its other spelling as well. -/
  spelledOnce : ∀ key ∈ keys, underscored key ≠ key → y.field? (underscored key) = none

/-- What the prompt asks for under each key, for the values of a draft. -/
def asked (d : Draft) : List (String × (Json → Prop)) := [
  ("title", IsText d.title),
  ("strideCategory", (· = .string d.category.name)),
  ("threatSource", IsText d.source),
  ("prerequisites", IsText d.prerequisites),
  ("threatAction", IsText d.action),
  ("threatImpact", IsText d.consequence),
  ("impactedAssets", IsArray IsText d.assets),
  ("trustBoundary", IsText d.boundary),
  ("assumptions", IsArray IsText d.assumptions),
  ("mitigations", IsArray IsMitigation d.mitigations),
  ("cve", IsEntry d.cve),
  ("likelihood", HasFactors (Prompt.factorKeys "likelihood") d.likelihood.values),
  ("impact", HasFactors (Prompt.factorKeys "impact") d.impact.values)]

/-- An element of the form that the prompt describes, for the values of a draft. -/
def Follows (x : Json) (d : Draft) : Prop := ∀ m ∈ asked d, ∃ y, x.field? m.1 = some y ∧ m.2 y

theorem asked_keys (d : Draft) : (asked d).map (·.1) = Prompt.keys := Prompt.eval_formatLines.1.symm

/-! ### Members and texts -/

variable {x y : Json} {name : String} {names : List String} {s : String}

theorem member?_cons (h : x.field? name = some y) (hy : y ≠ .null) :
    member? (name :: names) x = some y := by
  rw [member?, List.findSome?_cons, h]
  cases y with
  | null => exact absurd rfl hy
  | _ => rfl

theorem member?_cons_null (h : x.field? name = some .null) : member? (name :: names) x = none := by
  simp only [member?, List.findSome?_cons, h]

theorem IsText.ne_null (h : IsText s y) : y ≠ .null := by
  rintro rfl
  cases h.1

theorem scalarText?_of_isText (h : IsText s y) : scalarText? y = some s := by
  obtain ⟨rfl, hs, htrim⟩ := h
  have hempty : s.isEmpty = false := by
    rw [Bool.eq_false_iff, Ne, String.isEmpty_iff]
    rintro rfl
    cases hs
  simp [scalarText?, htrim, hempty]

theorem text?_of_isText (h : ∃ y, x.field? name = some y ∧ IsText s y) :
    text? (name :: names) x = some s := by
  obtain ⟨y, hfield, hy⟩ := h
  rw [text?, member?_cons hfield hy.ne_null]
  exact scalarText?_of_isText hy

theorem filterMap_of_forall₂ {α : Type} {item : α → Json → Prop} {read? : Json → Option α}
    {as : List α} {ys : List Json} (h : List.Forall₂ item as ys)
    (hread : ∀ {a y}, item a y → read? y = some a) : ys.filterMap read? = as := by
  induction h with
  | nil => rfl
  | cons h _ ih => rw [List.filterMap_cons_some (hread h), ih]

theorem exists_array_of_isArray {α : Type} {item : α → Json → Prop} {as : List α}
    (h : ∃ y, x.field? name = some y ∧ IsArray item as y) :
    ∃ ys, member? (name :: names) x = some (.array ys) ∧ List.Forall₂ item as ys := by
  obtain ⟨_, hfield, ys, rfl, hys⟩ := h
  exact ⟨ys, member?_cons hfield (by simp), hys⟩

theorem texts_of_isArray {ss : List String}
    (h : ∃ y, x.field? name = some y ∧ IsArray IsText ss y) :
    texts (member? (name :: names) x) = ss := by
  obtain ⟨ys, hmember, hys⟩ := exists_array_of_isArray h
  rw [hmember]
  exact filterMap_of_forall₂ hys scalarText?_of_isText

/-! ### Categories, mitigations and entries -/

theorem category_of_field {c : Stride} (h : ∃ y, x.field? name = some y ∧ y = .string c.name) :
    (text? (name :: names) x).bind Stride.parse? = some c := by
  obtain ⟨_, hfield, rfl⟩ := h
  have htext : IsText c.name (.string c.name) :=
    ⟨rfl, by cases c <;> rfl, by cases c <;> decide +kernel⟩
  rw [text?_of_isText ⟨_, hfield, htext⟩, Option.bind_some, Stride.parse?_name]

theorem mitigation?_of_isMitigation {m : Mitigation} (h : IsMitigation m y) :
    mitigation? y = some m := by
  cases m with
  | prose s =>
    have htext := scalarText?_of_isText h
    obtain ⟨rfl, -⟩ := h
    rw [mitigation?, htext]
    rfl
  | code file before after =>
    simp only [IsMitigation, Prompt.choices_mitigations, List.forall₂_cons] at h
    obtain ⟨hfile, hbefore, hafter, -⟩ := h
    cases y with
    | object ms =>
      simp only [mitigation?, text?_of_isText hfile, text?_of_isText hbefore,
        text?_of_isText hafter]
    | _ => simp [Json.field?] at hfile

theorem mitigations_of_isArray {ms : List Mitigation}
    (h : ∃ y, x.field? name = some y ∧ IsArray IsMitigation ms y) :
    mitigations (member? (name :: names) x) = ms := by
  obtain ⟨ys, hmember, hys⟩ := exists_array_of_isArray h
  rw [hmember]
  exact filterMap_of_forall₂ hys mitigation?_of_isMitigation

theorem cve?_of_isEntry {e : Option String} (h : ∃ y, x.field? "cve" = some y ∧ IsEntry e y) :
    cve? x = e := by
  cases e with
  | none =>
    obtain ⟨_, hfield, rfl⟩ := h
    rw [cve?, text?, member?_cons_null hfield]
    rfl
  | some s =>
    obtain ⟨y, hfield, htext, hs⟩ := h
    rw [cve?, text?_of_isText ⟨y, hfield, htext⟩, Option.filter_some_pos]
    simpa using hs

/-! ### Factors -/

/-- A whole number from 0 to 9 is a factor as it is. -/
theorem factorOf_nat {n : Nat} (h : n ≤ 9) : factorOf (some (.nat n)) = n := by
  have hall : ∀ n ≤ 9, factorOf (some (.nat n)) = n := by decide +kernel
  exact hall n h

theorem HasFactors.of_members {keys : List String} {ns : List Nat} {ms : List (String × Json)}
    (hms : ∀ m ∈ ms, ∀ key ∈ keys, underscored key ≠ key → m.1 ≠ underscored key)
    (hns : List.Forall₂ (fun n key =>
      (Json.object ms).field? key = some (.nat n) ∧ n ≤ 9) ns keys) :
    HasFactors keys ns (.object ms) where
  numbers := hns
  spelledOnce key hkey hother := by
    have hfind : ms.find? (fun m => m.1 == underscored key) = none := by
      rw [List.find?_eq_none]
      intro m hm heq
      exact hms m hm key hkey hother (beq_iff_eq.1 heq)
    rw [Json.field?, Json.member?, hfind]
    rfl

theorem orNull_member?_of_hasFactors (names : List String) {keys : List String} {ns : List Nat}
    (hne : ns ≠ []) (h : ∃ y, x.field? name = some y ∧ HasFactors keys ns y) :
    HasFactors keys ns (Json.orNull (member? (name :: names) x)) := by
  obtain ⟨y, hfield, hy⟩ := h
  have hnull : y ≠ .null := by
    rintro rfl
    cases hy.numbers with
    | nil => exact hne rfl
    | cons h _ => cases h.1
  rw [member?_cons hfield hnull]
  exact hy

/-- A factor is looked up under its name alone, since the other spelling is not there. -/
theorem HasFactors.factorOf_spelled {keys : List String} {ns : List Nat} {n : Nat}
    (h : HasFactors keys ns x) (other key : String)
    (hother : key ∈ keys ∧ underscored key = other ∧ other ≠ key)
    (hn : x.field? key = some (.nat n) ∧ n ≤ 9) : factorOf (spelled x other key) = n := by
  obtain ⟨hkey, rfl, hne⟩ := hother
  rw [spelled, h.spelledOnce key hkey hne, hn.1]
  exact factorOf_nat hn.2

theorem likelihood_of_hasFactors {l : Likelihood}
    (h : HasFactors (Prompt.factorKeys "likelihood") l.values x) : .ofUntrusted x = l := by
  rw [Prompt.factorKeys_likelihood] at h
  have hnumbers := h.numbers
  simp only [Likelihood.values, List.forall₂_cons] at hnumbers
  obtain ⟨hskill, hmotive, hopportunity, hsize, hdiscovery, hexploit, hawareness, hdetection, -⟩ :=
    hnumbers
  have hplain {key : String} {n : Nat} (h : x.field? key = some (.nat n) ∧ n ≤ 9) :
      factorOf (x.field? key) = n := by
    rw [h.1]
    exact factorOf_nat h.2
  simp only [Likelihood.ofUntrusted, hplain hmotive, hplain hopportunity, hplain hsize,
    hplain hawareness, h.factorOf_spelled "skill_level" "skillLevel" (by decide +kernel) hskill,
    h.factorOf_spelled "ease_of_discovery" "easeOfDiscovery" (by decide +kernel) hdiscovery,
    h.factorOf_spelled "ease_of_exploit" "easeOfExploit" (by decide +kernel) hexploit,
    h.factorOf_spelled "intrusion_detection" "intrusionDetection" (by decide +kernel) hdetection]

theorem impact_of_hasFactors {i : Impact}
    (h : HasFactors (Prompt.factorKeys "impact") i.values x) : .ofUntrusted x = i := by
  rw [Prompt.factorKeys_impact] at h
  have hnumbers := h.numbers
  simp only [Impact.values, List.forall₂_cons] at hnumbers
  obtain ⟨hconfidentiality, hintegrity, havailability, haccountability, -⟩ := hnumbers
  simp only [Impact.ofUntrusted,
    h.factorOf_spelled "loss_of_confidentiality" "lossOfConfidentiality" (by decide +kernel)
      hconfidentiality,
    h.factorOf_spelled "loss_of_integrity" "lossOfIntegrity" (by decide +kernel) hintegrity,
    h.factorOf_spelled "loss_of_availability" "lossOfAvailability" (by decide +kernel)
      havailability,
    h.factorOf_spelled "loss_of_accountability" "lossOfAccountability" (by decide +kernel)
      haccountability]

/-! ### Elements -/

theorem draftOf?_of_field (h : x.field? name = some y) : draftOf? x = some (draftOfObject x) := by
  cases x with
  | object ms => rfl
  | _ => simp [Json.field?] at h

theorem draftOf?_of_follows {d : Draft} (h : Follows x d) :
    draftOf? x = some { d with suggestedSeverity := text? ["severity"] x } := by
  simp only [Follows, asked, List.forall_mem_cons, List.not_mem_nil, IsEmpty.forall_iff,
    implies_true, and_true] at h
  obtain ⟨htitle, hcategory, hsource, hprerequisites, haction, hconsequence, hassets, hboundary,
    hassumptions, hmitigations, hcve, hlikelihood, himpact⟩ := h
  have hl := orNull_member?_of_hasFactors ["likelihoodFactors", "likelihood_factors"]
    (by simp [Likelihood.values]) hlikelihood
  have hi := orNull_member?_of_hasFactors ["impactFactors", "impact_factors"]
    (by simp [Impact.values]) himpact
  have hobject : draftOf? x = some (draftOfObject x) := by
    obtain ⟨_, hfield, -⟩ := htitle
    exact draftOf?_of_field hfield
  rw [hobject, draftOfObject]
  simp only [text?_of_isText htitle, category_of_field hcategory, text?_of_isText hsource,
    text?_of_isText hprerequisites, text?_of_isText haction, text?_of_isText hconsequence,
    texts_of_isArray hassets, text?_of_isText hboundary, texts_of_isArray hassumptions,
    mitigations_of_isArray hmitigations, cve?_of_isEntry hcve, likelihood_of_hasFactors hl,
    impact_of_hasFactors hi, Option.getD_some]

/-- **What the prompt asks for is understood.** The keys and the names of the categories are those
in the prompt, and an element that follows the format is read as exactly the values in it. A
severity is not asked for, and is passed on if there is one. -/
theorem format_understood (d : Draft) :
    (asked d).map (·.1) = Prompt.keys ∧
      Prompt.choices "strideCategory" = Stride.all.map Stride.name ∧
      ∀ x, Follows x d → draftOf? x = some { d with suggestedSeverity := text? ["severity"] x } :=
  ⟨asked_keys d, Prompt.choices_strideCategory, fun _ => draftOf?_of_follows⟩

/-- The members may come in any order, with others between them, among factors as well. -/
theorem format_understood_of_element :
    ∃ x d,
      x = .object [
        ("cve", .null),
        ("likelihood", .object [("motive", .nat 7), ("skillLevel", .nat 3), ("size", .nat 0),
          ("opportunity", .nat 9), ("easeOfDiscovery", .nat 1), ("easeOfExploit", .nat 2),
          ("how_rated", .string "by_hand"), ("awareness", .nat 4),
          ("intrusionDetection", .nat 6)]),
        ("impact", .object [("lossOfConfidentiality", .nat 9), ("lossOfIntegrity", .nat 0),
          ("lossOfAvailability", .nat 8), ("lossOfAccountability", .nat 1)]),
        ("notes", .string "none"), ("name", .string "T-1"),
        ("mitigations", .array [.string "Rotate the key", .object [("fixed", .string "b"),
          ("original", .string "a"), ("file", .string "é.js")]]),
        ("assumptions", .array []), ("impactedAssets", .array [.string "Keys", .string "Keys"]),
        ("trustBoundary", .string "Internet"), ("title", .string "Forged \"token\""),
        ("strideCategory", .string "Elevation of Privilege"), ("threatSource", .string "anyone"),
        ("prerequisites", .string "no account"), ("threatAction", .string "sign a token"),
        ("threatImpact", .string "access")] ∧
      d = {
        title := "Forged \"token\"", category := .elevationOfPrivilege, source := "anyone"
        prerequisites := "no account", action := "sign a token", consequence := "access"
        assets := ["Keys", "Keys"], boundary := "Internet", assumptions := []
        mitigations := [.prose "Rotate the key", .code "é.js" "a" "b"], cve := none
        likelihood := ⟨3, 7, 9, 0, 1, 2, 4, 6⟩, impact := ⟨9, 0, 8, 1⟩
        suggestedSeverity := none } ∧
      Follows x d ∧ draftOf? x = some d := by
  have hread {x d} (h : Follows x d) (hs : d.suggestedSeverity = text? ["severity"] x) :
      Follows x d ∧ draftOf? x = some d :=
    ⟨h, by rw [(format_understood d).2.2 x h, ← hs]⟩
  refine ⟨_, _, rfl, rfl, hread ?_ rfl⟩
  have htext {s : String} (hs : Text.trimmed s = s) (hb : Nonblank s) :
      IsText s (.string s) :=
    ⟨rfl, hb, hs⟩
  simp only [Follows, asked, List.forall_mem_cons, List.not_mem_nil, IsEmpty.forall_iff,
    implies_true, and_true]
  refine ⟨⟨_, rfl, htext (by decide +kernel) rfl⟩, ⟨_, rfl, rfl⟩,
    ⟨_, rfl, htext (by decide +kernel) rfl⟩, ⟨_, rfl, htext (by decide +kernel) rfl⟩,
    ⟨_, rfl, htext (by decide +kernel) rfl⟩, ⟨_, rfl, htext (by decide +kernel) rfl⟩,
    ⟨_, rfl, _, rfl, ?assets⟩, ⟨_, rfl, htext (by decide +kernel) rfl⟩, ⟨_, rfl, _, rfl, .nil⟩,
    ⟨_, rfl, _, rfl, ?mitigations⟩, ⟨_, rfl, rfl⟩, ⟨_, rfl, ?likelihood⟩, ⟨_, rfl, ?impact⟩⟩
  case assets =>
    have hkeys : IsText "Keys" (.string "Keys") := htext (by decide +kernel) rfl
    exact .cons hkeys (.cons hkeys .nil)
  case mitigations =>
    refine .cons (htext (by decide +kernel) rfl) (.cons ?_ .nil)
    rw [IsMitigation, Prompt.choices_mitigations]
    exact .cons ⟨_, rfl, htext (by decide +kernel) rfl⟩
      (.cons ⟨_, rfl, htext (by decide +kernel) rfl⟩
        (.cons ⟨_, rfl, htext (by decide +kernel) rfl⟩ .nil))
  case likelihood =>
    rw [Prompt.factorKeys_likelihood]
    refine .of_members (by decide +kernel) ?_
    simp [Likelihood.values, Json.field?, Json.member?, Json.nat]
  case impact =>
    rw [Prompt.factorKeys_impact]
    refine .of_members (by decide +kernel) ?_
    simp [Impact.values, Json.field?, Json.member?, Json.nat]

end Reply

end ThreatModel
