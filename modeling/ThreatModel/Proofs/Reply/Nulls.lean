import ThreatModel.Proofs.Reply.Format
import ThreatModel.Proofs.Threat.Suggestion

/-!
# Members that are null

A field of a draft has several names, and the first of them that an element has is looked up: also
when the member there is `null`, which counts as no member only afterwards. So a null can hide a
member that has a later name (`name_hidden_by_null`), in an element as well as in its factors and its
mitigations.

`hidden?` is the member that a null hides among some names, and `null_counts_as_absent_iff` says that
this is all: the draft is the one of the element without the null exactly when no hidden member
would have been of use. What a draft, the factors and the texts of a mitigation look up is a
`Layout`: the names of each part, and what the part is for the member found.
-/

namespace ThreatModel

namespace Json

variable {key name : String} {x y z : Json}

/-- A value without its members of one name. -/
def without (key : String) : Json → Json
  | object ms => object (ms.filter fun m => m.1 != key)
  | x => x

/-- A value with a member in place of the one of the same name. -/
def withMember (key : String) : Json → Json → Json
  | object ms, y => object (setMember key y ms)
  | x, _ => x

theorem exists_object_of_field? (h : x.field? key = some z) : ∃ ms, x = .object ms := by
  cases x with
  | object ms => exact ⟨ms, rfl⟩
  | _ => cases h

theorem field?_without_self (key : String) (x : Json) : (x.without key).field? key = none := by
  cases x with
  | object ms =>
    have hnone : (ms.filter fun m => m.1 != key).find? (fun m => m.1 == key) = none := by
      rw [List.find?_eq_none]
      intro m hm
      simpa using (List.mem_filter.1 hm).2
    rw [without, field?, member?, hnone, Option.map_none]
  | _ => rfl

theorem field?_without_of_ne (h : name ≠ key) (x : Json) :
    (x.without key).field? name = x.field? name := by
  cases x with
  | object ms =>
    have hfind : (ms.filter fun m => m.1 != key).find? (fun m => m.1 == name) =
        ms.find? fun m => m.1 == name := by
      rw [List.find?_filter]
      congr 1
      funext m
      by_cases hm : m.1 = name <;> simp [hm, h]
    rw [without, field?, field?, member?, member?, hfind]
  | _ => rfl

theorem member?_setMember (key : String) (y : Json) (ms : List (String × Json)) (name : String) :
    member? (setMember key y ms) name = if name = key then some y else member? ms name := by
  have hcons (m : String × Json) (ms : List (String × Json)) :
      member? (m :: ms) name = if name = m.1 then some m.2 else member? ms name := by
    by_cases h : m.1 = name
    · simp [member?, h]
    · simp [member?, h, Ne.symm h]
  induction ms with
  | nil => exact hcons (key, y) []
  | cons m ms ih =>
    by_cases hkey : m.1 = key
    · rw [setMember, if_pos (by simpa using hkey), hcons, hcons, hkey]
      split <;> rfl
    · rw [setMember, if_neg (by simpa using hkey), hcons, hcons, ih]
      split_ifs with hm hname
      · exact absurd (hm.symm.trans hname) hkey
      all_goals rfl

theorem field?_withMember (h : x.field? key = some z) (y : Json) (name : String) :
    (x.withMember key y).field? name = if name = key then some y else x.field? name := by
  obtain ⟨ms, rfl⟩ := exists_object_of_field? h
  exact member?_setMember key y ms name

/-- A value and what it is with one object in it, itself or an item of an array, exchanged. -/
inductive Exchanged (z z' : Json) : Json → Json → Prop
  | whole : Exchanged z z' z z'
  | item (xs ys : List Json) : Exchanged z z' (.array (xs ++ z :: ys)) (.array (xs ++ z' :: ys))

end Json

namespace Reply

open Json (Exchanged)

variable {x y y' z : Json} {k n : String} {names : List String}

/-! ### Lookups -/

theorem member?_cons_none (h : x.field? n = none) : member? (n :: names) x = member? names x := by
  rw [member?, List.findSome?_cons, h]
  rfl

/-- What a null under one name hides: the member that would be found if it were not there. -/
def hidden? (k : String) (x : Json) : List String → Option Json
  | [] => none
  | n :: names =>
    if n = k then member? names x else if (x.field? n).isSome then none else hidden? k x names

/-- The first of some names that a value has. -/
def firstName? (names : List String) (x : Json) : Option String :=
  names.find? fun n => (x.field? n).isSome

section Null

variable (hnull : x.field? k = some .null)

include hnull

theorem member?_without (hnames : names.Nodup) :
    member? names (x.without k) = (member? names x).or (hidden? k x names) := by
  induction names with
  | nil => rfl
  | cons n names ih =>
    obtain ⟨hn, hnames⟩ := List.nodup_cons.1 hnames
    by_cases hnk : n = k
    · subst hnk
      -- The other names do not see that the null is gone.
      have hagree : Json.AgreeExcept n (x.without n) x := by
        obtain ⟨ms, rfl⟩ := Json.exists_object_of_field? hnull
        exact .object fun m hm => Json.field?_without_of_ne hm (.object ms)
      rw [member?_cons_none (Json.field?_without_self n x), member?_congr hagree hn,
        member?_cons_null hnull, Option.none_or, hidden?, if_pos rfl]
    · have hfield := Json.field?_without_of_ne hnk x
      rw [hidden?, if_neg hnk]
      cases h : x.field? n with
      | none =>
        rw [member?_cons_none (hfield.trans h), member?_cons_none h, ih hnames]
        rfl
      | some y =>
        have hfound : member? (n :: names) (x.without k) = member? (n :: names) x := by
          rw [member?, member?, List.findSome?_cons, List.findSome?_cons, hfield, h]
        rw [hfound]
        exact (Option.or_none).symm

theorem member?_eq_none_of_hidden (h : hidden? k x names ≠ none) : member? names x = none := by
  induction names with
  | nil => rfl
  | cons n names ih =>
    rw [hidden?] at h
    split_ifs at h with hnk hsome
    · exact member?_cons_null (hnk ▸ hnull)
    · exact absurd rfl h
    · rw [member?_cons_none (by simpa using hsome), ih h]

end Null

theorem mem_of_hidden (h : hidden? k x names ≠ none) : k ∈ names := by
  induction names with
  | nil => exact absurd rfl h
  | cons n names ih =>
    rw [hidden?] at h
    split_ifs at h with hnk hsome
    · exact List.mem_cons.2 (.inl hnk.symm)
    · exact absurd rfl h
    · exact List.mem_cons_of_mem n (ih h)

theorem hidden?_of_notMem (h : k ∉ names) : hidden? k x names = none :=
  not_not.1 (mt mem_of_hidden h)

theorem member?_of_firstName? (h : x.field? n = some z) (hz : z ≠ .null)
    (hn : firstName? names x = some n) : member? names x = some z := by
  induction names with
  | nil => cases hn
  | cons m names ih =>
    rw [firstName?, List.find?_cons] at hn
    split at hn
    next => cases hn; exact member?_cons h hz
    next hnone => rw [member?_cons_none (by simpa using hnone), ih hn]

/-- Another member under a name is seen where the name is the first that is there. -/
theorem member?_withMember (h : x.field? n = some z) (hy : y ≠ .null) :
    member? names (x.withMember n y) =
      if firstName? names x = some n then some y else member? names x := by
  have hfield := Json.field?_withMember h y
  induction names with
  | nil => rfl
  | cons m names ih =>
    by_cases hmn : m = n
    · subst hmn
      have hfirst : firstName? (m :: names) x = some m := by simp [firstName?, h]
      rw [if_pos hfirst]
      exact member?_cons ((hfield m).trans (if_pos rfl)) hy
    · have hm : (x.withMember n y).field? m = x.field? m := (hfield m).trans (if_neg hmn)
      cases hx : x.field? m with
      | none =>
        have hfirst : firstName? (m :: names) x = firstName? names x := by simp [firstName?, hx]
        rw [hfirst, member?_cons_none (hm.trans hx), member?_cons_none hx, ih]
      | some y₀ =>
        have hfirst : firstName? (m :: names) x ≠ some n := by simp [firstName?, hx, hmn]
        rw [if_neg hfirst, member?, member?, List.findSome?_cons, List.findSome?_cons, hm, hx]

/-! ### Layouts -/

/-- A part of a record: the names that are looked up for it, and what it is for the member found. -/
structure Slot (ρ : Type) where
  names : List String
  Value : Type
  read : Option Json → Value
  part : ρ → Value

/-- The parts of the records that a function makes of values. -/
structure Layout {ρ : Type} (make : Json → ρ) where
  slots : List (Slot ρ)
  nodup : ∀ s ∈ slots, s.names.Nodup
  disjoint : slots.Pairwise fun s t => s.names.Disjoint t.names
  part_make : ∀ s ∈ slots, ∀ x, s.part (make x) = s.read (member? s.names x)
  ext : ∀ d e, (∀ s ∈ slots, s.part d = s.part e) → d = e

namespace Layout

variable {ρ : Type} {make : Json → ρ} (L : Layout make)

/-- What a null hides is read as if there were nothing. -/
def HidesNothing (k : String) (x : Json) : Prop :=
  ∀ s ∈ L.slots, s.read (hidden? k x s.names) = s.read none

theorem make_eq_iff : make x = make y ↔
    ∀ s ∈ L.slots, s.read (member? s.names x) = s.read (member? s.names y) := by
  constructor
  · intro h s hs
    rw [← L.part_make s hs, ← L.part_make s hs, h]
  · intro h
    refine L.ext _ _ fun s hs => ?_
    rw [L.part_make s hs, L.part_make s hs, h s hs]

/-- **A null counts as absent where it hides nothing**, and nowhere else. -/
theorem make_without_iff (hnull : x.field? k = some .null) :
    make (x.without k) = make x ↔ L.HidesNothing k x := by
  rw [L.make_eq_iff]
  refine forall₂_congr fun s hs => ?_
  rw [member?_without hnull (L.nodup s hs)]
  by_cases h : hidden? k x s.names = none
  · rw [h, Option.or_none]
    exact iff_of_true rfl rfl
  · rw [member?_eq_none_of_hidden hnull h, Option.none_or]

theorem eq_of_mem_names {s t : Slot ρ} (hs : s ∈ L.slots) (ht : t ∈ L.slots) (hn : n ∈ s.names)
    (hn' : n ∈ t.names) : s = t := by
  have : Std.Symm fun s t : Slot ρ => s.names.Disjoint t.names := ⟨fun _ _ h => h.symm⟩
  by_contra hne
  exact L.disjoint.forall hs ht hne hn hn'

/-- A null matters to the part that has its name, and to no other. -/
theorem hidesNothing_iff {s : Slot ρ} (hs : s ∈ L.slots) (hk : k ∈ s.names) :
    L.HidesNothing k x ↔ s.read (hidden? k x s.names) = s.read none := by
  refine ⟨fun h => h s hs, fun h t ht => ?_⟩
  by_cases hkt : k ∈ t.names
  · obtain rfl := L.eq_of_mem_names ht hs hkt hk
    exact h
  · rw [hidden?_of_notMem hkt]

/-- Another member is noticed by the part that finds it, and by no other. -/
theorem make_withMember_iff {s : Slot ρ} (hs : s ∈ L.slots) (hfirst : firstName? s.names x = some n)
    (h : x.field? n = some z) (hz : z ≠ .null) (hy : y ≠ .null) :
    make (x.withMember n y) = make x ↔ s.read (some y) = s.read (some z) := by
  have hpart {t : Slot ρ} (ht : t ∈ L.slots) (hfound : firstName? t.names x = some n) : t = s :=
    L.eq_of_mem_names ht hs (List.mem_of_find?_eq_some hfound) (List.mem_of_find?_eq_some hfirst)
  rw [L.make_eq_iff]
  constructor
  · intro hread
    have := hread s hs
    rwa [member?_withMember h hy, if_pos hfirst, member?_of_firstName? h hz hfirst] at this
  · intro hread t ht
    rw [member?_withMember h hy]
    split_ifs with hfound
    · obtain rfl := hpart ht hfound
      rw [member?_of_firstName? h hz hfirst, hread]
    · rfl

end Layout

/-- A text with a default. -/
def textSlot {ρ : Type} (names : List String) (default : String) (part : ρ → String) : Slot ρ where
  names := names
  Value := String
  read y := (y.bind scalarText?).getD default
  part := part

/-- A factor. -/
def factorSlot {ρ : Type} (names : List String) (part : ρ → ℕ) : Slot ρ where
  names := names
  Value := ℕ
  read := factorOf
  part := part

/-- The factors of a draft for its likelihood. -/
def likelihoodSlot : Slot Draft where
  names := ["likelihood", "likelihoodFactors", "likelihood_factors"]
  Value := Likelihood
  read y := .ofUntrusted (Json.orNull y)
  part := Draft.likelihood

/-- The factors of a draft for its impact. -/
def impactSlot : Slot Draft where
  names := ["impact", "impactFactors", "impact_factors"]
  Value := Impact
  read y := .ofUntrusted (Json.orNull y)
  part := Draft.impact

/-- The mitigations of a draft. -/
def mitigationSlot : Slot Draft where
  names := ["mitigations", "mitigation"]
  Value := List Mitigation
  read := mitigations
  part := Draft.mitigations

/-- What is looked up for a draft. -/
def draftLayout : Layout draftOfObject where
  slots := [
    textSlot ["title", "name"] defaultTitle Draft.title,
    { names := ["strideCategory", "stride_category", "category", "stride"]
      Value := Stride
      read := fun y => ((y.bind scalarText?).bind Stride.parse?).getD defaultCategory
      part := Draft.category },
    textSlot ["threatSource", "threat_source"] unspecified Draft.source,
    textSlot ["prerequisites"] unspecified Draft.prerequisites,
    textSlot ["threatAction", "threat_action"] unspecified Draft.action,
    textSlot ["threatImpact", "threat_impact"] unspecified Draft.consequence,
    ⟨["impactedAssets", "impacted_assets"], List String, texts, Draft.assets⟩,
    textSlot ["trustBoundary", "trust_boundary"] defaultBoundary Draft.boundary,
    ⟨["assumptions"], List String, texts, Draft.assumptions⟩,
    mitigationSlot,
    { names := ["cve", "CVE"]
      Value := Option String
      read := fun y => (y.bind scalarText?).filter fun t => !noneMarkers.contains (Text.asciiLower t)
      part := Draft.cve },
    likelihoodSlot,
    impactSlot,
    { names := ["severity"]
      Value := Option String
      read := fun y => y.bind scalarText?
      part := Draft.suggestedSeverity }]
  nodup := by
    simp [textSlot, likelihoodSlot, impactSlot, mitigationSlot]
  disjoint := by
    simp [textSlot, likelihoodSlot, impactSlot, mitigationSlot]
  part_make := by
    intro s hs x
    simp only [List.mem_cons, List.not_mem_nil, or_false] at hs
    rcases hs with rfl | rfl | rfl | rfl | rfl | rfl | rfl | rfl | rfl | rfl | rfl | rfl | rfl | rfl
      <;> rfl
  ext := by
    rintro ⟨⟩ ⟨⟩ h
    simpa [textSlot, likelihoodSlot, impactSlot, mitigationSlot] using h

/-- A factor that is null is as neutral as a missing one. -/
theorem factorOf_member?_cons (h : x.field? n = some y) (names : List String) :
    factorOf (member? (n :: names) x) = factorOf (some y) := by
  by_cases hy : y = .null
  · subst hy
    rw [member?_cons_null h]
    rfl
  · rw [member?_cons h hy]

theorem factorOf_field? (n : String) (x : Json) :
    factorOf (x.field? n) = factorOf (member? [n] x) := by
  cases h : x.field? n with
  | none => rw [member?_cons_none h]; rfl
  | some y => rw [factorOf_member?_cons h]

theorem factorOf_spelled_eq (first second : String) (x : Json) :
    factorOf (spelled x first second) = factorOf (member? [first, second] x) := by
  unfold spelled
  cases h : x.field? first with
  | none =>
    rw [member?_cons_none h]
    exact factorOf_field? second x
  | some y => rw [factorOf_member?_cons h]

/-- What is looked up for the factors of a likelihood. -/
def likelihoodLayout : Layout Likelihood.ofUntrusted where
  slots := [
    factorSlot ["skill_level", "skillLevel"] Likelihood.skillLevel,
    factorSlot ["motive"] Likelihood.motive,
    factorSlot ["opportunity"] Likelihood.opportunity,
    factorSlot ["size"] Likelihood.size,
    factorSlot ["ease_of_discovery", "easeOfDiscovery"] Likelihood.easeOfDiscovery,
    factorSlot ["ease_of_exploit", "easeOfExploit"] Likelihood.easeOfExploit,
    factorSlot ["awareness"] Likelihood.awareness,
    factorSlot ["intrusion_detection", "intrusionDetection"] Likelihood.intrusionDetection]
  nodup := by simp [factorSlot]
  disjoint := by simp [factorSlot]
  part_make := by
    intro s hs x
    simp only [List.mem_cons, List.not_mem_nil, or_false] at hs
    rcases hs with rfl | rfl | rfl | rfl | rfl | rfl | rfl | rfl
    exacts [factorOf_spelled_eq _ _ x, factorOf_field? _ x, factorOf_field? _ x,
      factorOf_field? _ x, factorOf_spelled_eq _ _ x, factorOf_spelled_eq _ _ x,
      factorOf_field? _ x, factorOf_spelled_eq _ _ x]
  ext := by
    rintro ⟨⟩ ⟨⟩ h
    simpa [factorSlot] using h

/-- What is looked up for the factors of an impact. -/
def impactLayout : Layout Impact.ofUntrusted where
  slots := [
    factorSlot ["loss_of_confidentiality", "lossOfConfidentiality"] Impact.lossOfConfidentiality,
    factorSlot ["loss_of_integrity", "lossOfIntegrity"] Impact.lossOfIntegrity,
    factorSlot ["loss_of_availability", "lossOfAvailability"] Impact.lossOfAvailability,
    factorSlot ["loss_of_accountability", "lossOfAccountability"] Impact.lossOfAccountability]
  nodup := by simp [factorSlot]
  disjoint := by simp [factorSlot]
  part_make := by
    intro s hs x
    simp only [List.mem_cons, List.not_mem_nil, or_false] at hs
    rcases hs with rfl | rfl | rfl | rfl <;> exact factorOf_spelled_eq _ _ x
  ext := by
    rintro ⟨⟩ ⟨⟩ h
    simpa [factorSlot] using h

/-! ### Mitigations -/

/-- The names of the file, of the code before and of the code after, in an object that holds a
change of code. -/
def changeNames : List (List String) :=
  [["file", "path"], ["original", "originalCode", "original_code"],
    ["fixed", "fixedCode", "fixed_code"]]

/-- The names of the text of a mitigation that is no change of code. -/
def proseNames : List String := ["text", "description", "mitigation"]

/-- The text that a null hides among some names. -/
def hiddenText? (k : String) (x : Json) (names : List String) : Option String :=
  (hidden? k x names).bind scalarText?

/-- What a null hides is of no use for a mitigation: one of the three texts of a change is of none
if another one is missing, and the text of a sentence if none is missing. -/
@[mk_iff]
structure HidesNoMitigation (k : String) (x : Json) : Prop where
  change : ∀ names ∈ changeNames, hiddenText? k x names = none ∨
    ∃ others ∈ changeNames, others ≠ names ∧ text? others x = none
  prose : hiddenText? k x proseNames = none ∨ ∀ names ∈ changeNames, text? names x ≠ none

theorem text?_without (hnull : x.field? k = some .null) (hnames : names.Nodup) :
    text? names (x.without k) = (text? names x).or (hiddenText? k x names) := by
  rw [text?, text?, hiddenText?, member?_without hnull hnames]
  by_cases h : hidden? k x names = none
  · rw [h, Option.or_none, Option.bind_none, Option.or_none]
  · rw [member?_eq_none_of_hidden hnull h, Option.none_or, Option.bind_none, Option.none_or]

theorem text?_eq_none_of_hidden (hnull : x.field? k = some .null)
    (h : hiddenText? k x names ≠ none) : text? names x = none := by
  have hhidden : hidden? k x names ≠ none := by
    intro hnone
    rw [hiddenText?, hnone] at h
    exact h rfl
  rw [text?, member?_eq_none_of_hidden hnull hhidden, Option.bind_none]

/-- The mitigation that the texts of an object make: file, code before, code after and sentence. -/
def ofTexts? : Option String → Option String → Option String → Option String → Option Mitigation
  | some file, some before, some after, _ => some (.code file before after)
  | _, _, _, text => text.map .prose

theorem mitigation?_object (ms : List (String × Json)) :
    mitigation? (.object ms) = ofTexts? (text? ["file", "path"] (.object ms))
      (text? ["original", "originalCode", "original_code"] (.object ms))
      (text? ["fixed", "fixedCode", "fixed_code"] (.object ms)) (text? proseNames (.object ms)) := by
  unfold mitigation? ofTexts?
  dsimp only
  split <;> simp_all [proseNames]

/-- One more text changes the mitigation if it completes a change of code, or if it is the sentence
and there is no change of code. -/
theorem ofTexts?_or_iff {f b a p f' b' a' p' : Option String}
    (hf : f' ≠ none → f = none ∧ b' = none ∧ a' = none ∧ p' = none)
    (hb : b' ≠ none → b = none ∧ a' = none ∧ p' = none) (ha : a' ≠ none → a = none ∧ p' = none)
    (hp : p' ≠ none → p = none) :
    ofTexts? (f.or f') (b.or b') (a.or a') (p.or p') = ofTexts? f b a p ↔
      (f' = none ∨ b = none ∨ a = none) ∧ (b' = none ∨ f = none ∨ a = none) ∧
        (a' = none ∨ f = none ∨ b = none) ∧ (p' = none ∨ f ≠ none ∧ b ≠ none ∧ a ≠ none) := by
  cases f' with
  | some t =>
    obtain ⟨rfl, rfl, rfl, rfl⟩ := hf (by simp)
    cases b <;> cases a <;> cases p <;> simp [ofTexts?]
  | none =>
    cases b' with
    | some t =>
      obtain ⟨rfl, rfl, rfl⟩ := hb (by simp)
      cases f <;> cases a <;> cases p <;> simp [ofTexts?]
    | none =>
      cases a' with
      | some t =>
        obtain ⟨rfl, rfl⟩ := ha (by simp)
        cases f <;> cases b <;> cases p <;> simp [ofTexts?]
      | none =>
        cases p' with
        | some t =>
          obtain rfl := hp (by simp)
          cases f <;> cases b <;> cases a <;> simp [ofTexts?]
        | none => simp

theorem mem_of_hiddenText (h : hiddenText? k x names ≠ none) : k ∈ names := by
  refine mem_of_hidden (x := x) fun hnone => h ?_
  rw [hiddenText?, hnone, Option.bind_none]

theorem hiddenText?_of_notMem (h : k ∉ names) : hiddenText? k x names = none :=
  not_not.1 (mt mem_of_hiddenText h)

/-- **A null in a mitigation counts as absent where it hides nothing of use.** -/
theorem mitigation?_without_iff (hnull : x.field? k = some .null) :
    mitigation? (x.without k) = mitigation? x ↔ HidesNoMitigation k x := by
  obtain ⟨ms, rfl⟩ := Json.exists_object_of_field? hnull
  -- No name stands for two of the four texts, so that one null hides at most one of them.
  have hfile : ∀ k ∈ ["file", "path"], k ∉ ["original", "originalCode", "original_code"] ∧
      k ∉ ["fixed", "fixedCode", "fixed_code"] ∧ k ∉ proseNames := by decide
  have hbefore : ∀ k ∈ ["original", "originalCode", "original_code"],
      k ∉ ["fixed", "fixedCode", "fixed_code"] ∧ k ∉ proseNames := by decide
  have hafter : ∀ k ∈ ["fixed", "fixedCode", "fixed_code"], k ∉ proseNames := by decide
  have htexts := ofTexts?_or_iff
    (fun h => ⟨text?_eq_none_of_hidden hnull h,
      hiddenText?_of_notMem (hfile k (mem_of_hiddenText h)).1,
      hiddenText?_of_notMem (hfile k (mem_of_hiddenText h)).2.1,
      hiddenText?_of_notMem (hfile k (mem_of_hiddenText h)).2.2⟩)
    (fun h => ⟨text?_eq_none_of_hidden hnull h,
      hiddenText?_of_notMem (hbefore k (mem_of_hiddenText h)).1,
      hiddenText?_of_notMem (hbefore k (mem_of_hiddenText h)).2⟩)
    (fun h => ⟨text?_eq_none_of_hidden hnull h,
      hiddenText?_of_notMem (hafter k (mem_of_hiddenText h))⟩)
    (text?_eq_none_of_hidden hnull)
  rw [Json.without, mitigation?_object, mitigation?_object, ← Json.without,
    text?_without hnull (by decide), text?_without hnull (by decide),
    text?_without hnull (by decide), text?_without hnull (by decide), htexts, hidesNoMitigation_iff]
  simp [changeNames, and_assoc]

/-- An object among the mitigations is read by itself. -/
theorem mitigations_exchanged_iff {z z' : Json} (hz : ∃ ms, z = .object ms)
    (hz' : ∃ ms, z' = .object ms) (h : Exchanged z z' y y') :
    mitigations (some y') = mitigations (some y) ↔ mitigation? z' = mitigation? z := by
  cases h with
  | whole =>
    obtain ⟨ms, rfl⟩ := hz
    obtain ⟨ms', rfl⟩ := hz'
    show (mitigation? (.object ms')).toList = (mitigation? (.object ms)).toList ↔ _
    cases mitigation? (.object ms') <;> cases mitigation? (.object ms) <;> simp
  | item xs ys =>
    rw [mitigations, mitigations, List.filterMap_append, List.filterMap_append,
      List.append_cancel_left_eq, List.filterMap_cons, List.filterMap_cons]
    cases mitigation? z' <;> cases mitigation? z <;> simp

/-! ### Drafts -/

theorem draftOf?_without_iff (hnull : x.field? k = some .null) :
    draftOf? (x.without k) = draftOf? x ↔ draftLayout.HidesNothing k x := by
  obtain ⟨ms, rfl⟩ := Json.exists_object_of_field? hnull
  exact Option.some_inj.trans (draftLayout.make_without_iff hnull)

theorem draftOf?_withMember_iff {s : Slot Draft} (hs : s ∈ draftLayout.slots)
    (hfirst : firstName? s.names x = some n) (h : x.field? n = some z) (hz : z ≠ .null)
    (hy : y ≠ .null) :
    draftOf? (x.withMember n y) = draftOf? x ↔ s.read (some y) = s.read (some z) := by
  obtain ⟨ms, rfl⟩ := Json.exists_object_of_field? h
  exact Option.some_inj.trans (draftLayout.make_withMember_iff hs hfirst h hz hy)

/-- A value with a member is no null, with or without the member. -/
theorem ne_null_of_field? (h : x.field? k = some z) : x ≠ .null ∧ x.without k ≠ .null := by
  obtain ⟨ms, rfl⟩ := Json.exists_object_of_field? h
  exact ⟨by simp, by simp [Json.without]⟩

/-- **A null counts as absent where it hides nothing of use**: in an element, in the factors of its
likelihood and its impact, and in an object among its mitigations. -/
theorem null_counts_as_absent_iff (x : Json) :
    (∀ k, x.field? k = some .null →
      (draftOf? (x.without k) = draftOf? x ↔ draftLayout.HidesNothing k x)) ∧
    (∀ n z k, firstName? likelihoodSlot.names x = some n → x.field? n = some z →
      z.field? k = some .null →
      (draftOf? (x.withMember n (z.without k)) = draftOf? x ↔
        likelihoodLayout.HidesNothing k z)) ∧
    (∀ n z k, firstName? impactSlot.names x = some n → x.field? n = some z →
      z.field? k = some .null →
      (draftOf? (x.withMember n (z.without k)) = draftOf? x ↔ impactLayout.HidesNothing k z)) ∧
    ∀ n y y' z k, firstName? mitigationSlot.names x = some n → x.field? n = some y →
      z.field? k = some .null → Exchanged z (z.without k) y y' →
      (draftOf? (x.withMember n y') = draftOf? x ↔ HidesNoMitigation k z) := by
  refine ⟨fun k => draftOf?_without_iff, fun n z k hfirst h hnull => ?_,
    fun n z k hfirst h hnull => ?_, fun n y y' z k hfirst h hnull hy => ?_⟩
  · obtain ⟨hz, hz'⟩ := ne_null_of_field? hnull
    rw [draftOf?_withMember_iff (by simp [draftLayout]) hfirst h hz hz']
    exact likelihoodLayout.make_without_iff hnull
  · obtain ⟨hz, hz'⟩ := ne_null_of_field? hnull
    rw [draftOf?_withMember_iff (by simp [draftLayout]) hfirst h hz hz']
    exact impactLayout.make_without_iff hnull
  · obtain ⟨ms, rfl⟩ := Json.exists_object_of_field? hnull
    have hne : y ≠ .null ∧ y' ≠ .null := by
      cases hy <;> simp [Json.without]
    rw [draftOf?_withMember_iff (by simp [draftLayout]) hfirst h hne.1 hne.2]
    exact (mitigations_exchanged_iff ⟨_, rfl⟩ ⟨_, rfl⟩ hy).trans (mitigation?_without_iff hnull)

/-- An element with nulls that hide nothing of use: a blank title, no other factor or one
that is no number, and the file of a change of code without its code. -/
def idleNulls : Json :=
  .object [("title", .null), ("name", .string " "), ("likelihood", .object [("motive", .null)]),
    ("impact", .object [("loss_of_integrity", .null), ("lossOfIntegrity", .bool true)]),
    ("mitigations", .array [.string "Rotate tokens",
      .object [("file", .null), ("path", .string "a.js"), ("text", .string "Check the input")]])]

theorem null_counts_as_absent_of_idle :
    draftOf? (idleNulls.without "title") = draftOf? idleNulls ∧
      draftOf? (idleNulls.withMember "likelihood" (.object [])) = draftOf? idleNulls ∧
      draftOf? (idleNulls.withMember "impact" (.object [("lossOfIntegrity", .bool true)])) =
        draftOf? idleNulls ∧
      draftOf? (idleNulls.withMember "mitigations" (.array [.string "Rotate tokens",
        .object [("path", .string "a.js"), ("text", .string "Check the input")]])) =
        draftOf? idleNulls := by
  obtain ⟨helement, hlikelihood, himpact, hmitigations⟩ := null_counts_as_absent_iff idleNulls
  have htitle : draftLayout.HidesNothing "title" idleNulls :=
    (draftLayout.hidesNothing_iff List.mem_cons_self (by decide)).2
      (show (scalarText? (.string " ")).getD defaultTitle = defaultTitle by decide)
  have hmotive : likelihoodLayout.HidesNothing "motive" (.object [("motive", .null)]) :=
    (likelihoodLayout.hidesNothing_iff (List.mem_cons_of_mem _ List.mem_cons_self) (by decide)).2
      rfl
  have hintegrity : impactLayout.HidesNothing "loss_of_integrity"
      (.object [("loss_of_integrity", .null), ("lossOfIntegrity", .bool true)]) :=
    (impactLayout.hidesNothing_iff (List.mem_cons_of_mem _ List.mem_cons_self) (by decide)).2 rfl
  have hfile : HidesNoMitigation "file" (.object [("file", .null), ("path", .string "a.js"),
      ("text", .string "Check the input")]) := by
    rw [hidesNoMitigation_iff]
    simp [changeNames, proseNames, hiddenText?, hidden?, text?, member?, Json.field?, Json.member?]
  exact ⟨(helement "title" rfl).2 htitle,
    (hlikelihood "likelihood" _ "motive" rfl rfl rfl).2 hmotive,
    (himpact "impact" _ "loss_of_integrity" rfl rfl rfl).2 hintegrity,
    (hmitigations "mitigations" _ _ _ "file" rfl rfl rfl (.item [.string "Rotate tokens"] [])).2
      hfile⟩

/-- A null hides the title under the next name. -/
theorem name_hidden_by_null :
    (draftOf? (.object [("title", .null), ("name", .string "Forged token")])).map Draft.title =
        some "Untitled threat" ∧
      (draftOf? (Json.without "title"
        (.object [("title", .null), ("name", .string "Forged token")]))).map Draft.title =
          some "Forged token" := by
  decide +kernel

end Reply

end ThreatModel
