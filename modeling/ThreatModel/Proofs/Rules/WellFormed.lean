import Mathlib
import ThreatModel.Proofs.Threat.WellFormed
import ThreatModel.Rules.Threats

/-!
# Rules give well-formed drafts

The threats by rules are well-formed if every component of the analysis has a name
(`wellFormed_of_mem_ruleThreats`), whatever the findings are. In the analyses of files and of
documents every component has one (`named_extract`, `named_extractDocument`).

Most texts of such a threat come from a table without blank texts, alone or with the name of a file
or of a component added; a threat of the architecture is about a component or about the whole
application (`exists_target_of_mem_architectureThreats`). The only text that is taken from a finding
as it stands is the line of code that is to be changed; there is a change only if an assignment is
found in that line, and none is found among blanks (`nonblank_of_secretFix?`).
-/

namespace ThreatModel

open Text (Cursor Nonblank isBlank)

/-! ### Patterns among blanks -/

namespace Pattern

variable {α β : Type} {s : CharSet} {k : Cursor}

theorem run_one_eq_none (h : ∀ c ∈ k.after, s c = false) (cont : Cursor → Option β) :
    run (one s) k cont = none := by
  rw [run]
  split
  next => rfl
  next c r hk =>
    have hc : s c = false := h c (by simp [hk])
    simp [hc]

/-- No character of a set without blanks is found in front of blanks. -/
theorem run_one_of_isBlank (hs : ∀ c, s c = true → isBlank c = false)
    (hk : ∀ c ∈ k.after, isBlank c = true) (cont : Cursor → Option β) :
    run (one s) k cont = none := by
  refine run_one_eq_none (fun c hc => ?_) cont
  rw [← Bool.not_eq_true]
  intro hsc
  have hb : isBlank c = false := hs c hsc
  rw [hk c hc] at hb
  cases hb

/-- A search that succeeds nowhere in front of characters of one kind alone finds nothing in a text
of such characters. -/
theorem firstFrom_eq_none {f : Cursor → Option α} {p : Char → Prop}
    (hf : ∀ k : Cursor, (∀ c ∈ k.after, p c) → f k = none) (hk : ∀ c ∈ k.after, p c) :
    firstFrom f k = none := by
  fun_induction firstFrom f k with
  | case1 k x hx =>
    rw [hf k hk] at hx
    cases hx
  | case2 => rfl
  | case3 k hx c r hr ih =>
    exact ih fun d hd => hk d (by rw [hr]; exact List.mem_cons_of_mem c hd)

end Pattern

/-! ### Changes of code -/

open Pattern in
/-- No assignment starts in front of blanks: there is no quote to pass over, and no key. -/
theorem assignmentAt?_of_isBlank {k : Cursor} (hk : ∀ c ∈ k.after, isBlank c = true) :
    assignmentAt? k = none := by
  have hquote (cont : Cursor → Option (List Cursor)) : run quote k cont = none := by
    refine run_one_of_isBlank (fun c hc => ?_) hk cont
    have hquotes : c = '"' ∨ c = '\'' := by simpa [CharSet.among] using hc
    rcases hquotes with rfl | rfl <;> rfl
  have hkey (cont : Cursor → Option (List Cursor)) : run keyWord k cont = none := by
    rw [keyWord, run_seq]
    refine run_one_of_isBlank (fun c hc => ?_) hk _
    rw [Bool.or_eq_true, beq_iff_eq] at hc
    rcases hc with hc | rfl
    · exact Text.not_isBlank_of_isAlpha hc
    · rfl
  have hnone : runEach [optQuote, keyWord, keySeparator, Detector.longLiteral] k = none := by
    rw [runEach, optQuote, opt, run_alt_of_none (hquote _), run_empty, runEach, hkey]
    rfl
  rw [assignmentAt?, hnone]

/-- There is nothing to change in a blank line of code. -/
theorem nonblank_of_secretFix? {snippet file fixed : String}
    (h : secretFix? snippet file = some fixed) : Nonblank snippet := by
  refine Bool.eq_false_iff.2 fun hblank => ?_
  have hall : ∀ c ∈ (Cursor.start snippet.toList).after, isBlank c = true :=
    List.all_eq_true.1 hblank
  obtain ⟨a, ha, -⟩ := Option.map_eq_some_iff.1 h
  obtain ⟨p, hp, -⟩ := Option.map_eq_some_iff.1 ha
  rw [Pattern.firstFrom_eq_none (fun k => assignmentAt?_of_isBlank) hall] at hp
  cases hp

theorem nonblank_envLookup (file name : String) : Nonblank (envLookup file name) := by
  unfold envLookup
  dsimp only
  split <;> simp only [Text.nonblank_append_iff] <;> first
    | exact .inl (.inl (.cons rfl _))
    | exact .inl (.cons rfl _)

theorem nonblank_secretFix {snippet file fixed : String}
    (h : secretFix? snippet file = some fixed) : Nonblank fixed := by
  obtain ⟨a, -, rfl⟩ := Option.map_eq_some_iff.1 h
  exact (((nonblank_envLookup file _).append_right _).append_right _).append_left _

theorem wellFormed_of_mem_secretMitigation {f : Finding} {m : Mitigation}
    (h : m ∈ secretMitigation f) : m.WellFormed := by
  unfold secretMitigation at h
  split at h
  next =>
    obtain ⟨fixed, hfixed, rfl⟩ := Option.map_eq_some_iff.1 (Option.mem_toList.1 h)
    exact ⟨nonblank_of_secretFix? hfixed, nonblank_secretFix hfixed⟩
  next => cases h

/-! ### Tables -/

namespace Profile

/-- The texts that a profile gives to a threat. -/
def texts (p : Profile) : List String :=
  [p.title, p.source, p.prerequisites, p.action, p.consequence, p.asset, p.boundary, p.mitigation]

/-- The factors that a profile gives to a threat. -/
def factors (p : Profile) : List Nat := p.likelihood.values ++ p.impact.values

theorem forDetector_mem (name : String) : forDetector name ∈ generic :: all := by
  unfold forDetector
  cases h : all.find? fun p => p.detector == name with
  | none => exact List.mem_cons_self
  | some p => exact List.mem_cons_of_mem _ (List.mem_of_find?_eq_some h)

theorem nonblank_of_mem_all : ∀ p ∈ generic :: all, ∀ s ∈ p.texts, Nonblank s := by
  simp only [List.forall_mem_cons, all, texts, generic, hardcodedSecret, privateKey, awsAccessKey,
    sqlInjection, commandInjection, codeEval, xss, weakCrypto, insecureDeserialization,
    tlsVerificationDisabled, permissiveCors, pathTraversal, jwtNoneAlgorithm, debugEnabled,
    Text.nonblank_append_iff]
  and_intros
  all_goals first
    | exact .cons rfl _
    | exact .inl (.cons rfl _)
    | exact List.forall_mem_nil _

theorem factors_le_of_mem_all : ∀ p ∈ generic :: all, ∀ n ∈ p.factors, n ≤ 9 := by
  decide

end Profile

theorem Stride.nonblank_of_mem_mitigations (c : Stride) : ∀ s ∈ c.mitigations, Nonblank s := by
  cases c <;> simp only [mitigations, List.forall_mem_cons] <;>
    exact ⟨.cons rfl _, .cons rfl _, List.forall_mem_nil _⟩

/-! ### Threats of findings -/

/-- Every component has a name. -/
def Analysis.Named (a : Analysis) : Prop := ∀ c ∈ a.components, Nonblank c.name

variable {a : Analysis}

theorem Analysis.Named.nonblank_owner? (h : a.Named) {file name : String}
    (ho : owner? a file = some name) : Nonblank name := by
  obtain ⟨c, hc, rfl⟩ := Option.map_eq_some_iff.1 ho
  exact h c (List.mem_of_find?_eq_some hc)

theorem nonblank_profileBoundary (a : Analysis) {p : Profile} (h : Nonblank p.boundary) :
    Nonblank (profileBoundary a p) := by
  unfold profileBoundary
  split
  · exact .cons rfl _
  · exact h

theorem wellFormed_findingThreat (h : a.Named) (f : Finding) : (findingThreat a f).WellFormed := by
  have htext : ∀ s ∈ (Profile.forDetector f.detector).texts, Nonblank s :=
    Profile.nonblank_of_mem_all _ (Profile.forDetector_mem f.detector)
  have hfactor : ∀ n ∈ (Profile.forDetector f.detector).factors, n ≤ 9 :=
    Profile.factors_le_of_mem_all _ (Profile.forDetector_mem f.detector)
  generalize hp : Profile.forDetector f.detector = p at htext hfactor
  simp only [Profile.texts, List.forall_mem_cons] at htext
  obtain ⟨htitle, hsource, hprerequisites, haction, hconsequence, hasset, hboundary, hmitigation,
    -⟩ := htext
  simp only [findingThreat, hp]
  exact {
    title := (htitle.append_left _).append_left _
    source := hsource
    prerequisites := hprerequisites
    action := haction
    consequence := hconsequence
    boundary := nonblank_profileBoundary a hboundary
    likelihood := fun n hn => hfactor n (List.mem_append_left _ hn)
    impact := fun n hn => hfactor n (List.mem_append_right _ hn)
    assets := by
      intro s hs
      rcases List.mem_append.1 hs with hs | hs
      · exact h.nonblank_owner? (Option.mem_toList.1 hs)
      · exact List.mem_singleton.1 hs ▸ hasset
    assumptions := by
      intro s hs
      rw [List.mem_singleton.1 hs]
      exact .append_right (.cons rfl _) _
    mitigations := by
      intro m hm
      rcases List.mem_append.1 hm with hm | hm
      · exact wellFormed_of_mem_secretMitigation hm
      · exact List.mem_singleton.1 hm ▸ hmitigation
    cve := fun s hs => nomatch hs }

/-! ### Threats of the architecture -/

/-- The name that goes behind the title of such a threat is that of what is harmed. -/
theorem wellFormed_architectureDraft {front name source prerequisites action consequence
    boundary : String} {category : Stride} {likelihood : Likelihood} {impact : Impact}
    (hname : Nonblank name) (hfront : Nonblank front) (hsource : Nonblank source)
    (hprerequisites : Nonblank prerequisites) (haction : Nonblank action)
    (hconsequence : Nonblank consequence) (hboundary : Nonblank boundary)
    (hlikelihood : ∀ n ∈ likelihood.values, n ≤ 9) (himpact : ∀ n ∈ impact.values, n ≤ 9) :
    (architectureDraft (front ++ name) category source prerequisites action consequence name
      boundary likelihood impact).WellFormed where
  title := hfront.append_left name
  source := hsource
  prerequisites := hprerequisites
  action := haction
  consequence := hconsequence
  boundary := hboundary
  likelihood := hlikelihood
  impact := himpact
  assets s hs := List.mem_singleton.1 hs ▸ hname
  assumptions := by
    intro s hs
    rw [List.mem_singleton.1 hs]
    exact .cons rfl _
  mitigations := by
    intro m hm
    obtain ⟨s, hs, rfl⟩ := List.mem_map.1 hm
    exact category.nonblank_of_mem_mitigations s hs
  cve s hs := nomatch hs

/-- The component that users reach first is one of the components. -/
theorem exists_component_of_entryComponent? {e : String} (h : entryComponent? a = some e) :
    ∃ c ∈ a.components, c.name = e := by
  unfold entryComponent? at h
  split at h
  next f hf =>
    cases h
    obtain ⟨-, -, htarget⟩ := a.mem_validFlows.1 (List.mem_of_find?_eq_some hf)
    obtain ⟨c, hc⟩ := Option.isSome_iff_exists.1 htarget
    unfold Analysis.component? at hc
    exact ⟨c, List.mem_of_find?_eq_some hc, by simpa using List.find?_some hc⟩
  next =>
    split at h
    next c hc =>
      cases h
      exact ⟨c, List.mem_of_find?_eq_some hc, rfl⟩
    next =>
      obtain ⟨c, hc, rfl⟩ := Option.map_eq_some_iff.1 h
      exact ⟨c, List.mem_of_find?_eq_some hc, rfl⟩

/-- The threats that the rules know for one target. -/
def targetThreats (name : String) : List Draft :=
  [unauthenticatedAccess name, requestFlooding name, dataExposure name, messageTampering name,
    missingAudit name]

theorem wellFormed_of_mem_targetThreats {name : String} (h : Nonblank name) :
    ∀ d ∈ targetThreats name, d.WellFormed := by
  simp only [targetThreats, List.forall_mem_cons]
  and_intros
  all_goals first
    | exact List.forall_mem_nil _
    | apply wellFormed_architectureDraft h <;> first | exact .cons rfl _ | decide

/-- What a threat of the architecture is about: the component that users reach first, a component
inside the system, or the whole application if users reach nothing. -/
theorem exists_of_mem_architectureThreats {d : Draft} (h : d ∈ architectureThreats a) :
    ∃ name, d ∈ targetThreats name ∧ (entryComponent? a = some name ∨
      (∃ c ∈ a.components, c.kind ≠ .external ∧ c.name = name) ∨
      entryComponent? a = none ∧ name = unnamedApplication) := by
  have hfirst {kind : ComponentKind} {c : Component} (hc : a.firstOf? kind = some c)
      (hkind : kind ≠ .external) : ∃ x ∈ a.components, x.kind ≠ .external ∧ x.name = c.name := by
    have hk : c.kind = kind := by simpa using List.find?_some hc
    exact ⟨c, List.mem_of_find?_eq_some hc, hk ▸ hkind, rfl⟩
  simp only [architectureThreats, List.mem_append, Option.mem_toList, Option.map_eq_some_iff,
    List.mem_ite_nil_right, List.mem_singleton] at h
  rcases h with ((h | ⟨c, hc, rfl⟩) | ⟨c, hc, rfl⟩) | ⟨-, rfl⟩
  · cases he : entryComponent? a with
    | none => simp [he] at h
    | some e =>
      refine ⟨e, ?_, .inl rfl⟩
      simp only [he, List.mem_append, List.mem_ite_nil_left, List.mem_singleton] at h
      rcases h with ⟨-, rfl⟩ | ⟨-, rfl⟩
      · simp [targetThreats]
      · simp [targetThreats]
  · exact ⟨c.name, by simp [targetThreats], .inr (.inl (hfirst hc nofun))⟩
  · exact ⟨c.name, by simp [targetThreats], .inr (.inl (hfirst hc nofun))⟩
  · refine ⟨(entryComponent? a).getD unnamedApplication, by simp [targetThreats], ?_⟩
    cases he : entryComponent? a with
    | none => exact .inr (.inr ⟨rfl, rfl⟩)
    | some e => exact .inl rfl

/-- A name that a threat of the architecture can be about. -/
def IsTarget (a : Analysis) (name : String) : Prop :=
  (∃ c ∈ a.components, c.name = name) ∨ name = unnamedApplication

/-- Every threat of the architecture is one that the rules know for a component, or for the whole
application. -/
theorem exists_target_of_mem_architectureThreats {d : Draft} (h : d ∈ architectureThreats a) :
    ∃ name, IsTarget a name ∧ d ∈ targetThreats name := by
  obtain ⟨name, hd, hentry | ⟨c, hc, -, hname⟩ | ⟨-, hname⟩⟩ := exists_of_mem_architectureThreats h
  · exact ⟨name, .inl (exists_component_of_entryComponent? hentry), hd⟩
  · exact ⟨name, .inl ⟨c, hc, hname⟩, hd⟩
  · exact ⟨name, .inr hname, hd⟩

theorem wellFormed_of_mem_architectureThreats (h : a.Named) {d : Draft}
    (hd : d ∈ architectureThreats a) : d.WellFormed := by
  obtain ⟨name, htarget, hd⟩ := exists_target_of_mem_architectureThreats hd
  refine wellFormed_of_mem_targetThreats ?_ d hd
  rcases htarget with ⟨c, hc, rfl⟩ | rfl
  · exact h c hc
  · exact .cons rfl _

theorem findingThreat_mem_ruleThreats {f : Finding} (h : f ∈ a.findings) :
    findingThreat a f ∈ ruleThreats a :=
  List.mem_append_left _ (List.mem_map_of_mem h)

/-- **Threats by rules are well-formed** if the components have names. -/
theorem wellFormed_of_mem_ruleThreats (h : a.Named) {d : Draft} (hd : d ∈ ruleThreats a) :
    d.WellFormed := by
  rcases List.mem_append.1 hd with hd | hd
  · obtain ⟨f, -, rfl⟩ := List.mem_map.1 hd
    exact wellFormed_findingThreat h f
  · exact wellFormed_of_mem_architectureThreats h hd

/-! ### Names of components -/

theorem Category.nonblank_componentName (c : Category) : Nonblank c.componentName := by
  cases c <;> exact .cons rfl _

theorem Classification.nonblank_of_mem_components (ss : Classification) {c : Component}
    (h : c ∈ ss.components) : Nonblank c.name := by
  rcases List.mem_append.1 h with h | h
  · unfold innerComponents at h
    split at h
    next =>
      rw [List.mem_singleton.1 h]
      exact .cons rfl _
    next =>
      obtain ⟨category, -, rfl⟩ := List.mem_map.1 h
      exact category.nonblank_componentName
  · rw [List.mem_singleton.1 h]
    exact .cons rfl _

theorem named_extract (sources : SourceSet) (findings : List Finding) (limits : Limits) :
    (extract sources findings limits).Named :=
  fun _ => Classification.nonblank_of_mem_components _

theorem named_extractDocument (name text : String) (findings : List Finding) :
    (extractDocument name text findings).Named :=
  fun _ => Classification.nonblank_of_mem_components _

end ThreatModel
