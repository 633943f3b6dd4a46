import Mathlib
import ThreatModel.Prompt.Request
import ThreatModel.Proofs.Prompt.Filling
import ThreatModel.Proofs.Text.Splitting

/-!
# Sections in a prompt

A prompt that is short enough not to be cut is the template with a text in every hole
(`prompt_eq_filled`): its section, with the sections that are filled in later wherever the section
itself holds their placeholders. So the prompt holds its sections as they are just when none of them
holds the placeholder of a later one. A line of source code with a placeholder in it that is
reported as a finding is enough to lose something (`prompt_ne_verbatim_of_snippet`); placeholders
of earlier sections stay (`prompt_eq_filled_of_snippet`).
-/

namespace ThreatModel.Prompt

/-! ### The template -/

theorem Section.placeholder_eq_cons (s : Section) :
    ∃ d r, s.placeholder = '\x7b' :: d :: r ∧ d ≠ '"' := by
  cases s <;> exact ⟨_, _, rfl, by decide⟩

/-- The braces of the answer's form are those of objects: a string follows. -/
theorem isChain_formatText : formatText.toList.IsChain fun c d => c = '\x7b' → d = '"' := by
  simp only [formatText, formatLines, List.map_cons, List.map_nil, String.join_cons,
    String.join_nil, String.toList_append]
  repeat rw [String.toList_ofList]
  decide +kernel

theorem not_placeholder_isInfix_formatText (s : Section) :
    ¬ s.placeholder <:+: formatText.toList := by
  obtain ⟨d, r, hs, hd⟩ := s.placeholder_eq_cons
  intro hi
  have h := isChain_formatText.infix hi
  rw [hs, List.isChain_cons_cons] at h
  exact hd (h.1 rfl)

theorem template_eq_append : template = template.dropLast ++ [.text formatText] := rfl

/-- There are no braces in front of the answer's form but those of the holes. -/
theorem brace_notMem_filled : ∀ p ∈ template.dropLast, '\x7b' ∉ p.filled fun _ => [] := by
  simp only [template, List.dropLast_cons_cons, List.dropLast_singleton, List.forall_mem_cons,
    Part.filled, formatHeading]
  repeat rw [String.toList_ofList]
  decide

theorem template_wellFormed : template.WellFormed where
  spaced := by
    have hformat : formatText.toList.head? = some '\n' := by simp [formatText]
    simp [Spaced, template, Part.endsLine, Part.startsLine, hformat]
  clear := by
    intro x hx s
    rcases List.mem_append.1 (template_eq_append ▸ hx) with hx | hx
    · exact s.not_placeholder_isInfix_of_notMem (brace_notMem_filled _ hx)
    · obtain rfl : x = formatText := by simpa using hx
      exact not_placeholder_isInfix_formatText s
  complete := by
    intro s
    cases s <;> simp [template]

/-! ### Sections -/

theorem hyphen_mem_bullets (items : List String) : '-' ∈ bullets items := by
  cases items with
  | nil => exact List.mem_cons_self
  | cons x r =>
    have h : '-' ∈ (x :: r).flatMap fun x => '-' :: ' ' :: (x.toList ++ ['\n']) := by
      rw [List.flatMap_cons]
      exact List.mem_cons_self
    exact (Text.mem_trimEnd_iff (by decide)).2 h

theorem newline_mem_documentText (d : String) : '\n' ∈ documentText (some d) :=
  List.mem_append_right _ List.mem_cons_self

theorem Section.hyphen_notMem_placeholder (s : Section) : '-' ∉ s.placeholder := by
  cases s <;> decide

/-- A section that may be filled in over a placeholder in another one is empty or holds a character
that no placeholder has. -/
theorem sectionText_nil_or_mem (a : Analysis) (m : Methodology) (document : Option String)
    (l : Limits) {s u : Section} (h : u ∈ s.later) :
    sectionText a m document l u = [] ∨
      ∃ c ∈ sectionText a m document l u, ∀ s : Section, c ∉ s.placeholder := by
  have hbullets : ∀ items, ∃ c ∈ bullets items, ∀ s : Section, c ∉ s.placeholder :=
    fun items => ⟨'-', hyphen_mem_bullets items, Section.hyphen_notMem_placeholder⟩
  cases u with
  | guidance => exact absurd (s.later_subset h) (by decide)
  | document =>
    cases document with
    | none => exact .inl rfl
    | some d =>
      exact .inr ⟨'\n', newline_mem_documentText d, Section.newline_notMem_placeholder⟩
  | stack | components | flows | boundaries | entryPoints | findings =>
    exact .inr (hbullets _)

/-! ### Prompts -/

theorem prompt_of_le {a : Analysis} {m : Methodology} {document : Option String} {l : Limits}
    (h : (fullPrompt a m document l).length ≤ l.maxPromptChars) :
    prompt a m document l = String.ofList (fullPrompt a m document l) := by
  rw [prompt, cut, if_pos h]

theorem fullPrompt_eq_fillAtOnce_iff (a : Analysis) (m : Methodology) (document : Option String)
    (l : Limits) :
    fullPrompt a m document l = template.fillAtOnce (sectionText a m document l) ↔
      ∀ s : Section, ∀ u ∈ s.later, ¬ u.placeholder <:+: sectionText a m document l s :=
  Template.fill_eq_fillAtOnce_iff template_wellFormed fun _ _ hu =>
    sectionText_nil_or_mem a m document l hu

theorem length_fullPrompt (a : Analysis) (m : Methodology) (document : Option String) (l : Limits) :
    (fullPrompt a m document l).length =
      (template.fillAtOnce fun _ => []).length +
        (Section.all.map fun s => (expanded (sectionText a m document l) s).length).sum := by
  rw [fullPrompt, Template.fill_eq template_wellFormed, Template.length_fillAtOnce]
  rfl

theorem length_template_le : (template.fillAtOnce fun _ => []).length ≤ 2000 := by
  simp only [Template.fillAtOnce, template, Part.filled, List.flatMap_cons, List.flatMap_nil,
    formatText, formatLines, formatHeading, List.map_cons, List.map_nil, String.join_cons,
    String.join_nil, String.toList_append]
  repeat rw [String.toList_ofList]
  decide +kernel

/-! ### Reports of one line of code -/

theorem guidance_bounds (m : Methodology) :
    '\x7b' ∉ m.guidance.toList ∧ m.guidance.toList.length ≤ 300 := by
  cases m <;>
    · delta Methodology.guidance
      dsimp only
      repeat rw [String.toList_append]
      repeat rw [String.toList_ofList]
      decide +kernel

/-- What is known about a system of which only one line of code is reported. -/
def reportOf (snippet : String) : Analysis where
  languages := []
  frameworks := []
  components := []
  dataFlows := []
  trustBoundaries := []
  findings := [⟨"a.py", 1, "sql_injection", snippet, .high, "Query from input"⟩]
  fileTree := []
  entryPoints := []
  truncated := false

/-- The section of the findings in such a report. -/
def findingsOf (snippet : String) : List Char :=
  bullets [findingLine ⟨"a.py", 1, "sql_injection", snippet, .high, "Query from input"⟩]

theorem findingsOf_eq (snippet : String) :
    findingsOf snippet =
      "- [High] sql_injection at a.py:1: Query from input \x60".toList ++
        (snippet.toList ++ ['\x60']) := by
  have hline : '-' :: ' ' :: (findingLine
      ⟨"a.py", 1, "sql_injection", snippet, .high, "Query from input"⟩).toList =
      "- [High] sql_injection at a.py:1: Query from input \x60".toList ++
        (snippet.toList ++ ['\x60']) := by
    have hname : Severity.high.name = "High" := rfl
    have hnumber : toString 1 = "1" := rfl
    delta findingLine
    dsimp only
    rw [hname, hnumber]
    repeat rw [String.toList_append]
    repeat rw [String.toList_ofList]
    rfl
  have hitem : findingsOf snippet = Text.trimEnd (('-' :: ' ' :: (findingLine
      ⟨"a.py", 1, "sql_injection", snippet, .high, "Query from input"⟩).toList) ++ ['\n']) := by
    rw [findingsOf, bullets, if_neg (by simp), List.flatMap_singleton]
    rfl
  rw [hitem, hline, ← List.append_assoc, List.append_assoc _ ['\x60'], List.singleton_append,
    Text.trimEnd_append_cons (by decide)]
  rfl

theorem sectionText_findings_reportOf (snippet : String) :
    sectionText (reportOf snippet) .stride none {} .findings = findingsOf snippet := by
  have h : shownFindings (reportOf snippet) {} =
      [⟨"a.py", 1, "sql_injection", snippet, .high, "Query from input"⟩] := by
    rw [shownFindings, Analysis.rankedFindings, reportOf, List.mergeSort_singleton]
    rfl
  rw [sectionText, h]
  rfl

theorem brace_notMem_sectionText_reportOf (snippet : String) {s : Section} (hs : s ≠ .findings) :
    '\x7b' ∉ sectionText (reportOf snippet) .stride none {} s := by
  have hnone : '\x7b' ∉ bullets [] := by decide
  cases s with
  | findings => exact absurd rfl hs
  | guidance => exact (guidance_bounds .stride).1
  | document => exact List.not_mem_nil
  | stack | components | flows | boundaries | entryPoints => exact hnone

theorem later_findings : Section.findings.later = [.document] := rfl

theorem length_fullPrompt_reportOf_le {snippet : String}
    (h : (Text.replace Section.document.placeholder [] (findingsOf snippet)).length ≤ 1000) :
    (fullPrompt (reportOf snippet) .stride none {}).length ≤ ({} : Limits).maxPromptChars := by
  have hdocument : sectionText (reportOf snippet) .stride none {} .document = [] := rfl
  have hsection : ∀ s, (expanded (sectionText (reportOf snippet) .stride none {}) s).length ≤ 1000 := by
    intro s
    by_cases hs : s = .findings
    · rwa [hs, expanded, sectionText_findings_reportOf, later_findings, fillIn_cons, fillIn_nil,
        hdocument]
    · rw [expanded_of_notMem (brace_notMem_sectionText_reportOf snippet hs)]
      have hnone : (bullets []).length ≤ 1000 := by decide
      cases s with
      | findings => exact absurd rfl hs
      | guidance => exact (guidance_bounds .stride).2.trans (by omega)
      | document => exact Nat.zero_le _
      | stack | components | flows | boundaries | entryPoints => exact hnone
  have hsections : (Section.all.map fun s =>
      (expanded (sectionText (reportOf snippet) .stride none {}) s).length).sum ≤ 8 * 1000 :=
    List.sum_le_card_nsmul _ 1000 (by simpa using fun s _ => hsection s)
  rw [length_fullPrompt]
  exact (Nat.add_le_add length_template_le hsections).trans (by norm_num)

/-! ### Placeholders in sections -/

/-- A prompt that is not cut is the template with every section filled in, and the later sections in
it. It has the sections as they are just when none holds the placeholder of a later one. -/
theorem prompt_eq_filled (a : Analysis) (m : Methodology) (document : Option String) (l : Limits)
    (h : (fullPrompt a m document l).length ≤ l.maxPromptChars) :
    prompt a m document l =
        String.ofList (template.fillAtOnce (expanded (sectionText a m document l))) ∧
      (prompt a m document l =
          String.ofList (template.fillAtOnce (sectionText a m document l)) ↔
        ∀ s : Section, ∀ u ∈ s.later, ¬ u.placeholder <:+: sectionText a m document l s) := by
  rw [prompt_of_le h]
  constructor
  · rw [fullPrompt, Template.fill_eq template_wellFormed]
  · rw [String.ofList_inj]
    exact fullPrompt_eq_fillAtOnce_iff a m document l

/-- The placeholder of an earlier section stays in a snippet. -/
theorem prompt_eq_filled_of_snippet :
    prompt (reportOf "db.find(f\"\x7bstack\x7d\")") .stride none {} =
      String.ofList (template.fillAtOnce
        (sectionText (reportOf "db.find(f\"\x7bstack\x7d\")") .stride none {})) := by
  have hfindings : ¬ Section.document.placeholder <:+:
      findingsOf "db.find(f\"\x7bstack\x7d\")" ∧
      (findingsOf "db.find(f\"\x7bstack\x7d\")").length ≤ 1000 := by
    simp only [findingsOf_eq]
    repeat rw [String.toList_ofList]
    decide +kernel
  have hfits : (Text.replace Section.document.placeholder []
      (findingsOf "db.find(f\"\x7bstack\x7d\")")).length ≤ 1000 := by
    rw [Text.replace_of_not_isInfix hfindings.1]
    exact hfindings.2
  refine (prompt_eq_filled _ _ _ _ (length_fullPrompt_reportOf_le hfits)).2.2 fun s u hu => ?_
  by_cases hs : s = .findings
  · subst hs
    rw [later_findings, List.mem_singleton] at hu
    rw [hu, sectionText_findings_reportOf]
    exact hfindings.1
  · exact u.not_placeholder_isInfix_of_notMem (brace_notMem_sectionText_reportOf _ hs)

/-- The placeholder of the document does not: it goes when there is no document. -/
theorem prompt_ne_verbatim_of_snippet :
    (fullPrompt (reportOf "db.find(f\"\x7bdocument\x7d\")") .stride none {}).length ≤
        ({} : Limits).maxPromptChars ∧
      prompt (reportOf "db.find(f\"\x7bdocument\x7d\")") .stride none {} ≠
        String.ofList (template.fillAtOnce
          (sectionText (reportOf "db.find(f\"\x7bdocument\x7d\")") .stride none {})) := by
  have hfindings : Section.document.placeholder <:+:
      findingsOf "db.find(f\"\x7bdocument\x7d\")" ∧
      (Text.replace Section.document.placeholder []
        (findingsOf "db.find(f\"\x7bdocument\x7d\")")).length ≤ 1000 := by
    simp only [findingsOf_eq]
    repeat rw [String.toList_ofList]
    decide +kernel
  have hlength := length_fullPrompt_reportOf_le hfindings.2
  refine ⟨hlength, fun heq => ?_⟩
  rw [prompt_of_le hlength, String.ofList_inj, fullPrompt_eq_fillAtOnce_iff] at heq
  refine heq .findings .document (by decide) ?_
  rw [sectionText_findings_reportOf]
  exact hfindings.1

end ThreatModel.Prompt
