import ThreatModel.Proofs.Text.Splitting
import ThreatModel.Proofs.Threat.WellFormed
import ThreatModel.Reply.Threats

/-!
# Replies give well-formed drafts

Whatever an element of a reply holds, the draft in it is well-formed (`wellFormed_draftOfObject`),
and so is every threat in a reply (`wellFormed_of_threats`).

A reply can put a text into a draft in one way only, as the text of a scalar, and such a text is
never blank (`nonblank_of_scalarText?`): a string is trimmed first and counts only if something is
left, and numbers and truth values have letters or digits. Where there is no such text the draft has
a default.
-/

namespace ThreatModel

open Text (Nonblank)

/-- A result of a step that is changed afterwards comes from a result of that step. -/
theorem exists_of_map_eq_ok {ε α β : Type} {x : Except ε α} {f : α → β} {b : β}
    (h : x.map f = .ok b) : ∃ a, x = .ok a ∧ f a = b := by
  cases x with
  | error e => cases h
  | ok a =>
    cases h
    exact ⟨a, rfl, rfl⟩

/-! ### Numbers -/

theorem exists_not_isBlank_digitText (n : Nat) : ∃ c ∈ digitText n, Text.isBlank c = false := by
  obtain ⟨c, hc⟩ := List.exists_mem_of_ne_nil (digitText n) Nat.toDigits_ne_nil
  have hdigit : c.isDigit = true := Nat.isDigit_of_mem_toDigits (by decide) (by decide) hc
  exact ⟨c, hc, Text.not_isBlank_of_isDigit hdigit⟩

namespace Json

theorem exists_not_isBlank_decimalText (d : Nat) (k : Int) :
    ∃ c ∈ decimalText d k, Text.isBlank c = false := by
  -- Every form has a point in it, or the letter in front of an exponent.
  unfold decimalText
  dsimp only
  split
  · exact ⟨'.', by simp, rfl⟩
  split
  · exact ⟨'.', by simp, rfl⟩
  split
  · exact ⟨'.', by simp, rfl⟩
  split <;> exact ⟨'e', by simp, rfl⟩

theorem exists_not_isBlank_text (n : Number) : ∃ c ∈ n.text, Text.isBlank c = false := by
  cases n with
  | integer n =>
    obtain ⟨c, hc, hb⟩ := exists_not_isBlank_digitText n.natAbs
    exact ⟨c, List.mem_append_right _ hc, hb⟩
  | double x =>
    simp only [Number.text]
    unfold doubleText
    split
    next s m e =>
      obtain ⟨c, hc, hb⟩ := exists_not_isBlank_decimalText (Precision.double.shortest m e).1
        (Precision.double.shortest m e).2
      by_cases hm : m = 0
      · exact ⟨'0', by simp [hm], rfl⟩
      · exact ⟨c, by simp [hm, hc], hb⟩
    next => exact ⟨'n', by simp, rfl⟩

end Json

/-! ### Factors -/

theorem Likelihood.le_of_mem_ofUntrusted {x : Json} {n : Nat}
    (h : n ∈ (Likelihood.ofUntrusted x).values) : n ≤ maxFactor := by
  simp only [values, ofUntrusted, List.mem_cons, List.not_mem_nil, or_false] at h
  rcases h with rfl | rfl | rfl | rfl | rfl | rfl | rfl | rfl <;> exact factorOf_le _

theorem Impact.le_of_mem_ofUntrusted {x : Json} {n : Nat}
    (h : n ∈ (Impact.ofUntrusted x).values) : n ≤ maxFactor := by
  simp only [values, ofUntrusted, List.mem_cons, List.not_mem_nil, or_false] at h
  rcases h with rfl | rfl | rfl | rfl <;> exact factorOf_le _

namespace Reply

variable {x : Json} {names : List String} {s t : String}

/-! ### Texts -/

/-- What is left of a string that is trimmed starts with a character that is no blank. -/
theorem nonblank_trimmed (h : (Text.trimmed s).isEmpty = false) : Nonblank (Text.trimmed s) := by
  have hne : Text.trim s.toList ≠ [] := by
    intro hnil
    simp [Text.trimmed, hnil] at h
  cases hfront : Text.trimStart s.toList with
  | nil => exact absurd (by rw [Text.trim, hfront]; rfl) hne
  | cons c r =>
    have hc : Text.isBlank c = false := Text.head_trimStart hfront
    refine Nonblank.of_mem (c := c) ?_ hc
    rw [Text.trim, Text.mem_trimEnd_iff hc, hfront]
    exact List.mem_cons_self

/-- **No text that is taken from a reply is blank.** -/
theorem nonblank_of_scalarText? (h : scalarText? x = some t) : Nonblank t := by
  cases x with
  | string s =>
    simp only [scalarText?] at h
    split at h
    next => cases h
    next hs =>
      cases h
      exact nonblank_trimmed (by simpa using hs)
  | number n =>
    obtain ⟨c, hc, hb⟩ := Json.exists_not_isBlank_text n
    cases h
    exact Nonblank.of_mem hc hb
  | bool b =>
    cases h
    cases b <;> exact .cons rfl _
  | null => cases h
  | array xs => cases h
  | object ms => cases h

theorem nonblank_of_text? (h : text? names x = some t) : Nonblank t := by
  obtain ⟨y, -, hy⟩ := Option.bind_eq_some_iff.1 h
  exact nonblank_of_scalarText? hy

/-- A text with a default that is not blank. -/
theorem nonblank_text?_getD (names : List String) (x : Json) (hs : Nonblank s) :
    Nonblank ((text? names x).getD s) := by
  cases h : text? names x with
  | none => exact hs
  | some t => exact nonblank_of_text? h

theorem nonblank_of_mem_texts {y : Option Json} (h : t ∈ texts y) : Nonblank t := by
  unfold texts at h
  split at h
  next xs =>
    obtain ⟨x, -, hx⟩ := List.mem_filterMap.1 h
    exact nonblank_of_scalarText? hx
  next s => exact nonblank_of_scalarText? (Option.mem_toList.1 h)
  next => cases h

/-! ### Mitigations and entries -/

theorem wellFormed_of_mitigation? {m : Mitigation} (h : mitigation? x = some m) :
    m.WellFormed := by
  unfold mitigation? at h
  split at h
  next s =>
    obtain ⟨t, ht, rfl⟩ := Option.map_eq_some_iff.1 h
    exact nonblank_of_scalarText? ht
  next ms =>
    split at h
    next file before after _ hbefore hafter =>
      cases h
      exact ⟨nonblank_of_text? hbefore, nonblank_of_text? hafter⟩
    next =>
      obtain ⟨t, ht, rfl⟩ := Option.map_eq_some_iff.1 h
      exact nonblank_of_text? ht
  next => cases h

theorem wellFormed_of_mem_mitigations {y : Option Json} {m : Mitigation} (h : m ∈ mitigations y) :
    m.WellFormed := by
  unfold mitigations at h
  split at h
  next xs =>
    obtain ⟨x, -, hx⟩ := List.mem_filterMap.1 h
    exact wellFormed_of_mitigation? hx
  next x _ => exact wellFormed_of_mitigation? (Option.mem_toList.1 h)
  next => cases h

theorem namesEntry_of_cve? (h : cve? x = some t) : NamesEntry t := by
  obtain ⟨ht, hmarker⟩ := Option.filter_eq_some_iff.1 h
  exact ⟨nonblank_of_text? ht, by simpa [noneMarkers] using hmarker⟩

/-! ### Drafts -/

/-- **The draft in an object is well-formed**, whatever the object holds. -/
theorem wellFormed_draftOfObject (x : Json) : (draftOfObject x).WellFormed where
  title := nonblank_text?_getD _ x (.cons rfl _)
  source := nonblank_text?_getD _ x (.cons rfl _)
  prerequisites := nonblank_text?_getD _ x (.cons rfl _)
  action := nonblank_text?_getD _ x (.cons rfl _)
  consequence := nonblank_text?_getD _ x (.cons rfl _)
  boundary := nonblank_text?_getD _ x (.cons rfl _)
  likelihood _ := Likelihood.le_of_mem_ofUntrusted
  impact _ := Impact.le_of_mem_ofUntrusted
  assets _ := nonblank_of_mem_texts
  assumptions _ := nonblank_of_mem_texts
  mitigations _ := wellFormed_of_mem_mitigations
  cve _ := namesEntry_of_cve?

theorem wellFormed_of_draftOf? {d : Draft} (h : draftOf? x = some d) : d.WellFormed := by
  unfold draftOf? at h
  split at h
  next ms =>
    cases h
    exact wellFormed_draftOfObject _
  next => cases h

/-- **Every threat in a reply is well-formed.** -/
theorem wellFormed_of_threats {text : List Char} {o : Outcome} {d : Draft}
    (h : threats text = .ok o) (hd : d ∈ o.drafts) : d.WellFormed := by
  obtain ⟨p, -, rfl⟩ := exists_of_map_eq_ok h
  obtain ⟨x, -, hx⟩ := List.mem_filterMap.1 hd
  exact wellFormed_of_draftOf? hx

end Reply

end ThreatModel
