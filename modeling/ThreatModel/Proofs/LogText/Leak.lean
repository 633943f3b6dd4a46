import Mathlib
import ThreatModel.Proofs.LogText.Assignments

/-!
# Values that are logged

The value that is assigned to the name of a secret, a word of letters and digits with any blanks
around the sign, never stays when a text is redacted as it is. A text that is made safe for a log
has its control characters escaped first, and the escape of a tab or of the end of a line is no
blank any more. So the value stays in the log if there is a control character in front of the sign,
or one behind it with a plain blank still to come; only the id of an access key in the value keeps it
out then (`isInfix_safe_iff`).
-/

namespace ThreatModel.LogText

open Pattern Text

variable {v w g : List Char} {c : Char}

/-! ### Access keys -/

/-- An access key starts with an `A` and a `K`, so it does not start in front of `v` in a text where
`v` comes behind neither. -/
theorem not_isInfix_append (hw : accessKeyPattern.Spells w) (hg : 'K' ∉ g)
    (hlast : g.getLast? ≠ some 'A') (hv : ¬ w <:+: v) : ¬ w <:+: g ++ v := by
  obtain ⟨-, ⟨z, hz⟩, -⟩ := exists_of_spells_accessKeyPattern hw
  have hK : 'K' ∈ w := by simp [hz]
  intro hi
  rcases List.infix_append_iff.1 hi with hi | hi | ⟨l₁, l₂, hl, h₁, h₂⟩
  · exact hg (hi.subset hK)
  · exact hv hi
  · match l₁ with
    | [] => exact hv (hl ▸ h₂.isInfix)
    | [d] =>
      obtain ⟨rfl, -⟩ := List.cons.inj (hz.symm.trans hl)
      obtain ⟨u, rfl⟩ := h₁
      exact hlast (by simp)
    | d :: d' :: l₁ =>
      rw [hz] at hl
      simp only [List.cons_append, List.cons.injEq] at hl
      exact hg (h₁.subset (by simp [← hl.2.1]))

theorem replaceAll_accessKeyPattern {cs : List Char}
    (h : ∀ w, accessKeyPattern.Spells w → ¬ w <:+: cs) :
    accessKeyPattern.replaceAll mark cs = cs :=
  replaceAll_of_forall_not_isInfix consumes_accessKeyPattern mark h

theorem occursIn_of_isInfix_redacted {cs : List Char} (h : v <:+: redacted cs) :
    accessKeyPattern.occursIn v = false :=
  (occursIn_eq_false_iff isFree_accessKeyPattern).2 fun _ hw hi =>
    not_isInfix_redacted (by simp [secretPatterns]) hw cs (hi.trans h)

/-! ### The first word behind a sign -/

/-- A word at the end of a text goes with the first word of what is in front of it, unless a blank
comes in between. -/
theorem behindWord_append (hv : ∀ c ∈ v, isBlank c = false) (g : List Char) :
    behindWord (g ++ v) = if behindWord g = [] then [] else behindWord g ++ v := by
  have hstart : trimStart (g ++ v) = trimStart g ++ v := by
    have hv' : v.dropWhile isBlank = v := by
      cases v with
      | nil => rfl
      | cons c v => exact List.dropWhile_cons_of_neg (by simp [hv c List.mem_cons_self])
    rw [trimStart, List.dropWhile_append, hv']
    split
    next h => rw [trimStart, List.isEmpty_iff.1 h, List.nil_append]
    next => rfl
  have hend : v.dropWhile (fun c => !isBlank c) = [] :=
    List.dropWhile_eq_nil_iff.2 fun c hc => by simp [hv c hc]
  rw [behindWord, hstart, List.dropWhile_append, hend, behindWord]
  simp only [List.isEmpty_iff]

theorem forall_sanitized_iff (hw : ∀ c ∈ w, isBlank c = true) :
    (∀ c ∈ sanitized w, isBlank c = false) ↔ ∀ c ∈ w, isControl c = true := by
  induction w with
  | nil => simp [sanitized]
  | cons c w ih =>
    rw [List.forall_mem_cons] at hw
    rw [sanitized_cons, List.forall_mem_append, List.forall_mem_cons, ih hw.2]
    refine and_congr_left fun _ => ?_
    cases hc : isControl c with
    | true =>
      refine iff_of_true (fun d hd => ?_) rfl
      exact not_isBlank_of_mem_escapeChars ((escape_of_isBlank hw.1 hc).1 hd)
    | false => simp [hw.1]

/-- Nothing is left behind the first word of an escaped text of blanks just when no plain blank comes
behind a control character. -/
theorem behindWord_sanitized_eq_nil_iff (hw : ∀ c ∈ w, isBlank c = true) :
    behindWord (sanitized w) = [] ↔
      w.Pairwise fun c d => isControl c = true → isControl d = true := by
  induction w with
  | nil => exact iff_of_true rfl .nil
  | cons c w ih =>
    have hw' := List.forall_mem_cons.1 hw
    rw [List.pairwise_cons]
    cases hc : isControl c with
    | false =>
      -- A plain blank goes with the blanks in front of the word.
      have hskip : behindWord (sanitized (c :: w)) = behindWord (sanitized w) := by
        rw [sanitized_cons, hc, if_neg (by simp), behindWord, List.singleton_append, trimStart,
          List.dropWhile_cons_of_pos hw'.1]
        rfl
      rw [hskip, ih hw'.2]
      simp
    | true =>
      -- The word starts with the escape.
      obtain ⟨hescape, u, d, e, hu, -⟩ := escape_of_isBlank hw'.1 hc
      have hkeep : trimStart (sanitized (c :: w)) = sanitized (c :: w) := by
        rw [sanitized_cons, if_pos hc]
        obtain ⟨x, r, hx⟩ := List.exists_cons_of_ne_nil (l := escape c) (by simp [hu])
        rw [hx, List.cons_append]
        exact trimStart_cons_of_not_blank
          (not_isBlank_of_mem_escapeChars (hescape (by simp [hx]))) _
      have hall : behindWord (sanitized (c :: w)) = [] ↔ ∀ d ∈ c :: w, isControl d = true := by
        rw [behindWord, hkeep, List.dropWhile_eq_nil_iff, ← forall_sanitized_iff hw]
        simp
      rw [hall, List.forall_mem_cons]
      constructor
      · rintro ⟨-, h⟩
        exact ⟨fun d hd _ => h d hd, List.pairwise_of_forall_mem_list fun _ _ d hd _ => h d hd⟩
      · rintro ⟨h, -⟩
        exact ⟨hc, fun d hd => h d hd rfl⟩

/-! ### Redaction of assignments -/

namespace Assignment

variable (a : Assignment)

theorem redacted_of_behindWord (hfront : ∀ c ∈ a.front, isBlank c = true) (hvalue : a.value ≠ [])
    (hback : behindWord a.back = []) : redacted a.text = mark := by
  have hv : ∀ c ∈ a.value, isBlank c = false :=
    fun c hc => not_isBlank_of_isAlphanum (a.isAlphanum_value c hc)
  rw [a.redacted_text, a.replaceAll_of_isBlank hfront hvalue, behindWord_append hv, if_pos hback,
    List.append_nil]
  exact replaceAll_accessKeyPattern fun w hw => (isFence_of_accessKeyPattern hw).inside

theorem capital_notMem (hc : c = 'A' ∨ c = 'K') :
    c ∉ a.name.toList ++ a.front ++ a.sign :: a.back ∧ c ∉ a.back := by
  have hname : c ∉ nameChars := by rcases hc with rfl | rfl <;> decide
  have hblank : isBlank c = false := by rcases hc with rfl | rfl <;> decide
  have hescape : c ∉ escapeChars := by rcases hc with rfl | rfl <;> decide
  have hsign : c ≠ a.sign := a.ne_sign (by rcases hc with rfl | rfl <;> decide)
    (by rcases hc with rfl | rfl <;> decide)
  have hback := a.isGap_back.notMem hblank hescape
  refine ⟨?_, hback⟩
  simp [a.notMem_name hname, a.isGap_front.notMem hblank hescape, hsign, hback]

/-- Where a blank comes between the sign and the value, or an escape in front of the sign, the value
stays at the end. -/
theorem redacted_isSuffix (hvalue : a.value ≠ [])
    (h : EndsInEscape a.front ∨ (∀ c ∈ a.front, isBlank c = true) ∧ behindWord a.back ≠ [])
    (hkey : accessKeyPattern.occursIn a.value = false) : a.value <:+ redacted a.text := by
  have hkeep : ∀ g : List Char, 'K' ∉ g → g.getLast? ≠ some 'A' →
      accessKeyPattern.replaceAll mark (g ++ a.value) = g ++ a.value := fun g hK hA =>
    replaceAll_accessKeyPattern fun w hw =>
      not_isInfix_append hw hK hA ((occursIn_eq_false_iff isFree_accessKeyPattern).1 hkey w hw)
  rw [a.redacted_text]
  rcases h with hfront | ⟨hfront, hback⟩
  · rw [a.replaceAll_of_escape hfront]
    have htext : a.text = (a.name.toList ++ a.front ++ a.sign :: a.back) ++ a.value := by
      simp [text]
    rw [htext, hkeep _ (a.capital_notMem (.inr rfl)).1 fun h =>
      (a.capital_notMem (.inl rfl)).1 (List.mem_of_getLast? h)]
    exact List.suffix_append _ _
  · have hv : ∀ c ∈ a.value, isBlank c = false :=
      fun c hc => not_isBlank_of_isAlphanum (a.isAlphanum_value c hc)
    rw [a.replaceAll_of_isBlank hfront hvalue, behindWord_append hv, if_neg hback,
      ← List.append_assoc, hkeep _ ?_ ?_]
    · exact List.suffix_append _ _
    · have hK : 'K' ∉ mark := by rw [mark_eq]; decide
      intro h
      rcases List.mem_append.1 h with h | h
      · exact hK h
      · exact (a.capital_notMem (.inr rfl)).2 ((behindWord_isSuffix _).subset h)
    · rw [List.getLast?_append_of_ne_nil _ hback]
      intro h
      exact (a.capital_notMem (.inl rfl)).2 ((behindWord_isSuffix _).subset (List.mem_of_getLast? h))

/-- Only the gaps of an assignment have control characters to escape. -/
theorem sanitized_text : sanitized a.text =
    a.name.toList ++ sanitized a.front ++ a.sign :: (sanitized a.back ++ a.value) := by
  have hname : sanitized a.name.toList = a.name.toList := by
    have hall : nameChars.all fun c => !isControl c := by decide
    refine sanitized_of_not_isControl fun c hc => ?_
    simpa using List.all_eq_true.1 hall c (toList_subset_nameChars a.name_mem hc)
  have hsign : isControl a.sign = false := by rcases a.isSign with h | h <;> rw [h] <;> decide
  have hvalue : sanitized a.value = a.value :=
    sanitized_of_not_isControl fun c hc => not_isControl_of_isAlphanum (a.isAlphanum_value c hc)
  rw [text, sanitized_append, sanitized_append, sanitized_cons, sanitized_append, hname, hvalue,
    hsign]
  rfl

end Assignment

/-! ### Logs -/

/-- A value that is assigned to the name of a secret never stays in a redacted text. It stays in a
log just when it holds no access key and an escape comes in the way: there is a control character in
front of the sign, or one behind it with a plain blank to come. -/
theorem isInfix_safe_iff {name : String} {sign : Char} {w₁ w₂ : List Char}
    (hname : name ∈ secretNames) (hsign : sign = '=' ∨ sign = ':')
    (h₁ : ∀ c ∈ w₁, isBlank c = true) (h₂ : ∀ c ∈ w₂, isBlank c = true)
    (hv : ∀ c ∈ v, c.isAlphanum = true) (hmark : ¬ v <:+: mark) :
    ¬ v <:+: redacted (name.toList ++ w₁ ++ sign :: (w₂ ++ v)) ∧
      (v <:+: safe (name.toList ++ w₁ ++ sign :: (w₂ ++ v)) ↔
        accessKeyPattern.occursIn v = false ∧
          ((∃ c ∈ w₁, isControl c = true) ∨
            ¬ w₂.Pairwise fun c d => isControl c = true → isControl d = true)) := by
  have hne : v ≠ [] := by
    rintro rfl
    exact hmark List.nil_infix
  let plain : Assignment :=
    ⟨name, w₁, sign, w₂, v, hname, .of_isBlank h₁, hsign, .of_isBlank h₂, hv⟩
  let escaped : Assignment :=
    ⟨name, sanitized w₁, sign, sanitized w₂, v, hname, isGap_sanitized h₁, hsign,
      isGap_sanitized h₂, hv⟩
  have hsafe : safe plain.text = redacted escaped.text := by rw [safe, plain.sanitized_text]; rfl
  constructor
  · have hback : behindWord w₂ = [] := by
      rw [behindWord, trimStart_of_isBlank h₂]
      rfl
    have hredacted : redacted plain.text = mark := plain.redacted_of_behindWord h₁ hne hback
    exact hredacted ▸ hmark
  · change v <:+: safe plain.text ↔ _
    rw [hsafe]
    by_cases hcontrol : ∃ c ∈ w₁, isControl c = true
    · refine ⟨fun h => ⟨occursIn_of_isInfix_redacted h, .inl hcontrol⟩, fun h => ?_⟩
      exact (escaped.redacted_isSuffix hne (.inl (endsInEscape_sanitized h₁ hcontrol)) h.1).isInfix
    · have hfront : ∀ c ∈ sanitized w₁, isBlank c = true := by
        rwa [sanitized_of_not_isControl fun c hc =>
          Bool.eq_false_iff.2 fun h => hcontrol ⟨c, hc, h⟩]
      have hback := behindWord_sanitized_eq_nil_iff h₂
      constructor
      · intro h
        refine ⟨occursIn_of_isInfix_redacted h, .inr fun hpairwise => ?_⟩
        have hredacted : redacted escaped.text = mark :=
          escaped.redacted_of_behindWord hfront hne (hback.2 hpairwise)
        exact hmark (hredacted ▸ h)
      · rintro ⟨hkey, h⟩
        have hpairwise := h.resolve_left hcontrol
        exact (escaped.redacted_isSuffix hne (.inr ⟨hfront, mt hback.1 hpairwise⟩) hkey).isInfix

/-- A tab behind all plain blanks goes with the value. -/
theorem not_isInfix_safe_of_tab :
    ¬ "hunter2".toList <:+: safe "password = \thunter2".toList := by
  have htext : "password = \thunter2".toList =
      "password".toList ++ [' '] ++ '=' :: ([' ', '\t'] ++ "hunter2".toList) := by
    repeat rw [String.toList_ofList]
    rfl
  have hv : ∀ c ∈ "hunter2".toList, c.isAlphanum = true := by
    rw [String.toList_ofList]
    simp
  have hmark : ¬ "hunter2".toList <:+: mark := by
    rw [mark_eq, String.toList_ofList]
    decide
  intro h
  rw [htext] at h
  have hleak := ((isInfix_safe_iff (by simp [secretNames]) (.inl rfl) (by simp [isBlank])
    (by simp [isBlank]) hv hmark).2.1 h).2
  simp [isControl] at hleak

/-- A tab in front of the sign keeps the value. -/
theorem isInfix_safe_of_tab :
    ¬ "hunter2".toList <:+: "password".toList ∧ ¬ "hunter2".toList <:+: mark ∧
      "hunter2".toList <:+: safe "password\t=hunter2".toList := by
  have hsafe : safe "password\t=hunter2".toList = "password\\t=hunter2".toList := by cbv
  rw [hsafe, mark_eq]
  repeat rw [String.toList_ofList]
  decide

end ThreatModel.LogText
