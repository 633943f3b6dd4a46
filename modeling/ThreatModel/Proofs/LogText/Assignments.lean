import Mathlib
import ThreatModel.Proofs.LogText.Secrets
import ThreatModel.Proofs.Text.Splitting

/-!
# Assignments in logs

An `Assignment` is the name of a secret, a sign and a value, with gaps around the sign: blanks, and
escapes of blanks. The patterns of keys and of tokens do not match in its text (`redacted_text`).
Whether the pattern of assignments does depends on the gap in front of the sign. Blanks alone may
stand there, and the match goes up to the end of the first word behind the sign
(`replaceAll_of_isBlank`). Behind an escape the sign has no name in front of it, and nothing matches
(`replaceAll_of_escape`).
-/

namespace ThreatModel.LogText

open Pattern Text
open Text.Cursor (start)

variable {v w g x cs : List Char} {c : Char}

/-! ### Escapes -/

theorem sanitized_cons (c : Char) (cs : List Char) :
    sanitized (c :: cs) = (if isControl c then escape c else [c]) ++ sanitized cs :=
  List.flatMap_cons

theorem sanitized_append (a b : List Char) : sanitized (a ++ b) = sanitized a ++ sanitized b :=
  List.flatMap_append

theorem sanitized_of_not_isControl (h : ∀ c ∈ cs, isControl c = false) : sanitized cs = cs := by
  induction cs with
  | nil => rfl
  | cons c cs ih =>
    rw [List.forall_mem_cons] at h
    rw [sanitized_cons, ih h.2, if_neg (by simp [h.1])]
    rfl

/-- The characters of the escapes of blanks. -/
def escapeChars : List Char := ['\\', 'n', 'r', 't', 'u', '0', 'b', 'c', '8', '5']

/-- A stretch of blanks and of escapes of blanks. -/
def IsGap (g : List Char) : Prop := ∀ c ∈ g, isBlank c = true ∨ c ∈ escapeChars

theorem IsGap.of_isBlank (h : ∀ c ∈ g, isBlank c = true) : IsGap g := fun c hc => .inl (h c hc)

/-- The escape of a blank ends in two characters that are no blanks; the first of the two is no
letter. -/
theorem escape_of_isBlank (h : isBlank c = true) (h' : isControl c = true) :
    escape c ⊆ escapeChars ∧
      ∃ u d e, escape c = u ++ [d, e] ∧ d ∈ ['\\', '0', '8'] := by
  have hc := mem_of_isBlank_of_isControl h h'
  simp only [List.mem_cons, List.not_mem_nil, or_false] at hc
  rcases hc with rfl | rfl | rfl | rfl | rfl | rfl
  · exact ⟨by decide, [], '\\', 't', rfl, by decide⟩
  · exact ⟨by decide, [], '\\', 'n', rfl, by decide⟩
  · exact ⟨by decide, ['\\', 'u', '0', '0'], '0', 'b', rfl, by decide⟩
  · exact ⟨by decide, ['\\', 'u', '0', '0'], '0', 'c', rfl, by decide⟩
  · exact ⟨by decide, [], '\\', 'r', rfl, by decide⟩
  · exact ⟨by decide, ['\\', 'u', '0', '0'], '8', '5', rfl, by decide⟩

theorem not_isBlank_of_mem_escapeChars (h : c ∈ escapeChars) : isBlank c = false := by
  have hall : escapeChars.all fun c => !isBlank c := by decide
  simpa using List.all_eq_true.1 hall c h

/-- A gap with an escape behind which only blanks come. The characters are the last two of the
escape. -/
def EndsInEscape (g : List Char) : Prop :=
  ∃ u d e y, g = u ++ d :: e :: y ∧ d ∈ ['\\', '0', '8'] ∧ isBlank e = false ∧
    ∀ c ∈ y, isBlank c = true

theorem endsInEscape_sanitized (hw : ∀ c ∈ w, isBlank c = true)
    (h : ∃ c ∈ w, isControl c = true) : EndsInEscape (sanitized w) := by
  induction w with
  | nil => simp at h
  | cons c w ih =>
    have hw' := List.forall_mem_cons.1 hw
    rw [sanitized_cons]
    by_cases hcontrol : ∃ c ∈ w, isControl c = true
    · obtain ⟨u, d, e, y, hu, hrest⟩ := ih hw'.2 hcontrol
      exact ⟨_ ++ u, d, e, y, by rw [hu, List.append_assoc], hrest⟩
    · have hplain : sanitized w = w :=
        sanitized_of_not_isControl fun d hd => Bool.eq_false_iff.2 fun h => hcontrol ⟨d, hd, h⟩
      have hc : isControl c = true := by
        obtain ⟨d, hd, hdc⟩ := h
        rcases List.mem_cons.1 hd with rfl | hd
        · exact hdc
        · exact absurd ⟨d, hd, hdc⟩ hcontrol
      obtain ⟨hescape, u, d, e, hu, hd⟩ := escape_of_isBlank hw'.1 hc
      refine ⟨u, d, e, w, ?_, hd, ?_, hw'.2⟩
      · rw [if_pos hc, hplain, hu]
        simp
      · exact not_isBlank_of_mem_escapeChars (hescape (by simp [hu]))

theorem isGap_sanitized (h : ∀ c ∈ w, isBlank c = true) : IsGap (sanitized w) := by
  intro d hd
  obtain ⟨c, hc, hd⟩ := List.mem_flatMap.1 hd
  split at hd
  next hcontrol => exact .inr ((escape_of_isBlank (h c hc) hcontrol).1 hd)
  next => exact .inl (List.mem_singleton.1 hd ▸ h c hc)

theorem IsGap.notMem (hg : IsGap g) (hblank : isBlank c = false) (hescape : c ∉ escapeChars) :
    c ∉ g := by
  intro hc
  rcases hg c hc with h | h
  · rw [hblank] at h
    cases h
  · exact hescape h

/-- There is no `e` in a gap. -/
theorem IsGap.notMem_of_anyCase (hg : IsGap g) (hc : CharSet.anyCase (· == 'e') c = true) :
    c ∉ g := by
  refine hg.notMem (Bool.eq_false_iff.2 fun hblank => ?_) fun hescape => ?_
  · rw [CharSet.anyCase_of_isBlank _ hblank, beq_iff_eq] at hc
    rw [hc] at hblank
    exact absurd hblank (by decide)
  · have hall : escapeChars.all fun c => !CharSet.anyCase (· == 'e') c := by decide
    have := List.all_eq_true.1 hall c hescape
    rw [hc] at this
    cases this

/-! ### Names -/

/-- The characters of the names of secrets. -/
def nameChars : List Char :=
  ['p', 'a', 's', 'w', 'o', 'r', 'd', 'e', 'c', 't', 'i', '_', 'k', 'y']

theorem toList_subset_nameChars {name : String} (h : name ∈ secretNames) :
    name.toList ⊆ nameChars := by
  simp only [secretNames, List.mem_cons, List.not_mem_nil, or_false] at h
  rcases h with rfl | rfl | rfl | rfl | rfl | rfl <;> rw [String.toList_ofList] <;> decide

/-- A name ends in two letters. -/
theorem exists_letters {name : String} (h : name ∈ secretNames) :
    ∃ u d e, name.toList = u ++ [d, e] ∧ d.isAlpha = true ∧ e.isAlpha = true := by
  simp only [secretNames, List.mem_cons, List.not_mem_nil, or_false] at h
  rcases h with rfl | rfl | rfl | rfl | rfl | rfl
  · exact ⟨"passwo".toList, 'r', 'd', by decide, by decide, by decide⟩
  · exact ⟨"pass".toList, 'w', 'd', by decide, by decide, by decide⟩
  · exact ⟨"p".toList, 'w', 'd', by decide, by decide, by decide⟩
  · exact ⟨"secr".toList, 'e', 't', by decide, by decide, by decide⟩
  · exact ⟨"api_k".toList, 'e', 'y', by decide, by decide, by decide⟩
  · exact ⟨"apik".toList, 'e', 'y', by decide, by decide, by decide⟩

/-- So does a name in any case; its last letter is no blank, and the one in front of it is not the
last but one character of an escape. -/
theorem exists_of_forall₂_name {name : String} {n : List Char} (h : name ∈ secretNames)
    (hn : List.Forall₂ (fun c d => CharSet.anyCase (· == c) d = true) name.toList n) :
    ∃ u d e, n = u ++ [d, e] ∧ d ∉ ['\\', '0', '8'] ∧ isBlank e = false := by
  obtain ⟨u, d, e, hname, hd, he⟩ := exists_letters h
  rw [← List.forall₂_reverse_iff, hname, List.reverse_append] at hn
  obtain ⟨e', r, he', hn', hr⟩ := List.forall₂_cons_left_iff.1 hn
  obtain ⟨d', r', hd', -, rfl⟩ := List.forall₂_cons_left_iff.1 hn'
  refine ⟨r'.reverse, d', e', ?_, ?_, ?_⟩
  · rw [← List.reverse_reverse n, hr]
    simp
  · rcases CharSet.isAlpha_of_anyCase_beq hd hd' with hletter | rfl | rfl
    · intro hmem
      simp only [List.mem_cons, List.not_mem_nil, or_false] at hmem
      rcases hmem with rfl | rfl | rfl <;> exact absurd hletter (by decide)
    · decide
    · decide
  · rcases CharSet.isAlpha_of_anyCase_beq he he' with hletter | rfl | rfl
    · exact not_isBlank_of_isAlpha hletter
    · decide
    · decide

theorem sublist_of_notMem {l a b : List Char} (h : List.Sublist (c :: l) (a ++ b)) (hc : c ∉ a) :
    List.Sublist (c :: l) b := by
  induction a with
  | nil => exact h
  | cons d a ih =>
    rw [List.mem_cons, not_or] at hc
    cases h with
    | cons _ h => exact ih h hc.2
    | cons_cons _ _ => exact absurd rfl hc.1

/-! ### The first word of a text -/

/-- What is behind the first word of a text. -/
def behindWord (x : List Char) : List Char := (trimStart x).dropWhile fun c => !isBlank c

theorem behindWord_isSuffix (x : List Char) : behindWord x <:+ x :=
  (List.dropWhile_suffix _).trans (List.dropWhile_suffix _)

theorem run_word {k : Cursor} {r : List Char} (hx : trimStart x = c :: r) (hc : isBlank c = false)
    (hk : k.after = x) :
    ∃ e, run (seqs [blanks, atLeast 1 fun c => !isBlank c]) k some = some e ∧
      e.after = behindWord x := by
  have hrest : k.after.dropWhile isBlank = c :: r := by rw [hk, ← hx, trimStart]
  have hbehind : behindWord x = r.dropWhile fun c => !isBlank c := by
    rw [behindWord, hx, List.dropWhile_cons_of_pos (by simp [hc])]
  refine ⟨((k.pass (k.after.takeWhile isBlank) (c :: r)).pass [c] r).pass
    (r.takeWhile fun c => !isBlank c) (r.dropWhile fun c => !isBlank c), ?_, hbehind.symm⟩
  rw [run_seqs_cons]
  refine run_many_of_some ?_
  rw [hrest, run_seqs_cons, atLeast, run_seq, run_one_cons rfl (by simp [hc])]
  exact run_many_of_some rfl

theorem all_zip_of_forall₂ {R : Char → Char → Bool} {l t r r' : List Char}
    (h : List.Forall₂ (fun c d => R c d = true) l w) (hw : w ++ r = t ++ r') :
    (l.zip t).all (fun p => R p.1 p.2) = true := by
  induction h generalizing t with
  | nil => rfl
  | cons hc _ ih =>
    cases t with
    | nil => rfl
    | cons d t =>
      obtain ⟨rfl, hw'⟩ := List.cons.inj hw
      rw [List.zip_cons_cons, List.all_cons, hc, ih hw']
      rfl

/-! ### Assignments -/

/-- An assignment of a word to the name of a secret, with gaps around the sign. -/
structure Assignment where
  name : String
  front : List Char
  sign : Char
  back : List Char
  value : List Char
  name_mem : name ∈ secretNames
  isGap_front : IsGap front
  isSign : sign = '=' ∨ sign = ':'
  isGap_back : IsGap back
  isAlphanum_value : ∀ c ∈ value, c.isAlphanum = true

namespace Assignment

variable (a : Assignment)

/-- The text of an assignment. -/
def text : List Char := a.name.toList ++ a.front ++ a.sign :: (a.back ++ a.value)

theorem notMem_name (hc : c ∉ nameChars) : c ∉ a.name.toList :=
  fun h => hc (toList_subset_nameChars a.name_mem h)

theorem notMem_value (hc : c.isAlphanum = false) : c ∉ a.value := by
  intro h
  rw [a.isAlphanum_value c h] at hc
  cases hc

theorem ne_sign (h₁ : c ≠ '=') (h₂ : c ≠ ':') : c ≠ a.sign := by
  rintro rfl
  rcases a.isSign with h | h
  · exact h₁ h
  · exact h₂ h

theorem hyphen_notMem_text : '-' ∉ a.text := by
  have hsign : '-' ≠ a.sign := a.ne_sign (by decide) (by decide)
  have hfront : '-' ∉ a.front := a.isGap_front.notMem (by decide) (by decide)
  have hback : '-' ∉ a.back := a.isGap_back.notMem (by decide) (by decide)
  simp [text, a.notMem_name (c := '-') (by decide), hfront, hsign, hback,
    a.notMem_value (c := '-') (by decide)]

/-- A token needs an `e` between its first letter and a blank. The name has no such letter, there is
no `e` from the name to the value, and no blank in the value. -/
theorem not_isInfix_of_spells_bearerPattern (hw : bearerPattern.Spells w) : ¬ w <:+: a.text := by
  obtain ⟨b, e, x, c, z, rfl, hb, he, hc⟩ := exists_of_spells_bearerPattern hw
  intro hi
  have htext : a.text = a.name.toList ++ ((a.front ++ a.sign :: a.back) ++ a.value) := by
    simp [text]
  have hsub : List.Sublist [b, e, c] a.text := List.Sublist.trans (by simp) hi.sublist
  have hname : b ∉ a.name.toList := by
    have hall : nameChars.all fun c => !CharSet.anyCase (· == 'B') c := by decide
    intro hmem
    have := List.all_eq_true.1 hall b (toList_subset_nameChars a.name_mem hmem)
    rw [hb] at this
    cases this
  have hgaps : e ∉ a.front ++ a.sign :: a.back := by
    have hsign : e ≠ a.sign := by
      refine a.ne_sign ?_ ?_ <;>
        · rintro rfl
          exact absurd he (by decide)
    simp [a.isGap_front.notMem_of_anyCase he, a.isGap_back.notMem_of_anyCase he, hsign]
  have hvalue : c ∉ a.value := a.notMem_value (by
    rw [← Bool.not_eq_true]
    intro h
    rw [not_isBlank_of_isAlphanum h] at hc
    cases hc)
  rw [htext] at hsub
  have hbehind : List.Sublist [e, c] ((a.front ++ a.sign :: a.back) ++ a.value) :=
    (List.sublist_cons_self b [e, c]).trans (sublist_of_notMem hsub hname)
  have hmem : c ∈ a.value := (sublist_of_notMem hbehind hgaps).subset (by simp)
  exact hvalue hmem

theorem redacted_text : redacted a.text =
    accessKeyPattern.replaceAll mark (assignmentPattern.replaceAll mark a.text) := by
  have hkey : keyPattern.replaceAll mark a.text = a.text :=
    replaceAll_of_forall_not_isInfix consumes_keyPattern mark fun w hw hi =>
      a.hyphen_notMem_text (hi.subset (hyphen_mem_of_spells hw))
  have hbearer : bearerPattern.replaceAll mark a.text = a.text :=
    replaceAll_of_forall_not_isInfix consumes_bearerPattern mark fun w hw =>
      a.not_isInfix_of_spells_bearerPattern hw
  rw [redacted_eq, hkey, hbearer]

/-! ### Where the pattern of assignments matches -/

theorem notMem_of_isSign (hc : c = '=' ∨ c = ':') :
    c ∉ a.name.toList ++ a.front ∧ c ∉ a.back ++ a.value := by
  have hname : c ∉ nameChars := by rcases hc with rfl | rfl <;> decide
  have hblank : isBlank c = false := by rcases hc with rfl | rfl <;> decide
  have hescape : c ∉ escapeChars := by rcases hc with rfl | rfl <;> decide
  have hvalue : c.isAlphanum = false := by rcases hc with rfl | rfl <;> decide
  simp [a.notMem_name hname, a.isGap_front.notMem hblank hescape,
    a.isGap_back.notMem hblank hescape, a.notMem_value hvalue]

/-- Behind an escape the sign has no name in front of it. -/
theorem replaceAll_of_escape (h : EndsInEscape a.front) :
    assignmentPattern.replaceAll mark a.text = a.text := by
  obtain ⟨u, d, e, y, hfront, hd, he, hy⟩ := h
  refine replaceAll_of_forall_not_isInfix consumes_assignmentPattern mark fun w hw hi => ?_
  obtain ⟨name, hname, n, y', c, z, rfl, hn, hy', hc⟩ := exists_of_spells_assignmentPattern hw
  obtain ⟨u', d', e', rfl, hd', he'⟩ := exists_of_forall₂_name hname hn
  obtain ⟨s, t, ht⟩ := hi
  -- The text has one sign only.
  have hsplit : a.name.toList ++ a.front ++ a.sign :: (a.back ++ a.value) =
      (s ++ (u' ++ [d', e'] ++ y')) ++ c :: (z ++ t) := by
    rw [← text, ← ht]
    simp
  obtain ⟨hbefore, -⟩ := (List.append_cons_inj_of_notMem (a.notMem_of_isSign hc).1
    (a.notMem_of_isSign hc).2).1 hsplit
  -- Without the blanks in front of the sign, the last two characters are those of an escape.
  have hends : (a.name.toList ++ u) ++ [d, e] = (s ++ u') ++ [d', e'] := by
    have h := congrArg trimEnd hbefore
    have hl : a.name.toList ++ a.front = (a.name.toList ++ u ++ [d]) ++ e :: y := by simp [hfront]
    have hr : s ++ (u' ++ [d', e'] ++ y') = (s ++ u' ++ [d']) ++ e' :: y' := by simp
    rw [hl, hr, trimEnd_append_cons he, trimEnd_append_cons he', trimEnd_of_isBlank hy,
      trimEnd_of_isBlank hy'] at h
    simpa using h
  have hlast : [d, e] = [d', e'] := (List.append_inj' hends rfl).2
  obtain ⟨rfl, -⟩ := List.cons.inj hlast
  exact hd' hd

theorem trimStart_value (hvalue : a.value ≠ []) :
    ∃ c r, trimStart (a.back ++ a.value) = c :: r ∧ isBlank c = false := by
  obtain ⟨d, v, hd⟩ := List.exists_cons_of_ne_nil hvalue
  cases h : trimStart (a.back ++ a.value) with
  | nil =>
    have hblank : isBlank d = true := List.dropWhile_eq_nil_iff.1 h d (by simp [hd])
    rw [not_isBlank_of_isAlphanum (a.isAlphanum_value d (by simp [hd]))] at hblank
    cases hblank
  | cons c r => exact ⟨c, r, rfl, head_trimStart h⟩

/-- Behind the name: blanks, the sign, blanks again and a word, each as long as possible. -/
theorem run_behind_name (hfront : ∀ c ∈ a.front, isBlank c = true) (hvalue : a.value ≠ [])
    {k : Cursor} (hk : k.after = a.front ++ a.sign :: (a.back ++ a.value)) :
    ∃ e, run (seqs [blanks, Pattern.among "=:", blanks, atLeast 1 fun c => !isBlank c]) k some =
        some e ∧ e.after = behindWord (a.back ++ a.value) := by
  have hsign : isBlank a.sign = false := by rcases a.isSign with h | h <;> rw [h] <;> decide
  have hamong : CharSet.among "=:" a.sign = true := by
    rcases a.isSign with h | h <;> rw [h] <;> decide
  have hrun : k.after.takeWhile isBlank = a.front := by
    rw [hk, List.takeWhile_append_of_pos hfront, List.takeWhile_cons_of_neg (by simp [hsign]),
      List.append_nil]
  have hrest : k.after.dropWhile isBlank = a.sign :: (a.back ++ a.value) := by
    rw [hk, List.dropWhile_append_of_pos hfront, List.dropWhile_cons_of_neg (by simp [hsign])]
  obtain ⟨c, r, hword, hc⟩ := a.trimStart_value hvalue
  obtain ⟨e, he, hafter⟩ := run_word hword hc (k := (k.pass a.front
    (a.sign :: (a.back ++ a.value))).pass [a.sign] (a.back ++ a.value)) rfl
  refine ⟨e, ?_, hafter⟩
  rw [run_seqs_cons]
  refine run_many_of_some ?_
  rw [hrun, hrest, run_seqs_cons, Pattern.among, run_one_cons rfl hamong]
  exact he

/-- The names differ where both have a character. -/
theorem all_zip_secretNames : ∀ s ∈ secretNames.map String.toList,
    ∀ t ∈ secretNames.map String.toList, s ≠ t →
      (s.zip t).all (fun p => CharSet.anyCase (· == p.1) p.2) = false := by
  simp only [secretNames, List.map_cons, List.map_nil]
  repeat rw [String.toList_ofList]
  decide +kernel

/-- Of the names only its own one stands at the front of an assignment. -/
theorem run_name {β : Type} {k : Cursor} {x : List Char} {cont : Cursor → Option β} {b : β}
    (hk : k.after = a.name.toList ++ x) (hcont : cont (k.pass a.name.toList x) = some b) :
    run (litsAnyCase secretNames) k cont = some b := by
  obtain ⟨ps, qs, hnames, hps⟩ := List.eq_append_cons_of_mem a.name_mem
  have hsame : List.Forall₂ (fun c d => CharSet.anyCase (· == c) d = true) a.name.toList
      a.name.toList := List.forall₂_same.2 fun c _ => by simp [CharSet.anyCase]
  rw [litsAnyCase, hnames, List.map_append, List.map_cons]
  refine run_choice_of_some (fun q hq => ?_) (by rw [run_litAnyCase hk hsame, hcont]) _
  obtain ⟨other, hother, rfl⟩ := List.mem_map.1 hq
  rw [Option.eq_none_iff_forall_ne_some]
  intro b' hb'
  obtain ⟨w, r, hw, hspells, -⟩ := exists_spells_of_run hb'
  have hne : other.toList ≠ a.name.toList := fun h => hps (String.toList_inj.1 h ▸ hother)
  have hmem : other ∈ secretNames := hnames ▸ List.mem_append_left _ hother
  have hfalse := all_zip_secretNames _ (List.mem_map_of_mem hmem) _
    (List.mem_map_of_mem a.name_mem) hne
  have htrue := all_zip_of_forall₂ (spells_litAnyCase.1 hspells) (hw.symm.trans hk)
  rw [htrue] at hfalse
  cases hfalse

theorem end?_of_isBlank (hfront : ∀ c ∈ a.front, isBlank c = true) (hvalue : a.value ≠ []) :
    ∃ e, assignmentPattern.end? (start a.text) = some e ∧
      e.after = behindWord (a.back ++ a.value) := by
  have hk : (start a.text).after = a.name.toList ++ (a.front ++ a.sign :: (a.back ++ a.value)) :=
    List.append_assoc ..
  obtain ⟨e, he, hafter⟩ := a.run_behind_name hfront hvalue
    (k := (start a.text).pass a.name.toList (a.front ++ a.sign :: (a.back ++ a.value))) rfl
  refine ⟨e, ?_, hafter⟩
  rw [assignmentPattern_eq, end?, run_seqs_cons]
  exact a.run_name hk he

/-- With blanks only in front of the sign, the assignment goes up to the end of a word. -/
theorem replaceAll_of_isBlank (hfront : ∀ c ∈ a.front, isBlank c = true) (hvalue : a.value ≠ []) :
    assignmentPattern.replaceAll mark a.text = mark ++ behindWord (a.back ++ a.value) := by
  obtain ⟨e, he, hafter⟩ := a.end?_of_isBlank hfront hvalue
  rw [← hafter]
  refine replaceAll_of_end? consumes_assignmentPattern mark he fun w hw hi => ?_
  obtain ⟨name, -, n, y, c, z, rfl, -, -, hc⟩ := exists_of_spells_assignmentPattern hw
  have hmem : c ∈ behindWord (a.back ++ a.value) := hafter ▸ hi.subset (by simp)
  exact (a.notMem_of_isSign hc).2 ((behindWord_isSuffix _).subset hmem)

end Assignment

end ThreatModel.LogText
