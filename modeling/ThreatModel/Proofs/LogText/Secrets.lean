import Mathlib
import ThreatModel.LogText
import ThreatModel.Proofs.Pattern.Replacement

/-!
# Secrets in logs

What the words of the four patterns of secrets look like: a key with a usual beginning has a hyphen,
a token for authorization a blank behind letters, an assignment its name in front of a sign, and the
id of an access key is twenty digits and capitals. None of them starts with a blank or depends on what
stands around it. The mark that takes their place stands apart from keys, tokens and access keys. The
value of an assignment can be a mark; but then there was a secret in its place, so that the
assignment was there before (`withstands_assignmentPattern`). So redaction leaves no secret
(`not_isInfix_redacted`).
-/

namespace ThreatModel

open Text (isBlank)

namespace LogText

open Pattern

variable {w : List Char}

/-! ### Words -/

/-- The names of secrets. -/
def secretNames : List String := ["password", "passwd", "pwd", "secret", "api_key", "apikey"]

/-- What stands in front of the value of an assignment. -/
def assignmentFront : Pattern :=
  seqs [litsAnyCase secretNames, blanks, Pattern.among "=:", blanks]

theorem assignmentPattern_eq : assignmentPattern =
    seqs [litsAnyCase secretNames, blanks, Pattern.among "=:", blanks,
      atLeast 1 fun c => !isBlank c] := rfl

theorem spells_assignmentPattern : assignmentPattern.Spells w ↔
    ∃ u v, w = u ++ v ∧ assignmentFront.Spells u ∧ v ≠ [] ∧ ∀ c ∈ v, isBlank c = false := by
  have hvalue {v : List Char} : (atLeast 1 fun c => !isBlank c).Spells v ↔
      v ≠ [] ∧ ∀ c ∈ v, isBlank c = false := by
    rw [spells_atLeast, Nat.one_le_iff_ne_zero, ne_eq, List.length_eq_zero_iff]
    simp
  have happend : assignmentPattern.Spells w ↔ _ :=
    spells_seqs_append [litsAnyCase secretNames, blanks, Pattern.among "=:", blanks]
      [atLeast 1 fun c => !isBlank c]
  rw [happend]
  exact exists₂_congr fun u v => and_congr_right fun _ => and_congr_right fun _ => hvalue

/-- There is a sign in front of a value. -/
theorem sign_mem_of_spells (h : assignmentFront.Spells w) : '=' ∈ w ∨ ':' ∈ w := by
  obtain ⟨n, r, rfl, -, hr⟩ := spells_seqs_cons.1 h
  obtain ⟨y, r, rfl, -, hr⟩ := spells_seqs_cons.1 hr
  obtain ⟨_, z, rfl, ⟨c, rfl, hc⟩, -⟩ := spells_seqs_cons.1 hr
  have hc' : c = '=' ∨ c = ':' := by simpa [CharSet.among] using hc
  exact hc'.imp (fun h => by simp [h]) fun h => by simp [h]

theorem hyphen_mem_of_spells (h : keyPattern.Spells w) : '-' ∈ w := by
  obtain ⟨a, b, rfl, ha, -⟩ := spells_seqs_cons.1 h
  obtain ⟨s, hs, hw⟩ := spells_litsAnyCase.1 ha
  have hmem : '-' ∈ s.toList := by
    simp only [List.mem_cons, List.not_mem_nil, or_false] at hs
    rcases hs with rfl | rfl | rfl <;> decide
  obtain ⟨d, hd, hcase⟩ := exists_mem_of_forall₂ hw hmem
  rw [CharSet.eq_of_anyCase_beq (by decide) hcase] at hd
  exact List.mem_append_left b hd

theorem exists_of_spells_bearerPattern (h : bearerPattern.Spells w) :
    ∃ b e x c z, w = b :: e :: (x ++ c :: z) ∧ CharSet.anyCase (· == 'B') b = true ∧
      CharSet.anyCase (· == 'e') e = true ∧ isBlank c = true := by
  obtain ⟨a, r, rfl, ha, hr⟩ := spells_seqs_cons.1 h
  obtain ⟨y, z, rfl, hy, -⟩ := spells_seqs_cons.1 hr
  rw [spells_litAnyCase, String.toList_ofList] at ha
  obtain ⟨b, a, hb, ha', rfl⟩ := List.forall₂_cons_left_iff.1 ha
  obtain ⟨e, x, he, -, rfl⟩ := List.forall₂_cons_left_iff.1 ha'
  obtain ⟨hlen, hy⟩ := spells_atLeast.1 hy
  obtain ⟨c, y, rfl⟩ := List.exists_cons_of_ne_nil (List.ne_nil_of_length_pos hlen)
  exact ⟨b, e, x, c, y ++ z, rfl, hb, he, hy c List.mem_cons_self⟩

theorem exists_of_spells_assignmentPattern (h : assignmentPattern.Spells w) :
    ∃ name ∈ secretNames, ∃ n y c z, w = n ++ y ++ c :: z ∧
      List.Forall₂ (fun c d => CharSet.anyCase (· == c) d = true) name.toList n ∧
      (∀ c ∈ y, isBlank c = true) ∧ (c = '=' ∨ c = ':') := by
  rw [assignmentPattern_eq, spells_seqs_cons] at h
  obtain ⟨n, r, rfl, hn, hr⟩ := h
  obtain ⟨y, r, rfl, hy, hr⟩ := spells_seqs_cons.1 hr
  obtain ⟨_, z, rfl, ⟨c, rfl, hc⟩, -⟩ := spells_seqs_cons.1 hr
  obtain ⟨name, hname, hn⟩ := spells_litsAnyCase.1 hn
  refine ⟨name, hname, n, y, c, z, (List.append_assoc ..).symm, hn, hy, ?_⟩
  simpa [CharSet.among] using hc

theorem exists_of_spells_accessKeyPattern (h : accessKeyPattern.Spells w) :
    w.length = 20 ∧ (∃ z, w = 'A' :: 'K' :: z) ∧ ∀ c ∈ w, c.isDigit = true ∨ c.isUpper = true := by
  obtain ⟨a, r, rfl, ha, hr⟩ := spells_seqs_cons.1 h
  obtain ⟨b, _, rfl, hb, rfl⟩ := spells_seqs_cons.1 hr
  obtain ⟨hlen, hb⟩ := spells_exactly.1 hb
  obtain rfl : a = ['A', 'K', 'I', 'A'] := by rw [spells_lit.1 ha, String.toList_ofList]
  refine ⟨by simp [hlen], ⟨_, rfl⟩, fun c hc => ?_⟩
  rw [List.append_nil, List.mem_append] at hc
  rcases hc with hc | hc
  · simp only [List.mem_cons, List.not_mem_nil, or_false] at hc
    rcases hc with rfl | rfl | rfl | rfl <;> decide
  · exact Bool.or_eq_true .. ▸ hb c hc

/-! ### Fronts of words -/

/-- A fixed text in any case starts with no blank, unless the text does. -/
theorem exists_cons_of_forall₂_anyCase {l : List Char} {c : Char} {r : List Char} (hl : l = c :: r)
    (hc : isBlank c = false)
    (hw : List.Forall₂ (fun c d => CharSet.anyCase (· == c) d = true) l w) :
    ∃ d t, w = d :: t ∧ isBlank d = false := by
  subst hl
  obtain ⟨d, t, hd, -, rfl⟩ := List.forall₂_cons_left_iff.1 hw
  exact ⟨d, t, rfl, CharSet.not_isBlank_of_anyCase_beq hc hd⟩

/-- So does one of several fixed texts. -/
theorem exists_cons_of_litsAnyCase {ss : List String}
    (hss : ∀ s ∈ ss, ∃ c r, s.toList = c :: r ∧ isBlank c = false)
    (hw : (litsAnyCase ss).Spells w) : ∃ d t, w = d :: t ∧ isBlank d = false := by
  obtain ⟨s, hs, hw⟩ := spells_litsAnyCase.1 hw
  obtain ⟨c, r, hl, hc⟩ := hss s hs
  exact exists_cons_of_forall₂_anyCase hl hc hw

/-- No secret starts with a blank. -/
theorem exists_cons_of_spells {p : Pattern} (hp : p ∈ secretPatterns) (hw : p.Spells w) :
    ∃ c r, w = c :: r ∧ isBlank c = false := by
  have hfront {a b : List Char} (h : ∃ c r, a = c :: r ∧ isBlank c = false) :
      ∃ c r, a ++ b = c :: r ∧ isBlank c = false := by
    obtain ⟨c, r, rfl, hc⟩ := h
    exact ⟨c, r ++ b, rfl, hc⟩
  simp only [secretPatterns, List.mem_cons, List.not_mem_nil, or_false] at hp
  rcases hp with rfl | rfl | rfl | rfl
  · obtain ⟨a, b, rfl, ha, -⟩ := spells_seqs_cons.1 hw
    refine hfront (exists_cons_of_litsAnyCase (fun s hs => ?_) ha)
    simp only [List.mem_cons, List.not_mem_nil, or_false] at hs
    rcases hs with rfl | rfl | rfl <;> exact ⟨_, _, String.toList_ofList, by decide⟩
  · obtain ⟨b, e, x, c, z, rfl, hb, -⟩ := exists_of_spells_bearerPattern hw
    exact ⟨b, _, rfl, CharSet.not_isBlank_of_anyCase_beq (by decide) hb⟩
  · rw [assignmentPattern_eq] at hw
    obtain ⟨a, b, rfl, ha, -⟩ := spells_seqs_cons.1 hw
    refine hfront (exists_cons_of_litsAnyCase (fun s hs => ?_) ha)
    simp only [secretNames, List.mem_cons, List.not_mem_nil, or_false] at hs
    rcases hs with rfl | rfl | rfl | rfl | rfl | rfl <;>
      exact ⟨_, _, String.toList_ofList, by decide⟩
  · obtain ⟨-, ⟨z, rfl⟩, -⟩ := exists_of_spells_accessKeyPattern hw
    exact ⟨'A', _, rfl, by decide⟩

theorem consumes_of_mem {p : Pattern} (hp : p ∈ secretPatterns) : p.Consumes := by
  rintro w hw rfl
  obtain ⟨c, r, h, -⟩ := exists_cons_of_spells hp hw
  cases h

theorem isFree_of_mem {p : Pattern} (hp : p ∈ secretPatterns) : p.isFree = true := by
  have hall : secretPatterns.all Pattern.isFree := by decide +kernel
  exact List.all_eq_true.1 hall p hp

theorem consumes_keyPattern : keyPattern.Consumes := consumes_of_mem (by simp [secretPatterns])

theorem consumes_bearerPattern : bearerPattern.Consumes := consumes_of_mem (by simp [secretPatterns])

theorem consumes_assignmentPattern : assignmentPattern.Consumes :=
  consumes_of_mem (by simp [secretPatterns])

theorem consumes_accessKeyPattern : accessKeyPattern.Consumes :=
  consumes_of_mem (by simp [secretPatterns])

theorem isFree_accessKeyPattern : accessKeyPattern.isFree = true :=
  isFree_of_mem (by simp [secretPatterns])

/-! ### The mark -/

theorem mark_eq : mark = ['[', 'R', 'E', 'D', 'A', 'C', 'T', 'E', 'D', ']'] :=
  String.toList_ofList

/-- The mark stands apart from texts without brackets that are not inside it. -/
theorem isFence_mark {p : Pattern} (hp : p.admits '[' = false) (hp' : p.admits ']' = false)
    (hw : p.Spells w) (hmark : ¬ w <:+: mark) : IsFence mark w where
  head := ⟨'[', by rw [mark_eq]; rfl, hw.notMem hp⟩
  last := ⟨']', by rw [mark_eq]; rfl, hw.notMem hp'⟩
  inside := hmark

/-- A text with a character that is not in the mark is not inside it. -/
theorem not_isInfix_mark_of_mem {c : Char} (hc : c ∈ w)
    (h : c ∉ ['[', 'R', 'E', 'D', 'A', 'C', 'T', 'E', 'D', ']']) : ¬ w <:+: mark := fun hi =>
  h (mark_eq ▸ hi.subset hc)

theorem isFence_of_keyPattern (hw : keyPattern.Spells w) : IsFence mark w :=
  isFence_mark (by decide +kernel) (by decide +kernel) hw
    (not_isInfix_mark_of_mem (hyphen_mem_of_spells hw) (by decide))

theorem isFence_of_bearerPattern (hw : bearerPattern.Spells w) : IsFence mark w := by
  refine isFence_mark (by decide +kernel) (by decide +kernel) hw ?_
  obtain ⟨b, e, x, c, z, rfl, -, -, hc⟩ := exists_of_spells_bearerPattern hw
  refine not_isInfix_mark_of_mem (c := c) (by simp) fun hmem => ?_
  have hall : ∀ c ∈ ['[', 'R', 'E', 'D', 'A', 'C', 'T', 'E', 'D', ']'], isBlank c = false :=
    Text.forall_mem_of_all (by decide)
  rw [hall c hmem] at hc
  cases hc

theorem isFence_of_accessKeyPattern (hw : accessKeyPattern.Spells w) : IsFence mark w := by
  refine isFence_mark (by decide +kernel) (by decide +kernel) hw fun hi => ?_
  have hlen := hi.length_le
  rw [(exists_of_spells_accessKeyPattern hw).1, mark_eq] at hlen
  simp at hlen

/-- The value of an assignment may reach into the mark, but then it could have reached into the
secret that was there. -/
theorem withstands_assignmentPattern {q : Pattern} (hq : q ∈ secretPatterns) :
    assignmentPattern.Withstands q mark where
  front hw := by
    obtain ⟨u, v, rfl, hu, -⟩ := spells_assignmentPattern.1 hw
    refine ⟨u, List.prefix_append u v, isFence_mark (by decide +kernel) (by decide +kernel) hu ?_⟩
    rcases sign_mem_of_spells hu with h | h
    · exact not_isInfix_mark_of_mem h (by decide)
    · exact not_isInfix_mark_of_mem h (by decide)
  across := by
    intro x c y v hw hc hv
    obtain rfl : '[' = c := by simpa [mark_eq] using hc
    obtain ⟨d, r, rfl, hd⟩ := exists_cons_of_spells hq hv
    obtain ⟨u, z, hxy, hu, -, hz⟩ := spells_assignmentPattern.1 hw
    have hbracket : '[' ∉ u := hu.notMem (by decide +kernel)
    -- The bracket is not in front of the value, so all of that is in `x`.
    have hfront : u <+: x := by
      have hpre : u <+: x ++ '[' :: y := ⟨z, hxy.symm⟩
      exact (Text.isPrefix_append_cons_iff hbracket).1 hpre
    obtain ⟨t, rfl⟩ := hfront
    obtain rfl : t ++ '[' :: y = z := by simpa using hxy
    refine ⟨[d], ⟨r, rfl⟩, spells_assignmentPattern.2 ⟨u, t ++ [d], by simp, hu, by simp, ?_⟩⟩
    intro c hc
    rcases List.mem_append.1 hc with hc | hc
    · exact hz c (List.mem_append_left _ hc)
    · exact List.mem_singleton.1 hc ▸ hd

theorem withstands_mark {p q : Pattern} (hp : p ∈ secretPatterns) (hq : q ∈ secretPatterns) :
    p.Withstands q mark := by
  simp only [secretPatterns, List.mem_cons, List.not_mem_nil, or_false] at hp
  rcases hp with rfl | rfl | rfl | rfl
  · exact .of_isFence (fun _ => isFence_of_keyPattern) q
  · exact .of_isFence (fun _ => isFence_of_bearerPattern) q
  · exact withstands_assignmentPattern hq
  · exact .of_isFence (fun _ => isFence_of_accessKeyPattern) q

/-! ### Redaction -/

theorem redacted_eq (cs : List Char) : redacted cs =
    accessKeyPattern.replaceAll mark (assignmentPattern.replaceAll mark
      (bearerPattern.replaceAll mark (keyPattern.replaceAll mark cs))) := by
  delta redacted secretPatterns
  rw [List.foldl_cons, List.foldl_cons, List.foldl_cons, List.foldl_cons, List.foldl_nil]

/-- **No secret is left** in a redacted text. -/
theorem not_isInfix_redacted {p : Pattern} (hp : p ∈ secretPatterns) (hw : p.Spells w)
    (cs : List Char) : ¬ w <:+: redacted cs :=
  not_isInfix_foldl_replaceAll (fun _ => consumes_of_mem) (fun _ => isFree_of_mem)
    (fun _ hp _ hq => withstands_mark hp hq) hp hw cs

end LogText

end ThreatModel
