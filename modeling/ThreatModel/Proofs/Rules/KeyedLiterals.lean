import ThreatModel.Proofs.Rules.SecretFix

/-!
# The fix for a secret changes one literal only

`KeyedLiteral` says what a line looks like in which a long literal is assigned to a key, without
going through a pattern: which characters stand where, and where the text around them is. These are
the assignments that the fix looks for (`KeyedLiteral.assignment`, `exists_keyedLiteral`).

There may be several of them, and parts of one are assignments of their own: a key that is cut in
front is still a key. But those that start first agree in everything that matters for the fix: in
their key, in their literal and in the text on both sides of it
(`AssignmentIn.IsFirst.agree`). So the result of the fix can be told from any of them, and it is the
line with the look-up in the place of that literal (`secret_fix_replaces_first_literal`).
-/

namespace ThreatModel

open Text (isBlank isWord)
open Pattern

variable {c : Char} {w cs : List Char}

/-! ### Keys and literals -/

/-- The quotes around a literal or a key. -/
def IsQuote (c : Char) : Prop := c = '"' ∨ c = '\''

/-- A letter of ASCII or an underscore, and then characters of words and hyphens. -/
def IsKey (w : List Char) : Prop :=
  ∃ c r, w = c :: r ∧ (c.isAlpha = true ∨ c = '_') ∧ ∀ x ∈ r, isWord x = true ∨ x = '-'

/-- At least 16 characters in quotes, none of which is a quote or a blank. -/
def IsLongLiteral (w : List Char) : Prop :=
  ∃ c m d, w = c :: (m ++ [d]) ∧ IsQuote c ∧ IsQuote d ∧ 16 ≤ m.length ∧
    ∀ x ∈ m, ¬ IsQuote x ∧ isBlank x = false

/-- A long literal in a line that is assigned to a key, with all that stands around it. -/
structure KeyedLiteral (cs : List Char) where
  front : List Char
  /-- The quote in front of the key, if there is one. -/
  opening : Option Char
  key : List Char
  /-- The quote behind the key, if there is one. -/
  closing : Option Char
  /-- The blanks in front of the sign. -/
  gap : List Char
  sign : Char
  /-- The blanks behind the sign. -/
  gap' : List Char
  literal : List Char
  back : List Char
  eq : cs = front ++ (opening.toList ++ (key ++ (closing.toList ++ (gap ++ sign :: (gap' ++
    (literal ++ back))))))
  isQuote_opening : ∀ q ∈ opening, IsQuote q
  isKey : IsKey key
  isQuote_closing : ∀ q ∈ closing, IsQuote q
  isBlank_gap : ∀ x ∈ gap, isBlank x = true
  isSign : sign = ':' ∨ sign = '='
  isBlank_gap' : ∀ x ∈ gap', isBlank x = true
  isLong : IsLongLiteral literal

namespace KeyedLiteral

/-- What stands in front of the literal. -/
def lead (s : KeyedLiteral cs) : List Char :=
  s.front ++ (s.opening.toList ++ (s.key ++ (s.closing.toList ++ (s.gap ++ s.sign :: s.gap'))))

/-- Whether none starts further in front. -/
def IsFirst (s : KeyedLiteral cs) : Prop := ∀ t : KeyedLiteral cs, s.front.length ≤ t.front.length

end KeyedLiteral

/-! ### The words of the patterns -/

theorem isQuote_iff : isQuote c = true ↔ IsQuote c := by
  simp [isQuote, mem_of_among, IsQuote]

theorem spells_optQuote_iff : optQuote.Spells w ↔ ∃ o : Option Char, w = o.toList ∧
    ∀ q ∈ o, IsQuote q := by
  rw [spells_optQuote]
  constructor
  · rintro (rfl | ⟨q, rfl, hq⟩)
    · exact ⟨none, rfl, by simp⟩
    · exact ⟨some q, rfl, by simpa [isQuote_iff] using hq⟩
  · rintro ⟨_ | q, rfl, hq⟩
    · exact .inl rfl
    · exact .inr ⟨q, rfl, isQuote_iff.2 (hq q rfl)⟩

theorem spells_keyWord_iff : keyWord.Spells w ↔ IsKey w := by
  simp [spells_keyWord, IsKey, startsKey, Detector.wordOrHyphen, CharSet.union, mem_of_among]

theorem spells_longLiteral_iff : Detector.longLiteral.Spells w ↔ IsLongLiteral w := by
  simp [spells_longLiteral, IsLongLiteral, isQuote_iff, ← Bool.not_eq_true]

/-! ### Assignments of both kinds -/

namespace KeyedLiteral

/-- The assignment in the words of the patterns. -/
def assignment (s : KeyedLiteral cs) : AssignmentIn cs where
  front := s.front
  quote := s.opening.toList
  key := s.key
  separator := s.closing.toList ++ (s.gap ++ s.sign :: s.gap')
  literal := s.literal
  back := s.back
  eq := by simpa using s.eq
  spells_quote := spells_optQuote_iff.2 ⟨s.opening, rfl, s.isQuote_opening⟩
  spells_key := spells_keyWord_iff.2 s.isKey
  spells_separator := spells_keySeparator.2 ⟨_, _, _, _, rfl,
    spells_optQuote_iff.2 ⟨s.closing, rfl, s.isQuote_closing⟩, s.isBlank_gap,
    mem_of_among.2 (by simpa using s.isSign), s.isBlank_gap'⟩
  spells_literal := spells_longLiteral_iff.2 s.isLong

theorem eq_lead (s : KeyedLiteral cs) : cs = s.lead ++ (s.literal ++ s.back) :=
  s.assignment.eq_lead

end KeyedLiteral

theorem exists_keyedLiteral (t : AssignmentIn cs) : ∃ s : KeyedLiteral cs, s.assignment = t := by
  obtain ⟨front, quote, key, separator, literal, back, heq, hquote, hkey, hsep, hliteral⟩ := t
  obtain ⟨opening, rfl, hopening⟩ := spells_optQuote_iff.1 hquote
  obtain ⟨q, gap, sign, gap', rfl, hq, hgap, hsign, hgap'⟩ := spells_keySeparator.1 hsep
  obtain ⟨closing, rfl, hclosing⟩ := spells_optQuote_iff.1 hq
  have hsign' : sign = ':' ∨ sign = '=' := by simpa using mem_of_among.1 hsign
  exact ⟨⟨front, opening, key, closing, gap, sign, gap', literal, back, by simpa using heq, hopening,
    spells_keyWord_iff.1 hkey, hclosing, hgap, hsign', hgap', spells_longLiteral_iff.1 hliteral⟩,
    rfl⟩

theorem KeyedLiteral.isFirst_assignment_iff {s : KeyedLiteral cs} :
    s.assignment.IsFirst ↔ s.IsFirst := by
  constructor
  · exact fun h t => h t.assignment
  · intro h t
    obtain ⟨t, rfl⟩ := exists_keyedLiteral t
    exact h t

/-! ### The first assignments -/

namespace AssignmentIn

theorem length_literal (s : AssignmentIn cs) : 18 ≤ s.literal.length := by
  obtain ⟨c, m, d, h, -, -, hlen, -⟩ := spells_longLiteral.1 s.spells_literal
  rw [h, List.length_cons, List.length_append, List.length_singleton]
  omega

/-- **The first assignments agree.** -/
theorem IsFirst.agree {s t : AssignmentIn cs} (hs : s.IsFirst) (ht : t.IsFirst) :
    s.lead = t.lead ∧ s.key = t.key ∧ s.back = t.back := by
  have hlead : s.lead = t.lead ∧ s.literal = t.literal ∧ s.back = t.back := by
    rcases s.eq_or_isPrefix t.literalIn ((hs t).trans_lt t.length_front_lt) with h | h
    · exact h
    rcases t.eq_or_isPrefix s.literalIn ((ht s).trans_lt s.length_front_lt) with h' | h'
    · exact ⟨h'.1.symm, h'.2.1.symm, h'.2.2.symm⟩
    · -- Each literal would end in front of the other.
      have hlen := h.length_le
      have hlen' := h'.length_le
      have hs₁ := s.length_literal
      have ht₁ := t.length_literal
      simp only [List.length_append, List.length_take] at hlen hlen'
      omega
  refine ⟨hlead.1, ?_, hlead.2.2⟩
  rw [← hs.keyBefore_lead, ← ht.keyBefore_lead, hlead.1]

end AssignmentIn

/-- **The fix for a secret changes one literal only.** A line is fixed exactly if a long literal is
assigned to a key in it. Of the literals of which this is so the first one is replaced, quotes and
all, by the look-up of its key in the language of the file. What stands in front of that literal and
behind it stays. -/
theorem secret_fix_replaces_first_literal (snippet file : String) :
    ((secretFix? snippet file).isSome = true ↔ Nonempty (KeyedLiteral snippet.toList)) ∧
      ∀ fixed, secretFix? snippet file = some fixed ↔
        ∃ s : KeyedLiteral snippet.toList, s.IsFirst ∧
          snippet.toList = s.lead ++ (s.literal ++ s.back) ∧
          fixed.toList =
            s.lead ++ ((envLookup file (envName (String.ofList s.key))).toList ++ s.back) := by
  refine ⟨⟨fun h => ?_, fun ⟨s⟩ => isSome_secretFix? s.assignment file⟩,
    fun fixed => ⟨fun h => ?_, ?_⟩⟩
  · obtain ⟨fixed, hfixed⟩ := Option.isSome_iff_exists.1 h
    obtain ⟨t, -⟩ := exists_of_secretFix? hfixed
    obtain ⟨s, -⟩ := exists_keyedLiteral t
    exact ⟨s⟩
  · obtain ⟨t, hfirst, hfixed⟩ := exists_of_secretFix? h
    obtain ⟨s, rfl⟩ := exists_keyedLiteral t
    exact ⟨s, KeyedLiteral.isFirst_assignment_iff.1 hfirst, s.eq_lead, hfixed⟩
  · rintro ⟨s, hfirst, -, hfixed⟩
    obtain ⟨fixed', hfixed', t, htfirst, ht⟩ := exists_secretFix? s.assignment file
    obtain ⟨hlead, hkey, hback⟩ :=
      (KeyedLiteral.isFirst_assignment_iff.2 hfirst).agree htfirst
    have heq : fixed' = fixed := by
      rw [← String.toList_inj, ht, hfixed, ← hlead, ← hkey, ← hback]
      rfl
    rw [hfixed', heq]

/-- Of two literals the first one is replaced, by the look-up of a key in quotes. -/
example : secretFix? "\"aé-key\" = 'ponmlkjihgfedcba', b='ponmlkjihgfedcba'" "a.py" =
    some "\"aé-key\" = os.environ[\"Aé_KEY\"], b='ponmlkjihgfedcba'" := by
  decide +kernel

end ThreatModel
