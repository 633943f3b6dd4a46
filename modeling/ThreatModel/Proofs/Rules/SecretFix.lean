import ThreatModel.Proofs.Scan.Places
import ThreatModel.Rules.Threats

/-!
# What the fix for a secret replaces

The fix for a secret puts a look-up in the environment in place of one literal of the line: that of
the first assignment of a long literal to any key (`IsFirst`, `exists_of_secretFix?`). A secret is
found by what its key is called, so that the assignment that was found need not be that one.

* The line is put together again from the slices around the assignment and from its groups. They
  follow on each other (`of_assignmentAt?`), so that all in front of the literal is as it was.
* Assignments in one text do not cross: two of them are the same literal, or one ends in front of
  the literal of the other or with its opening quote (`AssignmentIn.eq_or_isPrefix`).
* So the look-up replaces the literal that was found if no assignment is in front of it, and
  otherwise leaves it where it is (`AssignmentIn.replaced_iff`). Names of variables hold no quotes,
  which is why a look-up put in front cannot take the literal's place by accident
  (`AssignmentIn.ne_of_shared_quote`).
* `secret_taken_out_iff` says this of the threats that are made of the secrets found in a file.
-/

namespace ThreatModel

open Text (Cursor isBlank)
open Text.Cursor
open Pattern

variable {c : Char} {w cs : List Char}

/-! ### Characters -/

/-- The quotes around a literal. -/
def isQuote : CharSet := CharSet.among "\"'"

/-- The characters that a key starts with. -/
def startsKey : CharSet := fun c => c.isAlpha || c == '_'

theorem mem_of_among {s : String} : CharSet.among s c = true ↔ c ∈ s.toList := List.contains_iff_mem

theorem not_wordOrHyphen_of_among (h : CharSet.among "\"':=" c = true) :
    Detector.wordOrHyphen c = false := by
  have hall : "\"':=".toList.all fun c => !Detector.wordOrHyphen c := by decide +kernel
  simpa using List.all_eq_true.1 hall c (mem_of_among.1 h)

theorem not_wordOrHyphen_of_isQuote (h : isQuote c = true) : Detector.wordOrHyphen c = false := by
  refine not_wordOrHyphen_of_among (mem_of_among.2 ?_)
  exact (by decide : "\"'".toList ⊆ "\"':=".toList) (mem_of_among.1 h)

theorem not_wordOrHyphen_of_isBlank (h : isBlank c = true) : Detector.wordOrHyphen c = false := by
  have hall : Text.blankChars.all fun c => !Detector.wordOrHyphen c := by decide +kernel
  simpa using List.all_eq_true.1 hall c (Text.mem_blankChars h)

theorem wordOrHyphen_of_startsKey (h : startsKey c = true) : Detector.wordOrHyphen c = true := by
  have hword : Text.isWord c = true := by
    rcases Bool.or_eq_true_iff.1 h with h | h
    · have hascii := (Text.ascii_of_isAlpha h).2
      rw [Text.isWord, if_pos (by omega), Char.isAlphanum, h]
      rfl
    · rw [beq_iff_eq.1 h]
      decide
  rw [Detector.wordOrHyphen, CharSet.union, hword, Bool.true_or]

theorem not_wordOrHyphen_of_sign_or_blank (h : CharSet.among ":=" c = true ∨ isBlank c = true) :
    Detector.wordOrHyphen c = false :=
  h.elim (fun h => not_wordOrHyphen_of_among
    (mem_of_among.2 ((by decide : ":=".toList ⊆ "\"':=".toList) (mem_of_among.1 h))))
    not_wordOrHyphen_of_isBlank

theorem not_isQuote_of_sign (h : CharSet.among ":=" c = true) : isQuote c = false := by
  have hall : ":=".toList.all fun c => !isQuote c := by decide
  simpa using List.all_eq_true.1 hall c (mem_of_among.1 h)

theorem not_isQuote_of_isBlank (h : isBlank c = true) : isQuote c = false := by
  have hall : Text.blankChars.all fun c => !isQuote c := by decide +kernel
  simpa using List.all_eq_true.1 hall c (Text.mem_blankChars h)

/-! ### The words of an assignment -/

theorem spells_optQuote : optQuote.Spells w ↔ w = [] ∨ ∃ c, w = [c] ∧ isQuote c = true := or_comm

theorem spells_keyWord : keyWord.Spells w ↔
    ∃ c r, w = c :: r ∧ startsKey c = true ∧ ∀ x ∈ r, Detector.wordOrHyphen x = true :=
  spells_seq_one

theorem spells_keySeparator : keySeparator.Spells w ↔
    ∃ q a s b, w = q ++ (a ++ s :: b) ∧ optQuote.Spells q ∧ (∀ x ∈ a, isBlank x = true) ∧
      CharSet.among ":=" s = true ∧ ∀ x ∈ b, isBlank x = true := by
  constructor
  · rintro ⟨q, _, rfl, hq, a, _, rfl, ha, _, b, rfl, ⟨s, rfl, hs⟩, hb⟩
    exact ⟨q, a, s, b, rfl, hq, ha, hs, hb⟩
  · rintro ⟨q, a, s, b, rfl, hq, ha, hs, hb⟩
    exact ⟨q, _, rfl, hq, a, _, rfl, ha, [s], b, rfl, ⟨s, rfl, hs⟩, hb⟩

theorem spells_longLiteral : Detector.longLiteral.Spells w ↔
    ∃ c m d, w = c :: (m ++ [d]) ∧ isQuote c = true ∧ isQuote d = true ∧ 16 ≤ m.length ∧
      ∀ x ∈ m, isQuote x = false ∧ isBlank x = false := by
  have hset (x : Char) : (!(x == '"' || x == '\'' || isBlank x)) = true ↔
      isQuote x = false ∧ isBlank x = false := by
    simp [isQuote, CharSet.among, and_assoc]
  constructor
  · rintro ⟨_, _, rfl, ⟨c, rfl, hc⟩, m, _, rfl, hm, d, rfl, hd⟩
    obtain ⟨hlen, hm⟩ := spells_atLeast.1 hm
    exact ⟨c, m, d, rfl, hc, hd, hlen, fun x hx => (hset x).1 (hm x hx)⟩
  · rintro ⟨c, m, d, rfl, hc, hd, hlen, hm⟩
    exact ⟨[c], m ++ [d], rfl, ⟨c, rfl, hc⟩, m, [d], rfl,
      spells_atLeast.2 ⟨hlen, fun x hx => (hset x).2 (hm x hx)⟩, d, rfl, hd⟩

/-- What comes in front of the first quote. -/
theorem eq_of_append_quote {m m' r r' : List Char} {d d' : Char}
    (hm : ∀ x ∈ m, isQuote x = false) (hm' : ∀ x ∈ m', isQuote x = false)
    (hd : isQuote d = true) (hd' : isQuote d' = true) (h : m ++ d :: r = m' ++ d' :: r') :
    m = m' ∧ d = d' ∧ r = r' := by
  have htake (m r : List Char) (d : Char) (hm : ∀ x ∈ m, isQuote x = false)
      (hd : isQuote d = true) : (m ++ d :: r).takeWhile (fun x => !isQuote x) = m := by
    rw [List.takeWhile_append_of_pos fun x hx => by simp [hm x hx],
      List.takeWhile_cons_of_neg (by simp [hd]), List.append_nil]
  obtain rfl : m = m' := by rw [← htake m r d hm hd, h, htake m' r' d' hm' hd']
  exact ⟨rfl, List.cons.inj (List.append_cancel_left h)⟩

/-- A long literal ends at its second quote. -/
theorem eq_of_literal_append {w' r r' : List Char} (hw : Detector.longLiteral.Spells w)
    (hw' : Detector.longLiteral.Spells w') (h : w ++ r = w' ++ r') : w = w' ∧ r = r' := by
  obtain ⟨c, m, d, rfl, -, hd, -, hm⟩ := spells_longLiteral.1 hw
  obtain ⟨c', m', d', rfl, -, hd', -, hm'⟩ := spells_longLiteral.1 hw'
  simp only [List.cons_append, List.append_assoc, List.nil_append, List.cons.injEq] at h
  obtain ⟨rfl, h⟩ := h
  obtain ⟨rfl, rfl, rfl⟩ :=
    eq_of_append_quote (fun x hx => (hm x hx).1) (fun x hx => (hm' x hx).1) hd hd' h
  exact ⟨rfl, rfl⟩

theorem spells_reverse_longLiteral (hw : Detector.longLiteral.Spells w) :
    Detector.longLiteral.Spells w.reverse := by
  obtain ⟨c, m, d, rfl, hc, hd, hlen, hm⟩ := spells_longLiteral.1 hw
  exact spells_longLiteral.2 ⟨d, m.reverse, c, by simp, hd, hc, by simpa using hlen,
    fun x hx => hm x (List.mem_reverse.1 hx)⟩

/-- A long literal begins at the second quote from its end. -/
theorem eq_of_append_literal {w' u u' : List Char} (hw : Detector.longLiteral.Spells w)
    (hw' : Detector.longLiteral.Spells w') (h : u ++ w = u' ++ w') : u = u' ∧ w = w' := by
  have hreverse : w.reverse ++ u.reverse = w'.reverse ++ u'.reverse := by
    rw [← List.reverse_append, h, List.reverse_append]
  obtain ⟨hwr, hur⟩ := eq_of_literal_append (spells_reverse_longLiteral hw)
    (spells_reverse_longLiteral hw') hreverse
  exact ⟨List.reverse_injective hur, List.reverse_injective hwr⟩

/-! ### Assignments in a line -/

/-- An assignment of a long literal to a key. -/
def assignmentPattern : Pattern := seqs [optQuote, keyWord, keySeparator, Detector.longLiteral]

/-- A long literal in a line, behind a sign of assignment or a blank. -/
structure LiteralIn (cs front literal back : List Char) : Prop where
  eq : cs = front ++ (literal ++ back)
  spells : Detector.longLiteral.Spells literal
  behind : ∃ l x, front = l ++ [x] ∧ (CharSet.among ":=" x = true ∨ isBlank x = true)

/-- An assignment of a long literal in a line, in its parts. -/
structure AssignmentIn (cs : List Char) where
  front : List Char
  quote : List Char
  key : List Char
  separator : List Char
  literal : List Char
  back : List Char
  eq : cs = front ++ (quote ++ (key ++ (separator ++ (literal ++ back))))
  spells_quote : optQuote.Spells quote
  spells_key : keyWord.Spells key
  spells_separator : keySeparator.Spells separator
  spells_literal : Detector.longLiteral.Spells literal

theorem AssignmentIn.spells (s : AssignmentIn cs) :
    assignmentPattern.Spells (s.quote ++ (s.key ++ (s.separator ++ s.literal))) :=
  ⟨_, _, rfl, s.spells_quote, _, _, rfl, s.spells_key, _, _, rfl, s.spells_separator,
    s.spells_literal⟩

theorem occursIn_assignmentPattern :
    assignmentPattern.occursIn cs = true ↔ Nonempty (AssignmentIn cs) := by
  rw [occursIn_iff (by decide +kernel)]
  constructor
  · rintro ⟨_, ⟨q, _, rfl, hq, key, _, rfl, hkey, sep, w, rfl, hsep, hw⟩, a, b, hcs⟩
    exact ⟨⟨a, q, key, sep, w, b, by simp [← hcs], hq, hkey, hsep, hw⟩⟩
  · rintro ⟨s⟩
    exact ⟨_, s.spells, s.front, s.back, (s.eq.trans (by simp)).symm⟩

theorem exists_last_of_keySeparator (hw : keySeparator.Spells w) :
    ∃ l x, w = l ++ [x] ∧ (CharSet.among ":=" x = true ∨ isBlank x = true) := by
  obtain ⟨q, a, s, b, rfl, -, -, hs, hb⟩ := spells_keySeparator.1 hw
  cases b using List.reverseRecOn with
  | nil => exact ⟨q ++ a, s, by simp, .inl hs⟩
  | append_singleton b x =>
    exact ⟨q ++ (a ++ s :: b), x, by simp, .inr (hb x (List.mem_append_right b (by simp)))⟩

theorem wordOrHyphen_of_mem_key (hw : keyWord.Spells w) :
    ∀ x ∈ w, Detector.wordOrHyphen x = true := by
  obtain ⟨c, r, rfl, hc, hr⟩ := spells_keyWord.1 hw
  exact List.forall_mem_cons.2 ⟨wordOrHyphen_of_startsKey hc, hr⟩

namespace AssignmentIn

/-- What stands in front of the literal. -/
def lead (s : AssignmentIn cs) : List Char := s.front ++ (s.quote ++ (s.key ++ s.separator))

theorem eq_lead (s : AssignmentIn cs) : cs = s.lead ++ (s.literal ++ s.back) := by
  simpa [lead] using s.eq

theorem length_front_lt (s : AssignmentIn cs) : s.front.length < s.lead.length := by
  obtain ⟨c, r, hkey, -⟩ := spells_keyWord.1 s.spells_key
  simp [lead, hkey]

theorem literalIn (s : AssignmentIn cs) : LiteralIn cs s.lead s.literal s.back where
  eq := s.eq_lead
  spells := s.spells_literal
  behind := by
    obtain ⟨l, x, hsep, hx⟩ := exists_last_of_keySeparator s.spells_separator
    exact ⟨s.front ++ (s.quote ++ (s.key ++ l)), x, by simp [lead, hsep], hx⟩

/-- The assignment in a longer line. -/
def extend (s : AssignmentIn cs) {r : List Char} (h : s.lead ++ (s.literal ++ r) = w) :
    AssignmentIn w :=
  { s with
    back := r
    eq := by simp [← h, lead] }

/-- A quote in front of the literal is the first character of the assignment, or stands behind the
last one of the key. -/
theorem isChain (s : AssignmentIn cs) : (s.quote ++ (s.key ++ s.separator)).IsChain
    fun x y => isQuote y = true → Detector.wordOrHyphen x = true := by
  have hnone {l : List Char} (h : ∀ y ∈ l, isQuote y = false) :
      l.IsChain fun x y => isQuote y = true → Detector.wordOrHyphen x = true :=
    List.Pairwise.isChain <| List.pairwise_of_forall_mem_list fun x _ y hy hq => by
      simp [h y hy] at hq
  have hopt {q : List Char} (h : optQuote.Spells q) :
      q.IsChain fun x y => isQuote y = true → Detector.wordOrHyphen x = true := by
    rcases spells_optQuote.1 h with rfl | ⟨c, rfl, -⟩
    · exact .nil
    · exact .singleton c
  have hword := wordOrHyphen_of_mem_key s.spells_key
  have hkey : ∀ y ∈ s.key, isQuote y = false := fun y hy => Bool.eq_false_iff.2 fun hq => by
    simpa [not_wordOrHyphen_of_isQuote hq] using hword y hy
  obtain ⟨q, a, sign, b, hsep, hq, ha, hsign, hb⟩ := spells_keySeparator.1 s.spells_separator
  have hrest : ∀ y ∈ a ++ sign :: b, isQuote y = false := by
    intro y hy
    rcases List.mem_append.1 hy with hy | hy
    · exact not_isQuote_of_isBlank (ha y hy)
    rcases List.mem_cons.1 hy with rfl | hy
    · exact not_isQuote_of_sign hsign
    · exact not_isQuote_of_isBlank (hb y hy)
  rw [hsep]
  refine List.isChain_append.2 ⟨hopt s.spells_quote, List.isChain_append.2 ⟨hnone hkey,
    List.isChain_append.2 ⟨hopt hq, hnone hrest, fun x _ y hy h => ?_⟩,
    fun x hx y _ _ => hword x (List.mem_of_mem_getLast? hx)⟩, fun x _ y hy h => ?_⟩
  · simp [hrest y (List.mem_of_mem_head? hy)] at h
  · obtain ⟨c, r, hcons, -⟩ := spells_keyWord.1 s.spells_key
    obtain rfl : c = y := by simpa [hcons] using hy
    simp [hkey c (by simp [hcons])] at h

/-- Of two literals in a line, an assignment that starts in front of the second one has that, or it
ends at its first quote at the latest. -/
theorem eq_or_isPrefix (s : AssignmentIn cs) {front literal back : List Char}
    (h : LiteralIn cs front literal back) (hlt : s.front.length < front.length) :
    (s.lead = front ∧ s.literal = literal ∧ s.back = back) ∨
      s.lead ++ s.literal <+: front ++ literal.take 1 := by
  obtain ⟨l, x, hfront, hx⟩ := h.behind
  obtain ⟨c, m, d, hliteral, hc, -⟩ := spells_longLiteral.1 h.spells
  have heq : s.lead ++ (s.literal ++ s.back) = front ++ (literal ++ back) :=
    s.eq_lead.symm.trans h.eq
  by_cases hlead : s.lead = front
  · rw [hlead] at heq
    exact .inl ⟨hlead, eq_of_literal_append s.spells_literal h.spells (List.append_cancel_left heq)⟩
  right
  rcases List.append_eq_append_iff.1 heq with ⟨t, ht, hrest⟩ | ⟨t, ht, hrest⟩
  · -- The literal of the assignment starts in front of the other, and has no quote inside.
    obtain ⟨c', m', d', hliteral', -, -, -, hm'⟩ := spells_longLiteral.1 s.spells_literal
    rw [ht, List.append_assoc]
    refine List.prefix_append_right_inj s.lead |>.2 ?_
    have hpre : t ++ [c] <+: s.literal ++ s.back := by
      rw [hrest, hliteral]
      exact ⟨m ++ [d] ++ back, by simp⟩
    rw [hliteral, List.take_succ_cons, List.take_zero]
    rcases List.prefix_or_prefix_of_prefix hpre (List.prefix_append s.literal s.back) with h' | h'
    · have hne : t ≠ [] := fun hnil => hlead (by simp [ht, hnil])
      obtain ⟨y, t, rfl⟩ := List.exists_cons_of_ne_nil hne
      rw [hliteral', List.cons_append, List.cons_prefix_cons, List.prefix_concat_iff] at h'
      rcases h'.2 with h'' | h''
      · rw [hliteral', h'.1, List.cons_append, h'']
      · have := (hm' c (h''.subset (by simp))).1
        simp [hc] at this
    · exact h'
  · -- The quote of the other literal would be one in front of that of the assignment.
    have hne : t ≠ [] := fun hnil => hlead (by simp [ht, hnil])
    obtain ⟨y, t, rfl⟩ := List.exists_cons_of_ne_nil hne
    obtain rfl : c = y := by simp [hliteral] at hrest; exact hrest.1
    have hl : s.front <+: l := by
      have hfrontLead : s.front <+: s.lead := List.prefix_append _ _
      have hlLead : l <+: s.lead := by
        rw [ht, hfront, List.append_assoc]
        exact List.prefix_append _ _
      refine List.prefix_of_prefix_length_le hfrontLead hlLead ?_
      rw [hfront, List.length_append, List.length_singleton] at hlt
      omega
    obtain ⟨u, rfl⟩ := hl
    have hinside : s.quote ++ (s.key ++ s.separator) = u ++ x :: c :: t := by
      rw [lead, hfront] at ht
      simpa using ht
    have hchain := s.isChain
    rw [hinside, List.isChain_append_cons_cons] at hchain
    rw [not_wordOrHyphen_of_sign_or_blank hx] at hchain
    exact absurd (hchain.2.1 hc) Bool.false_ne_true

end AssignmentIn

/-! ### The assignment that is found -/

namespace Pattern

theorem of_firstFrom {α : Type} {f : Cursor → Option α} {k k' : Cursor} {x : α}
    (h : firstFrom f k = some (k', x)) :
    f k' = some x ∧ ∃ a b, k.after = a ++ b ∧ k' = k.pass a b ∧
      ∀ a' b', k.after = a' ++ b' → a'.length < a.length → f (k.pass a' b') = none := by
  fun_induction firstFrom f k with
  | case1 k y hy =>
    obtain ⟨rfl, rfl⟩ : k = k' ∧ y = x := by simpa using h
    exact ⟨hy, [], k.after, rfl, (pass_nil rfl).symm, fun a' b' _ hlt => absurd hlt (by simp)⟩
  | case2 => cases h
  | case3 k hnone c r hk ih =>
    obtain ⟨hx, a, b, hr, hk', hfirst⟩ := ih h
    rw [after_push] at hr
    refine ⟨hx, c :: a, b, by rw [hk, hr]; rfl, by rw [hk', push_eq_pass, pass_pass]; rfl, ?_⟩
    intro a' b' hab hlt
    cases a' with
    | nil =>
      rwa [pass_nil (show k.after = b' from hab)]
    | cons d a' =>
      obtain ⟨rfl, hr'⟩ : c = d ∧ r = a' ++ b' := by simpa [hk] using hab
      have := hfirst a' b' (by rw [after_push, hr']) (by simpa using hlt)
      rwa [push_eq_pass, pass_pass] at this

theorem runEach_cons {p : Pattern} {ps : List Pattern} {k : Cursor} {es : List Cursor}
    (h : runEach (p :: ps) k = some es) :
    ∃ w r es', k.after = w ++ r ∧ p.Spells w ∧ es = k.pass w r :: es' ∧
      runEach ps (k.pass w r) = some es' := by
  obtain ⟨w, r, hk, hw, hrest⟩ := exists_spells_of_run h
  obtain ⟨es', hes', rfl⟩ := Option.map_eq_some_iff.1 hrest
  exact ⟨w, r, es', hk, hw, rfl, hes'⟩

theorem isSome_runEach {ps : List Pattern} (hfree : ∀ p ∈ ps, p.isFree = true) {k : Cursor}
    {w r : List Char} (hk : k.after = w ++ r) (hw : (seqs ps).Spells w) :
    (runEach ps k).isSome := by
  induction ps generalizing k w r with
  | nil => rfl
  | cons p ps ih =>
    obtain ⟨a, b, rfl, ha, hb⟩ := spells_seqs_cons.1 hw
    rw [List.forall_mem_cons] at hfree
    rw [List.append_assoc] at hk
    refine isSome_run_of_spells hfree.1 hk ha ?_
    rw [Option.isSome_map]
    exact ih hfree.2 rfl hb

end Pattern

/-- The parts that an assignment is read in follow on each other. -/
theorem of_assignmentAt? {k : Cursor} {a : Assignment} (h : assignmentAt? k = some a) :
    ∃ q key sep w r, k.after = q ++ (key ++ (sep ++ (w ++ r))) ∧ optQuote.Spells q ∧
      keyWord.Spells key ∧ keySeparator.Spells sep ∧ Detector.longLiteral.Spells w ∧
      a.start = k ∧ a.start.upTo a.key = q ∧ a.key.upTo a.separator = key ∧
      a.separator.upTo a.literal = sep ∧ a.last.after = r := by
  unfold assignmentAt? at h
  split at h
  next e₁ e₂ e₃ e₄ hrun =>
    obtain ⟨q, r₁, es₁, hk, hq, h₁, hrun₁⟩ := runEach_cons hrun
    obtain ⟨key, r₂, es₂, hr₁, hkey, rfl, hrun₂⟩ := runEach_cons hrun₁
    obtain ⟨sep, r₃, es₃, hr₂, hsep, rfl, hrun₃⟩ := runEach_cons hrun₂
    obtain ⟨w, r₄, es₄, hr₃, hw, rfl, -⟩ := runEach_cons hrun₃
    obtain rfl := Option.some.inj h
    simp only [List.cons.injEq] at h₁
    obtain ⟨rfl, rfl, rfl, rfl, -⟩ := h₁
    refine ⟨q, key, sep, w, r₄, ?_, hq, hkey, hsep, hw, rfl, upTo_pass hk, upTo_pass hr₁,
      upTo_pass hr₂, rfl⟩
    rw [after_pass] at hr₁ hr₂ hr₃
    rw [hk, hr₁, hr₂, hr₃]
  next => cases h

theorem isSome_assignmentAt? {k : Cursor} {r : List Char} (hk : k.after = w ++ r)
    (hw : assignmentPattern.Spells w) : (assignmentAt? k).isSome := by
  have hfree : ∀ p ∈ [optQuote, keyWord, keySeparator, Detector.longLiteral], p.isFree = true := by
    decide +kernel
  obtain ⟨es, hes⟩ := Option.isSome_iff_exists.1 (isSome_runEach hfree hk hw)
  obtain ⟨_, _, es₁, -, -, rfl, hrun₁⟩ := runEach_cons hes
  obtain ⟨_, _, es₂, -, -, rfl, hrun₂⟩ := runEach_cons hrun₁
  obtain ⟨_, _, es₃, -, -, rfl, hrun₃⟩ := runEach_cons hrun₂
  obtain ⟨_, _, es₄, -, -, rfl, hrun₄⟩ := runEach_cons hrun₃
  obtain rfl : [] = es₄ := Option.some.inj hrun₄
  rw [assignmentAt?, hes]
  rfl

namespace AssignmentIn

/-- Whether no assignment starts further in front. -/
def IsFirst (s : AssignmentIn cs) : Prop := ∀ t : AssignmentIn cs, s.front.length ≤ t.front.length

end AssignmentIn

/-- An assignment is found at its place. -/
theorem AssignmentIn.isSome_at (s : AssignmentIn cs) :
    ∃ r, cs = s.front ++ r ∧ (assignmentAt? ((Cursor.start cs).pass s.front r)).isSome := by
  refine ⟨_, s.eq, isSome_assignmentAt? (r := s.back) ?_ s.spells⟩
  simp

theorem AssignmentIn.isSome_assignment? (s : AssignmentIn cs) : (assignment? cs).isSome := by
  obtain ⟨r, hr, h⟩ := s.isSome_at
  rw [assignment?, Option.isSome_map]
  exact (isSome_firstFrom_iff _ _).2 ⟨s.front, r, hr, h⟩

/-- The assignment that is found is the first one, and it is read in its parts. -/
theorem exists_of_assignment? {a : Assignment} (h : assignment? cs = some a) :
    ∃ s : AssignmentIn cs, s.IsFirst ∧ a.start.front = s.front ∧ a.start.upTo a.key = s.quote ∧
      a.key.upTo a.separator = s.key ∧ a.separator.upTo a.literal = s.separator ∧
      a.last.after = s.back := by
  obtain ⟨⟨k, a⟩, hfirst, rfl⟩ := Option.map_eq_some_iff.1 h
  obtain ⟨ha, front, r, hcs, rfl, hnone⟩ := of_firstFrom hfirst
  obtain ⟨q, key, sep, w, back, hr, hq, hkey, hsep, hw, hstart, hparts⟩ := of_assignmentAt? ha
  rw [after_pass] at hr
  rw [after_start, hr] at hcs
  refine ⟨⟨front, q, key, sep, w, back, hcs, hq, hkey, hsep, hw⟩, ?_, ?_, hparts⟩
  · intro s
    by_contra hlt
    obtain ⟨r', hr', h⟩ := s.isSome_at
    rw [hnone s.front r' hr' (Nat.lt_of_not_le hlt)] at h
    cases h
  · rw [hstart]
    simp [Cursor.front, Cursor.pass, Cursor.start]

/-- The slices around an assignment and its groups make up what stands around its literal. -/
theorem exists_of_secretFix? {snippet file fixed : String}
    (h : secretFix? snippet file = some fixed) :
    ∃ s : AssignmentIn snippet.toList, s.IsFirst ∧
      fixed.toList =
        s.lead ++ ((envLookup file (envName (String.ofList s.key))).toList ++ s.back) := by
  obtain ⟨a, ha, rfl⟩ := Option.map_eq_some_iff.1 h
  obtain ⟨s, hfirst, hfront, hquote, hkey, hseparator, hback⟩ := exists_of_assignment? ha
  refine ⟨s, hfirst, ?_⟩
  simp [AssignmentIn.lead, hfront, hquote, hkey, hseparator, hback]

theorem isSome_secretFix? {snippet : String} (t : AssignmentIn snippet.toList) (file : String) :
    (secretFix? snippet file).isSome := by
  rw [secretFix?, Option.isSome_map]
  exact t.isSome_assignment?

theorem exists_secretFix? {snippet : String} (t : AssignmentIn snippet.toList) (file : String) :
    ∃ fixed, secretFix? snippet file = some fixed ∧
      ∃ s : AssignmentIn snippet.toList, s.IsFirst ∧
        fixed.toList =
          s.lead ++ ((envLookup file (envName (String.ofList s.key))).toList ++ s.back) := by
  obtain ⟨fixed, hfixed⟩ := Option.isSome_iff_exists.1 (isSome_secretFix? t file)
  exact ⟨fixed, hfixed, exists_of_secretFix? hfixed⟩

/-! ### The key of a literal -/

/-- The key that a literal is assigned to, by what stands in front of the literal: the last run of
characters of keys, from the first one on that a key starts with. -/
def keyBefore (front : List Char) : List Char :=
  let run := (front.reverse.dropWhile fun c => !Detector.wordOrHyphen c).takeWhile
    Detector.wordOrHyphen
  run.reverse.dropWhile fun c => !startsKey c

theorem not_wordOrHyphen_of_mem_separator (hw : keySeparator.Spells w) :
    ∀ x ∈ w, Detector.wordOrHyphen x = false := by
  obtain ⟨q, a, s, b, rfl, hq, ha, hs, hb⟩ := spells_keySeparator.1 hw
  intro x hx
  rcases List.mem_append.1 hx with hx | hx
  · rcases spells_optQuote.1 hq with rfl | ⟨c, rfl, hc⟩
    · cases hx
    · obtain rfl := List.mem_singleton.1 hx
      exact not_wordOrHyphen_of_isQuote hc
  rcases List.mem_append.1 hx with hx | hx
  · exact not_wordOrHyphen_of_isBlank (ha x hx)
  rcases List.mem_cons.1 hx with rfl | hx
  · exact not_wordOrHyphen_of_sign_or_blank (.inl hs)
  · exact not_wordOrHyphen_of_isBlank (hb x hx)

/-- The first assignment has all of the key. -/
theorem AssignmentIn.IsFirst.keyBefore_lead {s : AssignmentIn cs} (h : s.IsFirst) :
    keyBefore s.lead = s.key := by
  obtain ⟨c, r, hkey, hc, -⟩ := spells_keyWord.1 s.spells_key
  have hword := wordOrHyphen_of_mem_key s.spells_key
  have hsep := not_wordOrHyphen_of_mem_separator s.spells_separator
  -- What the run has in front of the key.
  let more := ((s.front ++ s.quote).reverse.takeWhile Detector.wordOrHyphen).reverse
  have hrun : ((s.lead.reverse.dropWhile fun c => !Detector.wordOrHyphen c).takeWhile
      Detector.wordOrHyphen).reverse = more ++ s.key := by
    have hlead : s.lead.reverse =
        s.separator.reverse ++ (s.key.reverse ++ (s.front ++ s.quote).reverse) := by
      simp [lead]
    have hkeep : (s.key.reverse ++ (s.front ++ s.quote).reverse).dropWhile
        (fun c => !Detector.wordOrHyphen c) = s.key.reverse ++ (s.front ++ s.quote).reverse := by
      obtain ⟨y, l, hy⟩ :=
        List.exists_cons_of_ne_nil (show s.key.reverse ≠ [] by simp [hkey])
      have hmem : y ∈ s.key := List.mem_reverse.1 (hy ▸ List.mem_cons_self)
      rw [hy, List.cons_append, List.dropWhile_cons_of_neg (by simp [hword y hmem])]
    rw [hlead, List.dropWhile_append_of_pos fun x hx => by simp [hsep x (List.mem_reverse.1 hx)],
      hkeep, List.takeWhile_append_of_pos fun x hx => hword x (List.mem_reverse.1 hx),
      List.reverse_append, List.reverse_reverse]
  have hmore : ∀ x ∈ more, startsKey x = false := by
    intro x hx
    by_contra hstart
    rw [Bool.not_eq_false] at hstart
    rcases spells_optQuote.1 s.spells_quote with hquote | ⟨q, hquote, hq⟩
    · obtain ⟨m₁, m₂, hm⟩ := List.append_of_mem hx
      have hfront : s.front =
          (s.front.reverse.dropWhile Detector.wordOrHyphen).reverse ++ (m₁ ++ x :: m₂) := by
        rw [← hm, ← List.reverse_append, hquote, List.append_nil, List.takeWhile_append_dropWhile,
          List.reverse_reverse]
      have hall : ∀ y ∈ m₂, Detector.wordOrHyphen y = true := fun y hy =>
        List.mem_takeWhile_imp (List.mem_reverse.1 (hm ▸ (by simp [hy] : y ∈ m₁ ++ x :: m₂)))
      have hle := h
        { s with
          front := (s.front.reverse.dropWhile Detector.wordOrHyphen).reverse ++ m₁
          quote := []
          key := x :: (m₂ ++ s.key)
          eq := by
            refine s.eq.trans ?_
            rw [hquote]
            nth_rewrite 1 [hfront]
            simp
          spells_quote := spells_optQuote.2 (.inl rfl)
          spells_key := spells_keyWord.2 ⟨x, _, rfl, hstart, fun y hy =>
            (List.mem_append.1 hy).elim (hall y) (hword y)⟩ }
      have hlen := congrArg List.length hfront
      simp only [List.length_append, List.length_cons] at hle hlen
      omega
    · simp [more, hquote, not_wordOrHyphen_of_isQuote hq] at hx
  rw [keyBefore, hrun, List.dropWhile_append_of_pos fun x hx => by simp [hmore x hx], hkey,
    List.dropWhile_cons_of_neg (by simp [hc])]

/-! ### Look-ups -/

theorem of_mem_envNameFrom {afterLower : Bool} {key : List Char}
    (h : c ∈ envNameFrom afterLower key) : c = '_' ∨ ∃ d ∈ key, c = d.toUpper := by
  fun_induction envNameFrom afterLower key with
  | case1 => cases h
  | case2 afterLower d r hd ih =>
    rcases List.mem_cons.1 h with rfl | h
    · exact .inl rfl
    · exact (ih h).imp_right fun ⟨e, he, heq⟩ => ⟨e, List.mem_cons_of_mem d he, heq⟩
  | case3 afterLower d r hd name hup ih =>
    rcases List.mem_cons.1 h with rfl | h
    · exact .inl rfl
    rcases List.mem_cons.1 h with rfl | h
    · exact .inr ⟨d, List.mem_cons_self, rfl⟩
    · exact (ih h).imp_right fun ⟨e, he, heq⟩ => ⟨e, List.mem_cons_of_mem d he, heq⟩
  | case4 afterLower d r hd name hup ih =>
    rcases List.mem_cons.1 h with rfl | h
    · exact .inr ⟨d, List.mem_cons_self, rfl⟩
    · exact (ih h).imp_right fun ⟨e, he, heq⟩ => ⟨e, List.mem_cons_of_mem d he, heq⟩

/-- There is no quote in the name of a key. -/
theorem not_isQuote_of_mem_envName {key : List Char} (hkey : keyWord.Spells key)
    (h : c ∈ (envName (String.ofList key)).toList) : isQuote c = false := by
  rw [envName, String.toList_ofList, String.toList_ofList] at h
  rcases of_mem_envNameFrom h with rfl | ⟨d, hd, rfl⟩
  · decide
  rw [← Bool.not_eq_true]
  intro hq
  have hword := wordOrHyphen_of_mem_key hkey d hd
  have halpha : d.toUpper.isAlpha = false := by
    have hall : "\"'".toList.all fun c => !c.isAlpha := by decide
    simpa using List.all_eq_true.1 hall _ (mem_of_among.1 hq)
  rw [Char.isAlpha_toUpper_eq_isAlpha] at halpha
  rw [Char.toUpper_eq_of_not_isLower (by simp [(Bool.or_eq_false_iff.1 halpha).2])] at hq
  rw [not_wordOrHyphen_of_isQuote hq] at hword
  cases hword

/-- The look-ups in a file start with a character that is no quote, or they are the names in braces
and quotes. -/
theorem envLookup_cases (file name name' : String) :
    (∃ c r, (envLookup file name).toList = c :: r ∧ isQuote c = false) ∨
      (envLookup file name).toList = '"' :: ('$' :: '\x7b' :: name.toList ++ '\x7d' :: ['"']) ∧
        ∃ r, (envLookup file name').toList = '"' :: r := by
  have hstarts {s : String} {c : Char} {l : List Char} (hs : s.toList = c :: l)
      (hc : isQuote c = false) (t : String) :
      ∃ c r, (s ++ t).toList = c :: r ∧ isQuote c = false :=
    ⟨c, l ++ t.toList, by rw [String.toList_append, hs, List.cons_append], hc⟩
  unfold envLookup
  dsimp only
  split
  all_goals first
    | exact .inl (hstarts rfl (by decide) _)
    | exact .inl (String.append_assoc ▸ hstarts rfl (by decide) _)
    | exact .inr ⟨by simp, '$' :: '\x7b' :: (name'.toList ++ ['\x7d', '"']), by simp⟩

/-! ### Findings -/

/-- Where the assignment found ends at the first quote of the literal, its look-up does not stand in
the place of the literal. -/
theorem AssignmentIn.ne_of_shared_quote (s : AssignmentIn cs) (file name : String)
    {front literal back : List Char} (h : LiteralIn cs front literal back)
    (hshared : s.lead ++ s.literal = front ++ literal.take 1) :
    s.lead ++ ((envLookup file (envName (String.ofList s.key))).toList ++ s.back) ≠
      front ++ ((envLookup file name).toList ++ back) := by
  intro heq
  obtain ⟨c, m, d, hliteral, -⟩ := spells_longLiteral.1 h.spells
  obtain ⟨c', m', d', hliteral', hc', -, -, hm'⟩ := spells_longLiteral.1 s.spells_literal
  obtain ⟨l, x, hfront, hx⟩ := h.behind
  have hlead : front = s.lead ++ c' :: m' := by
    rw [hliteral, hliteral', List.take_succ_cons, List.take_zero, ← List.cons_append,
      ← List.append_assoc] at hshared
    exact (List.append_inj_left' hshared rfl).symm
  rw [hlead, List.append_assoc, List.append_cancel_left_eq] at heq
  rcases envLookup_cases file (envName (String.ofList s.key)) name with
    ⟨e, r, hlookup, he⟩ | ⟨hlookup, r, hname⟩
  · rw [hlookup, List.cons_append, List.cons_append, List.cons.injEq] at heq
    rw [heq.1, hc'] at he
    cases he
  · -- Both look-ups are in quotes, so the braces of the first end where the literal had a sign.
    have hinside : '$' :: '\x7b' :: (envName (String.ofList s.key)).toList ++ ['\x7d'] = m' := by
      rw [hlookup, hname] at heq
      have hquote : isQuote '"' = true := by decide
      refine (eq_of_append_quote ?_ (fun y hy => (hm' y hy).1) hquote hquote
        (show _ ++ '"' :: s.back = m' ++ '"' :: (r ++ back) from ?_)).1
      · intro y hy
        simp only [List.cons_append, List.mem_cons, List.mem_append, List.not_mem_nil,
          or_false] at hy
        rcases hy with rfl | rfl | hy | rfl
        · decide
        · decide
        · exact not_isQuote_of_mem_envName s.spells_key hy
        · decide
      · simpa using (List.cons.inj heq).2
    rw [hlead, ← hinside, ← List.cons_append, ← List.append_assoc] at hfront
    obtain rfl := (List.append_singleton_inj.1 hfront).2
    exact absurd hx (by decide)

/-- **When a literal is replaced.** -/
theorem AssignmentIn.replaced_iff {snippet file fixed : String} (t : AssignmentIn snippet.toList)
    (h : secretFix? snippet file = some fixed) :
    let lookup := (envLookup file (envName (String.ofList (keyBefore t.lead)))).toList
    (fixed.toList = t.lead ++ (lookup ++ t.back) ∧ ¬ t.literal <:+: fixed.toList) ↔
      assignmentPattern.occursIn (t.lead ++ t.literal.take 1) = false ∧
        ¬ t.literal <:+: t.lead ++ (lookup ++ t.back) := by
  intro lookup
  obtain ⟨_, hfix, s, hfirst, hfixed⟩ := exists_secretFix? t file
  obtain rfl := Option.some.inj (h.symm.trans hfix)
  constructor
  · rintro ⟨heq, hgone⟩
    refine ⟨?_, heq ▸ hgone⟩
    rw [← Bool.not_eq_true, occursIn_assignmentPattern]
    rintro ⟨t'⟩
    -- With an assignment in front of the quote, the first one ends there or further in front.
    have hpre : s.lead ++ s.literal <+: t.lead ++ t.literal.take 1 := by
      let rest := t.literal.drop 1 ++ t.back
      have hsnippet : t.lead ++ t.literal.take 1 ++ rest = snippet.toList := by
        refine Eq.trans ?_ t.eq_lead.symm
        rw [List.append_assoc, ← List.append_assoc (t.literal.take 1), List.take_append_drop]
      have hextend : t'.lead ++ (t'.literal ++ (t'.back ++ rest)) = snippet.toList := by
        refine Eq.trans ?_ hsnippet
        refine Eq.trans ?_ (congrArg (· ++ rest) t'.eq_lead).symm
        simp only [List.append_assoc]
      let e := t'.extend hextend
      have hle : t'.lead ++ t'.literal <+: t.lead ++ t.literal.take 1 :=
        ⟨t'.back, (t'.eq_lead.trans (List.append_assoc ..).symm).symm⟩
      rcases s.eq_or_isPrefix e.literalIn ((hfirst e).trans_lt e.length_front_lt) with
        ⟨hlead, hliteral, -⟩ | hpre
      · rw [hlead, hliteral]
        exact hle
      · refine (hpre.trans ?_).trans hle
        exact (List.prefix_append_right_inj _).2 (List.take_prefix 1 t'.literal)
    obtain ⟨c, m, d, hliteral, -⟩ := spells_longLiteral.1 t.spells_literal
    have hshared := s.ne_of_shared_quote file (envName (String.ofList (keyBefore t.lead)))
      t.literalIn
    rw [hliteral, List.take_succ_cons, List.take_zero] at hpre hshared
    rcases List.prefix_concat_iff.1 hpre with hpre | ⟨z, hz⟩
    · exact hshared hpre (hfixed ▸ heq)
    · have hback : s.back = z ++ (t.literal ++ t.back) := by
        have := s.eq_lead.symm.trans t.eq_lead
        rw [← hz] at this
        simpa using this
      rw [hfixed, hback] at hgone
      exact hgone ⟨s.lead ++ ((envLookup file (envName (String.ofList s.key))).toList ++ z), t.back,
        by simp⟩
  · rintro ⟨hnone, hgone⟩
    have hlt : s.front.length < t.lead.length := (hfirst t).trans_lt t.length_front_lt
    rcases s.eq_or_isPrefix t.literalIn hlt with ⟨hlead, -, hback⟩ | ⟨z, hz⟩
    · have hkey : keyBefore t.lead = s.key := hlead ▸ hfirst.keyBefore_lead
      have heq : fixed.toList = t.lead ++ (lookup ++ t.back) := by
        rw [hfixed, hlead, hback, ← hkey]
      exact ⟨heq, heq ▸ hgone⟩
    · rw [← Bool.not_eq_true, occursIn_assignmentPattern] at hnone
      exact absurd ⟨s.extend ((List.append_assoc ..).symm.trans hz)⟩ hnone

/-! ### Matches of the detector -/

/-- Whether a text consists of characters of keys, one of which a key starts with. -/
def HoldsKey (w : List Char) : Prop :=
  (∀ x ∈ w, Detector.wordOrHyphen x = true) ∧ ∃ x ∈ w, startsKey x = true

theorem HoldsKey.append {v : List Char} (h : HoldsKey w)
    (hv : ∀ x ∈ v, Detector.wordOrHyphen x = true) : HoldsKey (w ++ v) :=
  ⟨fun x hx => (List.mem_append.1 hx).elim (h.1 x) (hv x),
    h.2.imp fun _ hx => hx.imp_left (List.mem_append_left v)⟩

/-- Whether a fixed text has only letters, and one of them is no other character in another case. -/
def isLetters (s : String) : Bool :=
  s.toList.all Char.isAlpha && s.toList.any fun c =>
    !CharSet.anyCase (· == c) '\u212a' && !CharSet.anyCase (· == c) '\u017f'

theorem holdsKey_of_litAnyCase {s : String} (hs : isLetters s = true)
    (hw : (litAnyCase s).Spells w) : HoldsKey w := by
  rw [isLetters, Bool.and_eq_true, List.all_eq_true, List.any_eq_true] at hs
  obtain ⟨hall, c, hc, hother⟩ := hs
  have hforall := spells_litAnyCase.1 hw
  constructor
  · intro x hx
    obtain ⟨d, hd, hcase⟩ := exists_mem_of_forall₂ hforall.flip hx
    rcases CharSet.isAlpha_of_anyCase_beq (hall d hd) hcase with halpha | rfl | rfl
    · exact wordOrHyphen_of_startsKey (by rw [startsKey, halpha, Bool.true_or])
    · decide +kernel
    · decide +kernel
  · obtain ⟨x, hx, hcase⟩ := exists_mem_of_forall₂ hforall hc
    refine ⟨x, hx, ?_⟩
    rcases CharSet.isAlpha_of_anyCase_beq (hall c hc) hcase with halpha | rfl | rfl
    · rw [startsKey, halpha, Bool.true_or]
    · simp [hcase] at hother
    · simp [hcase] at hother

/-- Two fixed texts, perhaps with a hyphen or an underscore between them. -/
theorem holdsKey_of_compound {s t : String} (hs : isLetters s = true) (ht : isLetters t = true)
    (hw : (seqs [litAnyCase s, opt (Pattern.among "_-"), litAnyCase t]).Spells w) : HoldsKey w := by
  obtain ⟨a, _, rfl, ha, x, b, rfl, hx, hb⟩ := hw
  refine (holdsKey_of_litAnyCase hs ha).append fun y hy => ?_
  rcases List.mem_append.1 hy with hy | hy
  · rcases hx with ⟨c, rfl, hc⟩ | rfl
    · obtain rfl := List.mem_singleton.1 hy
      have hall : "_-".toList.all Detector.wordOrHyphen := by decide +kernel
      exact List.all_eq_true.1 hall y (mem_of_among.1 hc)
    · cases hy
  · exact (holdsKey_of_litAnyCase ht hb).1 y hy

/-- A match of the detector for secrets ends in an assignment of its literal. -/
theorem exists_of_mem_occurrences {m : Match} {text : List Char}
    (hm : m ∈ Detector.hardcodedSecret.pattern.occurrences text) :
    ∃ front key sep literal, m.text = front ++ (key ++ (sep ++ literal)) ∧ keyWord.Spells key ∧
      keySeparator.Spells sep ∧ Detector.longLiteral.Spells literal := by
  obtain ⟨w, hw, hk, hlast⟩ := exists_spells_of_end? (Pattern.of_mem_matchesFrom hm).1
  have hmatch : m.text = w := by
    rw [Match.text, hlast]
    exact upTo_pass hk
  obtain ⟨secret, _, rfl, hsecret, run, _, rfl, hrun, q, _, rfl, hq, a, _, rfl, ha, _, _, rfl,
    ⟨s, rfl, hs⟩, b, literal, rfl, hb, hliteral⟩ := hw
  have hholds : HoldsKey (secret ++ run) := by
    refine HoldsKey.append ?_ hrun
    simp only [spells_choice, List.mem_cons, List.not_mem_nil, or_false, exists_eq_or_imp,
      exists_eq_left] at hsecret
    rcases hsecret with h | h | h | h | h | h | h | h | h
    · exact holdsKey_of_compound (by decide +kernel) (by decide +kernel) h
    · exact holdsKey_of_litAnyCase (by decide +kernel) h
    · exact holdsKey_of_litAnyCase (by decide +kernel) h
    · exact holdsKey_of_litAnyCase (by decide +kernel) h
    · exact holdsKey_of_litAnyCase (by decide +kernel) h
    · exact holdsKey_of_compound (by decide +kernel) (by decide +kernel) h
    · exact holdsKey_of_compound (by decide +kernel) (by decide +kernel) h
    · exact holdsKey_of_compound (by decide +kernel) (by decide +kernel) h
    · exact holdsKey_of_litAnyCase (by decide +kernel) h
  obtain ⟨hword, x, hx, hstart⟩ := hholds
  obtain ⟨front, name, hsplit⟩ := List.append_of_mem hx
  refine ⟨front, x :: name, q ++ (a ++ s :: b), literal, ?_, ?_, ?_, hliteral⟩
  · rw [hmatch, ← List.append_assoc, hsplit]
    simp
  · exact spells_keyWord.2 ⟨x, name, rfl, hstart, fun y hy => hword y (by simp [hsplit, hy])⟩
  · exact spells_keySeparator.2 ⟨q, a, s, b, rfl, hq, ha, hs, hb⟩

theorem nodup_map_name_registry : (Detector.registry.map (·.name)).Nodup := by decide

/-- **A secret that was found is taken out exactly if no assignment stands in front of it.** Every
match of the detector for secrets ends in a long literal, and inside the snippet of its finding the
threat has a change of the code. After the change a look-up of the key stands in the place of the
literal, which is gone, exactly if no assignment of a long literal ends in front of the literal or
at its first quote, and the literal does not stand in the rest of the line or in the look-up. -/
theorem secret_taken_out_iff (a : Analysis) (limits : Limits) (path text : String) :
    (∀ f ∈ scanText Detector.registry limits path text,
      f.detector = Detector.hardcodedSecretName →
        ∃ m ∈ Detector.hardcodedSecret.pattern.occurrences text.toList,
          f = Detector.hardcodedSecret.finding limits path m.first) ∧
    ∀ m ∈ Detector.hardcodedSecret.pattern.occurrences text.toList,
      let f := Detector.hardcodedSecret.finding limits path m.first
      (∃ lead literal, m.text = lead ++ literal ∧ Detector.longLiteral.Spells literal) ∧
      ∀ before lead literal behind, m.text = lead ++ literal →
        Detector.longLiteral.Spells literal →
        f.snippet.toList = before ++ (m.text ++ behind) →
          let front := before ++ lead
          let lookup := (envLookup path (envName (String.ofList (keyBefore front)))).toList
          ∃ fixed, (findingThreat a f).mitigations.head? = some (.code path f.snippet fixed) ∧
            (fixed.toList = front ++ (lookup ++ behind) ∧ ¬ literal <:+: fixed.toList ↔
              assignmentPattern.occursIn (front ++ literal.take 1) = false ∧
                ¬ literal <:+: front ++ (lookup ++ behind)) := by
  constructor
  · intro f hf hname
    rw [scanText_eq_take] at hf
    obtain ⟨d, hd, hmem⟩ := List.mem_flatMap.1 (List.mem_of_mem_take hf)
    obtain ⟨m, hm, rfl⟩ := List.mem_map.1 hmem
    obtain rfl : d = .hardcodedSecret :=
      List.inj_on_of_nodup_map nodup_map_name_registry hd List.mem_cons_self hname
    exact ⟨m, hm, rfl⟩
  intro m hm f
  obtain ⟨front, key, sep, literal, hmatch, hkey, hsep, hliteral⟩ := exists_of_mem_occurrences hm
  have hsplit : m.text = (front ++ (key ++ sep)) ++ literal := by simp [hmatch]
  refine ⟨⟨_, literal, hsplit, hliteral⟩, ?_⟩
  intro before lead literal' behind hsplit' hliteral' hf
  obtain ⟨rfl, rfl⟩ := eq_of_append_literal hliteral hliteral' (hsplit.symm.trans hsplit')
  rw [hmatch] at hf
  let t : AssignmentIn f.snippet.toList := ⟨before ++ front, [], key, sep, literal, behind,
    hf.trans (by simp), spells_optQuote.2 (.inl rfl), hkey, hsep, hliteral⟩
  have hlead : t.lead = before ++ (front ++ (key ++ sep)) := List.append_assoc ..
  obtain ⟨fixed, hfixed, -⟩ := exists_secretFix? t path
  refine ⟨fixed, ?_, hlead ▸ t.replaced_iff hfixed⟩
  have hname : f.detector = Detector.hardcodedSecretName := rfl
  have hfile : f.file = path := rfl
  rw [findingThreat, secretMitigation, if_pos hname, hfile, hfixed]
  rfl

/-- A secret alone on its line is taken out. -/
theorem secret_taken_out_of_line :
    let text := "const apiKey = 'ponmlkjihgfedcba';"
    ∃ m ∈ Detector.hardcodedSecret.pattern.occurrences text.toList,
      let f := Detector.hardcodedSecret.finding {} "a.js" m.first
      f.snippet.toList = "const ".toList ++ (m.text ++ [';']) ∧
        (findingThreat default f).mitigations.head? =
          some (.code "a.js" f.snippet "const apiKey = process.env.API_KEY;") := by
  intro text
  have hmatches : (Detector.hardcodedSecret.pattern.occurrences text.toList).map (fun m =>
      (m.text, (Detector.hardcodedSecret.finding {} "a.js" m.first).snippet)) =
        [("apiKey = 'ponmlkjihgfedcba'".toList, text)] := by
    decide +kernel
  obtain ⟨m, hm, hpair⟩ := List.mem_map.1 (hmatches ▸ List.mem_singleton_self _)
  obtain ⟨hmatch, hsnippet⟩ := Prod.mk.inj hpair
  have hinside : (Detector.hardcodedSecret.finding {} "a.js" m.first).snippet.toList =
      "const ".toList ++ (m.text ++ [';']) := by
    rw [hsnippet, hmatch]
    decide +kernel
  have hliteral : Detector.longLiteral.Spells "'ponmlkjihgfedcba'".toList :=
    spells_longLiteral.2 ⟨'\'', "ponmlkjihgfedcba".toList, '\'', rfl, by decide, by decide,
      by decide, by simp [isQuote, CharSet.among, isBlank]⟩
  obtain ⟨fixed, hfix, hiff⟩ := ((secret_taken_out_iff default {} "a.js" text).2 m hm).2
    "const ".toList "apiKey = ".toList "'ponmlkjihgfedcba'".toList [';'] hmatch hliteral hinside
  have hfixed := (hiff.2 (by decide +kernel)).1
  obtain rfl : fixed = "const apiKey = process.env.API_KEY;" :=
    String.toList_inj.1 (hfixed.trans (by decide +kernel))
  exact ⟨m, hm, hinside, hfix⟩

/-- **A secret behind another assignment stays**, and the other literal is replaced. -/
theorem secret_behind_assignment_stays :
    let text := "user = \"abcdefghijklmnopqrst\"; password = \"ponmlkjihgfedcba\""
    (∃ f, scanText Detector.registry {} "a.js" text = [f] ∧ f.snippet = text ∧
      f.detector = Detector.hardcodedSecretName ∧
      (findingThreat default f).mitigations.head? =
        some (.code "a.js" text "user = process.env.USER; password = \"ponmlkjihgfedcba\"")) ∧
    ¬ ∀ (a : Analysis) (limits : Limits) (path text : String),
      ∀ m ∈ Detector.hardcodedSecret.pattern.occurrences text.toList,
        ∀ before lead literal behind, m.text = lead ++ literal →
          Detector.longLiteral.Spells literal →
          let f := Detector.hardcodedSecret.finding limits path m.first
          f.snippet.toList = before ++ (m.text ++ behind) →
            ∃ fixed, (findingThreat a f).mitigations.head? = some (.code path f.snippet fixed) ∧
              ¬ literal <:+: fixed.toList := by
  intro text
  let fixed := "user = process.env.USER; password = \"ponmlkjihgfedcba\""
  constructor
  · refine ⟨⟨"a.js", 1, Detector.hardcodedSecretName, text, .critical,
      "Long literal assigned to a secret-named key (CWE-798)"⟩, ?_, rfl, rfl, ?_⟩
    · decide +kernel
    · decide +kernel
  · intro h
    have hmatches : (Detector.hardcodedSecret.pattern.occurrences text.toList).map (fun m =>
        let f := Detector.hardcodedSecret.finding {} "a.js" m.first
        (m.text, f.snippet, (findingThreat default f).mitigations.head?)) =
          [("password = \"ponmlkjihgfedcba\"".toList, text, some (.code "a.js" text fixed))] := by
      decide +kernel
    obtain ⟨m, hm, hpair⟩ := List.mem_map.1 (hmatches ▸ List.mem_singleton_self _)
    simp only [Prod.mk.injEq] at hpair
    obtain ⟨hmatch, hsnippet, hmitigation⟩ := hpair
    have hliteral : Detector.longLiteral.Spells "\"ponmlkjihgfedcba\"".toList :=
      spells_longLiteral.2 ⟨'"', "ponmlkjihgfedcba".toList, '"', rfl, by decide, by decide,
        by decide, by simp [isQuote, CharSet.among, isBlank]⟩
    have hinside : (Detector.hardcodedSecret.finding {} "a.js" m.first).snippet.toList =
        "user = \"abcdefghijklmnopqrst\"; ".toList ++ (m.text ++ []) := by
      rw [hsnippet, hmatch]
      decide +kernel
    obtain ⟨fixed', hfixed, hgone⟩ := h default {} "a.js" text m hm
      "user = \"abcdefghijklmnopqrst\"; ".toList "password = ".toList
      "\"ponmlkjihgfedcba\"".toList [] hmatch hliteral hinside
    rw [hmitigation, Option.some.injEq, Mitigation.code.injEq] at hfixed
    rw [← hfixed.2.2] at hgone
    exact hgone (by decide +kernel)

end ThreatModel
