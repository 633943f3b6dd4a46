import Mathlib
import ThreatModel.Proofs.Pattern.Words
import ThreatModel.Proofs.Text.Replacement

/-!
# Replacing the matches of a pattern

A text is gone through from the front: at a place where the pattern matches, the match goes and the
new text comes, and anywhere else a character stays. `Pattern.Rewrites` says this one step at a time,
and `rewrites_replaceAll` that replacing all matches does it, as long as no match is empty.

A text without words of the pattern stays (`replaceAll_of_forall_not_isInfix`). When no word begins in
the new text, and one that goes on into it could have gone on into what was there before
(`Withstands`), nothing that is left is a word (`not_isInfix_replaceAll`). The same holds of several
patterns, one after another: no word of any of them is left (`not_isInfix_foldl_replaceAll`).
-/

namespace ThreatModel.Pattern

open Text (Cursor utf8Length)
open Text.Cursor

variable {p q : Pattern} {new cs out w : List Char} {k e : Cursor}

/-- Whether a pattern matches nowhere without taking a character. -/
def Consumes (p : Pattern) : Prop := ∀ w, p.Spells w → w ≠ []

/-! ### Searching -/

theorem utf8Length_pos (h : w ≠ []) : 0 < utf8Length w := by
  obtain ⟨c, r, rfl⟩ := List.exists_cons_of_ne_nil h
  have := c.utf8Size_pos
  rw [Text.utf8Length_cons]
  omega

theorem offset_lt_of_end? (hp : p.Consumes) (h : p.end? k = some e) : k.offset < e.offset := by
  obtain ⟨w, hw, -, he⟩ := exists_spells_of_end? h
  have := utf8Length_pos (hp w hw)
  rw [he, offset_pass]
  omega

theorem length_after_lt_of_end? (hp : p.Consumes) (h : p.end? k = some e) :
    e.after.length < k.after.length := by
  obtain ⟨w, hw, hk, -⟩ := exists_spells_of_end? h
  have := List.length_pos_of_ne_nil (hp w hw)
  rw [hk, List.length_append]
  omega

/-- No match begins in front of the end of the match before. -/
theorem matchesFrom_pass (p : Pattern) (u : List Char) (hk : k.after = u ++ e.after)
    (he : e = k.pass u e.after) :
    p.matchesFrom false e.offset k = p.matchesFrom false e.offset e := by
  induction u generalizing k with
  | nil =>
    have hke : e = k := he.trans (pass_nil hk)
    rw [hke]
  | cons c u ih =>
    have hlt : k.offset < e.offset := by
      have := utf8Length_pos (List.cons_ne_nil c u)
      rw [he, offset_pass]
      omega
    rw [matchesFrom]
    simp only [hlt, if_true]
    split
    next h => simp [h] at hk
    next d r h =>
      obtain ⟨rfl, rfl⟩ : d = c ∧ r = u ++ e.after := by simpa [h] using hk
      exact ih rfl (by rw [he, push_eq_pass, pass_pass]; rfl)

theorem matchesFrom_of_some (hp : p.Consumes) (fresh : Bool) {resume : Nat}
    (hresume : resume ≤ k.offset) (h : p.end? k = some e) :
    p.matchesFrom fresh resume k = ⟨k, e⟩ :: p.matchesFrom false e.offset e := by
  obtain ⟨w, hw, hk, he⟩ := exists_spells_of_end? h
  obtain ⟨c, u, rfl⟩ := List.exists_cons_of_ne_nil (hp w hw)
  have hne : e.offset ≠ resume := by
    have := offset_lt_of_end? hp h
    omega
  have hfound : (if k.offset < resume then none else
      (p.end? k).filter fun e => fresh || e.offset != resume) = some e := by
    rw [if_neg (Nat.not_lt.2 hresume), h]
    simp [hne]
  rw [matchesFrom]
  simp only [hfound]
  split
  next hnil => simp [hnil] at hk
  next d r hcons =>
    obtain ⟨rfl, rfl⟩ : d = c ∧ r = u ++ e.after := by simpa [hcons] using hk
    rw [matchesFrom_pass p u rfl (by rw [push_eq_pass, pass_pass]; exact he)]

theorem found_eq_none (h : p.end? k = none) (fresh : Bool) (resume : Nat) :
    (if k.offset < resume then none else
      (p.end? k).filter fun e => fresh || e.offset != resume) = none := by
  rw [h]
  simp

theorem matchesFrom_nil (h : p.end? k = none) (hk : k.after = []) (fresh : Bool) (resume : Nat) :
    p.matchesFrom fresh resume k = [] := by
  rw [matchesFrom]
  simp only [found_eq_none h]
  split
  next => rfl
  next c r hcons => simp [hk] at hcons

theorem matchesFrom_cons {c : Char} {r : List Char} (h : p.end? k = none) (hk : k.after = c :: r)
    (fresh : Bool) (resume : Nat) :
    p.matchesFrom fresh resume k = p.matchesFrom fresh resume (k.push c r) := by
  rw [matchesFrom]
  simp only [found_eq_none h]
  split
  next hnil => simp [hk] at hnil
  next d r' hcons =>
    obtain ⟨rfl, rfl⟩ : d = c ∧ r' = r := by simpa [hk] using hcons.symm
    rfl

/-! ### Rewriting -/

/-- The text behind a place becomes `out` when all matches are replaced by `new`. -/
inductive Rewrites (p : Pattern) (new : List Char) : Cursor → List Char → Prop where
  | done {k : Cursor} (h : p.end? k = none) (hk : k.after = []) : Rewrites p new k []
  | keep {k : Cursor} {c : Char} {r out : List Char} (h : p.end? k = none) (hk : k.after = c :: r)
      (rest : Rewrites p new (k.push c r) out) : Rewrites p new k (c :: out)
  | swap {k e : Cursor} {out : List Char} (h : p.end? k = some e) (rest : Rewrites p new e out) :
      Rewrites p new k (new ++ out)

/-- What is spliced together from the matches behind `k`: the text `u` from the last match on, and
then what rewriting makes of the rest. -/
theorem rewrites_spliced (hp : p.Consumes) (new : List Char) (fresh : Bool) (resume : Nat)
    (k d : Cursor) (u : List Char) (hresume : resume ≤ k.offset) (hd : d.after = u ++ k.after)
    (hk : k = d.pass u k.after) :
    ∃ out, p.Rewrites new k out ∧ spliced new d (p.matchesFrom fresh resume k) = u ++ out := by
  induction hn : k.after.length using Nat.strong_induction_on generalizing fresh resume k d u with
  | _ n ih =>
    subst hn
    cases h : p.end? k with
    | some e =>
      obtain ⟨out, hout, hspliced⟩ := ih _ (length_after_lt_of_end? hp h) false e.offset e e []
        le_rfl rfl (pass_nil rfl).symm rfl
      have hu : d.upTo k = u := by
        rw [hk]
        exact upTo_pass hd
      refine ⟨new ++ out, .swap h hout, ?_⟩
      rw [matchesFrom_of_some hp fresh hresume h, spliced, hspliced, hu]
      simp
    | none =>
      cases hafter : k.after with
      | nil =>
        refine ⟨[], .done h hafter, ?_⟩
        rw [matchesFrom_nil h hafter, spliced, hd, hafter]
      | cons c r =>
        have hd' : d.after = (u ++ [c]) ++ r := by simp [hd, hafter]
        have hk' : k.push c r = d.pass (u ++ [c]) r := by
          rw [push_eq_pass, hk, pass_pass]
        obtain ⟨out, hout, hspliced⟩ := ih r.length (by simp [hafter]) fresh resume (k.push c r) d
          (u ++ [c]) (hresume.trans (Nat.le_add_right _ _)) hd' hk' rfl
        refine ⟨c :: out, .keep h hafter hout, ?_⟩
        rw [matchesFrom_cons h hafter, hspliced, List.append_assoc, List.singleton_append]

/-- Replacing all matches rewrites a text from its front. -/
theorem rewrites_replaceAll (hp : p.Consumes) (new cs : List Char) :
    p.Rewrites new (start cs) (p.replaceAll new cs) := by
  obtain ⟨out, hout, hspliced⟩ := rewrites_spliced hp new true 0 (start cs) (start cs) []
    (Nat.zero_le _) rfl (pass_nil rfl).symm
  rw [replaceAll, occurrences, hspliced]
  exact hout

/-! ### Texts with no word, and texts with none left -/

theorem Rewrites.eq_of_forall_not_isInfix (hr : p.Rewrites new k out)
    (h : ∀ w, p.Spells w → ¬ w <:+: k.after) : out = k.after := by
  induction hr with
  | done _ hk => exact hk.symm
  | keep _ hk _ ih =>
    rw [hk] at h ⊢
    rw [ih fun w hw hi => h w hw (hi.trans (List.suffix_cons _ _).isInfix)]
    rfl
  | swap he _ _ =>
    obtain ⟨w, hw, hk, -⟩ := exists_spells_of_end? he
    exact absurd ⟨[], _, by rw [hk]; rfl⟩ (h w hw)

/-- A text without words stays. -/
theorem replaceAll_of_forall_not_isInfix (hp : p.Consumes) (new : List Char)
    (h : ∀ w, p.Spells w → ¬ w <:+: cs) : p.replaceAll new cs = cs :=
  (rewrites_replaceAll hp new cs).eq_of_forall_not_isInfix h

/-- Where a match at the front is the only one, the new text comes in front of what is left. -/
theorem replaceAll_of_end? (hp : p.Consumes) (new : List Char) (he : p.end? (start cs) = some e)
    (h : ∀ w, p.Spells w → ¬ w <:+: e.after) : p.replaceAll new cs = new ++ e.after := by
  have hr := rewrites_replaceAll hp new cs
  generalize p.replaceAll new cs = out at hr ⊢
  cases hr with
  | done hnone => simp [hnone] at he
  | keep hnone => simp [hnone] at he
  | swap he' hr =>
    obtain rfl := Option.some.inj (he.symm.trans he')
    rw [hr.eq_of_forall_not_isInfix h]

/-- A new text that stands apart from a word: the word has neither its first character nor its last
one, and is not inside it. -/
structure IsFence (new w : List Char) : Prop where
  head : ∃ c, new.head? = some c ∧ c ∉ w
  last : ∃ c, new.getLast? = some c ∧ c ∉ w
  inside : ¬ w <:+: new

theorem IsFence.ne_nil (h : IsFence new w) : new ≠ [] := by
  rintro rfl
  obtain ⟨c, hc, -⟩ := h.head
  cases hc

/-- A word does not begin in a new text that stands apart from it. -/
theorem IsFence.not_isPrefix (h : IsFence new w) {t : List Char} (ht : t <:+ new) (hne : t ≠ [])
    (z : List Char) : ¬ w <+: t ++ z := by
  obtain ⟨c, hc, hw⟩ := h.last
  obtain ⟨m, rfl⟩ : ∃ m, t = m ++ [c] := by
    obtain ⟨u, rfl⟩ := ht
    rw [List.getLast?_append_of_ne_nil u hne] at hc
    exact List.getLast?_eq_some_iff.1 hc
  rw [List.append_assoc, List.singleton_append, Text.isPrefix_append_cons_iff hw]
  exact fun hm => h.inside ((hm.trans (List.prefix_append m [c])).isInfix.trans ht.isInfix)

/-- A pattern of which no word comes about when words of `q` are replaced: each of its words has a
front that the new text stands apart from, and one that goes on into the new text could have gone on
into the word of `q` as well. -/
structure Withstands (p q : Pattern) (new : List Char) : Prop where
  front : ∀ {w}, p.Spells w → ∃ u, u <+: w ∧ IsFence new u
  across : ∀ {x c y v}, p.Spells (x ++ c :: y) → new.head? = some c → q.Spells v →
    ∃ u, u <+: v ∧ p.Spells (x ++ u)

theorem Withstands.of_isFence (h : ∀ w, p.Spells w → IsFence new w) (q : Pattern) :
    p.Withstands q new where
  front hw := ⟨_, List.prefix_rfl, h _ hw⟩
  across hw hc _ := by
    obtain ⟨c, hc', hmem⟩ := (h _ hw).head
    obtain rfl := Option.some.inj (hc.symm.trans hc')
    exact absurd (by simp) hmem

/-- Behind a new text there are all words that there are with it. -/
theorem Withstands.isInfix (h : p.Withstands q new) (hw : p.Spells w) (hi : w <:+: new ++ cs) :
    w <:+: cs := by
  have hsuffix {t : List Char} (ht : t <:+ new) (hi : w <:+: t ++ cs) : w <:+: cs := by
    induction t with
    | nil => exact hi
    | cons c t ih =>
      rcases List.infix_cons_iff.1 hi with hpre | hi
      · obtain ⟨u, hu, hfence⟩ := h.front hw
        exact absurd (hu.trans hpre) (hfence.not_isPrefix ht (List.cons_ne_nil c t) cs)
      · exact ih ((List.suffix_cons c t).trans ht) hi
  exact hsuffix List.suffix_rfl hi

/-- A word that begins with `x` and goes on into the new text begins with `x` in the text as it was. -/
theorem Rewrites.exists_isPrefix (hr : q.Rewrites new k out) (h : p.Withstands q new)
    {x y : List Char} (hw : p.Spells (x ++ y)) (hy : y <+: out) :
    ∃ u, u <+: k.after ∧ p.Spells (x ++ u) := by
  induction hr generalizing x y with
  | done =>
    rw [List.prefix_nil.1 hy] at hw
    exact ⟨[], List.nil_prefix, hw⟩
  | keep _ hk _ ih =>
    rcases List.prefix_cons_iff.1 hy with rfl | ⟨t, rfl, ht⟩
    · exact ⟨[], List.nil_prefix, hw⟩
    · rw [List.append_cons] at hw
      obtain ⟨u, hu, hw⟩ := ih hw ht
      exact ⟨_ :: u, hk ▸ List.cons_prefix_cons.2 ⟨rfl, hu⟩, (List.append_cons x _ u).symm ▸ hw⟩
  | swap he =>
    cases y with
    | nil => exact ⟨[], List.nil_prefix, hw⟩
    | cons c y =>
      obtain ⟨v, hv, hk, -⟩ := exists_spells_of_end? he
      have hc : new.head? = some c := by
        obtain ⟨u, -, hfence⟩ := h.front hw
        obtain ⟨d, t, rfl⟩ := List.exists_cons_of_ne_nil hfence.ne_nil
        exact congrArg some (List.cons_prefix_cons.1 hy).1.symm
      obtain ⟨u, hu, hw⟩ := h.across hw hc hv
      exact ⟨u, hu.trans ⟨_, hk.symm⟩, hw⟩

/-- Where there are words afterwards, there were words before. -/
theorem Rewrites.exists_isInfix (hr : q.Rewrites new k out) (h : p.Withstands q new)
    (hw : p.Spells w) (hi : w <:+: out) : ∃ u, p.Spells u ∧ u <:+: k.after := by
  induction hr with
  | done => exact ⟨w, hw, hi.trans List.nil_infix⟩
  | keep hnone hk hr ih =>
    rcases List.infix_cons_iff.1 hi with hpre | hi
    · obtain ⟨u, hu, hw⟩ := (Rewrites.keep hnone hk hr).exists_isPrefix h (x := []) hw hpre
      exact ⟨u, hw, hu.isInfix⟩
    · obtain ⟨u, hu, hi⟩ := ih hi
      exact ⟨u, hu, hk ▸ hi.trans (List.suffix_cons _ _).isInfix⟩
  | swap he _ ih =>
    obtain ⟨u, hu, hi⟩ := ih (h.isInfix hw hi)
    obtain ⟨v, -, hk, -⟩ := exists_spells_of_end? he
    exact ⟨u, hu, hk ▸ hi.trans (List.suffix_append v _).isInfix⟩

theorem Rewrites.not_isInfix (hr : p.Rewrites new k out) (hp : p.Consumes) (hfree : p.isFree = true)
    (h : p.Withstands p new) (hw : p.Spells w) : ¬ w <:+: out := by
  induction hr with
  | done => exact fun hi => hp w hw (List.infix_nil.1 hi)
  | keep hnone hk hr ih =>
    intro hi
    rcases List.infix_cons_iff.1 hi with hpre | hi
    · obtain ⟨u, hu, hu'⟩ := (Rewrites.keep hnone hk hr).exists_isPrefix h (x := []) hw hpre
      have := (isSome_end?_iff hfree).2 ⟨u, hu', hu⟩
      simp [hnone] at this
    · exact ih hi
  | swap _ _ ih => exact fun hi => ih (h.isInfix hw hi)

/-- No word is left. -/
theorem not_isInfix_replaceAll (hp : p.Consumes) (hfree : p.isFree = true)
    (h : p.Withstands p new) (cs : List Char) (hw : p.Spells w) : ¬ w <:+: p.replaceAll new cs :=
  (rewrites_replaceAll hp new cs).not_isInfix hp hfree h hw

/-- What is left are characters of the text, and those of the new text come in. -/
theorem Rewrites.mem (hr : p.Rewrites new k out) {c : Char} (hc : c ∈ out) :
    c ∈ k.after ∨ c ∈ new := by
  induction hr with
  | done => cases hc
  | keep _ hk _ ih =>
    rw [hk]
    rcases List.mem_cons.1 hc with rfl | hc
    · exact .inl List.mem_cons_self
    · exact (ih hc).imp_left (List.mem_cons_of_mem _)
  | swap he _ ih =>
    obtain ⟨v, -, hk, -⟩ := exists_spells_of_end? he
    rcases List.mem_append.1 hc with hc | hc
    · exact .inr hc
    · exact (ih hc).imp_left fun hc => hk ▸ List.mem_append_right v hc

/-! ### Several patterns, one after another -/

section

variable {ps : List Pattern}

theorem forall_not_isInfix_foldl (hps : ∀ q ∈ ps, q.Consumes ∧ p.Withstands q new)
    (h : ∀ w, p.Spells w → ¬ w <:+: cs) (hw : p.Spells w) :
    ¬ w <:+: ps.foldl (fun cs q => q.replaceAll new cs) cs := by
  induction ps generalizing cs with
  | nil => exact h w hw
  | cons q ps ih =>
    rw [List.forall_mem_cons] at hps
    refine ih hps.2 fun v hv hi => ?_
    obtain ⟨u, hu, hi⟩ := (rewrites_replaceAll hps.1.1 new cs).exists_isInfix hps.1.2 hv hi
    exact h u hu hi

/-- **No word of any of the patterns is left** when their words have been replaced, those of one
pattern after those of another. -/
theorem not_isInfix_foldl_replaceAll (hconsumes : ∀ p ∈ ps, p.Consumes)
    (hfree : ∀ p ∈ ps, p.isFree = true) (h : ∀ p ∈ ps, ∀ q ∈ ps, p.Withstands q new) (hp : p ∈ ps)
    (hw : p.Spells w) (cs : List Char) :
    ¬ w <:+: ps.foldl (fun cs q => q.replaceAll new cs) cs := by
  induction ps generalizing cs with
  | nil => cases hp
  | cons q ps ih =>
    have hrest : ∀ r ∈ ps, r ∈ q :: ps := fun r hr => List.mem_cons_of_mem q hr
    rw [List.foldl_cons]
    rcases List.mem_cons.1 hp with rfl | hp'
    · refine forall_not_isInfix_foldl (fun r hr => ⟨hconsumes r (hrest r hr), h p hp r (hrest r hr)⟩)
        (fun v hv => ?_) hw
      exact not_isInfix_replaceAll (hconsumes p hp) (hfree p hp) (h p hp p hp) cs hv
    · exact ih (fun r hr => hconsumes r (hrest r hr)) (fun r hr => hfree r (hrest r hr))
        (fun r hr r' hr' => h r (hrest r hr) r' (hrest r' hr')) hp' _

/-- A text without words of any of the patterns stays. -/
theorem foldl_replaceAll_of_forall (hconsumes : ∀ p ∈ ps, p.Consumes)
    (h : ∀ p ∈ ps, ∀ w, p.Spells w → ¬ w <:+: cs) :
    ps.foldl (fun cs q => q.replaceAll new cs) cs = cs := by
  induction ps with
  | nil => rfl
  | cons q ps ih =>
    rw [List.forall_mem_cons] at hconsumes h
    rw [List.foldl_cons, replaceAll_of_forall_not_isInfix hconsumes.1 new h.1]
    exact ih hconsumes.2 h.2

theorem mem_foldl_replaceAll (hconsumes : ∀ p ∈ ps, p.Consumes) {c : Char}
    (hc : c ∈ ps.foldl (fun cs q => q.replaceAll new cs) cs) : c ∈ cs ∨ c ∈ new := by
  induction ps generalizing cs with
  | nil => exact .inl hc
  | cons q ps ih =>
    rw [List.forall_mem_cons] at hconsumes
    rcases ih hconsumes.2 hc with hc | hc
    · exact (rewrites_replaceAll hconsumes.1 new cs).mem hc
    · exact .inr hc

end

/-! ### Occurrences -/

theorem isSome_firstFrom_iff {α : Type} (f : Cursor → Option α) (k : Cursor) :
    (firstFrom f k).isSome ↔ ∃ a b, k.after = a ++ b ∧ (f (k.pass a b)).isSome := by
  fun_induction firstFrom f k with
  | case1 k x hx =>
    refine iff_of_true rfl ⟨[], k.after, rfl, ?_⟩
    rw [pass_nil rfl, hx]
    rfl
  | case2 k hx h =>
    refine iff_of_false (by simp) ?_
    rintro ⟨a, b, hab, hf⟩
    obtain ⟨rfl, rfl⟩ := List.append_eq_nil_iff.1 (hab.symm.trans h)
    rw [pass_nil h, hx] at hf
    cases hf
  | case3 k hx c r h ih =>
    rw [ih, after_push]
    constructor
    · rintro ⟨a, b, rfl, hf⟩
      exact ⟨c :: a, b, h, by rwa [push_eq_pass, pass_pass] at hf⟩
    · rintro ⟨a, b, hab, hf⟩
      cases a with
      | nil =>
        rw [List.nil_append] at hab
        rw [pass_nil hab, hx] at hf
        cases hf
      | cons d a =>
        obtain ⟨rfl, rfl⟩ : c = d ∧ r = a ++ b := by simpa [h] using hab
        exact ⟨a, b, rfl, by rwa [push_eq_pass, pass_pass]⟩

/-- A pattern that looks at nothing around a word occurs where one of its words does. -/
theorem occursIn_iff (hfree : p.isFree = true) :
    p.occursIn cs = true ↔ ∃ w, p.Spells w ∧ w <:+: cs := by
  rw [occursIn, find?, Option.isSome_map, isSome_firstFrom_iff, after_start]
  simp only [isSome_end?_iff hfree, after_pass]
  constructor
  · rintro ⟨a, b, rfl, w, hw, hpre⟩
    exact ⟨w, hw, hpre.isInfix.trans (List.suffix_append a b).isInfix⟩
  · rintro ⟨w, hw, a, b, rfl⟩
    exact ⟨a, w ++ b, List.append_assoc .., w, hw, List.prefix_append w b⟩

theorem occursIn_eq_false_iff (hfree : p.isFree = true) :
    p.occursIn cs = false ↔ ∀ w, p.Spells w → ¬ w <:+: cs := by
  rw [← Bool.not_eq_true, occursIn_iff hfree]
  simp only [not_exists, not_and]

end ThreatModel.Pattern
