import ThreatModel.Proofs.Reply.Opener
import ThreatModel.Proofs.Reply.Quiet

/-!
# Which block is read

`unfenced` reads the whole text if the opening bracket of the array comes before every fence, and
otherwise what follows the *first* fence, up to the next fence that stands outside of string
literals.

* `unfenced_of_bracket` : the bracket comes first;
* `unfenced_of_fence` : the fence comes first;
* `unfenced_behind_fence` : the fence comes first and the array stands behind it.

`beforeFence?_eq_some` and `exists_beforeFence?` say which fence ends a block, in terms of the place
that the literals in front of it leave.
-/

namespace ThreatModel.Reply

variable {P m r : List Char} {c : Char}

/-! ### The first fence -/

/-- A fence at the front of a text does not reach over another character. -/
theorem fence_isPrefix_of_append_cons (hc : c ≠ '`') (h : fence <+: P ++ c :: r) : fence <+: P := by
  rw [fence] at h ⊢
  rcases P with _ | ⟨x, _ | ⟨y, _ | ⟨z, s⟩⟩⟩
  · simp [hc.symm] at h
  · simp [hc.symm] at h
  · simp [hc.symm] at h
  · simpa using h

theorem splitAt?_fence_append_cons (hP : ¬ fence <:+: P) (hc : c ≠ '`') (r : List Char) :
    Text.splitAt? fence (P ++ c :: r) =
      (Text.splitAt? fence (c :: r)).map fun p => (P ++ p.1, p.2) := by
  refine Text.splitAt?_append fun s t hst _ h => hP ?_
  rw [hst]
  exact (fence_isPrefix_of_append_cons hc h).isInfix.trans (List.suffix_append s t).isInfix

/-- Behind a text that ends in no backtick, the first fence is where it is put. -/
theorem splitAt?_fence_append (hP : ¬ fence <:+: P) (hl : P.getLast? ≠ some '`') (r : List Char) :
    Text.splitAt? fence (P ++ (fence ++ r)) = some (P, fence ++ r) := by
  have hsearch : Text.splitAt? fence (fence ++ r) = some ([], fence ++ r) := by
    simp [Text.splitAt?, fence]
  rw [Text.splitAt?_append, hsearch, Option.map_some, List.append_nil]
  intro s t hst ht h
  -- A fence that starts in `P` lies in it or ends behind its last character.
  rcases t with _ | ⟨x, _ | ⟨y, _ | ⟨z, t⟩⟩⟩
  · exact ht rfl
  · obtain rfl : '`' = x := by simpa [fence] using h
    exact hl (by simp [hst])
  · obtain ⟨-, rfl⟩ : '`' = x ∧ '`' = y := by simpa [fence] using h
    exact hl (by simp [hst])
  · have hp : fence <+: x :: y :: z :: t := by simpa [fence] using h
    exact hP (hst ▸ hp.isInfix.trans (List.suffix_append s _).isInfix)

theorem splitAt?_fence_none (h : Text.splitAt? fence P = none) : ¬ fence <:+: P := by
  rintro ⟨s, t, rfl⟩
  induction s with
  | nil => simp [Text.splitAt?, fence] at h
  | cons d s ih =>
    rw [List.cons_append, List.cons_append, Text.splitAt?] at h
    split at h
    · cases h
    · rw [Option.map_eq_none_iff] at h
      exact ih h

/-- Blanks at the front do not matter for the first fence. -/
theorem splitAt?_fence_trimStart {q b : List Char} (h : Text.splitAt? fence P = some (q, b)) :
    ∃ q', Text.splitAt? fence (Text.trimStart P) = some (q', b) := by
  obtain ⟨w, hw, hblank⟩ := Text.exists_blanks_trimStart P
  rw [hw, Text.splitAt?_append] at h
  · obtain ⟨⟨q', b'⟩, h', he⟩ := Option.map_eq_some_iff.1 h
    cases he
    exact ⟨q', h'⟩
  · rintro s t rfl ht hp
    cases t with
    | nil => exact ht rfl
    | cons d t =>
      have hd : '`' = d := (List.cons_prefix_cons.1 hp).1
      have hb := hblank d (by simp)
      rw [← hd] at hb
      exact absurd hb (by decide)

/-! ### The info word -/

/-- Characters of an info word. -/
def IsInfoChar (c : Char) : Prop :=
  c.isAlphanum = true ∨ c = '-' ∨ c = '+' ∨ c = '_' ∨ c = '.'

instance (c : Char) : Decidable (IsInfoChar c) := by unfold IsInfoChar; infer_instance

theorem isInfo_of_isInfoChar {info : List Char} (h : ∀ c ∈ info, IsInfoChar c) :
    isInfo info = true := by
  rw [isInfo, List.all_eq_true]
  intro c hc
  rcases h c (Text.mem_of_mem_trim hc) with hc | rfl | rfl | rfl | rfl
  · simp [hc]
  all_goals rfl

theorem newline_notMem_info {info : List Char} (h : ∀ c ∈ info, IsInfoChar c) : '\n' ∉ info :=
  fun hn => absurd (h _ hn) (by decide)

theorem afterInfo_append {info : List Char} (h : ∀ c ∈ info, IsInfoChar c) (r : List Char) :
    afterInfo (info ++ '\n' :: r) = r := by
  rw [afterInfo, Text.splitFirst?_append (newline_notMem_info h)]
  simp [isInfo_of_isInfoChar h]

theorem afterInfo_of_notMem (h : '\n' ∉ m) : afterInfo m = m := by
  rw [afterInfo, Text.splitFirst?_of_notMem h]

/-- A line with a bracket holds no info word. -/
theorem isInfo_append_bracket (m r : List Char) : isInfo (m ++ '[' :: r) = false := by
  rw [isInfo, Text.trim_append_cons rfl, List.all_eq_false]
  exact ⟨'[', by simp, by decide⟩

/-- Only what stands in front of the array can be taken for an info word. -/
theorem afterInfo_append_bracket (m r : List Char) :
    afterInfo (m ++ '[' :: r) = afterInfo m ++ '[' :: r := by
  by_cases hm : '\n' ∈ m
  · obtain ⟨line, m', rfl, hline⟩ := List.eq_append_cons_of_mem hm
    rw [List.append_assoc, List.cons_append, afterInfo, afterInfo,
      Text.splitFirst?_append hline, Text.splitFirst?_append hline]
    cases h : isInfo line <;> simp [h]
  · rw [afterInfo_of_notMem hm]
    by_cases hr : '\n' ∈ r
    · obtain ⟨line, r', rfl, hline⟩ := List.eq_append_cons_of_mem hr
      have hl : '\n' ∉ m ++ '[' :: line := by
        simp [hm, hline]
      have hsplit : m ++ '[' :: (line ++ '\n' :: r') = (m ++ '[' :: line) ++ '\n' :: r' := by simp
      rw [hsplit, afterInfo, Text.splitFirst?_append hl]
      simp [isInfo_append_bracket]
    · exact afterInfo_of_notMem (by simp [hm, hr])

theorem afterInfo_isSuffix (m : List Char) : afterInfo m <:+ m := by
  by_cases hm : '\n' ∈ m
  · obtain ⟨line, r, rfl, hline⟩ := List.eq_append_cons_of_mem hm
    rw [afterInfo, Text.splitFirst?_append hline]
    cases h : isInfo line with
    | true => simpa [h] using List.suffix_append (line ++ ['\n']) r
    | false => simp [h]
  · exact ⟨[], by rw [List.nil_append, afterInfo_of_notMem hm]⟩

/-! ### The fence that ends a block -/

theorem beforeFence?_eq_some {p : Place} {cs a : List Char} (h : beforeFence? p cs = some a) :
    ∃ b, cs = a ++ (fence ++ b) ∧ p.after a = .outside := by
  induction cs generalizing p a with
  | nil => cases h
  | cons c cs ih =>
    rw [beforeFence?] at h
    split at h
    next hc =>
      rw [Bool.and_eq_true, decide_eq_true_eq, List.isPrefixOf_iff_prefix] at hc
      obtain ⟨hp, b, hb⟩ := hc
      cases h
      exact ⟨b, hb.symm, hp⟩
    next =>
      obtain ⟨a', h', rfl⟩ := Option.map_eq_some_iff.1 h
      obtain ⟨b, rfl, hp⟩ := ih h'
      exact ⟨b, rfl, hp⟩

theorem beforeFence?_fence (r : List Char) : beforeFence? .outside (fence ++ r) = some [] := by
  simp [beforeFence?, fence]

/-- A fence outside of literals ends the block, unless an earlier one does. -/
theorem exists_beforeFence? {p : Place} {a : List Char} (h : p.after a = .outside) (b : List Char) :
    ∃ a', beforeFence? p (a ++ (fence ++ b)) = some a' := by
  induction a generalizing p with
  | nil =>
    rw [Place.after_nil] at h
    exact ⟨[], by rw [h]; exact beforeFence?_fence b⟩
  | cons c a ih =>
    rw [List.cons_append, beforeFence?]
    split
    · exact ⟨[], rfl⟩
    · obtain ⟨a', ha'⟩ := ih (p := p.step c) h
      exact ⟨c :: a', by rw [ha', Option.map_some]⟩

/-- What follows the fence that ends a block does not matter. -/
theorem beforeFence?_append_of_some {p : Place} {cs a : List Char}
    (h : beforeFence? p cs = some a) (r : List Char) : beforeFence? p (cs ++ r) = some a := by
  induction cs generalizing p a with
  | nil => cases h
  | cons c cs ih =>
    rw [beforeFence?] at h
    rw [List.cons_append, beforeFence?]
    split at h
    next hc =>
      rw [Bool.and_eq_true, List.isPrefixOf_iff_prefix] at hc
      have hp : fence <+: c :: (cs ++ r) := hc.2.trans (List.prefix_append (c :: cs) r)
      cases h
      rw [if_pos (by rw [Bool.and_eq_true, List.isPrefixOf_iff_prefix]; exact ⟨hc.1, hp⟩)]
    next hc =>
      obtain ⟨a', h', rfl⟩ := Option.map_eq_some_iff.1 h
      -- The fence that was found is behind `c`, so none that starts there reaches into `r`.
      have hlen : fence.length ≤ (c :: cs).length := by
        obtain ⟨b, hb, -⟩ := beforeFence?_eq_some h'
        rw [hb, List.length_cons, List.length_append, List.length_append]
        omega
      have hc' : ¬ (decide (p = .outside) && fence.isPrefixOf (c :: (cs ++ r))) = true := by
        rw [Bool.and_eq_true, List.isPrefixOf_iff_prefix] at hc ⊢
        rintro ⟨hp, hf⟩
        exact hc ⟨hp, List.prefix_of_prefix_length_le hf (List.prefix_append (c :: cs) r) hlen⟩
      rw [if_neg hc', ih h', Option.map_some]

/-! ### The text that is read -/

/-- **If the opening bracket is found in front of every fence, the whole text is read.** -/
theorem unfenced_of_bracket (hP : ¬ fence <:+: P)
    (h : splitAtArray? (Text.trim (P ++ '[' :: r)) =
      some (Text.trimStart P, '[' :: Text.trimEnd r)) :
    unfenced (P ++ '[' :: r) = Text.trimStart P ++ '[' :: Text.trimEnd r := by
  have hP' : ¬ fence <:+: Text.trimStart P := fun hf =>
    hP (hf.trans (List.dropWhile_suffix _).isInfix)
  rw [unfenced, h, Text.trim_append_cons rfl, splitAt?_fence_append_cons hP' (by decide)]
  cases hs : Text.splitAt? fence ('[' :: Text.trimEnd r) with
  | none => rfl
  | some p =>
    obtain ⟨a, b⟩ := p
    -- The bracket itself is in front of the fence.
    have ha : a ≠ [] := by
      rintro rfl
      obtain ⟨he, hf⟩ := Text.splitAt?_eq_some hs
      rw [List.nil_append] at he
      rw [he] at hf
      exact absurd (List.cons_prefix_cons.1 hf).1 (by decide)
    have hlen : (Text.trimStart P).length < (Text.trimStart P ++ a).length := by
      rw [List.length_append]
      have := List.length_pos_of_ne_nil ha
      omega
    simp only [Option.map_some, decide_eq_true hlen, if_true]

/-- Text in front of the array is passed over. -/
theorem elements_of_opener (hP : ¬ fence <:+: P) (ho : ¬ HoldsOpener P)
    (hr : opensObject r = true) :
    elements (P ++ '[' :: r) = fromBracket ('[' :: Text.trimEnd r) := by
  have hsplit := splitAtArray?_bracket (not_holdsOpener_trimStart ho) (opensObject_trimEnd hr)
  refine elements_of_splitAtArray? (a := Text.trimStart P) ?_
  rw [unfenced_of_bracket hP (by rw [Text.trim_append_cons rfl]; exact hsplit)]
  exact hsplit

/-- **If no bracket is found in front of the first fence, the block behind it is read.** -/
theorem unfenced_of_fence {text q : List Char}
    (hs : Text.splitAt? fence (Text.trim text) = some (q, fence ++ m))
    (ha : ∀ a b, splitAtArray? (Text.trim text) = some (a, b) → q.length ≤ a.length) :
    unfenced text =
      Text.trim ((beforeFence? .outside (afterInfo m)).getD (afterInfo m)) := by
  rw [unfenced]
  simp only [hs, List.drop_left]
  cases h : splitAtArray? (Text.trim text) with
  | none => rfl
  | some p =>
    have := ha p.1 p.2 h
    simp only [decide_eq_false (Nat.not_lt.2 this)]
    rfl

/-- **An array behind a fence is looked for in the first block only.** -/
theorem unfenced_behind_fence {F q : List Char} (hF : ¬ HoldsOpener F)
    (hs : Text.splitAt? fence F = some (q, fence ++ m)) (hr : opensObject r = true) :
    unfenced (F ++ '[' :: r) =
      Text.trim ((beforeFence? .outside (afterInfo m ++ '[' :: Text.trimEnd r)).getD
        (afterInfo m ++ '[' :: Text.trimEnd r)) := by
  obtain ⟨q', hq⟩ := splitAt?_fence_trimStart hs
  have htrim : Text.trim (F ++ '[' :: r) = Text.trimStart F ++ '[' :: Text.trimEnd r :=
    Text.trim_append_cons rfl F r
  have hfence : Text.splitAt? fence (Text.trim (F ++ '[' :: r)) =
      some (q', fence ++ (m ++ '[' :: Text.trimEnd r)) := by
    rw [htrim, Text.splitAt?_append_of_some hq (by decide), List.append_assoc]
  rw [unfenced_of_fence hfence, afterInfo_append_bracket]
  intro a b hab
  rw [htrim, splitAtArray?_bracket (not_holdsOpener_trimStart hF) (opensObject_trimEnd hr)] at hab
  cases hab
  rw [← (Text.splitAt?_eq_some hq).1, List.length_append]
  omega

end ThreatModel.Reply
