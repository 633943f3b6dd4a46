import ThreatModel.Proofs.Reply.Surroundings
import ThreatModel.Proofs.Reply.Truncation

/-!
# Blocks that hide the array

Only the first block of a reply is read. If it ends in front of the array, or inside of it, the
array is lost, or its last elements are (`elements_behind_blocks`). In particular a complete block
that leaves no string literal open hides every array behind it (`elements_behind_complete_block`).
-/

namespace ThreatModel.Reply

open Json

/-- How an array is set into a reply, by the text in front of it and behind it: bare, or in a block
of its own. -/
inductive Setting : List Char → List Char → Prop
  | bare : Setting [] []
  | block {info a b : List Char} (hinfo : ∀ c ∈ info, IsInfoChar c) (ha : Blanks a)
      (hb : Blanks b) : Setting (fence ++ (info ++ '\n' :: a)) (b ++ fence)

/-- A text with a fence outside of string literals. -/
def HoldsFence (cs : List Char) : Prop :=
  ∃ a b, cs = a ++ (fence ++ b) ∧ Place.outside.after a = .outside

/-- Whether the first block of the text `F` in front of the array `A` ends before the array does. -/
def Hides (F A : List Char) : Prop :=
  ∃ q m, Text.splitAt? fence F = some (q, fence ++ m) ∧ HoldsFence (afterInfo m ++ A)

variable {A F P R : List Char} {xs : List Json}

/-- No bracket comes with the block. -/
theorem Setting.notMem (h : Setting F R) : '[' ∉ F ∧ ']' ∉ R := by
  cases h with
  | bare => exact ⟨List.not_mem_nil, List.not_mem_nil⟩
  | block hinfo ha hb =>
    refine ⟨notMem_opening hinfo ha, ?_⟩
    rw [List.mem_append]
    rintro (h | h)
    · exact absurd (hb _ h) (by decide)
    · exact absurd h (by decide)

variable {text m r z : List Char} {x : Json}

/-! ### What is left of the array -/

/-- A block that ends in front of the array holds none. -/
theorem elements_of_beforeFence? {q a : List Char} (hF : ¬ HoldsOpener F)
    (hs : Text.splitAt? fence F = some (q, fence ++ m)) (hr : opensObject r = true)
    (ha : beforeFence? .outside (afterInfo m ++ '[' :: Text.trimEnd r) = some a) (hnot : '[' ∉ a) :
    elements (F ++ '[' :: r) = .error .noArray := by
  refine elements_of_notMem fun hmem => hnot ?_
  rw [unfenced_behind_fence hF hs hr, ha, Option.getD_some] at hmem
  exact Text.mem_of_mem_trim hmem

theorem notMem_afterInfo {q : List Char} (hF : '[' ∉ F)
    (hs : Text.splitAt? fence F = some (q, fence ++ m)) : '[' ∉ afterInfo m := by
  intro hmem
  rw [← (Text.splitAt?_eq_some hs).1] at hF
  have hm := (afterInfo_isSuffix m).subset hmem
  exact hF (List.mem_append_right q (List.mem_append_right fence hm))

/-- The last elements are lost if the block ends inside of the array. -/
theorem brokenOff_ne (h : ArrayText A xs) (hne : xs ≠ []) {T b : List Char}
    (hT : T ++ (fence ++ b) = A) (recovered : Bool) : brokenOff A T xs ≠ .ok (xs, recovered) := by
  intro he
  rw [brokenOff] at he
  split_ifs at he with h₀
  rw [Except.ok.injEq, Prod.mk.injEq] at he
  have hlen := congrArg List.length he.1
  rw [List.length_take] at hlen
  have hall : xs.length ≤ completeIn A T := by omega
  have hc := h.of_mem_rest hne hT hall (c := '`') (by simp [fence])
  exact absurd hc (by decide)

/-- What stands in front of the fence that ends the block, if none does so before the array ends:
the array, with no bracket behind it. -/
theorem exists_block_of_array (h : ArrayText A xs) (hz : ']' ∉ z) (hno : ¬ HoldsFence (m ++ A)) :
    ∃ s, ']' ∉ s ∧
      (beforeFence? .outside (m ++ (A ++ z))).getD (m ++ (A ++ z)) = m ++ (A ++ s) := by
  cases hb : beforeFence? .outside (m ++ (A ++ z)) with
  | none => exact ⟨z, hz, rfl⟩
  | some a =>
    obtain ⟨b, hab, ha⟩ := beforeFence?_eq_some hb
    rw [← List.append_assoc] at hab
    rcases append_eq_append_cases hab.symm with ⟨s, rfl, hs, -⟩ | ⟨s, hs, hTs, hfence, -⟩
    · refine ⟨s, fun hmem => hz ?_, by simp⟩
      rw [← hs]
      exact List.mem_append_left _ hmem
    · -- The fence would have to start in front of the closing bracket.
      have hlast : s.getLast? = some ']' := by
        rw [← List.getLast?_append_of_ne_nil a hs, hTs, List.getLast?_append, h.closes]
        rfl
      obtain ⟨s', rfl⟩ := List.getLast?_eq_some_iff.1 hlast
      have hprefix : fence <+: s' ++ ']' :: z := ⟨b, by rw [hfence]; simp⟩
      obtain ⟨t, rfl⟩ := fence_isPrefix_of_append_cons (by decide) hprefix
      exact absurd ⟨a, t ++ [']'], by rw [← hTs]; simp, ha⟩ hno

/-! ### Arrays behind blocks -/

theorem exists_object_head (hne : xs ≠ []) (hobj : ∀ x ∈ xs, x.isObject = true) :
    ∃ x, xs.head? = some x ∧ x.isObject = true :=
  ⟨xs.head hne, List.head?_eq_some_head hne, hobj _ (List.head_mem hne)⟩

/-- If the first block ends too early, there is no array in it or a front of one. -/
theorem elements_of_hides (h : ArrayText A xs) (hne : xs ≠ [])
    (hobj : ∀ x ∈ xs, x.isObject = true) (hF : '[' ∉ F) (hh : Hides F A) (R : List Char) :
    elements (F ++ A ++ R) = .error .noArray ∨
      ∃ T b, T ++ (fence ++ b) = A ∧ elements (F ++ A ++ R) = brokenOff A T xs := by
  obtain ⟨q, m, hs, a₀, b₀, hab₀, ha₀⟩ := hh
  obtain ⟨x, hx, hx'⟩ := exists_object_head hne hobj
  obtain ⟨r, rfl⟩ := List.head?_eq_some_iff.1 h.opens
  have hm := notMem_afterInfo hF hs
  have hopen := opensObject_array h hx hx' R
  -- The fence that ends the block is the first one outside of literals.
  obtain ⟨a, ha⟩ := exists_beforeFence? ha₀ b₀
  rw [← hab₀] at ha
  obtain ⟨b, hab, -⟩ := beforeFence?_eq_some ha
  have hblock : beforeFence? .outside (afterInfo m ++ '[' :: Text.trimEnd (r ++ R)) = some a := by
    rw [trimEnd_array h, ← List.append_assoc]
    exact beforeFence?_append_of_some ha (Text.trimEnd R)
  rw [List.append_assoc, List.cons_append]
  rcases append_eq_append_cases hab.symm with ⟨T, rfl, hT, -⟩ | ⟨s, -, hs', -, -⟩
  · refine .inr ⟨T, b, hT, ?_⟩
    obtain ⟨T, rfl⟩ : ∃ T', T = '[' :: T' := by
      cases T with
      | nil => cases hT
      | cons c T => exact ⟨T, by rw [(List.cons.inj hT).1]⟩
    have hm' : '[' ∉ Text.trimStart (afterInfo m) := fun hmem =>
      hm ((List.dropWhile_suffix _).subset hmem)
    refine elements_of_front h hobj (List.cons.inj hT).2 (by simp [fence]) hm' ?_
    rw [unfenced_behind_fence (not_holdsOpener hF) hs hopen, hblock, Option.getD_some,
      Text.trim_append_cons rfl]
  · refine .inl (elements_of_beforeFence? (not_holdsOpener hF) hs hopen hblock fun hmem => hm ?_)
    rw [← hs']
    exact List.mem_append_left s hmem

/-- If it does not, the array is read as it stands. -/
theorem elements_of_not_hides (h : ArrayText A xs) (hne : xs ≠ [])
    (hobj : ∀ x ∈ xs, x.isObject = true) (hF : '[' ∉ F) (hR : ']' ∉ R) (hh : ¬ Hides F A) :
    elements (F ++ A ++ R) = .ok (xs, false) := by
  obtain ⟨x, hx, hx'⟩ := exists_object_head hne hobj
  have hR' : ']' ∉ Text.trimEnd R := fun hmem => hR ((Text.mem_trimEnd_iff rfl).1 hmem)
  cases hs : Text.splitAt? fence F with
  | none =>
    rw [elements_in_prose h hx hx' (splitAt?_fence_none hs) (not_holdsOpener hF), if_neg hR]
  | some p =>
    obtain ⟨q, b⟩ := p
    obtain ⟨m, rfl⟩ := (Text.splitAt?_eq_some hs).2
    have hm := notMem_afterInfo hF hs
    have hm' : '[' ∉ Text.trimStart (afterInfo m) := fun hmem =>
      hm ((List.dropWhile_suffix _).subset hmem)
    have hno : ¬ HoldsFence (afterInfo m ++ A) := fun hfence => hh ⟨q, m, hs, hfence⟩
    obtain ⟨s, hs', hblock⟩ := exists_block_of_array h hR' hno
    have hz : ']' ∉ Text.trimEnd s := fun hmem => hs' ((Text.mem_trimEnd_iff rfl).1 hmem)
    refine elements_of_array h hx hx' (not_holdsOpener hm') hz ?_
    rw [← trim_append_array h, ← hblock]
    obtain ⟨r, rfl⟩ := List.head?_eq_some_iff.1 h.opens
    rw [List.append_assoc, List.cons_append, unfenced_behind_fence (not_holdsOpener hF) hs
      (opensObject_array h hx hx' R), trimEnd_array h]

/-- **A block hides the array exactly if a fence outside of its string literals ends it in front of
the array or inside of it.** -/
theorem elements_behind_blocks (h : ArrayText A xs) (hne : xs ≠ [])
    (hobj : ∀ x ∈ xs, x.isObject = true) (hP : '[' ∉ P) (hs : Setting F R) :
    (∃ recovered, elements (P ++ F ++ A ++ R) = .ok (xs, recovered)) ↔ ¬ Hides (P ++ F) A := by
  have hF : '[' ∉ P ++ F := by
    rw [List.mem_append]
    rintro (h | h)
    · exact hP h
    · exact hs.notMem.1 h
  constructor
  · rintro ⟨recovered, he⟩ hh
    rcases elements_of_hides h hne hobj hF hh R with hno | ⟨T, b, hT, hfront⟩
    · rw [hno] at he
      cases he
    · exact brokenOff_ne h hne hT recovered (hfront.symm.trans he)
  · intro hh
    exact ⟨false, elements_of_not_hides h hne hobj hF hs.notMem.2 hh⟩

/-- The array behind a listing is lost. -/
theorem elements_behind_listing :
    ArrayText "[\x7b\"a\":true\x7d]".toList [.object [("a", .bool true)]] ∧
      elements ("```sh\nls\n```\n".toList ++ "[\x7b\"a\":true\x7d]".toList) = .error .noArray :=
  ⟨⟨by cbv, by cbv, by cbv⟩, by cbv⟩

theorem not_elements_behind_listing :
    ¬ ∃ recovered, elements "```sh\nls\n```\n[\x7b\"a\":true\x7d]".toList =
      .ok ([.object [("a", .bool true)]], recovered) := by
  have hA : ArrayText "[\x7b\"a\":true\x7d]".toList [.object [("a", .bool true)]] :=
    ⟨by cbv, by cbv, by cbv⟩
  have hP : '[' ∉ "```sh\nls\n```\n".toList := by decide
  have hhides : Hides ("```sh\nls\n```\n".toList ++ []) "[\x7b\"a\":true\x7d]".toList := by
    refine ⟨[], "sh\nls\n```\n".toList, by cbv, "ls\n".toList,
      "\n[\x7b\"a\":true\x7d]".toList, ?_, ?_⟩
    · cbv
    · cbv
  intro he
  exact (elements_behind_blocks hA (List.cons_ne_nil _ _) (by decide) hP .bare).1 he hhides

/-- **A complete block that leaves no literal open hides every array behind it.** -/
theorem elements_behind_complete_block {q info body rest : List Char} (hq : ¬ fence <:+: q)
    (hl : q.getLast? ≠ some '`') (hinfo : ∀ c ∈ info, IsInfoChar c)
    (hbody : Place.outside.after body = .outside)
    (hF : '[' ∉ q ++ (fence ++ (info ++ '\n' :: (body ++ (fence ++ rest)))))
    (hr : opensObject r = true) :
    elements (q ++ (fence ++ (info ++ '\n' :: (body ++ (fence ++ rest)))) ++ '[' :: r) =
      .error .noArray := by
  obtain ⟨a, ha⟩ := exists_beforeFence? hbody rest
  refine elements_of_beforeFence? (not_holdsOpener hF) (splitAt?_fence_append hq hl _) hr
    (a := a) ?_ fun hmem => hF ?_
  · rw [afterInfo_append hinfo]
    exact beforeFence?_append_of_some ha _
  · obtain ⟨b, hb, -⟩ := beforeFence?_eq_some ha
    rw [hb]
    simp [hmem]

end ThreatModel.Reply
