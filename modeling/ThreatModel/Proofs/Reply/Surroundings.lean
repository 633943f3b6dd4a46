import ThreatModel.Proofs.Reply.Block
import ThreatModel.Proofs.Reply.Recovery

/-!
# Arrays among other text

A complete array whose first element is an object is read whatever stands around it.

* `threats_in_prose` : in prose, the drafts are those of its objects, also if brackets in the text
  behind it make the reader think that it was broken off;
* `elements_in_block` : in a block of its own, its elements are read as they stand, whatever fences
  its strings hold and whatever follows the block.
-/

namespace ThreatModel.Reply

open Json

variable {A P : List Char} {xs : List Json} {x : Json}

/-! ### In prose -/

/-- The drafts of values are those of their objects. -/
theorem filterMap_draftOf? (xs : List Json) :
    xs.filterMap draftOf? = (xs.filter isObject).map draftOfObject := by
  induction xs with
  | nil => rfl
  | cons x xs ih => cases x <;> simp [List.filterMap_cons, List.filter_cons, draftOf?, isObject, ih]

theorem elements_in_prose (h : ArrayText A xs) (hx : xs.head? = some x) (hobj : x.isObject = true)
    (hP : ¬ fence <:+: P) (ho : ¬ HoldsOpener P) (S : List Char) :
    elements (P ++ A ++ S) =
      if ']' ∈ S then .ok (upToLastObject xs, true) else .ok (xs, false) := by
  obtain ⟨r, rfl⟩ := List.head?_eq_some_iff.1 h.opens
  rw [List.append_assoc, List.cons_append,
    elements_of_opener hP ho (opensObject_array h hx hobj S), trimEnd_array h]
  split_ifs with hS
  · rw [fromBracket_array_append h hS]
    have hmem : x ∈ upToLastObject xs := by
      have hfilter : x ∈ xs.filter isObject :=
        List.mem_filter.2 ⟨List.mem_of_mem_head? hx, hobj⟩
      rw [← filter_upToLastObject] at hfilter
      exact (List.mem_filter.1 hfilter).1
    exact ofRecovered_of_ne_nil (List.ne_nil_of_mem hmem)
  · exact fromBracket_array h fun hmem => hS ((Text.mem_trimEnd_iff rfl).1 hmem)

/-- **A complete array survives any prose around it.** -/
theorem threats_in_prose (h : ArrayText A xs) (hx : xs.head? = some x) (hobj : x.isObject = true)
    (hP : ¬ fence <:+: P) (ho : ¬ HoldsOpener P) (S : List Char) :
    ∃ o, threats (P ++ A ++ S) = .ok o ∧ o.drafts = (xs.filter isObject).map draftOfObject ∧
      (o.recovered = false ↔ ']' ∉ S) := by
  rw [threats, elements_in_prose h hx hobj hP ho]
  split_ifs with hS
  · refine ⟨.ofElements (upToLastObject xs) true, rfl, ?_, by simp [Outcome.ofElements, hS]⟩
    rw [Outcome.ofElements, filterMap_draftOf?, filter_upToLastObject]
  · refine ⟨.ofElements xs false, rfl, ?_, by simp [Outcome.ofElements, hS]⟩
    rw [Outcome.ofElements, filterMap_draftOf?]

/-- Brackets in the prose on both sides. -/
theorem threats_in_prose_with_notes :
    ∃ o, threats "See [1]:\n[\x7b\"title\":\"T\"\x7d,null] and [2]".toList = .ok o ∧
      o.drafts = [draftOfObject (.object [("title", .string "T")])] ∧ o.recovered = true := by
  have hA : ArrayText "[\x7b\"title\":\"T\"\x7d,null]".toList
      [.object [("title", .string "T")], .null] := ⟨by cbv, by cbv, by cbv⟩
  have hP : ¬ fence <:+: "See [1]:\n".toList := splitAt?_fence_none (by cbv)
  have ho : ¬ HoldsOpener "See [1]:\n".toList := by decide
  obtain ⟨o, hok, hdrafts, hrec⟩ := threats_in_prose hA rfl rfl hP ho " and [2]".toList
  have hS : ']' ∈ " and [2]".toList := by decide
  exact ⟨o, hok, hdrafts, by simpa [hS] using hrec⟩

/-! ### In a block -/

theorem trimEnd_append_fence (w S : List Char) :
    Text.trimEnd (w ++ (fence ++ S)) = w ++ (fence ++ Text.trimEnd S) := by
  have hsplit : w ++ (fence ++ S) = (w ++ ['`', '`']) ++ '`' :: S := by simp [fence]
  rw [hsplit, Text.trimEnd_append_cons rfl]
  simp [fence]

theorem trim_append_array (h : ArrayText A xs) (a b : List Char) :
    Text.trim (a ++ (A ++ b)) = Text.trimStart a ++ (A ++ Text.trimEnd b) := by
  obtain ⟨r, rfl⟩ := List.head?_eq_some_iff.1 h.opens
  rw [List.cons_append, Text.trim_append_cons rfl, trimEnd_array h]

/-- Blanks around an array are trimmed. -/
theorem trim_array (h : ArrayText A xs) {a b : List Char} (ha : Blanks a) (hb : Blanks b) :
    Text.trim (a ++ (A ++ b)) = A := by
  rw [trim_append_array h, Text.trimStart_of_isBlank (isBlank_of_blanks ha),
    Text.trimEnd_of_isBlank (isBlank_of_blanks hb), List.append_nil, List.nil_append]

/-- Behind a text without opener an array is read as it stands if no bracket closes later. -/
theorem elements_of_array {text m z : List Char} (h : ArrayText A xs) (hx : xs.head? = some x)
    (hobj : x.isObject = true) (hm : ¬ HoldsOpener m) (hz : ']' ∉ z)
    (hunf : unfenced text = m ++ (A ++ z)) : elements text = .ok (xs, false) := by
  rw [← fromBracket_array h hz]
  refine elements_of_splitAtArray? (a := m) ?_
  obtain ⟨r, rfl⟩ := List.head?_eq_some_iff.1 h.opens
  rw [hunf, List.cons_append]
  exact splitAtArray?_bracket hm (opensObject_array h hx hobj z)

/-- A block that starts with an array, blanks aside, goes up to the fence behind the array. -/
theorem beforeFence?_array (h : ArrayText A xs) {a b : List Char} (ha : Blanks a) (hb : Blanks b)
    (S : List Char) :
    beforeFence? .outside (a ++ (A ++ (b ++ (fence ++ S)))) = some (a ++ (A ++ b)) := by
  rw [beforeFence?_append (quiet_blanks ha 2), beforeFence?_append (quiet_array h),
    beforeFence?_append (quiet_blanks hb 2), beforeFence?_fence]
  simp

/-- Neither an info word nor blanks hold a bracket. -/
theorem notMem_opening {info a : List Char} (hinfo : ∀ c ∈ info, IsInfoChar c) (ha : Blanks a) :
    '[' ∉ fence ++ (info ++ '\n' :: a) := by
  rw [List.mem_append, List.mem_append, List.mem_cons]
  rintro (h | h | h | h)
  · exact absurd h (by decide)
  · exact absurd (hinfo _ h) (by decide)
  · exact absurd h (by decide)
  · exact absurd (ha _ h) (by decide)

/-- **An array in a block of its own is extracted exactly.** -/
theorem elements_in_block (h : ArrayText A xs) (hx : xs.head? = some x) (hobj : x.isObject = true)
    (hP : ¬ fence <:+: P) (hlast : P.getLast? ≠ some '`') (ho : ¬ HoldsOpener P)
    {info a b : List Char} (hinfo : ∀ c ∈ info, IsInfoChar c) (ha : Blanks a) (hb : Blanks b)
    (S : List Char) :
    unfenced (P ++ fence ++ info ++ '\n' :: (a ++ A ++ b ++ fence ++ S)) = A ∧
      elements (P ++ fence ++ info ++ '\n' :: (a ++ A ++ b ++ fence ++ S)) = .ok (xs, false) := by
  obtain ⟨r, rfl⟩ := List.head?_eq_some_iff.1 h.opens
  have htext : P ++ fence ++ info ++ '\n' :: (a ++ '[' :: r ++ b ++ fence ++ S) =
      (P ++ (fence ++ (info ++ '\n' :: a))) ++ '[' :: (r ++ (b ++ (fence ++ S))) := by simp
  have hunf : unfenced (P ++ fence ++ info ++ '\n' :: (a ++ '[' :: r ++ b ++ fence ++ S)) =
      '[' :: r := by
    have ho' : ¬ HoldsOpener (P ++ (fence ++ (info ++ '\n' :: a))) :=
      not_holdsOpener_append_cons ho rfl (by decide) (notMem_opening hinfo ha)
    rw [htext, unfenced_behind_fence ho' (splitAt?_fence_append hP hlast _)
        (opensObject_array h hx hobj _),
      afterInfo_append hinfo, trimEnd_array h, trimEnd_append_fence, beforeFence?_array h ha hb]
    exact trim_array h ha hb
  refine ⟨hunf, ?_⟩
  refine elements_of_array h hx hobj (m := []) (z := []) (not_holdsOpener List.not_mem_nil)
    List.not_mem_nil ?_
  rw [hunf, List.nil_append, List.append_nil]

/-- A fence in a string, and another block behind. -/
theorem elements_in_block_with_fences :
    unfenced "Result:\n```json\n[\x7b\"a\":\"```\"\x7d]\n```\n```".toList =
        "[\x7b\"a\":\"```\"\x7d]".toList ∧
      elements "Result:\n```json\n[\x7b\"a\":\"```\"\x7d]\n```\n```".toList =
        .ok ([.object [("a", .string "```")]], false) := by
  have hA : ArrayText "[\x7b\"a\":\"```\"\x7d]".toList [.object [("a", .string "```")]] :=
    ⟨by cbv, by cbv, by cbv⟩
  have hP : ¬ fence <:+: "Result:\n".toList := splitAt?_fence_none (by cbv)
  have hlast : "Result:\n".toList.getLast? ≠ some '`' := by decide
  have ho : ¬ HoldsOpener "Result:\n".toList := by decide
  have hinfo : ∀ c ∈ "json".toList, IsInfoChar c := by simp [IsInfoChar]
  have hb : Blanks "\n".toList := by simp [Blanks, isBlank]
  exact elements_in_block hA rfl rfl hP hlast ho hinfo .nil hb "\n```".toList

end ThreatModel.Reply
