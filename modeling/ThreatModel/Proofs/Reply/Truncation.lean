import ThreatModel.Proofs.Reply.Block
import ThreatModel.Proofs.Reply.Recovery

/-!
# Replies that are cut off

A model that runs out of tokens leaves a front of the array, alone or behind an opening fence. Of an
array of objects every complete element is read then, and no other, wherever the array is cut:
inside of a literal, behind a backslash, between elements or in a nested array (`elements_front`).
-/

namespace ThreatModel.Reply

open Json

variable {A T : List Char} {xs : List Json}

/-- What reading gives for a front `T` of the array `A` of the values `xs`: the complete
elements. -/
def brokenOff (A T : List Char) (xs : List Json) : Except RecoveryError (List Json × Bool) :=
  if completeIn A T = 0 then .error .noCompleteElement
  else .ok (xs.take (completeIn A T), true)

/-- No more elements are complete than there are. -/
theorem completeIn_le (h : ArrayText A xs) (T : List Char) : completeIn A T ≤ xs.length := by
  rw [← h.forall₂_elementEnds.length_eq]
  exact List.countP_le_length

theorem ofRecovered_take (h : ArrayText A xs) (T : List Char) :
    ofRecovered (xs.take (completeIn A T)) = brokenOff A T xs := by
  rw [brokenOff]
  split_ifs with h₀
  · rw [h₀, List.take_zero]
    rfl
  · refine ofRecovered_of_ne_nil (List.ne_nil_of_length_pos ?_)
    have hle := completeIn_le h T
    rw [List.length_take]
    omega

/-! ### Fronts of an array -/

variable {r m y : List Char}

/-- Of a front of an array of objects the complete elements are read, if no bracket is before it. -/
theorem elements_of_front {text : List Char} (h : ArrayText ('[' :: r) xs)
    (hobj : ∀ x ∈ xs, x.isObject = true) (hT : T ++ y = r) (hy : y ≠ []) (hm : '[' ∉ m)
    (hunf : unfenced text = m ++ '[' :: Text.trimEnd T) :
    elements text = brokenOff ('[' :: r) ('[' :: T) xs := by
  have hfront : '[' :: T ++ y = '[' :: r := by rw [List.cons_append, hT]
  rw [← ofRecovered_take h, ← fromBracket_front h hobj hfront hy]
  refine elements_of_splitAtArray? (a := m) ?_
  rw [hunf]
  exact splitAtArray?_front h hobj ⟨y, hT⟩ hm

/-- A front of an array of objects is read as a whole. -/
theorem unfenced_front (h : ArrayText ('[' :: r) xs) (hobj : ∀ x ∈ xs, x.isObject = true)
    (hT : T ++ y = r) : unfenced ('[' :: T) = '[' :: Text.trimEnd T := by
  refine unfenced_of_bracket (P := []) (by decide) ?_
  rw [List.nil_append, show Text.trim ('[' :: T) = '[' :: Text.trimEnd T from
    Text.trim_append_cons rfl [] T]
  exact splitAtArray?_front h hobj ⟨y, hT⟩ List.not_mem_nil

/-- An opening fence with an info word in front does not matter. -/
theorem unfenced_info_front {info : List Char} (h : ArrayText ('[' :: r) xs)
    (hT : T ++ y = r) (hinfo : ∀ c ∈ info, IsInfoChar c) :
    unfenced (fence ++ info ++ '\n' :: '[' :: T) = '[' :: Text.trimEnd T := by
  have htrim : Text.trim (fence ++ info ++ '\n' :: '[' :: T) =
      fence ++ (info ++ '\n' :: '[' :: Text.trimEnd T) := by
    rw [List.append_cons, Text.trim_append_cons rfl]
    simp [Text.trimStart, fence, Text.isBlank]
  -- A front of an array has no fence outside of its literals.
  have hquiet : beforeFence? .outside ('[' :: Text.trimEnd T) = none := by
    obtain ⟨b, hb, -⟩ := Text.exists_blanks_trimEnd T
    have hA : '[' :: r = ('[' :: Text.trimEnd T) ++ (b ++ y) := by
      rw [← hT, ← List.append_assoc, List.cons_append, ← hb, List.cons_append]
    obtain ⟨⟨q, m⟩, hq⟩ := quiet_front (hA ▸ quiet_array h)
    exact beforeFence?_of_quiet hq
  have hsplit : Text.splitAt? fence (Text.trim (fence ++ info ++ '\n' :: '[' :: T)) =
      some ([], fence ++ (info ++ '\n' :: '[' :: Text.trimEnd T)) := by
    rw [htrim]
    exact splitAt?_fence_append (P := []) (by decide) (by decide) _
  rw [unfenced_of_fence hsplit fun _ _ _ => Nat.zero_le _, afterInfo_append hinfo, hquiet]
  exact (Text.trim_append_cons rfl [] _).trans (by rw [Text.trimEnd_trimEnd]; rfl)

/-- **Truncation recovery is exact.** Of an array of objects that is cut anywhere, with or without
an opening fence in front of it, exactly the complete elements are read. -/
theorem elements_front (h : ArrayText A xs) (hobj : ∀ x ∈ xs, x.isObject = true) (hT : T <+: A)
    (hne : T ≠ []) (hlt : T ≠ A) {info : List Char} (hinfo : ∀ c ∈ info, IsInfoChar c) :
    elements T = brokenOff A T xs ∧ elements (fence ++ info ++ '\n' :: T) = brokenOff A T xs := by
  obtain ⟨r, rfl⟩ := List.head?_eq_some_iff.1 h.opens
  obtain ⟨c, T', rfl⟩ := List.exists_cons_of_ne_nil hne
  obtain ⟨rfl, y, hy⟩ := List.cons_prefix_cons.1 hT
  have hy₀ : y ≠ [] := by
    rintro rfl
    rw [List.append_nil] at hy
    exact hlt (by rw [hy])
  refine ⟨?_, ?_⟩
  · exact elements_of_front h hobj hy hy₀ List.not_mem_nil (unfenced_front h hobj hy)
  · exact elements_of_front h hobj hy hy₀ List.not_mem_nil (unfenced_info_front h hy hinfo)

/-- A bracket in a literal is not taken for the end of the array. -/
theorem elements_front_in_literal :
    elements "[\x7b\"a\":true\x7d,\x7b\"b\":\"\x7d]".toList =
        .ok ([.object [("a", .bool true)]], true) ∧
      elements "```json\n[\x7b\"a\":true\x7d,\x7b\"b\":\"\x7d]".toList =
        .ok ([.object [("a", .bool true)]], true) := by
  have hA : ArrayText "[\x7b\"a\":true\x7d,\x7b\"b\":\"\x7d]\"\x7d]".toList
      [.object [("a", .bool true)], .object [("b", .string "\x7d]")]] :=
    ⟨by cbv, by cbv, by cbv⟩
  have hT : "[\x7b\"a\":true\x7d,\x7b\"b\":\"\x7d]".toList <+:
      "[\x7b\"a\":true\x7d,\x7b\"b\":\"\x7d]\"\x7d]".toList := by decide
  have hb : brokenOff "[\x7b\"a\":true\x7d,\x7b\"b\":\"\x7d]\"\x7d]".toList
      "[\x7b\"a\":true\x7d,\x7b\"b\":\"\x7d]".toList
      [.object [("a", .bool true)], .object [("b", .string "\x7d]")]] =
        .ok ([.object [("a", .bool true)]], true) := by cbv
  have hinfo : ∀ c ∈ "json".toList, IsInfoChar c := by simp [IsInfoChar]
  have h := elements_front hA (by decide) hT (by decide) (by decide) hinfo
  rw [hb] at h
  exact h

end ThreatModel.Reply
