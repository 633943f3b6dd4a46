import ThreatModel.Proofs.Reply.Bare

/-!
# Recovery of complete arrays

Recovery cuts an array behind its last object and reads what is left. It counts brackets without
telling their kinds apart and does not read what it passes over. On an array that is complete it
still agrees with reading the array at once: it gives the same elements up to the last object
(`recovered_array`). Nothing that stands behind the array changes this, as the search ends where the
outermost bracket closes.
-/

namespace ThreatModel.Reply

open Json

variable {a A : List Char} {xs : List Json}

/-! ### Blanks in front of the array -/

theorem readChars?_blanks_append (ha : Blanks a) (cs : List Char) :
    readChars? (a ++ cs) = readChars? cs := by
  rw [readChars?, readChars?, whole_eq, whole_eq, skip_append ha]

theorem throughLastElement?_blanks_append (ha : Blanks a) (cs : List Char) :
    throughLastElement? (a ++ cs) = (throughLastElement? cs).map (a ++ ·) :=
  throughElement?_append (quiet_blanks ha 0) cs

theorem recovered_blanks_append (ha : Blanks a) (cs : List Char) :
    recovered (a ++ cs) = recovered cs := by
  rw [recovered, recovered, throughLastElement?_blanks_append ha]
  cases throughLastElement? cs with
  | none => rfl
  | some front =>
    simp only [Option.map_some, List.append_assoc, readChars?_blanks_append ha]

/-! ### The array -/

theorem recovered_arrayText_append (h : ArrayText A xs) (S : List Char) :
    recovered (A ++ S) = upToLastObject xs := by
  obtain ⟨ts, u, rfl, hu, hxs⟩ := h.exists_body
  have hT : (u ++ ']' :: S) ++ [] = u ++ ']' :: S := List.append_nil _
  have hcut := recovered_cut hu hxs hT
  -- The whole array is in front of the cut.
  rw [List.length_nil, completeBefore_zero hu, hxs.length_eq, List.take_length] at hcut
  rw [← hcut, List.cons_append, List.append_assoc, List.singleton_append]

/-- **Recovery agrees with reading a complete array.** Whatever stands behind the array, recovery
gives its first elements, up to and with the last one that is an object, and none if there is no
object. -/
theorem recovered_array (h : readChars? A = some (.array xs)) (S : List Char) :
    (∃ rest, xs = recovered (A ++ S) ++ rest ∧ ∀ x ∈ rest, x.isObject = false) ∧
      (∀ x, (recovered (A ++ S)).getLast? = some x → x.isObject = true) ∧
      (recovered (A ++ S) = [] ↔ ∀ x ∈ xs, x.isObject = false) := by
  obtain ⟨a, r, b, rfl, ha, hA, -⟩ := exists_arrayText_of_read h
  have hrecovered : recovered (a ++ ('[' :: r ++ b) ++ S) = upToLastObject xs := by
    rw [List.append_assoc, List.append_assoc, recovered_blanks_append ha]
    exact recovered_arrayText_append hA (b ++ S)
  rw [hrecovered]
  exact ⟨exists_upToLastObject_append xs, fun _ => isObject_of_getLast?_upToLastObject,
    upToLastObject_eq_nil_iff⟩

/-- Brackets in strings and nested arrays are passed over, and so is a second array. -/
theorem recovered_array_of_two :
    readChars? " [\"]\x7d\",\x7b\"a\":[[],\x7b\x7d]\x7d,[\x7b\x7d]]".toList =
        some (.array [.string "]\x7d", .object [("a", .array [.array [], .object []])],
          .array [.object []]]) ∧
      ∃ rest, [.string "]\x7d", .object [("a", .array [.array [], .object []])],
          .array [.object []]] =
        recovered (" [\"]\x7d\",\x7b\"a\":[[],\x7b\x7d]\x7d,[\x7b\x7d]]".toList ++
          ",[\x7b\x7d]]".toList) ++ rest ∧ ∀ x ∈ rest, x.isObject = false := by
  have h : readChars? " [\"]\x7d\",\x7b\"a\":[[],\x7b\x7d]\x7d,[\x7b\x7d]]".toList =
      some (.array [.string "]\x7d", .object [("a", .array [.array [], .object []])],
        .array [.object []]]) := by cbv
  exact ⟨h, (recovered_array h _).1⟩

end ThreatModel.Reply
