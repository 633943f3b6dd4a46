import ThreatModel.Json.Record
import ThreatModel.Proofs.Json.Numerals

/-!
# Records are decoded and printed member by member

What a decoder makes of a value that was built for it, and when a built value is `Printable`. A
member is found behind others of different names (`Decoder.required_cons_of_ne`), and an object is
printable if its names are different and its members are printable (`printable_object`). With
these lemmas, that a record decodes to itself is a matter of going through its members once.
-/

namespace ThreatModel.Json

namespace Decoder

variable {α : Type} {key k : String} {value : Decoder α} {x : Json} {ms : List (String × Json)}

/-! ### Values -/

@[simp] theorem string_string (s : String) : Decoder.string (.string s) = some s := rfl

@[simp] theorem bool_bool (b : Bool) : Decoder.bool (.bool b) = some b := rfl

@[simp] theorem nat_nat (n : ℕ) : Decoder.nat (.nat n) = some n := by simp [Decoder.nat, Json.nat]

@[simp] theorem double_double (x : Binary) : Decoder.double (.number (.double x)) = some x := rfl

theorem natUpTo_nat {n max : ℕ} (h : n ≤ max) : natUpTo max (.nat n) = some n := by
  rw [natUpTo, nat_nat, Option.filter_some_pos]
  simpa using h

@[simp] theorem named_string (ofName? : String → Option α) (s : String) :
    named ofName? (.string s) = ofName? s := rfl

theorem mapM_map_of_forall {β γ : Type} {read? : β → Option γ} {f : γ → β} {xs : List γ}
    (h : ∀ a ∈ xs, read? (f a) = some a) : (xs.map f).mapM read? = some xs := by
  induction xs with
  | nil => rfl
  | cons a xs ih =>
    rw [List.forall_mem_cons] at h
    rw [List.map_cons, List.mapM_cons, h.1, ih h.2]
    rfl

theorem list_map {item : Decoder α} {f : α → Json} {xs : List α}
    (h : ∀ a ∈ xs, item (f a) = some a) : list item (.array (xs.map f)) = some xs :=
  mapM_map_of_forall h

@[simp] theorem strings_strings (xs : List String) : strings (.strings xs) = some xs :=
  list_map fun s _ => string_string s

@[simp] theorem counts_ofCounts (cs : List (String × ℕ)) : counts (ofCounts cs) = some cs :=
  mapM_map_of_forall fun c _ => by rw [nat_nat]; rfl

/-! ### Members -/

theorem field?_cons_self (key : String) (x : Json) (ms : List (String × Json)) :
    field? key (.object ((key, x) :: ms)) = some x := by
  simp [field?, member?]

theorem field?_cons_of_ne (h : k ≠ key) (x : Json) (ms : List (String × Json)) :
    field? key (.object ((k, x) :: ms)) = field? key (.object ms) := by
  simp [field?, member?, h]

@[simp] theorem required_cons_self (key : String) (value : Decoder α) (x : Json)
    (ms : List (String × Json)) : required key value (.object ((key, x) :: ms)) = value x := by
  rw [required, field?_cons_self, Option.bind_some]

@[simp] theorem required_cons_of_ne (h : k ≠ key) (value : Decoder α) (x : Json)
    (ms : List (String × Json)) :
    required key value (.object ((k, x) :: ms)) = required key value (.object ms) := by
  rw [required, field?_cons_of_ne h, required]

@[simp] theorem withDefault_cons_self (key : String) (default : α) (value : Decoder α) (x : Json)
    (ms : List (String × Json)) :
    withDefault key default value (.object ((key, x) :: ms)) = value x := by
  rw [withDefault, field?_cons_self]

@[simp] theorem withDefault_cons_of_ne (h : k ≠ key) (default : α) (value : Decoder α) (x : Json)
    (ms : List (String × Json)) :
    withDefault key default value (.object ((k, x) :: ms)) =
      withDefault key default value (.object ms) := by
  rw [withDefault, field?_cons_of_ne h, withDefault]

@[simp] theorem optional_cons_self (key : String) (s : String) (ms : List (String × Json)) :
    optional key Decoder.string (.object ((key, .string s) :: ms)) = some (some s) := by
  rw [optional, field?_cons_self]
  rfl

@[simp] theorem optional_cons_of_ne (h : k ≠ key) (value : Decoder α) (x : Json)
    (ms : List (String × Json)) :
    optional key value (.object ((k, x) :: ms)) = optional key value (.object ms) := by
  rw [optional, field?_cons_of_ne h, optional]

@[simp] theorem optional_nil (key : String) (value : Decoder α) :
    optional key value (.object []) = some none := rfl

end Decoder

/-! ### Printable values -/

section

variable {depth : ℕ}

@[simp] theorem printable_string (s : String) : Printable depth (.string s) := .string s

@[simp] theorem printable_bool (b : Bool) : Printable depth (.bool b) := .bool b

theorem printable_nat {n : ℕ} (h : n ≤ maxWord) : Printable depth (.nat n) :=
  .number (readsBack_nat h)

theorem printable_map {α : Type} {f : α → Json} {xs : List α}
    (h : ∀ a ∈ xs, Printable depth (f a)) : Printable (depth + 1) (.array (xs.map f)) :=
  .array (List.forall_mem_map.2 h)

@[simp] theorem printable_strings (xs : List String) : Printable (depth + 1) (.strings xs) :=
  printable_map fun s _ => .string s

@[simp] theorem printable_object {ms : List (String × Json)} :
    Printable (depth + 1) (.object ms) ↔
      (ms.map Prod.fst).Nodup ∧ ∀ m ∈ ms, Printable depth m.2 :=
  ⟨fun | .object hkeys h => ⟨hkeys, h⟩, fun h => .object h.1 h.2⟩

theorem printable_ofCounts {cs : List (String × ℕ)} (hkeys : (cs.map Prod.fst).Nodup)
    (h : ∀ c ∈ cs, c.2 ≤ maxWord) : Printable (depth + 1) (ofCounts cs) := by
  rw [ofCounts, printable_object, List.map_map]
  exact ⟨hkeys, List.forall_mem_map.2 fun c hc => printable_nat (h c hc)⟩

end

end ThreatModel.Json
