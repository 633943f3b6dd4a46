import ThreatModel.Proofs.Json.Grammar

/-!
# Texts of arrays

`ArrayText A xs` says that `A` is read as the array of the values `xs` and goes from its opening
bracket to its closing one. Such a text closes itself:

* `ArrayText.readChars?_of_ne` : no proper front of it can be read;
* `ArrayText.readChars?_append` : it cannot be read with anything but blanks behind it.

`elementEnds` tells where the elements of an array end (`ArrayText.forall₂_elementEnds`).
-/

namespace ThreatModel.Json

open Text (Reader)

/-- Whether a value is an object. -/
def isObject : Json → Bool
  | object _ => true
  | _ => false

/-- Whether a tree is an object. -/
def Tree.isObject : Tree → Bool
  | .object _ => true
  | _ => false

/-- A text that is read as an array of values, from its opening bracket to its closing one. -/
structure ArrayText (A : List Char) (xs : List Json) : Prop where
  read : readChars? A = some (.array xs)
  opens : A.head? = some '['
  closes : A.getLast? = some ']'

/-- What a text still holds behind each of the values that it goes on with, commas between them. -/
def restsBehind (depth : Nat) (cs : List Char) : List (List Char) :=
  match value depth (skip cs) with
  | none => []
  | some (_, ⟨r, hr⟩) =>
    have h₁ := length_skip_le cs
    match h : skip r with
    | ',' :: r' =>
      have : r'.length < cs.length := by
        have h₂ := length_skip_le r
        rw [h] at h₂
        simp only [List.length_cons] at h₂
        omega
      r :: restsBehind depth r'
    | _ => [r]
termination_by cs.length

/-- Where the elements of an array end: for each of them, the number of characters up to and with
its last one. -/
def elementEnds (A : List Char) : List Nat :=
  (restsBehind (maxDepth - 1) A.tail).map fun r => A.length - r.length

/-- How many elements of an array are complete in a front of its text. -/
def completeIn (A T : List Char) : Nat := (elementEnds A).countP (· ≤ T.length)

/-! ### Values of trees -/

theorem Tree.values?_eq_some_iff {ts : List Tree} {xs : List Json} :
    Tree.values? ts = some xs ↔ List.Forall₂ (fun t x => t.value? = some x) ts xs := by
  induction ts generalizing xs with
  | nil => simp [Tree.values?, eq_comm]
  | cons t ts ih =>
    simp only [Tree.values?, Option.bind_eq_bind, Option.pure_def, Option.bind_eq_some_iff,
      Option.some.injEq, List.forall₂_cons_left_iff, ih]
    constructor
    · rintro ⟨x, hx, xs', hxs, rfl⟩
      exact ⟨x, xs', hx, hxs, rfl⟩
    · rintro ⟨x, xs', hx, hxs, rfl⟩
      exact ⟨x, hx, xs', hxs, rfl⟩

theorem Tree.isObject_of_value? {t : Tree} {x : Json} (h : t.value? = some x) :
    t.isObject = x.isObject := by
  cases t with
  | null => cases h; rfl
  | bool b => cases h; rfl
  | number n => obtain ⟨_, -, rfl⟩ := Option.map_eq_some_iff.1 h; rfl
  | string l => obtain ⟨_, -, rfl⟩ := Option.map_eq_some_iff.1 h; rfl
  | array ts => obtain ⟨_, -, rfl⟩ := Option.map_eq_some_iff.1 h; rfl
  | object ms => obtain ⟨_, -, rfl⟩ := Option.map_eq_some_iff.1 h; rfl

/-- The values of trees, element by element. -/
abbrev Values (ts : List Tree) (xs : List Json) : Prop :=
  List.Forall₂ (fun t x => t.value? = some x) ts xs

/-- What is known of trees element by element carries over to their values. -/
theorem forall₂_of_values {β : Type} {R : β → Tree → Prop} {S : β → Json → Prop}
    (h : ∀ {b t x}, R b t → t.value? = some x → S b x) {bs : List β} {ts : List Tree}
    {xs : List Json} (hbs : List.Forall₂ R bs ts) (hxs : Values ts xs) : List.Forall₂ S bs xs := by
  induction hbs generalizing xs with
  | nil =>
    cases hxs
    exact .nil
  | cons hb _ ih =>
    cases hxs with
    | cons hx hxs => exact .cons (h hb hx) (ih hxs)

/-! ### Array texts and the grammar -/

theorem ValueText.of_bracket {depth : Nat} {t : Tree} {u : List Char}
    (h : ValueText (depth + 1) t ('[' :: u)) :
    ∃ ts v, t = .array ts ∧ u = v ++ [']'] ∧ BodyText (ValueText depth) ts v := by
  rcases h with h | ⟨ts, v, rfl, hv, hb⟩ | ⟨ms, v, -, hv, -⟩
  · obtain ⟨c, r, hc, -, -, -, hne, -⟩ := h.head
    cases hc
    exact absurd rfl hne
  · cases hv
    exact ⟨ts, v, rfl, rfl, hb⟩
  · cases hv

/-- An array takes one level. -/
theorem ValueText.array {ts : List Tree} {u : List Char}
    (hu : BodyText (ValueText (maxDepth - 1)) ts u) :
    ValueText maxDepth (.array ts) ('[' :: (u ++ [']'])) :=
  .inr (.inl ⟨ts, u, rfl, rfl, hu⟩)

/-- The text of an object goes from an opening to a closing brace. -/
theorem ValueText.exists_braces {depth : Nat} {t : Tree} {w : List Char} (h : ValueText depth t w)
    (ht : t.isObject = true) : ∃ u, w = '\x7b' :: (u ++ ['\x7d']) := by
  cases depth with
  | zero => cases h <;> cases ht
  | succ depth =>
    rcases h with h | ⟨ts, u, rfl, -, -⟩ | ⟨ms, u, -, rfl, -⟩
    · cases h <;> cases ht
    · cases ht
    · exact ⟨u, rfl⟩

theorem readChars?_array {ts : List Tree} {u : List Char} {xs : List Json}
    (hu : BodyText (ValueText (maxDepth - 1)) ts u) (hxs : Values ts xs) :
    readChars? ('[' :: (u ++ [']'])) = some (.array xs) := by
  have hw : ValueText maxDepth (.array ts) ('[' :: (u ++ [']'])) := .array hu
  rw [readChars?, whole_eq_some_iff.2 ⟨[], _, [], by simp, .nil, hw, .nil⟩, Option.bind_some,
    Tree.value?, Tree.values?_eq_some_iff.2 hxs, Option.map_some]

/-- A text that starts with an opening bracket and is read is an array and blanks. -/
theorem exists_body_of_readChars? {cs : List Char} {x : Json} (h : readChars? cs = some x)
    (ho : cs.head? = some '[') :
    ∃ ts u b xs, cs = '[' :: (u ++ ']' :: b) ∧ Blanks b ∧
      BodyText (ValueText (maxDepth - 1)) ts u ∧ x = .array xs ∧ Values ts xs := by
  obtain ⟨t, ht, hx⟩ := Option.bind_eq_some_iff.1 h
  obtain ⟨a, w, b, rfl, ha, hw, hb⟩ := whole_eq_some_iff.1 ht
  obtain ⟨c, w', rfl, -⟩ := (spells_value maxDepth).head hw
  cases a with
  | nil =>
    rw [List.nil_append, List.cons_append, List.head?_cons, Option.some.injEq] at ho
    subst ho
    have hw' : ValueText (maxDepth - 1 + 1) t ('[' :: w') := hw
    obtain ⟨ts, u, rfl, rfl, hu⟩ := hw'.of_bracket
    obtain ⟨xs, hxs, rfl⟩ := Option.map_eq_some_iff.1 hx
    exact ⟨ts, u, b, xs, by simp, hb, hu, rfl, Tree.values?_eq_some_iff.1 hxs⟩
  | cons d a =>
    rw [List.cons_append, List.head?_cons, Option.some.injEq] at ho
    subst ho
    exact absurd (ha _ List.mem_cons_self) (by decide)

variable {A : List Char} {xs : List Json}

theorem ArrayText.exists_body (h : ArrayText A xs) :
    ∃ ts u, A = '[' :: (u ++ [']']) ∧ BodyText (ValueText (maxDepth - 1)) ts u ∧ Values ts xs := by
  obtain ⟨ts, u, b, xs', rfl, hb, hu, hx, hxs⟩ := exists_body_of_readChars? h.read h.opens
  cases hx
  -- Behind the closing bracket there can only be blanks, and the text ends with a bracket.
  have hb' : b = [] := by
    by_contra hne
    have hl : (('[' :: (u ++ [']'])) ++ b).getLast? = some ']' := by simpa using h.closes
    rw [List.getLast?_append_of_ne_nil _ hne] at hl
    exact absurd (hb _ (List.mem_of_getLast? hl)) (by decide)
  exact ⟨ts, u, by rw [hb'], hu, hxs⟩

/-- An array that starts with an object has a brace behind its bracket, blanks aside. -/
theorem ArrayText.exists_brace (h : ArrayText A xs) {x : Json} (hx : xs.head? = some x)
    (hobj : x.isObject = true) : ∃ a s, A = '[' :: (a ++ '\x7b' :: s) ∧ Blanks a := by
  obtain ⟨ts, u, rfl, hu, hxs⟩ := h.exists_body
  cases hxs with
  | nil => cases hx
  | cons ht hts =>
    cases hx
    rw [← Tree.isObject_of_value? ht] at hobj
    cases hu with
    | items h =>
      cases h with
      | @one t a w b ha hw =>
        obtain ⟨v, rfl⟩ := hw.exists_braces hobj
        exact ⟨a, v ++ '\x7d' :: (b ++ [']']), by simp, ha⟩
      | @cons t ts a w b u ha hw =>
        obtain ⟨v, rfl⟩ := hw.exists_braces hobj
        exact ⟨a, v ++ '\x7d' :: (b ++ ',' :: (u ++ [']'])), by simp, ha⟩

/-- An array without elements has only blanks between its brackets. -/
theorem ArrayText.exists_blanks (h : ArrayText A []) : ∃ a, A = '[' :: (a ++ [']']) ∧ Blanks a := by
  obtain ⟨ts, u, rfl, hu, hxs⟩ := h.exists_body
  cases hxs
  cases hu with
  | empty ha => exact ⟨u, rfl, ha⟩
  | items h => exact absurd rfl h.ne_nil

/-- No proper front of an array's text can be read. -/
theorem ArrayText.readChars?_of_ne (h : ArrayText A xs) {T : List Char} (hT : T <+: A)
    (hne : T ≠ A) : readChars? T = none := by
  rw [Option.eq_none_iff_forall_ne_some]
  intro x hx
  have hopen : T.head? = some '[' := by
    cases T with
    | nil => cases hx
    | cons c T =>
      obtain ⟨z, rfl⟩ := hT
      exact h.opens
  obtain ⟨ts, u, b, -, rfl, -, hu, -⟩ := exists_body_of_readChars? hx hopen
  obtain ⟨ts', u', rfl, hu', -⟩ := h.exists_body
  obtain ⟨z, hz⟩ := hT
  -- Read as an array, the whole text leaves nothing, and it leaves what follows its front.
  have h₁ := run_value_array_append hu (b ++ z)
  have h₂ := run_value_array_append hu' []
  have hz' : '[' :: (u ++ ']' :: (b ++ z)) = '[' :: (u' ++ [']']) := by rw [← hz]; simp
  rw [hz', h₂, Option.some.injEq, Prod.mk.injEq] at h₁
  obtain ⟨-, rfl⟩ := List.append_eq_nil_iff.1 h₁.2.symm
  exact hne (by rw [← hz, List.append_nil])

/-- An array's text cannot be read with anything but blanks behind it. -/
theorem ArrayText.readChars?_append (h : ArrayText A xs) {S : List Char} (hS : ¬ Blanks S) :
    readChars? (A ++ S) = none := by
  obtain ⟨ts, u, rfl, hu, -⟩ := h.exists_body
  have hv : Reader.run (value maxDepth) ('[' :: (u ++ ']' :: S)) = some (.array ts, S) :=
    run_value_array_append hu S
  have hS' : skip S ≠ [] := fun h => hS (skip_eq_nil_iff.1 h)
  rw [readChars?, whole_eq, List.cons_append, skip_cons rfl, List.append_assoc,
    List.singleton_append, hv]
  simp [hS']

/-! ### Ends of elements -/

theorem restsBehind_eq (depth : Nat) (cs : List Char) :
    restsBehind depth cs =
      match Reader.run (value depth) (skip cs) with
      | none => []
      | some (_, r) => match skip r with
        | ',' :: r' => r :: restsBehind depth r'
        | _ => [r] := by
  rw [restsBehind, Reader.run]
  split
  next h => simp [h]
  next t r hr h =>
    simp only [h, Option.map_some]
    split
    next r' h' => simp [h']
    next hne =>
      split
      next r' h' => exact absurd h' (hne r')
      next => rfl

theorem length_of_mem_restsBehind {depth : Nat} {cs ρ : List Char}
    (h : ρ ∈ restsBehind depth cs) : ρ.length < cs.length := by
  induction hn : cs.length using Nat.strong_induction_on generalizing cs with
  | _ n ih =>
    rw [restsBehind_eq] at h
    have h₁ := length_skip_le cs
    split at h
    next => cases h
    next t r hr =>
      have h₂ := Reader.length_of_run hr
      split at h
      next r' hr' =>
        have h₃ := length_skip_le r
        rw [hr', List.length_cons] at h₃
        rcases List.mem_cons.1 h with rfl | h
        · omega
        · have := ih r'.length (by omega) h rfl
          omega
      next =>
        rw [List.mem_singleton.1 h]
        omega

variable {depth : Nat} {t : Tree} {a w b : List Char}

theorem restsBehind_comma (ha : Blanks a) (ht : ValueText depth t w) (hb : Blanks b)
    (r : List Char) :
    restsBehind depth (a ++ (w ++ (b ++ ',' :: r))) = (b ++ ',' :: r) :: restsBehind depth r := by
  rw [restsBehind_eq, (spells_value depth).run_skip ha ht
    (hb.delimited_append (delimited_cons (.inr (.inl rfl))))]
  simp only [skip_append hb, skip_cons (show isBlank ',' = false from rfl)]

theorem restsBehind_bracket (ha : Blanks a) (ht : ValueText depth t w) (hb : Blanks b)
    (r : List Char) : restsBehind depth (a ++ (w ++ (b ++ ']' :: r))) = [b ++ ']' :: r] := by
  rw [restsBehind_eq, (spells_value depth).run_skip ha ht
    (hb.delimited_append (delimited_cons (.inr (.inr (.inl rfl)))))]
  simp only [skip_append hb, skip_cons (show isBlank ']' = false from rfl)]
  rfl

theorem restsBehind_empty (ha : Blanks a) (r : List Char) :
    restsBehind depth (a ++ ']' :: r) = [] := by
  have hv : Reader.run (value depth) (']' :: r) = none := by
    rw [Option.eq_none_iff_forall_ne_some]
    rintro ⟨t, s⟩ hv
    obtain ⟨w, hw, ht⟩ := (spells_value depth).sound hv
    obtain ⟨c, w', rfl, -, hc, -⟩ := (spells_value depth).head ht
    cases hw
    exact hc rfl
  rw [restsBehind_eq, skip_append ha, skip_cons rfl, hv]

/-- In front of each rest of an array stands the text of the element. -/
theorem forall₂_restsBehind {ts : List Tree} {u : List Char} (h : BodyText (ValueText depth) ts u)
    (z : List Char) :
    List.Forall₂ (fun ρ t => ∃ a w, u ++ ']' :: z = a ++ (w ++ ρ) ∧ ValueText depth t w)
      (restsBehind depth (u ++ ']' :: z)) ts := by
  cases h with
  | empty ha =>
    rw [restsBehind_empty ha]
    exact .nil
  | items h =>
    induction h with
    | one ha ht hb =>
      rw [List.append_assoc, List.append_assoc, restsBehind_bracket ha ht hb]
      exact .cons ⟨_, _, rfl, ht⟩ .nil
    | @cons t ts a w b u ha ht hb _ ih =>
      rw [List.append_assoc, List.append_assoc, List.append_assoc, List.cons_append,
        restsBehind_comma ha ht hb]
      refine .cons ⟨_, _, rfl, ht⟩ (ih.imp ?_)
      rintro ρ t' ⟨a', w', he, ht'⟩
      exact ⟨a ++ (w ++ (b ++ ',' :: a')), w', by simp [he], ht'⟩

/-- Behind the last element there are only blanks up to the closing bracket. -/
theorem exists_last_restsBehind {ts : List Tree} {u : List Char}
    (h : ItemsText (ValueText depth) ts u) (z : List Char) :
    ∃ v b, u = v ++ b ∧ Blanks b ∧ b ++ ']' :: z ∈ restsBehind depth (u ++ ']' :: z) := by
  induction h with
  | @one t a w b ha ht hb =>
    refine ⟨a ++ w, b, by simp, hb, ?_⟩
    rw [List.append_assoc, List.append_assoc, restsBehind_bracket ha ht hb]
    exact List.mem_singleton.2 rfl
  | @cons t ts a w b u ha ht hb _ ih =>
    obtain ⟨v, b', rfl, hb', hmem⟩ := ih
    refine ⟨a ++ (w ++ (b ++ ',' :: v)), b', by simp, hb', ?_⟩
    rw [List.append_assoc, List.append_assoc, List.append_assoc, List.cons_append,
      restsBehind_comma ha ht hb]
    exact List.mem_cons_of_mem _ hmem

/-- **Each element of an array ends where `elementEnds` says**, an object with its closing brace. -/
theorem ArrayText.forall₂_elementEnds (h : ArrayText A xs) :
    List.Forall₂ (fun e x => ∃ a w, A.take e = a ++ w ∧ readChars? w = some x ∧
      (x.isObject = true → w.getLast? = some '\x7d')) (elementEnds A) xs := by
  obtain ⟨ts, u, rfl, hu, hxs⟩ := h.exists_body
  rw [elementEnds, List.forall₂_map_left_iff, List.tail_cons]
  refine forall₂_of_values ?_ (forall₂_restsBehind hu []) hxs
  rintro ρ t x ⟨a, w, he, hw⟩ hx
  have htake : ('[' :: (u ++ [']'])).take (('[' :: (u ++ [']'])).length - ρ.length) =
      '[' :: a ++ w := by
    have hcs : '[' :: (u ++ [']']) = ('[' :: a ++ w) ++ ρ := by simp [he]
    rw [hcs, List.length_append, Nat.add_sub_cancel, List.take_left]
  have hread : readChars? w = some x := by
    have hw' : ValueText maxDepth t w := hw.succ
    rw [readChars?, whole_eq_some_iff.2 ⟨[], w, [], by simp, .nil, hw', .nil⟩]
    exact hx
  refine ⟨'[' :: a, w, htake, hread, fun hobj => ?_⟩
  rw [← Tree.isObject_of_value? hx] at hobj
  obtain ⟨v, rfl⟩ := hw.exists_braces hobj
  rw [← List.cons_append]
  exact List.getLast?_concat

/-- Behind a front that holds all elements there are only blanks and the bracket. -/
theorem ArrayText.of_mem_rest (h : ArrayText A xs) (hne : xs ≠ []) {T y : List Char}
    (hT : T ++ y = A) (hall : xs.length ≤ completeIn A T) {c : Char} (hc : c ∈ y) :
    isBlank c = true ∨ c = ']' := by
  have hcount : completeIn A T = (elementEnds A).length := by
    have h₁ : completeIn A T ≤ (elementEnds A).length := List.countP_le_length
    have h₂ := h.forall₂_elementEnds.length_eq
    omega
  obtain ⟨ts, u, rfl, hu, hxs⟩ := h.exists_body
  have hitems : ItemsText (ValueText (maxDepth - 1)) ts u := by
    cases hu with
    | empty _ =>
      cases hxs
      exact absurd rfl hne
    | items h => exact h
  obtain ⟨v, b, rfl, hb, hmem⟩ := exists_last_restsBehind hitems []
  -- The last element ends inside of the front, so that what is left is no longer than its rest.
  have hend := List.countP_eq_length.1 hcount _ (List.mem_map_of_mem hmem)
  have hlen : y.length ≤ (b ++ [']']).length := by
    have hA := congrArg List.length hT
    simp only [List.length_append, List.length_cons, decide_eq_true_eq] at hend hA ⊢
    omega
  have hsuffix : y <:+ b ++ [']'] :=
    List.suffix_of_suffix_length_le ⟨T, hT⟩ ⟨'[' :: v, by simp⟩ hlen
  rcases List.mem_append.1 (hsuffix.subset hc) with hc | hc
  · exact .inl (hb c hc)
  · exact .inr (List.mem_singleton.1 hc)

end ThreatModel.Json
