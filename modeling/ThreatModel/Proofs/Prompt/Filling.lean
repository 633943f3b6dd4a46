import Mathlib
import ThreatModel.Prompt.Template
import ThreatModel.Proofs.Text.Replacement

/-!
# Filling in a template

The sections are filled in one after another, each wherever its placeholder stands by then. In a
template whose holes stand between line breaks no placeholder comes about over the border of a hole,
so every hole ends up with a text of its own: its section, with the later sections filled in where
the section itself holds their placeholders (`Template.fill_eq`).

Filling in the sections at once would give the sections as they are. The two agree just when no
section holds the placeholder of a later one (`Template.fill_eq_fillAtOnce_iff`). One direction is
plain. The other one must exclude that what one section changes a later one changes back: with a
weight for every character that makes each section weigh more than its placeholder
(`exists_weight_lt`), every replacement makes the text heavier (`weight_lt_fillIn`).
-/

namespace ThreatModel.Prompt

/-! ### Sections -/

namespace Section

/-- The sections that are filled in after a section. -/
def later (s : Section) : List Section := (all.dropWhile (· != s)).tail

theorem all_eq (s : Section) : ∃ done, all = done ++ s :: s.later ∧ s ∉ done := by
  refine ⟨all.takeWhile (· != s), ?_, ?_⟩
  · cases s <;> rfl
  · intro h
    simpa using List.mem_takeWhile_imp h

/-- The guidance is filled in first. -/
theorem later_subset (s : Section) : s.later ⊆ guidance.later := by
  cases s <;> decide

theorem placeholder_ne_nil (s : Section) : s.placeholder ≠ [] := by
  simp [placeholder]

theorem newline_notMem_placeholder (s : Section) : '\n' ∉ s.placeholder := by
  cases s <;> decide

/-- A text without braces holds no placeholder. -/
theorem not_placeholder_isInfix_of_notMem (s : Section) {cs : List Char} (h : '\x7b' ∉ cs) :
    ¬ s.placeholder <:+: cs :=
  fun hi => h (hi.subset List.mem_cons_self)

theorem not_placeholder_isInfix {s u : Section} (h : u ≠ s) :
    ¬ u.placeholder <:+: s.placeholder := by
  cases u <;> cases s <;> first | exact absurd rfl h | decide

end Section

variable {value : Section → List Char} {cs : List Char} {l : List Section}

/-- The text after some sections have been filled in one after another. -/
def fillIn (value : Section → List Char) (l : List Section) (cs : List Char) : List Char :=
  l.foldl (fun cs s => Text.replace s.placeholder (value s) cs) cs

/-- The text of a section with the later sections filled in. -/
def expanded (value : Section → List Char) (s : Section) : List Char :=
  fillIn value s.later (value s)

@[simp] theorem fillIn_nil (value : Section → List Char) (cs : List Char) :
    fillIn value [] cs = cs := rfl

@[simp] theorem fillIn_cons (value : Section → List Char) (s : Section) (l : List Section)
    (cs : List Char) :
    fillIn value (s :: l) cs = fillIn value l (Text.replace s.placeholder (value s) cs) := rfl

theorem fillIn_append (value : Section → List Char) (l l' : List Section) (cs : List Char) :
    fillIn value (l ++ l') cs = fillIn value l' (fillIn value l cs) :=
  List.foldl_append

theorem fillIn_of_not_isInfix (h : ∀ u ∈ l, ¬ u.placeholder <:+: cs) : fillIn value l cs = cs := by
  induction l with
  | nil => rfl
  | cons u l ih =>
    rw [fillIn_cons, Text.replace_of_not_isInfix (h u List.mem_cons_self)]
    exact ih fun s hs => h s (List.mem_cons_of_mem u hs)

theorem expanded_of_notMem {s : Section} (h : '\x7b' ∉ value s) : expanded value s = value s :=
  fillIn_of_not_isInfix fun u _ => u.not_placeholder_isInfix_of_notMem h

/-- What comes of a hole: nothing happens to it before its own section is filled in. -/
theorem fillIn_placeholder (value : Section → List Char) (s : Section) :
    fillIn value Section.all s.placeholder = expanded value s := by
  obtain ⟨done, hall, hs⟩ := s.all_eq
  have hdone : fillIn value done s.placeholder = s.placeholder :=
    fillIn_of_not_isInfix fun u hu =>
      Section.not_placeholder_isInfix fun h => hs (h ▸ hu)
  have hown : Text.replace s.placeholder (value s) s.placeholder = value s := by
    have h := Text.replace_needle_append s.placeholder_ne_nil (value s) []
    rwa [Text.replace_nil, List.append_nil, List.append_nil] at h
  rw [hall, fillIn_append, hdone, fillIn_cons, hown, expanded]

/-! ### Templates -/

/-- Whether a part ends a line, whatever stands in the holes. -/
def Part.endsLine : Part → Bool
  | .text x => x.toList.getLast? == some '\n'
  | .hole _ => false

/-- Whether a part starts with the end of a line, whatever stands in the holes. -/
def Part.startsLine : Part → Bool
  | .text x => x.toList.head? == some '\n'
  | .hole _ => false

/-- The text of a part, with a text for every hole. -/
def Part.filled (value : Section → List Char) : Part → List Char
  | .text x => x.toList
  | .hole s => value s

/-- Parts with a line break on one side of every border. -/
def Spaced : Template → Prop := List.IsChain fun p q => p.endsLine || q.startsLine

theorem Spaced.tail {p : Part} {t : Template} (h : Spaced (p :: t)) : Spaced t := List.IsChain.tail h

namespace Template

/-- What filling in asks of a template. -/
structure WellFormed (t : Template) : Prop where
  spaced : Spaced t
  /-- The only placeholders are the holes. -/
  clear : ∀ x, Part.text x ∈ t → ∀ s : Section, ¬ s.placeholder <:+: x.toList
  complete : ∀ s : Section, Part.hole s ∈ t

/-- All sections filled in at once, each where its hole is. -/
def fillAtOnce (value : Section → List Char) (t : Template) : List Char :=
  t.flatMap (·.filled value)

/-- The sections whose holes a template has, in their order. -/
def holes (t : Template) : List Section :=
  t.filterMap fun
    | .text _ => none
    | .hole s => some s

variable {t : Template}

/-- The length of the text around the holes, and the lengths of the sections. -/
theorem length_fillAtOnce (value : Section → List Char) (t : Template) :
    (t.fillAtOnce value).length =
      (t.fillAtOnce fun _ => []).length + (t.holes.map fun s => (value s).length).sum := by
  induction t with
  | nil => rfl
  | cons p t ih =>
    cases p with
    | text x =>
      simp only [fillAtOnce, holes, List.flatMap_cons, List.filterMap_cons, Part.filled,
        List.length_append] at ih ⊢
      omega
    | hole s =>
      simp only [fillAtOnce, holes, List.flatMap_cons, List.filterMap_cons, Part.filled,
        List.length_append, List.map_cons, List.sum_cons, List.length_nil] at ih ⊢
      omega

theorem text_eq_fillAtOnce (t : Template) : t.text = t.fillAtOnce Section.placeholder := by
  unfold text fillAtOnce
  refine List.flatMap_congr fun p _ => ?_
  cases p <;> rfl

/-- A line break at every border keeps a text without line breaks from going over one. -/
theorem replace_fillAtOnce {needle : List Char} (hn : '\n' ∉ needle) (new : List Char)
    (value : Section → List Char) (ht : Spaced t) :
    Text.replace needle new (t.fillAtOnce value) =
      t.flatMap fun p => Text.replace needle new (p.filled value) := by
  induction t with
  | nil => exact Text.replace_nil needle new
  | cons p t ih =>
    have hcons : fillAtOnce value (p :: t) = p.filled value ++ fillAtOnce value t :=
      List.flatMap_cons
    rw [hcons, List.flatMap_cons, ← ih ht.tail]
    cases t with
    | nil => simp [fillAtOnce]
    | cons q t =>
      refine Text.replace_append_of_border hn ?_ new
      have hpq : p.endsLine || q.startsLine := (List.isChain_cons_cons.1 ht).1
      rcases Bool.or_eq_true .. ▸ hpq with hp | hq
      · left
        cases p with
        | text x => simpa [Part.endsLine, Part.filled] using hp
        | hole s => cases hp
      · right
        cases q with
        | text x =>
          have hx : x.toList.head? = some '\n' := by simpa [Part.startsLine] using hq
          obtain ⟨y, hy⟩ := List.head?_eq_some_iff.1 hx
          simp [fillAtOnce, Part.filled, hy]
        | hole s => cases hq

theorem fillIn_fillAtOnce (ht : t.WellFormed) (l : List Section) (v : Section → List Char) :
    fillIn value l (t.fillAtOnce v) = t.fillAtOnce fun s => fillIn value l (v s) := by
  induction l generalizing v with
  | nil => rfl
  | cons u l ih =>
    have hstep : Text.replace u.placeholder (value u) (t.fillAtOnce v) =
        t.fillAtOnce fun s => Text.replace u.placeholder (value u) (v s) := by
      rw [replace_fillAtOnce u.newline_notMem_placeholder _ _ ht.spaced]
      refine List.flatMap_congr fun p hp => ?_
      cases p with
      | text x => exact Text.replace_of_not_isInfix (ht.clear x hp u) _
      | hole s => rfl
    rw [fillIn_cons, hstep, ih]
    rfl

/-- Filling in the sections one after another leaves every hole with its section, in which the later
sections are filled in. -/
theorem fill_eq (ht : t.WellFormed) (value : Section → List Char) :
    t.fill value = t.fillAtOnce (expanded value) := by
  have h : t.fill value = fillIn value Section.all t.text := rfl
  rw [h, text_eq_fillAtOnce, fillIn_fillAtOnce ht]
  exact congrArg (fillAtOnce · t) (funext fun s => fillIn_placeholder value s)

end Template

/-! ### Weights -/

section Weight

open Text (weight)

variable {f : Char → ℤ}

theorem weight_le_fillIn (hl : ∀ u ∈ l, weight f u.placeholder < weight f (value u))
    (cs : List Char) : weight f cs ≤ weight f (fillIn value l cs) := by
  induction l generalizing cs with
  | nil => rfl
  | cons u l ih =>
    exact (Text.weight_le_replace (hl u List.mem_cons_self) cs).trans
      (ih (fun s hs => hl s (List.mem_cons_of_mem u hs)) _)

theorem weight_lt_fillIn (hl : ∀ u ∈ l, weight f u.placeholder < weight f (value u))
    (h : ∃ u ∈ l, u.placeholder <:+: cs) : weight f cs < weight f (fillIn value l cs) := by
  induction l generalizing cs with
  | nil => simp at h
  | cons u l ih =>
    have hl' : ∀ s ∈ l, weight f s.placeholder < weight f (value s) :=
      fun s hs => hl s (List.mem_cons_of_mem u hs)
    rw [fillIn_cons]
    by_cases hu : u.placeholder <:+: cs
    · exact (Text.weight_lt_replace u.placeholder_ne_nil (hl u List.mem_cons_self) hu).trans_le
        (weight_le_fillIn hl' _)
    · rw [Text.replace_of_not_isInfix hu]
      refine ih hl' ?_
      obtain ⟨s, hs, hi⟩ := h
      rcases List.mem_cons.1 hs with rfl | hs
      · exact absurd hi hu
      · exact ⟨s, hs, hi⟩

theorem Template.weight_fillAtOnce_le {v w : Section → List Char}
    (h : ∀ s, weight f (v s) ≤ weight f (w s)) (t : Template) :
    weight f (t.fillAtOnce v) ≤ weight f (t.fillAtOnce w) := by
  induction t with
  | nil => rfl
  | cons p t ih =>
    have hp : weight f (p.filled v) ≤ weight f (p.filled w) := by
      cases p with
      | text x => rfl
      | hole s => exact h s
    simp only [fillAtOnce, List.flatMap_cons, Text.weight_append] at ih ⊢
    omega

theorem Template.weight_fillAtOnce_lt {v w : Section → List Char} {s : Section} {t : Template}
    (h : ∀ s, weight f (v s) ≤ weight f (w s)) (hs : weight f (v s) < weight f (w s))
    (hmem : Part.hole s ∈ t) : weight f (t.fillAtOnce v) < weight f (t.fillAtOnce w) := by
  obtain ⟨t₁, t₂, rfl⟩ := List.append_of_mem hmem
  have h₁ := weight_fillAtOnce_le h t₁
  have h₂ := weight_fillAtOnce_le h t₂
  simp only [fillAtOnce, List.flatMap_append, List.flatMap_cons, Text.weight_append,
    Part.filled] at h₁ h₂ ⊢
  omega

/-- A weight that makes a marked character count for more than `k - 1` others, which weigh less than
nothing. -/
def markWeight (mark : Char → Prop) [DecidablePred mark] (k : ℕ) (c : Char) : ℤ :=
  if mark c then k else -1

variable (mark : Char → Prop) [DecidablePred mark]

theorem neg_length_le_markWeight (k : ℕ) (cs : List Char) :
    -(cs.length : ℤ) ≤ weight (markWeight mark k) cs := by
  induction cs with
  | nil => rfl
  | cons c cs ih =>
    have hc : -1 ≤ markWeight mark k c := by
      unfold markWeight
      split <;> omega
    rw [Text.weight_cons, List.length_cons]
    omega

variable {mark}

theorem sub_length_le_markWeight {c : Char} (hmem : c ∈ cs) (hc : mark c) (k : ℕ) :
    (k : ℤ) - cs.length ≤ weight (markWeight mark k) cs := by
  obtain ⟨a, b, rfl⟩ := List.append_of_mem hmem
  have ha := neg_length_le_markWeight mark k a
  have hb := neg_length_le_markWeight mark k b
  simp only [Text.weight_append, Text.weight_cons, List.length_append, List.length_cons,
    markWeight, if_pos hc] at ha hb ⊢
  omega

theorem markWeight_of_forall_not {k : ℕ} (h : ∀ c ∈ cs, ¬ mark c) :
    weight (markWeight mark k) cs = -cs.length := by
  induction cs with
  | nil => rfl
  | cons c cs ih =>
    rw [Text.weight_cons, markWeight, if_neg (h c List.mem_cons_self),
      ih fun d hd => h d (List.mem_cons_of_mem c hd), List.length_cons]
    omega

/-- When every section in a list is empty or holds a character that is in no placeholder, there are
weights that make each of them weigh more than its placeholder. -/
theorem exists_weight_lt
    (h : ∀ u ∈ l, value u = [] ∨ ∃ c ∈ value u, ∀ s : Section, c ∉ s.placeholder) :
    ∃ f : Char → ℤ, ∀ u ∈ l, weight f u.placeholder < weight f (value u) := by
  classical
  obtain ⟨k, hk⟩ : ∃ k, ∀ u ∈ l, (value u).length ≤ k :=
    ⟨(l.map fun u => (value u).length).sum, fun u hu =>
      List.single_le_sum (fun _ _ => Nat.zero_le _) _ (List.mem_map_of_mem hu)⟩
  let mark : Char → Prop := fun c => ∀ s : Section, c ∉ s.placeholder
  refine ⟨markWeight mark k, fun u hu => ?_⟩
  have hplaceholder : weight (markWeight mark k) u.placeholder < 0 := by
    have hpos := List.length_pos_of_ne_nil u.placeholder_ne_nil
    rw [markWeight_of_forall_not fun c hc hmark => hmark u hc]
    omega
  have hvalue : 0 ≤ weight (markWeight mark k) (value u) := by
    rcases h u hu with hnil | ⟨c, hmem, hc⟩
    · rw [hnil, Text.weight_nil]
    · have hlower : (k : ℤ) - (value u).length ≤ weight (markWeight mark k) (value u) :=
        sub_length_le_markWeight hmem hc k
      have := hk u hu
      omega
  exact hplaceholder.trans_le hvalue

/-- One after another and at once come to the same just when no section holds the placeholder of a
later one. -/
theorem Template.fill_eq_fillAtOnce_iff {t : Template} (ht : t.WellFormed)
    (h : ∀ s : Section, ∀ u ∈ s.later,
      value u = [] ∨ ∃ c ∈ value u, ∀ s : Section, c ∉ s.placeholder) :
    t.fill value = t.fillAtOnce value ↔
      ∀ s : Section, ∀ u ∈ s.later, ¬ u.placeholder <:+: value s := by
  rw [fill_eq ht]
  constructor
  · intro heq s u hu hi
    obtain ⟨f, hf⟩ := exists_weight_lt (l := Section.guidance.later) (h Section.guidance)
    have hlater : ∀ s : Section, ∀ u ∈ s.later, weight f u.placeholder < weight f (value u) :=
      fun s u hu => hf u (Section.later_subset s hu)
    have hle : ∀ s, weight f (value s) ≤ weight f (expanded value s) :=
      fun s => weight_le_fillIn (hlater s) (value s)
    have hlt : weight f (value s) < weight f (expanded value s) :=
      weight_lt_fillIn (hlater s) ⟨u, hu, hi⟩
    have := weight_fillAtOnce_lt hle hlt (ht.complete s)
    rw [heq] at this
    exact lt_irrefl _ this
  · intro hnot
    exact congrArg (fillAtOnce · t) (funext fun s => fillIn_of_not_isInfix (hnot s))

end Weight

end ThreatModel.Prompt
