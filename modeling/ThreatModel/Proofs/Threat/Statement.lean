import ThreatModel.Proofs.Text.Splitting
import ThreatModel.Proofs.Threat.WellFormed
import ThreatModel.Threat.Record

/-!
# The grammar of statements

The statement of a threat is one sentence with places for four fields of its draft
(`Statement.Clauses.sentence`). What a field adds is its clause (`Statement.IsClauseOf`): what
stands in it between blanks in front and blanks and periods behind, unless nothing does or nothing
is known.

A field is read in two steps (`clause?`): blanks are taken from both ends, and then periods from
the end of what is left. A blank comes to the end in the second step when the periods stand apart
(`Statement.HasStrayEnd`); such a field leaves that blank in the sentence, and may add a clause
where there is none. In a sentence of clauses every place ends in something else than a blank. So a
statement follows the grammar exactly when no field has a stray end (`Draft.statement_follows_iff`).
-/

namespace ThreatModel

open Text (isBlank trim trimStart Nonblank Trims)

namespace Statement

/-! ### Clauses -/

/-- Blanks and periods, which may stand behind a clause. -/
def isFiller (c : Char) : Bool := isBlank c || c == '.'

/-- `p` stands in a text behind blanks and in front of blanks and periods. -/
def StandsIn (p cs : List Char) : Prop :=
  ∃ front back, cs = front ++ p ++ back ∧ (∀ c ∈ front, isBlank c = true) ∧
    ∀ c ∈ back, isFiller c = true

/-- `p` is what a field says. -/
structure IsClause (s p : String) : Prop where
  stands : StandsIn p.toList s.toList
  nonblank : Nonblank p
  specified : p ≠ unspecified
  head : ∀ c ∈ p.toList.head?, isBlank c = false
  last : ∀ c ∈ p.toList.getLast?, isBlank c = false ∧ c ≠ '.'

/-- What a field adds to a statement. -/
inductive IsClauseOf (s : String) : Option String → Prop
  /-- What it says. -/
  | clause {p : String} (h : IsClause s p) : IsClauseOf s (some p)
  /-- Nothing, if nothing stands in it. -/
  | nothing (h : StandsIn [] s.toList) : IsClauseOf s none
  /-- Nothing, if it only says that nothing is known. -/
  | unknown (h : StandsIn unspecified.toList s.toList) : IsClauseOf s none

/-- The part of a text that can be a clause. -/
def core (cs : List Char) : List Char := (trimStart cs).rdropWhile isFiller

/-- Nothing is no clause, and neither is the text of what is not known. -/
def clauseIn (p : List Char) : Option String :=
  if p = [] ∨ p = unspecified.toList then none else some (String.ofList p)

variable {s t x y : String} {p cs : List Char} {o o' : Option String}

theorem isFiller_eq_false_iff {c : Char} : isFiller c = false ↔ isBlank c = false ∧ c ≠ '.' := by
  simp [isFiller]

theorem head?_unspecified : unspecified.toList.head? = some 'N' := by decide

theorem getLast?_unspecified : unspecified.toList.getLast? = some 'd' := by decide

theorem StandsIn.core_eq (h : StandsIn p cs) (hhead : ∀ c ∈ p.head?, isBlank c = false)
    (hlast : ∀ c ∈ p.getLast?, isBlank c = false ∧ c ≠ '.') : core cs = p := by
  obtain ⟨front, back, rfl, hfront, hback⟩ := h
  rw [List.append_assoc, core, Text.trimStart_append hfront]
  rcases List.eq_nil_or_concat' p with rfl | ⟨q, c, rfl⟩
  · rw [List.nil_append, List.rdropWhile_eq_nil_iff]
    exact fun c hc => hback c ((List.dropWhile_sublist _).subset hc)
  · have hc : isFiller c = false := isFiller_eq_false_iff.2 (hlast c List.getLast?_concat)
    have hstart : trimStart (q ++ [c] ++ back) = q ++ [c] ++ back := by
      cases q with
      | nil => exact Text.trimStart_cons_of_not_blank (hhead c rfl) back
      | cons d q => exact Text.trimStart_cons_of_not_blank (hhead d rfl) _
    rw [hstart, List.rdropWhile, List.reverse_append,
      List.dropWhile_append_of_pos fun x hx => hback x (List.mem_reverse.1 hx),
      List.reverse_concat', List.dropWhile_cons_of_neg (by simp [hc])]
    simp

/-- A field has one clause, if any. -/
theorem IsClauseOf.eq_clauseIn (h : IsClauseOf s o) : o = clauseIn (core s.toList) := by
  cases h with
  | @clause p h =>
    have hne : p.toList ≠ [] := by
      obtain ⟨c, hc, -⟩ := Text.nonblank_iff.1 h.nonblank
      exact List.ne_nil_of_mem hc
    have hspecified : p.toList ≠ unspecified.toList := mt String.toList_inj.1 h.specified
    rw [h.stands.core_eq h.head h.last, clauseIn, if_neg (not_or.2 ⟨hne, hspecified⟩),
      String.ofList_toList]
  | nothing h =>
    rw [h.core_eq (by simp) (by simp), clauseIn, if_pos (.inl rfl)]
  | unknown h =>
    have hhead : ∀ c ∈ unspecified.toList.head?, isBlank c = false := by
      rw [head?_unspecified]
      rintro c ⟨⟩
      decide
    have hlast : ∀ c ∈ unspecified.toList.getLast?, isBlank c = false ∧ c ≠ '.' := by
      rw [getLast?_unspecified]
      rintro c ⟨⟩
      decide
    rw [h.core_eq hhead hlast, clauseIn, if_pos (.inr rfl)]

theorem IsClauseOf.unique (h : IsClauseOf s o) (h' : IsClauseOf s o') : o = o' :=
  h.eq_clauseIn.trans h'.eq_clauseIn.symm

/-! ### Reading a field -/

/-- The periods at the end of a text stand apart: they are behind a blank, and that is not one of
the blanks in front. -/
def HasStrayEnd (s : String) : Prop :=
  ∃ front c n back, s.toList = front ++ c :: (List.replicate (n + 1) '.' ++ back) ∧
    (∃ x ∈ front, isBlank x = false) ∧ isBlank c = true ∧ ∀ x ∈ back, isBlank x = true

/-- What is left of a field: no blanks at its ends, and then no periods at its end. -/
def kept (s : String) : List Char := dropTrailing '.' (trim s.toList)

theorem dropTrailing_append_replicate {c : Char} (hp : ∀ x ∈ p.getLast?, x ≠ c) (n : Nat) :
    dropTrailing c (p ++ List.replicate n c) = p := by
  have hperiods : ∀ x ∈ (List.replicate n c).reverse, (x == c) = true := by simp
  rw [dropTrailing, List.reverse_append, List.dropWhile_append_of_pos hperiods]
  rcases List.eq_nil_or_concat' p with rfl | ⟨q, x, rfl⟩
  · rfl
  · have hx : x ≠ c := hp x List.getLast?_concat
    rw [List.reverse_concat', List.dropWhile_cons_of_neg (by simpa using hx)]
    simp

theorem clause?_eq (s : String) : clause? s = clauseIn (kept s) := by
  have hread : clause? s =
      if (String.ofList (kept s)).isEmpty || decide (String.ofList (kept s) = unspecified) then none
      else some (String.ofList (kept s)) := rfl
  have hempty : (String.ofList (kept s)).isEmpty = true ↔ kept s = [] := by
    rw [String.isEmpty_iff, ← String.toList_inj, String.toList_ofList, String.toList_empty]
  have hunspecified : String.ofList (kept s) = unspecified ↔ kept s = unspecified.toList := by
    rw [← String.toList_inj, String.toList_ofList]
  simp only [hread, clauseIn, Bool.or_eq_true, hempty, decide_eq_true_eq, hunspecified]

/-- Only periods are taken from what trimming leaves. -/
theorem exists_trims_kept (s : String) : ∃ n, Trims s.toList (kept s ++ List.replicate n '.') := by
  have hsplit : kept s ++ (trim s.toList).rtakeWhile (· == '.') = trim s.toList :=
    List.rdropWhile_append_rtakeWhile
  have hperiods : (trim s.toList).rtakeWhile (· == '.') =
      List.replicate ((trim s.toList).rtakeWhile (· == '.')).length '.' :=
    List.eq_replicate_of_mem fun c hc => by simpa using List.mem_rtakeWhile_imp hc
  refine ⟨((trim s.toList).rtakeWhile (· == '.')).length, ?_⟩
  rw [← hperiods, hsplit]
  exact Text.trims_trim s.toList

/-- What is left stands in the field as a clause does. -/
theorem standsIn_kept (s : String) : StandsIn (kept s) s.toList := by
  obtain ⟨n, ⟨a, b, hs, hblank⟩, -, -⟩ := exists_trims_kept s
  refine ⟨a, List.replicate n '.' ++ b, by rw [hs]; simp, ?_, ?_⟩
  · exact fun c hc => hblank c (List.mem_append_left b hc)
  · intro c hc
    rcases List.mem_append.1 hc with hc | hc
    · rw [(List.mem_replicate.1 hc).2]
      rfl
    · simp [isFiller, hblank c (List.mem_append_right a hc)]

theorem not_isBlank_of_mem_head?_kept : ∀ c ∈ (kept s).head?, isBlank c = false := by
  obtain ⟨n, -, hhead, -⟩ := exists_trims_kept s
  intro c hc
  refine hhead c ?_
  rw [List.head?_append, hc]
  rfl

theorem ne_period_of_mem_getLast?_kept : ∀ c ∈ (kept s).getLast?, c ≠ '.' := by
  intro c hc
  have hne : kept s ≠ [] := by
    rintro h
    rw [h] at hc
    cases hc
  have hnot : ¬ ((kept s).getLast hne == '.') = true := List.rdropWhile_last_not _ _ hne
  rw [List.getLast?_eq_getLast_of_ne_nil hne] at hc
  cases hc
  simpa using hnot

theorem kept_of_strayEnd {front back : List Char} {x c : Char} {n : ℕ}
    (hs : s.toList = front ++ c :: (List.replicate (n + 1) '.' ++ back)) (hx : x ∈ front)
    (hxblank : isBlank x = false) (hc : isBlank c = true) (hback : ∀ x ∈ back, isBlank x = true) :
    kept s = trimStart front ++ [c] := by
  have hs' : s.toList = (front ++ c :: List.replicate n '.') ++ '.' :: back := by
    rw [hs, List.replicate_succ']
    simp
  have htrim : trim s.toList = (trimStart front ++ [c]) ++ List.replicate (n + 1) '.' := by
    rw [hs', Text.trim_append_cons (by decide), Text.trimStart_append_of_mem hx hxblank,
      Text.trimEnd_of_isBlank hback, List.replicate_succ']
    simp
  have hne : ∀ y ∈ (trimStart front ++ [c]).getLast?, y ≠ '.' := by
    rw [List.getLast?_concat]
    rintro y ⟨⟩ rfl
    cases hc
  rw [kept, htrim, dropTrailing_append_replicate hne]

/-- **What is left ends in a blank exactly when the periods stand apart.** -/
theorem hasStrayEnd_iff : HasStrayEnd s ↔ ∃ c ∈ (kept s).getLast?, isBlank c = true := by
  constructor
  · rintro ⟨front, c, n, back, hs, ⟨x, hx, hxblank⟩, hc, hback⟩
    rw [kept_of_strayEnd hs hx hxblank hc hback]
    exact ⟨c, List.getLast?_concat, hc⟩
  · rintro ⟨c, hlast, hc⟩
    obtain ⟨q, hq⟩ := List.getLast?_eq_some_iff.1 hlast
    obtain ⟨n, ⟨a, b, hs, hblank⟩, hhead, hend⟩ := exists_trims_kept s
    rw [hq] at hs hhead hend
    -- The blank is neither at the end of what trimming leaves nor at its front.
    have hn : n ≠ 0 := by
      rintro rfl
      have := hend c (by simp)
      simp [hc] at this
    obtain ⟨n, rfl⟩ := Nat.exists_eq_succ_of_ne_zero hn
    cases q with
    | nil =>
      have := hhead c (by simp)
      simp [hc] at this
    | cons x q =>
      refine ⟨a ++ x :: q, c, n, b, by rw [hs]; simp, ⟨x, by simp, hhead x (by simp)⟩, hc, ?_⟩
      exact fun y hy => hblank y (List.mem_append_right a hy)

/-- **A field without a stray end adds its clause.** -/
theorem isClauseOf_clause? (h : ¬ HasStrayEnd s) : IsClauseOf s (clause? s) := by
  have hstands := standsIn_kept s
  rw [clause?_eq, clauseIn]
  by_cases hnil : kept s = []
  · rw [if_pos (.inl hnil)]
    rw [hnil] at hstands
    exact .nothing hstands
  by_cases hunspecified : kept s = unspecified.toList
  · rw [if_pos (.inr hunspecified)]
    rw [hunspecified] at hstands
    exact .unknown hstands
  have hlast : ∀ c ∈ (kept s).getLast?, isBlank c = false ∧ c ≠ '.' := by
    intro c hc
    refine ⟨?_, ne_period_of_mem_getLast?_kept c hc⟩
    rw [← Bool.not_eq_true]
    exact fun hblank => h (hasStrayEnd_iff.2 ⟨c, hc, hblank⟩)
  have hnonblank : Nonblank (String.ofList (kept s)) := by
    obtain ⟨c, r, hr⟩ := List.exists_cons_of_ne_nil hnil
    have hc : isBlank c = false := not_isBlank_of_mem_head?_kept c (by rw [hr]; rfl)
    exact .of_mem (hr ▸ List.mem_cons_self) hc
  rw [if_neg (not_or.2 ⟨hnil, hunspecified⟩)]
  refine .clause ⟨?_, hnonblank, ?_, ?_, ?_⟩
  · rwa [String.toList_ofList]
  · rwa [Ne, ← String.toList_inj, String.toList_ofList]
  · rw [String.toList_ofList]
    exact not_isBlank_of_mem_head?_kept
  · rwa [String.toList_ofList]

/-! ### Sentences -/

/-- What the four fields add to a sentence. -/
structure Clauses where
  source : Option String
  prerequisites : Option String
  action : Option String
  consequence : Option String

/-- A clause behind the words that lead to it. -/
def following (lead : String) : Option String → String
  | some p => lead ++ p
  | none => ""

/-- The sentence of four clauses. Somebody does something in every sentence. -/
def Clauses.sentence (c : Clauses) (assets : List String) : String :=
  "A " ++ c.source.getD "threat actor" ++ following " " c.prerequisites ++ " can " ++
    c.action.getD "exploit this weakness" ++ following ", which leads to " c.consequence ++
    ", negatively impacting " ++
    (if assets.isEmpty then "the system" else ", ".intercalate assets) ++ "."

/-- The clauses of the fields of a draft. -/
structure Clauses.Fit (c : Clauses) (d : Draft) : Prop where
  source : IsClauseOf d.source c.source
  prerequisites : IsClauseOf d.prerequisites c.prerequisites
  action : IsClauseOf d.action c.action
  consequence : IsClauseOf d.consequence c.consequence

/-! ### Ends of sentences -/

/-- A text that ends in a blank, or in something else. -/
def Ends (blank : Bool) (s : String) : Prop := ∃ c ∈ s.toList.getLast?, isBlank c = blank

theorem Ends.append {blank : Bool} (h : Ends blank t) (s : String) : Ends blank (s ++ t) := by
  obtain ⟨c, hc, hblank⟩ := h
  refine ⟨c, ?_, hblank⟩
  rw [String.toList_append, List.getLast?_append, hc]
  rfl

theorem Ends.not_true (h : Ends false s) : ¬ Ends true s := by
  rintro ⟨c, hc, hblank⟩
  obtain ⟨d, hd, hd'⟩ := h
  rw [Option.mem_def.1 hc] at hd
  cases hd
  rw [hblank] at hd'
  cases hd'

theorem IsClause.ends (h : IsClause s t) : Ends false t := by
  obtain ⟨c, hc, -⟩ := Text.nonblank_iff.1 h.nonblank
  have hlast := List.getLast?_eq_getLast_of_ne_nil (List.ne_nil_of_mem hc)
  exact ⟨_, hlast, (h.last _ hlast).1⟩

theorem IsClauseOf.ends_getD (h : IsClauseOf s o) (ht : Ends false t) : Ends false (o.getD t) := by
  cases h with
  | clause h => exact h.ends
  | nothing => exact ht
  | unknown => exact ht

theorem IsClauseOf.ends_following (h : IsClauseOf s o) (hx : Ends false x) (lead : String) :
    Ends false (x ++ following lead o) := by
  cases h with
  | clause h => exact (h.ends.append lead).append x
  | nothing => rwa [following, String.append_empty]
  | unknown => rwa [following, String.append_empty]

/-- A field with a stray end always adds something, with a blank at its end. -/
theorem HasStrayEnd.exists_clause (h : HasStrayEnd s) : ∃ p, clause? s = some p ∧ Ends true p := by
  obtain ⟨c, hc, hblank⟩ := hasStrayEnd_iff.1 h
  have hnil : kept s ≠ [] := by
    intro hnil
    rw [hnil] at hc
    cases hc
  have hunspecified : kept s ≠ unspecified.toList := by
    intro heq
    rw [heq, getLast?_unspecified] at hc
    cases hc
    cases hblank
  refine ⟨String.ofList (kept s), ?_, c, ?_, hblank⟩
  · rw [clause?_eq, clauseIn, if_neg (by simp [hnil, hunspecified])]
  · rwa [String.toList_ofList]

/-- If two texts agree that end in what a field adds and in its clause, the field has no stray end,
and what stands in front agrees as well. -/
theorem eq_of_append_eq {f : Option String → String} (h : x ++ f (clause? s) = y ++ f o)
    (ho : IsClauseOf s o) (hend : Ends false (y ++ f o))
    (hf : ∀ {p}, Ends true p → Ends true (f (some p))) : ¬ HasStrayEnd s ∧ x = y := by
  by_cases hs : HasStrayEnd s
  · obtain ⟨p, hp, hblank⟩ := hs.exists_clause
    rw [← h, hp] at hend
    exact absurd ((hf hblank).append x) hend.not_true
  · rw [ho.unique (isClauseOf_clause? hs)] at h
    exact ⟨hs, (String.append_left_inj _).1 h⟩

end Statement

/-! ### Statements of drafts -/

open Statement

namespace Draft

/-- The clauses that are read from a draft. -/
def clauses (d : Draft) : Clauses :=
  ⟨clause? d.source, clause? d.prerequisites, clause? d.action, clause? d.consequence⟩

/-- A text is the sentence of the clauses of a draft. -/
def FollowsGrammar (d : Draft) (text : String) : Prop :=
  ∃ c : Clauses, c.Fit d ∧ text = c.sentence d.assets

/-- The fields of a draft that have a place in its statement. -/
def statementFields (d : Draft) : List String :=
  [d.source, d.prerequisites, d.action, d.consequence]

theorem statement_ofDraft (id : String) (d : Draft) :
    (ThreatRecord.ofDraft id d).statement = d.clauses.sentence d.assets := by
  rw [Clauses.sentence, clauses, ThreatRecord.ofDraft, threatStatement]
  cases clause? d.prerequisites <;> cases clause? d.consequence <;> simp only [following]

/-- In a statement that follows the grammar no field has a stray end. The sentence is taken apart
from its end. -/
theorem FollowsGrammar.not_hasStrayEnd {id : String} {d : Draft}
    (h : d.FollowsGrammar (ThreatRecord.ofDraft id d).statement) :
    ∀ s ∈ d.statementFields, ¬ HasStrayEnd s := by
  obtain ⟨c, hc, h⟩ := h
  rw [statement_ofDraft, Clauses.sentence, Clauses.sentence, clauses] at h
  have hsource : Ends false ("A " ++ c.source.getD "threat actor") :=
    (hc.source.ends_getD ⟨'r', by decide, by decide⟩).append _
  have hprerequisites := hc.prerequisites.ends_following hsource " "
  have haction : Ends false ("A " ++ c.source.getD "threat actor" ++
      following " " c.prerequisites ++ " can " ++ c.action.getD "exploit this weakness") :=
    (hc.action.ends_getD ⟨'s', by decide, by decide⟩).append _
  have hconsequence := hc.consequence.ends_following haction ", which leads to "
  simp only [String.append_left_inj] at h
  obtain ⟨hnot₄, h⟩ := eq_of_append_eq h hc.consequence hconsequence fun hp => hp.append _
  obtain ⟨hnot₃, h⟩ := eq_of_append_eq (f := fun o => o.getD _) h hc.action haction fun hp => hp
  rw [String.append_left_inj] at h
  obtain ⟨hnot₂, h⟩ := eq_of_append_eq h hc.prerequisites hprerequisites fun hp => hp.append _
  obtain ⟨hnot₁, -⟩ := eq_of_append_eq (f := fun o => o.getD _) h hc.source hsource fun hp => hp
  simp only [statementFields, List.forall_mem_cons]
  exact ⟨hnot₁, hnot₂, hnot₃, hnot₄, List.forall_mem_nil _⟩

/-- Fields without stray ends are read as their clauses. -/
theorem fit_clauses {d : Draft} (h : ∀ s ∈ d.statementFields, ¬ HasStrayEnd s) :
    d.clauses.Fit d := by
  simp only [statementFields, List.forall_mem_cons] at h
  obtain ⟨hsource, hprerequisites, haction, hconsequence, -⟩ := h
  constructor <;> dsimp only [clauses]
  · exact isClauseOf_clause? hsource
  · exact isClauseOf_clause? hprerequisites
  · exact isClauseOf_clause? haction
  · exact isClauseOf_clause? hconsequence

/-- **A statement follows the grammar exactly when no field has a stray end.** -/
theorem statement_follows_iff (id : String) (d : Draft) :
    d.FollowsGrammar (ThreatRecord.ofDraft id d).statement ↔
      ∀ s ∈ d.statementFields, ¬ HasStrayEnd s := by
  constructor
  · exact FollowsGrammar.not_hasStrayEnd
  · intro h
    exact ⟨d.clauses, fit_clauses h, statement_ofDraft id d⟩

/-- Periods that stand apart are left in the sentence with the blank in front of them, and make a
clause of what is not known and of what is nothing but periods. -/
theorem statement_of_stray_ends :
    let d : Draft := { (default : Draft) with
      source := "Not specified .", prerequisites := "with network access"
      action := "read records .", consequence := ". ." }
    (ThreatRecord.ofDraft "TM-1" d).statement = "A Not specified  with network access can " ++
        "read records , which leads to . , negatively impacting the system." ∧
      ¬ d.FollowsGrammar (ThreatRecord.ofDraft "TM-1" d).statement ∧
      ¬ ∀ (id : String) (d : Draft), d.FollowsGrammar (ThreatRecord.ofDraft id d).statement := by
  intro d
  have hstray : HasStrayEnd d.source :=
    ⟨"Not specified".toList, ' ', 0, [], by decide, ⟨'N', by decide, by decide⟩, by decide, by simp⟩
  have hnot : ¬ d.FollowsGrammar (ThreatRecord.ofDraft "TM-1" d).statement := fun h =>
    h.not_hasStrayEnd d.source List.mem_cons_self hstray
  exact ⟨by decide +kernel, hnot, fun h => hnot (h "TM-1" d)⟩

end Draft

end ThreatModel
