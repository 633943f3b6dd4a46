import ThreatModel.Proofs.Threat.Records
import ThreatModel.Reply.Threats

/-!
# Suggested severities

A severity follows from the factors of a threat and from nothing else. Whatever severity an element
of a reply suggests, the same records come out of it, with the same ids and in the same order
(`severity_derived`).

A suggestion ends in one field of a draft. `Draft.unsuggested` takes it out: values that agree in
all other members give the same draft then (`draftOf?_unsuggested_congr`), and no record depends on
that field (`recordsOf_unsuggested`).
-/

namespace ThreatModel

/-! ### Values that differ in one member -/

namespace Json

/-- Two values that are the same but for the member of one name, which may differ or be missing. -/
inductive AgreeExcept (key : String) : Json → Json → Prop
  | refl (x : Json) : AgreeExcept key x x
  | object {ms ns : List (String × Json)} (h : ∀ k, k ≠ key → member? ms k = member? ns k) :
      AgreeExcept key (.object ms) (.object ns)

variable {key : String} {x y : Json}

theorem AgreeExcept.field?_eq (h : AgreeExcept key x y) {k : String} (hk : k ≠ key) :
    x.field? k = y.field? k := by
  cases h with
  | refl => rfl
  | object h => exact h k hk

end Json

namespace Reply

open Json (AgreeExcept)

variable {key : String} {x y : Json} {xs ys : List Json}

theorem member?_congr (h : AgreeExcept key x y) {names : List String} (hn : key ∉ names) :
    member? names x = member? names y := by
  have hfind : (names.findSome? fun n => x.field? n) = names.findSome? fun n => y.field? n := by
    induction names with
    | nil => rfl
    | cons n names ih =>
      rw [List.mem_cons, not_or] at hn
      rw [List.findSome?_cons, List.findSome?_cons, h.field?_eq (Ne.symm hn.1), ih hn.2]
  rw [member?, member?, hfind]

theorem text?_congr (h : AgreeExcept key x y) {names : List String} (hn : key ∉ names) :
    text? names x = text? names y := by
  rw [text?, text?, member?_congr h hn]

end Reply

/-! ### Drafts without a suggestion -/

/-- A draft without the severity that it suggests. -/
def Draft.unsuggested (d : Draft) : Draft := { d with suggestedSeverity := none }

@[simp] theorem Draft.baseId_unsuggested (d : Draft) : d.unsuggested.baseId = d.baseId := rfl

@[simp] theorem ThreatRecord.ofDraft_unsuggested (id : String) (d : Draft) :
    ofDraft id d.unsuggested = ofDraft id d := rfl

theorem identified_unsuggested (seen : List String) (ds : List Draft) :
    identified seen (ds.map Draft.unsuggested) =
      (identified seen ds).map fun p => (p.1, p.2.unsuggested) := by
  induction ds generalizing seen with
  | nil => rfl
  | cons d ds ih => simp [identified, ih]

/-- No record depends on a suggestion. -/
theorem recordsOf_unsuggested (ds : List Draft) :
    recordsOf (ds.map Draft.unsuggested) = recordsOf ds := by
  rw [recordsOf, identified_unsuggested, List.map_map]
  simp [recordsOf, Function.comp_def]

theorem register_congr_unsuggested {ds es : List Draft}
    (h : ds.map Draft.unsuggested = es.map Draft.unsuggested) : register ds = register es := by
  have hrecords : recordsOf ds = recordsOf es := by
    rw [← recordsOf_unsuggested ds, h, recordsOf_unsuggested]
  rw [register, register, hrecords]

namespace Reply

open Json (AgreeExcept)

variable {x y : Json} {xs ys : List Json}

/-- The suggestion is the only field of a draft that the member `severity` reaches. -/
theorem draftOfObject_unsuggested_congr (h : AgreeExcept "severity" x y) :
    (draftOfObject x).unsuggested = (draftOfObject y).unsuggested := by
  have htext {names : List String} (hn : "severity" ∉ names) : text? names x = text? names y :=
    text?_congr h hn
  have hmember {names : List String} (hn : "severity" ∉ names) :
      member? names x = member? names y := member?_congr h hn
  simp only [draftOfObject, Draft.unsuggested, cve?, Draft.mk.injEq]
  refine ⟨?_, ?_, ?_, ?_, ?_, ?_, ?_, ?_, ?_, ?_, ?_, ?_, ?_, trivial⟩
  all_goals first
    | rw [htext (by decide)]
    | rw [hmember (by decide)]

theorem draftOf?_unsuggested_congr (h : AgreeExcept "severity" x y) :
    (draftOf? x).map Draft.unsuggested = (draftOf? y).map Draft.unsuggested := by
  cases h with
  | refl => rfl
  | object h => exact congrArg some (draftOfObject_unsuggested_congr (.object h))

theorem filterMap_draftOf?_unsuggested_congr (h : List.Forall₂ (AgreeExcept "severity") xs ys) :
    (xs.filterMap draftOf?).map Draft.unsuggested =
      (ys.filterMap draftOf?).map Draft.unsuggested := by
  rw [List.map_filterMap, List.map_filterMap]
  induction h with
  | nil => rfl
  | cons hxy _ ih =>
    rw [List.filterMap_cons, List.filterMap_cons, draftOf?_unsuggested_congr hxy, ih]

end Reply

/-! ### Severities -/

namespace ThreatRecord

/-- A record is rated by the factors of a draft, and rating it once more changes nothing. -/
structure RatedBy (d : Draft) (r : ThreatRecord) : Prop where
  risk : r.risk = Rating.compute d.likelihood d.impact
  severity : r.severity = r.risk.severity
  derived : r.derivedSeverity = r.severity

theorem ratedBy_ofDraft (id : String) (d : Draft) : RatedBy d (ofDraft id d) where
  risk := rfl
  severity := rfl
  -- The factors of a rating are in range, so that bringing them into range changes nothing.
  derived := congrArg Rating.severity (Rating.clamped_compute d.likelihood d.impact)

end ThreatRecord

/-- **Severities are derived.** Every threat of a register is rated by the factors of its draft, and
what elements of a reply suggest as severity does not change the register of their drafts. -/
theorem severity_derived :
    (∀ ds : List Draft, ∃ rs, (register ds).Perm rs ∧ List.Forall₂ ThreatRecord.RatedBy ds rs) ∧
      ∀ (xs ys : List Json) (recovered : Bool),
        List.Forall₂ (Json.AgreeExcept "severity") xs ys →
          register (Reply.Outcome.ofElements xs recovered).drafts =
            register (Reply.Outcome.ofElements ys recovered).drafts := by
  constructor
  · intro ds
    refine ⟨recordsOf ds, register_perm ds, (forall₂_recordsOf ds).imp ?_⟩
    intro d r hr
    rw [hr]
    exact ThreatRecord.ratedBy_ofDraft r.id d
  · intro xs ys recovered h
    exact register_congr_unsuggested (Reply.filterMap_draftOf?_unsuggested_congr h)

/-- A severity that is raised, one that is no text, and one that is added as null. -/
theorem severity_derived_of_suggestions :
    register (Reply.Outcome.ofElements
        [.object [("title", .string "A"), ("severity", .string "Low")], .null,
          .object [("severity", .array [])], .object []] false).drafts =
      register (Reply.Outcome.ofElements
        [.object [("severity", .string "Critical"), ("title", .string "A")], .null,
          .object [("severity", .bool true)], .object [("severity", .null)]] false).drafts := by
  refine severity_derived.2 _ _ false (.cons (.object ?_) (.cons (.refl _) (.cons (.object ?_)
    (.cons (.object ?_) .nil))))
  all_goals
    intro k hk
    simp [Json.member?, Ne.symm hk, List.find?_cons]

end ThreatModel
