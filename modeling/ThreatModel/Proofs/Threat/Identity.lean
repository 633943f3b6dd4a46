import ThreatModel.Proofs.Text.Bytes
import ThreatModel.Proofs.Text.Separators
import ThreatModel.Proofs.Text.Splitting
import ThreatModel.Threat.Identity

/-!
# What the identity of a threat tells

The identity of a threat is its title, its category and its trust boundary with a bar between them.
Titles and boundaries may hold bars, so one text can be the identity of different threats: with
its two bars taken further to the right, a part of the boundary goes to the title
(`Draft.IsShiftOf`). That is the only way (`identity_eq_iff`), because no category holds a bar. Such
threats share their base id whatever the digest is; all others that share one have different
identities with digests that begin alike (`Digest.Collide`).
-/

namespace ThreatModel

/-- Different bytes whose digests begin with the digits of one id. -/
def Digest.Collide (x y : List UInt8) : Prop :=
  x ≠ y ∧ (hexText (sha256 x)).take Draft.idDigits = (hexText (sha256 y)).take Draft.idDigits

namespace Draft

variable {a b : Draft}

/-- Drafts that agree in what identifies a threat. -/
structure SameThreat (a b : Draft) : Prop where
  title : a.title = b.title
  category : a.category = b.category
  boundary : a.boundary = b.boundary

/-- The bars of `b` stand further to the right in a text that is also the identity of `a`: the title
of `b` goes on behind the category of `a`, up to a bar in the boundary of `a`, and the category and
the boundary of `b` are the rest of that boundary. -/
def IsShiftOf (b a : Draft) : Prop :=
  ∃ w, b.title ++ "|" = a.title ++ "|" ++ a.category.name ++ "|" ++ w ∧
    a.boundary = w ++ b.category.name ++ "|" ++ b.boundary

theorem bar_notMem_name (c : Stride) : '|' ∉ c.name.toList := by cases c <;> decide

theorem toList_identity (d : Draft) :
    d.identity.toList =
      d.title.toList ++ '|' :: (d.category.name.toList ++ '|' :: d.boundary.toList) := by
  simp [identity]

/-- Shifts of lists of characters. -/
theorem isShiftOf_iff :
    b.IsShiftOf a ↔ ∃ w, b.title.toList ++ ['|'] =
        a.title.toList ++ '|' :: (a.category.name.toList ++ '|' :: w) ∧
      a.boundary.toList = w ++ (b.category.name.toList ++ '|' :: b.boundary.toList) := by
  constructor
  · rintro ⟨w, htitle, hboundary⟩
    exact ⟨w.toList, by simpa using congrArg String.toList htitle, by simp [hboundary]⟩
  · rintro ⟨w, htitle, hboundary⟩
    refine ⟨String.ofList w, String.toList_inj.1 ?_, String.toList_inj.1 ?_⟩
    · simpa using htitle
    · simpa using hboundary

/-- A shift takes a bar of the boundary to the title. -/
theorem IsShiftOf.bar_mem (h : b.IsShiftOf a) :
    '|' ∈ b.title.toList ∧ '|' ∈ a.boundary.toList := by
  obtain ⟨w, htitle, hboundary⟩ := isShiftOf_iff.1 h
  constructor
  · -- Of the two bars in front of the boundary one is behind the title.
    have hcount := congrArg (List.count '|') htitle
    simp only [List.count_append, List.count_cons_self, List.count_nil] at hcount
    exact List.count_pos_iff.1 (by omega)
  · rw [hboundary]
    simp

theorem IsShiftOf.identity_eq (h : b.IsShiftOf a) : a.identity = b.identity := by
  obtain ⟨w, htitle, hboundary⟩ := isShiftOf_iff.1 h
  refine String.toList_inj.1 ?_
  rw [toList_identity, toList_identity, hboundary]
  have hsplit : b.title.toList ++ '|' :: (b.category.name.toList ++ '|' :: b.boundary.toList) =
      b.title.toList ++ ['|'] ++ (b.category.name.toList ++ '|' :: b.boundary.toList) := by
    simp
  rw [hsplit, htitle]
  simp

theorem SameThreat.symm (h : SameThreat a b) : SameThreat b a :=
  ⟨h.title.symm, h.category.symm, h.boundary.symm⟩

theorem SameThreat.identity_eq (h : SameThreat a b) : a.identity = b.identity := by
  rw [identity, identity, h.title, h.category, h.boundary]

/-- Of two drafts with one identity, the one with the longer title is a shift of the other. -/
theorem sameThreat_or_isShiftOf (h : a.identity = b.identity)
    (hlen : a.title.toList.length ≤ b.title.toList.length) :
    SameThreat a b ∨ b.IsShiftOf a := by
  have hlist := congrArg String.toList h
  rw [toList_identity, toList_identity] at hlist
  have hprefix : a.title.toList <+:
      b.title.toList ++ '|' :: (b.category.name.toList ++ '|' :: b.boundary.toList) :=
    hlist ▸ List.prefix_append _ _
  obtain ⟨r, hr⟩ := List.prefix_of_prefix_length_le hprefix (List.prefix_append _ _) hlen
  rw [← hr, List.append_assoc] at hlist
  have hrest := List.append_cancel_left hlist
  cases r with
  | nil =>
    have hparts := congrArg (Text.splitFirst? '|') (List.cons.inj hrest).2
    rw [Text.splitFirst?_append (bar_notMem_name _), Text.splitFirst?_append (bar_notMem_name _),
      Option.some.injEq, Prod.mk.injEq] at hparts
    rw [List.append_nil] at hr
    exact .inl ⟨String.toList_inj.1 hr, Stride.name_inj (String.toList_inj.1 hparts.1),
      String.toList_inj.1 hparts.2⟩
  | cons c r =>
    obtain ⟨rfl, htail⟩ := List.cons.inj hrest
    obtain ⟨w, hw, hboundary⟩ := Text.exists_of_append_cons_eq (bar_notMem_name a.category) htail
    refine .inr (isShiftOf_iff.2 ⟨w, ?_, hboundary⟩)
    rw [← hr, ← hw]
    simp

/-- An id is the beginning of a digest. -/
theorem baseId_eq_iff : a.baseId = b.baseId ↔
    utf8Bytes a.identity = utf8Bytes b.identity ∨
      Digest.Collide (utf8Bytes a.identity) (utf8Bytes b.identity) := by
  rw [baseId, baseId, String.append_right_inj, String.ofList_inj]
  by_cases h : utf8Bytes a.identity = utf8Bytes b.identity
  · simp [h]
  · simp [h, Digest.Collide]

/-- **Two threats have one identity only as shifts of each other.** Equal bytes go to the digest for
drafts that agree in title, category and boundary, and for drafts of which one is a shift of the
other, which takes a bar in a title and one in a boundary; for all others that have one base id, the
digests of different bytes begin alike. -/
theorem identity_eq_iff (a b : Draft) :
    (utf8Bytes a.identity = utf8Bytes b.identity ↔
        SameThreat a b ∨ b.IsShiftOf a ∨ a.IsShiftOf b) ∧
      (b.IsShiftOf a → '|' ∈ b.title.toList ∧ '|' ∈ a.boundary.toList) ∧
      (a.baseId = b.baseId ↔ SameThreat a b ∨ b.IsShiftOf a ∨ a.IsShiftOf b ∨
        Digest.Collide (utf8Bytes a.identity) (utf8Bytes b.identity)) := by
  have hbytes : utf8Bytes a.identity = utf8Bytes b.identity ↔
      SameThreat a b ∨ b.IsShiftOf a ∨ a.IsShiftOf b := by
    rw [utf8Bytes_inj]
    constructor
    · intro h
      rcases Nat.le_total a.title.toList.length b.title.toList.length with hlen | hlen
      · exact (sameThreat_or_isShiftOf h hlen).imp_right .inl
      · exact (sameThreat_or_isShiftOf h.symm hlen).imp SameThreat.symm .inr
    · rintro (h | h | h)
      · exact h.identity_eq
      · exact h.identity_eq
      · exact h.identity_eq.symm
  refine ⟨hbytes, IsShiftOf.bar_mem, ?_⟩
  rw [baseId_eq_iff, hbytes, or_assoc, or_assoc]

/-- A title that ends in a category takes it from the boundary of another threat. -/
theorem identity_eq_of_category_in_title :
    let a : Draft := { (default : Draft) with
      title := "Spoofed login", category := .spoofing, boundary := "Tampering|Internal Network" }
    let b : Draft := { (default : Draft) with
      title := "Spoofed login|Spoofing", category := .tampering, boundary := "Internal Network" }
    b.IsShiftOf a ∧ utf8Bytes a.identity = utf8Bytes b.identity ∧ '|' ∈ b.title.toList := by
  intro a b
  have hshift : b.IsShiftOf a := ⟨"", by decide, by decide⟩
  obtain ⟨hbytes, hbar, -⟩ := identity_eq_iff a b
  exact ⟨hshift, hbytes.2 (.inr (.inl hshift)), (hbar hshift).1⟩

/-- Equal identities do not make one threat. -/
theorem not_sameThreat_of_identity_eq :
    let a : Draft := { (default : Draft) with
      title := "Spoofed login", category := .spoofing, boundary := "Tampering|Internal Network" }
    let b : Draft := { (default : Draft) with
      title := "Spoofed login|Spoofing", category := .tampering, boundary := "Internal Network" }
    utf8Bytes a.identity = utf8Bytes b.identity ∧ a.title ≠ b.title ∧ a.category ≠ b.category ∧
      a.boundary ≠ b.boundary ∧
      ¬ ∀ a b : Draft, utf8Bytes a.identity = utf8Bytes b.identity → SameThreat a b := by
  intro a b
  have hbytes : utf8Bytes a.identity = utf8Bytes b.identity := congrArg utf8Bytes (by decide)
  have htitle : a.title ≠ b.title := by decide
  exact ⟨hbytes, htitle, by decide, by decide, fun h => htitle (h a b hbytes).title⟩

end Draft

end ThreatModel
