import Mathlib
import ThreatModel.Proofs.List.KeySort
import ThreatModel.Source.Walk

/-!
# Listing file trees

Everything below a directory, nothing left out: `Tree.listing` goes depth first through the entries
in the order of their names, and a directory stands in front of what it holds. It lists exactly what
names lead to (`mem_listing_iff`). Where the entries of a directory have different names, it lists
them in the lexicographic order of these names (`pairwise_listing`), and no other list does both
(`eq_listing`).

`Tree.sources` leaves out what no analysis looks at, by the names that lead to a file. A walk turns
back at a directory that it does not enter, and finds the same files (`eligible_directory`).
-/

namespace ThreatModel

/-- A property of trees holds if a directory has it whenever all of its entries have it. -/
@[elab_as_elim]
theorem Tree.entriesInduction {P : Tree → Prop} (file : ∀ size text?, P (.file size text?))
    (link : ∀ target, P (.link target))
    (directory : ∀ es : List (String × Tree), (∀ e ∈ es, P e.2) → P (.directory es)) :
    ∀ t, P t :=
  Tree.rec (motive_2 := fun es => ∀ e ∈ es, P e.2) (motive_3 := fun e => P e.2)
    file link directory (by simp)
    (fun _ _ he hes => List.forall_mem_cons.2 ⟨he, hes⟩) (fun _ _ ht => ht)

/-! ### Listings -/

/-- Lists by the name of the entry they come from, put together in the order of the names. -/
def joinedByName {α : Type*} (xs : List (String × List α)) : List α :=
  (xs.mergeSort fun a b => decide (a.1 ≤ b.1)).flatMap (·.2)

mutual

/-- Everything below a tree with the names that lead there, depth first. -/
def Tree.listing : Tree → List (List String × Tree)
  | .directory es => joinedByName (Tree.listings es)
  | _ => []

/-- The entries of a directory, each in front of everything below it, by the names of the
entries. -/
def Tree.listings : List (String × Tree) → List (String × List (List String × Tree))
  | [] => []
  | (name, t) :: es =>
    (name, ([name], t) :: t.listing.map fun x => (name :: x.1, x.2)) :: Tree.listings es

end

/-- An entry in front of everything below it. -/
def listed (e : String × Tree) : List (List String × Tree) :=
  ([e.1], e.2) :: e.2.listing.map fun x => (e.1 :: x.1, x.2)

/-- The entries of a directory in the order of their names. -/
def byName (es : List (String × Tree)) : List (String × Tree) :=
  es.mergeSort fun a b => decide (a.1 ≤ b.1)

theorem mem_byName {es : List (String × Tree)} {e : String × Tree} : e ∈ byName es ↔ e ∈ es :=
  List.mem_mergeSort

theorem joinedByName_map {α : Type*} (g : String × Tree → List α) (es : List (String × Tree)) :
    joinedByName (es.map fun e => (e.1, g e)) = (byName es).flatMap g := by
  have hsort := List.map_mergeSort (f := fun e : String × Tree => (e.1, g e)) (l := es)
    (r := fun a b => decide (a.1 ≤ b.1)) (s := fun a b => decide (a.1 ≤ b.1)) fun _ _ _ _ => rfl
  rw [joinedByName, byName, ← hsort, List.flatMap_map]

theorem listings_eq_map (es : List (String × Tree)) :
    Tree.listings es = es.map fun e => (e.1, listed e) := by
  induction es with
  | nil => rfl
  | cons e es ih => rw [Tree.listings, ih, List.map_cons, listed]

theorem listing_directory (es : List (String × Tree)) :
    (Tree.directory es).listing = (byName es).flatMap listed := by
  rw [Tree.listing, listings_eq_map, joinedByName_map]

/-! ### What is listed -/

/-- The names lead from one tree down to another. -/
inductive Tree.Leads : Tree → List String → Tree → Prop where
  | here (t : Tree) : Leads t [] t
  | entry {es : List (String × Tree)} {name : String} {t u : Tree} {names : List String} :
      (name, t) ∈ es → Leads t names u → Leads (.directory es) (name :: names) u

theorem Tree.leads_nil_iff {t u : Tree} : t.Leads [] u ↔ u = t := by
  constructor
  · rintro ⟨⟩
    rfl
  · rintro rfl
    exact .here u

theorem mem_listed_iff {e : String × Tree} {names : List String} {u : Tree}
    (ih : ∀ names u, (names, u) ∈ e.2.listing ↔ names ≠ [] ∧ e.2.Leads names u) :
    (names, u) ∈ listed e ↔ ∃ rest, names = e.1 :: rest ∧ e.2.Leads rest u := by
  rw [listed, List.mem_cons, List.mem_map]
  constructor
  · rintro (h | ⟨⟨rest, v⟩, hmem, h⟩)
    · obtain ⟨rfl, rfl⟩ := Prod.mk.inj h
      exact ⟨[], rfl, .here _⟩
    · obtain ⟨rfl, rfl⟩ := Prod.mk.inj h
      exact ⟨rest, rfl, ((ih _ _).1 hmem).2⟩
  · rintro ⟨rest, rfl, hlead⟩
    by_cases hrest : rest = []
    · rw [hrest, Tree.leads_nil_iff] at hlead
      exact .inl (by rw [hrest, hlead])
    · exact .inr ⟨(rest, u), (ih _ _).2 ⟨hrest, hlead⟩, rfl⟩

/-- A listing holds what names lead to. -/
theorem mem_listing_iff (t : Tree) (names : List String) (u : Tree) :
    (names, u) ∈ t.listing ↔ names ≠ [] ∧ t.Leads names u := by
  induction t using Tree.entriesInduction generalizing names u with
  | file size text? =>
    refine iff_of_false (by simp [Tree.listing]) ?_
    rintro ⟨hne, ⟨⟩⟩
    exact hne rfl
  | link target =>
    refine iff_of_false (by simp [Tree.listing]) ?_
    rintro ⟨hne, ⟨⟩⟩
    exact hne rfl
  | directory es ih =>
    rw [listing_directory, List.mem_flatMap]
    constructor
    · rintro ⟨e, he, hmem⟩
      have hes := mem_byName.1 he
      obtain ⟨rest, rfl, hlead⟩ := (mem_listed_iff (ih e hes)).1 hmem
      exact ⟨List.cons_ne_nil _ _, .entry hes hlead⟩
    · rintro ⟨hne, h⟩
      cases h with
      | here => exact absurd rfl hne
      | @entry _ name t _ rest hes hlead =>
        exact ⟨(name, t), mem_byName.2 hes, (mem_listed_iff (ih _ hes)).2 ⟨rest, rfl, hlead⟩⟩

theorem ne_nil_of_mem_listing {t : Tree} {x : List String × Tree} (h : x ∈ t.listing) : x.1 ≠ [] :=
  ((mem_listing_iff t x.1 x.2).1 h).1

theorem head_of_mem_listed {e : String × Tree} {names : List String} {u : Tree}
    (h : (names, u) ∈ listed e) : ∃ rest, names = e.1 :: rest := by
  obtain ⟨rest, hrest, -⟩ := (mem_listed_iff (mem_listing_iff e.2)).1 h
  exact ⟨rest, hrest⟩

/-! ### The order of a listing -/

/-- In every directory the entries have different names. -/
def Tree.DistinctNames (t : Tree) : Prop :=
  ∀ names es, t.Leads names (.directory es) → (es.map (·.1)).Nodup

theorem Tree.DistinctNames.entry {es : List (String × Tree)}
    (h : (Tree.directory es).DistinctNames) {e : String × Tree} (he : e ∈ es) :
    e.2.DistinctNames :=
  fun names fs hlead => h (e.1 :: names) fs (.entry he hlead)

/-- Different names stand in strict order after sorting. -/
theorem pairwise_byName {es : List (String × Tree)} (h : (es.map (·.1)).Nodup) :
    (byName es).Pairwise fun a b => a.1 < b.1 := by
  have hkeys : ComparesBy (fun a b : String × Tree => decide (a.1 ≤ b.1)) (·.1) es :=
    fun _ _ _ _ => rfl
  have hle := pairwise_mergeSort_of_comparesBy hkeys
  have hnodup : ((byName es).map (·.1)).Nodup :=
    (((List.mergeSort_perm es _).map (·.1)).nodup_iff).2 h
  have hne : (byName es).Pairwise fun a b => a.1 ≠ b.1 := List.pairwise_map.1 hnodup
  exact (hle.and hne).imp fun h => lt_of_le_of_ne h.1 h.2

/-- A listing is in the lexicographic order of the names. -/
theorem pairwise_listing {t : Tree} (h : t.DistinctNames) :
    t.listing.Pairwise fun a b => a.1 < b.1 := by
  induction t using Tree.entriesInduction with
  | file size text? => exact List.Pairwise.nil
  | link target => exact List.Pairwise.nil
  | directory es ih =>
    rw [listing_directory, List.pairwise_flatMap]
    constructor
    · intro e he
      have hes := mem_byName.1 he
      rw [listed, List.pairwise_cons, List.pairwise_map]
      constructor
      · intro x hx
        obtain ⟨y, hy, rfl⟩ := List.mem_map.1 hx
        obtain ⟨b, l, hbl⟩ := List.exists_cons_of_ne_nil (ne_nil_of_mem_listing hy)
        rw [hbl]
        exact List.cons_lt_cons_iff.2 (.inr ⟨rfl, List.nil_lt_cons b l⟩)
      · exact (ih e hes (h.entry hes)).imp fun hlt => List.cons_lt_cons_iff.2 (.inr ⟨rfl, hlt⟩)
    · refine (pairwise_byName (h [] es (.here _))).imp ?_
      intro a b hlt x hx y hy
      obtain ⟨p, hp⟩ := head_of_mem_listed hx
      obtain ⟨q, hq⟩ := head_of_mem_listed hy
      rw [hp, hq]
      exact List.cons_lt_cons_iff.2 (.inl hlt)

/-- **Only one list** holds what names lead to, in their lexicographic order. -/
theorem eq_listing {t : Tree} (h : t.DistinctNames) {xs : List (List String × Tree)}
    (hmem : ∀ names u, (names, u) ∈ xs ↔ names ≠ [] ∧ t.Leads names u)
    (hxs : xs.Pairwise fun a b => a.1 < b.1) : xs = t.listing := by
  have hnodup {ys : List (List String × Tree)} (hys : ys.Pairwise fun a b => a.1 < b.1) :
      ys.Nodup := by
    refine hys.imp ?_
    rintro a _ hlt rfl
    exact List.lt_irrefl _ hlt
  have hsame (x : List String × Tree) : x ∈ xs ↔ x ∈ t.listing :=
    (hmem x.1 x.2).trans (mem_listing_iff t x.1 x.2).symm
  have hlisting := pairwise_listing h
  have hperm := (List.perm_ext_iff_of_nodup (hnodup hxs) (hnodup hlisting)).2 hsame
  refine hperm.eq_of_pairwise ?_ hxs hlisting
  intro a b _ _ hab hba
  exact absurd hba (List.lt_asymm hab)

/-! ### Sources -/

/-- Whether a name is looked at: one that is not hidden, or that holds configuration. -/
def isShown (name : String) : Bool := !name.startsWith "." || allowedHidden.contains name

/-- Whether a directory of this name is entered. -/
def isEntered (name : String) : Bool := isShown name && !excludedDirectories.contains name

/-- Whether a file that the names lead to is worth an analysis. -/
def leadsToSource (names : List String) : Bool :=
  names.dropLast.all isEntered &&
    names.getLast?.any fun name => isShown name && !isExcludedFile name

/-- A file of this path, if the tree is one. -/
def Tree.fileAt? (path : String) : Tree → Option SourceFile
  | .file size text? => some ⟨path, size, text?⟩
  | _ => none

/-- The file that the names lead to, if it is one and worth an analysis; `lead` stands in front of
its path. -/
def sourceAt? (lead : String) (x : List String × Tree) : Option SourceFile :=
  if leadsToSource x.1 then x.2.fileAt? (lead ++ "/".intercalate x.1) else none

/-- The files below a directory that are worth an analysis, depth first. -/
def Tree.sources (t : Tree) : List SourceFile := t.listing.filterMap (sourceAt? "")

/-- Sources are the files that names lead to, through directories that are entered. -/
theorem mem_sources_iff {t : Tree} {f : SourceFile} :
    f ∈ t.sources ↔ ∃ names u, t.Leads names u ∧ leadsToSource names ∧
      u.fileAt? ("/".intercalate names) = some f := by
  rw [Tree.sources, List.mem_filterMap]
  constructor
  · rintro ⟨⟨names, u⟩, hmem, hf⟩
    rw [sourceAt?, Option.ite_none_right_eq_some, String.empty_append] at hf
    exact ⟨names, u, ((mem_listing_iff t names u).1 hmem).2, hf.1, hf.2⟩
  · rintro ⟨names, u, hlead, hnames, hf⟩
    have hne : names ≠ [] := by
      rintro rfl
      exact absurd hnames (by decide)
    refine ⟨(names, u), (mem_listing_iff t names u).2 ⟨hne, hlead⟩, ?_⟩
    rw [sourceAt?, if_pos hnames, String.empty_append, hf]

theorem leadsToSource_cons {name : String} {names : List String} (h : names ≠ []) :
    leadsToSource (name :: names) = (isEntered name && leadsToSource names) := by
  rw [leadsToSource, leadsToSource, List.dropLast_cons_of_ne_nil h, List.all_cons,
    List.getLast?_cons_of_ne_nil h, Bool.and_assoc]

theorem sourceAt?_cons (lead name : String) {names : List String} (h : names ≠ []) (t : Tree) :
    sourceAt? lead (name :: names, t) =
      if isEntered name then sourceAt? (lead ++ name ++ "/") (names, t) else none := by
  have hpath : lead ++ "/".intercalate (name :: names) =
      lead ++ name ++ "/" ++ "/".intercalate names := by
    rw [String.intercalate_cons_of_ne_nil h]
    simp only [String.append_assoc]
  rw [sourceAt?, sourceAt?, leadsToSource_cons h, hpath]
  cases isEntered name <;> rfl

/-- There is no source below a directory that is not entered. -/
theorem filterMap_sourceAt?_cons (lead name : String) {xs : List (List String × Tree)}
    (h : ∀ x ∈ xs, x.1 ≠ []) :
    (xs.map fun x => (name :: x.1, x.2)).filterMap (sourceAt? lead) =
      if isEntered name then xs.filterMap (sourceAt? (lead ++ name ++ "/")) else [] := by
  rw [List.filterMap_map]
  have hcongr := List.filterMap_congr fun x hx => sourceAt?_cons lead name (h x hx) x.2
  refine hcongr.trans ?_
  cases isEntered name
  · exact List.filterMap_none xs
  · rfl

/-! ### Walks -/

/-- The files that a walk finds through an entry. -/
def filesThrough (lead : String) (e : String × Tree) : List SourceFile :=
  if !keepsEntry e.1 e.2 || (!e.2.isDirectory && isExcludedFile e.1) then []
  else e.2.eligibleAt (lead ++ e.1)

theorem eligibleIn_eq_map (lead : String) (es : List (String × Tree)) :
    Tree.eligibleIn lead es = es.map fun e => (e.1, filesThrough lead e) := by
  induction es with
  | nil => rfl
  | cons e es ih => rw [Tree.eligibleIn, ih, List.map_cons, filesThrough]

theorem inNameOrder_eligibleIn (lead : String) (es : List (String × Tree)) :
    inNameOrder (Tree.eligibleIn lead es) = (byName es).flatMap (filesThrough lead) := by
  rw [eligibleIn_eq_map]
  exact joinedByName_map (filesThrough lead) es

/-- Through an entry a walk finds its sources, if it does so below a directory. -/
theorem filesThrough_eq_filterMap (lead : String) (e : String × Tree)
    (ih : ∀ es, e.2 = .directory es →
      e.2.eligibleAt (lead ++ e.1) = e.2.listing.filterMap (sourceAt? (lead ++ e.1 ++ "/"))) :
    filesThrough lead e = (listed e).filterMap (sourceAt? lead) := by
  obtain ⟨name, t⟩ := e
  cases t with
  | file size text? =>
    have hsource : sourceAt? lead ([name], .file size text?) =
        if isShown name && !isExcludedFile name then some ⟨lead ++ name, size, text?⟩
        else none := by
      rw [sourceAt?, String.intercalate_singleton]
      rfl
    have hfiles : filesThrough lead (name, .file size text?) =
        if !isShown name || isExcludedFile name then [] else [⟨lead ++ name, size, text?⟩] := rfl
    have hlisted : listed (name, .file size text?) = [([name], .file size text?)] := rfl
    rw [hfiles, hlisted, List.filterMap_cons, hsource]
    cases isShown name <;> cases isExcludedFile name <;> rfl
  | link target =>
    simp [filesThrough, listed, Tree.listing, sourceAt?, Tree.eligibleAt, Tree.fileAt?]
  | directory es =>
    have hself : sourceAt? lead ([name], .directory es) = none := by
      simp [sourceAt?, Tree.fileAt?]
    have hkeeps : keepsEntry name (.directory es) = isEntered name := by
      rw [keepsEntry, isEntered, isShown, Tree.isDirectory, Bool.true_and, Bool.and_comm]
    rw [listed, List.filterMap_cons_none hself,
      filterMap_sourceAt?_cons lead name fun x hx => ne_nil_of_mem_listing hx, ← ih es rfl,
      filesThrough, hkeeps, Tree.isDirectory, Bool.not_true, Bool.false_and, Bool.or_false]
    cases isEntered name <;> rfl

theorem eligibleAt_directory (path : String) (es : List (String × Tree)) :
    (Tree.directory es).eligibleAt path =
      (Tree.directory es).listing.filterMap (sourceAt? (path ++ "/")) := by
  generalize ht : Tree.directory es = t
  induction t using Tree.entriesInduction generalizing path es with
  | file size text? => cases ht
  | link target => cases ht
  | directory fs ih =>
    rw [Tree.eligibleAt, inNameOrder_eligibleIn, listing_directory, List.filterMap_flatMap]
    refine List.flatMap_congr fun e he => ?_
    refine filesThrough_eq_filterMap (path ++ "/") e fun es hes => ?_
    exact ih e (mem_byName.1 he) _ es hes.symm

/-- **A walk finds the sources below a directory**, depth first. -/
theorem eligible_directory (es : List (String × Tree)) :
    (Tree.directory es).eligible = (Tree.directory es).sources := by
  rw [Tree.eligible, Tree.entries, inNameOrder_eligibleIn, Tree.sources, listing_directory,
    List.filterMap_flatMap]
  refine List.flatMap_congr fun e _ => ?_
  refine filesThrough_eq_filterMap "" e fun es hes => ?_
  rw [hes, eligibleAt_directory]

end ThreatModel
