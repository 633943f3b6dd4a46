import ThreatModel.Proofs.Source.Locator

/-!
# Normal URLs name a repository

A text that locates a repository has a normal URL `https://host/group/…/name.git`, with at least one
group in front of the name, and every other text is refused with itself in the error. The name is
not looked at once its extension is off: if the last segment of the path is nothing but the
extension, the name is empty, and `normalUrl_names_iff` says that it is empty only then.

There is one way to read the name off a normal URL (`Names.unique`), so that a URL with an empty
name cannot be read with another one.
-/

namespace ThreatModel.Locator

variable {segments groups : List (List Char)} {last name url : List Char}

/-! ### The last segment -/

/-- The extension at the end of a path is in its last segment. -/
theorem suffix_last_of_suffix (hgroups : groups ≠ [])
    (h : ".git".toList <:+ ['/'].intercalate (groups ++ [last])) : ".git".toList <:+ last := by
  have hslash : '/' ∉ ".git".toList := by decide
  rw [Text.intercalate_concat hgroups] at h
  exact Text.suffix_of_suffix_append_cons hslash h

/-- The last segment becomes the extension alone only if it is that already. -/
theorem getLast?_gitSegments_iff (hne : ∀ s ∈ segments, s ≠ []) :
    (gitSegments segments).getLast? = some ".git".toList ↔
      segments.getLast? = some ".git".toList := by
  rcases List.eq_nil_or_concat' segments with rfl | ⟨front, last, rfl⟩
  · exact Iff.rfl
  by_cases hgit : ".git".toList <:+ ['/'].intercalate (front ++ [last])
  · rw [gitSegments_of_suffix hgit]
  · have hlast : last ≠ [] := hne last (List.mem_append_right front List.mem_cons_self)
    rw [gitSegments, if_neg hgit, List.modifyLast_concat, List.getLast?_concat,
      List.getLast?_concat, Option.some.injEq, Option.some.injEq]
    refine iff_of_false (fun h => hlast (List.append_left_eq_self.1 h)) ?_
    rintro rfl
    exact hgit (Text.suffix_intercalate_concat front _)

/-! ### Names -/

/-- A URL `https://host/group/…/name.git`, perhaps with a port behind the host: it is written in
parts, and the last segment is the name with the extension. -/
def Names (url name : List Char) : Prop :=
  ∃ p : Parts, p.text = url ∧ ∃ groups, p.segments = groups ++ [name ++ ".git".toList]

namespace Parts

variable (p : Parts)

theorem slash_notMem : ∀ s ∈ p.segments, '/' ∉ s := fun s hs => (p.settled s hs).2.slash

/-- The segments of a normal URL are read off in one way. -/
theorem segments_eq_of_text_eq {q : Parts} (h : p.text = q.text) : p.segments = q.segments := by
  have hpath := (p.eq_of_text_eq_written q.isHostChar h).2.2
  rw [← Text.splitOn_intercalate p.slash_notMem p.segments_ne_nil, hpath,
    Text.splitOn_intercalate q.slash_notMem q.segments_ne_nil]

/-- Every normal URL has a name, if only an empty one. -/
theorem exists_name : ∃ groups name, p.segments = groups ++ [name ++ ".git".toList] := by
  obtain ⟨groups, last, hsegments⟩ :=
    (List.eq_nil_or_concat' p.segments).resolve_left p.segments_ne_nil
  have hlen := p.two_le
  have hgit := p.git
  rw [hsegments] at hlen hgit
  have hgroups : groups ≠ [] := by
    rintro rfl
    rw [List.nil_append, List.length_singleton] at hlen
    exact absurd hlen (by decide)
  obtain ⟨name, hname⟩ := suffix_last_of_suffix hgroups hgit
  exact ⟨groups, name, by rw [hsegments, hname]⟩

end Parts

theorem Names.unique {other : List Char} (h : Names url name) (h' : Names url other) :
    other = name := by
  obtain ⟨p, hp, groups, hsegments⟩ := h
  obtain ⟨q, hq, groups', hsegments'⟩ := h'
  have heq := p.segments_eq_of_text_eq (hp.trans hq.symm)
  rw [hsegments, hsegments'] at heq
  have hlast := List.append_inj_right' heq rfl
  exact (List.append_cancel_right (List.cons.inj hlast).1).symm

/-- What is read and not refused has a normal URL, whose name is empty only if the path ends in a
segment that is nothing but the extension. -/
theorem exists_names {u : Url} {out : List Char} (hu : u.WellFormed) (h : ofUrl u = .ok out) :
    ∃ name, Names out name ∧
      (name = [] ↔ (u.path.filter (!·.isEmpty)).getLast? = some ".git".toList) := by
  obtain ⟨p, hp, -, -, hsegments⟩ := exists_parts_of_segments hu h
  obtain ⟨groups, name, hname⟩ := p.exists_name
  refine ⟨name, ⟨p, hp.symm, groups, hname⟩, ?_⟩
  have hne : ∀ s ∈ u.path.filter (!·.isEmpty), s ≠ [] := by
    intro s hs
    simpa using (List.mem_filter.1 hs).2
  rw [← getLast?_gitSegments_iff hne, ← hsegments, hname, List.getLast?_concat, Option.some.injEq]
  exact List.append_left_eq_self.symm

/-! ### Locators -/

theorem exists_url_of_normalUrl {raw url : String} (h : normalUrl raw = .ok url) :
    ∃ text u, spelledOut (Text.trim raw.toList) = .ok text ∧ Url.ofText text = .ok u ∧
      u.WellFormed ∧ ofUrl u = .ok url.toList := by
  obtain ⟨-, text, u, htext, hread, hout⟩ := normal_eq_ok_iff.1 (normalUrl_eq_ok_iff.1 h)
  have hscheme := (ofUrl_eq_ok_iff.1 hout).1
  have hfile : u.scheme ≠ "file" := by
    intro hfile
    rw [hfile] at hscheme
    exact absurd hscheme (by decide)
  exact ⟨text, u, htext, hread, Url.wellFormed_of_ofText hread hfile, hout⟩

/-- A text that is refused stands in the error as it is, with the blanks around it. -/
theorem exists_reason_of_normalUrl {raw : String} {e : CollectionError}
    (h : normalUrl raw = .error e) : ∃ reason, e = .invalidLocator raw reason := by
  unfold normalUrl at h
  split at h
  next => cases h
  next reason _ =>
    cases h
    exact ⟨reason, rfl⟩

/-- **A normal URL names an owner and a repository, unless the locator has no name.** Every text has
a normal URL of this form or is refused with itself in the error. The name that can be read off the
URL is empty just when the path of the locator ends in a segment that is nothing but `.git`. -/
theorem normalUrl_names_iff (raw : String) :
    match normalUrl raw with
    | .error e => ∃ reason, e = .invalidLocator raw reason
    | .ok url => ∃ name, Names url.toList name ∧ (∀ other, Names url.toList other → other = name) ∧
        ∃ text u, spelledOut (Text.trim raw.toList) = .ok text ∧ Url.ofText text = .ok u ∧
          (name = [] ↔ (u.path.filter (!·.isEmpty)).getLast? = some ".git".toList) := by
  cases hraw : normalUrl raw with
  | error e => exact exists_reason_of_normalUrl hraw
  | ok url =>
    obtain ⟨text, u, htext, hread, hu, hout⟩ := exists_url_of_normalUrl hraw
    obtain ⟨name, hname, hempty⟩ := exists_names hu hout
    exact ⟨name, hname, fun _ => hname.unique, text, u, htext, hread, hempty⟩

/-- An owner with the extension alone behind it is taken for a repository. -/
theorem normalUrl_without_name :
    normalUrl "https://github.com/o/.git" = .ok "https://github.com/o/.git" ∧
      Names "https://github.com/o/.git".toList [] ∧
      ¬ ∀ raw url, normalUrl raw = .ok url → ∃ name, name ≠ [] ∧ Names url.toList name := by
  have hurl : normalUrl "https://github.com/o/.git" = .ok "https://github.com/o/.git" := by
    decide +kernel
  let p : Parts :=
    { host := "github.com".toList
      port? := none
      segments := ["o".toList, ".git".toList]
      isHostChar := Text.forall_mem_of_all (by decide)
      toLower_host := by decide
      domain := .inl (by decide)
      port_le := fun _ h => by cases h
      two_le := by decide
      settled := by
        have howner : Url.Path.IsSettled "o".toList :=
          ⟨Text.forall_mem_of_all (by decide), by decide, by decide, by decide⟩
        have hgit : Url.Path.IsSettled ".git".toList := Url.Path.isSettled_nil.append_git
        intro s hs
        rcases List.mem_pair.1 hs with rfl | rfl
        · exact ⟨by decide, howner⟩
        · exact ⟨by decide, hgit⟩
      git := by decide }
  have hname : Names "https://github.com/o/.git".toList [] :=
    ⟨p, by decide, ["o".toList], rfl⟩
  refine ⟨hurl, hname, fun h => ?_⟩
  obtain ⟨name, hne, hother⟩ := h _ _ hurl
  exact hne (hname.unique hother)

end ThreatModel.Locator
