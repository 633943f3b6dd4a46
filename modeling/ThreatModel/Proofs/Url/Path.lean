import ThreatModel.Proofs.Text.Replacement
import ThreatModel.Proofs.Text.Separators
import ThreatModel.Proofs.Url.Host
import ThreatModel.Url.Basic

/-!
# Paths read back

The segments of a path hold no slash, nothing that would be encoded, and no points that would be
left out (`Path.isSettled_of_mem_pathOf`). A path that is written with such segments is read as
those segments (`Path.pathOf_intercalate`), and the name of a file goes on to be one when it gets an
extension (`Path.IsSettled.append_git`). The web takes a backslash for a slash, so that its segments
have none (`Path.backslash_notMem_of_mem_pathOf`).
-/

namespace ThreatModel.Url.Path

variable {c : Char} {cs s : List Char} {path segments : List (List Char)}

/-! ### Settled segments -/

/-- A segment that is kept as it is. -/
structure IsSettled (s : List Char) : Prop where
  kept : ∀ c ∈ s, isKept c = true
  slash : '/' ∉ s
  point : points s ≠ ".".toList
  points : points s ≠ "..".toList

theorem isSettled_nil : IsSettled [] where
  kept _ h := absurd h List.not_mem_nil
  slash := List.not_mem_nil
  point := by decide
  points := by decide

theorem points_append_git (s : List Char) :
    Path.points (s ++ ".git".toList) = Path.points s ++ ".git".toList := by
  have hgit : Text.replace "%2e".toList ['.'] "git".toList = "git".toList := by decide
  unfold Path.points
  rw [List.map_append]
  change Text.replace _ _ (s.map Char.toLower ++ '.' :: "git".toList) = _
  rw [Text.replace_append_cons (by decide), hgit]
  rfl

/-- A segment may be the name of a file with an extension. -/
theorem IsSettled.append_git (h : IsSettled s) : IsSettled (s ++ ".git".toList) where
  kept := by
    intro c hc
    rcases List.mem_append.1 hc with hc | hc
    · exact h.kept c hc
    · exact List.all_eq_true.1 (show ".git".toList.all isKept = true by decide) c hc
  slash := by
    rw [List.mem_append, not_or]
    exact ⟨h.slash, by decide⟩
  point := by
    rw [points_append_git]
    intro heq
    have := congrArg List.length heq
    simp at this
  points := by
    rw [points_append_git]
    intro heq
    have := congrArg List.length heq
    simp at this

/-! ### Adding segments -/

/-- The segments of a path with one added: those that were there, an empty one, or the added one. -/
theorem mem_add {isLast : Bool} {segment : List Char} (h : s ∈ add path isLast segment) :
    s ∈ path ∨ s = [] ∨
      s = segment ∧ points s ≠ ".".toList ∧ points s ≠ "..".toList := by
  have hclose {p : List (List Char)} (h : s ∈ if isLast = true then p ++ [[]] else p) :
      s ∈ p ∨ s = [] := by
    split_ifs at h
    · simpa using h
    · exact .inl h
  have hparent (h : s ∈ parent path) : s ∈ path := by
    unfold parent at h
    split_ifs at h
    · exact h
    · exact List.mem_of_mem_dropLast h
  unfold add at h
  dsimp only at h
  by_cases hpoint : points segment = ".".toList
  · rw [if_pos hpoint] at h
    exact (hclose h).imp_right .inl
  rw [if_neg hpoint] at h
  by_cases hpoints : points segment = "..".toList
  · rw [if_pos hpoints] at h
    exact (hclose h).imp hparent .inl
  rw [if_neg hpoints] at h
  rcases List.mem_append.1 h with h | h
  · exact .inl h
  · obtain rfl := List.mem_singleton.1 h
    exact .inr (.inr ⟨rfl, hpoint, hpoints⟩)

/-- The segments of a path with several added. -/
theorem mem_addAll (h : s ∈ addAll path segments) :
    s ∈ path ∨ s = [] ∨
      s ∈ segments ∧ points s ≠ ".".toList ∧ points s ≠ "..".toList := by
  fun_induction addAll path segments with
  | case1 => exact .inl h
  | case2 path w =>
    rcases mem_add h with h | h | ⟨rfl, hpoints⟩
    · exact .inl h
    · exact .inr (.inl h)
    · exact .inr (.inr ⟨List.mem_cons_self, hpoints⟩)
  | case3 path w r hr ih =>
    rcases ih h with h | h | ⟨h, hpoints⟩
    · rcases mem_add h with h | h | ⟨rfl, hpoints⟩
      · exact .inl h
      · exact .inr (.inl h)
      · exact .inr (.inr ⟨List.mem_cons_self, hpoints⟩)
    · exact .inr (.inl h)
    · exact .inr (.inr ⟨List.mem_cons_of_mem w h, hpoints⟩)

theorem add_of_isSettled (h : IsSettled s) (path : List (List Char)) (isLast : Bool) :
    add path isLast s = path ++ [s] := by
  rw [add, if_neg h.point, if_neg h.points]

theorem addAll_of_isSettled (h : ∀ s ∈ segments, IsSettled s) (path : List (List Char)) :
    addAll path segments = path ++ segments := by
  fun_induction addAll path segments with
  | case1 path => rw [List.append_nil]
  | case2 path w => rw [add_of_isSettled (h w List.mem_cons_self)]
  | case3 path w r hr ih =>
    rw [List.forall_mem_cons] at h
    rw [ih h.2, add_of_isSettled h.1, List.append_assoc]
    rfl

/-! ### Reading -/

theorem mem_ofText (h : s ∈ ofText cs) :
    s = [] ∨ (∃ w ∈ Text.splitOn '/' cs, s = Percent.encode isKept w) ∧
      points s ≠ ".".toList ∧ points s ≠ "..".toList := by
  rcases mem_addAll h with h | h | ⟨h, hpoints⟩
  · exact absurd h List.not_mem_nil
  · exact .inl h
  · obtain ⟨w, hw, rfl⟩ := List.mem_map.1 h
    exact .inr ⟨⟨w, hw, rfl⟩, hpoints⟩

theorem isSettled_of_mem_ofText (h : s ∈ ofText cs) : IsSettled s := by
  rcases mem_ofText h with rfl | ⟨⟨w, hw, rfl⟩, hpoint, hpoints⟩
  · exact isSettled_nil
  refine ⟨fun c hc => ?_, fun hslash => ?_, hpoint, hpoints⟩
  · rcases Percent.mem_of_mem_encode hc with ⟨-, hkept⟩ | rfl | halphanum
    · exact hkept
    · decide
    · exact Text.of_isAlphanum (P := (isKept · = true)) (by decide +kernel) halphanum
  · rcases Percent.mem_of_mem_encode hslash with ⟨hmem, -⟩ | h | h
    · exact Text.notMem_of_mem_splitOn hw hmem
    · exact absurd h (by decide)
    · exact absurd h (by decide)

theorem backslash_notMem_of_mem_ofText (hcs : '\\' ∉ cs) (h : s ∈ ofText cs) : '\\' ∉ s := by
  rcases mem_ofText h with rfl | ⟨⟨w, hw, rfl⟩, -, -⟩
  · exact List.not_mem_nil
  intro hmem
  rcases Percent.mem_of_mem_encode hmem with ⟨hmem, -⟩ | h | h
  · exact hcs (Text.mem_of_mem_splitOn hw hmem)
  · exact absurd h (by decide)
  · exact absurd h (by decide)

/-- **Settled segments are read as they are.** -/
theorem ofText_intercalate (h : ∀ s ∈ segments, IsSettled s) (hne : segments ≠ []) :
    ofText (['/'].intercalate segments) = segments := by
  have hencode : segments.map (Percent.encode isKept) = segments :=
    (List.map_congr_left fun s hs => Percent.encode_of_keep (h s hs).kept).trans (List.map_id _)
  rw [ofText, Text.splitOn_intercalate (fun s hs => (h s hs).slash) hne, hencode,
    addAll_of_isSettled h, List.nil_append]

/-! ### Paths of URLs -/

/-- The text of a path, with the backslashes of the web turned. -/
def turned (web : Bool) (cs : List Char) : List Char :=
  if web then cs.map fun c => if c = '\\' then '/' else c else cs

theorem backslash_notMem_turned (cs : List Char) : '\\' ∉ turned true cs := by
  intro hmem
  obtain ⟨d, -, hd⟩ := List.mem_map.1 hmem
  split_ifs at hd with hslash
  · exact absurd hd (by decide)
  · exact hslash hd

theorem turned_of_notMem (web : Bool) (h : '\\' ∉ cs) : turned web cs = cs := by
  unfold turned
  split_ifs
  · refine (List.map_congr_left fun c hc => ?_).trans (List.map_id _)
    exact if_neg (ne_of_mem_of_not_mem hc h)
  · rfl

theorem pathOf_eq (web : Bool) (cs : List Char) :
    pathOf web cs = match turned web (cs.takeWhile fun c => c != '?' && c != '#') with
      | [] => if web then [[]] else []
      | '/' :: r => ofText r
      | r => ofText r := rfl

theorem mem_pathOf {web : Bool} (h : s ∈ pathOf web cs) :
    s = [] ∨ ∃ r, s ∈ ofText r ∧ (web = true → '\\' ∉ r) := by
  have hback : web = true → '\\' ∉ turned web (cs.takeWhile fun c => c != '?' && c != '#') := by
    rintro rfl
    exact backslash_notMem_turned _
  rw [pathOf_eq] at h
  split at h
  next =>
    split_ifs at h
    · exact .inl (List.mem_singleton.1 h)
    · exact absurd h List.not_mem_nil
  next r heq =>
    rw [heq] at hback
    exact .inr ⟨r, h, fun hweb hmem => hback hweb (List.mem_cons_of_mem _ hmem)⟩
  next => exact .inr ⟨_, h, hback⟩

theorem isSettled_of_mem_pathOf {web : Bool} (h : s ∈ pathOf web cs) : IsSettled s := by
  rcases mem_pathOf h with rfl | ⟨r, hr, -⟩
  · exact isSettled_nil
  · exact isSettled_of_mem_ofText hr

theorem backslash_notMem_of_mem_pathOf (h : s ∈ pathOf true cs) : '\\' ∉ s := by
  rcases mem_pathOf h with rfl | ⟨r, hr, hback⟩
  · exact List.not_mem_nil
  · exact backslash_notMem_of_mem_ofText (hback rfl) hr

/-- **Paths are read back**, if they have no backslash. -/
theorem pathOf_intercalate (web : Bool) (h : ∀ s ∈ segments, IsSettled s ∧ '\\' ∉ s) (hne : segments ≠ []) :
    pathOf web ('/' :: ['/'].intercalate segments) = segments := by
  have hmem {d : Char} (hslash : d ≠ '/') (hd : d ∈ '/' :: ['/'].intercalate segments) :
      ∃ s ∈ segments, d ∈ s := by
    rcases List.mem_cons.1 hd with rfl | hd
    · exact absurd rfl hslash
    · exact (Text.mem_intercalate_iff hslash).1 hd
  have hnot {d : Char} (hslash : d ≠ '/') (hkept : isKept d = false) :
      d ∉ '/' :: ['/'].intercalate segments := by
    intro hd
    obtain ⟨s, hs, hd⟩ := hmem hslash hd
    exact absurd ((h s hs).1.kept d hd) (by rw [hkept]; exact Bool.false_ne_true)
  have hwhole : ('/' :: ['/'].intercalate segments).takeWhile (fun c => c != '?' && c != '#') =
      '/' :: ['/'].intercalate segments := by
    refine List.takeWhile_eq_self_iff.2 fun c hc => ?_
    rw [Bool.and_eq_true, bne_iff_ne, bne_iff_ne]
    exact ⟨ne_of_mem_of_not_mem hc (hnot (by decide) (by decide)),
      ne_of_mem_of_not_mem hc (hnot (by decide) (by decide))⟩
  have hturned : turned web ('/' :: ['/'].intercalate segments) =
      '/' :: ['/'].intercalate segments := by
    refine turned_of_notMem web fun hback => ?_
    obtain ⟨s, hs, hback⟩ := hmem (by decide) hback
    exact (h s hs).2 hback
  rw [pathOf_eq, hwhole, hturned]
  exact ofText_intercalate (fun s hs => (h s hs).1) hne

end ThreatModel.Url.Path
