import ThreatModel.Proofs.Source.Locator

/-!
# Spellings of a repository

A repository is written down as a path on a host, with or without the scheme of the web, or as a
path that the user `git` reaches through a tunnel, with `.git` or a slash at the end or without. All
of these come to one normal URL (`Repository.spellings_agree`).

Every spelling is spelled out as a URL of one of three schemes, and is read as the same host and
path: the web puts a host in lower case and looks at it as a domain, which letters always are, and a
tunnel leaves it as it is, so that it is put in lower case afterwards. What stands behind the path
adds an empty segment or changes the last one, and the normal URL has the same path without it
(`Repository.ReadsAs`).
-/

namespace ThreatModel

/-! ### Letters -/

/-- What starts with a letter is no number: no letter is a decimal digit, or a zero in front of
other digits. -/
theorem Url.addressPart?_of_isAlpha {c : Char} (h : c.isAlpha = true) (r : List Char) :
    addressPart? (c :: r) = none := by
  have hvalue : ((Text.hexValue? c).bind fun d => if d < 10 then some (10 * 0 + d) else none) =
      none :=
    Text.of_isAlpha
      (P := fun c => ((Text.hexValue? c).bind fun d => if d < 10 then some (10 * 0 + d) else none) =
        none)
      (by decide +kernel) h
  unfold addressPart?
  split
  next heq => cases heq
  next heq =>
    cases heq
    exact absurd h (by decide)
  next =>
    rw [numberOf?, List.foldlM_cons, hvalue]
    rfl

namespace Locator

/-! ### Repositories -/

/-- A repository: the labels of its host, made of letters, and the segments of its path. -/
structure Repository where
  labels : List (List Char)
  segments : List (List Char)
  two_le_labels : 2 ≤ labels.length
  letters : ∀ w ∈ labels, w ≠ [] ∧ ∀ c ∈ w, c.isAlpha = true
  two_le_segments : 2 ≤ segments.length
  plain : ∀ s ∈ segments, s ≠ [] ∧ ∀ c ∈ s, c.isAlphanum = true ∨ c = '-' ∨ c = '_'

namespace Repository

variable (r : Repository)

/-- The host of a repository. -/
def host : List Char := ['.'].intercalate r.labels

/-- The path of a repository on its host. -/
def path : List Char := ['/'].intercalate r.segments

/-- The spellings of a repository. -/
def spellings : List (List Char) :=
  (["", "http://", "https://"].flatMap fun lead => ["", "/", ".git"].map fun tail =>
    lead.toList ++ (r.host ++ '/' :: (r.path ++ tail.toList))) ++
  ["", ".git"].flatMap fun tail =>
    ["git@".toList ++ (r.host ++ ':' :: (r.path ++ tail.toList)),
      "ssh://git@".toList ++ (r.host ++ '/' :: (r.path ++ tail.toList))]

/-- The normal URL of a repository. -/
def url : List Char :=
  "https://".toList ++ (r.host.map Char.toLower ++ '/' :: (r.path ++ ".git".toList))

variable {r} {c : Char}

/-! ### Hosts of letters -/

theorem mem_host (hc : c ∈ r.host) : c.isAlpha = true ∨ c = '.' := by
  by_cases hdot : c = '.'
  · exact .inr hdot
  · obtain ⟨w, hw, hc⟩ := (Text.mem_intercalate_iff hdot).1 hc
    exact .inl ((r.letters w hw).2 c hc)

theorem labels_ne_nil : r.labels ≠ [] := by
  intro h
  have := r.two_le_labels
  rw [h] at this
  cases this

theorem splitOn_host : Text.splitOn '.' r.host = r.labels :=
  Text.splitOn_intercalate (fun w hw hdot => absurd ((r.letters w hw).2 _ hdot) (by decide))
    labels_ne_nil

theorem dot_mem_host : '.' ∈ r.host := by
  by_contra hdot
  -- Without a point there is one label only.
  have hlen := r.two_le_labels
  rw [← splitOn_host, Text.splitOn_eq, List.splitOn_eq_singleton hdot] at hlen
  cases hlen
  next h => cases h

theorem host_ne_nil : r.host ≠ [] := List.ne_nil_of_mem dot_mem_host

/-- What holds of the letters of ASCII and of points holds of the characters of a host. -/
theorem forall_mem_host {P : Char → Prop}
    (hall : ∀ n < 0x80, (Char.ofNat n).isAlpha = true ∨ Char.ofNat n = '.' → P (Char.ofNat n)) :
    ∀ c ∈ r.host, P c := by
  intro c hc
  rcases mem_host hc with halpha | rfl
  · exact Text.of_isAlpha (fun n hn h => hall n hn (.inl h)) halpha
  · exact hall 0x2E (by decide) (.inr rfl)

theorem notMem_host (halpha : c.isAlpha = false) (hdot : c ≠ '.') : c ∉ r.host := by
  intro hc
  rcases mem_host hc with h | h
  · rw [halpha] at h
    cases h
  · exact hdot h

/-- The labels of a host in lower case. -/
theorem splitOn_toLower_host :
    Text.splitOn '.' (r.host.map Char.toLower) = r.labels.map (List.map Char.toLower) := by
  rw [Text.splitOn_map (Idna.toLower_eq_iff (by decide)), splitOn_host]

theorem letters_toLower {w : List Char} (h : w ∈ r.labels.map (List.map Char.toLower)) :
    w ≠ [] ∧ ∀ c ∈ w, c.isAlpha = true := by
  obtain ⟨v, hv, rfl⟩ := List.mem_map.1 h
  obtain ⟨hne, halpha⟩ := r.letters v hv
  refine ⟨by simpa using hne, List.forall_mem_map.2 fun c hc => ?_⟩
  rw [Char.isAlpha_toLower_eq_isAlpha]
  exact halpha c hc

/-- Letters are plain in lower case, and no label of letters has the hyphens of an encoded one. -/
theorem toAscii?_host : Idna.toAscii? r.host = some (r.host.map Char.toLower) := by
  have hplain : ∀ c ∈ r.host.map Char.toLower, Idna.IsPlain c ∨ c = '.' :=
    List.forall_mem_map.2 <| forall_mem_host
      (P := fun c => Idna.IsPlain c.toLower ∨ c.toLower = '.') (by decide +kernel)
  have hlead : ∀ w ∈ Text.splitOn '.' (r.host.map Char.toLower), ¬ Idna.Label.lead <+: w := by
    intro w hw hlead
    rw [splitOn_toLower_host] at hw
    exact absurd ((letters_toLower hw).2 '-' (hlead.subset (by decide))) (by decide)
  rw [← Idna.toAscii?_map_toLower (forall_mem_host (P := fun c => c.toNat < 0x80) (by decide)),
    Idna.toAscii?_of_isPlain hplain hlead]

theorem not_endsInNumber_host : Url.endsInNumber (r.host.map Char.toLower) = false := by
  unfold Url.endsInNumber
  split
  next => rfl
  next w hw =>
    have hmem := Url.mem_splitOn_of_mem_nameParts (List.mem_of_getLast? hw)
    rw [splitOn_toLower_host] at hmem
    obtain ⟨hne, halpha⟩ := letters_toLower hmem
    obtain ⟨d, w, rfl⟩ := List.exists_cons_of_ne_nil hne
    have hd := halpha d List.mem_cons_self
    rw [Url.addressPart?_of_isAlpha hd, List.all_cons, Text.not_isDigit_of_isAlpha hd,
      Bool.false_and, Bool.and_false]
    rfl

/-- A host of letters is a domain, and no address. -/
theorem ofWeb_host : Url.Host.ofWeb r.host = .ok (.name (r.host.map Char.toLower)) := by
  have hne : (r.host.map Char.toLower).isEmpty = false := by simpa using host_ne_nil
  rw [Url.Host.ofWeb_of_notMem (notMem_host (by decide) (by decide))
    (notMem_host (by decide) (by decide)), toAscii?_host, Option.elim_some, Url.Host.ofDomain, hne,
    not_endsInNumber_host]
  rfl

theorem isHostChar_of_mem_host : ∀ c ∈ r.host, Url.IsHostChar c :=
  forall_mem_host (by decide +kernel)

/-- A tunnel leaves a host of letters as it is. -/
theorem ofOther_host : Url.Host.ofOther r.host = .ok (.name r.host) := by
  have hbrackets : Url.Host.ofBrackets? r.host = none := by
    unfold Url.Host.ofBrackets?
    split
    next h =>
      have hbracket : '[' ∈ r.host := h ▸ List.mem_cons_self
      exact absurd hbracket (notMem_host (by decide) (by decide))
    next => rfl
  have hforbidden : ¬ r.host.any Url.Host.isForbidden = true := by
    rw [List.any_eq_true]
    rintro ⟨c, hc, h⟩
    rw [forall_mem_host (P := fun c => Url.Host.isForbidden c = false) (by decide +kernel) c hc] at h
    cases h
  rw [Url.Host.ofOther, hbrackets, Option.getD_none, if_neg hforbidden,
    Url.Percent.encode_of_keep (forall_mem_host (by decide +kernel))]

/-! ### Paths -/

theorem segments_ne_nil : r.segments ≠ [] := by
  intro h
  have := r.two_le_segments
  rw [h] at this
  cases this

theorem mem_path (hc : c ∈ r.path) : c.isAlphanum = true ∨ c = '-' ∨ c = '_' ∨ c = '/' := by
  by_cases hslash : c = '/'
  · exact .inr (.inr (.inr hslash))
  · obtain ⟨s, hs, hc⟩ := (Text.mem_intercalate_iff hslash).1 hc
    rcases (r.plain s hs).2 c hc with h | h | h
    · exact .inl h
    · exact .inr (.inl h)
    · exact .inr (.inr (.inl h))

theorem isSettled_segment {s : List Char} (hs : s ∈ r.segments) :
    Url.Path.IsSettled s ∧ '\\' ∉ s ∧ '.' ∉ s := by
  obtain ⟨hne, hchars⟩ := r.plain s hs
  have hkept {c : Char} (hc : c.isAlphanum = true ∨ c = '-' ∨ c = '_') :
      Url.Path.isKept c = true ∧ c ≠ '/' ∧ c ≠ '\\' ∧ c ≠ '.' ∧ c.toLower ≠ '%' ∧
        c.toLower ≠ '.' := by
    rcases hc with hc | rfl | rfl
    · exact Text.of_isAlphanum (P := fun c => Url.Path.isKept c = true ∧ c ≠ '/' ∧ c ≠ '\\' ∧
        c ≠ '.' ∧ c.toLower ≠ '%' ∧ c.toLower ≠ '.') (by decide +kernel) hc
    · decide
    · decide
  -- The points of a segment start with its first character, which is neither a point nor `%`.
  have hpoints : ∃ d w, Url.Path.points s = d :: w ∧ d ≠ '.' := by
    obtain ⟨d, w, rfl⟩ := List.exists_cons_of_ne_nil hne
    obtain ⟨-, -, -, -, hpercent, hdot⟩ := hkept (hchars d List.mem_cons_self)
    have hlead : ¬ "%2e".toList.isPrefixOf (d.toLower :: w.map Char.toLower) = true := by
      simp [Ne.symm hpercent]
    refine ⟨d.toLower, Text.replaceFrom "%2e".toList ['.'] 0 (w.map Char.toLower), ?_, hdot⟩
    rw [Url.Path.points, Text.replace, List.map_cons, Text.replaceFrom, if_neg hlead]
    rfl
  obtain ⟨d, w, hpoints, hd⟩ := hpoints
  refine ⟨⟨fun c hc => (hkept (hchars c hc)).1, fun h => ?_, fun h => ?_, fun h => ?_⟩,
    fun h => ?_, fun h => ?_⟩
  · exact (hkept (hchars _ h)).2.1 rfl
  · rw [hpoints] at h
    exact hd (List.cons.inj h).1
  · rw [hpoints] at h
    exact hd (List.cons.inj h).1
  · exact (hkept (hchars _ h)).2.2.1 rfl
  · exact (hkept (hchars _ h)).2.2.2.1 rfl

theorem not_suffix_path : ¬ ".git".toList <:+ r.path := by
  intro h
  obtain ⟨s, hs, hdot⟩ := (Text.mem_intercalate_iff (by decide)).1
    (h.subset (show '.' ∈ ".git".toList by decide))
  exact (isSettled_segment hs).2.2 hdot

theorem path_append_git : r.path ++ ".git".toList = ['/'].intercalate (gitSegments r.segments) := by
  rw [intercalate_gitSegments segments_ne_nil, ← path, Text.beforeTail?,
    if_neg (mt List.isSuffixOf_iff_suffix.1 not_suffix_path), Option.getD_none]

variable (r) in
/-- With `tail` behind it, the path of a repository is read as the segments `read`. -/
structure ReadsAs (tail : List Char) (read : List (List Char)) : Prop where
  text : r.path ++ tail = ['/'].intercalate read
  settled : ∀ s ∈ read, Url.Path.IsSettled s ∧ '\\' ∉ s
  two_le : 2 ≤ (read.filter (!·.isEmpty)).length
  git : gitSegments (read.filter (!·.isEmpty)) = gitSegments r.segments

theorem filter_segments : r.segments.filter (!·.isEmpty) = r.segments :=
  List.filter_eq_self.2 fun s hs => by simpa using (r.plain s hs).1

theorem readsAs_nil : r.ReadsAs [] r.segments where
  text := List.append_nil _
  settled s hs := ⟨(isSettled_segment hs).1, (isSettled_segment hs).2.1⟩
  two_le := by
    rw [filter_segments]
    exact r.two_le_segments
  git := by rw [filter_segments]

/-- A slash behind the path ends the last segment and is followed by an empty one. -/
theorem readsAs_slash : r.ReadsAs ['/'] (r.segments ++ [[]]) where
  text := by
    have hsplit : (r.path ++ ['/']).splitOn '/' = r.segments ++ [[]] := by
      rw [List.splitOn_append_cons_self, List.splitOn_nil, ← Text.splitOn_eq, path,
        Text.splitOn_intercalate (fun s hs => (isSettled_segment hs).1.slash) segments_ne_nil]
    rw [← hsplit, List.intercalate_splitOn]
  settled s hs := by
    rcases List.mem_append.1 hs with hs | hs
    · exact readsAs_nil.settled s hs
    · rw [List.mem_singleton.1 hs]
      exact ⟨Url.Path.isSettled_nil, List.not_mem_nil⟩
  two_le := by
    rw [List.filter_append, filter_segments, List.length_append]
    exact Nat.le_add_right_of_le r.two_le_segments
  git := by
    rw [List.filter_append, filter_segments]
    exact congrArg gitSegments (List.append_nil _)

/-- An extension that is there already is not added again. -/
theorem readsAs_git : r.ReadsAs ".git".toList (gitSegments r.segments) := by
  have hsettled : ∀ s ∈ gitSegments r.segments, s ≠ [] ∧ Url.Path.IsSettled s ∧ '\\' ∉ s := by
    intro s hs
    obtain ⟨w, hw, rfl | rfl⟩ := mem_gitSegments hs
    · exact ⟨(r.plain s hw).1, readsAs_nil.settled s hw⟩
    · obtain ⟨hw, hback, -⟩ := isSettled_segment hw
      refine ⟨by simp, hw.append_git, ?_⟩
      rw [List.mem_append, not_or]
      exact ⟨hback, by decide⟩
  have hfilter : (gitSegments r.segments).filter (!·.isEmpty) = gitSegments r.segments :=
    List.filter_eq_self.2 fun s hs => by simpa using (hsettled s hs).1
  refine ⟨path_append_git, fun s hs => (hsettled s hs).2, ?_, ?_⟩
  · rw [hfilter, length_gitSegments segments_ne_nil]
    exact r.two_le_segments
  · rw [hfilter, gitSegments_of_suffix (suffix_gitSegments segments_ne_nil)]

theorem exists_readsAs {tail : String} (h : tail ∈ ["", "/", ".git"]) :
    ∃ read, r.ReadsAs tail.toList read := by
  simp only [List.mem_cons, List.not_mem_nil, or_false] at h
  rcases h with rfl | rfl | rfl
  · exact ⟨_, readsAs_nil⟩
  · exact ⟨_, readsAs_slash⟩
  · exact ⟨_, readsAs_git⟩

/-! ### Reading -/

section Reading

variable {tail : List Char} {read : List (List Char)}

theorem ReadsAs.ne_nil (h : r.ReadsAs tail read) : read ≠ [] := by
  rintro rfl
  exact absurd h.two_le (by decide)

theorem ReadsAs.isKept (h : r.ReadsAs tail read) :
    ∀ c ∈ r.path ++ tail, Url.Path.isKept c = true := by
  intro c hc
  by_cases hslash : c = '/'
  · rw [hslash]
    decide
  · rw [h.text, Text.mem_intercalate_iff hslash] at hc
    obtain ⟨s, hs, hc⟩ := hc
    exact (h.settled s hs).1.kept c hc

theorem ReadsAs.pathOf (h : r.ReadsAs tail read) (web : Bool) :
    Url.pathOf web ('/' :: (r.path ++ tail)) = read := by
  rw [h.text]
  exact Url.Path.pathOf_intercalate web h.settled h.ne_nil

/-- The URL of a host without a port. -/
theorem located_host {scheme : String} (user : Option (List Char)) (h : r.ReadsAs tail read)
    {t : List Char} (ht : t ≠ []) :
    Url.located scheme user [] ('/' :: (r.path ++ tail)) (.name t) =
      .ok ⟨scheme, some (.name t), none, read⟩ := by
  have hempty : Url.Host.isEmpty (.name t) = false := List.isEmpty_eq_false_iff.2 ht
  unfold Url.located
  rw [hempty, ← h.pathOf (Url.isWeb scheme)]
  rfl

theorem ofText_web {lead : List Char} {scheme : String} (hlead : ∀ c ∈ lead, 0x20 < c.toNat)
    (hscheme : ∀ cs, Url.scheme? (lead ++ cs) = some (scheme, "//".toList ++ cs))
    (hweb : Url.isWeb scheme = true) (h : r.ReadsAs tail read) :
    Url.ofText (lead ++ (r.host ++ '/' :: (r.path ++ tail))) =
      .ok ⟨scheme, some (.name (r.host.map Char.toLower)), none, read⟩ := by
  have hread := Url.ofText_web hlead hscheme hweb (isHostChar_of_mem_host (r := r)) host_ne_nil none
    h.isKept
  rw [Url.portText, List.append_nil, ofWeb_host] at hread
  exact hread.trans (located_host none h (by simpa using host_ne_nil))

/-- Behind the user `git` a tunnel has the same host and path. -/
theorem ofText_tunnel (h : r.ReadsAs tail read) :
    Url.ofText ("ssh://git@".toList ++ (r.host ++ '/' :: (r.path ++ tail))) =
      .ok ⟨"ssh", some (.name r.host), none, read⟩ := by
  have hclean : Url.cleaned ("ssh://git@".toList ++ (r.host ++ Url.portText none ++
      '/' :: (r.path ++ tail))) = _ :=
    Url.cleaned_append (Text.forall_mem_of_all (by decide)) isHostChar_of_mem_host h.isKept
  have hscheme (cs : List Char) : Url.scheme? ("ssh://git@".toList ++ cs) =
      some ("ssh", '/' :: '/' :: ("git".toList ++ '@' :: cs)) := rfl
  have hweb : Url.isWeb "ssh" = false := by decide
  have huser : ∀ c ∈ "git".toList, Url.endsHost false c = false :=
    Text.forall_mem_of_all (by decide)
  have hread := Url.authority_user hweb huser (by decide) (isHostChar_of_mem_host (r := r))
    (r.path ++ tail)
  rw [Url.portText, List.append_nil] at hclean
  rw [ofOther_host] at hread
  rw [Url.ofText, hclean, hscheme]
  dsimp only
  rw [if_neg (by decide), hweb, if_neg Bool.false_ne_true]
  exact hread.trans (located_host _ h host_ne_nil)

/-- The normal URL has a host in lower case, no port, and the extension once. -/
theorem ofUrl_of_readsAs {scheme : String} {t : List Char}
    (hscheme : ("https" :: "http" :: tunnels).contains scheme = true)
    (ht : t.map Char.toLower = r.host.map Char.toLower) (h : r.ReadsAs tail read) :
    ofUrl ⟨scheme, some (.name t), none, read⟩ = .ok r.url := by
  have hdot : '.' ∈ t := by
    have hmem : '.' ∈ t.map Char.toLower := by
      rw [ht]
      exact List.mem_map.2 ⟨'.', dot_mem_host, by decide⟩
    obtain ⟨c, hc, hlower⟩ := List.mem_map.1 hmem
    rwa [(Idna.toLower_eq_iff (by decide) c).1 hlower] at hc
  have hkept : keptPort? ⟨scheme, some (.name t), none, read⟩ = none := by
    rw [keptPort?]
    exact ite_self none
  have hname := hostName_of_domain (List.ne_nil_of_mem hdot) (.inl hdot)
  have hurl : r.url = written (t.map Char.toLower) none (gitSegments r.segments) := by
    unfold url written
    rw [← path_append_git, ht]
    exact congrArg (fun l => "https://".toList ++ (l ++ '/' :: (r.path ++ ".git".toList)))
      (List.append_nil _).symm
  refine ofUrl_eq_ok_iff.2 ⟨hscheme, t.map Char.toLower, hname, h.two_le, ?_⟩
  rw [hkept, h.git, hurl]

end Reading

/-! ### Spelling out -/

/-- The beginnings of the URLs that spellings stand for. -/
def leads : List String := ["http://", "https://", "ssh://git@"]

theorem normal_lead {lead tail : String} (hlead : lead ∈ leads) (htail : tail ∈ ["", "/", ".git"]) :
    ∃ u, Url.ofText (lead.toList ++ (r.host ++ '/' :: (r.path ++ tail.toList))) = .ok u ∧
      ofUrl u = .ok r.url := by
  obtain ⟨read, hread⟩ := exists_readsAs htail
  have hlower : (r.host.map Char.toLower).map Char.toLower = r.host.map Char.toLower := by
    rw [List.map_map]
    exact List.map_congr_left fun c _ => Char.toLower_toLower_eq_toLower c
  have hhttp : ∀ c ∈ "http://".toList, 0x20 < c.toNat := Text.forall_mem_of_all (by decide)
  simp only [leads, List.mem_cons, List.not_mem_nil, or_false] at hlead
  rcases hlead with rfl | rfl | rfl
  · exact ⟨_, ofText_web hhttp (fun _ => rfl) (by decide) hread,
      ofUrl_of_readsAs (by decide) hlower hread⟩
  · exact ⟨_, ofText_web Url.forall_mem_https Url.scheme?_https (by decide) hread,
      ofUrl_of_readsAs (by decide) hlower hread⟩
  · exact ⟨_, ofText_tunnel hread, ofUrl_of_readsAs (by decide) rfl hread⟩

theorem spelledOut_lead {lead : String} (hlead : lead ∈ leads) (cs : List Char) :
    spelledOut (lead.toList ++ cs) = .ok (lead.toList ++ cs) := by
  have huser : Text.afterLead? "git@".toList (lead.toList ++ cs) = none := by
    simp only [leads, List.mem_cons, List.not_mem_nil, or_false] at hlead
    rcases hlead with rfl | rfl | rfl <;> simp [Text.afterLead?]
  have hscheme : Text.holds "://".toList (lead.toList ++ cs) = true := by
    simp only [leads, List.mem_cons, List.not_mem_nil, or_false] at hlead
    rcases hlead with rfl | rfl | rfl <;> simp [Text.holds, Text.splitAt?]
  unfold spelledOut
  rw [huser]
  dsimp only
  rw [hscheme, if_pos rfl]

/-- A text without a colon and an `@` has no scheme and no user. -/
theorem spelledOut_bare {cs : List Char} (hat : '@' ∉ cs) (hcolon : ':' ∉ cs) :
    spelledOut cs = .ok ("https://".toList ++ cs) := by
  have huser : Text.afterLead? "git@".toList cs = none := by
    rw [Text.afterLead?, if_neg]
    intro h
    exact hat ((List.isPrefixOf_iff_prefix.1 h).subset (by decide))
  have hscheme : Text.holds "://".toList cs = false := by
    have hnone : Text.splitAt? "://".toList cs = none := by
      by_contra h
      obtain ⟨⟨a, b⟩, hsplit⟩ := Option.ne_none_iff_exists'.1 h
      obtain ⟨rfl, hlead⟩ := Text.splitAt?_eq_some hsplit
      exact hcolon (List.mem_append_right a (hlead.subset (by decide)))
    rw [Text.holds, hnone]
    rfl
  unfold spelledOut
  rw [huser]
  dsimp only
  rw [hscheme, if_neg Bool.false_ne_true]

/-- A user and a colon stand for a tunnel. -/
theorem spelledOut_user (tail : List Char) :
    spelledOut ("git@".toList ++ (r.host ++ ':' :: (r.path ++ tail))) =
      .ok ("ssh://git@".toList ++ (r.host ++ '/' :: (r.path ++ tail))) := by
  have huser : Text.afterLead? "git@".toList ("git@".toList ++ (r.host ++ ':' :: (r.path ++ tail))) =
      some (r.host ++ ':' :: (r.path ++ tail)) := by
    rw [Text.afterLead?, if_pos (List.isPrefixOf_iff_prefix.2 (List.prefix_append _ _)),
      List.drop_left]
  have hpath : ¬ (r.path ++ tail).head? = some '/' := by
    obtain ⟨w, rest, hsegments⟩ := List.exists_cons_of_ne_nil r.segments_ne_nil
    obtain ⟨d, w', hw⟩ := List.exists_cons_of_ne_nil
      (r.plain w (hsegments ▸ List.mem_cons_self)).1
    have hd : d ≠ '/' := by
      rintro rfl
      exact (isSettled_segment (hsegments ▸ List.mem_cons_self)).1.slash (hw ▸ List.mem_cons_self)
    have hhead : ∃ cs, r.path = d :: cs := by
      unfold path
      rw [hsegments, hw]
      exact ⟨_, List.intercalate_cons_cons_left⟩
    obtain ⟨cs, hcs⟩ := hhead
    rw [hcs]
    simpa using hd
  have hguard : ¬ (r.host.isEmpty || decide ((r.path ++ tail).head? = some '/')) = true := by
    rw [Bool.or_eq_true, not_or, decide_eq_true_eq]
    exact ⟨by simpa using host_ne_nil, hpath⟩
  unfold spelledOut
  rw [huser]
  dsimp only
  rw [Text.splitFirst?_append (notMem_host (by decide) (by decide))]
  dsimp only
  rw [if_neg hguard]
  rfl

/-- What holds of letters, digits and a few marks holds of a spelling if it holds of what stands in
front of its host and path and between them. -/
theorem forall_mem_spelling {P : Char → Prop} {lead : List Char} {d : Char} {tail : String}
    (hall : ∀ n < 0x80, (Char.ofNat n).isAlphanum = true ∨ Char.ofNat n ∈ ['.', '-', '_', '/'] →
      P (Char.ofNat n))
    (hlead : ∀ c ∈ lead, P c) (hd : P d) (htail : tail ∈ ["", "/", ".git"]) :
    ∀ c ∈ lead ++ (r.host ++ d :: (r.path ++ tail.toList)), P c := by
  have hchar {c : Char} (h : c.isAlphanum = true ∨ c ∈ ['.', '-', '_', '/']) : P c := by
    have hmarks : ∀ c ∈ ['.', '-', '_', '/'], c.toNat < 0x80 := Text.forall_mem_of_all (by decide)
    have hascii : c.toNat < 0x80 := h.elim
      (fun h => Nat.lt_of_le_of_lt (Text.ascii_of_isAlphanum h).2 (by decide)) (hmarks c)
    exact Text.of_ascii (P := fun c => c.isAlphanum = true ∨ c ∈ ['.', '-', '_', '/'] → P c) hall
      hascii h
  have htext : ∀ t ∈ ["", "/", ".git"],
      t.toList.all fun c => decide (c.isAlphanum = true ∨ c ∈ ['.', '-', '_', '/']) := by decide
  intro c hc
  simp only [List.mem_append, List.mem_cons] at hc
  rcases hc with hc | hc | rfl | hc | hc
  · exact hlead c hc
  · rcases mem_host hc with h | rfl
    · exact hchar (.inl (by rw [Char.isAlphanum, h, Bool.true_or]))
    · exact hchar (.inr (by decide))
  · exact hd
  · rcases mem_path hc with h | rfl | rfl | rfl
    · exact hchar (.inl h)
    all_goals exact hchar (.inr (by decide))
  · exact hchar (Text.forall_mem_of_all (htext tail htail) c hc)

/-- No character of a spelling is a blank, and it stands for a URL of the host and the path. -/
theorem exists_spelledOut {s : List Char} (hs : s ∈ r.spellings) :
    (∀ c ∈ s, Text.isBlank c = false) ∧ ∃ lead ∈ leads, ∃ tail ∈ ["", "/", ".git"],
      spelledOut s = .ok (lead.toList ++ (r.host ++ '/' :: (r.path ++ tail.toList))) := by
  have hleads : ∀ t ∈ ["", "http://", "https://", "git@", "ssh://git@"],
      t.toList.all fun c => decide (Text.isBlank c = false) := by decide +kernel
  have hnonblank {lead tail : String} {d : Char} (hd : Text.isBlank d = false)
      (hlead : lead ∈ ["", "http://", "https://", "git@", "ssh://git@"])
      (htail : tail ∈ ["", "/", ".git"]) :
      ∀ c ∈ lead.toList ++ (r.host ++ d :: (r.path ++ tail.toList)), Text.isBlank c = false :=
    forall_mem_spelling (by decide +kernel) (Text.forall_mem_of_all (hleads lead hlead)) hd htail
  rcases List.mem_append.1 hs with h | h
  · obtain ⟨lead, hlead, h⟩ := List.mem_flatMap.1 h
    obtain ⟨tail, htail, rfl⟩ := List.mem_map.1 h
    rw [List.mem_cons] at hlead
    rcases hlead with rfl | hlead
    · have hmarks : ∀ c ∈ [] ++ (r.host ++ '/' :: (r.path ++ tail.toList)), c ≠ '@' ∧ c ≠ ':' :=
        forall_mem_spelling (by decide +kernel) (List.forall_mem_nil _) (by decide) htail
      exact ⟨hnonblank (by decide) (by decide) htail, "https://", by decide, tail, htail,
        spelledOut_bare (fun h => (hmarks _ h).1 rfl) fun h => (hmarks _ h).2 rfl⟩
    · have hmem : lead ∈ leads := List.mem_append_left ["ssh://git@"] hlead
      exact ⟨hnonblank (by decide) (List.mem_cons_of_mem _ (List.mem_append_left _ hlead)) htail,
        lead, hmem, tail, htail, spelledOut_lead hmem _⟩
  · obtain ⟨tail, htail, h⟩ := List.mem_flatMap.1 h
    have htail : tail ∈ ["", "/", ".git"] :=
      (by decide : ∀ t ∈ ["", ".git"], t ∈ ["", "/", ".git"]) tail htail
    rw [List.mem_cons, List.mem_singleton] at h
    rcases h with rfl | rfl
    · exact ⟨hnonblank (by decide) (by decide) htail, "ssh://git@", by decide, tail, htail,
        spelledOut_user _⟩
    · exact ⟨hnonblank (by decide) (by decide) htail, "ssh://git@", by decide, tail, htail,
        spelledOut_lead (by decide) _⟩

theorem spelling_ne_nil {s : List Char} (hs : s ∈ r.spellings) : s ≠ [] := by
  rintro rfl
  simp [spellings] at hs

end Repository

/-- **All spellings of a repository come to one normal URL**, whatever blanks stand around them. -/
theorem Repository.spellings_agree (r : Repository) {s a b : List Char} (hs : s ∈ r.spellings)
    (ha : ∀ c ∈ a, Text.isBlank c = true) (hb : ∀ c ∈ b, Text.isBlank c = true) :
    normalUrl (String.ofList (a ++ (s ++ b))) = .ok (String.ofList r.url) := by
  obtain ⟨hblank, lead, hlead, tail, htail, hspelled⟩ := exists_spelledOut hs
  obtain ⟨u, hread, hurl⟩ := normal_lead hlead htail
  have htrim : Text.trim (a ++ (s ++ b)) = s := Text.trim_between ha hb (spelling_ne_nil hs) hblank
  rw [normalUrl_eq_ok_iff, String.toList_ofList, String.toList_ofList, normal_eq_ok_iff, htrim]
  exact ⟨spelling_ne_nil hs, _, u, hspelled, hread, hurl⟩

/-- A path in nested groups, spelled as a tunnel, with blanks of three kinds around it. -/
theorem Repository.spellings_agree_of_nested :
    normalUrl "\u00a0git@GitLab.COM:Group/sub-group/repo_1.git\t\n" =
      .ok "https://gitlab.com/Group/sub-group/repo_1.git" := by
  let r : Repository :=
    { labels := ["GitLab".toList, "COM".toList]
      segments := ["Group".toList, "sub-group".toList, "repo_1".toList]
      two_le_labels := by decide
      letters := by
        have h : ∀ w ∈ ["GitLab".toList, "COM".toList],
            w ≠ [] ∧ (w.all fun c => decide (c.isAlpha = true)) = true := by decide
        exact fun w hw => ⟨(h w hw).1, Text.forall_mem_of_all (h w hw).2⟩
      two_le_segments := by decide
      plain := by
        have h : ∀ w ∈ ["Group".toList, "sub-group".toList, "repo_1".toList], w ≠ [] ∧
            (w.all fun c => decide (c.isAlphanum = true ∨ c = '-' ∨ c = '_')) = true := by decide
        exact fun w hw => ⟨(h w hw).1, Text.forall_mem_of_all (h w hw).2⟩ }
  have hs : "git@GitLab.COM:Group/sub-group/repo_1.git".toList ∈ r.spellings := by decide
  have ha : ∀ c ∈ ['\u00a0'], Text.isBlank c = true := Text.forall_mem_of_all (by decide)
  have hb : ∀ c ∈ ['\t', '\n'], Text.isBlank c = true := Text.forall_mem_of_all (by decide)
  exact Repository.spellings_agree r hs ha hb

end Locator

end ThreatModel
