import ThreatModel.Proofs.Url.Reading
import ThreatModel.Source.Locator

/-!
# Normal URLs read back

A normal URL is written from a host, a port and the segments of a path (`exists_parts`), and is read
as a URL of the web whatever it was before. `Parts.normal_text_iff` says when that gives the same
URL again, and `normalUrl_normalUrl_iff` what this means for the locator that it comes from: a port
443 that was not the usual one of its scheme becomes the usual one, and a host that was reached
through a tunnel has not been looked at as a domain yet.
-/

namespace ThreatModel.Locator

variable {cs host out : List Char} {segments : List (List Char)} {u : Url}

/-! ### Paths of repositories -/

/-- The segments of a path that ends in `.git`. -/
def gitSegments (segments : List (List Char)) : List (List Char) :=
  if ".git".toList <:+ ['/'].intercalate segments then segments
  else segments.modifyLast (· ++ ".git".toList)

theorem gitSegments_of_suffix (h : ".git".toList <:+ ['/'].intercalate segments) :
    gitSegments segments = segments := if_pos h

/-- Only the last segment changes. -/
theorem exists_gitSegments (h : segments ≠ []) :
    ∃ front last tail, segments = front ++ [last] ∧ gitSegments segments = front ++ [last ++ tail] ∧
      (tail = [] ∨ tail = ".git".toList) := by
  obtain ⟨front, last, rfl⟩ := (List.eq_nil_or_concat segments).resolve_left h
  rw [List.concat_eq_append]
  by_cases hgit : ".git".toList <:+ ['/'].intercalate (front ++ [last])
  · refine ⟨front, last, [], rfl, ?_, .inl rfl⟩
    rw [gitSegments_of_suffix hgit, List.append_nil]
  · refine ⟨front, last, _, rfl, ?_, .inr rfl⟩
    rw [gitSegments, if_neg hgit, List.modifyLast_concat]

theorem intercalate_gitSegments (h : segments ≠ []) :
    ['/'].intercalate (gitSegments segments) =
      (Text.beforeTail? ".git".toList (['/'].intercalate segments)).getD
        (['/'].intercalate segments) ++ ".git".toList := by
  unfold gitSegments Text.beforeTail?
  by_cases hgit : ".git".toList <:+ ['/'].intercalate segments
  · rw [if_pos hgit, if_pos (List.isSuffixOf_iff_suffix.2 hgit), Option.getD_some]
    obtain ⟨front, hfront⟩ := hgit
    rw [← hfront, List.length_append, Nat.add_sub_cancel, List.take_left]
  · rw [if_neg hgit, if_neg (mt List.isSuffixOf_iff_suffix.1 hgit), Option.getD_none]
    obtain ⟨front, last, rfl⟩ := (List.eq_nil_or_concat segments).resolve_left h
    rw [List.concat_eq_append, List.modifyLast_concat, Text.intercalate_concat_append]

theorem length_gitSegments (h : segments ≠ []) :
    (gitSegments segments).length = segments.length := by
  obtain ⟨front, last, tail, hsegments, hgit, -⟩ := exists_gitSegments h
  rw [hgit, hsegments, List.length_append, List.length_append]
  rfl

theorem mem_gitSegments {s : List Char} (h : s ∈ gitSegments segments) :
    ∃ w ∈ segments, s = w ∨ s = w ++ ".git".toList := by
  have hne : segments ≠ [] := by
    rintro rfl
    exact List.not_mem_nil h
  obtain ⟨front, last, tail, hsegments, hgit, htail⟩ := exists_gitSegments hne
  rw [hgit] at h
  rw [hsegments]
  rcases List.mem_append.1 h with h | h
  · exact ⟨s, List.mem_append_left _ h, .inl rfl⟩
  · refine ⟨last, List.mem_append_right _ List.mem_cons_self, ?_⟩
    rw [List.mem_singleton.1 h]
    rcases htail with rfl | rfl
    · exact .inl (List.append_nil last)
    · exact .inr rfl

/-- The extension has no other characters. -/
theorem exists_mem_gitSegments_iff (segments : List (List Char)) {c : Char}
    (hc : c ∉ ".git".toList) :
    (∃ s ∈ gitSegments segments, c ∈ s) ↔ ∃ s ∈ segments, c ∈ s := by
  constructor
  · rintro ⟨s, hs, hmem⟩
    obtain ⟨w, hw, rfl | rfl⟩ := mem_gitSegments hs
    · exact ⟨s, hw, hmem⟩
    · exact ⟨w, hw, (List.mem_append.1 hmem).resolve_right hc⟩
  · rintro ⟨s, hs, hmem⟩
    obtain ⟨front, last, tail, hsegments, hgit, -⟩ := exists_gitSegments (List.ne_nil_of_mem hs)
    rw [hgit]
    rw [hsegments] at hs
    rcases List.mem_append.1 hs with hs | hs
    · exact ⟨s, List.mem_append_left _ hs, hmem⟩
    · rw [List.mem_singleton.1 hs] at hmem
      exact ⟨last ++ tail, List.mem_append_right _ List.mem_cons_self,
        List.mem_append_left _ hmem⟩

theorem suffix_gitSegments (h : segments ≠ []) :
    ".git".toList <:+ ['/'].intercalate (gitSegments segments) := by
  rw [intercalate_gitSegments h]
  exact List.suffix_append _ _

/-! ### What is read -/

theorem hostName_eq_ok {host? : Option Url.Host} (h : hostName host? = .ok host) :
    ∃ t, host? = some (.name t) ∧ t ≠ [] ∧ ('.' ∈ t ∨ t = "localhost".toList) ∧
      host = t.map Char.toLower := by
  unfold hostName at h
  generalize "localhost".toList = l at h ⊢
  split at h
  next => cases h
  next => cases h
  next t =>
    split_ifs at h with hempty hdomain
    cases h
    refine ⟨t, rfl, by simpa using hempty, ?_, rfl⟩
    by_contra hnot
    rw [not_or] at hnot
    exact hdomain (by simpa using hnot)

theorem hostName_of_domain {t : List Char} (hne : t ≠ [])
    (h : '.' ∈ t ∨ t = "localhost".toList) :
    hostName (some (.name t)) = .ok (t.map Char.toLower) := by
  unfold hostName
  generalize "localhost".toList = l at h ⊢
  have hdomain : ¬ (!t.contains '.' && decide (t ≠ l)) = true := by
    rcases h with h | h <;> simp [h]
  dsimp only
  rw [List.isEmpty_eq_false_iff.2 hne, if_neg Bool.false_ne_true, if_neg hdomain]

/-- Ports of tunnels are left out. -/
def keptPort? (u : Url) : Option ℕ := if tunnels.contains u.scheme then none else u.port?

/-- The normal URL of a host, a port and the segments of a path. -/
def written (host : List Char) (port? : Option ℕ) (segments : List (List Char)) : List Char :=
  "https://".toList ++ (host ++ Url.portText port? ++ '/' :: ['/'].intercalate segments)

theorem ofUrl_eq_ok_iff :
    ofUrl u = .ok out ↔ ("https" :: "http" :: tunnels).contains u.scheme = true ∧
      ∃ host, hostName u.host? = .ok host ∧ 2 ≤ (u.path.filter (!·.isEmpty)).length ∧
        out = written host (keptPort? u) (gitSegments (u.path.filter (!·.isEmpty))) := by
  unfold ofUrl
  dsimp only
  by_cases hscheme : ("https" :: "http" :: tunnels).contains u.scheme = true
  swap
  · rw [Bool.not_eq_true] at hscheme
    rw [hscheme, if_pos Bool.not_false]
    exact iff_of_false (fun h => by cases h) fun h => by cases h.1
  rw [hscheme, Bool.not_true, if_neg Bool.false_ne_true]
  cases hostName u.host? with
  | error e =>
    refine iff_of_false (fun h => by cases h) ?_
    rintro ⟨-, _, h, -⟩
    cases h
  | ok host =>
    change (if _ then _ else _) = _ ↔ _
    generalize hsegments : u.path.filter (!·.isEmpty) = segments
    by_cases hlen : segments.length < 2
    · rw [if_pos hlen]
      refine iff_of_false (fun h => by cases h) ?_
      rintro ⟨-, _, -, h, -⟩
      exact absurd hlen (Nat.not_lt.2 h)
    · rw [if_neg hlen]
      have hne : segments ≠ [] := by
        rintro rfl
        exact hlen (by decide)
      refine (Eq.congr_left (y := .ok (written host (keptPort? u) (gitSegments segments)))
        ?_).trans ?_
      · unfold written keptPort?
        rw [intercalate_gitSegments hne]
        generalize "https://".toList = lead
        generalize ".git".toList = tail
        refine congrArg Except.ok ?_
        cases u.port? with
        | none => simp [Url.portText]
        | some n => split_ifs <;> simp [Url.portText]
      · rw [Except.ok.injEq, eq_comm]
        refine ⟨fun h => ⟨rfl, host, rfl, Nat.le_of_not_lt hlen, h⟩, ?_⟩
        rintro ⟨-, _, hhost, -, h⟩
        cases hhost
        exact h

theorem normal_eq_ok_iff :
    normal cs = .ok out ↔ Text.trim cs ≠ [] ∧ ∃ text u, spelledOut (Text.trim cs) = .ok text ∧
      Url.ofText text = .ok u ∧ ofUrl u = .ok out := by
  unfold normal
  dsimp only
  by_cases hempty : Text.trim cs = []
  · rw [hempty]
    exact iff_of_false (fun h => by cases h) fun h => h.1 rfl
  rw [List.isEmpty_eq_false_iff.2 hempty, if_neg Bool.false_ne_true]
  cases spelledOut (Text.trim cs) with
  | error e =>
    refine iff_of_false (fun h => by cases h) ?_
    rintro ⟨-, _, _, h, -⟩
    cases h
  | ok text =>
    simp only [bind, Except.bind]
    cases hu : Url.ofText text with
    | error e =>
      refine iff_of_false (fun h => by cases h) ?_
      rintro ⟨-, _, _, htext, h, -⟩
      cases htext
      rw [hu] at h
      cases h
    | ok u =>
      refine ⟨fun h => ⟨hempty, text, u, rfl, hu, h⟩, ?_⟩
      rintro ⟨-, _, _, htext, h, hout⟩
      cases htext
      rw [hu] at h
      cases h
      exact hout

/-! ### Normal URLs -/

/-- The parts of a normal URL. -/
structure Parts where
  host : List Char
  port? : Option ℕ
  segments : List (List Char)
  isHostChar : ∀ c ∈ host, Url.IsHostChar c
  toLower_host : host.map Char.toLower = host
  domain : '.' ∈ host ∨ host = "localhost".toList
  port_le : ∀ n, port? = some n → n ≤ Url.maxPort
  two_le : 2 ≤ segments.length
  settled : ∀ s ∈ segments, s ≠ [] ∧ Url.Path.IsSettled s
  git : ".git".toList <:+ ['/'].intercalate segments

namespace Parts

/-- The normal URL of some parts. -/
def text (p : Parts) : List Char := written p.host p.port? p.segments

variable (p : Parts)

theorem host_ne_nil : p.host ≠ [] := by
  intro h
  rcases p.domain with hdot | hlocal
  · rw [h] at hdot
    exact List.not_mem_nil hdot
  · rw [h] at hlocal
    exact absurd hlocal (by decide)

theorem segments_ne_nil : p.segments ≠ [] := by
  intro h
  have := p.two_le
  rw [h] at this
  cases this

theorem isKept_path : ∀ c ∈ ['/'].intercalate p.segments, Url.Path.isKept c = true := by
  intro c hc
  by_cases hslash : c = '/'
  · rw [hslash]
    decide
  · obtain ⟨s, hs, hc⟩ := (Text.mem_intercalate_iff hslash).1 hc
    exact (p.settled s hs).2.kept c hc

theorem text_eq {front : List Char} (h : front ++ ".git".toList = ['/'].intercalate p.segments) :
    p.text = 'h' :: ("ttps://".toList ++ (p.host ++ Url.portText p.port? ++ '/' :: front) ++
      ".gi".toList) ++ 't' :: [] := by
  have hlead : "https://".toList = 'h' :: "ttps://".toList := by decide
  have htail : ".git".toList = ".gi".toList ++ ['t'] := by decide
  unfold text written
  rewrite [← h, hlead, htail]
  generalize "ttps://".toList = a
  generalize ".gi".toList = b
  simp only [List.cons_append, List.append_assoc]

theorem trim_text : Text.trim p.text = p.text := by
  obtain ⟨front, hfront⟩ := p.git
  have hfirst : Text.isBlank 'h' = false := by decide
  have hlast : Text.isBlank 't' = false := by decide
  rw [p.text_eq hfront, Text.trim_append_cons hlast, Text.trimStart_cons_of_not_blank hfirst]
  rfl

theorem spelledOut_text : spelledOut p.text = .ok p.text := by
  have hlead (r : List Char) : Text.afterLead? "git@".toList ("https://".toList ++ r) = none := by
    simp [Text.afterLead?]
  have hholds (r : List Char) : Text.holds "://".toList ("https://".toList ++ r) = true := by
    simp [Text.holds, Text.splitAt?]
  unfold spelledOut text written
  rw [hlead]
  dsimp only
  rw [hholds, if_pos rfl]

/-- The URL that is read from a normal one: only the web is asked now, whatever the scheme was. -/
theorem normal_text_eq_ok_iff :
    normal p.text = .ok out ↔ ∃ t, Url.Host.ofWeb p.host = .ok (.name t) ∧
      ofUrl ⟨"https", some (.name t), p.port?.filter (· ≠ 443),
        Url.pathOf true ('/' :: ['/'].intercalate p.segments)⟩ = .ok out := by
  have hread := Url.ofText_https p.isHostChar p.host_ne_nil p.port? p.isKept_path
  change Url.ofText p.text = _ at hread
  have hne : p.text ≠ [] := by
    obtain ⟨front, hfront⟩ := p.git
    rw [p.text_eq hfront]
    simp
  rw [normal_eq_ok_iff, p.trim_text, p.spelledOut_text]
  cases hhost : Url.Host.ofWeb p.host with
  | error e =>
    rw [hhost] at hread
    constructor
    · rintro ⟨-, _, _, htext, h, -⟩
      cases htext
      rw [hread] at h
      cases h
    · rintro ⟨_, h, -⟩
      cases h
  | ok h =>
    have hempty : h.isEmpty = false := by
      cases h with
      | groups => rfl
      | name t => exact List.isEmpty_eq_false_iff.2 (Url.Host.ne_nil_of_ofWeb hhost)
    rw [hhost] at hread
    change _ = Url.located _ _ _ _ h at hread
    rw [Url.located_https p.port_le _ hempty] at hread
    constructor
    · rintro ⟨-, _, u, htext, hu, hout⟩
      cases htext
      rw [hread] at hu
      cases hu
      obtain ⟨-, host', hname, -⟩ := ofUrl_eq_ok_iff.1 hout
      obtain ⟨t, ht, -⟩ := hostName_eq_ok hname
      cases ht
      exact ⟨t, rfl, hout⟩
    · rintro ⟨t, ht, hout⟩
      cases ht
      exact ⟨hne, p.text, _, rfl, hread, hout⟩

/-- The first slash behind the scheme ends the host and the port, and a colon ends the host. -/
theorem eq_of_text_eq_written {host : List Char} {port? : Option ℕ}
    {segments : List (List Char)} (hhost : ∀ c ∈ host, Url.IsHostChar c)
    (h : p.text = written host port? segments) :
    p.host = host ∧ Url.portText p.port? = Url.portText port? ∧
      ['/'].intercalate p.segments = ['/'].intercalate segments := by
  have hslash {host : List Char} {port? : Option ℕ} (hhost : ∀ c ∈ host, Url.IsHostChar c) :
      '/' ∉ host ++ Url.portText port? := fun h => absurd (Url.mem_front hhost _ _ h) (by decide)
  have hcut := congrArg (Text.splitFirst? '/') (List.append_cancel_left h)
  rw [Text.splitFirst?_append (hslash p.isHostChar), Text.splitFirst?_append (hslash hhost)] at hcut
  obtain ⟨hfront, hpath⟩ := Prod.mk.inj (Option.some.inj hcut)
  have hport := congrArg (Url.splitPort false) hfront
  rw [Url.splitPort_host p.isHostChar, Url.splitPort_host hhost] at hport
  obtain ⟨hhost, hport⟩ := Prod.mk.inj hport
  exact ⟨hhost, hport, hpath⟩

/-- **Normal URLs are read back** if the web reads their host back, their port is not the usual one
and they have no backslash. -/
theorem normal_text_iff :
    normal p.text = .ok p.text ↔ Url.Host.ofWeb p.host = .ok (.name p.host) ∧
      p.port? ≠ some 443 ∧ ∀ s ∈ p.segments, '\\' ∉ s := by
  rw [normal_text_eq_ok_iff]
  constructor
  · rintro ⟨t, ht, hout⟩
    obtain ⟨-, host', hname, -, heq⟩ := ofUrl_eq_ok_iff.1 hout
    obtain ⟨t', ht', -, -, rfl⟩ := hostName_eq_ok hname
    cases ht'
    -- Both texts are cut at the same places, so that the parts can be compared one by one.
    obtain ⟨hhost, hport, hpath⟩ := p.eq_of_text_eq_written (Url.Host.isHostChar_of_ofWeb ht) heq
    have htext : t = p.host := Url.Host.eq_of_ofWeb ht hhost.symm
    refine ⟨htext ▸ ht, fun h443 => ?_, fun s hs hback => ?_⟩
    · rw [h443] at hport
      cases hport
    · -- A backslash would be there behind the second reading too, which has turned all of them.
      have hmem : '\\' ∈ ['/'].intercalate p.segments :=
        (Text.mem_intercalate_iff (by decide)).2 ⟨s, hs, hback⟩
      rw [hpath, Text.mem_intercalate_iff (by decide),
        exists_mem_gitSegments_iff _ (by decide)] at hmem
      obtain ⟨w, hw, hback⟩ := hmem
      replace hw := (List.mem_filter.1 hw).1
      dsimp only at hw
      exact Url.Path.backslash_notMem_of_mem_pathOf hw hback
  · rintro ⟨hhost, hport, hback⟩
    have hname : hostName (some (.name p.host)) = .ok p.host := by
      rw [hostName_of_domain p.host_ne_nil p.domain, p.toLower_host]
    have hpath := Url.Path.pathOf_intercalate true
      (fun s hs => ⟨(p.settled s hs).2, hback s hs⟩) p.segments_ne_nil
    have hsegments : p.segments.filter (!·.isEmpty) = p.segments :=
      List.filter_eq_self.2 fun s hs => by simpa using (p.settled s hs).1
    have hkept : p.port?.filter (· ≠ 443) = p.port? := by
      cases hn : p.port? with
      | none => rfl
      | some n =>
        rw [hn] at hport
        exact Option.filter_some_pos (by simpa using hport)
    rw [hpath, hkept]
    have hscheme : ("https" :: "http" :: tunnels).contains "https" = true := by decide
    refine ⟨p.host, hhost, ofUrl_eq_ok_iff.2 ⟨hscheme, p.host, hname, ?_, ?_⟩⟩
    · rw [hsegments]
      exact p.two_le
    · rw [hsegments, gitSegments_of_suffix p.git]
      rfl

end Parts

/-- The segments of a normal URL are those of the path that is read. -/
theorem exists_parts_of_segments (hu : u.WellFormed) (h : ofUrl u = .ok out) :
    ∃ p : Parts, out = p.text ∧ hostName u.host? = .ok p.host ∧ p.port? = keptPort? u ∧
      p.segments = gitSegments (u.path.filter (!·.isEmpty)) := by
  obtain ⟨-, host, hname, hlen, hout⟩ := ofUrl_eq_ok_iff.1 h
  obtain ⟨t, ht, -, hdomain, rfl⟩ := hostName_eq_ok hname
  obtain ⟨r, hr⟩ := hu.path
  have hne : u.path.filter (!·.isEmpty) ≠ [] := by
    intro hnil
    rw [hnil] at hlen
    cases hlen
  have hsettled (s : List Char) (hs : s ∈ u.path.filter (!·.isEmpty)) :
      s ≠ [] ∧ Url.Path.IsSettled s := by
    obtain ⟨hs, hempty⟩ := List.mem_filter.1 hs
    rw [hr] at hs
    exact ⟨by simpa using hempty, Url.Path.isSettled_of_mem_pathOf hs⟩
  refine ⟨⟨t.map Char.toLower, keptPort? u, gitSegments (u.path.filter (!·.isEmpty)),
    ?_, ?_, ?_, ?_, ?_, ?_, suffix_gitSegments hne⟩, hout, hname, rfl, rfl⟩
  · obtain ⟨name, hread⟩ := hu.host t ht
    split_ifs at hread
    · exact Url.Host.isHostChar_of_ofWeb hread
    · intro c hc
      obtain ⟨d, hd, rfl⟩ := List.mem_map.1 hc
      exact (Url.Host.isHostChar_of_ofOther hread d hd).toLower
  · rw [List.map_map]
    exact List.map_congr_left fun c _ => Char.toLower_toLower_eq_toLower c
  · rcases hdomain with hdot | rfl
    · exact .inl (List.mem_map.2 ⟨'.', hdot, by decide⟩)
    · exact .inr (by decide)
  · intro n hn
    unfold keptPort? at hn
    split_ifs at hn
    exact (hu.port n hn).1
  · rwa [length_gitSegments hne]
  · intro s hs
    obtain ⟨w, hw, rfl | rfl⟩ := mem_gitSegments hs
    · exact hsettled s hw
    · exact ⟨by simp, (hsettled w hw).2.append_git⟩

/-- **What is read is written in parts.** -/
theorem exists_parts (hu : u.WellFormed) (h : ofUrl u = .ok out) :
    ∃ p : Parts, out = p.text ∧ hostName u.host? = .ok p.host ∧ p.port? = keptPort? u ∧
      ((∀ s ∈ p.segments, '\\' ∉ s) ↔ ∀ s ∈ u.path, '\\' ∉ s) := by
  obtain ⟨p, hout, hname, hport, hsegments⟩ := exists_parts_of_segments hu h
  refine ⟨p, hout, hname, hport, ?_⟩
  rw [hsegments]
  have hiff := exists_mem_gitSegments_iff (u.path.filter (!·.isEmpty))
    (show '\\' ∉ ".git".toList by decide)
  constructor
  · intro hall s hs hback
    have hs' : s ∈ u.path.filter (!·.isEmpty) :=
      List.mem_filter.2 ⟨hs, by simpa using List.ne_nil_of_mem hback⟩
    obtain ⟨w, hw, hback⟩ := hiff.2 ⟨s, hs', hback⟩
    exact hall w hw hback
  · intro hall s hs hback
    obtain ⟨w, hw, hback⟩ := hiff.1 ⟨s, hs, hback⟩
    exact hall w (List.mem_filter.1 hw).1 hback

theorem normalUrl_eq_ok_iff {raw url : String} :
    normalUrl raw = .ok url ↔ normal raw.toList = .ok url.toList := by
  unfold normalUrl
  cases normal raw.toList with
  | error e => exact iff_of_false (fun h => by cases h) fun h => by cases h
  | ok out =>
    dsimp only
    rw [Except.ok.injEq, Except.ok.injEq, ← String.toList_inj, String.toList_ofList]

/-- The usual port of a scheme is left out, so that only another scheme keeps it. -/
theorem keptPort?_ne_iff (hu : u.WellFormed)
    (hscheme : ("https" :: "http" :: tunnels).contains u.scheme = true) :
    keptPort? u ≠ some 443 ↔ ¬ (u.scheme = "http" ∧ u.port? = some 443) := by
  have hport := hu.port 443
  unfold keptPort?
  rw [List.contains_iff_mem] at hscheme
  simp only [tunnels, List.mem_cons, List.not_mem_nil, or_false] at hscheme
  rcases hscheme with h | h | h | h
  · rw [h] at hport ⊢
    refine iff_of_true (fun hkept => ?_) (by simp)
    exact (hport hkept).2 (by decide)
  · rw [h]
    simp [tunnels]
  · rw [h]
    simp [tunnels]
  · rw [h]
    simp [tunnels]

/-- **When normal URLs are normal.** The normal URL of a locator is its own normal URL unless the
locator had the port 443 under `http`, or its host or path mean something else on the web: a label
too long to be read, or what only a tunnel leaves as it is. -/
theorem normalUrl_normalUrl_iff {raw url : String} (h : normalUrl raw = .ok url) :
    ∃ text u host, spelledOut (Text.trim raw.toList) = .ok text ∧ Url.ofText text = .ok u ∧
      hostName u.host? = .ok host ∧
      (normalUrl url = .ok url ↔ ¬ (u.scheme = "http" ∧ u.port? = some 443) ∧
        if Url.isWeb u.scheme then Idna.IsShort host
        else Url.Host.ofWeb host = .ok (.name host) ∧ ∀ s ∈ u.path, '\\' ∉ s) := by
  obtain ⟨-, text, u, htext, hread, hout⟩ := normal_eq_ok_iff.1 (normalUrl_eq_ok_iff.1 h)
  obtain ⟨hscheme, -⟩ := ofUrl_eq_ok_iff.1 hout
  have hfile : u.scheme ≠ "file" := by
    intro hfile
    rw [hfile] at hscheme
    exact absurd hscheme (by decide)
  have hu := Url.wellFormed_of_ofText hread hfile
  obtain ⟨p, hp, hname, hport, hback⟩ := exists_parts hu hout
  refine ⟨text, u, p.host, htext, hread, hname, ?_⟩
  rw [normalUrl_eq_ok_iff, hp, p.normal_text_iff, hport, hback, keptPort?_ne_iff hu hscheme,
    and_left_comm]
  refine and_congr_right fun _ => ?_
  split_ifs with hweb
  · obtain ⟨t, ht, -, -, hhost⟩ := hostName_eq_ok hname
    obtain ⟨name, hname⟩ := hu.host t ht
    obtain ⟨r, hr⟩ := hu.path
    rw [if_pos hweb] at hname
    rw [hhost, Url.Host.ofWeb_toLower_iff hname, hr, hweb]
    exact and_iff_left fun s hs => Url.Path.backslash_notMem_of_mem_pathOf hs
  · exact Iff.rfl

theorem normalUrl_normalUrl_iff_of_bare :
    normalUrl "github.com/o/r" = .ok "https://github.com/o/r.git" ∧
      ∃ text u host, spelledOut (Text.trim "github.com/o/r".toList) = .ok text ∧
        Url.ofText text = .ok u ∧ hostName u.host? = .ok host ∧
        (normalUrl "https://github.com/o/r.git" = .ok "https://github.com/o/r.git" ↔
          ¬ (u.scheme = "http" ∧ u.port? = some 443) ∧
            if Url.isWeb u.scheme then Idna.IsShort host
            else Url.Host.ofWeb host = .ok (.name host) ∧ ∀ s ∈ u.path, '\\' ∉ s) :=
  ⟨by decide +kernel, normalUrl_normalUrl_iff (by decide +kernel)⟩

/-- The port 443 goes with the second reading only. -/
theorem normalUrl_changes_port :
    normalUrl "http://h.io:443/o/r" = .ok "https://h.io:443/o/r.git" ∧
      normalUrl "https://h.io:443/o/r.git" = .ok "https://h.io/o/r.git" ∧
      ¬ ∀ raw url, normalUrl raw = .ok url → normalUrl url = .ok url := by
  have hfirst : normalUrl "http://h.io:443/o/r" = .ok "https://h.io:443/o/r.git" := by
    decide +kernel
  have hsecond : normalUrl "https://h.io:443/o/r.git" = .ok "https://h.io/o/r.git" := by
    decide +kernel
  refine ⟨hfirst, hsecond, fun h => ?_⟩
  have hurl := hsecond.symm.trans (h _ _ hfirst)
  exact absurd (Except.ok.inj hurl) (by decide)

end ThreatModel.Locator
