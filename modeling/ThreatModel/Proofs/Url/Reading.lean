import ThreatModel.Proofs.Text.Splitting
import ThreatModel.Proofs.Url.Path

/-!
# URLs read back

Reading a URL splits it into a host, a port and a path, and each comes from its own reader
(`wellFormed_of_ofText`). A URL of the web that is written from such parts is split at the same
places again (`ofText_https`), and loses the port if it is the usual one (`located_https`).
-/

namespace ThreatModel.Url

variable {c : Char} {cs host path : List Char} {u : Url}

/-! ### Steps -/

/-- The part of a text in front of its last `@`, if it has one, and the part behind it. -/
def userAndPlace (front : List Char) : Option (List Char) × List Char :=
  match Text.splitLast? '@' front with
  | some (user, place) => (some user, place)
  | none => (none, front)

/-- The URL of a host that has been read. Behind the host stand `r` and `back`. -/
def located (scheme : String) (user : Option (List Char)) (r back : List Char) (host : Host) :
    Except UrlError Url := do
  if host.isEmpty && !r.isEmpty then throw .emptyHost
  let (port?, r) ← match r with
    | [] => pure (none, back)
    | _ :: r => port (usualPorts.lookup scheme) (r ++ back)
  if host.isEmpty && user.any (fun u => !u.isEmpty && u != [':']) then throw .emptyHost
  return ⟨scheme, if host.isEmpty then none else some host, port?, pathOf (isWeb scheme) r⟩

/-- The host is read first, and then what stands behind it. -/
theorem authority_eq (scheme : String) (cs : List Char) :
    authority scheme cs = (do
      let web := isWeb scheme
      let (user, place) := userAndPlace (cs.takeWhile (!endsHost web ·))
      let back := cs.dropWhile (!endsHost web ·)
      if user = some [] && place.isEmpty && !back.isEmpty then throw .emptyHost
      let (name, r) := splitPort false place
      if web && name.isEmpty then throw .emptyHost
      (if web then Host.ofWeb name else Host.ofOther name) >>= located scheme user r back) := by
  cases hweb : isWeb scheme with
  | true =>
    unfold authority located
    simp only [hweb, if_true]
    rfl
  | false =>
    unfold authority located
    simp only [hweb]
    rfl

/-! ### What is read -/

theorem port_eq_ok {usual : Option ℕ} {p? : Option ℕ} {r : List Char}
    (h : port usual cs = .ok (p?, r)) : ∀ n, p? = some n → n ≤ maxPort ∧ usual ≠ some n := by
  rintro n rfl
  unfold port at h
  dsimp only at h
  split_ifs at h with hbad husual
  · cases h
  obtain ⟨hn, -⟩ := Prod.mk.inj (Except.ok.inj h)
  obtain rfl := Option.some.inj hn
  rw [Bool.or_eq_true, not_or, decide_eq_true_eq, Nat.not_lt] at hbad
  rw [Bool.or_eq_true, not_or, decide_eq_true_eq] at husual
  exact ⟨hbad.1, husual.2⟩

/-- Where the parts of a URL come from. -/
structure WellFormed (u : Url) : Prop where
  host : ∀ t, u.host? = some (.name t) →
    ∃ name, (if isWeb u.scheme then Host.ofWeb name else Host.ofOther name) = .ok (.name t)
  port : ∀ n, u.port? = some n → n ≤ maxPort ∧ usualPorts.lookup u.scheme ≠ some n
  path : ∃ r, u.path = pathOf (isWeb u.scheme) r

theorem wellFormed_of_located {scheme : String} {user : Option (List Char)}
    {r back name : List Char} {host : Host}
    (hhost : (if isWeb scheme then Host.ofWeb name else Host.ofOther name) = .ok host)
    (h : located scheme user r back host = .ok u) : u.WellFormed ∧ u.scheme = scheme := by
  have hbuild {p? : Option ℕ} {rest : List Char}
      (hport : ∀ n, p? = some n → n ≤ maxPort ∧ usualPorts.lookup scheme ≠ some n) :
      WellFormed ⟨scheme, if host.isEmpty then none else some host, p?,
        pathOf (isWeb scheme) rest⟩ := by
    refine ⟨fun t ht => ?_, hport, rest, rfl⟩
    dsimp only at ht
    split_ifs at ht
    cases ht
    exact ⟨name, hhost⟩
  unfold located at h
  simp only [bind, Except.bind, pure, Except.pure, throw, throwThe, MonadExceptOf.throw] at h
  split at h
  next => cases h
  split at h
  next =>
    split at h
    next => cases h
    cases h
    exact ⟨hbuild (by simp), rfl⟩
  next =>
    split at h
    next => cases h
    next p hp =>
      split at h
      next => cases h
      cases h
      exact ⟨hbuild (port_eq_ok hp), rfl⟩

theorem wellFormed_of_authority {scheme : String} (h : authority scheme cs = .ok u) :
    u.WellFormed ∧ u.scheme = scheme := by
  rw [authority_eq] at h
  simp only [bind, Except.bind, throw, throwThe, MonadExceptOf.throw] at h
  split_ifs at h with hat hname hweb
  · split at h
    next => cases h
    next host hhost => exact wellFormed_of_located (by rw [if_pos hweb]; exact hhost) h
  · split at h
    next => cases h
    next host hhost => exact wellFormed_of_located (by rw [if_neg hweb]; exact hhost) h

theorem scheme_of_file (h : file cs = .ok u) : u.scheme = "file" := by
  unfold file at h
  simp only [bind, Except.bind, pure, Except.pure] at h
  split at h
  next =>
    split_ifs at h
    · cases h
      rfl
    · split at h
      next => cases h
      next =>
        cases h
        rfl
    · cases h
      rfl
  next =>
    cases h
    rfl

/-- **URLs are well-formed**, apart from those of files. -/
theorem wellFormed_of_ofText (h : ofText cs = .ok u) (hfile : u.scheme ≠ "file") :
    u.WellFormed := by
  unfold ofText at h
  split at h
  next => cases h
  next scheme r hscheme =>
    split_ifs at h with hf hweb
    · exact absurd (scheme_of_file h) hfile
    · exact (wellFormed_of_authority h).1
    · rw [Bool.not_eq_true] at hweb
      split at h
      next => exact (wellFormed_of_authority h).1
      next =>
        cases h
        exact ⟨by simp, by simp, '/' :: _, by rw [hweb]⟩
      next =>
        cases h
        exact ⟨by simp, by simp, [], by rw [hweb]; rfl⟩

/-! ### What is read back -/

theorem cleaned_of_forall (h : ∀ c ∈ cs, 0x20 < c.toNat) : cleaned cs = cs := by
  have hmargin (w : List Char) (hw : ∀ c ∈ w, 0x20 < c.toNat) : w.dropWhile isMargin = w := by
    cases w with
    | nil => rfl
    | cons c r =>
      refine List.dropWhile_cons_of_neg ?_
      have := hw c List.mem_cons_self
      simp only [isMargin, decide_eq_true_eq]
      omega
  rw [cleaned, hmargin cs h, hmargin _ fun c hc => h c (List.mem_reverse.1 hc),
    List.reverse_reverse, List.filter_eq_self]
  intro c hc
  have hlt := h c hc
  simp only [isSkipped, Bool.not_eq_true', Bool.or_eq_false_iff, beq_eq_false_iff_ne]
  refine ⟨⟨?_, ?_⟩, ?_⟩ <;> rintro rfl <;> exact absurd hlt (by decide)

theorem scheme?_https (r : List Char) :
    scheme? ("https://".toList ++ r) = some ("https", "//".toList ++ r) := rfl

theorem splitPort_append {r : List Char} (h : ':' ∉ host ∧ '[' ∉ host)
    (hr : r = [] ∨ ∃ r', r = ':' :: r') : splitPort false (host ++ r) = (host, r) := by
  induction host with
  | nil => rcases hr with rfl | ⟨r', rfl⟩ <;> rfl
  | cons c host ih =>
    rw [List.mem_cons, List.mem_cons, not_or, not_or] at h
    have hcolon : ¬ (decide (c = ':') && !false) = true := by simpa using Ne.symm h.1.1
    have hbracket : (decide (c = '[') || (false && c != ']')) = false := by
      simpa using Ne.symm h.2.1
    rw [List.cons_append, splitPort]
    simp only [hcolon, hbracket]
    rw [ih ⟨h.1.2, h.2.2⟩]
    rfl

theorem port_digitText (usual : Option ℕ) {n : ℕ} (h : n ≤ maxPort) (path : List Char) :
    port usual (digitText n ++ '/' :: path) =
      .ok (if usual = some n then none else some n, '/' :: path) := by
  have htake : (digitText n ++ '/' :: path).takeWhile Char.isDigit = digitText n := by
    rw [List.takeWhile_append_of_pos fun c hc => isDigit_of_mem_digitText hc]
    exact List.append_nil _
  have hdrop : (digitText n ++ '/' :: path).dropWhile Char.isDigit = '/' :: path := by
    rw [List.dropWhile_append_of_pos fun c hc => isDigit_of_mem_digitText hc]
    rfl
  have hbad : ¬ (decide (maxPort < n) || !('/' :: path).head?.all (endsHost true)) = true := by
    simpa [endsHost] using h
  unfold port
  dsimp only
  rw [htake, hdrop, ofDigits_digitText, if_neg hbad,
    List.isEmpty_eq_false_iff.2 (digitText_ne_nil n), Bool.false_or]
  simp only [decide_eq_true_eq]
  split_ifs <;> rfl

/-- The text of a port behind its host. -/
def portText : Option ℕ → List Char
  | none => []
  | some n => ':' :: digitText n

theorem mem_portText {port? : Option ℕ} (h : c ∈ portText port?) : IsHostChar c ∨ c = ':' := by
  cases port? with
  | none => exact absurd h List.not_mem_nil
  | some n =>
    refine (List.mem_cons.1 h).symm.imp_left fun h => ?_
    exact isHostChar_of_isAlphanum (Text.isAlphanum_of_isDigit (isDigit_of_mem_digitText h))

theorem not_endsHost (h : IsHostChar c ∨ c = ':') : endsHost true c = false := by
  rcases h with h | rfl
  · exact Text.of_ascii (P := fun c => IsHostChar c → endsHost true c = false) (by decide +kernel)
      (by have := h.2.1; omega) h
  · decide

/-- What is read behind a host of the web: the port, unless it is the usual one, and the path. -/
theorem located_https {port? : Option ℕ} (hport : ∀ n, port? = some n → n ≤ maxPort)
    (path : List Char) {h : Host} (hempty : h.isEmpty = false) :
    located "https" none (portText port?) ('/' :: path) h =
      .ok ⟨"https", some h, port?.filter (· ≠ 443), pathOf true ('/' :: path)⟩ := by
  cases port? with
  | none =>
    unfold located
    rw [hempty]
    rfl
  | some n =>
    have hread := port_digitText (usualPorts.lookup "https") (hport n rfl) path
    have hfilter : (if usualPorts.lookup "https" = some n then none else some n) =
        (some n).filter (· ≠ 443) := by
      have husual : usualPorts.lookup "https" = some 443 := by decide
      rw [husual, Option.filter_some]
      by_cases hn : n = 443
      · subst hn
        rfl
      · rw [if_neg (by simpa using Ne.symm hn), if_pos (by simpa using hn)]
    rw [hfilter] at hread
    unfold located portText
    dsimp only
    rw [hempty, hread]
    rfl

theorem mem_front (hhost : ∀ c ∈ host, IsHostChar c) (port? : Option ℕ) :
    ∀ c ∈ host ++ portText port?, IsHostChar c ∨ c = ':' := fun c hc =>
  (List.mem_append.1 hc).elim (fun hc => .inl (hhost c hc)) mem_portText

theorem cleaned_append {lead : List Char} {port? : Option ℕ} (hlead : ∀ c ∈ lead, 0x20 < c.toNat)
    (hhost : ∀ c ∈ host, IsHostChar c) (hpath : ∀ c ∈ path, Path.isKept c = true) :
    cleaned (lead ++ (host ++ portText port? ++ '/' :: path)) =
      lead ++ (host ++ portText port? ++ '/' :: path) := by
  refine cleaned_of_forall fun c hc => ?_
  rw [List.mem_append, List.mem_append, List.mem_cons] at hc
  rcases hc with hc | hc | rfl | hc
  · exact hlead c hc
  · rcases mem_front hhost port? c hc with h | rfl
    · exact h.1
    · decide
  · decide
  · have hkept := hpath c hc
    simp only [Path.isKept, Bool.and_eq_true, decide_eq_true_eq] at hkept
    exact hkept.1.1

/-- The slashes in front of a host are those of its scheme only. -/
theorem dropWhile_isSlash (hhost : ∀ c ∈ host, IsHostChar c) (hne : host ≠ []) (r : List Char) :
    ("//".toList ++ (host ++ r)).dropWhile isSlash = host ++ r := by
  obtain ⟨d, host, rfl⟩ := List.exists_cons_of_ne_nil hne
  have hd := hhost d List.mem_cons_self
  have hslash : isSlash d = false :=
    Text.of_ascii (P := fun d => IsHostChar d → isSlash d = false) (by decide +kernel)
      (Nat.lt_succ_of_lt hd.2.1) hd
  exact List.dropWhile_cons_of_neg (by simpa using hslash)

theorem splitPort_host (hhost : ∀ c ∈ host, IsHostChar c) (port? : Option ℕ) :
    splitPort false (host ++ portText port?) = (host, portText port?) := by
  refine splitPort_append ⟨fun h => ?_, fun h => ?_⟩ ?_
  · exact absurd (hhost _ h) (by decide)
  · exact absurd (hhost _ h) (by decide)
  · cases port? with
    | none => exact .inl rfl
    | some n => exact .inr ⟨_, rfl⟩

/-- A URL of the web is read in three parts behind its scheme. -/
theorem ofText_web {lead : List Char} {scheme : String} (hlead : ∀ c ∈ lead, 0x20 < c.toNat)
    (hscheme : ∀ r, scheme? (lead ++ r) = some (scheme, "//".toList ++ r))
    (hweb : isWeb scheme = true) (hhost : ∀ c ∈ host, IsHostChar c) (hne : host ≠ [])
    (port? : Option ℕ) (hpath : ∀ c ∈ path, Path.isKept c = true) :
    ofText (lead ++ (host ++ portText port? ++ '/' :: path)) =
      Host.ofWeb host >>= located scheme none (portText port?) ('/' :: path) := by
  have hfront := mem_front hhost port?
  have hends : ∀ c ∈ host ++ portText port?, (!endsHost true c) = true := fun c hc => by
    rw [not_endsHost (hfront c hc)]
    rfl
  have htake : (host ++ portText port? ++ '/' :: path).takeWhile (!endsHost true ·) =
      host ++ portText port? := by
    rw [List.takeWhile_append_of_pos hends]
    exact List.append_nil _
  have hdrop : (host ++ portText port? ++ '/' :: path).dropWhile (!endsHost true ·) =
      '/' :: path := by
    rw [List.dropWhile_append_of_pos hends]
    rfl
  have huser : userAndPlace (host ++ portText port?) = (none, host ++ portText port?) := by
    have hat : '@' ∉ host ++ portText port? := fun hat => absurd (hfront _ hat) (by decide)
    rw [userAndPlace, Text.splitLast?_of_notMem hat]
  have hfile : scheme ≠ "file" := by
    rintro rfl
    exact absurd hweb (by decide)
  rw [ofText, cleaned_append hlead hhost hpath, hscheme]
  dsimp only
  rw [if_neg hfile, if_pos hweb, List.append_assoc host, dropWhile_isSlash hhost hne,
    ← List.append_assoc host, authority_eq, hweb]
  dsimp only
  rw [htake, hdrop, huser]
  dsimp only
  rw [splitPort_host hhost]
  dsimp only
  rw [List.isEmpty_eq_false_iff.2 hne]
  rfl

theorem forall_mem_https : ∀ c ∈ "https://".toList, 0x20 < c.toNat :=
  Text.forall_mem_of_all (by decide)

theorem ofText_https (hhost : ∀ c ∈ host, IsHostChar c) (hne : host ≠ []) (port? : Option ℕ)
    (hpath : ∀ c ∈ path, Path.isKept c = true) :
    ofText ("https://".toList ++ (host ++ portText port? ++ '/' :: path)) =
      Host.ofWeb host >>= located "https" none (portText port?) ('/' :: path) :=
  ofText_web forall_mem_https scheme?_https (by decide) hhost hne port? hpath

/-- Behind a user, a URL of another scheme is read in two parts. -/
theorem authority_user {scheme : String} {user : List Char} (hweb : isWeb scheme = false)
    (huser : ∀ c ∈ user, endsHost false c = false) (hne : user ≠ [])
    (hhost : ∀ c ∈ host, IsHostChar c) (path : List Char) :
    authority scheme (user ++ '@' :: (host ++ '/' :: path)) =
      Host.ofOther host >>= located scheme (some user) [] ('/' :: path) := by
  have hends : ∀ c ∈ user ++ '@' :: host, (!endsHost false c) = true := by
    intro c hc
    rw [Bool.not_eq_true']
    rw [List.mem_append, List.mem_cons] at hc
    rcases hc with hc | rfl | hc
    · exact huser c hc
    · decide
    · have hend := not_endsHost (.inl (hhost c hc))
      simp only [endsHost, Bool.or_eq_false_iff] at hend ⊢
      exact ⟨hend.1, rfl⟩
  have htext : user ++ '@' :: (host ++ '/' :: path) = user ++ '@' :: host ++ '/' :: path := by simp
  have htake : (user ++ '@' :: host ++ '/' :: path).takeWhile (!endsHost false ·) =
      user ++ '@' :: host := by
    rw [List.takeWhile_append_of_pos hends]
    exact List.append_nil _
  have hdrop : (user ++ '@' :: host ++ '/' :: path).dropWhile (!endsHost false ·) = '/' :: path := by
    rw [List.dropWhile_append_of_pos hends]
    rfl
  have hsplit : userAndPlace (user ++ '@' :: host) = (some user, host) := by
    have hat : '@' ∉ host := fun hat => absurd (hhost _ hat) (by decide)
    rw [userAndPlace, Text.splitLast?_append hat]
  have hport : splitPort false host = (host, []) := by
    have hport := splitPort_host hhost none
    rwa [portText, List.append_nil] at hport
  have hguard : ¬ (decide (some user = some []) && host.isEmpty && !('/' :: path).isEmpty) = true := by
    simp [hne]
  rw [htext, authority_eq, hweb]
  dsimp only
  rw [htake, hdrop, hsplit]
  dsimp only
  rw [if_neg hguard, hport]
  rfl

end ThreatModel.Url
