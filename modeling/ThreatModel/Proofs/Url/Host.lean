import ThreatModel.Proofs.Idna.Names
import ThreatModel.Proofs.Number.Digits
import ThreatModel.Url.Host

/-!
# Hosts read back

A host of the web is an address of four bytes or a name (`Host.ofWeb_eq_ok`). Addresses are read
back (`Host.ofWeb_addressText`): all of `address?` goes through the four parts that `addressText`
writes. Names are read back in lower case if their labels are short enough
(`Host.ofWeb_toLower_iff`); they do not become addresses, since what does not end in a number does
not do so in lower case (`not_endsInNumber_toLower`).
-/

namespace ThreatModel.Url

variable {c : Char} {cs host t : List Char} {n : ℕ}

/-! ### Percent encoding -/

theorem Percent.mem_of_mem_encodeByte {b : UInt8} (h : c ∈ encodeByte b) :
    c = '%' ∨ c.isAlphanum = true := by
  have hdigits : ∀ k < 16, (Text.upperHexDigit k).isAlphanum = true := by decide +kernel
  have hb : b.toNat < 256 := b.toNat_lt
  rw [encodeByte, List.mem_cons, List.mem_cons, List.mem_singleton] at h
  rcases h with rfl | rfl | rfl
  · exact .inl rfl
  · exact .inr (hdigits _ (by omega))
  · exact .inr (hdigits _ (Nat.mod_lt _ (by decide)))

/-- What an encoded text is made of: the characters that are kept, and encoded bytes. -/
theorem Percent.mem_of_mem_encode {keep : Char → Bool} (h : c ∈ encode keep cs) :
    (c ∈ cs ∧ keep c = true) ∨ c = '%' ∨ c.isAlphanum = true := by
  obtain ⟨d, hd, hc⟩ := List.mem_flatMap.1 h
  split_ifs at hc with hkept
  · obtain rfl := List.mem_singleton.1 hc
    exact .inl ⟨hd, hkept⟩
  · obtain ⟨b, -, hc⟩ := List.mem_flatMap.1 hc
    exact .inr (mem_of_mem_encodeByte hc)

/-! ### Addresses -/

theorem hexValue?_of_isDigit (h : c.isDigit = true) :
    Text.hexValue? c = some (c.toNat - 48) ∧ c.toNat - 48 < 10 := by
  refine ⟨by rw [Text.hexValue?, if_pos h], ?_⟩
  have := (Text.ascii_of_isDigit h).1
  simp only [Char.isDigit, Bool.and_eq_true, decide_eq_true_eq, UInt32.le_iff_toNat_le] at h
  have h57 : c.toNat ≤ 57 := h.2
  omega

theorem numberOf?_ten {ds : List Char} (h : ∀ c ∈ ds, c.isDigit = true) :
    numberOf? 10 ds = some (ofDigits ds) := by
  unfold numberOf? ofDigits
  generalize 0 = k
  induction ds generalizing k with
  | nil => rfl
  | cons c ds ih =>
    rw [List.forall_mem_cons] at h
    obtain ⟨hvalue, hlt⟩ := hexValue?_of_isDigit h.1
    rw [List.foldlM_cons, hvalue, Option.bind_some, if_pos hlt]
    exact ih h.2 (10 * k + (c.toNat - 48))

/-- Decimal parts are read back. -/
theorem addressPart?_digitText (n : ℕ) : addressPart? (digitText n) = some n := by
  have hnumber : numberOf? 10 (digitText n) = some n := by
    rw [numberOf?_ten fun c hc => isDigit_of_mem_digitText hc, ofDigits_digitText]
  unfold addressPart?
  split
  next h => exact absurd h (digitText_ne_nil n)
  next c r h =>
    rcases Nat.eq_zero_or_pos n with rfl | hpos
    · cases h
    · exact absurd (by rw [h]; rfl) (head?_digitText_ne_zero hpos)
  next => exact hnumber

/-- The parts of an address. -/
def addressParts (n : ℕ) : List ℕ := [n / 256 ^ 3, n / 256 ^ 2 % 256, n / 256 % 256, n % 256]

theorem addressText_eq (n : ℕ) :
    addressText n = ['.'].intercalate ((addressParts n).map digitText) := by
  rw [addressText, addressParts]
  simp only [Nat.pow_eq]

theorem dot_notMem_digitText (n : ℕ) : '.' ∉ digitText n := fun h =>
  absurd (isDigit_of_mem_digitText h) (by decide)

theorem splitOn_addressText (n : ℕ) :
    Text.splitOn '.' (addressText n) = (addressParts n).map digitText := by
  rw [addressText_eq]
  refine Text.splitOn_intercalate (fun p hp => ?_) (by simp [addressParts])
  obtain ⟨k, -, rfl⟩ := List.mem_map.1 hp
  exact dot_notMem_digitText k

theorem nameParts_addressText (n : ℕ) :
    nameParts (addressText n) = (addressParts n).map digitText := by
  unfold nameParts
  rw [splitOn_addressText]
  simp [addressParts, digitText_ne_nil]

theorem endsInNumber_addressText (n : ℕ) : endsInNumber (addressText n) = true := by
  have hlast : (nameParts (addressText n)).getLast? = some (digitText (n % 256)) := by
    rw [nameParts_addressText]
    rfl
  unfold endsInNumber
  rw [hlast]
  dsimp only
  rw [addressPart?_digitText]
  simp

/-- The number of an address of four parts. -/
theorem address?_of_parts {a b c d : ℕ}
    (h : (nameParts cs).mapM addressPart? = some [a, b, c, d]) (ha : a < 256) (hb : b < 256)
    (hc : c < 256) (hd : d < 256) :
    address? cs = some (a * 256 ^ 3 + b * 256 ^ 2 + c * 256 + d) := by
  have hlast : [a, b, c, d].getLast? = some d := rfl
  have hfront : [a, b, c, d].dropLast = [a, b, c] := rfl
  have hfits : ([a, b, c].length < 4 && [a, b, c].all (· < 256) &&
      d < Nat.pow 256 (4 - [a, b, c].length)) = true := by
    simp [ha, hb, hc, hd]
  rw [address?, h, Option.bind_some, hlast, hfront]
  dsimp only
  rw [if_pos hfits, Option.some.injEq, List.foldr_cons, List.foldr_cons, List.foldr_cons,
    List.foldr_nil, Nat.pow_eq]
  omega

/-- Addresses are read back. -/
theorem address?_addressText (h : n < 256 ^ 4) : address? (addressText n) = some n := by
  have hread : (nameParts (addressText n)).mapM addressPart? = some (addressParts n) := by
    rw [nameParts_addressText, Idna.mapM_eq_some_iff, List.forall₂_map_left_iff, List.forall₂_same]
    exact fun k _ => addressPart?_digitText k
  rw [address?_of_parts hread (by omega) (by omega) (by omega) (by omega), Option.some.injEq]
  omega

/-- The parts in front of the last one leave room for it below `256 ^ 4`. -/
theorem foldr_add_le (front : List ℕ) (hlen : front.length ≤ 4) (h : ∀ k ∈ front, k < 256) :
    front.foldr (fun n sum => n * 256 ^ 3 + sum / 256) 0 + 256 ^ (4 - front.length) ≤ 256 ^ 4 := by
  induction front with
  | nil => simp
  | cons k front ih =>
    rw [List.forall_mem_cons] at h
    rw [List.length_cons] at hlen
    have hrest := ih (by omega) h.2
    have hpow : 256 ^ (4 - front.length) = 256 * 256 ^ (4 - (front.length + 1)) := by
      rw [← pow_succ']
      congr 1
      omega
    rw [List.foldr_cons, List.length_cons]
    generalize 256 ^ (4 - (front.length + 1)) = w at hpow ⊢
    rw [hpow] at hrest
    generalize front.foldr (fun n sum => n * 256 ^ 3 + sum / 256) 0 = sum at hrest ⊢
    omega

theorem lt_of_address? (h : address? cs = some n) : n < 256 ^ 4 := by
  obtain ⟨numbers, -, h⟩ := Option.bind_eq_some_iff.1 h
  split at h
  next => cases h
  next last hlast =>
    dsimp only at h
    split_ifs at h with hfits
    simp only [Bool.and_eq_true, decide_eq_true_eq, List.all_eq_true] at hfits
    have hle := foldr_add_le numbers.dropLast hfits.1.1.le hfits.1.2
    obtain rfl := Option.some.inj h
    exact lt_of_lt_of_le (Nat.add_lt_add_left hfits.2 _) hle

theorem nameParts_toLower (cs : List Char) :
    nameParts (cs.map Char.toLower) = (nameParts cs).map (List.map Char.toLower) := by
  have hempty (parts : List (List Char)) :
      (parts.map (List.map Char.toLower)).getLast? = some [] ↔ parts.getLast? = some [] := by
    rw [List.getLast?_map]
    cases parts.getLast? <;> simp
  unfold nameParts
  rw [Text.splitOn_map (Idna.toLower_eq_iff (by decide))]
  simp only [hempty, List.length_map, ← List.map_dropLast]
  split_ifs <;> rfl

theorem mem_splitOn_of_mem_nameParts {p : List Char} (h : p ∈ nameParts cs) :
    p ∈ Text.splitOn '.' cs := by
  unfold nameParts at h
  dsimp only at h
  split_ifs at h
  · exact List.mem_of_mem_dropLast h
  · exact h

/-- What starts with the lead of encoded labels is no number. -/
theorem addressPart?_lead (code : List Char) : addressPart? (Idna.Label.lead ++ code) = none := rfl

/-- A name that does not end in a number does not do so in lower case. -/
theorem not_endsInNumber_toLower {x : List Char} {ls : List Idna.Label} (h : Idna.Labels x t ls)
    (hend : endsInNumber t = false) : endsInNumber (t.map Char.toLower) = false := by
  unfold endsInNumber at hend ⊢
  rw [nameParts_toLower, List.getLast?_map]
  cases hlast : (nameParts t).getLast? with
  | none => rfl
  | some p =>
    rw [hlast] at hend
    rw [Option.map_some]
    have hp := mem_splitOn_of_mem_nameParts (List.mem_of_getLast? hlast)
    rw [h.splitOn_eq] at hp
    obtain ⟨l, hl, rfl⟩ := List.mem_map.1 hp
    obtain ⟨w, -, hread⟩ := h.exists_of_mem hl
    rcases Idna.Label.of?_eq_some hread with ⟨rfl, hplain, -⟩ | ⟨code, hcode, -⟩
    · rw [Idna.map_toLower_of_isPlain hplain]
      exact hend
    · have hlower : l.ascii.map Char.toLower = Idna.Label.lead ++ code.map Char.toLower := by
        rw [hcode.ascii, List.map_append]
        rfl
      rw [hlower]
      dsimp only
      rw [addressPart?_lead]
      rfl

/-! ### Characters of hosts -/

/-- The characters that stand in hosts that are names. -/
def IsHostChar (c : Char) : Prop :=
  0x20 < c.toNat ∧ c.toNat < 0x7F ∧ ("#/:<>?@[\\]^|".toList.contains c) = false

instance (c : Char) : Decidable (IsHostChar c) := inferInstanceAs (Decidable (_ ∧ _ ∧ _))

theorem isHostChar_of_isPlain (h : Idna.IsPlain c ∨ c = '.') : IsHostChar c := by
  rcases h with h | rfl
  · exact Text.of_ascii (P := fun c => Idna.IsPlain c → IsHostChar c) (by decide +kernel) h.2 h
  · decide

theorem isHostChar_of_isAlphanum (h : c.isAlphanum = true) : IsHostChar c :=
  Text.of_isAlphanum (by decide +kernel) h

theorem IsHostChar.toLower (h : IsHostChar c) : IsHostChar c.toLower :=
  Text.of_ascii (P := fun c => IsHostChar c → IsHostChar c.toLower) (by decide +kernel)
    (by have := h.2.1; omega) h

namespace Host

/-! ### Hosts of the web -/

theorem ne_name_of_ofBrackets? {r : Except UrlError Host} (h : ofBrackets? cs = some r) :
    r ≠ .ok (.name t) := by
  rintro rfl
  unfold ofBrackets? at h
  split at h
  · split at h
    · cases h
    · split_ifs at h <;> cases h
  · cases h

/-- What the web reads from a host: an address, or the labels of a name. -/
theorem ofWeb_eq_ok (h : ofWeb cs = .ok (.name t)) :
    (∃ n < 256 ^ 4, t = addressText n) ∨ ∃ x ls, Percent.decode? cs = some x ∧
      Idna.Labels x t ls ∧ t ≠ [] ∧ endsInNumber t = false := by
  unfold ofWeb at h
  cases hbrackets : ofBrackets? cs with
  | some r =>
    rw [hbrackets, Option.getD_some] at h
    exact absurd h (ne_name_of_ofBrackets? hbrackets)
  | none =>
    rw [hbrackets, Option.getD_none] at h
    split at h
    next => cases h
    next domain hdomain =>
      obtain ⟨x, hx, hascii⟩ := Option.bind_eq_some_iff.1 hdomain
      unfold ofDomain at h
      split_ifs at h with hempty hnumber
      · cases haddress : address? domain with
        | none =>
          rw [haddress] at h
          cases h
        | some n =>
          rw [haddress] at h
          cases h
          exact .inl ⟨n, lt_of_address? haddress, rfl⟩
      · cases h
        obtain ⟨ls, hls⟩ := Idna.exists_labels hascii
        refine .inr ⟨x, ls, hx, hls, ?_, Bool.eq_false_iff.2 hnumber⟩
        rintro rfl
        exact hempty rfl

/-- Without a bracket and a percent sign, a host is a name. -/
theorem ofWeb_of_notMem (hbracket : '[' ∉ host) (hpercent : '%' ∉ host) :
    ofWeb host = (Idna.toAscii? host).elim (.error .invalidName) ofDomain := by
  have hbrackets : ofBrackets? host = none := by
    unfold ofBrackets?
    split
    · exact absurd List.mem_cons_self hbracket
    · rfl
  rw [ofWeb, hbrackets, Option.getD_none, Percent.decode?_of_no_percent hpercent, Option.bind_some]
  cases Idna.toAscii? host <;> rfl

/-- A text that is a name in ASCII already. -/
theorem ofWeb_of_plain (hchars : ∀ c ∈ host, Idna.IsPlain c ∨ c = '.') :
    ofWeb host = (Idna.toAscii? host).elim (.error .invalidName) ofDomain :=
  ofWeb_of_notMem (fun h => absurd (hchars _ h) (by decide)) fun h =>
    absurd (hchars _ h) (by decide)

theorem isPlain_addressText (n : ℕ) : ∀ c ∈ addressText n, Idna.IsPlain c ∨ c = '.' := by
  intro c hc
  by_cases hdot : c = '.'
  · exact .inr hdot
  rw [addressText_eq, Text.mem_intercalate_iff hdot] at hc
  obtain ⟨p, hp, hc⟩ := hc
  obtain ⟨k, -, rfl⟩ := List.mem_map.1 hp
  have hdigit := isDigit_of_mem_digitText hc
  exact .inl (Idna.isPlain_of_isDigit hdigit)

/-- An address is a name of plain labels. -/
theorem lead_notPrefix_addressText (n : ℕ) :
    ∀ w ∈ Text.splitOn '.' (addressText n), ¬ Idna.Label.lead <+: w := by
  intro w hw hlead
  rw [splitOn_addressText] at hw
  obtain ⟨k, -, rfl⟩ := List.mem_map.1 hw
  have hdigit := isDigit_of_mem_digitText (hlead.subset (show 'x' ∈ Idna.Label.lead by decide))
  exact absurd hdigit (by decide)

theorem addressText_ne_nil (n : ℕ) : addressText n ≠ [] := by
  intro hnil
  have hends := endsInNumber_addressText n
  rw [hnil] at hends
  cases hends

theorem ne_nil_of_ofWeb (h : ofWeb cs = .ok (.name t)) : t ≠ [] := by
  rcases ofWeb_eq_ok h with ⟨n, -, rfl⟩ | ⟨_, _, -, -, hne, -⟩
  · exact addressText_ne_nil n
  · exact hne

/-- **Addresses are read back.** -/
theorem ofWeb_addressText (h : n < 256 ^ 4) :
    ofWeb (addressText n) = .ok (.name (addressText n)) := by
  have hempty : (addressText n).isEmpty = false :=
    List.isEmpty_eq_false_iff.2 (addressText_ne_nil n)
  rw [ofWeb_of_plain (isPlain_addressText n),
    Idna.toAscii?_of_isPlain (isPlain_addressText n) (lead_notPrefix_addressText n),
    Option.elim_some, ofDomain, hempty, if_neg Bool.false_ne_true,
    if_pos (endsInNumber_addressText n), address?_addressText h]

theorem isShort_addressText (n : ℕ) : Idna.IsShort (addressText n) := fun w hw code hcode =>
  absurd (hcode ▸ List.prefix_append _ code) (lead_notPrefix_addressText n w hw)

/-- The characters of the hosts of the web. -/
theorem isPlain_of_ofWeb (h : ofWeb cs = .ok (.name t)) :
    ∀ c ∈ t.map Char.toLower, Idna.IsPlain c ∨ c = '.' := by
  rcases ofWeb_eq_ok h with ⟨n, -, rfl⟩ | ⟨x, ls, -, hls, -, -⟩
  · intro c hc
    obtain ⟨d, hd, rfl⟩ := List.mem_map.1 hc
    rcases isPlain_addressText n d hd with hplain | rfl
    · rw [Idna.toLower_of_not_isUpper hplain.not_isUpper]
      exact .inl hplain
    · exact .inr (by decide)
  · exact hls.isPlain_toLower

theorem toLower_addressText (n : ℕ) : (addressText n).map Char.toLower = addressText n := by
  refine Idna.map_toLower_of_not_isUpper fun c hc => ?_
  rcases isPlain_addressText n c hc with hplain | rfl
  · exact hplain.not_isUpper
  · decide

/-- **The web reads its own hosts back**, in lower case, if their labels are short enough. -/
theorem ofWeb_toLower_iff (h : ofWeb cs = .ok (.name t)) :
    ofWeb (t.map Char.toLower) = .ok (.name (t.map Char.toLower)) ↔
      Idna.IsShort (t.map Char.toLower) := by
  rcases ofWeb_eq_ok h with ⟨n, hn, rfl⟩ | ⟨x, ls, -, hls, hne, hends⟩
  · rw [toLower_addressText]
    exact iff_of_true (ofWeb_addressText hn) (isShort_addressText n)
  · have hends' := not_endsInNumber_toLower hls hends
    rw [ofWeb_of_plain hls.isPlain_toLower, ← hls.toAscii?_toLower_eq_some_iff]
    constructor
    · intro hweb
      cases hascii : Idna.toAscii? (t.map Char.toLower) with
      | none =>
        rw [hascii] at hweb
        cases hweb
      | some domain =>
        obtain ⟨ls', hls'⟩ := Idna.exists_labels hascii
        rw [hls'.eq_of_isPlain hls.isPlain_toLower]
    · intro hascii
      rw [hascii, Option.elim_some, ofDomain, hends', if_neg (by simpa using hne),
        if_neg Bool.false_ne_true]

/-- What the web reads back but for its case it reads back. -/
theorem eq_of_ofWeb {t' : List Char} (h : ofWeb host = .ok (.name t'))
    (hlower : t'.map Char.toLower = host) : t' = host := by
  have hplain := isPlain_of_ofWeb h
  rcases ofWeb_eq_ok h with ⟨n, -, rfl⟩ | ⟨x, ls, hx, hls, -, -⟩
  · rw [← hlower, toLower_addressText]
  · -- A host that comes back but for its case has no characters to decode or to map.
    rw [hlower] at hplain
    have hpercent : '%' ∉ host := fun h => absurd (hplain _ h) (by decide)
    rw [Percent.decode?_of_no_percent hpercent, Option.some.injEq] at hx
    subst hx
    exact hls.eq_of_isPlain hplain


/-! ### Hosts of other schemes -/

theorem isHostChar_of_ofWeb (h : ofWeb cs = .ok (.name t)) :
    ∀ c ∈ t.map Char.toLower, IsHostChar c := fun c hc =>
  isHostChar_of_isPlain (isPlain_of_ofWeb h c hc)

theorem isHostChar_of_ofOther (h : ofOther cs = .ok (.name t)) : ∀ c ∈ t, IsHostChar c := by
  unfold ofOther at h
  cases hbrackets : ofBrackets? cs with
  | some r =>
    rw [hbrackets, Option.getD_some] at h
    exact absurd h (ne_name_of_ofBrackets? hbrackets)
  | none =>
    rw [hbrackets, Option.getD_none] at h
    split_ifs at h with hforbidden
    cases h
    intro c hc
    rcases Percent.mem_of_mem_encode hc with ⟨hmem, hkept⟩ | rfl | halphanum
    · have hallowed : isForbidden c = false := by
        simpa using fun h => hforbidden (List.any_eq_true.2 ⟨c, hmem, h⟩)
      have hascii : c.toNat < 0x80 := by
        rw [isKept, Bool.and_eq_true, decide_eq_true_eq, decide_eq_true_eq] at hkept
        omega
      exact Text.of_ascii
        (P := fun c => isKept c = true → isForbidden c = false → IsHostChar c)
        (by decide +kernel) hascii hkept hallowed
    · decide
    · exact isHostChar_of_isAlphanum halphanum

end Host

end ThreatModel.Url
