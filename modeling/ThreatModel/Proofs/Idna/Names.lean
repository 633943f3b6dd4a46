import Mathlib
import ThreatModel.Idna.Name
import ThreatModel.Proofs.Pattern.Words
import ThreatModel.Proofs.Text.Separators

/-!
# Domain names read back

The ASCII form of a name, in lower case, is a name that stands for the same characters, if its
encoded labels are short enough to be read at all (`Labels.toAscii?_toLower_eq_some_iff`). Case is
the reason for most of this: a label that was encoded already keeps its capitals when it is read,
and loses them afterwards. It is then still read, because the digits of an encoded label have the
same value in either case (`Punycode.decode?_toLower`), and what is not a digit there belongs to the
label, which has no capitals.
-/

namespace ThreatModel.Idna

variable {c : Char} {cs code u : List Char}

/-! ### Characters -/

theorem toLower_of_not_isUpper (h : c.isUpper = false) : c.toLower = c :=
  Char.toLower_eq_of_not_isUpper (by simp [h])

theorem map_toLower_of_not_isUpper (h : ∀ c ∈ cs, c.isUpper = false) :
    cs.map Char.toLower = cs := by
  refine (List.map_congr_left fun c hc => ?_).trans (List.map_id cs)
  exact toLower_of_not_isUpper (h c hc)

theorem toLower_eq_iff {d : Char} (hd : d.isAlpha = false) (c : Char) : c.toLower = d ↔ c = d := by
  constructor
  · intro h
    have hc : c.isAlpha = false := by rw [← Char.isAlpha_toLower_eq_isAlpha, h, hd]
    rwa [toLower_of_not_isUpper (Bool.or_eq_false_iff.1 hc).1] at h
  · rintro rfl
    exact toLower_of_not_isUpper (Bool.or_eq_false_iff.1 hd).1

/-! ### Punycode -/

namespace Punycode

theorem digitValue?_toLower (c : Char) : digitValue? c.toLower = digitValue? c := by
  by_cases h : c.toNat < 0x80
  · exact Text.of_ascii (P := fun c => digitValue? c.toLower = digitValue? c) (by decide) h
  · rw [toLower_of_not_isUpper]
    by_contra hup
    rw [Bool.not_eq_false] at hup
    have := Text.ascii_of_isAlpha (show c.isAlpha = true by rw [Char.isAlpha, hup, Bool.true_or])
    omega

/-- Numbers are read in either case. -/
theorem readNumber_toLower (bias place weight sum : Nat) (cs : List Char) :
    (readNumber bias place weight sum (cs.map Char.toLower)).map (fun x => (x.1, x.2.1)) =
      (readNumber bias place weight sum cs).map fun x => (x.1, x.2.1.map Char.toLower) := by
  induction cs generalizing place weight sum with
  | nil => rfl
  | cons c r ih =>
    rw [List.map_cons, readNumber, readNumber, digitValue?_toLower]
    cases digitValue? c with
    | none => rfl
    | some d =>
      dsimp only
      split_ifs
      · rfl
      · simpa [Function.comp_def] using ih (place + 36) _ _

theorem readNumber_toLower_of_some {bias place weight sum n : Nat} {rest : Text.Rest cs}
    (h : readNumber bias place weight sum cs = some (n, rest)) :
    ∃ rest', readNumber bias place weight sum (cs.map Char.toLower) = some (n, rest') ∧
      rest'.1 = rest.1.map Char.toLower := by
  have hread := readNumber_toLower bias place weight sum cs
  rw [h] at hread
  obtain ⟨⟨n', rest'⟩, hread', heq⟩ := Option.map_eq_some_iff.1 hread
  obtain ⟨rfl, hrest⟩ := Prod.mk.inj heq
  exact ⟨rest', hread', hrest⟩

/-- So are the characters for them. -/
theorem insertAll_toLower (bias n place : Nat) (done cs : List Char) :
    insertAll bias n place done (cs.map Char.toLower) = insertAll bias n place done cs := by
  fun_induction insertAll bias n place done cs with
  | case1 => rw [List.map_nil, insertAll]
  | case2 bias n place done c r hnone =>
    have hread := readNumber_toLower bias 36 1 place (c :: r)
    rw [hnone, List.map_cons] at hread
    rw [List.map_cons, insertAll, Option.map_eq_none_iff.1 hread]
  | case3 bias n place done c r sum rest hsome count n' hvalid ih =>
    obtain ⟨rest', hread, hrest⟩ := readNumber_toLower_of_some hsome
    change readNumber bias 36 1 place (c.toLower :: r.map Char.toLower) = _ at hread
    rw [List.map_cons, insertAll, hread]
    dsimp only
    rw [if_pos hvalid, ← ih, ← hrest]
  | case4 bias n place done c r sum rest hsome count n' hvalid =>
    obtain ⟨rest', hread, -⟩ := readNumber_toLower_of_some hsome
    change readNumber bias 36 1 place (c.toLower :: r.map Char.toLower) = _ at hread
    rw [List.map_cons, insertAll, hread]
    dsimp only
    rw [if_neg hvalid]

/-- The digits of a number are in front of what is left. -/
theorem mem_of_readNumber {bias place weight sum n : Nat} {cs : List Char} {rest : Text.Rest cs}
    (h : readNumber bias place weight sum cs = some (n, rest)) :
    ∀ c ∈ cs, c ∈ rest.1 ∨ (digitValue? c).isSome := by
  induction cs generalizing place weight sum n with
  | nil => cases h
  | cons d r ih =>
    rw [readNumber] at h
    cases hd : digitValue? d with
    | none =>
      rw [hd] at h
      cases h
    | some v =>
      rw [hd] at h
      dsimp only at h
      intro c hc
      rcases List.mem_cons.1 hc with rfl | hc
      · rw [hd]
        exact .inr rfl
      split_ifs at h
      · cases h
        exact .inl hc
      · obtain ⟨⟨n', rest'⟩, hread, heq⟩ := Option.map_eq_some_iff.1 h
        cases heq
        exact ih hread c hc

theorem mem_of_insertAll {bias n place : Nat} {done cs : List Char}
    (h : insertAll bias n place done cs = some u) :
    (∀ c ∈ done, c ∈ u) ∧ ∀ c ∈ cs, (digitValue? c).isSome := by
  fun_induction insertAll bias n place done cs with
  | case1 bias n place done =>
    obtain rfl := Option.some.inj h
    exact ⟨fun _ hc => hc, fun _ hc => absurd hc List.not_mem_nil⟩
  | case2 => cases h
  | case3 bias n place done c r sum rest hsome count n' hvalid ih =>
    obtain ⟨hdone, hrest⟩ := ih h
    have hplace : sum % count ≤ done.length := Nat.le_of_lt_succ (Nat.mod_lt _ (Nat.succ_pos _))
    refine ⟨fun d hd => hdone d ((List.mem_insertIdx hplace).2 (.inr hd)), fun d hd => ?_⟩
    exact (mem_of_readNumber hsome d hd).elim (hrest d) id
  | case4 => cases h

theorem decode?_eq_some (h : decode? code = some u) :
    Text.splitLast? '-' code = none ∧ insertAll 72 0x80 0 [] code = some u ∨
      ∃ basic digits, Text.splitLast? '-' code = some (basic, digits) ∧ basic ≠ [] ∧
        (∀ c ∈ basic, c.toNat < 0x80) ∧ insertAll 72 0x80 0 basic digits = some u := by
  unfold decode? at h
  split at h
  next hnone => exact .inl ⟨hnone, h⟩
  next basic digits hsome =>
    split_ifs at h with hbasic
    rw [Bool.and_eq_true, List.all_eq_true] at hbasic
    refine .inr ⟨basic, digits, hsome, ?_, fun c hc => of_decide_eq_true (hbasic.2 c hc), h⟩
    simpa using hbasic.1

/-- What a text is written with: characters of it, a hyphen, and digits. -/
theorem mem_of_decode? (h : decode? code = some u) :
    ∀ c ∈ code, (c ∈ u ∧ c.toNat < 0x80) ∨ c = '-' ∨ (digitValue? c).isSome := by
  intro c hc
  rcases decode?_eq_some h with ⟨-, hinsert⟩ | ⟨basic, digits, hsplit, -, hascii, hinsert⟩
  · exact .inr (.inr ((mem_of_insertAll hinsert).2 c hc))
  · obtain ⟨hbasic, hdigits⟩ := mem_of_insertAll hinsert
    rw [Text.eq_of_splitLast? hsplit] at hc
    rcases List.mem_append.1 hc with hc | hc
    · exact .inl ⟨hbasic c hc, hascii c hc⟩
    rcases List.mem_cons.1 hc with rfl | hc
    · exact .inr (.inl rfl)
    · exact .inr (.inr (hdigits c hc))

/-- A text is read in either case, if its own characters are in lower case. -/
theorem decode?_toLower (h : decode? code = some u)
    (hu : ∀ c ∈ u, c.toNat < 0x80 → c.isUpper = false) :
    decode? (code.map Char.toLower) = some u := by
  rw [decode?, Text.splitLast?_map (toLower_eq_iff (by decide))]
  rcases decode?_eq_some h with ⟨hsplit, hinsert⟩ | ⟨basic, digits, hsplit, hne, hascii, hinsert⟩
  · rw [hsplit, Option.map_none]
    dsimp only
    rw [insertAll_toLower, hinsert]
  · have hlower : basic.map Char.toLower = basic :=
      map_toLower_of_not_isUpper fun c hc => hu c ((mem_of_insertAll hinsert).1 c hc) (hascii c hc)
    have hbasic : (!basic.isEmpty && basic.all (·.toNat < 0x80)) = true := by
      simpa [hne] using hascii
    rw [hsplit, Option.map_some, Prod.map, hlower]
    dsimp only
    rw [if_pos hbasic, insertAll_toLower, hinsert]

end Punycode

/-! ### Characters of names -/

/-- The characters of ASCII that a name may hold. -/
def IsPlain (c : Char) : Prop := isAllowed c = true ∧ c.toNat < 0x80

instance (c : Char) : Decidable (IsPlain c) := inferInstanceAs (Decidable (_ ∧ _))

theorem IsPlain.not_isUpper (h : IsPlain c) : c.isUpper = false := by
  have hallowed := h.1
  rw [isAllowed, if_pos h.2] at hallowed
  simp only [Bool.and_eq_true, Bool.not_eq_true'] at hallowed
  exact hallowed.1.2

theorem map_toLower_of_isPlain (h : ∀ c ∈ cs, IsPlain c) : cs.map Char.toLower = cs :=
  map_toLower_of_not_isUpper fun c hc => (h c hc).not_isUpper

theorem isPlain_of_isDigit (h : c.isDigit = true) : IsPlain c :=
  Text.of_isAlphanum (P := fun c => c.isDigit = true → IsPlain c) (by decide +kernel)
    (Text.isAlphanum_of_isDigit h) h

/-- A digit of an encoded label in lower case. -/
theorem isPlain_toLower_of_digitValue? (h : (Punycode.digitValue? c).isSome) :
    IsPlain c.toLower := by
  have hascii : c.toNat < 0x80 := by
    by_contra hc
    have halphanum : c.isAlphanum = false := by
      rw [← Bool.not_eq_true]
      intro h
      have := Text.ascii_of_isAlphanum h
      omega
    simp only [Char.isAlphanum, Char.isAlpha, Bool.or_eq_false_iff] at halphanum
    simp [Punycode.digitValue?, halphanum] at h
  exact Text.of_ascii (P := fun c => (Punycode.digitValue? c).isSome → IsPlain c.toLower)
    (by decide) hascii h

/-! ### Labels -/

namespace Label

/-- Whether what encodes the characters of a label is short enough to be read. -/
def IsShort (label : List Char) : Prop := ∀ code, label = lead ++ code → code.length ≤ maxEncoded

/-- A label with characters outside of ASCII, in its encoded form. -/
structure Encodes (l : Label) (code : List Char) : Prop where
  ascii : l.ascii = lead ++ code
  decode : Punycode.decode? code = some l.characters
  notAscii : isAscii l.characters = false
  valid : isValid l.characters = true

theorem of?_eq_some {l : Label} (h : of? cs = some l) :
    (l = ⟨cs, cs⟩ ∧ (∀ c ∈ cs, IsPlain c) ∧ ¬ lead <+: cs) ∨
      ∃ code, l.Encodes code ∧ ('.' ∉ cs → '.' ∉ code) := by
  unfold of? at h
  split_ifs at h with hascii
  · unfold ofAscii? Text.afterLead? at h
    by_cases hlead : lead.isPrefixOf cs = true
    · rw [if_pos hlead] at h
      dsimp only at h
      split_ifs at h
      obtain ⟨u, hdecode, hu⟩ := Option.bind_eq_some_iff.1 h
      split_ifs at hu with hvalid
      rw [Bool.and_eq_true, Bool.not_eq_true'] at hvalid
      obtain rfl := Option.some.inj hu
      have hcs := (List.prefix_iff_eq_append.1 (List.isPrefixOf_iff_prefix.1 hlead)).symm
      refine .inr ⟨cs.drop lead.length, ⟨hcs, hdecode, hvalid.1, hvalid.2⟩, fun hdot hmem => ?_⟩
      exact hdot (List.mem_of_mem_drop hmem)
    · rw [if_neg hlead] at h
      dsimp only at h
      split_ifs at h with hall
      obtain rfl := Option.some.inj h
      refine .inl ⟨rfl, fun c hc => ⟨List.all_eq_true.1 hall c hc, ?_⟩, fun hpre => ?_⟩
      · exact of_decide_eq_true (List.all_eq_true.1 hascii c hc)
      · exact hlead (List.isPrefixOf_iff_prefix.2 hpre)
  · unfold ofUnicode? at h
    simp only [Option.ite_none_right_eq_some, Bool.and_eq_true, beq_iff_eq, Option.some.injEq] at h
    obtain ⟨⟨⟨⟨-, hvalid⟩, -⟩, hdecode⟩, rfl⟩ := h
    refine .inr ⟨_, ⟨rfl, hdecode, Bool.eq_false_iff.2 hascii, hvalid⟩, fun hdot hmem => ?_⟩
    rcases Punycode.mem_of_decode? hdecode '.' hmem with h | h | h
    · exact hdot h.1
    · exact absurd h (by decide)
    · exact absurd h (by decide)

theorem Encodes.isPlain_toLower {l : Label} (h : l.Encodes code) :
    ∀ c ∈ l.ascii.map Char.toLower, IsPlain c := by
  intro d hd
  obtain ⟨c, hc, rfl⟩ := List.mem_map.1 hd
  rw [h.ascii, List.mem_append] at hc
  rcases hc with hc | hc
  · exact Text.forall_mem_of_all (P := fun c => IsPlain c.toLower) (by decide +kernel) c hc
  rcases Punycode.mem_of_decode? h.decode c hc with ⟨hmem, hascii⟩ | rfl | hdigit
  · have hvalid := h.valid
    simp only [isValid, Bool.and_eq_true, List.all_eq_true] at hvalid
    have hplain : IsPlain c := ⟨hvalid.1.1.2 c hmem, hascii⟩
    rwa [toLower_of_not_isUpper hplain.not_isUpper]
  · decide
  · exact isPlain_toLower_of_digitValue? hdigit

theorem isPlain_of_mem_toLower {l : Label} (h : of? cs = some l) :
    ∀ c ∈ l.ascii.map Char.toLower, IsPlain c := by
  rcases of?_eq_some h with ⟨rfl, hplain, -⟩ | ⟨code, hcode, -⟩
  · rwa [map_toLower_of_isPlain hplain]
  · exact hcode.isPlain_toLower

theorem isAscii_of_isPlain (h : ∀ c ∈ cs, IsPlain c) : isAscii cs = true :=
  List.all_eq_true.2 fun c hc => decide_eq_true (h c hc).2

/-- A plain label stands for itself. -/
theorem of?_of_isPlain (h : ∀ c ∈ cs, IsPlain c) (hlead : ¬ lead <+: cs) :
    of? cs = some ⟨cs, cs⟩ := by
  have hall : cs.all isAllowed = true := List.all_eq_true.2 fun c hc => (h c hc).1
  rw [of?, if_pos (isAscii_of_isPlain h), ofAscii?, Text.afterLead?,
    if_neg (mt List.isPrefixOf_iff_prefix.1 hlead)]
  exact if_pos hall

/-- An encoded label in lower case is read, if it is short. -/
theorem Encodes.of?_toLower {l : Label} (h : l.Encodes code) :
    of? (l.ascii.map Char.toLower) =
      if maxEncoded < code.length then none
      else some ⟨l.characters, l.ascii.map Char.toLower⟩ := by
  have hlower : l.ascii.map Char.toLower = lead ++ code.map Char.toLower := by
    rw [h.ascii, List.map_append]
    rfl
  rw [of?, if_pos (isAscii_of_isPlain h.isPlain_toLower), ofAscii?, hlower, Text.afterLead?,
    if_pos (List.isPrefixOf_iff_prefix.2 (List.prefix_append _ _)), List.drop_left]
  dsimp only
  have hcase : ∀ c ∈ l.characters, c.toNat < 0x80 → c.isUpper = false := by
    intro c hc hascii
    have hvalid := h.valid
    simp only [isValid, Bool.and_eq_true, List.all_eq_true] at hvalid
    exact IsPlain.not_isUpper ⟨hvalid.1.1.2 c hc, hascii⟩
  have hvalid : (!isAscii l.characters && isValid l.characters) = true := by
    rw [h.notAscii, h.valid]
    rfl
  rw [List.length_map, Punycode.decode?_toLower h.decode hcase, Option.bind_some, if_pos hvalid]

/-- **Labels are read back.** The ASCII form of a label, in lower case, stands for the same
characters, if it is short enough to be read at all. -/
theorem of?_toLower {l : Label} (h : of? cs = some l) :
    of? (l.ascii.map Char.toLower) = some ⟨l.characters, l.ascii.map Char.toLower⟩ ∧
        IsShort (l.ascii.map Char.toLower) ∨
      of? (l.ascii.map Char.toLower) = none ∧ ¬ IsShort (l.ascii.map Char.toLower) := by
  rcases of?_eq_some h with ⟨rfl, hplain, hlead⟩ | ⟨code, hcode, -⟩
  · rw [map_toLower_of_isPlain hplain]
    refine .inl ⟨of?_of_isPlain hplain hlead, fun code hcode => ?_⟩
    exact absurd (hcode ▸ List.prefix_append lead code) hlead
  · have hlower : l.ascii.map Char.toLower = lead ++ code.map Char.toLower := by
      rw [hcode.ascii, List.map_append]
      rfl
    have hshort : IsShort (l.ascii.map Char.toLower) ↔ code.length ≤ maxEncoded := by
      rw [hlower, IsShort]
      constructor
      · intro h
        simpa using h _ rfl
      · intro h code' hcode'
        rw [← List.append_cancel_left hcode', List.length_map]
        exact h
    rw [hcode.of?_toLower, hshort]
    split_ifs with hlong
    · exact .inr ⟨rfl, Nat.not_le.2 hlong⟩
    · exact .inl ⟨rfl, Nat.le_of_not_lt hlong⟩

end Label

/-! ### Names -/

theorem prepare_of_ascii (h : ∀ c ∈ cs, c.toNat < 0x80) : prepare cs = cs.map Char.toLower := by
  have hmapped : cs.flatMap mapped = cs.map Char.toLower := by
    rw [List.map_eq_flatMap]
    exact List.flatMap_congr fun c hc => mapped_of_ascii (h c hc)
  rw [prepare, hmapped]
  refine Text.compose_of_ascii fun c hc => ?_
  obtain ⟨d, hd, rfl⟩ := List.mem_map.1 hc
  exact Text.of_ascii (P := fun d => d.toLower.toNat < 0x80) (by decide) (h d hd)

theorem prepare_of_isPlain (h : ∀ c ∈ cs, IsPlain c ∨ c = '.') : prepare cs = cs := by
  have hplain (c : Char) (hc : c ∈ cs) : c.toNat < 0x80 ∧ c.isUpper = false := by
    rcases h c hc with hplain | rfl
    · exact ⟨hplain.2, hplain.not_isUpper⟩
    · decide
  rw [prepare_of_ascii fun c hc => (hplain c hc).1,
    map_toLower_of_not_isUpper fun c hc => (hplain c hc).2]

/-- The case of a name in ASCII does not matter. -/
theorem toAscii?_map_toLower (h : ∀ c ∈ cs, c.toNat < 0x80) :
    toAscii? (cs.map Char.toLower) = toAscii? cs := by
  have hlower : prepare (cs.map Char.toLower) = prepare cs := by
    rw [prepare_of_ascii h, prepare_of_ascii, List.map_map]
    · exact List.map_congr_left fun c _ => Char.toLower_toLower_eq_toLower c
    · intro c hc
      obtain ⟨d, hd, rfl⟩ := List.mem_map.1 hc
      exact Text.of_ascii (P := fun d => d.toLower.toNat < 0x80) (by decide) (h d hd)
  rw [toAscii?, toAscii?, hlower]

/-- Whether all labels of a name are short enough to be read. -/
def IsShort (name : List Char) : Prop := ∀ label ∈ Text.splitOn '.' name, Label.IsShort label

theorem mapM_eq_some_iff {α β : Type} {f : α → Option β} {xs : List α} {ys : List β} :
    xs.mapM f = some ys ↔ List.Forall₂ (fun x y => f x = some y) xs ys := by
  induction xs generalizing ys with
  | nil => simp [eq_comm]
  | cons x xs ih =>
    rw [List.mapM_cons, List.forall₂_cons_left_iff]
    constructor
    · intro h
      obtain ⟨y, hy, h⟩ := Option.bind_eq_some_iff.1 h
      obtain ⟨ys', hys, h⟩ := Option.bind_eq_some_iff.1 h
      exact ⟨y, ys', hy, ih.1 hys, (Option.some.inj h).symm⟩
    · rintro ⟨y, ys', hy, hys, rfl⟩
      rw [hy, ih.2 hys]
      rfl

/-- The labels of a name. -/
structure Labels (cs name : List Char) (ls : List Label) : Prop where
  read : List.Forall₂ (fun w l => Label.of? w = some l) (Text.splitOn '.' (prepare cs)) ls
  oneWay : isOneWay (ls.map (·.characters)) = true
  name : name = ['.'].intercalate (ls.map (·.ascii))

theorem exists_labels {name : List Char} (h : toAscii? cs = some name) :
    ∃ ls, Labels cs name ls := by
  obtain ⟨ls, hls, h⟩ := Option.bind_eq_some_iff.1 h
  split_ifs at h with honeWay
  exact ⟨ls, mapM_eq_some_iff.1 hls, honeWay, (Option.some.inj h).symm⟩

theorem Labels.toAscii?_eq_some {name : List Char} {ls : List Label} (h : Labels cs name ls) :
    toAscii? cs = some name := by
  rw [toAscii?, mapM_eq_some_iff.2 h.read, Option.bind_some, if_pos h.oneWay, h.name]

theorem isOneWay_of_isAscii {labels : List (List Char)}
    (h : ∀ l ∈ labels, ∀ c ∈ l, c.toNat < 0x80) : isOneWay labels = true := by
  refine isOneWay_of_leftToRight ?_
  rw [Bool.eq_false_iff, ne_eq, List.any_eq_true]
  rintro ⟨l, hl, hturns⟩
  obtain ⟨c, hc, hdirection⟩ := List.any_eq_true.1 hturns
  rw [Direction.of, if_pos (h l hl c hc)] at hdirection
  split_ifs at hdirection <;> simp at hdirection

theorem isPlain_of_mem_splitOn (h : ∀ c ∈ cs, IsPlain c ∨ c = '.') :
    ∀ w ∈ Text.splitOn '.' cs, ∀ c ∈ w, IsPlain c := fun _ hw c hc =>
  (h c (Text.mem_of_mem_splitOn hw hc)).resolve_right
    (ne_of_mem_of_not_mem hc (Text.notMem_of_mem_splitOn hw))

/-- A name of plain labels stands for itself. -/
theorem toAscii?_of_isPlain (h : ∀ c ∈ cs, IsPlain c ∨ c = '.')
    (hlead : ∀ w ∈ Text.splitOn '.' cs, ¬ Label.lead <+: w) : toAscii? cs = some cs := by
  have hplain := isPlain_of_mem_splitOn h
  have hlabels : Labels cs cs ((Text.splitOn '.' cs).map fun w => ⟨w, w⟩) := by
    refine ⟨?_, isOneWay_of_isAscii fun l hl c hc => ?_, ?_⟩
    · rw [prepare_of_isPlain h, List.forall₂_map_right_iff, List.forall₂_same]
      exact fun w hw => Label.of?_of_isPlain (hplain w hw) (hlead w hw)
    · rw [List.map_map] at hl
      obtain ⟨w, hw, rfl⟩ := List.mem_map.1 hl
      exact (hplain w hw c hc).2
    · rw [List.map_map]
      exact ((congrArg _ (List.map_id _)).trans (Text.intercalate_splitOn '.' cs)).symm
  exact hlabels.toAscii?_eq_some

/-- A label in ASCII is written as it is. -/
theorem Label.ascii_of_isPlain {l : Label} (hcs : ∀ c ∈ cs, IsPlain c) (h : of? cs = some l) :
    l.ascii = cs := by
  rw [of?, if_pos (isAscii_of_isPlain hcs)] at h
  unfold ofAscii? at h
  split at h
  · split_ifs at h
    cases h
    rfl
  · split_ifs at h
    obtain ⟨u, -, hu⟩ := Option.bind_eq_some_iff.1 h
    split_ifs at hu
    cases hu
    rfl

namespace Labels

variable {name : List Char} {ls : List Label}

/-- What is a name in ASCII already is kept. -/
theorem eq_of_isPlain (h : Labels cs name ls) (hcs : ∀ c ∈ cs, IsPlain c ∨ c = '.') :
    name = cs := by
  have hread := h.read
  rw [prepare_of_isPlain hcs] at hread
  have hascii : List.Forall₂ (fun w l => w = Label.ascii l) (Text.splitOn '.' cs) ls :=
    ((List.forall₂_and_left _ _).2 ⟨isPlain_of_mem_splitOn hcs, hread⟩).imp
      fun _ _ hw => (Label.ascii_of_isPlain hw.1 hw.2).symm
  rw [← List.forall₂_map_right_iff, List.forall₂_eq_eq_eq] at hascii
  rw [h.name, ← hascii, Text.intercalate_splitOn]

theorem exists_of_mem (h : Labels cs name ls) {l : Label} (hl : l ∈ ls) :
    ∃ w, '.' ∉ w ∧ Label.of? w = some l := by
  obtain ⟨w, hw, hread⟩ := Pattern.exists_mem_of_forall₂ h.read.flip hl
  exact ⟨w, Text.notMem_of_mem_splitOn hw, hread⟩

/-- The labels of a name, one by one. -/
theorem splitOn_eq (h : Labels cs name ls) : Text.splitOn '.' name = ls.map (·.ascii) := by
  have hdot : ∀ w ∈ ls.map (·.ascii), '.' ∉ w := by
    intro w hw
    obtain ⟨l, hl, rfl⟩ := List.mem_map.1 hw
    obtain ⟨v, hv, hread⟩ := h.exists_of_mem hl
    rcases Label.of?_eq_some hread with ⟨rfl, -, -⟩ | ⟨code, hcode, hnot⟩
    · exact hv
    · rw [hcode.ascii, List.mem_append, not_or]
      exact ⟨by decide, hnot hv⟩
  have hne : ls.map (·.ascii) ≠ [] := by
    rw [ne_eq, List.map_eq_nil_iff, ← List.length_eq_zero_iff, ← h.read.length_eq,
      List.length_eq_zero_iff]
    exact Text.splitOn_ne_nil '.' (prepare cs)
  rw [h.name]
  exact Text.splitOn_intercalate hdot hne

theorem splitOn_toLower (h : Labels cs name ls) :
    Text.splitOn '.' (name.map Char.toLower) = ls.map fun l => l.ascii.map Char.toLower := by
  rw [Text.splitOn_map (toLower_eq_iff (by decide)), h.splitOn_eq, List.map_map]
  rfl

theorem isPlain_toLower (h : Labels cs name ls) :
    ∀ c ∈ name.map Char.toLower, IsPlain c ∨ c = '.' := by
  intro c hc
  by_cases hdot : c = '.'
  · exact .inr hdot
  rw [← Text.intercalate_splitOn '.' (name.map Char.toLower), Text.mem_intercalate_iff hdot,
    h.splitOn_toLower] at hc
  obtain ⟨w, hw, hc⟩ := hc
  obtain ⟨l, hl, rfl⟩ := List.mem_map.1 hw
  obtain ⟨v, -, hread⟩ := h.exists_of_mem hl
  exact .inl (Label.isPlain_of_mem_toLower hread c hc)

/-- **Names are read back**, in lower case, if they are short enough. -/
theorem toAscii?_toLower_eq_some_iff (h : Labels cs name ls) :
    toAscii? (name.map Char.toLower) = some (name.map Char.toLower) ↔
      IsShort (name.map Char.toLower) := by
  have hprepare := prepare_of_isPlain h.isPlain_toLower
  have hsplit := h.splitOn_toLower
  constructor
  · intro hname label hlabel
    obtain ⟨ls', hls'⟩ := exists_labels hname
    have hread := hls'.read
    rw [hprepare] at hread
    obtain ⟨l', -, hl'⟩ := Pattern.exists_mem_of_forall₂ hread hlabel
    rw [hsplit] at hlabel
    obtain ⟨l, hl, rfl⟩ := List.mem_map.1 hlabel
    obtain ⟨w, -, hw⟩ := h.exists_of_mem hl
    rcases Label.of?_toLower hw with ⟨-, hshort⟩ | ⟨hnone, -⟩
    · exact hshort
    · rw [hnone] at hl'
      cases hl'
  · intro hshort
    let lower (l : Label) : Label := ⟨l.characters, l.ascii.map Char.toLower⟩
    have hlower : Labels (name.map Char.toLower) (name.map Char.toLower) (ls.map lower) := by
      refine ⟨?_, ?_, ?_⟩
      · rw [hprepare, hsplit, List.forall₂_map_left_iff, List.forall₂_map_right_iff,
          List.forall₂_same]
        intro l hl
        obtain ⟨w, -, hw⟩ := h.exists_of_mem hl
        rcases Label.of?_toLower hw with ⟨hsome, -⟩ | ⟨-, hlong⟩
        · exact hsome
        · exact absurd (hshort _ (hsplit ▸ List.mem_map_of_mem hl)) hlong
      · rw [List.map_map]
        exact h.oneWay
      · rw [List.map_map, ← Text.intercalate_splitOn '.' (name.map Char.toLower), hsplit]
        rfl
    exact hlower.toAscii?_eq_some

end Labels

end ThreatModel.Idna
