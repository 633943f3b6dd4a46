import ThreatModel.Proofs.Text.Classes
import ThreatModel.Proofs.Text.Separators
import ThreatModel.Rules.SecretFix

/-!
# Styles of names

A key made of words may be spelled in any of the usual styles: with a capital letter where a word
starts, with hyphens, underscores or points between the words, or all in capital letters. The name
of the variable is the same in all of them, the words in capital letters with underscores between
them, and other words have another name (`styles_converge`).

The name is made character by character, and all that is known of the characters that went before is
whether the last one was a small letter or a digit. `Scans` says what the characters of one piece of
a key do to the name and to this state, whatever follows. A key is put together from its words, each
of which leaves the state that the next one needs (`Style.Ready`).

Words have two letters at least: a capital letter directly behind another one starts no word, so
that `aBC` does not have the name of `a-b-c`.
-/

namespace ThreatModel.Naming

/-! ### Words and styles -/

/-- A word of a key: small letters, two at least, and digits behind them. -/
@[ext]
structure Word where
  letters : List Char
  digits : List Char
  two_le_letters : 2 ≤ letters.length
  isLower : ∀ c ∈ letters, c.isLower = true
  isDigit : ∀ c ∈ digits, c.isDigit = true

namespace Word

variable (w : Word)

/-- The characters of a word. -/
def small : List Char := w.letters ++ w.digits

/-- A word with a capital letter in front. -/
def capitalized : List Char := w.small.modifyHead Char.toUpper

/-- A word in capital letters. -/
def capital : List Char := w.small.map Char.toUpper

end Word

/-- Words with a character between them. -/
def joined (sep : Char) (form : Word → List Char) (ws : List Word) : List Char :=
  [sep].intercalate (ws.map form)

/-- Styles of names. -/
inductive Style
  | camelCase
  | kebabCase
  | snakeCase
  | dotted
  | screamingSnakeCase
  deriving DecidableEq, Repr

/-- The spelling of words in a style. -/
def Style.spelling : Style → List Word → List Char
  | camelCase, [] => []
  | camelCase, w :: ws => w.small ++ ws.flatMap Word.capitalized
  | kebabCase, ws => joined '-' Word.small ws
  | snakeCase, ws => joined '_' Word.small ws
  | dotted, ws => joined '.' Word.small ws
  | screamingSnakeCase, ws => joined '_' Word.capital ws

/-! ### Pieces of keys -/

variable {p q s : Bool} {c : Char} {a b x y cs : List Char} {w v : Word} {ws vs : List Word}

/-- The characters `cs` of a key add `name` to the name of the variable and take the state from `p`
to `q`, whatever follows. -/
def Scans (p : Bool) (cs name : List Char) (q : Bool) : Prop :=
  ∀ r, envNameFrom p (cs ++ r) = name ++ envNameFrom q r

theorem Scans.nil : Scans p [] [] p := fun _ => rfl

theorem Scans.append (h : Scans p a x q) (h' : Scans q b y s) : Scans p (a ++ b) (x ++ y) s := by
  intro r
  rw [List.append_assoc, h, h', List.append_assoc]

theorem Scans.envNameFrom_eq (h : Scans p cs x q) : envNameFrom p cs = x := by
  have h := h []
  rwa [List.append_nil, envNameFrom, List.append_nil] at h

/-- The characters that separate words. -/
def IsSeparator (c : Char) : Prop := c = '-' ∨ c = '_' ∨ c = '.'

theorem not_isSeparator_of_isAlphanum (h : c.isAlphanum = true) : ¬ IsSeparator c := by
  rintro (rfl | rfl | rfl) <;> cases h

theorem scans_separator (h : IsSeparator c) : Scans p [c] ['_'] false := by
  intro r
  obtain rfl | rfl | rfl := h <;> rfl

theorem isAlpha_of_isUpper (h : c.isUpper = true) : c.isAlpha = true := by
  rw [Char.isAlpha, h, Bool.true_or]

theorem isAlphanum_of_isUpper (h : c.isUpper = true) : c.isAlphanum = true := by
  rw [Char.isAlphanum, isAlpha_of_isUpper h, Bool.true_or]

theorem not_isAlpha_of_isDigit (h : c.isDigit = true) : c.isAlpha = false := by
  rw [← Bool.not_eq_true]
  intro halpha
  rw [Text.not_isDigit_of_isAlpha halpha] at h
  cases h

theorem not_isLower_of_isDigit (h : c.isDigit = true) : c.isLower = false :=
  (Bool.or_eq_false_iff.1 (not_isAlpha_of_isDigit h)).2

theorem not_isUpper_of_small (h : c.isLower = true ∨ c.isDigit = true) : c.isUpper = false := by
  rcases h with h | h
  · simpa using Char.not_isUpper_of_isLower h
  · exact (Bool.or_eq_false_iff.1 (not_isAlpha_of_isDigit h)).1

theorem isAlphanum_of_small (h : c.isLower = true ∨ c.isDigit = true) : c.isAlphanum = true := by
  rcases h with h | h <;> simp [Char.isAlphanum, Char.isAlpha, h]

theorem envNameFrom_cons_of_isAlphanum (h : c.isAlphanum = true) (p : Bool) (r : List Char) :
    envNameFrom p (c :: r) = (if c.isUpper && p then ['_'] else []) ++
      c.toUpper :: envNameFrom (c.isLower || c.isDigit) r := by
  have hsep : ¬ (c = '-' || c = '_' || c = '.') = true := by
    simpa [IsSeparator, and_assoc] using not_isSeparator_of_isAlphanum h
  rw [envNameFrom, if_neg hsep]
  split <;> rfl

/-- Small letters and digits start no word, and a capital letter behind them would. -/
theorem scans_of_small (h : c.isLower = true ∨ c.isDigit = true) :
    Scans p [c] [c.toUpper] true := by
  intro r
  have hstate : (c.isLower || c.isDigit) = true := by simpa using h
  rw [List.singleton_append, envNameFrom_cons_of_isAlphanum (isAlphanum_of_small h),
    not_isUpper_of_small h, hstate]
  rfl

/-- A capital letter starts a word where the last character was a small letter or a digit. -/
theorem scans_of_isUpper (h : c.isUpper = true) :
    Scans p [c] ((if p then ['_'] else []) ++ [c]) false := by
  intro r
  have hlow : c.isLower = false := by simpa using Char.not_isLower_of_isUpper h
  have hup : c.toUpper = c := Char.toUpper_eq_of_not_isLower (by simp [hlow])
  rw [List.singleton_append, envNameFrom_cons_of_isAlphanum (isAlphanum_of_isUpper h), h, hup,
    hlow, Text.not_isDigit_of_isAlpha (isAlpha_of_isUpper h), Bool.true_and, List.append_assoc]
  rfl

/-! ### Words -/

/-- Characters that leave the state as it is. -/
theorem scans_map {f : Char → Char} (h : ∀ c ∈ cs, Scans p [c] [f c] p) :
    Scans p cs (cs.map f) p := by
  induction cs with
  | nil => exact Scans.nil
  | cons c cs ih =>
    exact (h c List.mem_cons_self).append (ih fun d hd => h d (List.mem_cons_of_mem c hd))

theorem scans_smalls (h : ∀ c ∈ cs, c.isLower = true ∨ c.isDigit = true) :
    Scans true cs (cs.map Char.toUpper) true :=
  scans_map fun c hc => scans_of_small (h c hc)

/-- After one small letter or digit the state is known. -/
theorem scans_smalls_of_ne_nil (hne : cs ≠ []) (h : ∀ c ∈ cs, c.isLower = true ∨ c.isDigit = true) :
    Scans p cs (cs.map Char.toUpper) true := by
  obtain ⟨c, cs, rfl⟩ := List.exists_cons_of_ne_nil hne
  exact (scans_of_small (h c List.mem_cons_self)).append
    (scans_smalls fun d hd => h d (List.mem_cons_of_mem c hd))

theorem scans_capitals (h : ∀ c ∈ cs, c.isUpper = true) : Scans false cs cs false := by
  have hscan : Scans false cs (cs.map id) false := scans_map fun c hc => scans_of_isUpper (h c hc)
  rwa [List.map_id] at hscan

namespace Word

theorem of_mem_small (h : c ∈ w.small) : c.isLower = true ∨ c.isDigit = true :=
  (List.mem_append.1 h).imp (w.isLower c) (w.isDigit c)

/-- A word has two letters in front. -/
theorem exists_small_eq (w : Word) : ∃ c d r, w.small = c :: d :: r ∧ c.isLower = true := by
  obtain ⟨letters, digits, hlen, hlower, -⟩ := w
  match letters, hlen with
  | c :: d :: r, _ => exact ⟨c, d, r ++ digits, rfl, hlower c List.mem_cons_self⟩

end Word

theorem scans_small (w : Word) (p : Bool) : Scans p w.small w.capital true := by
  obtain ⟨c, d, r, hw, -⟩ := w.exists_small_eq
  exact scans_smalls_of_ne_nil (by simp [hw]) fun c => Word.of_mem_small

theorem scans_capitalized (w : Word) : Scans true w.capitalized ('_' :: w.capital) true := by
  obtain ⟨c, d, r, hw, hc⟩ := w.exists_small_eq
  have hup : c.toUpper.isUpper = true := by
    rw [Char.isUpper_toUpper_eq_isAlpha, Char.isAlpha, hc, Bool.or_true]
  have hrest : ∀ x ∈ d :: r, x.isLower = true ∨ x.isDigit = true := fun x hx =>
    Word.of_mem_small (w := w) (hw ▸ List.mem_cons_of_mem c hx)
  rw [Word.capitalized, Word.capital, hw]
  exact (scans_of_isUpper hup).append (scans_smalls_of_ne_nil (List.cons_ne_nil d r) hrest)

theorem map_toUpper_of_isDigit (h : ∀ c ∈ cs, c.isDigit = true) : cs.map Char.toUpper = cs := by
  have hsame : ∀ c ∈ cs, c.toUpper = c := by
    intro c hc
    exact Char.toUpper_eq_of_not_isLower (by simp [not_isLower_of_isDigit (h c hc)])
  rw [List.map_congr_left hsame, List.map_id']

/-- Digits at the end of a word change the state, and no more than that. -/
theorem scans_digits (h : ∀ c ∈ cs, c.isDigit = true) : ∃ q, Scans p cs cs q := by
  rcases eq_or_ne cs [] with rfl | hne
  · exact ⟨p, Scans.nil⟩
  · have hscan := scans_smalls_of_ne_nil (p := p) hne fun c hc => .inr (h c hc)
    rw [map_toUpper_of_isDigit h] at hscan
    exact ⟨true, hscan⟩

theorem scans_capital (w : Word) : ∃ q, Scans false w.capital w.capital q := by
  have hletters : ∀ c ∈ w.letters.map Char.toUpper, c.isUpper = true := by
    rw [List.forall_mem_map]
    intro c hc
    rw [Char.isUpper_toUpper_eq_isAlpha, Char.isAlpha, w.isLower c hc, Bool.or_true]
  obtain ⟨q, hdigits⟩ := scans_digits (p := false) w.isDigit
  rw [Word.capital, Word.small, List.map_append, map_toUpper_of_isDigit w.isDigit]
  exact ⟨q, (scans_capitals hletters).append hdigits⟩

/-! ### Keys -/

theorem joined_cons (sep : Char) (form : Word → List Char) (w : Word) (ws : List Word) :
    joined sep form (w :: ws) = form w ++ ws.flatMap fun v => sep :: form v := by
  induction ws generalizing w with
  | nil => simp [joined]
  | cons v vs ih =>
    have hjoined : joined sep form (w :: v :: vs) = form w ++ sep :: joined sep form (v :: vs) := by
      simp [joined, List.intercalate_cons_cons]
    rw [hjoined, ih, List.flatMap_cons, List.cons_append]

namespace Style

variable {style : Style}

/-- How a style spells the first word. -/
def first : Style → Word → List Char
  | screamingSnakeCase, w => w.capital
  | _, w => w.small

/-- How a style spells a word behind others. -/
def later : Style → Word → List Char
  | camelCase, w => w.capitalized
  | kebabCase, w => '-' :: w.small
  | snakeCase, w => '_' :: w.small
  | dotted, w => '.' :: w.small
  | screamingSnakeCase, w => '_' :: w.capital

theorem spelling_cons (style : Style) (w : Word) (ws : List Word) :
    style.spelling (w :: ws) = style.first w ++ ws.flatMap style.later := by
  cases style with
  | camelCase => rfl
  | kebabCase => exact joined_cons '-' Word.small w ws
  | snakeCase => exact joined_cons '_' Word.small w ws
  | dotted => exact joined_cons '.' Word.small w ws
  | screamingSnakeCase => exact joined_cons '_' Word.capital w ws

/-- A state in which a style can go on: where a capital letter is all that shows the start of a
word, a small letter or a digit must stand in front of it. -/
def Ready : Style → Bool → Prop
  | camelCase, p => p = true
  | _, _ => True

theorem scans_first (style : Style) (w : Word) :
    ∃ q, style.Ready q ∧ Scans false (style.first w) w.capital q := by
  cases style with
  | screamingSnakeCase =>
    obtain ⟨q, h⟩ := scans_capital w
    exact ⟨q, trivial, h⟩
  | camelCase => exact ⟨true, rfl, scans_small w false⟩
  | kebabCase | snakeCase | dotted => exact ⟨true, trivial, scans_small w false⟩

theorem scans_later (h : style.Ready p) (w : Word) :
    ∃ q, style.Ready q ∧ Scans p (style.later w) ('_' :: w.capital) q := by
  have hsmall {sep : Char} (hsep : IsSeparator sep) :
      Scans p (sep :: w.small) ('_' :: w.capital) true :=
    (scans_separator hsep).append (scans_small w false)
  cases style with
  | camelCase =>
    obtain rfl : p = true := h
    exact ⟨true, rfl, scans_capitalized w⟩
  | kebabCase => exact ⟨true, trivial, hsmall (.inl rfl)⟩
  | snakeCase => exact ⟨true, trivial, hsmall (.inr (.inl rfl))⟩
  | dotted => exact ⟨true, trivial, hsmall (.inr (.inr rfl))⟩
  | screamingSnakeCase =>
    obtain ⟨q, hq⟩ := scans_capital w
    exact ⟨q, trivial, (scans_separator (.inr (.inl rfl))).append hq⟩

/-- Any number of words. -/
theorem scans_laters (h : style.Ready p) (ws : List Word) :
    ∃ q, Scans p (ws.flatMap style.later) (ws.flatMap fun w => '_' :: w.capital) q := by
  induction ws generalizing p with
  | nil => exact ⟨p, Scans.nil⟩
  | cons w ws ih =>
    obtain ⟨q, hq, hw⟩ := scans_later h w
    obtain ⟨s, hws⟩ := ih hq
    exact ⟨s, hw.append hws⟩

theorem envNameFrom_spelling (style : Style) (ws : List Word) :
    envNameFrom false (style.spelling ws) = joined '_' Word.capital ws := by
  cases ws with
  | nil => cases style <;> rfl
  | cons w ws =>
    obtain ⟨p, hp, hw⟩ := style.scans_first w
    obtain ⟨q, hws⟩ := scans_laters hp ws
    rw [spelling_cons, joined_cons]
    exact (hw.append hws).envNameFrom_eq

end Style

/-! ### Words read back -/

namespace Word

theorem capital_ne_nil (w : Word) : w.capital ≠ [] := by
  obtain ⟨c, d, r, hw, -⟩ := w.exists_small_eq
  simp [capital, hw]

theorem underscore_notMem_capital (w : Word) : '_' ∉ w.capital := by
  intro h
  obtain ⟨c, hc, hup⟩ := List.mem_map.1 h
  have halnum : c.isAlphanum = true := isAlphanum_of_small (of_mem_small hc)
  exact Text.of_isAlphanum (P := fun c => c.toUpper ≠ '_') (by decide) halnum hup

theorem map_toLower_capital (w : Word) : w.capital.map Char.toLower = w.small := by
  have hsame : ∀ c ∈ w.small, (Char.toLower ∘ Char.toUpper) c = c := by
    intro c hc
    rw [Function.comp_apply, Char.toLower_toUpper_eq_toLower,
      Char.toLower_eq_of_not_isUpper (by simp [not_isUpper_of_small (of_mem_small hc)])]
  rw [capital, List.map_map, List.map_congr_left hsame, List.map_id']

theorem takeWhile_small (w : Word) : w.small.takeWhile Char.isLower = w.letters := by
  have hdigits : w.digits.takeWhile Char.isLower = [] := by
    rw [List.takeWhile_eq_nil_iff]
    intro hlen
    simp [not_isLower_of_isDigit (w.isDigit _ (List.getElem_mem hlen))]
  rw [small, List.takeWhile_append_of_pos w.isLower, hdigits, List.append_nil]

theorem small_inj (h : w.small = v.small) : w = v := by
  have hletters : w.letters = v.letters := by rw [← w.takeWhile_small, h, v.takeWhile_small]
  have hdigits : w.digits = v.digits := by
    rw [small, small, hletters] at h
    exact List.append_cancel_left h
  exact Word.ext hletters hdigits

theorem capital_injective : Function.Injective capital := by
  intro w v h
  refine small_inj ?_
  rw [← w.map_toLower_capital, h, v.map_toLower_capital]

end Word

theorem splitOn_joined (h : ws ≠ []) :
    Text.splitOn '_' (joined '_' Word.capital ws) = ws.map Word.capital :=
  Text.splitOn_intercalate (List.forall_mem_map.2 fun w _ => w.underscore_notMem_capital)
    (by simpa using h)

theorem joined_ne_nil (h : ws ≠ []) : joined '_' Word.capital ws ≠ [] := by
  obtain ⟨w, ws, rfl⟩ := List.exists_cons_of_ne_nil h
  exact Text.intercalate_ne_nil w.capital_ne_nil _

/-- The words can be read off their names. -/
theorem joined_injective : Function.Injective (joined '_' Word.capital) := by
  intro ws vs h
  rcases eq_or_ne ws [] with rfl | hws
  · by_contra hvs
    exact joined_ne_nil (Ne.symm hvs) h.symm
  · have hvs : vs ≠ [] := by
      rintro rfl
      exact joined_ne_nil hws h
    have hmap := congrArg (Text.splitOn '_') h
    rw [splitOn_joined hws, splitOn_joined hvs] at hmap
    exact Word.capital_injective.list_map hmap

/-- **All styles of a key give one name of a variable**: the words in capital letters with
underscores between them. Keys have one name only as spellings of the same words. -/
theorem styles_converge (style style' : Style) (ws vs : List Word) :
    envName (String.ofList (style.spelling ws)) =
        String.ofList (['_'].intercalate (ws.map Word.capital)) ∧
      (envName (String.ofList (style.spelling ws)) =
        envName (String.ofList (style'.spelling vs)) ↔ ws = vs) := by
  have hname (style : Style) (ws : List Word) : envName (String.ofList (style.spelling ws)) =
      String.ofList (joined '_' Word.capital ws) := by
    rw [envName, String.toList_ofList, style.envNameFrom_spelling]
  refine ⟨hname style ws, ?_⟩
  rw [hname style ws, hname style' vs, String.ofList_inj]
  exact joined_injective.eq_iff

example :
    let jwt : Word := ⟨"jwt".toList, [], by decide, Text.forall_mem_of_all (by decide),
      List.forall_mem_nil _⟩
    let secret : Word := ⟨"secret".toList, ['2'], by decide, Text.forall_mem_of_all (by decide),
      Text.forall_mem_of_all (by decide)⟩
    String.ofList (Style.camelCase.spelling [jwt, secret]) = "jwtSecret2" ∧
      envName "jwtSecret2" = "JWT_SECRET2" := by
  decide

/-- A word of one letter is not told apart from a capital letter in front of it. -/
example : envName "aBC" ≠ envName "a-b-c" := by decide

end ThreatModel.Naming
