/-!
# Blank and control characters

The characters with the Unicode property `White_Space` and the control characters, and trimming and
splitting of texts at blanks. Trimmed text has no blank at its ends (`head_trimStart`), trimming
keeps a text that starts with something else (`trimStart_cons_of_not_blank`), and words hold no
blank (`not_isBlank_of_mem_words`).
-/

namespace ThreatModel.Text

/-- Characters with the Unicode property `White_Space`. -/
def isBlank (c : Char) : Bool :=
  let n := c.toNat
  (9 ≤ n && n ≤ 13) || n == 0x20 || n == 0x85 || n == 0xA0 || n == 0x1680 ||
    (0x2000 ≤ n && n ≤ 0x200A) || n == 0x2028 || n == 0x2029 || n == 0x202F || n == 0x205F ||
    n == 0x3000

/-- Control characters: the Unicode category `Cc`. -/
def isControl (c : Char) : Bool :=
  let n := c.toNat
  n < 0x20 || (0x7F ≤ n && n < 0xA0)

/-- The text without the blanks at its front. -/
def trimStart (cs : List Char) : List Char := cs.dropWhile isBlank

/-- The text without the blanks at its end. -/
def trimEnd (cs : List Char) : List Char := (trimStart cs.reverse).reverse

/-- The text without the blanks at both ends. -/
def trim (cs : List Char) : List Char := trimEnd (trimStart cs)

/-- A string without the blanks at both ends. -/
def trimmed (s : String) : String := String.ofList (trim s.toList)

/-- A string of nothing but blanks. -/
def isBlankString (s : String) : Bool := s.toList.all isBlank

/-- Adds a character to the front of the first word of a list. -/
def pushFront (c : Char) : List (List Char) → List (List Char)
  | [] => [[c]]
  | w :: ws => (c :: w) :: ws

/-- The runs between blanks, empty ones included; there is always at least one. -/
def runs : List Char → List (List Char)
  | [] => [[]]
  | c :: r => if isBlank c then [] :: runs r else pushFront c (runs r)

/-- The words of a text: its runs without blanks that are not empty. -/
def words (cs : List Char) : List (List Char) := (runs cs).filter fun w => !w.isEmpty

theorem head_trimStart {c : Char} {cs r : List Char} (h : trimStart cs = c :: r) :
    isBlank c = false := by
  have := List.head?_dropWhile_not isBlank cs
  unfold trimStart at h
  rw [h] at this
  simpa using this

theorem trimStart_cons_of_not_blank {c : Char} (h : isBlank c = false) (r : List Char) :
    trimStart (c :: r) = c :: r := by
  simp [trimStart, h]

theorem not_isBlank_of_mem_runs {cs w : List Char} {c : Char} (hw : w ∈ runs cs) (hc : c ∈ w) :
    isBlank c = false := by
  induction cs generalizing w with
  | nil => simp_all [runs]
  | cons d r ih =>
    by_cases hd : isBlank d = true
    · rw [runs, if_pos hd, List.mem_cons] at hw
      rcases hw with rfl | hw
      · cases hc
      · exact ih hw hc
    · rw [runs, if_neg hd] at hw
      revert hw
      cases hr : runs r with
      | nil =>
        intro hw
        simp only [pushFront, List.mem_singleton] at hw
        subst hw
        simp only [List.mem_singleton] at hc
        simpa [hc] using hd
      | cons v vs =>
        intro hw
        simp only [pushFront, List.mem_cons] at hw
        rcases hw with rfl | hw
        · rcases List.mem_cons.1 hc with rfl | hc
          · simpa using hd
          · exact ih (by simp [hr]) hc
        · exact ih (by simp [hr, hw]) hc

theorem not_isBlank_of_mem_words {cs w : List Char} {c : Char} (hw : w ∈ words cs) (hc : c ∈ w) :
    isBlank c = false :=
  not_isBlank_of_mem_runs (List.mem_filter.1 hw).1 hc

end ThreatModel.Text
