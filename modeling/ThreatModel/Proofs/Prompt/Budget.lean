import ThreatModel.Proofs.Prompt.Verbatim

/-!
# The length of a prompt

A prompt that is too long is cut in front of the form of the answer, which stays as it is in the
template. The place of the form is looked for in the filled template, whose sections hold texts of
others: a design document may have a heading like that of the form. The last such heading is still
the one of the template, because nothing is filled in behind it (`splitAtLast?_fullPrompt`).

`prompt_fits` says what is left: a front of the prompt, as long as there is room for it, the mark of
the cut and the form. Without room for these two nothing is left of the front, and the prompt is
longer than asked for.
-/

namespace ThreatModel

namespace Text

variable {n r cs : List Char} {c : Char}

theorem splitAtLast?_of_notMem (h : c ∉ cs) : splitAtLast? (c :: n) cs = none := by
  induction cs with
  | nil => rfl
  | cons d cs ih =>
    have hd : c ≠ d := fun hd => h (hd ▸ List.mem_cons_self)
    rw [splitAtLast?, ih fun hc => h (List.mem_cons_of_mem d hc)]
    simp [List.isPrefixOf, hd]

/-- A text is found at its front if its first character does not come again. -/
theorem splitAtLast?_front (h : c ∉ n ++ r) :
    splitAtLast? (c :: n) (c :: n ++ r) = some ([], c :: n ++ r) := by
  have hfront : (c :: n).isPrefixOf (c :: (n ++ r)) = true :=
    List.isPrefixOf_iff_prefix.2 (List.prefix_append (c :: n) r)
  rw [List.cons_append, splitAtLast?, splitAtLast?_of_notMem h]
  dsimp only
  rw [if_pos hfront]

/-- What stands in front of the last occurrence does not matter. -/
theorem splitAtLast?_append {a b : List Char} (h : splitAtLast? n b = some (a, r))
    (cs : List Char) : splitAtLast? n (cs ++ b) = some (cs ++ a, r) := by
  induction cs with
  | nil => exact h
  | cons c cs ih =>
    rw [List.cons_append, splitAtLast?, ih]
    rfl

end Text

namespace Prompt

/-! ### The form of the answer -/

/-- The last section of the template: the heading of the answer's form and what stands below it. -/
def formatSection : List Char := formatHeading.toList ++ formatText.toList

/-- The template in front of its last section. -/
def frontParts : Template := template.dropLast.dropLast

theorem fillAtOnce_template (value : Section → List Char) :
    template.fillAtOnce value = frontParts.fillAtOnce value ++ formatSection := by
  have hparts : template = frontParts ++ [.text formatHeading, .text formatText] := rfl
  have htail : Template.fillAtOnce value [.text formatHeading, .text formatText] = formatSection :=
    congrArg (formatHeading.toList ++ ·) (List.append_nil _)
  rw [← htail, Template.fillAtOnce, Template.fillAtOnce, Template.fillAtOnce, ← List.flatMap_append,
    ← hparts]

theorem hash_notMem_formatText : '#' ∉ formatText.toList := by
  simp only [formatText, formatLines, List.map_cons, List.map_nil, String.join_cons,
    String.join_nil, String.toList_append]
  repeat rw [String.toList_ofList]
  decide +kernel

theorem splitAtLast?_formatSection :
    Text.splitAtLast? formatHeading.toList formatSection = some ([], formatSection) := by
  have hheading : formatHeading.toList = '#' :: " Output format".toList := by decide
  have hhash : '#' ∉ " Output format".toList := by decide
  rw [formatSection, hheading]
  refine Text.splitAtLast?_front ?_
  rw [List.mem_append, not_or]
  exact ⟨hhash, hash_notMem_formatText⟩

variable (a : Analysis) (m : Methodology) (document : Option String) (l : Limits)

/-- The prompt in front of the form of the answer. -/
def promptFront : List Char :=
  frontParts.fillAtOnce (expanded (sectionText a m document l))

theorem fullPrompt_eq :
    fullPrompt a m document l = promptFront a m document l ++ formatSection := by
  rw [fullPrompt, Template.fill_eq template_wellFormed, fillAtOnce_template, promptFront]

/-- **The last heading of a form is that of the template**, whatever the sections hold. -/
theorem splitAtLast?_fullPrompt :
    Text.splitAtLast? formatHeading.toList (fullPrompt a m document l) =
      some (promptFront a m document l, formatSection) := by
  rw [fullPrompt_eq, Text.splitAtLast?_append splitAtLast?_formatSection, List.append_nil]

/-! ### Cutting -/

variable {cs front tail : List Char} {limit : ℕ}

theorem cut_of_lt (h : limit < cs.length)
    (hsplit : Text.splitAtLast? formatHeading.toList cs = some (front, tail)) :
    cut limit cs = front.take (limit - tail.length - cutMark.length) ++ cutMark ++ tail := by
  rw [cut, if_neg (Nat.not_le.2 h), hsplit]
  rfl

/-- A text that has been cut is as long as it may be, or as long as what always stays. -/
theorem length_front_take (h : limit < (front ++ tail).length) :
    (front.take (limit - tail.length - cutMark.length) ++ cutMark ++ tail).length =
      max limit (cutMark.length + tail.length) := by
  rw [List.length_append] at h
  rw [List.length_append, List.length_append, List.length_take]
  omega

/-- **The prompt keeps the form of the answer, and its length.** If it is not too long it stays as
it is. Otherwise a part in front of the form goes, with the mark of the cut in its place, and the
length is the one that was asked for, unless the mark and the form alone are longer. -/
theorem prompt_fits :
    if (fullPrompt a m document l).length ≤ l.maxPromptChars then
      prompt a m document l = String.ofList (fullPrompt a m document l)
    else
      ∃ kept lost, fullPrompt a m document l = kept ++ lost ++ formatSection ∧
        prompt a m document l = String.ofList (kept ++ cutMark ++ formatSection) ∧
        (prompt a m document l).length =
          max l.maxPromptChars (cutMark.length + formatSection.length) := by
  split_ifs with h
  · exact prompt_of_le h
  · rw [Nat.not_le] at h
    have hprompt := congrArg String.ofList (cut_of_lt h (splitAtLast?_fullPrompt a m document l))
    refine ⟨_, (promptFront a m document l).drop
      (l.maxPromptChars - formatSection.length - cutMark.length), ?_, hprompt, ?_⟩
    · rw [List.take_append_drop, fullPrompt_eq]
    · rw [fullPrompt_eq] at h
      rw [prompt, hprompt, String.length_ofList, length_front_take h]

end Prompt

end ThreatModel
