import Mathlib
import ThreatModel.Proofs.Pattern.Replacement
import ThreatModel.Proofs.Text.Splitting
import ThreatModel.Scan.Scanner

/-!
# Where findings point

A finding has the line and the snippet of the place where its match begins. The patterns of the
built-in detectors begin with a character that is no blank (`Pattern.isSolid`), but for the one of a
switch for debugging: it takes the blanks behind the front of a line too, and these may go over
several lines. So a finding points at what it flags as long as its match has no line break in front
of that, and otherwise at a line of blanks (`findings_point_at_match_iff`).
-/

namespace ThreatModel

open Text (Cursor isBlank)
open Text.Cursor

/-! ### Blanks -/

namespace Text

/-- The blank characters. -/
def blankChars : List Char :=
  ['\t', '\n', '\x0b', '\x0c', '\r', ' ', '\u0085', '\u00a0', '\u1680', '\u2000', '\u2001',
   '\u2002', '\u2003', '\u2004', '\u2005', '\u2006', '\u2007', '\u2008', '\u2009', '\u200a',
   '\u2028', '\u2029', '\u202f', '\u205f', '\u3000']

theorem mem_blankChars {c : Char} (h : isBlank c = true) : c ∈ blankChars := by
  have hn : c.toNat ∈ blankChars.map Char.toNat := by
    simp only [isBlank, Bool.or_eq_true, Bool.and_eq_true, beq_iff_eq, decide_eq_true_eq] at h
    simp only [blankChars, List.map_cons, List.map_nil, List.mem_cons, List.not_mem_nil, or_false,
      Char.reduceToNat]
    omega
  obtain ⟨d, hd, heq⟩ := List.mem_map.1 hn
  rwa [← Char.toNat_inj.1 heq]

theorem trim_eq_nil_iff {cs : List Char} : trim cs = [] ↔ ∀ c ∈ cs, isBlank c = true := by
  constructor
  · intro h c hc
    by_contra hblank
    obtain ⟨a, r, rfl⟩ := List.append_of_mem hc
    rw [trim_append_cons (Bool.eq_false_iff.2 hblank)] at h
    simp at h
  · intro h
    rw [trim, trimStart_of_isBlank h]
    rfl

end Text

/-! ### Lines -/

namespace Text.Cursor

variable {k : Cursor} {lead r : List Char} {c : Char}

theorem line_eq_count_front (k : Cursor) : k.line = k.front.count '\n' + 1 := by
  rw [line, front, List.count_reverse]

/-- Blanks without a line break stay on the line. -/
theorem mem_lineText (hk : k.after = lead ++ c :: r) (hlead : '\n' ∉ lead)
    (hc : isBlank c = false) : c ∈ k.lineText := by
  have hne : ∀ x ∈ lead, (x != '\n') = true := fun x hx => by
    simpa using ne_of_mem_of_not_mem hx hlead
  have hcn : (c != '\n') = true := by
    rw [bne_iff_ne]
    rintro rfl
    cases hc
  simp [lineText, hk, List.takeWhile_append_of_pos hne, hcn]

/-- From the front of a line, blanks with a line break make up the line. -/
theorem isBlank_of_mem_lineText (hstart : Pattern.atLineStart k = true)
    (hk : k.after = lead ++ r) (hlead : ∀ x ∈ lead, isBlank x = true) (hmem : '\n' ∈ lead) :
    ∀ x ∈ k.lineText, isBlank x = true := by
  have hbefore : k.before.takeWhile (· != '\n') = [] := by
    cases h : k.before with
    | nil => rfl
    | cons b bs => simpa [Pattern.atLineStart, h] using hstart
  obtain ⟨a, b, rfl⟩ := List.append_of_mem hmem
  intro x hx
  refine hlead x (List.mem_append_left _ ?_)
  rw [lineText, hbefore, hk, List.append_assoc, List.reverse_nil, List.nil_append,
    List.takeWhile_append] at hx
  split_ifs at hx
  · simpa using hx
  · exact (List.takeWhile_prefix _).subset hx

end Text.Cursor

/-! ### Patterns -/

namespace Pattern

variable {p : Pattern} {w : List Char} {k e : Cursor}

/-- Whether a pattern takes no character. -/
def isPlace : Pattern → Bool
  | empty | wordEdge | lineStart | textStart | textEnd => true
  | _ => false

/-- Whether the words of a pattern start with a character that is no blank, as far as can be seen
from its front. -/
def isSolid : Pattern → Bool
  | one s => Text.blankChars.all fun c => !s c
  | seq p q => p.isSolid || (p.isPlace && q.isSolid)
  | alt p q => p.isSolid && q.isSolid
  | _ => false

theorem eq_nil_of_isPlace (hp : p.isPlace = true) (hw : p.Spells w) : w = [] := by
  cases p <;> first | exact hw | cases hp

theorem exists_cons_of_isSolid (hp : p.isSolid = true) (hw : p.Spells w) :
    ∃ c v, w = c :: v ∧ isBlank c = false := by
  induction p generalizing w with
  | one s =>
    obtain ⟨c, rfl, hc⟩ := hw
    refine ⟨c, [], rfl, Bool.eq_false_iff.2 fun hblank => ?_⟩
    have hs := List.all_eq_true.1 hp c (Text.mem_blankChars hblank)
    simp [hc] at hs
  | seq p q ihp ihq =>
    obtain ⟨a, b, rfl, ha, hb⟩ := hw
    rw [isSolid, Bool.or_eq_true, Bool.and_eq_true] at hp
    rcases hp with hp | ⟨hp, hq⟩
    · obtain ⟨c, v, rfl, hc⟩ := ihp hp ha
      exact ⟨c, v ++ b, rfl, hc⟩
    · rw [eq_nil_of_isPlace hp ha]
      exact ihq hq hb
  | alt p q ihp ihq =>
    rw [isSolid, Bool.and_eq_true] at hp
    exact hw.elim (ihp hp.1) (ihq hp.2)
  | empty | many _ | wordEdge | lineStart | textStart | textEnd => cases hp

/-- A match that is reported is one, and in the text. -/
theorem of_mem_matchesFrom {fresh : Bool} {resume : Nat} {m : Match}
    (h : m ∈ p.matchesFrom fresh resume k) :
    p.end? m.first = some m.last ∧ m.first.text = k.text := by
  fun_induction matchesFrom p fresh resume k with
  | case1 fresh resume k found e hfound ih =>
    rcases List.mem_cons.1 h with rfl | h
    · refine ⟨?_, rfl⟩
      simp only [found] at hfound
      split_ifs at hfound
      exact (Option.filter_eq_some_iff.1 hfound).1
    · split at h
      next => cases h
      next c r hk => exact text_push hk ▸ ih c r hk h
  | case2 => cases h
  | case3 fresh resume k found hfound c r hk ih => exact text_push hk ▸ ih h

end Pattern

/-! ### Detectors -/

namespace Detector

open Pattern

theorem isSolid_of_mem_registry {d : Detector} (hd : d ∈ registry) :
    d.pattern.isSolid = true ∨ d = debugEnabled := by
  have hsplit : registry = registry.dropLast ++ [debugEnabled] := rfl
  have hsolid : (registry.dropLast.all fun d => d.pattern.isSolid) = true := by decide +kernel
  rw [hsplit, List.mem_append, List.mem_singleton] at hd
  exact hd.imp_left (List.all_eq_true.1 hsolid d)

/-- The match from one place to another is made of blanks and something that starts with another
character. -/
structure StartsBehind (k e : Cursor) (lead : List Char) (c : Char) (v : List Char) : Prop where
  after : k.after = lead ++ c :: v ++ e.after
  last : e = k.pass (lead ++ c :: v) e.after
  blank : ∀ x ∈ lead, isBlank x = true
  not_blank : isBlank c = false

theorem exists_of_isSolid {p : Pattern} (hp : p.isSolid = true) {k e : Cursor}
    (h : p.end? k = some e) : ∃ c v, StartsBehind k e [] c v := by
  obtain ⟨w, hw, hk, he⟩ := exists_spells_of_end? h
  obtain ⟨c, v, rfl, hc⟩ := exists_cons_of_isSolid hp hw
  exact ⟨c, v, hk, he, by simp, hc⟩

/-- A switch for debugging is found from the front of a line on, or without blanks in front. -/
theorem exists_of_debugEnabled {k e : Cursor} (h : debugEnabled.pattern.end? k = some e) :
    ∃ lead c v, StartsBehind k e lead c v ∧ (lead = [] ∨ atLineStart k = true) := by
  let switch := seqs [setTo "DEBUG" "True", wordEdge]
  let call := seqs [lit "app.run", call, arguments, setTo "debug" "True"]
  have hpattern : debugEnabled.pattern = alt (seq lineStart (seq blanks switch)) call := rfl
  cases hrun : run (seq lineStart (seq blanks switch)) k some with
  | some b =>
    rw [end?, hpattern, run_alt_of_some hrun] at h
    obtain rfl := Option.some.inj h
    rw [run_seq, run] at hrun
    split_ifs at hrun with hstart
    obtain ⟨w, r, hk, ⟨lead, b, rfl, hlead, hb⟩, hlast⟩ := exists_spells_of_run hrun
    obtain ⟨c, v, rfl, hc⟩ := exists_cons_of_isSolid (p := switch) (by decide +kernel) hb
    obtain rfl := Option.some.inj hlast
    exact ⟨lead, c, v, ⟨hk, rfl, hlead, hc⟩, .inr hstart⟩
  | none =>
    rw [end?, hpattern, run_alt_of_none hrun] at h
    obtain ⟨c, v, hstarts⟩ := exists_of_isSolid (p := call) (by decide +kernel) h
    exact ⟨[], c, v, hstarts, .inl rfl⟩

/-- A match of a built-in detector: blanks in front of something that is none. Only the switch for
debugging can have such blanks, from the front of a line on. -/
theorem exists_lead {d : Detector} (hd : d ∈ registry) {k e : Cursor}
    (h : d.pattern.end? k = some e) : ∃ lead c v, StartsBehind k e lead c v ∧
      (lead = [] ∨ d = debugEnabled ∧ atLineStart k = true) := by
  rcases isSolid_of_mem_registry hd with hsolid | rfl
  · obtain ⟨c, v, hstarts⟩ := exists_of_isSolid hsolid h
    exact ⟨[], c, v, hstarts, .inl rfl⟩
  · obtain ⟨lead, c, v, hstarts, hlead⟩ := exists_of_debugEnabled h
    exact ⟨lead, c, v, hstarts, hlead.imp_right fun hstart => ⟨rfl, hstart⟩⟩

end Detector

/-! ### Findings -/

theorem snippetAt_eq_empty_iff {maxChars : Nat} (h : 1 ≤ maxChars) (k : Cursor) :
    snippetAt maxChars k = "" ↔ ∀ c ∈ k.lineText, isBlank c = true := by
  have hne : maxChars ≠ 0 := by omega
  rw [← Text.trim_eq_nil_iff, snippetAt, ← String.toList_inj, String.toList_ofList,
    String.toList_empty, List.take_eq_nil_iff, or_iff_right hne]

/-- A match stands on a line of blanks exactly if the blanks at its front hold a line break. -/
theorem Detector.StartsBehind.forall_isBlank_iff {k e : Cursor} {lead v : List Char} {c : Char}
    (h : StartsBehind k e lead c v) (hstart : lead = [] ∨ Pattern.atLineStart k = true) :
    (∀ x ∈ k.lineText, isBlank x = true) ↔ '\n' ∈ lead := by
  have hk : k.after = lead ++ c :: (v ++ e.after) := by
    rw [h.after, List.append_assoc, List.cons_append]
  constructor
  · intro hblank
    by_contra hmem
    have hc := h.not_blank
    rw [hblank c (mem_lineText hk hmem hc)] at hc
    cases hc
  · intro hmem
    exact isBlank_of_mem_lineText (hstart.resolve_left (List.ne_nil_of_mem hmem)) hk h.blank hmem

/-- **Findings point at what they flag, or at a line of blanks in front of it.** The match of a
finding starts with blanks, of which only a switch for debugging can have any. The finding has the
line of the first character that is no blank, and a snippet, exactly if these blanks hold no line
break. -/
theorem findings_point_at_match_iff {limits : Limits} (h : 1 ≤ limits.snippetChars)
    (path text : String) :
    (∀ f ∈ scanText Detector.registry limits path text, ∃ d ∈ Detector.registry,
      ∃ m ∈ d.pattern.occurrences text.toList, f = d.finding limits path m.first) ∧
    ∀ d ∈ Detector.registry, ∀ m ∈ d.pattern.occurrences text.toList,
      let f := d.finding limits path m.first
      ∃ lead c v, m.text = lead ++ c :: v ∧
        text.toList = m.first.front ++ (lead ++ c :: v) ++ m.last.after ∧
        (∀ x ∈ lead, isBlank x = true) ∧ isBlank c = false ∧
        (f.line = (m.first.front ++ lead).count '\n' + 1 ↔ '\n' ∉ lead) ∧
        (f.snippet ≠ "" ↔ '\n' ∉ lead) ∧
        ('\n' ∈ lead → d = .debugEnabled) := by
  constructor
  · intro f hf
    rw [scanText_eq_take] at hf
    obtain ⟨d, hd, hmem⟩ := List.mem_flatMap.1 (List.mem_of_mem_take hf)
    obtain ⟨m, hm, rfl⟩ := List.mem_map.1 hmem
    exact ⟨d, hd, m, hm, rfl⟩
  · intro d hd m hm f
    obtain ⟨hend, htext⟩ := Pattern.of_mem_matchesFrom hm
    obtain ⟨lead, c, v, hstarts, hlead⟩ := Detector.exists_lead hd hend
    refine ⟨lead, c, v, ?_, ?_, hstarts.blank, hstarts.not_blank, ?_, ?_, fun hmem => ?_⟩
    · rw [Match.text, hstarts.last]
      exact upTo_pass hstarts.after
    · rw [text_start] at htext
      rw [← htext, Cursor.text, hstarts.after, Cursor.front]
      simp only [List.append_assoc]
    · have hline : f.line = m.first.front.count '\n' + 1 := line_eq_count_front m.first
      rw [hline, List.count_append, ← List.count_eq_zero]
      omega
    · rw [not_iff_not, ← hstarts.forall_isBlank_iff (hlead.imp_right And.right)]
      exact snippetAt_eq_empty_iff h m.first
    · exact (hlead.resolve_left (List.ne_nil_of_mem hmem)).1

/-- An indented switch has its own line and a snippet. -/
theorem finding_of_indented_switch :
    let text := "if local:\n    DEBUG = True\n"
    1 ≤ ({} : Limits).snippetChars ∧
      ∃ m ∈ Detector.debugEnabled.pattern.occurrences text.toList,
        m.text = "    DEBUG = True".toList ∧
        (Detector.debugEnabled.finding {} "settings.py" m.first).snippet ≠ "" := by
  intro text
  have hchars : 1 ≤ ({} : Limits).snippetChars := by decide
  have htexts : (Detector.debugEnabled.pattern.occurrences text.toList).map Match.text =
      ["    DEBUG = True".toList] := by
    decide +kernel
  have hmem : "    DEBUG = True".toList ∈
      (Detector.debugEnabled.pattern.occurrences text.toList).map Match.text := by
    rw [htexts]
    exact List.mem_singleton_self _
  obtain ⟨m, hm, hmatch⟩ := List.mem_map.1 hmem
  obtain ⟨lead, c, v, hword, -, -, -, -, hsnippet, -⟩ :=
    (findings_point_at_match_iff hchars "settings.py" text).2 _ (by simp [Detector.registry]) m hm
  refine ⟨hchars, m, hm, hmatch, hsnippet.2 fun hnewline => ?_⟩
  have hbreak : '\n' ∈ m.text := hword ▸ List.mem_append_left _ hnewline
  rw [hmatch] at hbreak
  exact absurd hbreak (by decide)

/-- **A switch for debugging behind an empty line is reported at that line**, without a snippet. -/
theorem finding_of_switch_behind_empty_line :
    scanText Detector.registry {} "settings.py" "\nDEBUG=True" =
      [⟨"settings.py", 1, "debug_enabled", "", .low, "Debug mode enabled (CWE-489)"⟩] ∧
    ¬ ∀ path text, ∀ f ∈ scanText Detector.registry {} path text, f.snippet ≠ "" := by
  have hscan : scanText Detector.registry {} "settings.py" "\nDEBUG=True" =
      [⟨"settings.py", 1, "debug_enabled", "", .low, "Debug mode enabled (CWE-489)"⟩] := by
    decide +kernel
  refine ⟨hscan, fun h => ?_⟩
  have hsnippet := h "settings.py" "\nDEBUG=True"
  rw [hscan] at hsnippet
  exact hsnippet _ (List.mem_singleton_self _) rfl

end ThreatModel
