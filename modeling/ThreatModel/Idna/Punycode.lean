import ThreatModel.Text.Reader
import ThreatModel.Text.Search

/-!
# Punycode

Texts written with ASCII characters only: first the ASCII characters of the text, then a hyphen, and
then for every other character, from the lowest to the highest, how many steps it is away. A step
goes to the next place in the text, and behind the last place to the next character. Reading a
number gives back the number that was written (`readNumber_number`).
-/

namespace ThreatModel.Idna.Punycode

/-! ### Numbers -/

/-- The digit for a value below 36: letters first. -/
def digit (d : Nat) : Char := Char.ofNat (if d < 26 then 97 + d else 22 + d)

/-- The value of a digit. -/
def digitValue? (c : Char) : Option Nat :=
  if c.isLower then some (c.toNat - 97)
  else if c.isUpper then some (c.toNat - 65)
  else if c.isDigit then some (c.toNat - 22)
  else none

/-- A digit below the threshold of its place ends a number. -/
def threshold (bias place : Nat) : Nat :=
  if place ≤ bias then 1 else if bias + 26 ≤ place then 26 else place - bias

theorem threshold_pos (bias place : Nat) : 1 ≤ threshold bias place := by
  unfold threshold
  split
  · omega
  · split <;> omega

theorem threshold_le (bias place : Nat) : threshold bias place ≤ 26 := by
  unfold threshold
  split
  · omega
  · split <;> omega

/-- A number in digits of growing weight, from a place on. -/
def number (bias place n : Nat) : List Char :=
  let t := threshold bias place
  if n < t then [digit n]
  else digit (t + (n - t) % (36 - t)) :: number bias (place + 36) ((n - t) / (36 - t))
termination_by n
decreasing_by
  have := threshold_pos bias place
  exact Nat.lt_of_le_of_lt (Nat.div_le_self _ _) (by omega)

/-- Reads a number from a place on, where a unit weighs `weight`, and adds it to `sum`. -/
def readNumber (bias : Nat) : (place weight sum : Nat) → (cs : List Char) →
    Option (Nat × Text.Rest cs)
  | _, _, _, [] => none
  | place, weight, sum, c :: r =>
    match digitValue? c with
    | none => none
    | some d =>
      let t := threshold bias place
      let sum := sum + d * weight
      if d < t then some (sum, .tail)
      else
        (readNumber bias (place + 36) (weight * (36 - t)) sum r).map fun (n, rest) =>
          (n, rest.behind)

theorem digitValue?_digit {d : Nat} (h : d < 36) : digitValue? (digit d) = some d := by
  have all : ∀ e ∈ List.range 36, digitValue? (digit e) = some e := by decide
  exact all d (List.mem_range.2 h)

/-- A number that was written is read back, whatever stands behind it. -/
theorem readNumber_number (bias place weight sum n : Nat) (r : List Char) :
    (readNumber bias place weight sum (number bias place n ++ r)).map (fun x => (x.1, x.2.1)) =
      some (sum + n * weight, r) := by
  fun_induction number bias place n generalizing weight sum with
  | case1 place n t hn =>
    have := threshold_le bias place
    simp [readNumber, digitValue?_digit (show n < 36 by omega), hn, t]
  | case2 place n t hn ih =>
    have h₁ := threshold_pos bias place
    have h₂ := threshold_le bias place
    have hm : (n - t) % (36 - t) < 36 - t := Nat.mod_lt _ (by omega)
    have hd := Nat.mod_add_div (n - t) (36 - t)
    have step := ih (weight * (36 - t)) (sum + (t + (n - t) % (36 - t)) * weight)
    have total : sum + (t + (n - t) % (36 - t)) * weight +
        (n - t) / (36 - t) * (weight * (36 - t)) = sum + n * weight := by
      calc _ = sum + (t + ((n - t) % (36 - t) + (36 - t) * ((n - t) / (36 - t)))) * weight := by
            simp only [Nat.mul_add, Nat.mul_comm, Nat.mul_left_comm, Nat.add_assoc]
        _ = sum + n * weight := by rw [hd, Nat.add_sub_of_le (Nat.le_of_not_lt hn)]
    rw [total] at step
    have hdigit : digitValue? (digit (t + (n - t) % (36 - t))) = some (t + (n - t) % (36 - t)) :=
      digitValue?_digit (by omega)
    have hlt : ¬ t + (n - t) % (36 - t) < threshold bias place :=
      Nat.not_lt.2 (Nat.le_add_right _ _)
    simp only [List.cons_append, readNumber, hdigit, hlt, ↓reduceIte, Option.map_map]
    rw [← step]
    rfl

/-! ### Adapting -/

/-- The bias for a distance. -/
def biasFor (d : Nat) : (steps : Nat) → Nat
  | steps =>
    if 455 < d then biasFor (d / 35) (steps + 36) else steps + 36 * d / (d + 38)
termination_by _ => d

/-- The bias after a distance that led to the `count`-th character; the first distance is usually
long and counts less. -/
def adapt (distance count : Nat) (isFirst : Bool) : Nat :=
  let d := if isFirst then distance / 700 else distance / 2
  biasFor (d + d / count) 0

/-! ### Writing -/

/-- What has been written so far. -/
structure Progress where
  /-- The digits. -/
  text : List Char
  /-- The steps since the last character written. -/
  distance : Nat
  bias : Nat
  /-- The number of characters written. -/
  count : Nat

/-- Passes a character of the text on the round for the character `n`. -/
def Progress.pass (basic n : Nat) (p : Progress) (c : Char) : Progress :=
  if c.toNat < n then { p with distance := p.distance + 1 }
  else if c.toNat = n then
    { text := p.text ++ number p.bias 36 p.distance
      distance := 0
      bias := adapt p.distance (p.count + 1) (p.count == basic)
      count := p.count + 1 }
  else p

/-- The rounds for the given characters, in order; `next` is the first one that has had none. -/
def rounds (cs : List Char) (basic : Nat) : (next : Nat) → Progress → List Nat → Progress
  | _, p, [] => p
  | next, p, n :: ns =>
    -- Rounds without any character are passed in one step.
    let p := { p with distance := p.distance + (n - next) * (p.count + 1) }
    let p := cs.foldl (Progress.pass basic n) p
    rounds cs basic (n + 1) { p with distance := p.distance + 1 } ns

/-- A text written with ASCII characters. -/
def encode (cs : List Char) : List Char :=
  let basic := cs.filter (·.toNat < 0x80)
  let others := ((cs.map Char.toNat).filter (0x80 ≤ ·)).mergeSort.eraseDups
  let start : Progress := ⟨[], 0, 72, basic.length⟩
  basic ++ (if basic.isEmpty then [] else ['-']) ++ (rounds cs basic.length 0x80 start others).text

/-! ### Reading -/

/-- Puts the characters that the digits stand for into a text. `n` is the character that the last
number led to, and `place` the place behind it. -/
def insertAll (bias n place : Nat) (done : List Char) : List Char → Option (List Char)
  | [] => some done
  | c :: r =>
    match readNumber bias 36 1 place (c :: r) with
    | none => none
    | some (sum, rest) =>
      let count := done.length + 1
      let n := n + sum / count
      if n.isValidChar then
        insertAll (adapt (sum - place) count (place == 0)) n (sum % count + 1)
          (done.insertIdx (sum % count) (Char.ofNat n)) rest.1
      else none
termination_by cs => cs.length
decreasing_by exact rest.2

/-- The text that was written with ASCII characters. A hyphen in front of it separates nothing. -/
def decode? (cs : List Char) : Option (List Char) :=
  match Text.splitLast? '-' cs with
  | none => insertAll 72 0x80 0 [] cs
  | some (basic, digits) =>
    if !basic.isEmpty && basic.all (·.toNat < 0x80) then insertAll 72 0x80 0 basic digits else none

end ThreatModel.Idna.Punycode
