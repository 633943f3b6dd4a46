import ThreatModel.Chat.Error
import ThreatModel.Proofs.Json.Printing

/-!
# What the error of a refusal quotes

An error that stands for a refusal of the service quotes what the service says (`reason?_ofStatus`):
the message of the record in its answer, or, where there is no such record, the front of the answer
(`refusalText_eq`). Only the front is bounded. A record can hold a message of any length, and that
message is quoted as a whole (`recorded?_envelope`), so that the bound of `maxQuoted` characters and
three dots holds for the error exactly if it holds for the message of the record
(`quoted_ofStatus`).
-/

namespace ThreatModel.Chat.Error

open Json (Tree ValueText)

/-! ### Texts of refusals -/

/-- The text that an error quotes. -/
def reason? : Error → Option String
  | authentication reason => some reason
  | status _ reason => some reason
  | unreadable reason => some reason
  | network reason => some reason
  | invalidRequest reason => some reason
  | _ => none

/-- Codes whose errors quote nothing. -/
def IsSilent (code : Nat) : Prop := code = 408 ∨ code = 429 ∨ code = 504

instance (code : Nat) : Decidable (IsSilent code) := by unfold IsSilent; infer_instance

/-- The message of the record in an answer. -/
def recorded? (body : String) : Option String := (Json.tree? body.toList).bind refusalMessage?

/-- An answer that is a record with a message. -/
def envelope (message : String) : String :=
  String.ofList (Json.compact (.object [("error", .object [("message", .string message)])]))

theorem reason?_ofStatus (code : Nat) (body : String) (retryAfter : Option Nat) :
    (ofStatus code body retryAfter).reason? =
      if IsSilent code then none else some (refusalText body) := by
  unfold ofStatus IsSilent
  split
  case h_6 => simp_all [reason?]
  all_goals simp [reason?]

theorem refusalText_eq (body : String) :
    refusalText body =
      (recorded? body).getD (String.ofList (quotation (Text.trim body.toList))) := by
  rw [refusalText, recorded?]
  cases (Json.tree? body.toList).bind refusalMessage? <;> rfl

theorem quotation_of_le {cs : List Char} (h : cs.length ≤ maxQuoted) : quotation cs = cs :=
  if_pos h

theorem quotation_of_lt {cs : List Char} (h : maxQuoted < cs.length) :
    quotation cs = cs.take maxQuoted ++ ['.', '.', '.'] :=
  if_neg (Nat.not_le.2 h)

/-! ### Records -/

/-- An object with one member is spelled without blanks. -/
theorem exists_object {depth : ℕ} {t : Tree} {w : List Char} (h : ValueText depth t w)
    (key : String) :
    ∃ l, Json.Literal.string? l = some key ∧
      ValueText (depth + 1) (.object [(l, t)])
        ('\x7b' :: (Json.quoted key ++ ':' :: w ++ ['\x7d'])) := by
  obtain ⟨l, k, hk, hl, hname⟩ := Json.exists_quoted key
  have hm : Json.MemberText (ValueText depth) (l, t) (Json.quoted key ++ ':' :: w) := by
    rw [hk]
    exact .intro hl .nil .nil h
  have hbody := Json.BodyText.items (.one (a := []) (b := []) .nil hm .nil)
  rw [List.nil_append, List.append_nil] at hbody
  exact ⟨l, hname, .inr (.inr ⟨_, _, rfl, rfl, hbody⟩)⟩

/-- **A record may hold any message.** -/
theorem recorded?_envelope (message : String) : recorded? (envelope message) = some message := by
  obtain ⟨l, w, hw, hl, hmessage⟩ := Json.exists_quoted message
  -- The tree is read at a depth that the length of the text allows.
  obtain ⟨depth, hdepth⟩ : ∃ depth, (envelope message).toList.length = depth + 1 + 1 := by
    refine ⟨(envelope message).toList.length - 2, ?_⟩
    simp only [envelope, String.toList_ofList, Json.compact, Json.compactMembers, Json.between,
      List.length_cons, List.length_append]
    omega
  have hstring : ValueText depth (.string l) (Json.quoted message) := by
    rw [hw]
    exact (Json.ScalarText.string hl).valueText depth
  obtain ⟨k, hk, hinner⟩ := exists_object hstring "message"
  obtain ⟨e, he, houter⟩ := exists_object hinner "error"
  have htree : Json.tree? (envelope message).toList =
      some (.object [(e, .object [(k, .string l)])]) := by
    rw [Json.tree?, hdepth]
    refine Json.whole_eq_some_iff.2 ⟨[], _, [], ?_, .nil, houter, .nil⟩
    simp [envelope, Json.compact, Json.compactMembers, Json.between]
  rw [recorded?, htree, Option.bind_some]
  simp [refusalMessage?, Tree.fields?, Tree.onlyMember?, Tree.required, Tree.withDefault,
    Tree.string?, hk, he, hmessage]

/-! ### The bound -/

/-- **What the error of a refusal quotes.** An error quotes nothing for three codes. For the others
it quotes the message of the record in the answer, if there is one, and otherwise the answer without
the blanks around it, or its first characters and three dots if it is longer than the bound. So the
bound holds exactly if there is no record with a longer message. There are such records: an answer
may be a record with any message. -/
theorem quoted_ofStatus (code : Nat) (body : String) (retryAfter : Option Nat) :
    ((ofStatus code body retryAfter).reason? = none ↔ IsSilent code) ∧
      (∀ s, (ofStatus code body retryAfter).reason? = some s →
        (∀ message, recorded? body = some message → s = message) ∧
        (recorded? body = none →
          let text := Text.trim body.toList
          (text.length ≤ maxQuoted → s = String.ofList text) ∧
            (maxQuoted < text.length → s = String.ofList (text.take maxQuoted ++ ['.', '.', '.']))) ∧
        (s.length ≤ maxQuoted + 3 ↔
          ∀ message, recorded? body = some message → message.length ≤ maxQuoted + 3)) ∧
      ∀ message, recorded? (envelope message) = some message := by
  refine ⟨?_, fun s hs => ?_, recorded?_envelope⟩
  · rw [reason?_ofStatus]
    split_ifs with h <;> simp [h]
  · rw [reason?_ofStatus] at hs
    obtain ⟨-, rfl⟩ := (Option.ite_none_left_eq_some.1 hs).imp_right Option.some.inj
    rw [refusalText_eq]
    cases hrecord : recorded? body with
    | some message => simp
    | none =>
      refine ⟨by simp, fun _ => ⟨fun h => ?_, fun h => ?_⟩, by simp, fun _ => ?_⟩
      · rw [Option.getD_none, quotation_of_le h]
      · rw [Option.getD_none, quotation_of_lt h]
      · rw [Option.getD_none, String.length_ofList]
        exact length_quotation_le _

/-- A long message of a record is quoted as a whole. -/
theorem quoted_ofStatus_of_long_message :
    let message := String.ofList (List.replicate 600 'x')
    (ofStatus 500 (envelope message) none).reason? = some message ∧
      maxQuoted + 3 < message.length := by
  intro message
  have hsilent : ¬ IsSilent 500 := by decide
  constructor
  · rw [reason?_ofStatus, if_neg hsilent, refusalText_eq, recorded?_envelope, Option.getD_some]
  · rw [String.length_ofList, List.length_replicate]
    decide

end ThreatModel.Chat.Error
