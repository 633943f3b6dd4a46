import ThreatModel.Pipeline
import ThreatModel.Proofs.Reply.Bare
import ThreatModel.Proofs.Threat.Ids

/-!
# Runs with a model

What becomes of a run that asks a model depends on the answer only, and nothing of the answer is
lost on the way: a chat that fails and an answer without choices end the run as failures of the
model, a reply without elements ends it as a failure of recovery, and from every other reply there
is one threat for each element that is an object (`model_run_accounted`).

A run is `Session.report`, which asks a `Synthesizer`; `report_of_error` and `report_of_ok` say what
it makes of the result, and the lemmas on `answerThreats` what the result is.
-/

namespace ThreatModel

variable {t : Session} {source : String} {a : Analysis} {m : Methodology} {document : Option String}
  {y : Synthesizer}

/-! ### Reports of what a synthesizer finds -/

theorem report_of_error {f : Failure} (h : y.drafts a m document t.limits = .error f) :
    t.report source a m document y = .error (f.within "Threat synthesis failed") := by
  rw [Session.report, h]
  rfl

theorem report_of_ok {ds : List Draft} (h : y.drafts a m document t.limits = .ok ds) :
    ∃ r, t.report source a m document y = .ok r ∧ r.threats = register ds ∧
      r.summary = .ofRecords r.threats := by
  rw [Session.report, h]
  exact ⟨_, rfl, rfl, rfl⟩

/-! ### Answers of a model -/

theorem answerThreats_of_no_choice {r : Chat.Response} (h : r.choices = []) :
    answerThreats (.ok r) = .error { cause := .chat .emptyResponse } := by
  simp only [answerThreats, Chat.Response.content?, h, List.head?_nil, Option.map_none]
  rfl

section

variable {r : Chat.Response} {c : Chat.Choice} {cs : List Chat.Choice} (h : r.choices = c :: cs)

include h

theorem answerThreats_of_unread {e : Reply.RecoveryError}
    (he : Reply.elements c.message.content.toList = .error e) :
    answerThreats (.ok r) =
      .error { cause := .recovery e, context := ["Model response could not be parsed"] } := by
  have hthreats : Reply.threats c.message.content.toList = .error e := by
    rw [Reply.threats, he]
    rfl
  simp only [answerThreats, Chat.Response.content?, h, List.head?_cons, Option.map_some, hthreats]
  rfl

theorem answerThreats_of_read {xs : List Json} {recovered : Bool}
    (hx : Reply.elements c.message.content.toList = .ok (xs, recovered)) :
    answerThreats (.ok r) = .ok (.ofElements xs recovered) := by
  have hthreats : Reply.threats c.message.content.toList = .ok (.ofElements xs recovered) := by
    rw [Reply.threats, hx]
    rfl
  simp only [answerThreats, Chat.Response.content?, h, List.head?_cons, Option.map_some, hthreats]

end

/-! ### Threats of a register -/

/-- Each object has one threat, made of the draft that is read from it, at a place of its own, and
there are no other threats. -/
def HavePlaces (xs : List Json) (rs : List ThreatRecord) : Prop :=
  ∃ e : Fin xs.length ≃ Fin rs.length,
    ∀ i, ∃ id, rs[e i] = ThreatRecord.ofDraft id (Reply.draftOfObject xs[i])

theorem havePlaces_register (xs : List Json) :
    HavePlaces xs (register (xs.map Reply.draftOfObject)) := by
  obtain ⟨e, he⟩ := exists_places (xs.map Reply.draftOfObject)
  refine ⟨(finCongr (List.length_map _).symm).trans e, fun i => ?_⟩
  have hi := he (finCongr (List.length_map _).symm i)
  rw [getElem?_recordsOf, finCongr_apply, Fin.val_cast, List.getElem?_map,
    List.getElem?_eq_getElem i.isLt, Option.map_some, Option.map_some, Option.some.injEq] at hi
  exact ⟨_, hi.symm⟩

/-! ### Runs -/

/-- A report accounts for the elements of a reply. -/
structure Report.Accounts (r : Report) (xs : List Json) (o : Reply.Outcome) : Prop where
  places : HavePlaces (xs.filter Json.isObject) r.threats
  /-- The other elements are counted as dropped. -/
  dropped : r.threats.length + o.dropped = xs.length
  total : r.summary.total = r.threats.length

theorem accounts_of_register {r : Report} {xs : List Json} {recovered : Bool}
    (hthreats : r.threats = register (Reply.Outcome.ofElements xs recovered).drafts)
    (hsummary : r.summary = .ofRecords r.threats) :
    r.Accounts xs (.ofElements xs recovered) where
  places := by
    rw [hthreats, Reply.ofElements_eq]
    exact havePlaces_register _
  dropped := by
    rw [hthreats, length_register]
    exact Reply.Outcome.length_ofElements xs recovered
  total := by
    rw [hsummary]
    rfl

/-- **A run with a model accounts for every element of the reply and classifies every failure.** If
the chat fails or its answer has no choice, the run fails as the model did; if the reply has no
elements that can be read, it fails as recovery did; both keep what was being done. Otherwise there
is a report, with one threat for each element that is an object. -/
theorem model_run_accounted (t : Session) (source : String) (a : Analysis) (m : Methodology)
    (document : Option String)
    (ask : List Chat.Message → Except Chat.Error Chat.Response) :
    (∀ e, ask (Prompt.messages a m document t.limits) = .error e →
      ∃ f, t.report source a m document (.model ask) = .error f ∧ f.exit.code = 4 ∧
        f.cause = .chat e ∧ f.context = ["Threat synthesis failed"]) ∧
    ∀ r, ask (Prompt.messages a m document t.limits) = .ok r →
      (r.choices = [] →
        ∃ f, t.report source a m document (.model ask) = .error f ∧ f.exit.code = 4 ∧
          f.cause = .chat .emptyResponse ∧ f.context = ["Threat synthesis failed"]) ∧
      ∀ c cs, r.choices = c :: cs →
        (∀ e, Reply.elements c.message.content.toList = .error e →
          ∃ f, t.report source a m document (.model ask) = .error f ∧ f.exit.code = 5 ∧
            f.cause = .recovery e ∧
            f.context = ["Threat synthesis failed", "Model response could not be parsed"]) ∧
        ∀ xs recovered, Reply.elements c.message.content.toList = .ok (xs, recovered) →
          ∃ report o, t.report source a m document (.model ask) = .ok report ∧
            Reply.threats c.message.content.toList = .ok o ∧ report.Accounts xs o := by
  have hdrafts {x : Run Reply.Outcome}
      (h : answerThreats (ask (Prompt.messages a m document t.limits)) = x) :
      (Synthesizer.model ask).drafts a m document t.limits = x.map (·.drafts) := by
    rw [← h]
    rfl
  refine ⟨fun e he => ?_, fun r hr => ⟨fun hc => ?_, fun c cs hc => ⟨fun e he => ?_, ?_⟩⟩⟩
  · rw [report_of_error (hdrafts (by rw [he, answerThreats]))]
    exact ⟨_, rfl, rfl, rfl, rfl⟩
  · rw [report_of_error (hdrafts (by rw [hr, answerThreats_of_no_choice hc]))]
    exact ⟨_, rfl, rfl, rfl, rfl⟩
  · rw [report_of_error (hdrafts (by rw [hr, answerThreats_of_unread hc he]))]
    exact ⟨_, rfl, rfl, rfl, rfl⟩
  · intro xs recovered hx
    obtain ⟨report, hreport, hthreats, hsummary⟩ :=
      report_of_ok (hdrafts (by rw [hr, answerThreats_of_read hc hx]))
    exact ⟨report, _, hreport, by rw [Reply.threats, hx]; rfl,
      accounts_of_register hthreats hsummary⟩

/-- Of two elements one is an object, and the other is dropped. -/
theorem model_run_accounted_of_reply :
    ∃ (content : String) (report : Report) (o : Reply.Outcome),
      content = "[\x7b\"title\": \"Forged token\"\x7d, null]" ∧
      (⟨"run 1", .epoch, {}⟩ : Session).report "dir" default .stride none (.model fun _ =>
        .ok ⟨"", "", [⟨0, ⟨"assistant", content⟩, none⟩], none⟩) = .ok report ∧
      Reply.threats content.toList = .ok o ∧
      report.threats.length = 1 ∧ report.summary.total = 1 ∧ o.dropped = 1 := by
  have haccounted {content : String} {xs : List Json}
      (h : Reply.elements content.toList = .ok (xs, false)) :=
    ((model_run_accounted ⟨"run 1", .epoch, {}⟩ "dir" default .stride none fun _ =>
      .ok ⟨"", "", [⟨0, ⟨"assistant", content⟩, none⟩], none⟩).2 _ rfl).2 _ _ rfl |>.2 xs false h
  have helements : Reply.elements "[\x7b\"title\": \"Forged token\"\x7d, null]".toList =
      .ok ([.object [("title", .string "Forged token")], .null], false) := by cbv
  obtain ⟨report, o, hreport, ho, ⟨e, -⟩, hdropped, htotal⟩ := haccounted helements
  have hlength : 1 = report.threats.length := Fin.equiv_iff_eq.1 ⟨e⟩
  have hone : o.dropped = 1 := by
    simp only [List.length_cons, List.length_nil] at hdropped
    omega
  exact ⟨_, report, o, rfl, hreport, ho, hlength.symm, htotal.trans hlength.symm, hone⟩

end ThreatModel
