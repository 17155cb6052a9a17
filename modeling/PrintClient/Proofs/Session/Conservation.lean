import PrintClient.Proofs.Session.Exchange

/-!
# Requests are conserved

Whatever happens to its connections, a session loses a caller's request only by a teardown while the
request is on its way. All others come to their end in the order in which they were submitted, or
they still wait in this order.

* `World.Balance`: what has become of the requests that were submitted;
* `requests_conserved`: every run is balanced until the session ends, and only teardowns lose
  requests.
-/

namespace PrintClient.Session.World

open scoped List

variable {H : Type}

/-- What has become of the requests that callers submitted, `finished` being those that have come to
their end. -/
structure Balance (w : World H) (finished : List (Queued H)) : Prop where
  /-- What was taken has come to its end, or is on its way, or waits in the queue. -/
  taken : taken w.history =
    finished ++ callerEntries w.session.inFlight.toList ++ callerEntries w.session.queue
  /-- The handler of each finished request was called or given up, once and in this order. -/
  endings : endings w.history = callers finished
  /-- What was written is part of what has come to its end or is on its way. -/
  written : callerWrites w.history <+ finished ++ callerEntries w.session.inFlight.toList
  /-- What was submitted and not taken is in the channel. -/
  submitted : submitted w.history = Session.taken w.history ++ entries w.commands
  /-- What was written is part of what was submitted, in the same order. -/
  order : callerWrites w.history <+ Session.submitted w.history

theorem balance_run (setup : Setup H) (acts : List (Act H)) (h : (run setup acts).stage ≠ .ended) :
    (run setup acts).Balance (finished (run setup acts).history) := by
  obtain ⟨hc, hs⟩ := ledger_run setup acts h
  have hwritten := (exchange_run setup acts).written h
  have htaken := hc.taken
  rw [outstanding, callerEntries_append, ← List.append_assoc] at htaken
  refine ⟨htaken, hc.endings.symm, hwritten, hs, ?_⟩
  rw [hs, htaken, List.append_assoc]
  exact hwritten.trans (List.sublist_append_left _ _)

/-- A request is given up in a run only because the connection that it was on is torn down. -/
theorem tornDown_of_lost (setup : Setup H) (before : List (Act H)) (a : Act H) {handler : H}
    (h : ((run setup before).act a).stage ≠ .ended)
    (hl : .lost handler ∈
      ((run setup before).act a).history.drop (run setup before).history.length) :
    (run setup before).TornDown ((run setup before).act a) handler := by
  obtain ⟨new, ended, ha⟩ := accounts_act (generations_run setup before) a h
  rw [ha.history, List.drop_left] at hl
  exact ha.lost handler hl

/-- **Until the session ends its requests are balanced, and every request that was given up was on
its way when its connection was torn down.** -/
theorem requests_conserved (setup : Setup H) (acts : List (Act H))
    (h : (run setup acts).stage ≠ .ended) :
    (∃ finished, (run setup acts).Balance finished) ∧
      ∀ before a after, acts = before ++ a :: after → ∀ handler,
        .lost handler ∈ ((run setup before).act a).history.drop (run setup before).history.length →
          (run setup before).TornDown ((run setup before).act a) handler := by
  refine ⟨⟨_, balance_run setup acts h⟩, ?_⟩
  rintro before a after rfl handler hl
  -- Had the session ended before, it would have ended after.
  refine tornDown_of_lost setup before a (fun he => h ?_) hl
  rw [run_append]
  exact stage_all_of_ended he after

/-- Two requests of which the first is lost with its connection. -/
def sampleLoss : List (Act Nat) :=
  sampleLogin ++ [.submit (.named "listPrinter") 1, .submit (.named "listModels") 2, .step, .step,
    .linkStep 1, .linkStep 1, .arrive 1 .ended, .linkStep 1, .step]

theorem sampleLoss_conserved : (run sampleSetup sampleLoss).stage ≠ .ended ∧
    ((∃ finished, (run sampleSetup sampleLoss).Balance finished) ∧
      ∀ before a after, sampleLoss = before ++ a :: after → ∀ handler,
        .lost handler ∈
            ((run sampleSetup before).act a).history.drop (run sampleSetup before).history.length →
          (run sampleSetup before).TornDown ((run sampleSetup before).act a) handler) := by
  have h : (run sampleSetup sampleLoss).stage ≠ .ended := by decide +kernel
  exact ⟨h, requests_conserved sampleSetup sampleLoss h⟩

end PrintClient.Session.World
