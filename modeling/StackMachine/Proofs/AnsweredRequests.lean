import StackMachine.Proofs.WebSession

/-! Which requests are answered. All are, except a load request whose length has more digits than
are converted. -/
namespace StackMachine

namespace Http.Response

/-- The response says how long its body is. -/
def Complete (response : Response) : Prop :=
  ("Content-Length", toString response.body.utf8ByteSize) ∈ response.headers

end Http.Response

namespace Api
open Http Text
variable {r : Request} {s : Session}

theorem Reply.response_complete (reply : Reply) : reply.response.Complete := by
  cases reply with
  | preflight => exact List.mem_of_getElem? (i := 3) rfl
  | state | failed | refused | noRoute => exact List.mem_of_getElem? (i := 1) rfl

theorem Reply.response_status (reply : Reply) : reply.response.status = reply.status := by
  cases reply <;> rfl

theorem Reply.status_mem (reply : Reply) : reply.status ∈ [200, 204, 400, 404, 422, 500] := by
  cases reply with
  | failed f => cases f <;> simp [Reply.status, Failure.status]
  | preflight | state | refused | noRoute => simp [Reply.status]

/-- A request has a reply unless it is a load request whose length is not converted. -/
theorem handle_cases (r : Request) (s : Session) :
    (r.method = .post → r.route = "/api/load" → r.LengthConverts) ∧
        (∃ reply s', handle stepOperation r s = (.ok reply, s')) ∨
      (r.method = .post ∧ r.route = "/api/load" ∧ ¬ r.LengthConverts) ∧
        ∃ count, handle stepOperation r s = (.error count, s) := by
  have replied (action : Session.Action Snapshot) :
      ∃ reply s', replyTo (Operation.ofAction action s) = (.ok reply, s') := by
    obtain ⟨reply, h, -⟩ := replyTo_ofAction action s
    exact ⟨reply, _, h⟩
  by_cases hload : r.method = .post ∧ r.route = "/api/load"
  · obtain ⟨hm, hr⟩ := hload
    rcases requestedCode_converts r with ⟨hl, c, hc⟩ | ⟨hl, count, hc⟩
    · refine .inl ⟨fun _ _ => hl, ?_⟩
      cases c with
      | error refusal => exact ⟨_, _, handle_refused hm hr hc⟩
      | ok code =>
        unfold handle
        simp only [hm, hr, hc]
        exact replied (Session.load code)
    · exact .inr ⟨⟨hm, hr, hl⟩, count, handle_tooManyDigits hm hr hc⟩
  · refine .inl ⟨fun hm hr => absurd ⟨hm, hr⟩ hload, ?_⟩
    unfold handle
    split
    · exact ⟨_, _, rfl⟩
    · exact replied Session.state
    · rename_i hm hr
      exact absurd ⟨hm, hr⟩ hload
    · exact replied Session.step
    · exact replied Session.reset
    · exact ⟨_, _, rfl⟩

theorem serve_cases (r : Request) (s : Session) :
    (r.method = .post → r.route = "/api/load" → r.LengthConverts) ∧
        (∃ reply s', serve r s = (.ok (Reply.response reply), s')) ∨
      (r.method = .post ∧ r.route = "/api/load" ∧ ¬ r.LengthConverts) ∧
        ∃ count, serve r s = (.error count, s) := by
  rcases handle_cases r s with ⟨hl, reply, s', h⟩ | ⟨hl, count, h⟩
  · exact .inl ⟨hl, reply, s', serve_of_handle h⟩
  · refine .inr ⟨hl, count, ?_⟩
    unfold serve
    rw [h]
    rfl

/-- The response that a load request gets with the reason why it is not carried out. -/
def Rejects (response : Response) (message : String) : Prop :=
  response.status = 422 ∧
    response.body = (ErrorBody.json ⟨"InvalidRequest", message, none, none⟩).render

theorem serve_refused {refusal : Refusal} (hm : r.method = .post) (hr : r.route = "/api/load")
    (h : requestedCode r = .ok (.error refusal)) :
    ∃ response message, serve r s = (.ok response, s) ∧ Rejects response message ∧
      ∀ text, refusal.message? = some text → message = text := by
  refine ⟨_, _, serve_of_handle (handle_refused hm hr h), ⟨rfl, rfl⟩, fun text ht => ?_⟩
  rw [ht]
  rfl

/-- A load request is refused for a length that is no numeral, however long, and for one that is too
large. -/
theorem serve_badLength {text : List Char} (hm : r.method = .post) (hr : r.route = "/api/load")
    (ht : r.lengthText? = some text)
    (hbad : ¬ IsNumeral text ∨ text.length ≤ Numeral.maxDigits ∧ 1000000 < denoted text) :
    ∃ response message, serve r s = (.ok response, s) ∧ Rejects response message := by
  have hrefused : ∃ refusal, requestedCode r = .ok (.error refusal) := by
    by_cases hn : IsNumeral text
    · obtain hnot | ⟨hl, hd⟩ := hbad
      · exact absurd hn hnot
      · have hd : maxBody < denoted text := hd
        refine ⟨.bodyTooLarge, ?_⟩
        rw [requestedCode_numeral ht hn hl, if_pos hd]
    · apply requestedCode_not_numeral
      intro digits hdigits
      cases ht.symm.trans hdigits
      exact hn
  obtain ⟨refusal, hrefusal⟩ := hrefused
  obtain ⟨response, message, hserve, hrejects, -⟩ := serve_refused hm hr hrefusal
  exact ⟨response, message, hserve, hrejects⟩

/-- A request gets a complete response of a known status, unless it is to load a program and the
digits of its length are too many to be converted. Then it gets none, and the session stays as it
is. A load request with a length that is no numeral, or with too large a one that is converted, is
refused without a change to the session. The snapshots of a session are valid. -/
theorem requests_answered (r : Request) (s : Session) :
    ((∃ response, (serve r s).1 = .ok response) ↔
      (r.method = .post → r.route = "/api/load" → r.LengthConverts)) ∧
    (∀ response, (serve r s).1 = .ok response →
      response.Complete ∧ response.status ∈ [200, 204, 400, 404, 422, 500]) ∧
    (∀ count, (serve r s).1 = .error count → (serve r s).2 = s) ∧
    (r.method = .post → r.route = "/api/load" → ∀ text, r.lengthText? = some text →
      (¬ IsNumeral text ∨ text.length ≤ Numeral.maxDigits ∧ 1000000 < denoted text) →
      ∃ response message, serve r s = (.ok response, s) ∧ Rejects response message) ∧
    ∀ calls, s = Session.after {} calls → ∀ c shot, (s.perform c).1 = .snapshot shot →
      shot.Valid := by
  refine ⟨?_, ?_, ?_, fun hm hr text ht => serve_badLength hm hr ht, ?_⟩
  · rcases serve_cases r s with ⟨hl, reply, s', h⟩ | ⟨⟨hm, hr, hl⟩, count, h⟩
    · exact iff_of_true ⟨_, congrArg Prod.fst h⟩ hl
    · rw [h]
      exact iff_of_false (fun ⟨_, hresponse⟩ => nomatch hresponse) fun hall => hl (hall hm hr)
  · intro response hresponse
    rcases serve_cases r s with ⟨-, reply, s', h⟩ | ⟨-, count, h⟩
    · rw [h] at hresponse
      cases hresponse
      rw [reply.response_status]
      exact ⟨reply.response_complete, reply.status_mem⟩
    · rw [h] at hresponse
      cases hresponse
  · intro count hcount
    rcases serve_cases r s with ⟨-, reply, s', h⟩ | ⟨-, _, h⟩
    · rw [h] at hcount
      cases hcount
    · rw [h]
  · rintro calls rfl c shot h
    rw [Session.snapshot_of_perform h]
    exact ((Session.sound_empty.after calls).perform c).snapshot_valid

/-! ### A request that is not answered -/

/-- A load request that claims a length of so many ones. -/
def claimsOnes (n : Nat) : Request where
  method := .post
  path := "/api/load"
  headers := [("Content-Length", String.ofList (List.replicate n '1'))]

theorem lengthText?_claimsOnes (n : Nat) :
    (claimsOnes n).lengthText? = some (List.replicate n '1') := by
  have hv : (claimsOnes n).header? "Content-Length" =
      some (String.ofList (List.replicate n '1')) := by
    simp [Request.header?, claimsOnes]
  rw [Request.lengthText?, hv, Option.map_some, String.toList_ofList, strip_of_none]
  intro c hc
  rw [(List.mem_replicate.mp hc).2]
  rfl

theorem not_every_request_answered :
    ¬ ∀ (s : Session) (r : Request), ∃ response, (serve r s).1 = .ok response := by
  intro h
  obtain ⟨response, hresponse⟩ := h {} (claimsOnes 4301)
  have hn : IsNumeral (List.replicate 4301 '1') := by
    refine ⟨List.cons_ne_nil '1' (List.replicate 4300 '1'), ?_⟩
    intro c hc
    rw [(List.mem_replicate.mp hc).2]
    rfl
  have hl : ¬ (claimsOnes 4301).LengthConverts := by
    intro hconverts
    have hlength := hconverts _ (lengthText?_claimsOnes 4301) hn
    rw [List.length_replicate] at hlength
    exact absurd hlength (by decide)
  rcases serve_cases (claimsOnes 4301) {} with ⟨hconverts, -⟩ | ⟨-, count, hserve⟩
  · exact hl (hconverts rfl rfl)
  · rw [hserve] at hresponse
    cases hresponse

end Api

end StackMachine
