import Turnstile.Function.Remote
import Turnstile.Proofs.Function.Calls

/-! Functions at other places, called over a transport. Where the responses depend on the requests only, the functions
are computed by their addresses, and the definitions of one address are one function. -/
namespace Turnstile.Remote
variable {σ Certificate Client : Type}

/-- A result is what a good response says, without an error. -/
theorem Response.read_eq_ok_iff {r : Response} {url : String} {statusName? : Nat → Option String} {v : Json} :
    r.read url statusName? = .ok v ↔ r.status = 200 ∧ Answer.decoder.ofText r.body = .ok { result := v } := by
  rw [read]
  by_cases hstatus : r.status = 200
  · rw [if_pos hstatus, and_iff_right hstatus]
    cases hbody : Answer.decoder.ofText r.body with
    | error e => simp
    | ok answer =>
      obtain ⟨result, error⟩ := answer
      by_cases herror : error.isEmpty = true
      · obtain rfl := String.isEmpty_iff.mp herror
        simp
      · have hne : error ≠ "" := fun h => herror (String.isEmpty_iff.mpr h)
        simp [hne]
  · simp [hstatus]

/-- Whatever a response fails with, the function has failed. -/
theorem Response.error_of_read {r : Response} {url : String} {statusName? : Nat → Option String} {e : Error}
    (h : r.read url statusName? = .error e) : ∃ m, e = .customFunction m := by
  rw [read] at h
  split at h
  · split at h
    · split at h
      · cases h
      · exact ⟨_, (Except.error.inj h).symm⟩
    · exact ⟨_, (Except.error.inj h).symm⟩
  · exact ⟨_, (Except.error.inj h).symm⟩

section Posting
variable {delegator : Option String} {d d' : FunctionDefinition} {args : List Json} {e : Error}

/-- A function is refused, or it is known where its calls go, whatever the arguments are. -/
theorem posting_cases (delegator : Option String) (d : FunctionDefinition) :
    (∃ m, ∀ args, posting delegator d args = .error (.customFunction m)) ∨
      ∃ url authority, ∀ args, ∃ body, posting delegator d args = .ok ⟨url, authority, body⟩ := by
  cases delegator with
  | some endpoint => exact .inr ⟨endpoint, "", fun args => ⟨delegatedRequest d args, rfl⟩⟩
  | none =>
    simp only [posting]
    split
    · exact .inr ⟨d.url, d.authority, fun args => ⟨request args, rfl⟩⟩
    · exact .inr ⟨d.url, "", fun args => ⟨request args, rfl⟩⟩
    · exact .inl ⟨_, fun _ => rfl⟩

theorem error_of_posting (h : posting delegator d args = .error e) : ∃ m, e = .customFunction m := by
  rcases posting_cases delegator d with ⟨m, hrefused⟩ | ⟨url, authority, hposted⟩
  · exact ⟨m, Except.error.inj (h.symm.trans (hrefused args))⟩
  · obtain ⟨body, hbody⟩ := hposted args
    cases h.symm.trans hbody

/-- Without a delegator the address, and the authority that vouches for it, say all about a function. -/
theorem posting_congr (hurl : d.url = d'.url) (hauthority : d.authority = d'.authority) :
    posting none d args = posting none d' args := by
  simp only [posting, hurl, hauthority]

end Posting

namespace Transport
variable {t : Transport σ Certificate Client} {delegator : Option String} {d d' : FunctionDefinition}
  {args : List Json} {s : σ} {e : Error}

theorem error_of_clientFor {authority : String} (h : t.clientFor authority = .error e) :
    ∃ m, e = .customFunction m := by
  have hclient (certificate : Option Certificate) (h : (t.client certificate).mapError (fun m =>
      Error.customFunction s!"failed to build client: {m}") = .error e) : ∃ m, e = .customFunction m := by
    cases hbuilt : t.client certificate with
    | error m =>
      rw [hbuilt] at h
      exact ⟨_, (Except.error.inj h).symm⟩
    | ok client =>
      rw [hbuilt] at h
      cases h
  by_cases hnone : authority.isEmpty = true
  · rw [clientFor, if_pos hnone] at h
    exact hclient none h
  · rw [clientFor, if_neg hnone] at h
    cases hread : t.certificate authority with
    | error m =>
      rw [hread] at h
      exact ⟨_, (Except.error.inj h).symm⟩
    | ok certificate =>
      rw [hread] at h
      exact hclient (some certificate) h

theorem error_of_post {p : Posting} (h : (t.post p s).1 = .error e) : ∃ m, e = .customFunction m := by
  rw [post] at h
  cases hclient : t.clientFor p.authority with
  | error failure =>
    rw [hclient] at h
    exact error_of_clientFor (hclient.trans (congrArg Except.error (Except.error.inj h)))
  | ok client =>
    rw [hclient] at h
    dsimp only at h
    generalize t.send client p.url p.body s = received at h
    obtain ⟨response, s⟩ := received
    cases response with
    | error m => exact ⟨_, (Except.error.inj h).symm⟩
    | ok response => exact response.error_of_read h

/-- A call that fails is a failure of the function, be it refused, not sent, not answered or answered with an error.
-/
theorem error_of_resolve (h : (t.resolve delegator d args s).1 = .error e) : ∃ m, e = .customFunction m := by
  rw [resolve] at h
  cases hposting : posting delegator d args with
  | error refused =>
    rw [hposting] at h
    exact error_of_posting (hposting.trans (congrArg Except.error (Except.error.inj h)))
  | ok p =>
    rw [hposting] at h
    exact error_of_post h

/-- The responses do not depend on anything but what is sent. -/
def IsPure (t : Transport σ Certificate Client) (responses : Client → String → Json → Except String Response) :
    Prop :=
  ∀ client url body s, (t.send client url body s).1 = responses client url body

/-- The same clients, with responses that are known. -/
def answering (t : Transport σ Certificate Client) (responses : Client → String → Json → Except String Response) :
    Transport Unit Certificate Client where
  certificate := t.certificate
  client := t.client
  send client url body := pure (responses client url body)
  statusName? := t.statusName?

section Pure
variable {responses : Client → String → Json → Except String Response} (pure : t.IsPure responses)
include pure

theorem post_answering (p : Posting) (s : σ) : (t.post p s).1 = ((t.answering responses).post p ()).1 := by
  have hclient : (t.answering responses).clientFor p.authority = t.clientFor p.authority := rfl
  rw [post, post, hclient]
  cases t.clientFor p.authority with
  | error e => rfl
  | ok client =>
    have hsame := pure client p.url p.body s
    dsimp only
    generalize t.send client p.url p.body s = received at hsame
    obtain ⟨response, s⟩ := received
    obtain rfl := hsame
    have hreceived : (t.answering responses).send client p.url p.body () =
        (responses client p.url p.body, ()) := rfl
    rw [hreceived]
    cases responses client p.url p.body <;> rfl

/-- What is computed by addresses whose responses depend on the requests only depends on the functions and the
arguments only. -/
theorem isPure_resolve (delegator : Option String) : (t.resolve delegator).IsPure fun d args =>
    ((t.answering responses).resolve delegator d args ()).1 := by
  intro d args s
  dsimp only
  rw [resolve, resolve]
  cases posting delegator d args with
  | error refused => rfl
  | ok p => exact post_answering pure p s

end Pure

/-- Functions of one name answer alike if they are computed at one address, with one authority for it. -/
theorem answerAlike_resolve (t : Transport Unit Certificate Client) {used : FunctionDefinition → Prop}
    (h : ∀ d d', used d → used d' → d.name = d'.name → d.url = d'.url ∧ d.authority = d'.authority) :
    AnswerAlike (fun d args => (t.resolve none d args ()).1) used := by
  intro d d' hd hd' hname args
  obtain ⟨hurl, hauthority⟩ := h d d' hd hd' hname
  simp only [resolve, posting_congr hurl hauthority]

theorem post_offline (isUsable : String → Bool) (url authority : String) : ∃ e, ∀ body,
    ((offline isUsable).post ⟨url, authority, body⟩ ()).1 = .error e := by
  simp only [post]
  cases (offline isUsable).clientFor authority with
  | error e => exact ⟨e, fun _ => rfl⟩
  | ok client => exact ⟨_, fun _ => rfl⟩

end Transport

/-- Where nothing can be reached every call fails with the refusal of the function, whatever the arguments are. -/
theorem resolve_offline (delegator : Option String) (d : FunctionDefinition) (args : List Json) :
    ((Transport.offline Turnstile.Certificate.isUsable).resolve delegator d args ()).1 =
      .error (refusal delegator d) := by
  rw [refusal, Transport.resolve, Transport.resolve]
  rcases posting_cases delegator d with ⟨m, hrefused⟩ | ⟨url, authority, hposted⟩
  · rw [hrefused, hrefused]
    rfl
  · obtain ⟨body, hargs⟩ := hposted args
    obtain ⟨body', hnone⟩ := hposted []
    obtain ⟨e, hfailed⟩ := Transport.post_offline Turnstile.Certificate.isUsable url authority
    rw [hargs, hnone]
    dsimp only
    rw [hfailed body, hfailed body']

end Turnstile.Remote
