import DesignBridge.Proofs.Server.Executor
import DesignBridge.Proofs.Server.Posting
import Mathlib.Data.List.Forall2

/-! # Tokens stay with the bridge

Of the answer to a code, what the bridge tells depends on its status, on the reason that is given
for a refusal, and on whether there is a token; not on what the token is. So two histories that
differ in nothing else lead to the same bridge, and all callers see the same.
-/

namespace DesignBridge

/-- Whether two answers to a code differ at most in what the tokens are, and in what else is
said. -/
inductive SiteAnswer.Alike : SiteAnswer → SiteAnswer → Prop
  | same (answer : SiteAnswer) : Alike answer answer
  | tokens {status : Nat} {body other : List UInt8} {text another : Runes}
      {members others : Json.Members}
      (hmembers : content body = .object members) (hothers : content other = .object others)
      (hreason : (members.lookup ↑"error_description").getD .null =
        (others.lookup ↑"error_description").getD .null)
      (htoken : (members.lookup ↑"access_token").any Json.isTruthy =
        (others.lookup ↑"access_token").any Json.isTruthy) :
      Alike (.answered status body text) (.answered status other another)

/-- Whether two actions are the same up to such answers to a request that asks for access or ends an
authorization. -/
inductive BridgeAction.Alike : BridgeAction → BridgeAction → Prop
  | same (action : BridgeAction) : Alike action action
  | request {request : Request} {site other : SiteAnswer}
      (hpath : Endpoint.ofPath? request.path = some .authorize ∨
        Endpoint.ofPath? request.path = some .callback)
      (hsite : site.Alike other) : Alike (.request request site) (.request request other)

namespace Bridge

section

variable {b : Bridge} {request : Request} {site other : SiteAnswer}

/-- What is not given, and what is given and counts as nothing, is no reason. -/
theorem filter_isTruthy_eq (reason : Option Json) :
    reason.filter Json.isTruthy =
      if (reason.getD .null).isTruthy then some (reason.getD .null) else none := by
  cases reason <;> rfl

theorem exchanged_alike {status : Nat} {body another : List UInt8} {members others : Json.Members}
    (hmembers : SiteAnswer.content body = .object members)
    (hothers : SiteAnswer.content another = .object others)
    (hreason : (members.lookup ↑"error_description").getD .null =
      (others.lookup ↑"error_description").getD .null)
    (htoken : (members.lookup ↑"access_token").any Json.isTruthy =
      (others.lookup ↑"access_token").any Json.isTruthy) :
    exchanged (SiteClient.concludeExchange status body) =
      exchanged (SiteClient.concludeExchange status another) := by
  unfold SiteClient.concludeExchange
  rw [hmembers, hothers]
  by_cases hstatus : SiteAnswer.isErrorStatus status = true
  · simp only [hstatus, if_true, filter_isTruthy_eq, hreason]
  · rw [if_neg hstatus, if_neg hstatus]
    simp only [exchanged, htoken]

/-- What is told of an exchange is the same. -/
theorem exchangeCode_alike (client : SiteClient) (code : String) (h : site.Alike other) :
    ((client.exchangeCode code).map exchanged).result site =
      ((client.exchangeCode code).map exchanged).result other := by
  cases h with
  | same => rfl
  | tokens hmembers hothers hreason htoken =>
      unfold SiteClient.exchangeCode SiteClient.send
      split
      next => rfl
      next =>
        dsimp only [SiteCall.map, SiteCall.result]
        split
        next => exact exchanged_alike hmembers hothers hreason htoken
        next => rfl

theorem callback_alike (b : Bridge) (client : SiteClient) (request : Request)
    (h : site.Alike other) :
    (b.callback client request).2.result site = (b.callback client request).2.result other := by
  unfold callback
  split
  next => rfl
  next code _ =>
    dsimp only
    split
    next => exact exchangeCode_alike client code h
    next => rfl

/-- What comes of a request that asks for access or ends an authorization is the same. -/
theorem react_alike {endpoint : Endpoint} (hendpoint : endpoint = .authorize ∨ endpoint = .callback)
    (hsite : site.Alike other) {after : Bridge} {call : SiteCall Response}
    (h : b.react endpoint request = (after, .call call)) :
    call.result site = call.result other := by
  unfold react withClient at h
  cases hclient : b.client with
  | none =>
      rw [hclient] at h
      obtain rfl | rfl := hendpoint
      all_goals
        cases h
        rfl
  | some client =>
      rw [hclient] at h
      obtain rfl | rfl := hendpoint
      · dsimp only at h
        cases hauthorize : b.authorize client with
        | mk mid response =>
            rw [hauthorize] at h
            cases h
            rfl
      · dsimp only at h
        have hsame := callback_alike b client request hsite
        cases hcallback : b.callback client request with
        | mk mid started =>
            rw [hcallback] at h hsame
            cases h
            exact hsame

theorem takeRequest_alike (hpath : Endpoint.ofPath? request.path = some .authorize ∨
      Endpoint.ofPath? request.path = some .callback) (hsite : site.Alike other) :
    (b.takeRequest request site).1 = (b.takeRequest request other).1 := by
  have hendpoint : ∀ endpoint, Endpoint.find b.setup.host request = .ok endpoint →
      endpoint = .authorize ∨ endpoint = .callback := by
    intro endpoint hfind
    unfold Endpoint.find at hfind
    obtain hpath | hpath := hpath <;> rw [hpath] at hfind <;> dsimp only at hfind <;>
      split at hfind <;> cases hfind <;> simp
  unfold takeRequest
  dsimp only
  split
  next => rfl
  next =>
    split
    next => rfl
    next endpoint hfind =>
      split
      next mid call hreact =>
        rw [react_alike (hendpoint endpoint hfind) hsite hreact]
      next => rfl

theorem act_alike {first second : BridgeAction} (h : first.Alike second) :
    b.act first = b.act second := by
  cases h with
  | same => rfl
  | request hpath hsite => exact takeRequest_alike hpath hsite

end

/-- Whatever else happens, two histories that differ only in what the tokens are, and in what else
is said with them, lead to the same bridge, and so to the same answers to all requests. -/
theorem tokens_unseen {first second : List BridgeAction}
    (h : List.Forall₂ BridgeAction.Alike first second) (b : Bridge) :
    b.play first = b.play second := by
  induction h generalizing b with
  | nil => rfl
  | @cons action other rest others haction _ ih =>
      show (b.act action).play rest = (b.act other).play others
      rw [act_alike haction]
      exact ih _

/-- A bridge with what an authorization needs. -/
def credentialed : Bridge :=
  let env : Environment := Table.empty.insert "WEBFLOW_CLIENT_ID" "designer"
  let supply : Supply := { justStarted.setup.supply with authState := fun _ => "issued" }
  { justStarted with
    setup := { justStarted.setup with supply }
    env
    client := justStarted.client.map ({ · with settings := .load env }) }

/-- Access is asked for, and the code is exchanged for a token, or for another one. -/
theorem tokens_unseen_renewed :
    let granted (token : String) : List UInt8 :=
      (Json.object [("access_token", .text token)]).bytes
    let history (token : String) : List BridgeAction :=
      [.request ⟨"GET", "/auth/webflow", "", [], []⟩ (.failed .noClientId),
        .request ⟨"GET", "/auth/callback", "code=given&state=issued", [], []⟩
          (.answered 200 (granted token))]
    granted "first" ≠ granted "second" ∧
      List.Forall₂ BridgeAction.Alike (history "first") (history "second") ∧
      credentialed.play (history "first") = credentialed.play (history "second") := by
  intro granted history
  have hread : ∀ token : String,
      Json.Encoding.detect (granted token) = (.utf8, granted token) →
      SiteAnswer.content (granted token) = .object [("access_token", .text token)] := by
    intro token hutf8
    rw [SiteAnswer.content, (Json.lasts_object_text _ token).readBody?_bytes hutf8]
  have hhistories : List.Forall₂ BridgeAction.Alike (history "first") (history "second") :=
    .cons (.same _) (.cons (.request (.inr (by decide)) (.tokens
      (hread "first" (by decide +kernel)) (hread "second" (by decide +kernel)) rfl (by decide)))
      .nil)
  exact ⟨by decide +kernel, hhistories, tokens_unseen hhistories credentialed⟩

end Bridge

end DesignBridge
