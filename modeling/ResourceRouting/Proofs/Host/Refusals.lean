import ResourceRouting.Proofs.Headers
import ResourceRouting.Proofs.Host.Gathering
import ResourceRouting.Proofs.Variation.Disabled

/-!
# Refusals — what a refused request tells

An operation asks its gate and the host before it looks at inputs. So a request that one of the two
refuses is answered alike whatever its query and its body say. The host reads both before that,
and what it cannot read it rejects in words of its own; and it leaves out a header that names a
capability which no header can hold.

* `Http.Response.Tells`: the status, the expectation and the text of a response.
* `Http.Router.serve_of_refusal?`: a request that is refused whatever its inputs are.
* `Http.Router.serve_refused`: requests for one method and path that the gate or the host refuses.
-/

namespace ResourceRouting
namespace Http

/-! ## Responses to refusals -/

namespace Response

/-- What a response tells a client that sent this method. -/
structure Tells (method : String) (status : Nat) (expects? : Option String) (text : String)
    (response : Response) : Prop where
  status_eq : response.status = status
  expect_eq : response.headers["expect"]? = expects?
  body_eq : response.body = if method = "HEAD" then "" else text

theorem tells_sentTo {method text : String} {status : Nat} {expects? : Option String}
    {response : Response} (hstatus : response.status = status)
    (hexpect : response.headers["expect"]? = expects?) (htext : response.body = text) :
    (response.sentTo method).Tells method status expects? text := by
  unfold sentTo
  split
  · rename_i hhead
    exact ⟨hstatus, hexpect, (if_pos hhead).symm⟩
  · rename_i hother
    exact ⟨hstatus, hexpect, htext.trans (if_neg hother).symm⟩

theorem tells_unavailable (method name : String) :
    ((ofReply (Refusal.unavailable name).reply).sentTo method).Tells method 404 none
      s!"Operation '{name}' is not available" := by
  have hexpect : (ofReply (Refusal.unavailable name).reply).headers["expect"]? = none := by
    rw [getElem?_headers_ofReply _ (by decide)]
    rfl
  exact tells_sentTo rfl hexpect rfl

theorem tells_missingCapability (method c : String) :
    ((ofReply (Refusal.missingCapability c).reply).sentTo method).Tells method 412
      (if isHeaderValue c then some c else none)
      "The required capability to execute this operation is missing" := by
  have hexpect : (ofReply (Refusal.missingCapability c).reply).headers["expect"]? =
      if isHeaderValue c then some c else none := by
    have hheaders : (Refusal.missingCapability c).reply.headers =
        (Reply.text 412 "").headers ++ [("expect", c)] := rfl
    -- the type of the text is put in before it, under another name
    have htype : ((Reply.text 412 "").headers.foldl addHeader ∅)["expect"]? = none := rfl
    have hname : isHeaderName "expect" = true := by decide
    have hlowered : Text.loweredAscii "expect" = "expect" := by decide
    rw [getElem?_headers_ofReply _ (by decide), hheaders, List.foldl_append, List.foldl_cons,
      List.foldl_nil, getElem?_addHeader, htype]
    exact if_congr ⟨fun h => h.2.1, fun h => ⟨hname, h, hlowered⟩⟩ rfl rfl
  exact tells_sentTo rfl hexpect rfl

end Response

namespace Router

variable {σ : Type} {api : Api σ} {router : Router σ}

/-- An operation that refuses a request whatever its inputs are answers with the refusal, if the
inputs can be read. -/
theorem serve_of_refusal? (hmount : mount? api = some router) {request : Request}
    {route : Route σ} {b : Binding σ} {o : Operation σ}
    (hroute : router.route? request.path = some route)
    (hbinding : route.binding? request.method = some b) (hendpoint : b.endpoint = .operation o)
    (hreadable : request.Readable b.path) {s : σ} {refusal : Refusal}
    (hrefusal : ∀ inputs, o.refusal? api.hooks inputs s = some refusal) :
    router.serve request s = ((Response.ofReply refusal.reply).sentTo request.method, s) := by
  have hmounted := mounted_of_mount? hmount
  rcases exists_fits hmounted hroute hbinding with ⟨captures, hcaptures, hfits⟩
  -- the host reads the inputs first, and the operation is asked only once it has them
  rcases (Request.exists_inputs_iff hfits).2 hreadable with ⟨inputs, hinputs⟩
  have hinvoke : o.invoke api.hooks inputs s = (.ok refusal.reply, s) := by
    rw [Operation.invoke, hrefusal]
  rw [serve_of_binding? hroute hbinding, hmounted.source, dispatch_operation hendpoint hcaptures,
    hinputs]
  simp only [hinvoke, Response.ofOutcome]

/-- Requests for one method and path that the operation bound there refuses before it looks at
inputs are answered alike, whatever else they bring, if only their inputs can be read. A closed gate
is a 404. A capability that is not granted is a 412 that names the capability, if a header can hold
its name. No state changes. -/
theorem serve_refused (hmount : mount? api = some router) {method path : String}
    {route : Route σ} {b : Binding σ} {o : Operation σ}
    (hroute : router.route? path = some route) (hbinding : route.binding? method = some b)
    (hendpoint : b.endpoint = .operation o) :
    (∃ response : Response,
      response.Tells method 404 none s!"Operation '{o.name}' is not available" ∧
      ∀ s, o.gate.isOpen s = false →
        ∀ request : Request, request.method = method → request.path = path →
          request.Readable b.path → router.serve request s = (response, s)) ∧
    ∀ c, o.capability? = some c → ∃ response : Response,
      response.Tells method 412 (if Response.isHeaderValue c then some c else none)
        "The required capability to execute this operation is missing" ∧
      ∀ s, o.gate.isOpen s = true → api.hooks.grants s c = false →
        ∀ request : Request, request.method = method → request.path = path →
          request.Readable b.path → router.serve request s = (response, s) := by
  refine ⟨⟨_, Response.tells_unavailable method o.name, ?_⟩,
    fun c hcapability => ⟨_, Response.tells_missingCapability method c, ?_⟩⟩
  · rintro s hgate request rfl rfl hreadable
    refine serve_of_refusal? hmount hroute hbinding hendpoint hreadable fun inputs => ?_
    exact Operation.refusal?_eq_some_iff.2 (.unavailable hgate)
  · rintro s hgate hgrants request rfl rfl hreadable
    refine serve_of_refusal? hmount hroute hbinding hendpoint hreadable fun inputs => ?_
    exact Operation.refusal?_eq_some_iff.2 (.missingCapability hgate hcapability hgrants)

/-- Pages of which nothing is allowed: they are not listed, and what is needed to create or to edit
one is not granted. -/
def lockedPages : List (ApiClause Unit) :=
  [.capabilityCheck fun _ _ => false,
   .collection "pages"
     [.operation "index" [.gate (.dynamic fun _ => false)],
      .operation "create" [.capability "pages.create"],
      .operation "update" [.capability "pages\nupdate"]]]

/-- What a request for a method and a path comes to: the path of the binding, and the name, the gate
and the capability of its operation. -/
structure Bound where
  path : String
  operation : String
  isOpen : Bool
  capability? : Option String
  deriving DecidableEq

def boundTo (router : Router Unit) (method path : String) : Option Bound := do
  let route ← router.route? path
  let b ← route.binding? method
  let o ← b.endpoint.operation?
  return ⟨b.path, o.name, o.gate.isOpen (), o.capability?⟩

theorem boundTo_eq_some_iff {router : Router Unit} {method path : String} {bound : Bound} :
    boundTo router method path = some bound ↔
      ∃ route b o, router.route? path = some route ∧ route.binding? method = some b ∧
        b.endpoint = .operation o ∧ ⟨b.path, o.name, o.gate.isOpen (), o.capability?⟩ = bound := by
  simp [boundTo, Option.bind_eq_some_iff, Endpoint.operation?_eq_some_iff]

def listing : Request := { method := "GET", path := "/pages" }

def creation : Request := { method := "POST", path := "/pages" }

/-- The request with a query and a body. -/
def searching (request : Request) : Request :=
  { request with
    query? := some "lang=en"
    headers := [("content-type", "application/json")]
    body := "[1]" }

theorem serve_refused_lockedPages :
    ∃ (api : Api Unit) (router : Router Unit), Api.build "site" lockedPages = .ok api ∧
      mount? api = some router ∧
      (∃ response : Response,
        response.Tells "GET" 404 none "Operation 'index' is not available" ∧
        router.serve listing () = (response, ()) ∧
          router.serve (searching listing) () = (response, ())) ∧
      ∃ response : Response,
        response.Tells "POST" 412 (some "pages.create")
          "The required capability to execute this operation is missing" ∧
        router.serve creation () = (response, ()) ∧
          router.serve (searching creation) () = (response, ()) := by
  rcases isOk_iff_exists.1 (by decide +kernel : (Api.build "site" lockedPages).isOk = true) with
    ⟨api, hbuild⟩
  have hrouter : ((mount? api).map fun router =>
      (boundTo router "GET" "/pages", boundTo router "POST" "/pages")) =
        some (some ⟨"/pages", "index", false, none⟩,
          some ⟨"/pages", "create", true, some "pages.create"⟩) := by
    rw [(Api.build_eq_ok_iff.1 hbuild).2]
    decide +kernel
  have hgrants : api.hooks.grants () "pages.create" = false := by
    rw [(Api.build_eq_ok_iff.1 hbuild).2]
    rfl
  have hreadable : ∀ request ∈ [listing, searching listing, creation, searching creation],
      request.Readable "/pages" := by
    have hinputs : ∀ request ∈ [listing, searching listing, creation, searching creation],
        Path.matchSegments (Path.segments "/pages") (Path.segments request.path) = some [] ∧
          (request.inputs []).isOk = true := by
      decide +kernel
    intro request hmem
    rcases hinputs request hmem with ⟨hfits, hok⟩
    exact (Request.exists_inputs_iff (Path.matchSegments_eq_some_iff.1 hfits)).1
      (isOk_iff_exists.1 hok)
  simp only [List.forall_mem_cons] at hreadable
  rcases hreadable with ⟨hlisting, hsearching, hcreation, hsearchingCreation, -⟩
  rcases Option.map_eq_some_iff.1 hrouter with ⟨router, hmount, hbound⟩
  simp only [Prod.mk.injEq, boundTo_eq_some_iff, Bound.mk.injEq] at hbound
  rcases hbound with ⟨⟨route, b, o, hroute, hbinding, hendpoint, hpath, hname, hgate, -⟩,
    route', b', o', hroute', hbinding', hendpoint', hpath', -, hgate', hcapability'⟩
  refine ⟨api, router, hbuild, hmount, ?_, ?_⟩
  · rcases (serve_refused hmount hroute hbinding hendpoint).1 with ⟨response, htells, hserve⟩
    rw [hname] at htells
    rw [hpath] at hserve
    exact ⟨response, htells, hserve () hgate _ rfl rfl hlisting,
      hserve () hgate _ rfl rfl hsearching⟩
  · rcases (serve_refused hmount hroute' hbinding' hendpoint').2 _ hcapability' with
      ⟨response, htells, hserve⟩
    rw [hpath'] at hserve
    exact ⟨response, htells, hserve () hgate' hgrants _ rfl rfl hcreation,
      hserve () hgate' hgrants _ rfl rfl hsearchingCreation⟩

/-- A body that is not the JSON that it is said to be. -/
def brokenListing : Request := { searching listing with body := "\x7b" }

/-- A body that is JSON, after more blanks than the host takes in. -/
def bulkyListing : Request :=
  { searching listing with body := String.ofList (List.replicate 2097152 ' ') ++ "[1]" }

theorem not_isBounded_bulkyListing : ¬ bulkyListing.IsBounded := by
  have hblanks : ∀ n, (String.ofList (List.replicate n ' ')).utf8ByteSize = n := by
    intro n
    induction n with
    | zero =>
        rfl
    | succ n ih =>
        rw [List.replicate_succ, String.ofList_cons, String.utf8ByteSize_append, ih]
        exact Nat.add_comm 1 n
  have hsize : bulkyListing.body.utf8ByteSize = 2097152 + "[1]".utf8ByteSize := by
    rw [bulkyListing, String.utf8ByteSize_append, hblanks]
  rw [Request.IsBounded, hsize]
  decide

def edit : Request := { method := "PATCH", path := "/pages/7" }

/-- Of three requests for one method and path that a closed gate answers, the one with the broken
body and the one with the bulky body are rejected instead. And a capability that no header can hold
is not named. -/
theorem serve_brokenListing :
    ∃ (api : Api Unit) (router : Router Unit) (route : Route Unit) (b : Binding Unit)
      (o : Operation Unit), Api.build "site" lockedPages = .ok api ∧
      mount? api = some router ∧ router.route? "/pages" = some route ∧
      route.binding? "GET" = some b ∧ b.endpoint = .operation o ∧ o.gate.isOpen () = false ∧
      (router.serve listing ()).1.status = 404 ∧
      (router.serve brokenListing ()).1.status = 400 ∧
      (router.serve bulkyListing ()).1.status = 413 ∧
      (router.serve edit ()).1.status = 412 ∧
      (router.serve edit ()).1.headers["expect"]? = none := by
  rcases isOk_iff_exists.1 (by decide +kernel : (Api.build "site" lockedPages).isOk = true) with
    ⟨api, hbuild⟩
  have hrouter : ((mount? api).map fun router => (boundTo router "GET" "/pages",
      (router.serve listing ()).1.status,
      (router.serve brokenListing ()).1.status,
      (router.serve edit ()).1.status,
      (router.serve edit ()).1.headers["expect"]?)) =
        some (some ⟨"/pages", "index", false, none⟩, 404, 400, 412, none) := by
    rw [(Api.build_eq_ok_iff.1 hbuild).2]
    decide +kernel
  rcases Option.map_eq_some_iff.1 hrouter with ⟨router, hmount, hbound⟩
  simp only [Prod.mk.injEq, boundTo_eq_some_iff, Bound.mk.injEq] at hbound
  rcases hbound with ⟨⟨route, b, o, hroute, hbinding, hendpoint, hpath, -, hgate, -⟩,
    hlisting, hbroken, hedit⟩
  -- not by evaluation: the body is too large for that as well
  have hbulky : (router.serve bulkyListing ()).1.status = 413 := by
    have hcaptures : Path.matchSegments (Path.segments b.path)
        (Path.segments bulkyListing.path) = some [] := by
      rw [hpath]
      decide +kernel
    have hpairs : bulkyListing.bodyPairs = .error .tooLarge :=
      Request.bodyPairs_of_large ⟨"", rfl⟩ (by decide +kernel) not_isBounded_bulkyListing
    have hinputs : bulkyListing.inputs [] = .error .tooLarge := by
      rw [Request.inputs, hpairs]
      rfl
    rw [serve_of_binding? hroute hbinding, (mounted_of_mount? hmount).source,
      dispatch_operation hendpoint hcaptures, hinputs]
    rfl
  exact ⟨api, router, route, b, o, hbuild, hmount, hroute, hbinding, hendpoint, hgate, hlisting,
    hbroken, hbulky, hedit⟩

end Router
end Http
end ResourceRouting
