import Mathlib.Data.List.Nodup

/-!
# The transports of SockJS

What a browser offers decides which transports are enabled, and the answer of the server to
`/info` decides which of these are tried. The list that `detectProtocols` makes has at most one
transport of each class, in the order of `_all_protocols`, and only enabled ones; a whitelist
apart, it always ends with a polling transport.
-/

namespace EventMonitor

namespace SockJs

/-- The names of the transports. -/
inductive Protocol
  | websocket
  | xdrStreaming
  | xhrStreaming
  | iframeEventsource
  | iframeHtmlfile
  | xdrPolling
  | xhrPolling
  | iframeXhrPolling
  | jsonpPolling
  deriving DecidableEq, Repr

/-- What the window offers to the transports. -/
structure Browser where
  webSocket : Bool
  xmlHttpRequest : Bool
  withCredentials : Bool
  opera : Bool
  xDomainRequest : Bool
  eventSource : Bool
  postMessage : Bool
  konqueror : Bool
  stringify : Bool
  domain : Bool
  deriving DecidableEq, Repr

/-- The answer to `/info`, as far as it is used. -/
structure Info where
  websocket : Option Bool
  cookieNeeded : Bool
  deriving DecidableEq, Repr

namespace Protocol

/-- `_all_protocols`. -/
def all : List Protocol :=
  [.websocket, .xdrStreaming, .xhrStreaming, .iframeEventsource, .iframeHtmlfile, .xdrPolling, .xhrPolling,
    .iframeXhrPolling, .jsonpPolling]

/-- `IframeTransport.enabled`. -/
def iframeEnabled (browser : Browser) : Bool := browser.postMessage && !browser.konqueror

/-- `enabled` of the transport. -/
def enabled (browser : Browser) : Protocol → Bool
  | .websocket => browser.webSocket
  | .xdrStreaming | .xdrPolling => browser.xDomainRequest
  | .xhrStreaming | .xhrPolling => browser.xmlHttpRequest && browser.withCredentials && !browser.opera
  | .iframeEventsource => browser.eventSource && iframeEnabled browser
  | .iframeHtmlfile => iframeEnabled browser
  | .iframeXhrPolling => browser.xmlHttpRequest && iframeEnabled browser
  | .jsonpPolling => true

/-- `need_body` of the transport. -/
def needBody : Protocol → Bool
  | .xhrStreaming | .iframeEventsource | .iframeHtmlfile | .iframeXhrPolling | .jsonpPolling => true
  | .websocket | .xdrStreaming | .xdrPolling | .xhrPolling => false

/-- `roundTrips` of the transport. -/
def roundTrips : Protocol → ℕ
  | .websocket | .xdrStreaming | .xhrStreaming | .xdrPolling | .xhrPolling => 2
  | .iframeEventsource | .iframeHtmlfile | .iframeXhrPolling => 3
  | .jsonpPolling => 1

/-- The transports that post what they send by requests of their own. -/
def ajaxBased : Protocol → Bool
  | .xdrStreaming | .xhrStreaming | .xdrPolling | .xhrPolling => true
  | .websocket | .iframeEventsource | .iframeHtmlfile | .iframeXhrPolling | .jsonpPolling => false

end Protocol

/-- `maybe_push`: the first of the transports that may be used. -/
def maybePush (pe : Protocol → Bool) : List Protocol → List Protocol
  | [] => []
  | proto :: protos => if pe proto then [proto] else maybePush pe protos

/-- The streaming and the polling part of `detectProtocols` choose in the same way. -/
def detectAjax (pe : Protocol → Bool) (info : Info) (nullOrigin : Bool) (xhr xdr : Protocol)
    (others : List Protocol) : List Protocol :=
  if pe xhr && !nullOrigin then [xhr]
  else if pe xdr && !info.cookieNeeded && !nullOrigin then [xdr]
  else maybePush pe others

/-- `pe`: the transports that have been probed with success, and are on the whitelist. -/
def permitted (probed : Protocol → Bool) (whitelist : Option (List Protocol)) (protocol : Protocol) : Bool :=
  decide (protocol ∈ whitelist.getD Protocol.all) && probed protocol

/-- `detectProtocols`. -/
def detectProtocols (probed : Protocol → Bool) (whitelist : Option (List Protocol)) (info : Info)
    (nullOrigin : Bool) : List Protocol :=
  let pe := permitted probed whitelist
  (if info.websocket ≠ some false then maybePush pe [.websocket] else []) ++
    detectAjax pe info nullOrigin .xhrStreaming .xdrStreaming [.iframeEventsource, .iframeHtmlfile] ++
    detectAjax pe info nullOrigin .xhrPolling .xdrPolling [.iframeXhrPolling, .jsonpPolling]

/-- `countRTO`. -/
def countRTO (rtt : ℕ) : ℕ := if 100 < rtt then 3 * rtt else rtt + 200

/-- How long a transport has to open. -/
def Protocol.timeout (rto : ℕ) (protocol : Protocol) : ℕ :=
  if rto * protocol.roundTrips = 0 then 5000 else rto * protocol.roundTrips

/-- What is chosen from a class: nothing, or one transport that may be used. -/
def Choice (pe : Protocol → Bool) (cls chosen : List Protocol) : Prop :=
  chosen = [] ∨ ∃ proto ∈ cls, pe proto ∧ chosen = [proto]

/-- At most one transport is taken, and it may be used. -/
theorem choice_maybePush (pe : Protocol → Bool) (protos : List Protocol) :
    Choice pe protos (maybePush pe protos) := by
  induction protos with
  | nil => exact .inl rfl
  | cons proto protos ih =>
    by_cases hproto : pe proto
    · exact .inr ⟨proto, List.mem_cons_self, hproto, if_pos hproto⟩
    · rw [maybePush, if_neg hproto]
      apply ih.imp_right
      rintro ⟨other, hmem, hother, htaken⟩
      exact ⟨other, List.mem_cons_of_mem _ hmem, hother, htaken⟩

/-- One that may be used is taken if there is one. -/
theorem maybePush_ne_nil {pe : Protocol → Bool} {proto : Protocol} {protos : List Protocol}
    (hmem : proto ∈ protos) (hproto : pe proto) : maybePush pe protos ≠ [] := by
  induction protos with
  | nil => exact absurd hmem List.not_mem_nil
  | cons other protos ih =>
    rw [maybePush]
    split
    · exact List.cons_ne_nil _ _
    next hother =>
      rcases List.mem_cons.mp hmem with rfl | hrest
      · exact absurd hproto hother
      · exact ih hrest

/-- The choice within the streaming or the polling transports. -/
theorem choice_detectAjax (pe : Protocol → Bool) (info : Info) (nullOrigin : Bool) (xhr xdr : Protocol)
    (others : List Protocol) :
    Choice pe (xdr :: xhr :: others) (detectAjax pe info nullOrigin xhr xdr others) := by
  rw [detectAjax]
  split
  next h =>
    rw [Bool.and_eq_true] at h
    exact .inr ⟨xhr, by simp, h.1, rfl⟩
  split
  next h =>
    simp only [Bool.and_eq_true] at h
    exact .inr ⟨xdr, by simp, h.1.1, rfl⟩
  next =>
    apply (choice_maybePush pe others).imp_right
    rintro ⟨proto, hmem, hproto, htaken⟩
    exact ⟨proto, by simp [hmem], hproto, htaken⟩

namespace Choice

variable {pe : Protocol → Bool} {cls chosen : List Protocol}

/-- A choice is part of its class. -/
theorem sublist (h : Choice pe cls chosen) : chosen.Sublist cls := by
  rcases h with rfl | ⟨proto, hmem, -, rfl⟩
  · exact List.nil_sublist _
  · exact List.singleton_sublist.mpr hmem

/-- A chosen transport may be used. -/
theorem of_mem {protocol : Protocol} (h : Choice pe cls chosen) (hmem : protocol ∈ chosen) : pe protocol := by
  rcases h with rfl | ⟨proto, -, hproto, rfl⟩
  · exact absurd hmem List.not_mem_nil
  · exact List.mem_singleton.mp hmem ▸ hproto

/-- At most one transport is chosen. -/
theorem length_le (h : Choice pe cls chosen) : chosen.length ≤ 1 := by
  rcases h with rfl | ⟨proto, -, -, rfl⟩ <;> simp

end Choice

section Detected

variable (probed : Protocol → Bool) (whitelist : Option (List Protocol)) (info : Info) (nullOrigin : Bool)

/-- There is one choice for each class of transports. -/
theorem detectProtocols_choices : ∃ socket streaming polling,
    detectProtocols probed whitelist info nullOrigin = socket ++ streaming ++ polling ∧
      Choice (permitted probed whitelist) [.websocket] socket ∧
      Choice (permitted probed whitelist) [.xdrStreaming, .xhrStreaming, .iframeEventsource, .iframeHtmlfile]
        streaming ∧
      Choice (permitted probed whitelist) [.xdrPolling, .xhrPolling, .iframeXhrPolling, .jsonpPolling]
        polling := by
  refine ⟨_, _, _, rfl, ?_, choice_detectAjax _ _ _ _ _ _, choice_detectAjax _ _ _ _ _ _⟩
  split
  · exact choice_maybePush _ _
  · exact .inl rfl

/-- Transports are tried in the order of `_all_protocols`. -/
theorem detectProtocols_sublist : (detectProtocols probed whitelist info nullOrigin).Sublist Protocol.all := by
  obtain ⟨socket, streaming, polling, hall, hsocket, hstreaming, hpolling⟩ :=
    detectProtocols_choices probed whitelist info nullOrigin
  rw [hall]
  exact (hsocket.sublist.append hstreaming.sublist).append hpolling.sublist

/-- There is at most one transport of each class. -/
theorem length_detectProtocols_le : (detectProtocols probed whitelist info nullOrigin).length ≤ 3 := by
  obtain ⟨socket, streaming, polling, hall, hsocket, hstreaming, hpolling⟩ :=
    detectProtocols_choices probed whitelist info nullOrigin
  have hone := hsocket.length_le
  have htwo := hstreaming.length_le
  have hthree := hpolling.length_le
  rw [hall, List.length_append, List.length_append]
  omega

/-- Only transports that are enabled, and on the whitelist, are tried. -/
theorem permitted_of_mem {protocol : Protocol} (h : protocol ∈ detectProtocols probed whitelist info nullOrigin) :
    permitted probed whitelist protocol := by
  obtain ⟨socket, streaming, polling, hall, hsocket, hstreaming, hpolling⟩ :=
    detectProtocols_choices probed whitelist info nullOrigin
  rw [hall, List.mem_append, List.mem_append] at h
  rcases h with (h | h) | h
  · exact hsocket.of_mem h
  · exact hstreaming.of_mem h
  · exact hpolling.of_mem h

/-- Without a whitelist there is always a transport to try. -/
theorem detectProtocols_ne_nil (browser : Browser) :
    detectProtocols (Protocol.enabled browser) none info nullOrigin ≠ [] := by
  apply List.append_ne_nil_of_right_ne_nil
  rw [detectAjax]
  split
  · exact List.cons_ne_nil _ _
  split
  · exact List.cons_ne_nil _ _
  · have hjsonp : permitted (Protocol.enabled browser) none .jsonpPolling := by
      rw [permitted, Bool.and_eq_true]
      exact ⟨by decide, rfl⟩
    exact maybePush_ne_nil (by simp) hjsonp

end Detected

end SockJs

end EventMonitor
