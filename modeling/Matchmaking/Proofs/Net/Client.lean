import Matchmaking.Net.Client

/-!
# What arrives at a server
-/

namespace Matchmaking.Net

variable {place : String} {first here : Url} {left : Nat} {request r : Received}
  {answers : List Answer}

/-- What arrives is the request itself, or arrives after an answer that names another place. -/
private theorem eq_or_later (h : r ∈ (send place first left here request answers).received) :
    r = { request with target := here.target } ∨ ∃ fewer there way rest, left = fewer + 1 ∧
      r ∈ (send place first fewer there
        (Status.Redirect.apply way { request with target := here.target }) rest).received := by
  unfold send at h
  dsimp only at h
  split at h
  · exact absurd h List.not_mem_nil
  split at h
  · exact absurd h List.not_mem_nil
  · exact Or.inl (List.mem_singleton.mp h)
  · rename_i status location body rest
    split at h
    · exact Or.inl (List.mem_singleton.mp h)
    split at h
    · exact Or.inl (List.mem_singleton.mp h)
    · rename_i there way _
      split at h
      · exact Or.inl (List.mem_singleton.mp h)
      · rename_i fewer
        split at h
        · rcases List.mem_cons.mp h with hself | hlater
          · exact Or.inl hself
          · exact Or.inr ⟨fewer, there, way, rest, rfl, hlater⟩
        · exact Or.inl (List.mem_singleton.mp h)

/-- A document arrives as it was sent: another place is asked with the same document, or looked up
without any. -/
theorem body_of_mem_received_send
    (h : r ∈ (send place first left here request answers).received) (post : r.method = "POST") :
    request.method = "POST" ∧ r.body = request.body := by
  induction left generalizing here request answers with
  | zero =>
      rcases eq_or_later h with rfl | ⟨fewer, _, _, _, hleft, _⟩
      · exact ⟨post, rfl⟩
      · cases hleft
  | succ left ih =>
      rcases eq_or_later h with rfl | ⟨fewer, there, way, rest, hleft, hlater⟩
      · exact ⟨post, rfl⟩
      · cases hleft
        obtain ⟨hmethod, hbody⟩ := ih hlater
        cases way with
        | again => exact ⟨hmethod, hbody⟩
        | lookUp =>
            simp only [Status.Redirect.apply] at hmethod
            split at hmethod <;> exact absurd hmethod (by decide)

/-- The request itself is the first to arrive at a server that takes connections. -/
private theorem head?_received_send (scheme : here.scheme = "http")
    (stands : here.authority.map Authority.place = some place) (answer : Answer) :
    (send place first left here request (answer :: answers)).received.head? =
      some { request with target := here.target } := by
  unfold send
  simp only [scheme, stands, ne_eq, not_true_eq_false, or_self, if_false]
  cases answer with
  | none => rfl
  | reply status location body =>
      split
      · rename_i hnil
        cases hnil
      · rfl
      · split
        · rfl
        split
        · rfl
        split
        · rfl
        split <;> rfl

theorem body_of_mem_received_post {server : Server} {url mediaType : String} {body : List UInt8}
    {r : Received} (h : r ∈ (post server url mediaType body).received) (post : r.method = "POST") :
    r.body = body := by
  unfold Net.post at h
  split at h
  · exact absurd h List.not_mem_nil
  · dsimp only at h
    split at h
    · exact (body_of_mem_received_send h post).2
    · exact absurd h List.not_mem_nil

/-! ## What a text locates -/

/-- A text locates a target at the server of a place, over a plain connection. -/
structure Locates (url place target : String) (u : Url) : Prop where
  parsed : Url.parse? url = some u
  hasHost : u.asked.hasHost = true
  nameable : (Target.parse? u.asked.text).isSome = true
  scheme : u.asked.scheme = "http"
  stands : u.asked.authority.map Authority.place = some place
  target : u.asked.target = target

namespace Locates

variable {url target mediaType : String} {u : Url} {body : List UInt8}

theorem post_eq (h : Locates url place target u) : post ⟨place, answers⟩ url mediaType body =
    send place u.asked redirectLimit u.asked ⟨"POST", target, some mediaType, body⟩ answers := by
  have askable : u.asked.isAskable = true := by
    rw [Url.isAskable, h.scheme]
    rfl
  simp only [post, h.parsed, h.hasHost, askable, h.nameable, and_self, if_true, h.target]

/-- The document is the first that arrives, if the server takes a connection at all. -/
theorem head?_received_post (h : Locates url place target u) (answer : Answer) :
    (post ⟨place, answer :: answers⟩ url mediaType body).received.head? =
      some ⟨"POST", target, some mediaType, body⟩ := by
  rw [h.post_eq, head?_received_send h.scheme h.stands, h.target]

/-- An answer that names no other place ends the exchange. -/
theorem post_answered (h : Locates url place target u) {status : Status}
    (final : isFinal status none = true) (answered : Option (List UInt8)) :
    post ⟨place, .reply status none answered :: answers⟩ url mediaType body =
      ⟨[⟨"POST", target, some mediaType, body⟩], .ok (replyOf status answered)⟩ := by
  have stays : elsewhere? u.asked status none = none := by
    cases hway : status.redirect? <;> simp [elsewhere?, hway]
  rw [h.post_eq]
  unfold send
  simp [h.scheme, h.stands, h.target, final, stays]

end Locates

/-! ## The machine itself -/

def loopbackUrl : String := "http://[::1]/"

/-- A server that answers once, at the address of the machine itself. -/
def loopback (status : Status) (answered : List UInt8) : Server :=
  ⟨"[::1]", [.reply status none (some answered)]⟩

theorem locates_loopback : Locates loopbackUrl "[::1]" "/"
    ⟨"http", some ⟨none, "[::1]", none⟩, "/", none, none⟩ where
  parsed := by decide +kernel
  hasHost := by decide +kernel
  nameable := by decide +kernel
  scheme := by decide +kernel
  stands := by decide +kernel
  target := by decide +kernel

theorem post_loopback {status : Status} (final : isFinal status none = true)
    (answered : List UInt8) (mediaType : String) (body : List UInt8) :
    post (loopback status answered) loopbackUrl mediaType body =
      ⟨[⟨"POST", "/", some mediaType, body⟩], .ok (replyOf status (some answered))⟩ :=
  locates_loopback.post_answered final (some answered)

end Matchmaking.Net
