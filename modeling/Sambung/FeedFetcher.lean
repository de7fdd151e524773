/-
This file states the outbound iCalendar boundary, `ical-fetcher.ts`: the walk over
redirects that `probe` and `fetchFeed` share and the bounded read of a body, and
proves what any servers can make it request.

The URL parser and the servers are inputs. A server may look at every request made
before it answers or fails, and may end a body's stream as it likes.

The calls are written in the logic of `Traces`, where a request is a logged event
and an exception keeps what was logged. Each hop is checked before it is
requested, and the walk counts its hops down, so its theorem is an induction on
the hops left: one request at most for each, all of them guarded. Both calls catch
what the walk and the read may throw, and so end in a value whatever happens. A
name that resolves to a private address is outside of what the fetcher looks at,
and of what is proved here.
-/

import Sambung.Foundation.Traces
import Sambung.Gateway
import Sambung.IcalImport
import Sambung.PrivateHosts

namespace Sambung

/-! ### The platform -/

/-- A parsed URL, its two checked parts and its text. -/
structure Url where
  protocol : Text
  hostname : Text
  href : Text
  deriving DecidableEq, Repr

/-- `new URL(url)` and `new URL(location, base)`, which may throw. -/
structure UrlParser where
  parse : Text → Except Thrown Url
  resolve : Text → Url → Except Thrown Url

/-- A response's body: none, with what `text()` does, or a stream that is done or fails after
some chunks. The request's timeout ends every stream. -/
inductive FeedBody where
  | absent (text : Except Thrown Text)
  | stream (chunks : List Text) (ending : Except Thrown Unit)

/-- A `Response` to a request that follows no redirect. -/
structure FeedResponse where
  status : Nat
  location : Option Text
  body : FeedBody

/-- `fetch`: the answer or failure of a request, given the requests made before. -/
abbrev Servers := List Url → Url → Except Thrown FeedResponse

/-- A call that makes requests and may throw. -/
abbrev Fetching (Result : Type) := Traces.Call Thrown Url Result

/-! ### The fetcher -/

def MAX_SNIFF_BYTES : Nat := 64 * 1024

def MAX_FEED_BYTES : Nat := 5 * 1024 * 1024

def MAX_REDIRECTS : Nat := 5

def REDIRECT_STATUSES : List Nat := [301, 302, 303, 307, 308]

/-- The loop of `readBounded`. -/
def readChunks (maxBytes : Nat) (ending : Except Thrown Unit) :
    Text → List Text → Except Thrown Text
  | out, [] => ending.map fun _ => out
  | out, chunk :: chunks =>
    if utf16Length (out ++ chunk) ≥ maxBytes then .ok (out ++ chunk)
    else readChunks maxBytes ending (out ++ chunk) chunks

/-- Reads up to `maxBytes` of a body. -/
def readBounded (res : FeedResponse) (maxBytes : Nat) : Except Thrown Text :=
  match res.body with
  | .absent text => text
  | .stream chunks ending => readChunks maxBytes ending [] chunks

/-- Where the walk ends. -/
inductive Walked where
  | ok (res : FeedResponse)
  | failed (error : String)

/-- The loop of `walk`, with so many hops left. -/
def walkFrom (urls : UrlParser) (servers : Servers) : Nat → Url → Fetching Walked
  | 0, _ => pure (.failed "Too many redirects")
  | hops + 1, current =>
    if current.protocol ≠ "https:".toList then pure (.failed "Feed URL must be https")
    else if isPrivateHost current.hostname then pure (.failed "Feed host is not allowed")
    else do
      match ← Traces.caught (Traces.ask servers current) with
      | none => pure (.failed "Feed is unreachable")
      | some res =>
        if res.status ∈ REDIRECT_STATUSES then
          match res.location.filter (· ≠ []) with
          | none => pure (.failed "Feed redirect could not be verified")
          | some location =>
            match ← Traces.caught (Traces.settle (urls.resolve location current)) with
            | none => pure (.failed "Feed redirect is invalid")
            | some next => walkFrom urls servers hops next
        else if ¬ HttpOk res.status then pure (.failed s!"Feed responded {res.status}")
        else pure (.ok res)

/-- The guarded redirect walk. -/
def walk (urls : UrlParser) (servers : Servers) (url : Text) : Fetching Walked := do
  match ← Traces.caught (Traces.settle (urls.parse url)) with
  | none => pure (.failed "Not a valid URL")
  | some current => walkFrom urls servers (MAX_REDIRECTS + 1) current

/-- What `probe` answers. -/
structure IcalProbeResult where
  ok : Bool
  error : Option String
  deriving DecidableEq, Repr

def probe (urls : UrlParser) (servers : Servers) (url : Text) : Fetching IcalProbeResult := do
  match ← walk urls servers url with
  | .failed error => pure { ok := false, error := some error }
  | .ok res => do
    let head := (← Traces.caught (Traces.settle (readBounded res MAX_SNIFF_BYTES))).getD []
    if "BEGIN:VCALENDAR".toList <:+: head then pure { ok := true, error := none }
    else pure { ok := false, error := some "Response is not an iCalendar feed" }

def fetchFeed (urls : UrlParser) (servers : Servers) (url : Text) : Fetching IcalFetchResult := do
  match ← walk urls servers url with
  | .failed error => pure { ok := false, body := none, error := some error }
  | .ok res => do
    match ← Traces.caught (Traces.settle (readBounded res MAX_FEED_BYTES)) with
    | none => pure { ok := false, body := none, error := some "Feed could not be read" }
    | some body => pure (fetchedBody body)

/-! ### What is requested -/

/-- The request may be made: over https, to a host that is not private. -/
def Guarded (request : Url) : Prop :=
  request.protocol = "https:".toList ∧ isPrivateHost request.hostname = false

/-- One hop makes one request, after both checks, and the rest is another walk. -/
theorem walkFrom_ends (urls : UrlParser) (servers : Servers) (hops : Nat) (current : Url) :
    Traces.Ends Guarded hops (walkFrom urls servers hops current) := by
  induction hops generalizing current with
  | zero => exact Traces.ends_pure _
  | succ hops inductionHypothesis =>
    rw [walkFrom]
    by_cases secure : current.protocol = "https:".toList
    · rw [if_neg (not_not.mpr secure)]
      by_cases allowed : isPrivateHost current.hostname = true
      · rw [if_pos allowed]
        exact Traces.ends_pure _
      · rw [if_neg allowed, Nat.add_comm hops 1]
        have guarded : Guarded current := ⟨secure, Bool.eq_false_iff.mpr allowed⟩
        refine (Traces.sends_ask guarded).caught.bind fun answer => ?_
        cases answer with
        | none => exact Traces.ends_pure _
        | some res =>
          dsimp only
          by_cases redirected : res.status ∈ REDIRECT_STATUSES
          · rw [if_pos redirected]
            cases res.location.filter (· ≠ []) with
            | none => exact Traces.ends_pure _
            | some location =>
              refine Traces.Ends.weaken (Traces.Ends.bind (Traces.sends_settle _).caught
                fun target => ?_) (Nat.zero_add hops).le
              cases target with
              | none => exact Traces.ends_pure _
              | some next => exact inductionHypothesis next
          · rw [if_neg redirected]
            split
            · exact Traces.ends_pure _
            · exact Traces.ends_pure _
    · rw [if_pos secure]
      exact Traces.ends_pure _

theorem walk_ends (urls : UrlParser) (servers : Servers) (url : Text) :
    Traces.Ends Guarded 6 (walk urls servers url) := by
  refine Traces.Ends.weaken (Traces.Ends.bind (Traces.sends_settle _).caught fun parsed => ?_)
    (Nat.zero_add 6).le
  cases parsed with
  | none => exact Traces.ends_pure _
  | some current => exact walkFrom_ends urls servers 6 current

/-- A call on its own, from no request: what it returns and the requests it made. -/
abbrev Fetching.outcome {Result : Type} (call : Fetching Result) :
    Except Thrown Result × List Url :=
  call []

/-- Whatever the servers do, both calls end in a result, after at most six requests, each over https
to a host that is not private. The URL parser is any function and each server any strategy: it sees
what was requested before, and may redirect, fail, or end a body as it likes. -/
theorem fetcher_guarded (urls : UrlParser) (servers : Servers) (url : Text) :
    (∃ result, (probe urls servers url).outcome.1 = .ok result) ∧
      (∃ result, (fetchFeed urls servers url).outcome.1 = .ok result) ∧
      ∀ requests ∈ [(probe urls servers url).outcome.2, (fetchFeed urls servers url).outcome.2],
        requests.length ≤ 6 ∧ ∀ request ∈ requests, Guarded request := by
  have probes : Traces.Ends Guarded (6 + (0 + 0)) (probe urls servers url) := by
    refine (walk_ends urls servers url).bind fun walked => ?_
    cases walked with
    | failed error => exact Traces.ends_pure _
    | ok res =>
      refine Traces.Ends.bind (Traces.sends_settle _).caught fun head => ?_
      dsimp only
      split
      · exact Traces.ends_pure _
      · exact Traces.ends_pure _
  have fetches : Traces.Ends Guarded (6 + (0 + 0)) (fetchFeed urls servers url) := by
    refine (walk_ends urls servers url).bind fun walked => ?_
    cases walked with
    | failed error => exact Traces.ends_pure _
    | ok res =>
      refine Traces.Ends.bind (Traces.sends_settle _).caught fun body => ?_
      cases body with
      | none => exact Traces.ends_pure _
      | some body => exact Traces.ends_pure _
  obtain ⟨probed, sent, probeRun, few, all⟩ := probes []
  obtain ⟨fetched, sent', fetchRun, few', all'⟩ := fetches []
  refine ⟨⟨probed, congrArg Prod.fst probeRun⟩, ⟨fetched, congrArg Prod.fst fetchRun⟩,
    fun requests member => ?_⟩
  rcases List.mem_cons.mp member with rfl | member
  · rw [show (probe urls servers url).outcome.2 = sent from congrArg Prod.snd probeRun]
    exact ⟨few, all⟩
  · rw [List.mem_singleton.mp member,
      show (fetchFeed urls servers url).outcome.2 = sent' from congrArg Prod.snd fetchRun]
    exact ⟨few', all'⟩

end Sambung
