import MicrotunSigner.Auth.Actions
import MicrotunSigner.Lib.Sys
import Mathlib.Logic.Function.Basic

/-!
# The keys of GitHub Actions (`auth.rs`)

`jwk_for` looks a key up in a cache that it refreshes itself: after a miss it takes the lock of the
refreshes, looks again, and fetches the document unless another attempt was made within the
interval. Any number of calls run in any order (`jwksSys`); one step is what happens under one lock,
or the fetch that ends.

* A guard of the cache is never held across an await, so each of its critical sections is one step.
  The lock of the refreshes is held until the call ends (`holder`).
* The attempt is decided and recorded with two readings of the clock under one guard
  (`JwksIn.attempt`).
* A fetch lasts until its document is in the cache; it can fail or be cancelled before. The keys of
  a fetch wait for the guard of the cache in a step of their own (`installing`).
* `serde_json` is the parameter `fromSlice`.
-/

namespace MicrotunSigner

open Lib Lib.Text

def jwksMinRefreshInterval : Nat := Duration.fromSecs 60
def jwksMaxStaleness : Nat := Duration.fromSecs (24 * 60 * 60)
def jwksMaxBytes : Nat := 256 * 1024

structure JwksDocument where
  keys : List RsaJwk

structure JwksCache where
  fetchedAt : Option Int
  lastAttempt : Option Int
  keys : Map String RsaJwk

/-! ## The fetch -/

/-- The response to the request for the document; `none` in `chunks` is an error of the stream. -/
structure JwksResponse where
  status : StatusCode
  contentLength : Option Nat
  chunks : List (Option (List UInt8))

/-- The loop over the chunks: they are `body` so far. -/
def readBody (body : List UInt8) : List (Option (List UInt8)) → Option (List UInt8)
  | [] => some body
  | none :: _ => none
  | some chunk :: chunks =>
    if body.length + chunk.length > jwksMaxBytes then none else readBody (body ++ chunk) chunks

/-- The key can verify an RS256 signature, and has a name. -/
def RsaJwk.usable (key : RsaJwk) : Bool :=
  key.kty == "RSA" && key.alg.all (· == "RS256") && key.use_.all (· == "sig") && !isEmpty key.kid

/-- The usable keys of a document, by their `kid`. -/
def JwksDocument.usableKeys (document : JwksDocument) : Map String RsaJwk :=
  document.keys.foldl (fun keys key => if key.usable then keys.insert key.kid key else keys) Map.empty

section Fetch

variable (fromSlice : List UInt8 → Option JwksDocument)

/-- `fetch_jwks` as far as the document, with the response to its request (`none`: it failed). -/
def fetchDocument (reply : Option JwksResponse) : Except AuthError JwksDocument := do
  let response ← okOr reply .keyDiscovery
  bailIf response.status.isError .keyDiscovery
  bailIf (response.contentLength.any (· > jwksMaxBytes)) .keyDiscovery
  let body ← okOr (readBody [] response.chunks) .keyDiscovery
  okOr (fromSlice body) .keyDiscovery

def fetchJwks (reply : Option JwksResponse) : Except AuthError (Map String RsaJwk) := do
  let document ← fetchDocument fromSlice reply
  bailIf (document.usableKeys.size == 0) .keyDiscovery
  return document.usableKeys

end Fetch

/-! ## The critical sections -/

def JwksCache.cachedJwk (cache : JwksCache) (now : Int) (kid : String) (ttl : Nat) : Option RsaJwk :=
  let fresh := cache.fetchedAt.any fun at_ => decide (Instant.elapsed at_ now < ttl)
  if fresh then cache.keys.lookup kid else none

/-- The decision whether to fetch, at `now`; an attempt is recorded with the reading `attempt`. -/
def JwksCache.mayFetch (cache : JwksCache) (now attempt : Int) : Bool × JwksCache :=
  let allowed := cache.lastAttempt.all fun at_ => decide (Instant.elapsed at_ now ≥ jwksMinRefreshInterval)
  (allowed, if allowed then { cache with lastAttempt := some attempt } else cache)

/-- The end of `jwk_for`. -/
def JwksCache.jwk (cache : JwksCache) (now : Int) (kid : String) (ttl : Nat) :
    Except AuthError RsaJwk := do
  let usable := cache.fetchedAt.any fun at_ =>
    decide (Instant.elapsed at_ now < Duration.saturatingAdd ttl jwksMaxStaleness)
  bailIf (!usable) .keyDiscovery
  -- An unknown `kid` against a usable key set is a bad token, not an outage.
  okOr (cache.keys.lookup kid) .invalidToken

/-! ## The calls -/

/-- Where a call for `kid` is. -/
inductive JwksPc where
  | idle
  /-- Before its first look at the cache, and before the lock of the refreshes. -/
  | entered (kid : String)
  | missed (kid : String)
  /-- With the lock: before its second look, and before it decides about an attempt. -/
  | locked (kid : String)
  | attempting (kid : String)
  | fetching (kid : String)
  /-- `reply` is what `keys` were read from. -/
  | installing (kid : String) (reply : Option JwksResponse) (keys : Map String RsaJwk)
  /-- Before its last look. -/
  | reading (kid : String)
  /-- It has its result (`none`: it was cancelled) and still has the lock. -/
  | dropping (kid : String) (result : Option (Except AuthError RsaJwk))
  | done (kid : String) (result : Option (Except AuthError RsaJwk))

/-- What a step of a call gets from outside. -/
inductive JwksIn where
  | go
  /-- The clock is read twice, and goes on by `d` in between. -/
  | attempt (d : Nat)
  | reply (reply : Option JwksResponse)
  | cancel

structure JwksShared where
  now : Int
  cache : JwksCache
  /-- Who has the lock `jwks_refresh`. -/
  holder : Option Nat

section Calls

variable (actions : GithubActionsConfig) (fromSlice : List UInt8 → Option JwksDocument)

def jwksTtl : Nat := Duration.fromSecs actions.jwksTtlSeconds

/-- The next step of the call `c`: what is shared, and where the call is then. -/
def stepJwks (c : Nat) (s : JwksShared) : JwksPc → JwksIn → Option (JwksShared × JwksPc)
  | .entered kid, .go => some (s, match s.cache.cachedJwk s.now kid (jwksTtl actions) with
    | some key => .done kid (some (.ok key))
    | none => .missed kid)
  | .entered kid, .cancel => some (s, .done kid none)
  | .missed kid, .go => match s.holder with
    | none => some ({ s with holder := some c }, .locked kid)
    | some _ => none
  | .missed kid, .cancel => some (s, .done kid none)
  | .locked kid, .go => some (s, match s.cache.cachedJwk s.now kid (jwksTtl actions) with
    | some key => .dropping kid (some (.ok key))
    | none => .attempting kid)
  | .locked kid, .cancel => some (s, .dropping kid none)
  | .attempting kid, .attempt d =>
    let (allowed, cache) := s.cache.mayFetch s.now (s.now + d)
    some ({ s with now := s.now + d, cache }, if allowed then .fetching kid else .reading kid)
  | .attempting kid, .cancel => some (s, .dropping kid none)
  | .fetching kid, .reply reply => some (s, match fetchJwks fromSlice reply with
    | .ok keys => .installing kid reply keys
    | .error _ => .reading kid)
  | .fetching kid, .cancel => some (s, .dropping kid none)
  | .installing kid _ keys, .go =>
    some ({ s with cache := { s.cache with keys, fetchedAt := some s.now } }, .reading kid)
  | .installing kid _ _, .cancel => some (s, .dropping kid none)
  | .reading kid, .go => some (s, .dropping kid (some (s.cache.jwk s.now kid (jwksTtl actions))))
  | .reading kid, .cancel => some (s, .dropping kid none)
  | .dropping kid result, .go => some ({ s with holder := none }, .done kid result)
  | _, _ => none

end Calls

structure JwksSt where
  shared : JwksShared
  calls : Nat → JwksPc

inductive JwksAct where
  | start (c : Nat) (kid : String)
  | call (c : Nat) (input : JwksIn)
  | tick (d : Nat)

/-- The state of a new server: no call, and nothing fetched. -/
def JwksSt.new (now : Int) : JwksSt where
  shared := { now, cache := ⟨none, none, Map.empty⟩, holder := none }
  calls _ := .idle

/-- All interleavings of calls of `jwk_for`. -/
def jwksSys (actions : GithubActionsConfig) (fromSlice : List UInt8 → Option JwksDocument) :
    Sys JwksSt JwksAct where
  init s := ∃ now, s = .new now
  step s
    | .start c kid => match s.calls c with
      | .idle => some { s with calls := Function.update s.calls c (.entered kid) }
      | _ => none
    | .call c input => (stepJwks actions fromSlice c s.shared (s.calls c) input).map
        fun (shared, pc) => ⟨shared, Function.update s.calls c pc⟩
    | .tick d => some { s with shared := { s.shared with now := s.shared.now + d } }

end MicrotunSigner
