import CallGraph.Explanation
import CallGraph.Text.Affix
import CallGraph.Url

/-!
# Trace endpoints

Traces go to a URL. Collectors take them under a path of their own, so a URL without a path, or
with the path for logs, is completed.

* `Endpoint.ofText` gives the address that traces are sent to.
* `Endpoint.isAddress` tells whether a client can be made for an address.
-/

namespace CallGraph

/-- Why traces cannot be sent. -/
inductive EndpointError
  | malformed
  | notAnAddress
deriving DecidableEq, Repr

/-- The wording of the cause. -/
def EndpointError.explanation : EndpointError → Explanation
  | malformed => (Explanation.ofSource .url).within "parse OTLP endpoint"
  | notAnAddress => (Explanation.ofSource .url).within "build OTLP span exporter"

/-- The path for traces in place of none or of the one for logs. -/
def UrlPath.forTraces : UrlPath → UrlPath
  | segments [""] => segments ["v1", "traces"]
  | segments names =>
    match names.reverse with
    | "logs" :: "v1" :: rest => segments (rest.reverse ++ ["v1", "traces"])
    | _ => segments names
  | plain text =>
    match Text.before? "/v1/logs" text with
    | some rest => plain (rest ++ "/v1/traces")
    | none => plain text

namespace Endpoint

/-- The address that traces are sent to. -/
def ofText (s : String) : Except EndpointError String :=
  match Url.parse? s with
  | none => .error .malformed
  | some url => .ok { url with path := url.path.forTraces }.text

/-! ## Addresses -/

/-- What has been seen of an authority. -/
structure AuthorityScan where
  /-- Colons that may precede a port. -/
  colons : Nat := 0
  opened : Bool := false
  closed : Bool := false
  /-- A percent sign outside the user. -/
  hasPercent : Bool := false
  /-- The last character is an at sign. -/
  endsAtUser : Bool := false

/-- Reads one character of an authority; some cannot stand there. -/
def AuthorityScan.step (s : AuthorityScan) (c : Char) : Option AuthorityScan :=
  let s := { s with endsAtUser := false }
  if c = ':' then if 8 ≤ s.colons then none else some { s with colons := s.colons + 1 }
  else if c = '[' then if s.hasPercent ∨ s.opened then none else some { s with opened := true }
  else if c = ']' then
    if ¬s.opened ∨ s.closed then none
    else some { s with closed := true, colons := 0, hasPercent := false }
  else if c = '@' then some { s with endsAtUser := true, colons := 0, hasPercent := false }
  else if c = '%' then some { s with hasPercent := true }
  else if c.isAlphanum ∨ "!$&'()*+,-.;=_~".toList.contains c then some s
  else none

/-- An authority is well formed: brackets are in pairs, at most one colon precedes a port, and the
host is not empty after a user. -/
def isAuthority (cs : List Char) : Bool :=
  match cs.foldlM AuthorityScan.step {} with
  | none => false
  | some s => s.opened = s.closed && s.colons ≤ 1 && !s.endsAtUser && !s.hasPercent

/-- The greatest number of bytes in an address. -/
def addressLimit : Nat := 65534

/-- The greatest number of characters in the scheme of an address. -/
def schemeLimit : Nat := 64

/-- The scheme, and what follows its colon and two slashes, if there is a scheme. -/
def splitScheme? (cs : List Char) : Option (List Char × List Char) :=
  match cs.span fun c => c.isAlphanum || ['+', '-', '.'].contains c with
  | (scheme, ':' :: '/' :: '/' :: rest) => some (scheme, rest)
  | _ => none

/-- A client can be made for an address that has a scheme and an authority, and for an authority
alone. -/
def isAddress (s : String) : Bool :=
  if addressLimit < s.utf8ByteSize then false
  else
    match splitScheme? s.toList with
    | some (scheme, rest) =>
      let authority := rest.takeWhile fun c => !(c = '/' || c = '?' || c = '#')
      scheme.length ≤ schemeLimit && !authority.isEmpty && isAuthority authority
    | none => isAuthority s.toList

/-- The address that a client is made for. -/
def connect (s : String) : Except EndpointError String := do
  let address ← ofText s
  if isAddress address then return address else .error .notAnAddress

end Endpoint

end CallGraph
