import TestImpact.Web.Http

namespace TestImpact.Web

/-- The host that a request for the URL connects to. What begins with a drive is on no host. -/
def Url.peer? (u : Url) : Option String :=
  if u.kind = .file ∧ (u.path.head?.map Url.isDriveLetter).getD false then none
  else u.host.filter (· ≠ "")

def Url.isReachable (u : Url) : Bool := u.scheme = "http" || u.scheme = "https"

/-- The last second of the clock that deadlines are read from. -/
def lastSecond : Nat := 0x7FFFFFFFFFFFFFFF

/-- Why a request is not sent at all. The clock of deadlines starts with the machine, which has run
    for `uptime` seconds. -/
def Request.obstacle? (uptime : Nat) (r : Request) : Option TransportFault :=
  if r.url.peer? = none then some .noHost
  else if lastSecond < uptime + r.timeoutSeconds.toNat then some .deadlineOutOfRange
  else if !r.url.isReachable then some .unknownScheme
  else if r.timeoutSeconds = 0 then some (.networkError "timed out reading response")
  else none

/-- Sends the requests with nothing against them, and refuses the others. No machine gets to send
    one in its first second. -/
def Http.guarded {σ : Type} (http : Http σ) (uptime : Nat := 1) : Http σ where
  send request :=
    match request.obstacle? uptime with
    | some fault => .fail fault
    | none => http.send request

end TestImpact.Web
