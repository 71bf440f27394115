import Workflow.Text.Search

/-!
# The network as a value

Whether a client can be set up, what comes back for a request and whether somebody cancels the
run while it waits is not for the run to say.  A network holds an answer for every call that can
be made, in the order of the calls, together with the number of the calls that were made.  The
answers are arbitrary, so whatever is proved of every run is proved for every network.
-/

namespace Workflow

/-- What comes back for a request. -/
inductive Network.Reply where
  /-- No response came, for a reason in words. -/
  | silence (reason : String)
  /-- A response with a status; its body may break off. -/
  | response (status : UInt16) (body : Except String ByteArray)

/-- The answers to all calls, and the calls that were made. -/
structure Network where
  /-- Why a client cannot be set up at a call, if it cannot. -/
  refusal? : (call : Nat) → Option String
  /-- What comes back when an address is asked for at a call. -/
  reply : (call : Nat) → (address : String) → Network.Reply
  /-- Whether the run is cancelled from outside while a call is waited for. -/
  interrupts : (call : Nat) → Bool
  /-- The number of calls that were made. -/
  calls : Nat

namespace Network

/-- The network after one more call. -/
def next (network : Network) : Network := { network with calls := network.calls + 1 }

/-- The host in an address, with what stands between it and the path. -/
def host (address : String) : List Char :=
  match Text.splitFirst [':', '/', '/'] address.toList with
  | some (_, rest) =>
      (rest.dropWhile (· == '/')).takeWhile fun c => c != '/' && c != '?' && c != '#'
  | none => []

/-- The network of a machine without a connection.  An address without a host cannot even be
asked for, and no host is reached. -/
def offline : Network where
  refusal? _ := none
  reply _ address :=
    .silence <|
      if host address = [] then "builder error: empty host"
      else s!"error sending request for url ({address})"
  interrupts _ := false
  calls := 0

instance : Inhabited Network := ⟨offline⟩

end Network

end Workflow
