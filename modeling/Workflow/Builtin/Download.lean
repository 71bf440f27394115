import Workflow.Builtin.Control

/-!
# The command for downloads

A download asks for an address until there is an answer that can be used or no attempt is left,
and then writes the file.  Before every request it looks whether the run was cancelled, since
that can happen while it waits.
-/

namespace Workflow

/-- The scene after a call to the network was waited for. -/
def Scene.awaited (scene : Scene) : Scene :=
  let network := scene.files.network
  { scene with
    files := { scene.files with network := network.next }
    cancelled := scene.cancelled || network.interrupts network.calls }

namespace Builtin

namespace WebGet

/-- The largest number of extra attempts. -/
def maxRetries : Int := 10

def definition : Definition where
  name := "WebGet"
  description := "Download a URL to a file"
  parameters :=
    [{ name := "URI", type := .url, required := true },
     { name := "OutputFile", type := .outputFile, required := true },
     { name := "RetryCount", type := .integer, fallback := some "0",
       description := some "Extra attempts after a failed request" }]

/-- The problem with a number of attempts that is out of range. -/
def problems (parameters : ParameterSet) : List Problem :=
  match ParameterSet.integer? parameters "RetryCount" with
  | some count =>
      if 0 ≤ count ∧ count ≤ maxRetries then []
      else
        [⟨some "RetryCount", s!"RetryCount {count} is out of range",
          s!"Specify a RetryCount from 0 to {maxRetries}"⟩]
  | none => []

/-- The number of extra attempts; one below zero allows none. -/
def retries (parameters : ParameterSet) : Nat :=
  ((ParameterSet.integer? parameters "RetryCount").getD 0).toNat

/-- The set-up of a client at the next call. -/
def connect (network : Network) : Except Error Unit :=
  match network.refusal? network.calls with
  | some reason => .error (.download (.noResponse reason))
  | none => .ok ()

/-- The bytes in a reply about an address, if its status stands for success. -/
def content (address : String) : Network.Reply → Except Error ByteArray
  | .silence reason => .error (.download (.noResponse reason))
  | .response status body =>
      if 200 ≤ status ∧ status < 300 then
        body.mapError fun reason => .download (.noResponse reason)
      else .error (.download (.badStatus address status))

/-- What the next call for an address brings. -/
def request (address : String) (network : Network) : Except Error ByteArray :=
  content address (network.reply network.calls address)

/-- Requests for an address until one succeeds, with the bytes and the number of requests that
failed before.  After a failure there are as many attempts as are left. -/
def fetch (address : String) : (left failed : Nat) → Scene →
    Scene × Except Error (ByteArray × Nat)
  | left, failed, scene =>
      if scene.cancelled then (scene, .error .cancelled)
      else
        match request address scene.files.network, left with
        | .ok bytes, _ => (scene.awaited, .ok (bytes, failed))
        | .error _, left + 1 => fetch address left (failed + 1) scene.awaited
        | .error error, 0 => (scene.awaited, .error error)

/-- The bytes that were fetched are written, and if requests failed before, their number is told. -/
def save (address : String) (path : FilePath) (scene : Scene) : ByteArray × Nat → Performance
  | (bytes, failed) =>
      .attempt scene ((scene.files.write path bytes).mapError (.file .download path)) fun files =>
        let scene := { scene with files := files }
        .done <|
          if 0 < failed then scene.inform s!"Downloaded `{address}` after {failed + 1} attempts"
          else scene

/-- A client is set up, the address is asked for, and what comes back is saved. -/
def download (address : String) (path : FilePath) (retries : Nat) (scene : Scene) : Performance :=
  .attempt scene.awaited (connect scene.files.network) fun _ =>
    let fetched := fetch address retries 0 scene.awaited
    .attempt fetched.1 fetched.2 (save address path fetched.1)

/-- The file is downloaded. -/
def perform : Action := fun _ parameters scene =>
  .attempt scene (ParameterSet.text parameters "URI") fun address =>
    .attempt scene (ParameterSet.path parameters "OutputFile") fun path =>
      download address path (retries parameters) scene

end WebGet

def downloads : List Registration := [⟨WebGet.definition, .action WebGet.problems WebGet.perform⟩]

end Builtin

end Workflow
