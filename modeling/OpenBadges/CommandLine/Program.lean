import OpenBadges.App
import OpenBadges.CommandLine.Arguments
import OpenBadges.Http.Client

/-!
# The command line program

Fetches collections and prints them as one object. While that goes on a reader hears
of failures. A command that has heard of some fails if its collections do not all exist
in the end, and says what the last failure was; else there is a warning in the log.
-/

namespace OpenBadges.CommandLine

/-- How the program ends. -/
structure Ending where
  code : Nat
  output : String := ""
  /-- What it complains about. -/
  complaint : Option String := none
deriving DecidableEq, Repr

namespace Ending

def success (output : String) : Ending := { code := 0, output := output }

def failure (complaint : String) : Ending := { code := 1, complaint := some complaint }

/-- The command line makes no sense. -/
def usage : Ending := { code := 2 }

end Ending

/-- The action that a command starts with. -/
def Command.action : Command → Action
  | fetch keys => .apiFetchCollections keys
  | get path collection => .apiGetData (RequestContext.get path collection).replacing
  | watch keys => .apiFetchCollections keys

/-- The collections that a command prints. -/
def Command.keys : Command → List String
  | fetch keys => keys
  | get _ collection => [collection]
  | watch keys => keys

/-- Collections as one object. -/
def collectionsJson (s : CollectionStore) (keys : List String) : Json :=
  .ofFields (keys.map fun key => (key, .arr (s.items key)))

/-- What a command comes to. -/
inductive Conclusion where
  /-- The collections are there. -/
  | complete (collections : Json)
  /-- The collections are there although requests have failed, of which the log warns. -/
  | warned (reason : String) (collections : Json)
  | failed (reason : String)

/-- What a command comes to, given the collections and the failures it has heard of. -/
def conclude (s : CollectionStore) (failures : List EventName) (keys : List String) : Conclusion :=
  if failures.isEmpty then .complete (collectionsJson s keys)
  else
    let reason := (s.lastFailure.map (·.content)).getD "request failed"
    if s.hasAll keys then .warned reason (collectionsJson s keys) else .failed reason

namespace Command

/-- The reader that hears of failures while a command is carried out. -/
def failureReader : String := "failures"

/-- An application that is to carry a command out. -/
def begin {ω : Type} (c : Command) (app : App ω) : App ω :=
  (app.withAudience (·.subscribe failureReader Event.apiStoreFailure)).queue c.action

/-- What a command has come to when nothing is left to do. -/
def conclusion (c : Command) (s : Stores) (audience : Audience) : Conclusion :=
  conclude s.collections (((audience.drain? failureReader).map (·.1)).getD []) c.keys

/-- Carries a command out. -/
def run {ω : Type} (c : Command) (send : Transport ω) (world : ω) : Conclusion × ω :=
  match App.new {} world with
  | .error e => (.failed e.message, world)
  | .ok app =>
    let (_, app) := (c.begin app).run send
    (c.conclusion app.stores app.loop.audience, app.world)

end Command

/-- How the program ends when its command has come to this. -/
def Ending.ofConclusion : Conclusion → Ending
  | .complete collections | .warned _ collections => .success (collections.pretty ++ "\n")
  | .failed reason => .failure reason

/-- The configuration to use: options win over what the file says. -/
def Options.configure (o : Options) (file : ClientConfig) : ClientConfig :=
  { file with
    baseUrl := o.baseUrl.getD ({} : ClientConfig).baseUrl
    csrfToken := o.csrfToken.or file.csrfToken }

/-- Reads the configuration that the options name. -/
def Options.load (o : Options) (fileText : String → Option String) :
    Except String ClientConfig :=
  match o.config with
  | none => .ok {}
  | some path =>
    match fileText path with
    | none => .error s!"Failed to read {path}"
    | some text =>
      match (Json.parseDocument? text).bind ClientConfig.decode with
      | some config => .ok config
      | none => .error "Invalid client configuration"

def program {ν : Type} (network : Http.Network ν) (world : ν) (env : String → Option String)
    (fileText : String → Option String) (words : List String) : Ending × ν :=
  match read env words with
  | .help => (.success "", world)
  | .usage => (.usage, world)
  | .run options command =>
    match options.load fileText with
    | .error complaint => (.failure complaint, world)
    | .ok file =>
      match Http.Client.new (options.configure file) with
      | .error _ => (.failure "Failed to build client", world)
      | .ok client =>
        let (conclusion, _, world) := command.run (Http.Client.send network) (client, world)
        (.ofConclusion conclusion, world)

end OpenBadges.CommandLine
