import JsonSeek.Search.Run
import JsonSeek.Settings.Session

/-!
# Sessions of searches

In a session the surroundings change, settings are loaded, kept and forgotten, requests are
completed and searches are run, one step after the other. Completing a request needs the settings of
the session, but only once its mode is known to be one.
-/

namespace JsonSeek.Search

open Settings (Session)

/-- Something done in a session. A request stands beside the name of its mode. -/
inductive Step
  | setVariable (name : String) (value : Option String)
  | setFile (path : String) (content : Option (List UInt8))
  | load
  | get
  | reset
  | complete (mode : String) (request : Request)
  | search (mode : String) (request : Request) (document : Value)

/-- Why a step has no answer. -/
inductive StepFault
  | unknownMode (name : String)
  | settings (fault : Settings.Fault)
  | search (fault : Fault)

/-- What a step answers. -/
inductive Answer
  | done
  | settings (settings : Settings)
  | options (options : Options)
  | response (response : Response)

/-- The settings of a session as an answer. -/
def settingsAnswer (loaded : Except Settings.Fault Settings) : Except StepFault Answer :=
  (loaded.mapError .settings).map .settings

/-- Completes a request in the mode of the given name from the settings of a session. -/
def completeIn (s : Session) (mode : String) (request : Request) :
    Except StepFault Options × Session :=
  match Mode.ofName? mode with
  | none => (.error (.unknownMode mode), s)
  | some mode =>
    let (settings, s) := s.get
    ((settings.mapError .settings).map fun settings => { request with mode }.fill settings, s)

/-- Takes a step in a session. -/
def Step.run (s : Session) : Step → Except StepFault Answer × Session
  | setVariable name value =>
    (.ok .done, { s with surroundings := s.surroundings.setVariable name value })
  | setFile path content =>
    (.ok .done, { s with surroundings := s.surroundings.setFile path content })
  | load => (settingsAnswer s.surroundings.load, s)
  | get =>
    let (settings, s) := s.get
    (settingsAnswer settings, s)
  | reset => (.ok .done, s.reset)
  | complete mode request =>
    let (options, s) := completeIn s mode request
    (options.map .options, s)
  | search mode request document =>
    let (options, s) := completeIn s mode request
    (options.bind fun o => ((Search.search o document).mapError .search).map .response, s)

/-- The session after some steps. -/
def sessionAfter (s : Session) (steps : List Step) : Session :=
  steps.foldl (fun s step => (step.run s).2) s

/-- What the steps of a session answer, one after the other. -/
def answers (s : Session) : List Step → List (Except StepFault Answer)
  | [] => []
  | step :: rest => (step.run s).1 :: answers (step.run s).2 rest

end JsonSeek.Search
