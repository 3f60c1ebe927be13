import MathGrammar.Diagnostic

/-! # Editing sessions

A session keeps the texts of the documents in a workspace, and the marker in force. Whenever a
document is opened, changed or saved, its problems are published anew. -/

namespace MathGrammar

/-- What can happen in a session. -/
inductive Event where
  /-- The marker is chosen, or the default is restored. -/
  | marker (value : Option Text)
  /-- A document is opened, changed or saved, perhaps with a new text. -/
  | touched (uri : String) (text : Option Text)
deriving DecidableEq, Repr

/-- The problems of a document, as published. -/
structure Notification where
  /-- The document. -/
  uri : String
  /-- Its problems. -/
  diagnostics : List Diagnostic
deriving DecidableEq, Repr

/-- Where a session keeps the texts of its documents. -/
structure Workspace where
  /-- What it holds. -/
  State : Type
  /-- What it holds before any text is stored. -/
  empty : State
  /-- The text of a document. -/
  text : State → String → Text
  /-- What it holds once a text is stored for a document. -/
  store : State → String → Text → State

/-- The workspace that lists the texts, the latest first. A document has the first text that is
listed for it, and is empty when there is none. -/
def Workspace.latestFirst : Workspace where
  State := List (String × Text)
  empty := []
  text texts uri := (texts.lookup uri).getD []
  store texts uri text := (uri, text) :: texts

/-- The state between two events. -/
structure Session (workspace : Workspace) where
  /-- The marker, when one is chosen. -/
  marker : Option Text
  /-- The texts of the documents. -/
  texts : workspace.State

namespace Session

variable {workspace : Workspace}

/-- The session in which nothing has happened. -/
def fresh (workspace : Workspace) : Session workspace := ⟨none, workspace.empty⟩

/-- The session in which nothing has happened, over a list of texts. -/
def initial : Session .latestFirst := fresh _

/-- The text of a document. -/
def text (session : Session workspace) (uri : String) : Text := workspace.text session.texts uri

/-- The session with a new text for a document, or the same session when there is none. -/
def store (session : Session workspace) (uri : String) : Option Text → Session workspace
  | none => session
  | some text => { session with texts := workspace.store session.texts uri text }

/-- The problems of a document as things stand. -/
def diagnose (session : Session workspace) (uri : String) : List Diagnostic :=
  diagnostics (session.marker.getD defaultMarker) (session.text uri)

/-- The session after an event, and what the event publishes. -/
def step (session : Session workspace) : Event → Session workspace × List Notification
  | .marker value => ({ session with marker := value }, [])
  | .touched uri text =>
    let session := session.store uri text
    (session, [⟨uri, session.diagnose uri⟩])

/-- What each of the events publishes, in order. -/
def run (session : Session workspace) : List Event → List (List Notification)
  | [] => []
  | event :: events =>
    let (next, published) := session.step event
    published :: next.run events

end Session

end MathGrammar
