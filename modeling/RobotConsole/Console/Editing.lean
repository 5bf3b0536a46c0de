import RobotConsole.Console.Confirmation
import RobotConsole.Editor.Normalize

/-!
# Editing

The operations that replace the buffer wait for a confirmation while there are
unsaved changes; saving and uploading never do.
-/

namespace RobotConsole
namespace Console

/-- An operation that ends in failure reports it, unless the user chose to stop. -/
def fail (c : Console) (what : String) (failure : Failure) : Console :=
  if failure.isAbort then c.say (.debug (what ++ " cancelled"))
  else c.call (.error (what ++ " failed: " ++ failure.message))

def edit (c : Console) (content : String) : Console :=
  c.update fun s => { s with editor := { s.editor with content, dirty := true } }

/-! ## Replacing the buffer -/

def title? : Guarded -> Option String
  | .nothing => none
  | .create => some "New file"
  | .openFile => some "Open"
  | .download => some "Download"

def failGuarded (c : Console) (next : Guarded) (failure : Failure) : Console × Progress :=
  let c :=
    match title? next with
    | some what => c.fail what failure
    | none => c
  (c, .finished (.error failure))

def proceed (c : Console) : Guarded -> Console × Progress
  | .nothing => (c, .finished (.ok none))
  | .create =>
      ((c.update fun s => { s with editor := {} }).say (.info "Started a new file"),
        .finished (.ok none))
  | .openFile => (c.call .openPath, .waiting .openPath)
  | .download => (c.call (.download c.settings.remote), .waiting .download)

def ask (c : Console) (next : Guarded) : Console × Progress :=
  match c.requestConfirmation with
  | (c, .ok id) => (c, .waiting (.confirmation id next))
  | (c, .error failure) => c.failGuarded next failure

def guarded (c : Console) (next : Guarded) : Console × Progress :=
  if c.state.editor.dirty then c.ask next else c.proceed next

def confirmed (c : Console) (next : Guarded) : Except Failure Unit -> Console × Progress
  | .ok () => c.proceed next
  | .error failure => c.failGuarded next failure

def pathChosen (c : Console) : Option String -> Console × Progress
  | some path => (c.call (.read path), .waiting (.readFile path))
  | none => c.failGuarded .openFile .aborted

def fileRead (c : Console) (path : String) : Except Failure String -> Console × Progress
  | .ok content =>
      ((c.say (.info ("Opened " ++ path))).update fun s =>
          { s with editor := { path := some path, content, dirty := false } },
        .finished (.ok none))
  | .error failure => c.failGuarded .openFile failure

/-- Downloaded code is not saved anywhere, so it counts as a change. -/
def downloaded (c : Console) : Except Failure String -> Console × Progress
  | .ok content =>
      let remote := c.settings.remote
      let c := c.update fun s => { s with editor := { s.editor with content, dirty := true } }
      let c := c.say (.info ("Downloaded " ++ remote.codePath ++ " from " ++ remote.host))
      (c.call (.success "Downloaded code from the robot"), .finished (.ok none))
  | .error failure => c.failGuarded .download failure

/-! ## Uploading -/

def upload (c : Console) : Console × Progress :=
  let content := c.state.editor.content
  (c.call (.upload c.settings.remote content), .waiting (.upload content))

def uploaded (c : Console) (content : String) : Except Failure Unit -> Console × Progress
  | .ok () =>
      let c := c.say (.info ("Uploaded " ++ toString content.utf8ByteSize ++ " bytes to " ++
        c.settings.remote.host))
      (c.call (.success "Uploaded code to the robot"), .finished (.ok none))
  | .error failure => (c.fail "Upload" failure, .finished (.error failure))

/-! ## Saving -/

def savedText (c : Console) (content : String) : String :=
  Editor.normalize c.settings.editor content

def write (c : Console) (purpose : SavePurpose) (path content : String) : Console × Progress :=
  (c.call (.write path (c.savedText content)), .waiting (.writeFile purpose path content))

def save (c : Console) (purpose : SavePurpose) (saveAs : Bool) : Console × Progress :=
  let editor := c.state.editor
  let known := if saveAs then none else editor.path
  match known with
  | some path => c.write purpose path editor.content
  | none =>
      (c.call (.savePath editor.path), .waiting (.savePath purpose editor.content))

/-- The end of a save. When it was to answer the dialog, the dialog gets its answer now: the
operation that waits goes on if the buffer was saved, and is given up otherwise. -/
def finishSave (c : Console) (purpose : SavePurpose) (result : Except Failure String) :
    Console × Progress :=
  match purpose, result with
  | .request, .ok path => (c, .finished (.ok (some path)))
  | .request, .error failure => (c, .finished (.error failure))
  | .answer, .ok _ => ((c.resolve .confirmed).1, .finished (.ok none))
  | .answer, .error failure => ((c.resolve .cancelled).1, .finished (.error failure))

def failSave (c : Console) (purpose : SavePurpose) (failure : Failure) : Console × Progress :=
  (c.fail "Save" failure).finishSave purpose (.error failure)

def savePathChosen (c : Console) (purpose : SavePurpose) (content : String) :
    Option String -> Console × Progress
  | some path => c.write purpose path content
  | none => c.failSave purpose .aborted

def fileWritten (c : Console) (purpose : SavePurpose) (path content : String) :
    Except Failure Unit -> Console × Progress
  | .ok () =>
      let text := c.savedText content
      let c := (c.say (.info ("Saved " ++ path))).update fun s =>
        { s with editor := s.editor.saved path content text }
      c.finishSave purpose (.ok path)
  | .error failure => c.failSave purpose failure

/-! ## Answering the dialog -/

def answerDialog (c : Console) (choice : DialogChoice) : Console × Progress :=
  let c := c.say (.debug ("Unsaved changes dialog answered: " ++ choice.title))
  match choice with
  | .discard => ((c.resolve .confirmed).1, .finished (.ok none))
  | .cancel => ((c.resolve .cancelled).1, .finished (.ok none))
  | .save => c.save .answer false

end Console
end RobotConsole
